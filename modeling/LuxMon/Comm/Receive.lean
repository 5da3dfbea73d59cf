import LuxMon.Framing.Stream
import LuxMon.Protocol.FindFrames

/-!
# Receiving frames from a byte stream

The receive loops of the passive and of the replay transport, turn by turn: a
chunk is added to the buffer, every frame found is emitted, and the buffer is cut
behind the last of them, whose place is looked up by its bytes.

    the first place of a frame in a run of frames                    (bytesFind_stream)
-/

namespace LuxMon

open Python Framing

/-! ## Searching a buffer -/

/-- The first position of `sub` in `data`. -/
def bytesFind (sub : Bytes) : Bytes → Option ℕ
  | [] => if sub.isEmpty then some 0 else none
  | b :: bs => if sub.isPrefixOf (b :: bs) then some 0 else (bytesFind sub bs).map (· + 1)

/-- `data.find(sub, start)`. -/
def find (data sub : Bytes) (start : ℕ) : ℤ :=
  match bytesFind sub (data.drop start) with
  | some i => start + i
  | none => -1

/-- `data[i:]`. -/
def sliceFrom (data : Bytes) (i : ℤ) : Bytes :=
  data.drop (if 0 ≤ i then i.toNat else (data.length + i).toNat)

/-! ## The loops -/

/-- `_consume_frames`: the frames to emit, and the rest of the buffer. -/
def consumeFrames (buffer : Bytes) : Except PyErr (List LuxFrame × Bytes) := do
  let frames ← findFrames buffer
  match frames.getLast? with
  | some lastFrame =>
    let lastPos := find buffer lastFrame.raw 0 + lastFrame.raw.length
    return (frames, sliceFrom buffer lastPos)
  | none => return ([], buffer)

/-- The passive transport throws away an oversized rest up to the next pair. -/
def trimOversize (buffer : Bytes) : Bytes :=
  if 8192 < buffer.length then
    let nextA1 := find buffer pair 1
    if 0 < nextA1 then sliceFrom buffer nextA1 else []
  else buffer

/-- One received chunk of the passive transport. -/
def passiveTurn (buffer chunk : Bytes) : Except PyErr (List LuxFrame × Bytes) := do
  let (frames, rest) ← consumeFrames (buffer ++ chunk)
  return (frames, trimOversize rest)

/-- One chunk of the replayed file. -/
def replayTurn (buffer chunk : Bytes) : Except PyErr (List LuxFrame × Bytes) :=
  consumeFrames (buffer ++ chunk)

/-- The frames that each turn emits. -/
def receive (turn : Bytes → Bytes → Except PyErr (List LuxFrame × Bytes)) :
    Bytes → List Bytes → Except PyErr (List (List LuxFrame))
  | _, [] => .ok []
  | buffer, chunk :: chunks => do
    let (frames, rest) ← turn buffer chunk
    let later ← receive turn rest chunks
    return frames :: later

/-- `data[offset:offset + chunk_size]` for every `offset` of `range(0, len(data), chunk_size)`. -/
def fileChunks (chunkSize : ℕ) (data : Bytes) : List Bytes :=
  (List.range ((data.length + chunkSize - 1) / chunkSize)).map fun i =>
    slice data (i * chunkSize) (i * chunkSize + chunkSize)

/-- The replay transport on a captured file. -/
def replay (chunkSize : ℕ) (data : Bytes) : Except PyErr (List (List LuxFrame)) :=
  receive replayTurn [] (fileChunks chunkSize data)

/-! ## Frames without a pair inside -/

/-- A well-formed frame of at most 8192 bytes, with the pair A1 1A at its start only. -/
structure CleanFrame extends WireFrame where
  short : bytes.length ≤ 8192
  noPair : hasPair bytes.tail = false
  deriving DecidableEq

abbrev CleanFrame.wire (f : CleanFrame) : Bytes := f.bytes

/-- The bytes of frames one after the other. -/
def stream (fs : List CleanFrame) : Bytes := concat CleanFrame.wire fs

@[simp] theorem stream_nil : stream [] = [] := rfl

@[simp] theorem stream_cons (f : CleanFrame) (fs : List CleanFrame) :
    stream (f :: fs) = f.bytes ++ stream fs := rfl

@[simp] theorem stream_append (fs gs : List CleanFrame) :
    stream (fs ++ gs) = stream fs ++ stream gs :=
  concat_append fs gs

theorem CleanFrame.long (f : CleanFrame) : 18 ≤ f.bytes.length := f.isFrame.long

theorem CleanFrame.bytes_eq (f : CleanFrame) : f.bytes = 0xA1 :: f.bytes.tail := by
  have h := f.head_append []
  rw [List.append_nil] at h
  exact (List.cons_head?_tail h).symm

theorem CleanFrame.ext_bytes {f g : CleanFrame} (h : f.bytes = g.bytes) : f = g := by
  obtain ⟨⟨fb, _⟩, _, _⟩ := f
  obtain ⟨⟨gb, _⟩, _, _⟩ := g
  obtain rfl : fb = gb := h
  rfl

theorem parsed_injective : Function.Injective fun f : CleanFrame => f.parsed := by
  intro f g h
  refine CleanFrame.ext_bytes ?_
  rw [← f.parsed_raw, ← g.parsed_raw]
  exact congrArg LuxFrame.raw h

/-! ## The scan of a run of frames -/

/-- The start of the next frame is no frame yet, and no frame begins inside it. -/
theorem scan_open {fs : List CleanFrame} {p r : Bytes} (h : p ++ r = stream fs)
    (hopen : Open CleanFrame.wire fs p) : Scan luxFormat p [] := by
  cases fs with
  | nil =>
    obtain rfl := Open.nil_of_nil h
    exact .done
  | cons f fs => exact scan_part f.noPair (hopen.prefix_of h) (hopen f rfl)

theorem scan_stream (fs : List CleanFrame) {fs' : List CleanFrame} {p r : Bytes}
    (h : p ++ r = stream fs') (hopen : Open CleanFrame.wire fs' p) :
    Scan luxFormat (stream fs ++ p) (fs.map CleanFrame.wire) := by
  have hfs : ∀ f ∈ fs, luxFormat.Complete (CleanFrame.wire f) := fun f _ => f.isFrame.complete
  have hscan := scan_received hfs (scan_open h hopen)
  rwa [List.append_nil] at hscan

theorem filterMap_frameOf (fs : List CleanFrame) :
    (fs.map CleanFrame.wire).filterMap frameOf = fs.map fun f => f.parsed := by
  rw [List.filterMap_map]
  have : frameOf ∘ CleanFrame.wire = fun f => some f.parsed := by
    funext f
    exact f.frameOf_eq
  rw [this, List.filterMap_eq_map']

theorem findFrames_stream {fs fs' : List CleanFrame} {p r : Bytes} (h : p ++ r = stream fs')
    (hopen : Open CleanFrame.wire fs' p) :
    findFrames (stream fs ++ p) = .ok (fs.map fun f => f.parsed) := by
  rw [findFrames_scan (scan_stream fs h hopen), filterMap_frameOf]

/-! ## The place of a frame -/

theorem isPrefixOf_pair {sub : Bytes} (hsub : sub.take 2 = pair) {bs : Bytes}
    (h : sub.isPrefixOf bs = true) : bs.take 2 = pair := by
  obtain ⟨t, rfl⟩ := List.isPrefixOf_iff_prefix.mp h
  have hlen : 2 ≤ sub.length := by
    have := congrArg List.length hsub
    rw [List.length_take] at this
    have h2 : pair.length = 2 := rfl
    omega
  rw [List.take_append_of_le_length hlen]
  exact hsub

/-- Nothing that begins with the pair begins inside noise. -/
theorem bytesFind_noise {sub g rest : Bytes} (hsub : sub.take 2 = pair) (hg : hasPair g = false)
    (hrest : rest.head? ≠ some 0x1A) :
    bytesFind sub (g ++ rest) = (bytesFind sub rest).map (· + g.length) := by
  induction g with
  | nil => simp
  | cons b bs ih =>
    have hno : sub.isPrefixOf (b :: (bs ++ rest)) = false := by
      by_contra hpre
      rw [Bool.not_eq_false] at hpre
      have hpair := isPrefixOf_pair hsub hpre
      cases bs with
      | nil =>
        rw [List.nil_append] at hpair
        cases rest with
        | nil => simp [pair] at hpair
        | cons c rest =>
          have hbc : b = 0xA1 ∧ c = 0x1A := by simpa [pair] using hpair
          exact hrest (by rw [hbc.2]; rfl)
      | cons c bs =>
        have hbc : b = 0xA1 ∧ c = 0x1A := by simpa [pair] using hpair
        rw [hasPair, hbc.1, hbc.2] at hg
        simp at hg
    rw [List.cons_append, bytesFind, hno, ih (hasPair_tail hg), Option.map_map]
    rfl

/-- A frame that is not the sought one is passed as a whole. -/
theorem bytesFind_frame {sub rest : Bytes} (g : CleanFrame) (hsub : sub.take 2 = pair)
    (hno : sub.isPrefixOf (g.bytes ++ rest) = false) (hrest : rest.head? ≠ some 0x1A) :
    bytesFind sub (g.bytes ++ rest) = (bytesFind sub rest).map (· + g.bytes.length) := by
  have hg := g.bytes_eq
  rw [hg, List.cons_append] at hno ⊢
  rw [bytesFind, hno, bytesFind_noise hsub g.noPair hrest, Option.map_map]
  rfl

theorem isPrefixOf_frame {f g : CleanFrame} {rest : Bytes}
    (h : f.bytes.isPrefixOf (g.bytes ++ rest) = true) : f = g := by
  obtain ⟨t, ht⟩ := List.isPrefixOf_iff_prefix.mp h
  have hf := f.long
  have hg := g.long
  have hlen : f.bytes.length = g.bytes.length := by
    calc f.bytes.length = declared f.bytes := f.isFrame.length_eq
      _ = declared (f.bytes ++ t) := (declared_append (by omega)).symm
      _ = declared (g.bytes ++ rest) := by rw [ht]
      _ = declared g.bytes := declared_append (by omega)
      _ = g.bytes.length := g.isFrame.length_eq.symm
  exact CleanFrame.ext_bytes (List.append_inj_left ht hlen)

theorem stream_head (fs : List CleanFrame) {p r : Bytes} {fs' : List CleanFrame}
    (h : p ++ r = stream fs') : (stream fs ++ p).head? ≠ some 0x1A := by
  cases fs with
  | cons f fs =>
    rw [stream_cons, List.append_assoc, f.head_append]
    decide
  | nil =>
    rw [stream_nil, List.nil_append]
    cases p with
    | nil => simp
    | cons b bs =>
      cases fs' with
      | nil => cases h
      | cons f fs' =>
        rw [stream_cons, f.bytes_eq] at h
        obtain rfl : b = 0xA1 := (List.cons.inj h).1
        simp

/-- The place of a frame in a run of frames is where it comes first. -/
theorem bytesFind_stream {fs fs' : List CleanFrame} {f : CleanFrame} {p r : Bytes} (hf : f ∈ fs)
    (h : p ++ r = stream fs') :
    bytesFind f.bytes (stream fs ++ p) = some (stream (fs.takeWhile (· ≠ f))).length := by
  induction fs with
  | nil => cases hf
  | cons g fs ih =>
    rw [stream_cons, List.append_assoc]
    by_cases hg : g = f
    · subst hg
      have hpre : g.bytes.isPrefixOf (g.bytes ++ (stream fs ++ p)) = true :=
        List.isPrefixOf_iff_prefix.mpr ⟨_, rfl⟩
      rw [List.takeWhile_cons_of_neg (by simp)]
      cases hb : g.bytes ++ (stream fs ++ p) with
      | nil =>
        have := g.long
        rw [List.append_eq_nil_iff] at hb
        rw [hb.1] at this
        simp at this
      | cons b bs =>
        rw [hb] at hpre
        rw [bytesFind, if_pos hpre]
        rfl
    · have hno : f.bytes.isPrefixOf (g.bytes ++ (stream fs ++ p)) = false := by
        by_contra hpre
        rw [Bool.not_eq_false] at hpre
        exact hg (isPrefixOf_frame hpre).symm
      have hmem : f ∈ fs := by
        rcases List.mem_cons.mp hf with rfl | hmem
        · exact absurd rfl hg
        · exact hmem
      rw [bytesFind_frame g f.isFrame.starts hno (stream_head fs h), ih hmem,
        List.takeWhile_cons_of_pos (by simpa using hg), stream_cons, List.length_append, Option.map_some,
        Nat.add_comm]

end LuxMon
