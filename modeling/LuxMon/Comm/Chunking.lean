import LuxMon.Comm.Receive

/-!
# Delivery and the cuts of the stream

A stream of clean frames arrives in chunks.  Each turn of a receive loop should
emit the frames that its chunk completes.  Because the rest of the buffer is
computed from the first place of the last frame's bytes, frames of a chunk that
lie behind an equal earlier frame stay in the buffer and are emitted again.

    replay emits each frame once ↔ the last frame of each chunk is new in it   (delivery_iff)
    passive transport: the same, but an oversized rest may be trimmed away     (delivery_iff)
-/

namespace LuxMon

open Python Framing

/-- A stream of frames cut into non-empty chunks. -/
structure Splitting (fs : List CleanFrame) where
  chunks : List Bytes
  nonempty : ∀ c ∈ chunks, c ≠ []
  flatten_eq : chunks.flatten = stream fs

/-- What a chunk completes, and how many bytes of the next frame follow. -/
structure Batch where
  frames : List CleanFrame
  pending : ℕ

/-- The batches of the chunks, with `n` bytes of `fs` received before them. -/
def batches : List CleanFrame → ℕ → List Bytes → List Batch
  | _, _, [] => []
  | fs, n, chunk :: chunks =>
    let frames := completed CleanFrame.wire fs (n + chunk.length)
    let pending := n + chunk.length - (stream frames).length
    ⟨frames, pending⟩ :: batches (fs.drop frames.length) pending chunks

def Splitting.batches {fs : List CleanFrame} (s : Splitting fs) : List Batch :=
  LuxMon.batches fs 0 s.chunks

/-- All in all the loop emits the frames of the stream, in order. -/
def Emits (turn : Bytes → Bytes → Except PyErr (List LuxFrame × Bytes)) {fs : List CleanFrame}
    (s : Splitting fs) : Prop :=
  ∃ outs, receive turn [] s.chunks = .ok outs ∧ outs.flatten = fs.map fun f => f.parsed

/-- Each turn emits the frames that its chunk completes.  The sequence alone does not
tell a frame that is emitted twice while an equal one is lost. -/
def Delivers (turn : Bytes → Bytes → Except PyErr (List LuxFrame × Bytes)) {fs : List CleanFrame}
    (s : Splitting fs) : Prop :=
  receive turn [] s.chunks = .ok (s.batches.map fun b => b.frames.map fun f => f.parsed)

/-- The last frame of the batch is equal to no earlier one of it. -/
def Batch.Fresh (b : Batch) : Prop := ∀ before f, b.frames = before ++ [f] → f ∉ before

/-- The last frame comes twice, and the repeated one is trimmed away as oversized. -/
def Batch.Trimmed (b : Batch) : Prop :=
  ∃ before f, b.frames = before ++ [f, f] ∧ f ∉ before ∧ 8192 < f.bytes.length + b.pending ∧
    2 ≤ b.pending

/-! ## One turn -/

/-- The frames behind the first place of the last one. -/
def leftover (fs : List CleanFrame) : List CleanFrame :=
  match fs.getLast? with
  | some f => (fs.dropWhile (· ≠ f)).tail
  | none => []

theorem leftover_first {pre mid : List CleanFrame} {f : CleanFrame} (hpre : f ∉ pre)
    (hlast : (pre ++ f :: mid).getLast? = some f) : leftover (pre ++ f :: mid) = mid := by
  have hpos : ∀ g ∈ pre, decide (g ≠ f) = true := fun g hg => by
    have : g ≠ f := fun h => hpre (h ▸ hg)
    simpa using this
  unfold leftover
  rw [hlast]
  show ((pre ++ f :: mid).dropWhile _).tail = mid
  rw [List.dropWhile_append_of_pos hpos, List.dropWhile_cons_of_neg (by simp), List.tail_cons]

/-- Where the last frame comes first, and what is left behind that place. -/
theorem leftover_split {fs : List CleanFrame} {f : CleanFrame} (hlast : fs.getLast? = some f) :
    ∃ pre, fs = pre ++ f :: leftover fs ∧ fs.takeWhile (· ≠ f) = pre ∧ f ∉ pre := by
  obtain ⟨pre, mid, rfl, hpre⟩ := List.eq_append_cons_of_mem (List.mem_of_getLast? hlast)
  have hpos : ∀ g ∈ pre, decide (g ≠ f) = true := fun g hg => by
    have : g ≠ f := fun h => hpre (h ▸ hg)
    simpa using this
  refine ⟨pre, ?_, ?_, hpre⟩
  · rw [leftover_first hpre hlast]
  · rw [List.takeWhile_append_of_pos hpos, List.takeWhile_cons_of_neg (by simp), List.append_nil]

theorem leftover_eq_nil_iff (b : Batch) : leftover b.frames = [] ↔ b.Fresh := by
  constructor
  · intro h before f hf
    have hlast : b.frames.getLast? = some f := by rw [hf, List.getLast?_concat]
    obtain ⟨pre, hsplit, -, hpre⟩ := leftover_split hlast
    rw [h] at hsplit
    have hbefore : before = pre := List.append_inj_left' (hf.symm.trans hsplit) rfl
    rw [hbefore]
    exact hpre
  · intro h
    cases hlast : b.frames.getLast? with
    | none =>
      unfold leftover
      rw [hlast]
    | some f =>
      obtain ⟨before, hb⟩ := List.getLast?_eq_some_iff.mp hlast
      rw [hb]
      exact leftover_first (h before f hb) (by rw [← hb, hlast])

theorem sliceFrom_append (xs ys : Bytes) : sliceFrom (xs ++ ys) xs.length = ys := by
  unfold sliceFrom
  rw [if_pos (Int.natCast_nonneg _), Int.toNat_natCast, List.drop_left]

/-- Complete frames are emitted; what is left is behind the first place of the last one. -/
theorem consumeFrames_stream {fs fs' : List CleanFrame} {p r : Bytes} (h : p ++ r = stream fs')
    (hopen : Open CleanFrame.wire fs' p) :
    consumeFrames (stream fs ++ p) =
      .ok (fs.map fun f => f.parsed, stream (leftover fs) ++ p) := by
  unfold consumeFrames
  rw [findFrames_stream h hopen, ok_bind, List.getLast?_map]
  cases hlast : fs.getLast? with
  | none =>
    obtain rfl := List.getLast?_eq_none_iff.mp hlast
    rfl
  | some f =>
    obtain ⟨pre, hsplit, htake, -⟩ := leftover_split hlast
    have hfind : find (stream fs ++ p) f.bytes 0 = (stream pre).length := by
      unfold find
      rw [List.drop_zero, bytesFind_stream (List.mem_of_getLast? hlast) h, htake]
      simp
    have hbuf : stream fs ++ p = (stream pre ++ f.bytes) ++ (stream (leftover fs) ++ p) := by
      conv_lhs => rw [hsplit]
      simp
    rw [Option.map_some]
    dsimp only
    rw [f.parsed_raw, hfind]
    have hpos : ((stream pre).length : ℤ) + (f.bytes.length : ℤ) =
        ((stream pre ++ f.bytes).length : ℤ) := by
      rw [List.length_append]
      push_cast
      rfl
    rw [hpos]
    conv_lhs => rw [hbuf, sliceFrom_append]
    rfl

/-- The next batch: what the next chunk completes, and what is then still open. -/
theorem next_batch {fs : List CleanFrame} {p chunk : Bytes} {chunks : List Bytes}
    (h : p ++ (chunk :: chunks).flatten = stream fs) :
    ∃ frames fs' p', fs = frames ++ fs' ∧ p ++ chunk = stream frames ++ p' ∧
      p' ++ chunks.flatten = stream fs' ∧ Open CleanFrame.wire fs' p' ∧
      batches fs p.length (chunk :: chunks) = ⟨frames, p'.length⟩ :: batches fs' p'.length chunks := by
  rw [List.flatten_cons, ← List.append_assoc] at h
  obtain ⟨fs', p', hfs, hb, hpr, hopen⟩ := split_stream h
  rw [List.length_append] at hfs hb
  refine ⟨_, fs', p', hfs, hb, hpr, hopen, ?_⟩
  have hpending : p.length + chunk.length -
      (stream (completed CleanFrame.wire fs (p.length + chunk.length))).length = p'.length := by
    have hlen := congrArg List.length hb
    rw [List.length_append, List.length_append] at hlen
    exact Nat.sub_eq_of_eq_add' hlen
  rw [batches, hpending]
  have hdrop : fs.drop (completed CleanFrame.wire fs (p.length + chunk.length)).length = fs' := by
    obtain ⟨frames, hframes⟩ : ∃ frames, frames = completed CleanFrame.wire fs (p.length + chunk.length) := ⟨_, rfl⟩
    rw [← hframes] at hfs ⊢
    rw [hfs, List.drop_left]
  rw [hdrop]

theorem receive_cons_iff {turn : Bytes → Bytes → Except PyErr (List LuxFrame × Bytes)}
    {buffer chunk : Bytes} {chunks : List Bytes} {frames rest} (h : turn buffer chunk = .ok (frames, rest))
    {x : List LuxFrame} {xs : List (List LuxFrame)} :
    receive turn buffer (chunk :: chunks) = .ok (x :: xs) ↔
      frames = x ∧ receive turn rest chunks = .ok xs := by
  rw [receive, h, ok_bind]
  show (receive turn rest chunks >>= fun later => pure (frames :: later)) = _ ↔ _
  cases hr : receive turn rest chunks with
  | error e =>
    constructor
    · intro hc
      cases hc
    · rintro ⟨-, hc⟩
      cases hc
  | ok later =>
    constructor
    · intro hc
      cases hc
      exact ⟨rfl, rfl⟩
    · rintro ⟨rfl, hc⟩
      cases hc
      rfl

/-! ## The replay loop -/

/-- What the replay loop emits when the frames `extra` are still in the buffer. -/
def echo : List CleanFrame → List Batch → List (List CleanFrame)
  | _, [] => []
  | extra, b :: bs => (extra ++ b.frames) :: echo (leftover (extra ++ b.frames)) bs

theorem replayTurn_stream {extra frames fs' : List CleanFrame} {p p' chunk r : Bytes}
    (hb : p ++ chunk = stream frames ++ p') (hpr : p' ++ r = stream fs') (hopen : Open CleanFrame.wire fs' p') :
    replayTurn (stream extra ++ p) chunk =
      .ok ((extra ++ frames).map fun f => f.parsed, stream (leftover (extra ++ frames)) ++ p') := by
  unfold replayTurn
  rw [List.append_assoc, hb, ← List.append_assoc, ← stream_append]
  exact consumeFrames_stream hpr hopen

theorem receive_replay (extra : List CleanFrame) {fs : List CleanFrame} {p : Bytes}
    {chunks : List Bytes}
    (h : p ++ chunks.flatten = stream fs) :
    receive replayTurn (stream extra ++ p) chunks =
      .ok ((echo extra (batches fs p.length chunks)).map fun frames => frames.map fun f => f.parsed) := by
  induction chunks generalizing fs extra p with
  | nil => rfl
  | cons chunk chunks ih =>
    obtain ⟨frames, fs', p', -, hb, hpr, hopen, hbatches⟩ := next_batch h
    rw [hbatches, echo, List.map_cons]
    exact (receive_cons_iff (replayTurn_stream hb hpr hopen)).mpr ⟨rfl, ih _ hpr⟩

theorem echo_eq_iff {extra : List CleanFrame} {bs : List Batch} :
    echo extra bs = bs.map (·.frames) ↔ (bs ≠ [] → extra = []) ∧ ∀ b ∈ bs.dropLast, b.Fresh := by
  induction bs generalizing extra with
  | nil => simp [echo]
  | cons b bs ih =>
    rw [echo, List.map_cons, List.cons.injEq, ih]
    constructor
    · rintro ⟨hextra, hnext, hrest⟩
      have hnil : extra = [] := by simpa using hextra
      subst hnil
      refine ⟨fun _ => rfl, ?_⟩
      cases bs with
      | nil => simp
      | cons c bs =>
        intro x hx
        rw [List.dropLast_cons_cons] at hx
        rcases List.mem_cons.mp hx with rfl | hx
        · exact (leftover_eq_nil_iff x).mp (hnext (by simp))
        · exact hrest x hx
    · rintro ⟨hextra, hfresh⟩
      obtain rfl := hextra (by simp)
      refine ⟨rfl, fun hne => ?_, fun x hx => ?_⟩
      · cases bs with
        | nil => exact absurd rfl hne
        | cons c bs => exact (leftover_eq_nil_iff b).mpr (hfresh b (by simp))
      · cases bs with
        | nil => simp at hx
        | cons c bs => exact hfresh x (by rw [List.dropLast_cons_cons]; exact List.mem_cons_of_mem b hx)

theorem le_length_echo (extra : List CleanFrame) (bs : List Batch) :
    (bs.map (·.frames)).flatten.length ≤ (echo extra bs).flatten.length := by
  induction bs generalizing extra with
  | nil => exact le_rfl
  | cons b bs ih =>
    have hrest := ih (leftover (extra ++ b.frames))
    rw [echo, List.map_cons, List.flatten_cons, List.flatten_cons, List.length_append,
      List.length_append, List.length_append]
    omega

/-- The loop never loses a frame, so it is right as soon as it emits no frame too many. -/
theorem echo_eq_of_length {extra : List CleanFrame} {bs : List Batch}
    (h : (echo extra bs).flatten.length = (bs.map (·.frames)).flatten.length) :
    echo extra bs = bs.map (·.frames) := by
  induction bs generalizing extra with
  | nil => rfl
  | cons b bs ih =>
    have hrest := le_length_echo (leftover (extra ++ b.frames)) bs
    rw [echo, List.map_cons, List.flatten_cons, List.flatten_cons, List.length_append,
      List.length_append, List.length_append] at h
    have hextra : extra = [] := List.length_eq_zero_iff.mp (by omega)
    subst hextra
    rw [echo, List.map_cons, ih (by omega), List.nil_append]

theorem map_parsed_injective :
    Function.Injective fun frames : List CleanFrame => frames.map fun f => f.parsed :=
  List.map_injective_iff.mpr parsed_injective

theorem replay_delivers_iff {fs : List CleanFrame} (s : Splitting fs) :
    Delivers replayTurn s ↔ ∀ b ∈ s.batches.dropLast, b.Fresh := by
  have hrun := receive_replay [] (p := []) s.flatten_eq
  unfold Delivers
  rw [show receive replayTurn [] s.chunks = _ from hrun, Except.ok.injEq]
  have hmap : (s.batches.map fun b => b.frames.map fun f => f.parsed) =
      (s.batches.map (·.frames)).map fun frames => frames.map fun f => f.parsed := by
    rw [List.map_map]
    rfl
  rw [hmap, (List.map_injective_iff.mpr map_parsed_injective).eq_iff]
  show echo [] s.batches = _ ↔ _
  rw [echo_eq_iff]
  simp

/-! ## The passive loop -/

theorem passiveTurn_stream (extra : List CleanFrame) {frames fs' : List CleanFrame}
    {p p' chunk r : Bytes}
    (hb : p ++ chunk = stream frames ++ p') (hpr : p' ++ r = stream fs') (hopen : Open CleanFrame.wire fs' p') :
    passiveTurn (stream extra ++ p) chunk =
      .ok ((extra ++ frames).map fun f => f.parsed,
        trimOversize (stream (leftover (extra ++ frames)) ++ p')) := by
  unfold passiveTurn
  rw [List.append_assoc, hb, ← List.append_assoc, ← stream_append, consumeFrames_stream hpr hopen]
  rfl

theorem trimOversize_short {buffer : Bytes} (h : buffer.length ≤ 8192) :
    trimOversize buffer = buffer := by
  unfold trimOversize
  rw [if_neg (by omega)]

/-- An oversized rest is cut at the first pair behind its first frame. -/
theorem trimOversize_frame {d : CleanFrame} {rest : Bytes} (hrest : rest.head? ≠ some 0x1A)
    (hlong : 8192 < (d.bytes ++ rest).length) :
    trimOversize (d.bytes ++ rest) =
      match bytesFind pair rest with
      | some i => rest.drop i
      | none => [] := by
  have hdrop : (d.bytes ++ rest).drop 1 = d.bytes.tail ++ rest := by
    conv_lhs => rw [d.bytes_eq]
    rfl
  have hlen : d.bytes.length = d.bytes.tail.length + 1 := by
    conv_lhs => rw [d.bytes_eq]
    rfl
  have hfind : find (d.bytes ++ rest) pair 1 =
      match bytesFind pair rest with
      | some i => ((d.bytes.length + i : ℕ) : ℤ)
      | none => -1 := by
    unfold find
    rw [hdrop, bytesFind_noise rfl d.noPair hrest]
    cases bytesFind pair rest with
    | none => rfl
    | some i =>
      rw [Option.map_some, hlen]
      push_cast
      ring
  unfold trimOversize
  rw [if_pos hlong]
  dsimp only
  rw [hfind]
  cases bytesFind pair rest with
  | none => rfl
  | some i =>
    have hpos : (0 : ℤ) < ((d.bytes.length + i : ℕ) : ℤ) := by
      have := d.long
      omega
    dsimp only
    rw [if_pos hpos, sliceFrom, if_pos hpos.le, Int.toNat_natCast, ← List.drop_drop, List.drop_left]

theorem bytesFind_front {rest : Bytes} (h : rest.take 2 = pair) : bytesFind pair rest = some 0 := by
  cases rest with
  | nil => cases h
  | cons b bs =>
    have hpre : pair.isPrefixOf (b :: bs) = true := by
      rw [List.isPrefixOf_iff_prefix, ← h]
      exact List.take_prefix 2 (b :: bs)
    rw [bytesFind, if_pos hpre]

theorem bytesFind_short {rest : Bytes} (h : rest.length ≤ 1) : bytesFind pair rest = none := by
  match rest, h with
  | [], _ => rfl
  | [b], _ => simp [bytesFind, pair, List.isPrefixOf]

/-- Two bytes of the next frame show its pair. -/
theorem open_pair {fs : List CleanFrame} {p r : Bytes} (h : p ++ r = stream fs)
    (hopen : Open CleanFrame.wire fs p) (hp : 2 ≤ p.length) : p.take 2 = pair := by
  cases fs with
  | nil =>
    obtain ⟨rfl, -⟩ := List.append_eq_nil_iff.mp h
    simp at hp
  | cons f fs =>
    obtain ⟨q, hq⟩ : p <+: f.bytes := hopen.prefix_of h
    have := f.isFrame.starts
    rwa [← hq, List.take_append_of_le_length hp] at this

theorem open_short {fs : List CleanFrame} {p r : Bytes} (h : p ++ r = stream fs)
    (hopen : Open CleanFrame.wire fs p) : p.length ≤ 8191 := by
  cases fs with
  | nil =>
    obtain rfl := Open.nil_of_nil h
    simp
  | cons f fs =>
    have hlt : p.length < f.bytes.length := hopen f rfl
    have := f.short
    omega

/-- Trimmed away is one repeated frame that makes the buffer too long, when the pair of the next
frame is already there. -/
theorem trimmed_iff (b : Batch) :
    b.Trimmed ↔ ∃ d, leftover b.frames = [d] ∧ 8192 < d.bytes.length + b.pending ∧ 2 ≤ b.pending := by
  constructor
  · rintro ⟨before, d, hb, hbefore, hlong, hpending⟩
    refine ⟨d, ?_, hlong, hpending⟩
    rw [hb]
    refine leftover_first hbefore ?_
    rw [show before ++ [d, d] = (before ++ [d]) ++ [d] by simp, List.getLast?_concat]
  · rintro ⟨d, hleft, hlong, hpending⟩
    cases hlast : b.frames.getLast? with
    | none =>
      unfold leftover at hleft
      rw [hlast] at hleft
      cases hleft
    | some f =>
      obtain ⟨pre, hsplit, -, hpre⟩ := leftover_split hlast
      rw [hleft] at hsplit
      have hfd : f = d := by
        rw [hsplit, show pre ++ [f, d] = (pre ++ [f]) ++ [d] by simp, List.getLast?_concat] at hlast
        exact (Option.some.inj hlast).symm
      rw [hfd] at hsplit hpre
      exact ⟨pre, d, hsplit, hpre, hlong, hpending⟩

/-- What the passive loop keeps after a turn: the open rest, or repeated frames before
it, or nothing although the next frame had begun. -/
theorem passive_rest {b : Batch} {fs : List CleanFrame} {p r : Bytes} (h : p ++ r = stream fs)
    (hopen : Open CleanFrame.wire fs p) (hp : b.pending = p.length) :
    (b.Fresh ∨ b.Trimmed) ∧ trimOversize (stream (leftover b.frames) ++ p) = p ∨
    ¬ (b.Fresh ∨ b.Trimmed) ∧
      ((∃ extra, extra ≠ [] ∧ trimOversize (stream (leftover b.frames) ++ p) = stream extra ++ p) ∨
        trimOversize (stream (leftover b.frames) ++ p) = [] ∧ p.length = 1) := by
  have hshort := open_short h hopen
  cases hleft : leftover b.frames with
  | nil =>
    refine Or.inl ⟨Or.inl ((leftover_eq_nil_iff b).mp hleft), ?_⟩
    exact trimOversize_short (by rw [stream_nil, List.nil_append]; omega)
  | cons d extra =>
    have htrimmed : b.Trimmed ↔ extra = [] ∧ 8192 < d.bytes.length + p.length ∧ 2 ≤ p.length := by
      simp only [trimmed_iff, hleft, hp, List.cons.injEq, and_assoc, exists_eq_left']
    have hneither : ¬ (extra = [] ∧ 8192 < d.bytes.length + p.length ∧ 2 ≤ p.length) → ¬ (b.Fresh ∨ b.Trimmed) := by
      rintro hno (hfresh | ht)
      · cases hleft.symm.trans ((leftover_eq_nil_iff b).mpr hfresh)
      · exact hno (htrimmed.mp ht)
    by_cases hlong : 8192 < (stream (d :: extra) ++ p).length
    · rw [stream_cons, List.append_assoc] at hlong ⊢
      rw [trimOversize_frame (stream_head extra h) hlong]
      cases extra with
      | cons e extra =>
        have hfront : (stream (e :: extra) ++ p).take 2 = pair := by
          have := e.long
          rw [stream_cons, List.append_assoc, List.take_append_of_le_length (by omega)]
          exact e.isFrame.starts
        rw [bytesFind_front hfront]
        exact Or.inr ⟨hneither (by simp), Or.inl ⟨e :: extra, by simp, rfl⟩⟩
      | nil =>
        rw [stream_nil, List.nil_append] at hlong ⊢
        rw [List.length_append] at hlong
        by_cases htwo : 2 ≤ p.length
        · rw [bytesFind_front (open_pair h hopen htwo)]
          exact Or.inl ⟨Or.inr (htrimmed.mpr ⟨rfl, hlong, htwo⟩), rfl⟩
        · have hd := d.short
          rw [bytesFind_short (by omega)]
          exact Or.inr ⟨hneither (by omega), Or.inr ⟨rfl, by omega⟩⟩
    · rw [trimOversize_short (by omega)]
      refine Or.inr ⟨hneither ?_, Or.inl ⟨d :: extra, by simp, rfl⟩⟩
      rintro ⟨rfl, hlong', -⟩
      rw [stream_cons, stream_nil, List.append_nil, List.length_append] at hlong
      exact hlong hlong'

/-- The emissions that deliver the batches. -/
def emissions (bs : List Batch) : List (List LuxFrame) :=
  bs.map fun b => b.frames.map fun f => f.parsed

/-- Repeated frames in the buffer are emitted once more. -/
theorem passive_repeats {fs extra : List CleanFrame} {p chunk : Bytes} {chunks : List Bytes}
    (h : p ++ (chunk :: chunks).flatten = stream fs) (hextra : extra ≠ []) :
    receive passiveTurn (stream extra ++ p) (chunk :: chunks) ≠
      .ok (emissions (batches fs p.length (chunk :: chunks))) := by
  obtain ⟨frames, fs', p', -, hb, hpr, hopen, hbatches⟩ := next_batch h
  intro hrun
  rw [hbatches, emissions, List.map_cons] at hrun
  have hfirst := ((receive_cons_iff (passiveTurn_stream extra hb hpr hopen)).mp hrun).1
  have hlen := congrArg List.length hfirst
  rw [List.length_map, List.length_map, List.length_append] at hlen
  have := List.length_pos_iff.mpr hextra
  simp only at hlen
  omega

/-- The bytes of a frame behind its first one are noise. -/
theorem passiveTurn_noise {f : CleanFrame} {buffer chunk : Bytes} (h : 0xA1 :: (buffer ++ chunk) <+: f.bytes) :
    passiveTurn buffer chunk = .ok ([], buffer ++ chunk) := by
  have hlt := h.length_le
  have hf := f.short
  obtain ⟨q, hq⟩ := h
  have hnoise : hasPair (buffer ++ chunk) = false := by
    have htail := f.noPair
    rw [← hq, List.cons_append, List.tail_cons] at htail
    exact hasPair_append_left htail
  unfold passiveTurn consumeFrames
  rw [findFrames_scan (scan_noise_end hnoise)]
  show Except.ok ([], trimOversize (buffer ++ chunk)) = _
  rw [List.length_cons] at hlt
  rw [trimOversize_short (by omega)]

/-- A frame without its first byte is passed over. -/
theorem passiveTurn_lost {f : CleanFrame} {frames fs : List CleanFrame} {buffer chunk p r : Bytes}
    (h : (0xA1 :: buffer) ++ chunk = stream (f :: frames) ++ p) (hpr : p ++ r = stream fs)
    (hopen : Open CleanFrame.wire fs p) :
    ∃ rest, passiveTurn buffer chunk = .ok (frames.map fun g => g.parsed, rest) := by
  have hbuf : buffer ++ chunk = f.bytes.tail ++ (stream frames ++ p) := by
    rw [stream_cons, f.bytes_eq] at h
    simpa using h
  have hscan := scan_noise f.noPair (stream_head frames hpr) (scan_stream frames hpr hopen)
  have hfound : findFrames (buffer ++ chunk) = .ok (frames.map fun g => g.parsed) := by
    rw [hbuf, ← filterMap_frameOf]
    exact findFrames_scan hscan
  unfold passiveTurn consumeFrames
  rw [hfound, ok_bind]
  cases hlast : (frames.map fun g => g.parsed).getLast? with
  | none => exact ⟨_, by rw [List.getLast?_eq_none_iff.mp hlast]; rfl⟩
  | some last => exact ⟨_, rfl⟩

/-- Without its first byte the next frame is never found. -/
theorem passive_lost {fs : List CleanFrame} {f : CleanFrame} {buffer : Bytes} {chunks : List Bytes}
    (h : (0xA1 :: buffer) ++ chunks.flatten = stream (f :: fs))
    (hlt : (0xA1 :: buffer).length < f.bytes.length) :
    receive passiveTurn buffer chunks ≠
      .ok (emissions (batches (f :: fs) (0xA1 :: buffer).length chunks)) := by
  induction chunks generalizing buffer with
  | nil =>
    have hlen := congrArg List.length h
    rw [stream_cons, List.flatten_nil, List.append_nil, List.length_append] at hlen
    omega
  | cons chunk chunks ih =>
    obtain ⟨frames, fs', p', hfs, hb, hpr, hopen, hbatches⟩ := next_batch h
    rw [hbatches]
    intro hrun
    cases frames with
    | nil =>
      -- the frame is still not complete: its bytes stay in the buffer as noise
      obtain rfl : f :: fs = fs' := hfs
      obtain rfl : p' = 0xA1 :: (buffer ++ chunk) := hb.symm
      have hturn := passiveTurn_noise (hopen.prefix_of hpr)
      exact ih hpr (hopen f rfl) ((receive_cons_iff hturn).mp hrun).2
    | cons g frames =>
      -- the chunk completes the frame, which is not found
      obtain ⟨rfl, -⟩ := List.cons.inj hfs
      obtain ⟨rest, hturn⟩ := passiveTurn_lost hb hpr hopen
      rw [emissions, List.map_cons] at hrun
      have hfirst := ((receive_cons_iff hturn).mp hrun).1
      have hlen := congrArg List.length hfirst
      rw [List.length_map, List.length_map, List.length_cons] at hlen
      omega

theorem receive_passive_iff {fs : List CleanFrame} {p : Bytes} {chunks : List Bytes}
    (h : p ++ chunks.flatten = stream fs) :
    receive passiveTurn p chunks = .ok (emissions (batches fs p.length chunks)) ↔
      ∀ b ∈ (batches fs p.length chunks).dropLast, b.Fresh ∨ b.Trimmed := by
  induction chunks generalizing fs p with
  | nil => simp [receive, emissions, batches]
  | cons chunk chunks ih =>
    obtain ⟨frames, fs', p', -, hb, hpr, hopen, hbatches⟩ := next_batch h
    have hturn := passiveTurn_stream [] hb hpr hopen
    rw [stream_nil, List.nil_append, List.nil_append] at hturn
    rw [hbatches]
    refine ((receive_cons_iff hturn).trans (and_iff_right rfl)).trans ?_
    cases chunks with
    | nil => simp [receive, batches]
    | cons chunk' chunks =>
      have hlast : ∃ c cs, batches fs' p'.length (chunk' :: chunks) = c :: cs := ⟨_, _, rfl⟩
      obtain ⟨c, cs, hcs⟩ := hlast
      have hsplit : (∀ b ∈ (⟨frames, p'.length⟩ :: batches fs' p'.length (chunk' :: chunks)).dropLast,
          b.Fresh ∨ b.Trimmed) ↔
          (Batch.Fresh ⟨frames, p'.length⟩ ∨ Batch.Trimmed ⟨frames, p'.length⟩) ∧
          ∀ b ∈ (batches fs' p'.length (chunk' :: chunks)).dropLast, b.Fresh ∨ b.Trimmed := by
        rw [hcs, List.dropLast_cons_cons, List.forall_mem_cons]
      rw [hsplit]
      rcases passive_rest (b := ⟨frames, p'.length⟩) hpr hopen rfl with
        ⟨hgood, hrest⟩ | ⟨hbad, ⟨extra, hextra, hrest⟩ | ⟨hrest, hone⟩⟩
      · rw [hrest]
        exact (ih hpr).trans (and_iff_right hgood).symm
      · rw [hrest]
        exact ⟨fun hrun => absurd hrun (passive_repeats hpr hextra), fun hc => absurd hc.1 hbad⟩
      · rw [hrest]
        refine ⟨fun hrun => ?_, fun hc => absurd hc.1 hbad⟩
        exfalso
        cases fs' with
        | nil =>
          obtain ⟨rfl, -⟩ := List.append_eq_nil_iff.mp hpr
          simp at hone
        | cons f fs' =>
          have hp' : p' = [0xA1] := by
            obtain ⟨b, rfl⟩ := List.length_eq_one_iff.mp hone
            rw [stream_cons, f.bytes_eq] at hpr
            rw [(List.cons.inj (show b :: _ = 0xA1 :: _ from hpr)).1]
          rw [hp'] at hpr hrun hopen
          exact passive_lost hpr (hopen f rfl) hrun

/-! ## Both loops -/

/-- All frames together are the stream's frames. -/
theorem batches_frames {fs : List CleanFrame} {p : Bytes} {chunks : List Bytes}
    (h : p ++ chunks.flatten = stream fs) (hopen : Open CleanFrame.wire fs p) :
    (batches fs p.length chunks).flatMap (·.frames) = fs := by
  induction chunks generalizing fs p with
  | nil =>
    cases fs with
    | nil => rfl
    | cons f fs =>
      have hlt : p.length < f.bytes.length := hopen f rfl
      rw [List.flatten_nil, List.append_nil] at h
      rw [h, stream_cons, List.length_append] at hlt
      omega
  | cons chunk chunks ih =>
    obtain ⟨frames, fs', p', rfl, -, hpr, hopen', hbatches⟩ := next_batch h
    rw [hbatches, List.flatMap_cons, ih hpr hopen']

theorem open_nil {fs : List CleanFrame} : Open CleanFrame.wire fs [] := fun f _ => by
  show 0 < f.bytes.length
  have := f.long
  omega

/-- A loop that delivers emits exactly the frames of the stream, in order. -/
theorem Delivers.emits {turn : Bytes → Bytes → Except PyErr (List LuxFrame × Bytes)}
    {fs : List CleanFrame} {s : Splitting fs} (h : Delivers turn s) : Emits turn s := by
  refine ⟨_, h, ?_⟩
  have hframes := batches_frames (p := []) s.flatten_eq open_nil
  show (emissions s.batches).flatten = _
  conv_rhs => rw [← hframes]
  unfold emissions
  rw [← List.flatMap_def, List.map_flatMap]
  rfl

/-- The replay loop loses no frame: with the right sequence each turn was right. -/
theorem replay_emits_iff {fs : List CleanFrame} (s : Splitting fs) :
    Emits replayTurn s ↔ Delivers replayTurn s := by
  refine ⟨fun ⟨outs, hrun, hframes⟩ => ?_, Delivers.emits⟩
  have hecho := receive_replay [] (p := []) s.flatten_eq
  rw [show receive replayTurn [] s.chunks = _ from hecho] at hrun
  obtain rfl := Except.ok.inj hrun
  have hlen := congrArg List.length hframes
  rw [← List.map_flatten, List.length_map, List.length_map] at hlen
  conv_rhs at hlen => rw [← batches_frames (p := []) s.flatten_eq open_nil, List.flatMap_def]
  show receive replayTurn [] s.chunks = _
  rw [show receive replayTurn [] s.chunks = _ from hecho, echo_eq_of_length hlen, List.map_map]
  rfl

/-- Which cuts of a stream the loops survive. -/
theorem delivery_iff (fs : List CleanFrame) (s : Splitting fs) :
    (Emits replayTurn s ↔ ∀ b ∈ s.batches.dropLast, b.Fresh) ∧
      (Delivers passiveTurn s ↔ ∀ b ∈ s.batches.dropLast, b.Fresh ∨ b.Trimmed) ∧
      (Delivers passiveTurn s → Emits passiveTurn s) :=
  ⟨(replay_emits_iff s).trans (replay_delivers_iff s), receive_passive_iff (p := []) s.flatten_eq,
    Delivers.emits⟩

/-! ## A repeated frame -/

/-- A frame without payload: protocol 2, heartbeat, serial "0000000000". -/
def beat (protocol : UInt8) : Bytes :=
  [0xA1, 0x1A, protocol, 0, 12, 0, 1, 0xC1] ++ List.replicate 10 0x30

def beatFrame (protocol : UInt8) (h : IsFrame (beat protocol) ∧ hasPair (beat protocol).tail = false) :
    CleanFrame where
  bytes := beat protocol
  isFrame := h.1
  short := by simp [beat]
  noPair := h.2

def beat2 : CleanFrame := beatFrame 2 (by decide)

def beat5 : CleanFrame := beatFrame 5 (by decide)

/-- Two equal frames in one chunk, another frame in the next. -/
def repeatedBeat : Splitting [beat2, beat2, beat5] where
  chunks := [beat 2 ++ beat 2, beat 5]
  nonempty := by decide
  flatten_eq := by decide

theorem not_emitted {run : Except PyErr (List (List LuxFrame))} {n : ℕ} {frames : List LuxFrame}
    (hrun : run.map (fun outs => outs.flatten.length) = .ok n) (hn : frames.length ≠ n) :
    ¬ ∃ outs, run = .ok outs ∧ outs.flatten = frames := by
  rintro ⟨outs, rfl, rfl⟩
  exact hn (Except.ok.inj hrun)

/-- Both loops emit four frames where the stream has three. -/
theorem delivery_repeats : ¬ Emits replayTurn repeatedBeat ∧ ¬ Emits passiveTurn repeatedBeat := by
  have hreplay : (receive replayTurn [] repeatedBeat.chunks).map (fun outs => outs.flatten.length) =
      .ok 4 := by decide +kernel
  have hpassive : (receive passiveTurn [] repeatedBeat.chunks).map (fun outs => outs.flatten.length) =
      .ok 4 := by decide +kernel
  exact ⟨not_emitted hreplay (by simp), not_emitted hpassive (by simp)⟩

/-! ## The chunks of a captured file -/

theorem take_fileChunks (chunkSize : ℕ) (data : Bytes) (k : ℕ) :
    ((List.range k).map fun i =>
      slice data (i * chunkSize) (i * chunkSize + chunkSize)).flatten = data.take (k * chunkSize) := by
  induction k with
  | zero => simp
  | succ k ih =>
    rw [List.range_succ, List.map_append, List.flatten_append, ih, Nat.succ_mul]
    have htake : data.take (k * chunkSize) =
        (data.take (k * chunkSize + chunkSize)).take (k * chunkSize) := by
      rw [List.take_take, Nat.min_eq_left (Nat.le_add_right _ _)]
    rw [htake]
    simp [slice]

def Splitting.ofFile {chunkSize : ℕ} (hsize : 0 < chunkSize) (fs : List CleanFrame) : Splitting fs where
  chunks := fileChunks chunkSize (stream fs)
  nonempty := by
    intro c hc
    obtain ⟨i, hi, rfl⟩ := List.mem_map.mp hc
    have hlt : i * chunkSize < (stream fs).length := by
      have h1 := List.mem_range.mp hi
      have h2 : i + 1 ≤ ((stream fs).length + chunkSize - 1) / chunkSize := h1
      have h3 := (Nat.le_div_iff_mul_le hsize).mp h2
      rw [Nat.add_mul] at h3
      omega
    intro hnil
    have hlen := congrArg List.length hnil
    simp only [slice, List.length_drop, List.length_take, List.length_nil] at hlen
    omega
  flatten_eq := by
    unfold fileChunks
    rw [take_fileChunks]
    refine List.take_of_length_le ?_
    have h1 := Nat.div_add_mod ((stream fs).length + chunkSize - 1) chunkSize
    have h2 := Nat.mod_lt ((stream fs).length + chunkSize - 1) hsize
    rw [Nat.mul_comm]
    omega

/-- The replay transport on a capture of clean frames. -/
theorem replay_file_iff {chunkSize : ℕ} (hsize : 0 < chunkSize) (fs : List CleanFrame) :
    replay chunkSize (stream fs) = .ok (emissions (Splitting.ofFile hsize fs).batches) ↔
      ∀ b ∈ (Splitting.ofFile hsize fs).batches.dropLast, b.Fresh :=
  replay_delivers_iff (Splitting.ofFile hsize fs)

end LuxMon
