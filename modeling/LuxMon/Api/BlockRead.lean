import LuxMon.Comm.Correlation
import LuxMon.Dongle.Reliable
import LuxMon.Python.Dict
import LuxMon.Protocol.Wire

/-!
# Reading blocks of holding registers

`_read_holding_block` takes any read-hold frame with the right start register;
`_read_all_holding_registers` reads seven blocks and retries one that failed.

    a block reported as read has all its registers ↔ the length byte and the bytes of
      the frame hold as many values as were asked for           (readHoldingBlock_complete_iff)
    every block that was not fully read is retried ↔ all answers do  (block_read_complete_iff)
-/

namespace LuxMon

open Python Effects Prog

/-! ## The two functions -/

/-- What `_read_holding_block` returns. -/
structure BlockRead where
  ok : Bool
  block : Dict ℕ ℕ
  msg : String

/-- `result[start + i] = raw_val` for each value. -/
def blockOf (start : ℕ) (values : List ℕ) : Dict ℕ ℕ := .ofList (values.mapIdx fun i v => (start + i, v))

/-- What it makes of the frame it gets. -/
def blockResult (start count : ℕ) : Option (Reply (.readHold start count)) → BlockRead
  | none => ⟨false, .empty, s!"No valid holding-register response for {start}/{count}"⟩
  | some f =>
    if f.1.isError then ⟨false, .empty, errorMessage f.1⟩ else ⟨true, blockOf start f.1.values, "ok"⟩

/-- `_read_holding_block`. -/
def readHoldingBlock (d : Dongle) (start count : ℕ) : Py BlockRead := do
  let frame ← transact d (.readHold start count)
  return blockResult start count frame

/-- The attempts at one batch, from number `attempt` on; `last` is what the one before returned. -/
def readBatch (d : Dongle) (start count : ℕ) : (tries attempt : ℕ) → (last : BlockRead) → Py BlockRead
  | 0, _, last => return last
  | tries + 1, attempt, _ => do
    let read ← readHoldingBlock d start count
    if read.ok then return read
    Prog.perform (Op.sleep (0.3 * (attempt + 1)))
    readBatch d start count tries (attempt + 1) read

def holdingBatches : List (ℕ × ℕ) := [(0, 40), (40, 40), (80, 40), (120, 40), (160, 40), (200, 40), (240, 22)]

/-- The loop over the batches; one that failed is skipped. -/
def readBatches (d : Dongle) : List (ℕ × ℕ) → Dict ℕ ℕ → Py (Dict ℕ ℕ)
  | [], raw => return raw
  | (start, count) :: batches, raw => do
    let read ← readBatch d start count 4 0 ⟨false, .empty, ""⟩
    Prog.perform (Op.sleep 0.5)
    readBatches d batches (if read.ok then raw.update read.block else raw)

/-- `_read_all_holding_registers`. -/
def readAllHoldingRegisters (d : Dongle) : Py (Dict ℕ ℕ) := readBatches d holdingBatches .empty

/-! ## Byte streams -/

/-- Every transaction is answered from the bytes that some connection receives. -/
def Streamed (tr : List Ev) : Prop :=
  ∀ d req (answer : Op.Answer (.transact d req)), ⟨.transact d req, answer⟩ ∈ tr →
    ∃ (conn : PersistentDongleConnection) (net : ℕ → Attempt),
      (conn.transact req.accepts net).2 = answer.map fun reply => reply.map Subtype.val

/-- The values that a read response has room for: the length byte claims some, and those
that end before the CRC are there. -/
def valuesIn (bytes : Bytes) : ℕ := min ((bytes.getD 34 0).toNat / 2) ((bytes.length - 37) / 2)

/-- The map has exactly the registers of the block. -/
def BlockRead.Complete (start count : ℕ) (read : BlockRead) : Prop :=
  ∀ k, k ∈ read.block.keys ↔ start ≤ k ∧ k < start + count

section
variable {d : Dongle} {start count : ℕ} {tr : List Ev}

/-- A frame that `find_frames` returns is the parse of its own bytes. -/
theorem frameOf_of_findFrames {data : Bytes} {frames : List LuxFrame} (h : findFrames data = .ok frames)
    {f : LuxFrame} (hf : f ∈ frames) : frameOf f.raw = some f := by
  obtain ⟨us, hus⟩ := Framing.Scan.exists luxFormat data
  rw [findFrames_scan hus] at h
  obtain rfl := Except.ok.inj h
  obtain ⟨u, hu, hframe⟩ := List.mem_filterMap.mp hf
  obtain ⟨rest, n, -, hsize, rfl⟩ := (Framing.Scan.mem_iff hus).mp hu
  obtain ⟨⟨hpair, h6, -⟩, rfl⟩ := frameSize_eq_some.mp hsize
  have hsix := six_le_declared rest
  have htake : (rest.take (declared rest)).take 2 = pair := by
    rw [List.take_take, min_eq_left (by omega)]
    exact hpair
  rw [(frameOf_raw htake hframe).1]
  exact hframe

theorem firstAccepted_parsed {accepts : LuxFrame → Bool} {buffer : Bytes} {chunks : List Bytes} {f : LuxFrame}
    (h : firstAccepted accepts buffer chunks = some f) : frameOf f.raw = some f := by
  induction chunks generalizing buffer with
  | nil => cases h
  | cons chunk chunks ih =>
    obtain ⟨frames, hframes⟩ := findFrames_ok (buffer ++ chunk)
    rw [firstAccepted_cons hframes] at h
    rcases Option.or_eq_some_iff.mp h with hfind | ⟨-, hrest⟩
    · exact frameOf_of_findFrames hframes (List.mem_of_find?_eq_some hfind)
    · exact ih hrest

/-- Whatever the stream, an answer is the parse of bytes in it. -/
theorem Streamed.parsed (h : Streamed tr) {req : Request} {reply : Reply req}
    (hev : ⟨.transact d req, .ok (some reply)⟩ ∈ tr) : frameOf reply.1.raw = some reply.1 := by
  obtain ⟨conn, net, hanswer⟩ := h d req _ hev
  have hout : (conn.transact req.accepts net).2 = .ok (some reply.1) := hanswer
  have hreply := PersistentDongleConnection.transact_eq_answer req.accepts hout
  obtain ⟨k, -, hk⟩ := List.exists_of_findSome?_eq_some hreply.symm
  unfold Attempt.answer at hk
  split at hk
  · exact firstAccepted_parsed hk
  · cases hk

/-- The value loop takes what fits. -/
theorem length_readValues {data : Bytes} {valsBegin i n : ℕ} {values : List ℕ}
    (h : readValues data valsBegin i n = .ok values) :
    values.length = min n ((data.length - 2 - (valsBegin + i * 2)) / 2) := by
  induction n generalizing i values with
  | zero =>
    cases h
    simp
  | succ n ih =>
    unfold readValues at h
    dsimp only at h
    split at h
    · next hfits =>
      rw [unpackU16_ok (by omega), ok_bind] at h
      obtain ⟨vals, hvals, hcons⟩ := bind_eq_ok.mp h
      obtain rfl := Except.ok.inj hcons
      rw [List.length_cons, ih hvals]
      omega
    · next hfits =>
      rw [ih h]
      omega

theorem length_bodyValues {data : Bytes} {frame f : LuxFrame} (hnil : frame.values = [])
    (h : parseBody data frame = .ok f) (hhold : f.isReadHold = true) : f.values.length = valuesIn data := by
  obtain ⟨hsingle, -, _, rfl⟩ | ⟨-, h34, values, hvalues, rfl⟩ | ⟨hmulti, -, _, _, -, rfl⟩ | ⟨hshort, rfl⟩ :=
    parseBody_cases h
  · cases hsingle.symm.trans (eq_of_beq hhold)
  · show values.length = _
    rw [length_readValues hvalues, valuesIn, List.getD_eq_getElem?_getD, List.getElem?_eq_getElem h34, Option.getD_some]
    omega
  · cases hmulti.symm.trans (eq_of_beq hhold)
  · have hlength : data.length ≤ 34 := hshort (by rw [LuxFrame.isRead]; simpa [LuxFrame.isReadHold] using Or.inl hhold)
    rw [hnil, valuesIn, List.getD_eq_getElem?_getD, List.getElem?_eq_none hlength]
    simp

theorem length_dataValues {data : Bytes} {frame f : LuxFrame} (hnil : frame.values = [])
    (h20 : 20 ≤ data.length) (hfunction : frame.deviceFunction ≠ modbusReadHold)
    (h : parseDataFrame data frame = .ok f) (hhold : f.isReadHold = true) : f.values.length = valuesIn data := by
  obtain ⟨-, rfl⟩ | ⟨_, function, -, ⟨herror, _, rfl⟩ | ⟨-, _, register, -, hbody⟩⟩ := parseDataFrame_cases h20 h
  · exact absurd (eq_of_beq hhold) hfunction
  · -- an error frame is no read response
    have hread : function = modbusReadHold := eq_of_beq hhold
    rw [hread] at herror
    exact absurd herror (by decide)
  · exact length_bodyValues (by exact hnil) hbody hhold

/-- A read response carries the values that its bytes have room for. -/
theorem length_holdValues {u : Bytes} {f : LuxFrame} (h : frameOf u = some f) (hhold : f.isReadHold = true) :
    f.values.length = valuesIn u := by
  have hparse : parseFrame u = .ok (some f) := by rw [parseFrame_eq, h]
  unfold parseFrame at hparse
  split at hparse
  · cases hparse
  · next hlong =>
    have hl : 18 ≤ u.length := by simpa [headerSize] using hlong
    split at hparse
    · cases hparse
    · rw [unpackU16_ok (by omega), unpackU16_ok (by omega), byteAt_ok (show 6 < u.length by omega),
        byteAt_ok (show 7 < u.length by omega)] at hparse
      simp only [ok_bind] at hparse
      split at hparse
      · next h20 =>
        obtain ⟨g, hg, hgf⟩ := bind_eq_ok.mp hparse
        cases hgf
        exact length_dataValues rfl h20.2 (show (0 : ℕ) ≠ modbusReadHold by decide) hg hhold
      · cases hparse
        cases hhold

/-! ## One block -/

/-- The registers of the map, one for each value. -/
theorem mem_blockOf_keys {values : List ℕ} {k : ℕ} :
    k ∈ (blockOf start values).keys ↔ start ≤ k ∧ k < start + values.length := by
  have hkeys : (values.mapIdx fun i v => (start + i, v)).map Prod.fst = List.range' start values.length := by
    refine List.ext_getElem (by simp) fun i h1 h2 => ?_
    simp
  unfold blockOf Dict.ofList
  rw [Dict.mem_keys_sets, hkeys, List.mem_range'_1]
  simp [Dict.empty, Dict.keys]

/-- A map of as many values as were asked for, and no other, is complete. -/
theorem blockOf_complete_iff (values : List ℕ) (msg : String) :
    BlockRead.Complete start count ⟨true, blockOf start values, msg⟩ ↔ values.length = count := by
  unfold BlockRead.Complete
  simp only [mem_blockOf_keys]
  constructor
  · intro h
    by_contra hne
    rcases Nat.lt_or_gt_of_ne hne with hlt | hgt
    · have := (h (start + values.length)).mpr (by omega)
      omega
    · have := (h (start + count)).mp (by omega)
      omega
  · rintro rfl k
    rfl

/-- The read that a frame from a stream leads to. -/
theorem blockResult_complete_iff {reply : Reply (.readHold start count)} (hparsed : frameOf reply.1.raw = some reply.1)
    (hok : (blockResult start count (some reply)).ok = true) :
    (blockResult start count (some reply)).Complete start count ↔ valuesIn reply.1.raw = count := by
  cases herror : reply.1.isError with
  | true =>
    simp only [blockResult, herror, if_true] at hok
    cases hok
  | false =>
    have haccepts := reply.2
    simp only [Request.accepts, herror, Bool.false_eq_true, if_false, Bool.and_eq_true] at haccepts
    simp only [blockResult, herror, Bool.false_eq_true, if_false]
    rw [blockOf_complete_iff, length_holdValues hparsed haccepts.1]

theorem blockResult_ok_iff {reply : Reply (.readHold start count)} :
    (blockResult start count (some reply)).ok = true ↔ reply.1.isError = false := by
  cases herror : reply.1.isError <;> simp [blockResult, herror]

/-- A block that was read is one transaction. -/
theorem readHoldingBlock_run {read : BlockRead} (h : (readHoldingBlock d start count).Run tr (.ok read)) :
    ∃ answer : Option (Reply (.readHold start count)),
      tr = [⟨.transact d (.readHold start count), .ok answer⟩] ∧ read = blockResult start count answer := by
  rcases (run_bind _ _ _ _).mp h with ⟨answer, t, u, rfl, ht, rfl, hread⟩ | ⟨x, hx, -⟩
  · rcases run_transact.mp ht with ⟨e, -, -, he⟩ | ⟨b, -, rfl⟩
    · cases he
    · exact ⟨answer, rfl, Except.ok.inj hread⟩
  · cases hx

/-! ## The attempts at one batch -/

/-- The read of the block that an event is. -/
def readOf (start count : ℕ) : Ev → Option BlockRead
  | ⟨.transact _ (.readHold s c), .ok answer⟩ => if s = start ∧ c = count then some (blockResult s c answer) else none
  | _ => none

/-- The reads of the block in a run. -/
def readsOf (start count : ℕ) (tr : List Ev) : List BlockRead := tr.filterMap (readOf start count)

/-- A read that is not complete is followed by another, or it failed and was the last of `tries`. -/
def BlockRetried (tries start count : ℕ) (reads : List BlockRead) : Prop :=
  ∀ front read back, reads = front ++ read :: back → ¬ read.Complete start count →
    back ≠ [] ∨ (read.ok = false ∧ front.length + 1 = tries)

/-- Failures, then the read that the batch ends with; it ends early with a success only. -/
def Attempted (tries : ℕ) (reads : List BlockRead) (read : BlockRead) : Prop :=
  ∃ front, reads = front ++ [read] ∧ (∀ r ∈ front, r.ok = false) ∧
    (read.ok = false → front.length + 1 = tries)

theorem readsOf_append (t u : List Ev) : readsOf start count (t ++ u) = readsOf start count t ++ readsOf start count u :=
  List.filterMap_append

/-- Only the last read can have been taken for a success. -/
theorem Attempted.blockRetried_iff {tries : ℕ} {reads : List BlockRead} {last : BlockRead} (h : Attempted tries reads last) :
    BlockRetried tries start count reads ↔ ∀ r ∈ reads, r.ok = true → r.Complete start count := by
  obtain ⟨front, rfl, hfront, hlast⟩ := h
  constructor
  · intro hretried r hr hok
    rcases List.mem_append.mp hr with hr | hr
    · rw [hfront r hr] at hok
      cases hok
    · obtain rfl := List.mem_singleton.mp hr
      by_contra hincomplete
      rcases hretried front r [] rfl hincomplete with hback | ⟨hfailed, -⟩
      · exact hback rfl
      · rw [hok] at hfailed
        cases hfailed
  · intro hall front' read back hsplit hincomplete
    by_cases hback : back = []
    · rw [hback] at hsplit
      obtain ⟨rfl, hread⟩ := List.append_inj' hsplit rfl
      obtain rfl := (List.cons.inj hread).1
      refine Or.inr ⟨Bool.eq_false_iff.mpr fun hok => hincomplete (hall last (by simp) hok), hlast ?_⟩
      exact Bool.eq_false_iff.mpr fun hok => hincomplete (hall last (by simp) hok)
    · exact Or.inl hback

theorem readBatch_run {tries attempt : ℕ} {last read : BlockRead} (htries : 0 < tries)
    (h : (readBatch d start count tries attempt last).Run tr (.ok read)) :
    Attempted tries (readsOf start count tr) read := by
  induction tries generalizing attempt last tr with
  | zero => exact absurd htries (lt_irrefl 0)
  | succ tries ih =>
    rcases (run_bind _ _ _ _).mp h with ⟨first, t, u, rfl, ht, hu⟩ | ⟨x, hx, -⟩
    · obtain ⟨answer, rfl, rfl⟩ := readHoldingBlock_run ht
      have hreads : readsOf start count [⟨.transact d (.readHold start count), .ok answer⟩] =
          [blockResult start count answer] := by
        simp [readsOf, readOf]
      rw [readsOf_append, hreads]
      by_cases hok : (blockResult start count answer).ok = true
      · rw [if_pos hok] at hu
        obtain ⟨rfl, hread⟩ := hu
        obtain rfl := Except.ok.inj hread
        refine ⟨[], by simp [readsOf], by simp, fun hfailed => ?_⟩
        rw [hok] at hfailed
        cases hfailed
      · rw [if_neg hok] at hu
        obtain ⟨slept, v, rfl, hv⟩ := hu
        cases tries with
        | zero =>
          obtain ⟨rfl, hread⟩ := hv
          obtain rfl := Except.ok.inj hread
          exact ⟨[], by simp [readsOf, readOf], by simp, fun _ => rfl⟩
        | succ tries =>
          have hrest : (readBatch d start count (tries + 1) (attempt + 1) (blockResult start count answer)).Run v
              (.ok read) := hv
          obtain ⟨front, hfront, hfailures, hlast⟩ := ih (Nat.succ_pos tries) hrest
          refine ⟨blockResult start count answer :: front, ?_, ?_, fun hfailed => ?_⟩
          · rw [readsOf, List.filterMap_cons_none rfl, ← readsOf, hfront]
            rfl
          · intro r hr
            rcases List.mem_cons.mp hr with rfl | hr
            · simpa using hok
            · exact hfailures r hr
          · rw [List.length_cons, hlast hfailed]
    · cases hx

/-- A batch only reads its block. -/
theorem readBatch_asks (tries attempt : ℕ) (last : BlockRead) :
    (readBatch d start count tries attempt last).Asks fun op =>
      op.quiet = true ∨ op = .transact d (.readHold start count) := by
  induction tries generalizing attempt last with
  | zero => trivial
  | succ tries ih =>
    refine asks_bind (asks_bind (transact_asks (Or.inr rfl)) fun _ => trivial) fun read => ?_
    split
    · trivial
    · exact ⟨Or.inl rfl, fun _ => ih _ _⟩

/-! ## All batches -/

theorem readBatches_asks (batches : List (ℕ × ℕ)) (raw : Dict ℕ ℕ) :
    (readBatches d batches raw).Asks fun op =>
      op.quiet = true ∨ ∃ b ∈ batches, op = .transact d (.readHold b.1 b.2) := by
  induction batches generalizing raw with
  | nil => trivial
  | cons b batches ih =>
    refine asks_bind ((readBatch_asks 4 0 _).mono fun op hop => ?_) fun read => ⟨Or.inl rfl, fun _ => ?_⟩
    · exact hop.imp id fun h => ⟨b, List.mem_cons_self, h⟩
    · exact (ih _).mono fun op hop => hop.imp id fun ⟨b', hb', h⟩ => ⟨b', List.mem_cons_of_mem _ hb', h⟩

/-- Where the block is not asked for it is not read. -/
theorem readsOf_of_unasked (h : ∀ ev ∈ tr, ∀ d', ev.1 ≠ .transact d' (.readHold start count)) :
    readsOf start count tr = [] := by
  refine List.filterMap_eq_nil_iff.mpr fun ev hev => ?_
  obtain ⟨op, answer⟩ := ev
  cases op with
  | transact d' req =>
    cases req with
    | readHold s c =>
      cases answer with
      | error x => rfl
      | ok frame =>
        refine if_neg fun hsame => ?_
        obtain ⟨rfl, rfl⟩ := hsame
        exact h _ hev d' rfl
    | _ => rfl
  | _ => rfl

/-- Reads of other blocks. -/
theorem readsOf_of_others {batches : List (ℕ × ℕ)} {b : ℕ × ℕ} (hb : b ∉ batches)
    (hops : ∀ ev ∈ tr, ev.1.quiet = true ∨ ∃ b' ∈ batches, ev.1 = .transact d (.readHold b'.1 b'.2)) :
    readsOf b.1 b.2 tr = [] := by
  refine readsOf_of_unasked fun ev hev d' hread => ?_
  rcases hops ev hev with hop | ⟨b', hb', hop⟩
  · rw [hread] at hop
    cases hop
  · obtain ⟨-, hreq⟩ := Op.transact.inj (hread.symm.trans hop)
    obtain ⟨hstart, hcount⟩ := Request.readHold.inj hreq
    exact hb (by rwa [show b = b' from Prod.ext hstart hcount])

/-- In a run over distinct batches each of them is attempted on its own. -/
theorem readBatches_run {batches : List (ℕ × ℕ)} (hnodup : batches.Nodup) {raw out : Dict ℕ ℕ}
    (h : (readBatches d batches raw).Run tr (.ok out)) :
    (∀ k ∈ raw.keys, k ∈ out.keys) ∧
      ∀ b ∈ batches, ∃ read, Attempted 4 (readsOf b.1 b.2 tr) read ∧
        (read.ok = true → ∀ k ∈ read.block.keys, k ∈ out.keys) := by
  induction batches generalizing raw tr with
  | nil =>
    obtain ⟨rfl, hout⟩ := h
    obtain rfl := Except.ok.inj hout
    exact ⟨fun k hk => hk, by simp⟩
  | cons b batches ih =>
    obtain ⟨hb, hnodup⟩ := List.nodup_cons.mp hnodup
    rcases (run_bind _ _ _ _).mp h with ⟨read, t, u, rfl, ht, hu⟩ | ⟨x, hx, -⟩
    · obtain ⟨slept, v, rfl, hv⟩ := hu
      have hrest : (readBatches d batches (if read.ok then raw.update read.block else raw)).Run v (.ok out) := hv
      obtain ⟨hkeys, hall⟩ := ih hnodup hrest
      have hown : ∀ ev ∈ t, ev.1.quiet = true ∨ ∃ b' ∈ [b], ev.1 = .transact d (.readHold b'.1 b'.2) := fun ev hev =>
        ((readBatch_asks 4 0 _).of_run ht ev hev).imp id fun h => ⟨b, List.mem_singleton_self b, h⟩
      have hothers := (readBatches_asks batches _).of_run hrest
      have hraw : ∀ k ∈ raw.keys, k ∈ (if read.ok then raw.update read.block else raw).keys := by
        intro k hk
        split
        · exact Dict.mem_keys_update.mpr (Or.inl hk)
        · exact hk
      refine ⟨fun k hk => hkeys k (hraw k hk), fun b' hb' => ?_⟩
      rw [readsOf_append, readsOf, readsOf, List.filterMap_cons_none rfl, ← readsOf, ← readsOf]
      rcases List.mem_cons.mp hb' with rfl | hb'
      · -- the later batches do not read this block
        rw [readsOf_of_others hb hothers, List.append_nil]
        refine ⟨read, readBatch_run (by decide) ht, fun hok k hk => hkeys k ?_⟩
        rw [if_pos hok]
        exact Dict.mem_keys_update.mpr (Or.inr hk)
      · have hne : b' ∉ [b] := fun hmem => hb (List.mem_singleton.mp hmem ▸ hb')
        rw [readsOf_of_others hne hown, List.nil_append]
        exact hall b' hb'
    · cases hx

/-- Every answer to a block read that is no error fills its block. -/
def FullAnswers (tr : List Ev) : Prop :=
  ∀ d start count (reply : Reply (.readHold start count)),
    ⟨.transact d (.readHold start count), .ok (some reply)⟩ ∈ tr → reply.1.isError = false →
      valuesIn reply.1.raw = count

/-- The successful reads of a stream are complete when the answers are full. -/
theorem reads_complete_iff (hstream : Streamed tr) {batches : List (ℕ × ℕ)}
    (hasks : ∀ ev ∈ tr, ev.1.quiet = true ∨ ∃ b ∈ batches, ev.1 = .transact d (.readHold b.1 b.2)) :
    (∀ b ∈ batches, ∀ r ∈ readsOf b.1 b.2 tr, r.ok = true → r.Complete b.1 b.2) ↔ FullAnswers tr := by
  constructor
  · intro hall d' start count reply hev herror
    rcases hasks _ hev with hop | ⟨b, hb, hop⟩
    · cases hop
    · obtain ⟨-, hreq⟩ := Op.transact.inj hop
      obtain ⟨rfl, rfl⟩ := Request.readHold.inj hreq
      have hok := blockResult_ok_iff.mpr herror
      refine (blockResult_complete_iff (hstream.parsed hev) hok).mp (hall b hb _ ?_ hok)
      exact List.mem_filterMap.mpr ⟨_, hev, if_pos ⟨rfl, rfl⟩⟩
  · intro hfull b hb r hr hok
    obtain ⟨⟨op, answer⟩, hev, hread⟩ := List.mem_filterMap.mp hr
    cases op with
    | transact d' req =>
      cases req with
      | readHold s c =>
        cases answer with
        | error x => cases hread
        | ok frame =>
          have hite : (if s = b.1 ∧ c = b.2 then some (blockResult s c frame) else none) = some r := hread
          split at hite
          · next hsame =>
            obtain ⟨h1, h2⟩ := hsame
            rw [← h1, ← h2]
            obtain rfl := Option.some.inj hite
            cases frame with
            | none => cases hok
            | some reply =>
              exact (blockResult_complete_iff (hstream.parsed hev) hok).mpr
                (hfull d' s c reply hev (blockResult_ok_iff.mp hok))
          · cases hite
      | _ => cases hread
    | _ => cases hread

theorem readAll_retried_iff {out : Dict ℕ ℕ} (h : (readAllHoldingRegisters d).Run tr (.ok out))
    (hstream : Streamed tr) :
    (∀ b ∈ holdingBatches, BlockRetried 4 b.1 b.2 (readsOf b.1 b.2 tr)) ↔ FullAnswers tr := by
  rw [← reads_complete_iff hstream ((readBatches_asks holdingBatches .empty).of_run h)]
  refine forall₂_congr fun b hb => ?_
  obtain ⟨read, hattempted, -⟩ := (readBatches_run (by decide) h).2 b hb
  exact hattempted.blockRetried_iff

end

/-- Over any bytes of the dongle: a block reported as read is complete exactly when the frame
that answered has as many values as were asked for; and when all registers are read, each
block that was not fully read is retried, up to four times, exactly when all such frames do:
then a block is in the result or has failed four times. -/
theorem block_read_complete_iff (d : Dongle) :
    (∀ start count tr read, (readHoldingBlock d start count).Run tr (.ok read) → Streamed tr → read.ok = true →
      ∃ reply : Reply (.readHold start count), tr = [⟨.transact d (.readHold start count), .ok (some reply)⟩] ∧
        (read.Complete start count ↔ valuesIn reply.1.raw = count)) ∧
    ∀ tr out, (readAllHoldingRegisters d).Run tr (.ok out) → Streamed tr →
      ((∀ b ∈ holdingBatches, BlockRetried 4 b.1 b.2 (readsOf b.1 b.2 tr)) ↔ FullAnswers tr) ∧
      (FullAnswers tr → ∀ b ∈ holdingBatches, (∀ k, b.1 ≤ k → k < b.1 + b.2 → k ∈ out.keys) ∨
        ((readsOf b.1 b.2 tr).length = 4 ∧ ∀ r ∈ readsOf b.1 b.2 tr, r.ok = false)) := by
  constructor
  · intro start count tr read hrun hstream hok
    obtain ⟨answer, rfl, rfl⟩ := readHoldingBlock_run hrun
    cases answer with
    | none => cases hok
    | some reply =>
      exact ⟨reply, rfl, blockResult_complete_iff (hstream.parsed List.mem_cons_self) hok⟩
  · intro tr out hrun hstream
    refine ⟨readAll_retried_iff hrun hstream, fun hfull b hb => ?_⟩
    have hcomplete := (reads_complete_iff hstream ((readBatches_asks holdingBatches .empty).of_run hrun)).mpr hfull
    obtain ⟨read, ⟨front, hfront, hfailures, hlast⟩, hkeys⟩ := (readBatches_run (by decide) hrun).2 b hb
    by_cases hok : read.ok = true
    · have hmem : read ∈ readsOf b.1 b.2 tr := by simp [hfront]
      exact Or.inl fun k h1 h2 => hkeys hok k ((hcomplete b hb read hmem hok k).mpr ⟨h1, h2⟩)
    · have hfailed := Bool.eq_false_iff.mpr hok
      refine Or.inr ⟨by rw [hfront, List.length_append, ← hlast hfailed]; rfl, fun r hr => ?_⟩
      rw [hfront] at hr
      rcases List.mem_append.mp hr with hr | hr
      · exact hfailures r hr
      · rwa [List.mem_singleton.mp hr]

/-! ## A dongle that repeats one frame -/

/-- Every transaction gets the frame, if it is accepted. -/
def frameAnswer (f : WireFrame) (w : World) : (op : Op) → Op.Answer op × World
  | .transact _ req => (.ok (if h : req.accepts f.parsed = true then some ⟨f.parsed, h⟩ else none), w)
  | op => w.answer op

/-- A connection that receives nothing but the frame answers so. -/
theorem transact_frame (f : WireFrame) (req : Request) :
    ∃ (conn : PersistentDongleConnection) (net : ℕ → Attempt), (conn.transact req.accepts net).2 =
      .ok (if req.accepts f.parsed then some f.parsed else none) := by
  let net : ℕ → Attempt := fun _ => ⟨.data, .accepted, true, [.data f.bytes]⟩
  let conn : PersistentDongleConnection := { maxRetries := 0, sock := true }
  have hserved : Served req.accepts 1 conn.sock net := 
    ⟨fun hdial => absurd hdial Bool.false_ne_true, fun _ => trivial⟩
  obtain ⟨c', hreturn, -⟩ := PersistentDongleConnection.attempts_served req.accepts (c := conn) hserved
  refine ⟨conn, net, ?_⟩
  have hlong : headerSize ≤ f.bytes.length := f.isFrame.long
  have hne : f.bytes.isEmpty = false := by
    cases hbytes : f.bytes with
    | nil =>
      rw [hbytes] at hlong
      exact absurd hlong (by decide)
    | cons b bs => rfl
  have hanswer : (net 0).answer req.accepts = if req.accepts f.parsed then some f.parsed else none := by
    show (if true = true then firstAccepted req.accepts [] (chunksOf [.data f.bytes]) else none) = _
    have hfound : findFrames ([] ++ f.bytes) = .ok [f.parsed] := findFrames_frame f
    rw [if_pos rfl, chunksOf, hne, if_neg Bool.false_ne_true, firstAccepted_cons hfound, List.find?_cons]
    cases req.accepts f.parsed <;> rfl
  show (conn.attempts req.accepts 1 net).2 = _
  rw [hreturn, answerOf_succ, hanswer]
  cases req.accepts f.parsed <;> rfl

theorem frameAnswer_transact {α : Type} (f : WireFrame) (p : Py α) {d : Dongle} {req : Request}
    {answer : Op.Answer (.transact d req)} (hev : ⟨.transact d req, answer⟩ ∈ (exec (frameAnswer f) idleWorld p).1) :
    answer = .ok (if h : req.accepts f.parsed = true then some ⟨f.parsed, h⟩ else none) := by
  obtain ⟨-, hsteps⟩ := exec_spec (fun w ev _ => ev.2 = (frameAnswer f w ev.1).1) (frameAnswer f)
    (fun _ _ => rfl) p idleWorld
  generalize (exec (frameAnswer f) idleWorld p).1 = tr at hsteps hev
  generalize (exec (frameAnswer f) idleWorld p).2.2 = w' at hsteps
  generalize idleWorld = w at hsteps
  induction tr generalizing w with
  | nil => cases hev
  | cons ev tr ih =>
    obtain ⟨m, hanswer, hrest⟩ := hsteps
    rcases List.mem_cons.mp hev with rfl | hev
    · exact hanswer
    · exact ih hev m hrest

/-- Its runs are answered from byte streams. -/
theorem frameAnswer_run {α : Type} (f : WireFrame) (p : Py α) :
    p.Run (exec (frameAnswer f) idleWorld p).1 (exec (frameAnswer f) idleWorld p).2.1 ∧
      Streamed (exec (frameAnswer f) idleWorld p).1 := by
  refine ⟨(exec_spec (fun _ _ _ => True) (frameAnswer f) (fun _ _ => trivial) p idleWorld).1, ?_⟩
  intro d req answer hev
  obtain ⟨conn, net, htransact⟩ := transact_frame f req
  refine ⟨conn, net, ?_⟩
  rw [htransact, frameAnswer_transact f p hev]
  by_cases haccepts : req.accepts f.parsed = true
  · rw [if_pos haccepts, dif_pos haccepts]
    rfl
  · rw [if_neg haccepts, dif_neg haccepts]
    rfl

/-- Its answers are the frame. -/
theorem frameAnswer_reply {α : Type} (f : WireFrame) (p : Py α) {d : Dongle} {req : Request} {reply : Reply req}
    (hev : ⟨.transact d req, .ok (some reply)⟩ ∈ (exec (frameAnswer f) idleWorld p).1) : reply.1 = f.parsed := by
  have hanswer := Except.ok.inj (frameAnswer_transact f p hev)
  by_cases haccepts : req.accepts f.parsed = true
  · rw [dif_pos haccepts] at hanswer
    rw [Option.some.inj hanswer]
  · rw [dif_neg haccepts] at hanswer
    cases hanswer

theorem block_returned {out : Except PyErr BlockRead} (h : out.toOption.map BlockRead.ok = some true) :
    ∃ read, out = .ok read ∧ read.ok = true := by
  cases out with
  | error x => cases h
  | ok read => exact ⟨read, rfl, Option.some.inj h⟩

theorem all_returned {α : Type} {out : Except PyErr α} (h : out.isOk = true) : ∃ a, out = .ok a := by
  cases out with
  | error x => cases h
  | ok a => exact ⟨a, rfl⟩

/-- The event is no block read with an answer. -/
def unansweredBlock : Ev → Bool
  | ⟨.transact _ (.readHold _ _), .ok (some _)⟩ => false
  | _ => true

theorem answered_block {tr : List Ev} (h : tr.all unansweredBlock = false) :
    ∃ d start count, ∃ reply : Reply (.readHold start count),
      ⟨.transact d (.readHold start count), .ok (some reply)⟩ ∈ tr := by
  obtain ⟨⟨op, answer⟩, hev, hblock⟩ := List.all_eq_false.mp h
  cases op with
  | transact d req =>
    cases req with
    | readHold start count =>
      cases answer with
      | error x => exact absurd rfl hblock
      | ok frame =>
        cases frame with
        | none => exact absurd rfl hblock
        | some reply => exact ⟨d, start, count, reply, hev⟩
    | _ => exact absurd rfl hblock
  | _ => exact absurd rfl hblock

theorem fullAnswers_of_unanswered {tr : List Ev} (h : tr.all unansweredBlock = true) : FullAnswers tr := by
  intro d start count reply hev
  have := List.all_eq_true.mp h _ hev
  cases this

/-- One value for register 60: a block of that register is complete, and all other blocks are
tried four times. -/
theorem single_value_block_complete :
    (∃ tr read, (readHoldingBlock idleDongle 60 1).Run tr (.ok read) ∧ Streamed tr ∧ read.Complete 60 1) ∧
      ∃ tr out, (readAllHoldingRegisters idleDongle).Run tr (.ok out) ∧ Streamed tr ∧
        ∀ b ∈ holdingBatches, BlockRetried 4 b.1 b.2 (readsOf b.1 b.2 tr) := by
  constructor
  · obtain ⟨hrun, hstream⟩ := frameAnswer_run oldAnswer (readHoldingBlock idleDongle 60 1)
    obtain ⟨read, hread, hok⟩ := block_returned
      (show (exec (frameAnswer oldAnswer) idleWorld (readHoldingBlock idleDongle 60 1)).2.1.toOption.map
        BlockRead.ok = some true by decide +kernel)
    rw [hread] at hrun
    obtain ⟨reply, htr, hcomplete⟩ := (block_read_complete_iff idleDongle).1 60 1 _ read hrun hstream hok
    refine ⟨_, read, hrun, hstream, hcomplete.mpr ?_⟩
    rw [frameAnswer_reply oldAnswer (readHoldingBlock idleDongle 60 1) (by rw [htr]; exact List.mem_singleton.mpr rfl),
      oldAnswer.parsed_raw]
    decide
  · obtain ⟨hrun, hstream⟩ := frameAnswer_run oldAnswer (readAllHoldingRegisters idleDongle)
    obtain ⟨out, hout⟩ := all_returned
      (show (exec (frameAnswer oldAnswer) idleWorld (readAllHoldingRegisters idleDongle)).2.1.isOk = true by
        decide +kernel)
    rw [hout] at hrun
    refine ⟨_, out, hrun, hstream, ((block_read_complete_iff idleDongle).2 _ out hrun hstream).1.mpr ?_⟩
    exact fullAnswers_of_unanswered (by decide +kernel)

/-- A read response for register 0: its length byte claims 40 values, and it holds one. -/
def shortAnswer : WireFrame where
  bytes := [0xA1, 0x1A, 5, 0, 33, 0, 1, 0xC2] ++ List.replicate 10 0x41 ++ [19, 0, 1, 3] ++
    List.replicate 10 0x31 ++ [0, 0, 80, 7, 0, 0x49, 0x4a]
  isFrame := by decide

/-- The block from 0 to 39 is reported as read with one register, and it is not retried. -/
theorem short_block_taken :
    (∃ tr read, (readHoldingBlock idleDongle 0 40).Run tr (.ok read) ∧ Streamed tr ∧ read.ok = true ∧
      ¬ read.Complete 0 40) ∧
    ∃ tr out, (readAllHoldingRegisters idleDongle).Run tr (.ok out) ∧ Streamed tr ∧
      ¬ ∀ b ∈ holdingBatches, BlockRetried 4 b.1 b.2 (readsOf b.1 b.2 tr) := by
  have hvalues : valuesIn shortAnswer.bytes = 1 := by decide
  constructor
  · obtain ⟨hrun, hstream⟩ := frameAnswer_run shortAnswer (readHoldingBlock idleDongle 0 40)
    obtain ⟨read, hread, hok⟩ := block_returned
      (show (exec (frameAnswer shortAnswer) idleWorld (readHoldingBlock idleDongle 0 40)).2.1.toOption.map
        BlockRead.ok = some true by decide +kernel)
    rw [hread] at hrun
    obtain ⟨answer, htr, rfl⟩ := readHoldingBlock_run hrun
    refine ⟨_, _, hrun, hstream, hok, fun hcomplete => ?_⟩
    cases answer with
    | none => cases hok
    | some reply =>
      have hev : ⟨.transact idleDongle (.readHold 0 40), .ok (some reply)⟩ ∈
          (exec (frameAnswer shortAnswer) idleWorld (readHoldingBlock idleDongle 0 40)).1 := by
        rw [htr]
        exact List.mem_singleton.mpr rfl
      have := (blockResult_complete_iff (hstream.parsed hev) hok).mp hcomplete
      rw [frameAnswer_reply shortAnswer _ hev, shortAnswer.parsed_raw, hvalues] at this
      exact absurd this (by decide)
  · obtain ⟨hrun, hstream⟩ := frameAnswer_run shortAnswer (readAllHoldingRegisters idleDongle)
    obtain ⟨out, hout⟩ := all_returned
      (show (exec (frameAnswer shortAnswer) idleWorld (readAllHoldingRegisters idleDongle)).2.1.isOk = true by
        decide +kernel)
    obtain ⟨d, start, count, reply, hev⟩ := answered_block
      (show (exec (frameAnswer shortAnswer) idleWorld (readAllHoldingRegisters idleDongle)).1.all unansweredBlock = false by
        decide +kernel)
    rw [hout] at hrun
    refine ⟨_, out, hrun, hstream, fun hretried => ?_⟩
    have hfull := (readAll_retried_iff hrun hstream).mp hretried
    have hcount := hfull d start count reply hev (by rw [frameAnswer_reply shortAnswer _ hev]; decide +kernel)
    rw [frameAnswer_reply shortAnswer _ hev, shortAnswer.parsed_raw, hvalues] at hcount
    rcases (readBatches_asks holdingBatches .empty).of_run hrun _ hev with hop | ⟨b, hb, hop⟩
    · cases hop
    · obtain ⟨-, hreq⟩ := Op.transact.inj hop
      obtain ⟨-, rfl⟩ := Request.readHold.inj hreq
      have hsizes : ∀ b ∈ holdingBatches, b.2 ≠ 1 := by decide
      exact hsizes b hb hcount.symm

end LuxMon
