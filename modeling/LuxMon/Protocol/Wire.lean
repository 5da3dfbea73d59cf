import LuxMon.Framing.Scan
import LuxMon.Protocol.Frame

/-!
# Frames on the wire

The scan of `find_frames` is the scan of the LuxPower format: prefix A1 1A, a
little-endian length at offset 4 that counts everything after the first six bytes.

    findFrames data = the parses of the scanned units of 18 bytes or more   (findFrames_scan)
    enough turns give the result of find_frames                             (scanFrames_enough)
-/

namespace LuxMon

open Python Framing

/-- `PREFIX`. -/
def pair : Bytes := [0xA1, 0x1A]

/-- The total length that a header declares: 6 + the little-endian u16 at offset 4. -/
def declared (bs : Bytes) : ℕ := 6 + ((bs.getD 4 0).toNat + 256 * (bs.getD 5 0).toNat)

theorem declared_take {bs : Bytes} {n : ℕ} (hn : 6 ≤ n) : declared (bs.take n) = declared bs := by
  have h4 : 4 < n := by omega
  have h5 : 5 < n := by omega
  simp [declared, h4, h5]

theorem declared_append {bs more : Bytes} (h : 6 ≤ bs.length) :
    declared (bs ++ more) = declared bs := by
  have h4 : 4 < bs.length := by omega
  have h5 : 5 < bs.length := by omega
  simp [declared, List.getElem?_append, h4, h5]

theorem six_le_declared (bs : Bytes) : 6 ≤ declared bs := Nat.le_add_right 6 _

/-- The bytes a frame needs: its header, and as many bytes as the header declares. -/
def Declares (bs : Bytes) : Prop := bs.take 2 = pair ∧ 6 ≤ bs.length ∧ declared bs ≤ bs.length

instance (bs : Bytes) : Decidable (Declares bs) := inferInstanceAs (Decidable (_ ∧ _ ∧ _))

/-- The frame at the front of `bs`, if it is complete. -/
def frameSize (bs : Bytes) : Option ℕ := if Declares bs then some (declared bs) else none

theorem frameSize_eq_some {bs : Bytes} {n : ℕ} :
    frameSize bs = some n ↔ Declares bs ∧ declared bs = n := by
  unfold frameSize
  split
  · next h => simp [h]
  · next h => simp [h]

theorem frameSize_eq_none {bs : Bytes} : frameSize bs = none ↔ ¬ Declares bs := by
  unfold frameSize
  split
  · next h => simp [h]
  · next h => simp [h]

theorem take_two_append {bs more : Bytes} (h : 6 ≤ bs.length) : (bs ++ more).take 2 = bs.take 2 := by
  rw [List.take_append_of_le_length (by omega)]

/-- The LuxPower frame format. -/
def luxFormat : Format UInt8 where
  size := frameSize
  size_pos h := by
    obtain ⟨-, rfl⟩ := frameSize_eq_some.mp h
    have := six_le_declared
    exact Nat.lt_of_lt_of_le (by decide) (this _)
  size_le h := by
    obtain ⟨⟨-, -, hle⟩, rfl⟩ := frameSize_eq_some.mp h
    exact hle
  size_take {bs n} h := by
    obtain ⟨⟨hpair, h6, hle⟩, rfl⟩ := frameSize_eq_some.mp h
    have hsix := six_le_declared bs
    have hlen : (bs.take (declared bs)).length = declared bs := by
      rw [List.length_take]
      omega
    refine frameSize_eq_some.mpr ⟨⟨?_, ?_, ?_⟩, declared_take hsix⟩
    · rw [List.take_take, Nat.min_eq_left (by omega)]
      exact hpair
    · omega
    · rw [declared_take hsix, hlen]
  size_append {bs n} more h := by
    obtain ⟨⟨hpair, h6, hle⟩, rfl⟩ := frameSize_eq_some.mp h
    refine frameSize_eq_some.mpr ⟨⟨?_, ?_, ?_⟩, declared_append h6⟩
    · rw [take_two_append h6]
      exact hpair
    · rw [List.length_append]
      omega
    · rw [declared_append h6, List.length_append]
      omega

/-! ## Well-formed frames -/

/-- A well-formed frame: the prefix, the declared length, and a whole header. -/
structure IsFrame (raw : Bytes) : Prop where
  starts : raw.take 2 = pair
  length_eq : raw.length = declared raw
  long : headerSize ≤ raw.length

instance (raw : Bytes) : Decidable (IsFrame raw) :=
  decidable_of_iff (raw.take 2 = pair ∧ raw.length = declared raw ∧ headerSize ≤ raw.length)
    ⟨fun h => ⟨h.1, h.2.1, h.2.2⟩, fun h => ⟨h.1, h.2, h.3⟩⟩

structure WireFrame where
  bytes : Bytes
  isFrame : IsFrame bytes
  deriving DecidableEq

theorem complete_iff {u : Bytes} :
    luxFormat.Complete u ↔ u.take 2 = pair ∧ 6 ≤ u.length ∧ u.length = declared u := by
  show frameSize u = some u.length ↔ _
  rw [frameSize_eq_some]
  constructor
  · rintro ⟨⟨hpair, h6, -⟩, hlen⟩
    exact ⟨hpair, h6, hlen.symm⟩
  · rintro ⟨hpair, h6, hlen⟩
    exact ⟨⟨hpair, h6, hlen.symm.le⟩, hlen.symm⟩

theorem IsFrame.complete {u : Bytes} (h : IsFrame u) : luxFormat.Complete u := by
  have h18 : 18 ≤ u.length := h.long
  exact complete_iff.mpr ⟨h.starts, by omega, h.length_eq⟩

/-- The scan also takes units that are too short to hold a header. -/
theorem isFrame_iff_of_complete {u : Bytes} (h : luxFormat.Complete u) :
    IsFrame u ↔ headerSize ≤ u.length := by
  obtain ⟨hpair, -, hlen⟩ := complete_iff.mp h
  exact ⟨fun hu => hu.long, fun hu => ⟨hpair, hlen, hu⟩⟩

/-! ## What the parser makes of one unit -/

/-- What the body adds to the frame: the echoed value, the values of a read, the register and count
of a multi-write, or nothing. -/
theorem parseBody_cases {data : Bytes} {frame f : LuxFrame} (h : parseBody data frame = .ok f) :
    (frame.deviceFunction = modbusWriteSingle ∧ 38 ≤ data.length ∧ ∃ val, f = { frame with values := [val] }) ∨
    (frame.isRead = true ∧ ∃ (h34 : 34 < data.length) (values : List Nat),
      readValues data 35 0 (data[34].toNat / 2) = .ok values ∧ f = { frame with values := values }) ∨
    (frame.deviceFunction = modbusWriteMulti ∧ 38 ≤ data.length ∧ ∃ register count,
      unpackU16 data 32 = .ok register ∧ f = { frame with register := register, writeCount := count }) ∨
    ((frame.isRead = true → data.length ≤ 34) ∧ f = frame) := by
  unfold parseBody at h
  split at h
  · next hsingle =>
    split at h
    · next h38 =>
      obtain ⟨val, -, hf⟩ := bind_eq_ok.mp h
      exact Or.inl ⟨hsingle, h38, val, (Except.ok.inj hf).symm⟩
    · have hno : frame.isRead = false := by
        rw [LuxFrame.isRead, hsingle]
        rfl
      refine Or.inr (Or.inr (Or.inr ⟨fun hread => ?_, (Except.ok.inj h).symm⟩))
      cases hno.symm.trans hread
  · split at h
    · next hread =>
      split at h
      · next h34 =>
        rw [byteAt_ok h34, ok_bind] at h
        obtain ⟨values, hvalues, hf⟩ := bind_eq_ok.mp h
        exact Or.inr (Or.inl ⟨hread, h34, values, hvalues, (Except.ok.inj hf).symm⟩)
      · next h34 => exact Or.inr (Or.inr (Or.inr ⟨fun _ => not_lt.mp h34, (Except.ok.inj h).symm⟩))
    · next hread =>
      have hnone : f = frame → (frame.isRead = true → data.length ≤ 34) ∧ f = frame := fun hf =>
        ⟨fun hyes => absurd hyes hread, hf⟩
      split at h
      · next hmulti =>
        split at h
        · next h38 =>
          obtain ⟨register, hregister, h⟩ := bind_eq_ok.mp h
          obtain ⟨count, -, hf⟩ := bind_eq_ok.mp h
          exact Or.inr (Or.inr (Or.inl ⟨hmulti, h38, register, count, hregister, (Except.ok.inj hf).symm⟩))
        · exact Or.inr (Or.inr (Or.inr (hnone (Except.ok.inj h).symm)))
      · exact Or.inr (Or.inr (Or.inr (hnone (Except.ok.inj h).symm)))

theorem parseBody_raw {data : Bytes} {frame f : LuxFrame} (h : parseBody data frame = .ok f) :
    f.raw = frame.raw := by
  obtain ⟨-, -, _, rfl⟩ | ⟨-, -, _, -, rfl⟩ | ⟨-, -, _, _, -, rfl⟩ | ⟨-, rfl⟩ := parseBody_cases h
  · rfl
  · rfl
  · rfl
  · rfl

/-- A data frame ends before its function, or reports an error, or its body is parsed. -/
theorem parseDataFrame_cases {data : Bytes} {frame f : LuxFrame} (h20 : 20 ≤ data.length)
    (h : parseDataFrame data frame = .ok f) :
    (data.length < 22 ∧ f = frame) ∨ ∃ address function, byteAt data 21 = .ok function ∧
      ((128 ≤ function ∧ ∃ errorCode, f = { frame with
        address := address, deviceFunction := function, isError := true, errorCode := errorCode }) ∨
      (function < 128 ∧ ∃ inverterSerial register,
        (if 34 ≤ data.length then unpackU16 data 32 else pure frame.register) = .ok register ∧
        parseBody data { frame with
          address := address, deviceFunction := function, inverterSerial := inverterSerial,
          register := register } = .ok f)) := by
  unfold parseDataFrame at h
  rw [unpackU16_ok (by omega), ok_bind] at h
  split at h
  · next h22 => exact Or.inl ⟨h22, (Except.ok.inj h).symm⟩
  · obtain ⟨address, -, h⟩ := bind_eq_ok.mp h
    obtain ⟨function, hfunction, h⟩ := bind_eq_ok.mp h
    refine Or.inr ⟨address, function, hfunction, ?_⟩
    split at h
    · next herror =>
      refine Or.inl ⟨herror, ?_⟩
      split at h
      · obtain ⟨errorCode, -, hf⟩ := bind_eq_ok.mp h
        exact ⟨errorCode, (Except.ok.inj hf).symm⟩
      · exact ⟨frame.errorCode, (Except.ok.inj h).symm⟩
    · next herror =>
      let inverterSerial := if 32 ≤ data.length then decodeSerial (slice data 22 32) else frame.inverterSerial
      refine Or.inr ⟨not_le.mp herror, inverterSerial, ?_⟩
      by_cases h34 : 34 ≤ data.length
      · simp only [if_pos h34] at h
        obtain ⟨register, hregister, hbody⟩ := bind_eq_ok.mp h
        exact ⟨register, by rw [if_pos h34, hregister], hbody⟩
      · simp only [if_neg h34] at h
        exact ⟨frame.register, if_neg h34, h⟩

theorem parseDataFrame_raw {data : Bytes} {frame f : LuxFrame} (h20 : 20 ≤ data.length)
    (h : parseDataFrame data frame = .ok f) : f.raw = frame.raw := by
  obtain ⟨-, rfl⟩ | ⟨_, _, -, ⟨-, _, rfl⟩ | ⟨-, _, _, -, hbody⟩⟩ := parseDataFrame_cases h20 h
  · rfl
  · rfl
  · exact (parseBody_raw hbody :)

/-- `parse_frame` on one unit: it refuses exactly what is shorter than a header. -/
theorem parseFrame_unit {u : Bytes} (h : u.take 2 = pair) :
    (u.length < headerSize ∧ parseFrame u = .ok none) ∨
      headerSize ≤ u.length ∧ ∃ f, parseFrame u = .ok (some f) ∧ f.raw = u := by
  unfold parseFrame
  by_cases hshort : u.length < headerSize
  · rw [if_pos hshort]
    exact Or.inl ⟨hshort, rfl⟩
  · have hl : 18 ≤ u.length := by simpa [headerSize] using hshort
    have hpair : slice u 0 2 = [0xA1, 0x1A] := h
    rw [if_neg hshort, if_neg (by simp [hpair]), unpackU16_ok (by omega), unpackU16_ok (by omega),
      byteAt_ok (show 6 < u.length by omega), byteAt_ok (show 7 < u.length by omega)]
    simp only [ok_bind]
    refine Or.inr ⟨hl, ?_⟩
    split
    · next h20 =>
      obtain ⟨f, hf⟩ := parseDataFrame_ok u _ h20.2
      rw [hf]
      exact ⟨f, rfl, parseDataFrame_raw h20.2 hf⟩
    · exact ⟨_, rfl, rfl⟩

/-- The frame that `parse_frame` makes of one unit. -/
def frameOf (u : Bytes) : Option LuxFrame := (parseFrame u).toOption.join

theorem parseFrame_eq (u : Bytes) : parseFrame u = .ok (frameOf u) := by
  obtain ⟨f, hf⟩ := parseFrame_ok u
  unfold frameOf
  rw [hf]
  rfl

theorem frameOf_raw {u : Bytes} (h : u.take 2 = pair) {f : LuxFrame} (hf : frameOf u = some f) :
    f.raw = u ∧ headerSize ≤ u.length := by
  rcases parseFrame_unit h with ⟨-, hnone⟩ | ⟨hlong, g, hg, hraw⟩
  · rw [parseFrame_eq, hf] at hnone
    cases hnone
  · rw [parseFrame_eq, hf] at hg
    cases hg
    exact ⟨hraw, hlong⟩

theorem IsFrame.frameOf_isSome {u : Bytes} (h : IsFrame u) : (frameOf u).isSome := by
  rcases parseFrame_unit h.starts with ⟨hshort, -⟩ | ⟨-, f, hf, -⟩
  · have := h.long
    omega
  · rw [parseFrame_eq] at hf
    rw [Except.ok.inj hf]
    rfl

/-- The parse of a well-formed frame. -/
def WireFrame.parsed (f : WireFrame) : LuxFrame := (frameOf f.bytes).get f.isFrame.frameOf_isSome

theorem WireFrame.frameOf_eq (f : WireFrame) : frameOf f.bytes = some f.parsed :=
  (Option.some_get f.isFrame.frameOf_isSome).symm

theorem WireFrame.parseFrame_eq (f : WireFrame) : parseFrame f.bytes = .ok (some f.parsed) := by
  rw [LuxMon.parseFrame_eq, f.frameOf_eq]

theorem WireFrame.parsed_raw (f : WireFrame) : f.parsed.raw = f.bytes :=
  (frameOf_raw f.isFrame.starts f.frameOf_eq).1

/-! ## The scan of find_frames -/

theorem unpackU16_declared {bs : Bytes} (h : 6 ≤ bs.length) :
    unpackU16 bs 4 = .ok (declared bs - 6) := by
  have h4 : 4 < bs.length := by omega
  have h5 : 5 < bs.length := by omega
  rw [unpackU16_ok (by omega)]
  simp [declared, h4, h5]

theorem six_add_declared (bs : Bytes) : 6 + (declared bs - 6) = declared bs := by
  have := six_le_declared bs
  omega

theorem scanFrames_nil (turns : ℕ) : scanFrames turns [] = .ok [] := by
  cases turns <;> rfl

theorem scanFrames_scan {rest : Bytes} {us : List Bytes} (h : Scan luxFormat rest us) :
    ∀ turns, rest.length ≤ turns → scanFrames turns rest = .ok (us.filterMap frameOf) := by
  induction h with
  | done =>
    intro turns _
    cases turns <;> rfl
  | @skip b bs us hsize _ ih =>
    intro turns hturns
    cases turns with
    | zero => simp at hturns
    | succ turns =>
      have hrest := ih turns (by simpa using hturns)
      cases bs with
      | nil =>
        have hnone := Except.ok.inj (hrest.symm.trans (scanFrames_nil turns))
        rw [hnone]
        rfl
      | cons b1 tail =>
        have hno : ¬ Declares (b :: b1 :: tail) := frameSize_eq_none.mp hsize
        unfold scanFrames
        dsimp only
        split
        · next hp =>
          rw [unpackU16_declared hp.2.2, ok_bind, six_add_declared, if_neg]
          · exact hrest
          · intro hle
            exact hno ⟨by rw [hp.1, hp.2.1]; rfl, hp.2.2, hle⟩
        · exact hrest
  | @unit bs n us hsize _ ih =>
    obtain ⟨⟨hpair, h6, hle⟩, rfl⟩ := frameSize_eq_some.mp hsize
    intro turns hturns
    have hsix := six_le_declared bs
    cases turns with
    | zero => omega
    | succ turns =>
      have hrest := ih turns (by rw [List.length_drop]; omega)
      obtain ⟨b0, b1, tail, rfl⟩ : ∃ b0 b1 tail, bs = b0 :: b1 :: tail := by
        cases bs with
        | nil => simp at h6
        | cons b0 rest =>
          cases rest with
          | nil => simp at h6
          | cons b1 tail => exact ⟨b0, b1, tail, rfl⟩
      have hb : b0 = 0xA1 ∧ b1 = 0x1A := by simpa [pair] using hpair
      unfold scanFrames
      dsimp only
      rw [if_pos ⟨hb.1, hb.2, h6⟩, unpackU16_declared h6, ok_bind, six_add_declared, if_pos hle,
        parseFrame_eq, ok_bind, hrest, ok_bind]
      cases hf : frameOf ((b0 :: b1 :: tail).take (declared (b0 :: b1 :: tail))) with
      | none => rw [List.filterMap_cons_none hf]; rfl
      | some f => rw [List.filterMap_cons_some hf]; rfl

theorem findFrames_scan {data : Bytes} {us : List Bytes} (h : Scan luxFormat data us) :
    findFrames data = .ok (us.filterMap frameOf) :=
  scanFrames_scan h data.length le_rfl

/-- The scan ends by itself: more turns than bytes change nothing. -/
theorem scanFrames_enough {data : Bytes} {turns : ℕ} (h : data.length ≤ turns) :
    scanFrames turns data = findFrames data := by
  obtain ⟨us, hus⟩ := Scan.exists luxFormat data
  rw [scanFrames_scan hus turns h, findFrames_scan hus]

end LuxMon
