import LuxMon.Rs485.JkBms

/-!
# JK BMS status bodies that are cut short

Every read of `_parse_status` stands behind a test of the length.  For the state of charge the
test asks for the tag alone, and the byte behind the tag is read.

    a frame is decoded or refused unless its body ends with that tag      (parseFrame_returns_iff)
-/

namespace LuxMon.JkBms

open Python

/-! ## Reads within the data -/

section
variable {data : Bytes} {offset : Nat}

theorem getU16_ok (h : offset + 2 ≤ data.length) : ∃ v, getU16 data offset = .ok v := by
  unfold getU16
  rw [byteAt_ok (show offset < data.length by omega), byteAt_ok (show offset + 1 < data.length by omega)]
  exact ⟨_, rfl⟩

theorem getU32_ok (h : offset + 4 ≤ data.length) : ∃ v, getU32 data offset = .ok v := by
  obtain ⟨high, hhigh⟩ := getU16_ok (show offset + 2 ≤ data.length by omega)
  obtain ⟨low, hlow⟩ := getU16_ok (show offset + 2 + 2 ≤ data.length by omega)
  unfold getU32
  rw [hhigh, hlow]
  exact ⟨_, rfl⟩

theorem byteOrZero_ok (data : Bytes) (offset : Nat) : ∃ v, byteOrZero data offset = .ok v := by
  unfold byteOrZero
  by_cases h : offset < data.length
  · rw [if_pos h, byteAt_ok h]
    exact ⟨_, rfl⟩
  · rw [if_neg h]
    exact ⟨_, rfl⟩

theorem tagValue_ok (h : offset + 3 ≤ data.length) : ∃ v, tagValue data offset = .ok (v, offset + 3) := by
  obtain ⟨v, hv⟩ := getU16_ok (show offset + 1 + 2 ≤ data.length by omega)
  unfold tagValue
  rw [if_neg (by omega), byteAt_ok (show offset < data.length by omega), ok_bind, hv]
  exact ⟨v, rfl⟩

/-- The tag stands there, with `need` bytes from it on. -/
def Tagged (data : Bytes) (offset need tag : Nat) : Prop :=
  offset + need ≤ data.length ∧ data[offset]?.map UInt8.toNat = some tag

instance (data : Bytes) (offset need tag : Nat) : Decidable (Tagged data offset need tag) :=
  inferInstanceAs (Decidable (_ ∧ _))

theorem hasTag_eq {need : Nat} (hneed : 0 < need) (tag : Nat) :
    hasTag data offset need tag = .ok (decide (Tagged data offset need tag)) := by
  unfold hasTag Tagged
  by_cases h : offset + need ≤ data.length
  · have hlt : offset < data.length := by omega
    rw [if_pos h, byteAt_ok hlt, ok_bind]
    simp [h, hlt, Bool.beq_eq_decide_eq]
    rfl
  · rw [if_neg h]
    simp [h]
    rfl

end

/-! ## Where the tagged fields end -/

/-- Behind three bytes when there are such, else where it was. -/
def pass (offset : Nat) (there : Prop) [Decidable there] : Nat := if there then offset + 3 else offset

section
variable (data : Bytes)

theorem readTemperature_ok (key : String) (c : Cursor) :
    ∃ result, readTemperature data key c = .ok ⟨pass c.offset (c.offset + 3 ≤ data.length), result⟩ := by
  unfold readTemperature pass
  by_cases h : c.offset + 3 ≤ data.length
  · obtain ⟨v, hv⟩ := tagValue_ok h
    rw [if_pos h, if_pos h, hv]
    exact ⟨_, rfl⟩
  · rw [if_neg h, if_neg h]
    exact ⟨_, rfl⟩

theorem readTotalVoltage_ok (c : Cursor) : ∃ totalVoltage result,
    readTotalVoltage data c = .ok (totalVoltage, ⟨pass c.offset (Tagged data c.offset 3 0x83), result⟩) := by
  unfold readTotalVoltage pass
  rw [hasTag_eq (by decide), ok_bind]
  by_cases h : Tagged data c.offset 3 0x83
  · obtain ⟨v, hv⟩ := tagValue_ok h.1
    rw [if_pos (decide_eq_true h), if_pos h, hv]
    exact ⟨_, _, rfl⟩
  · rw [if_neg (by simpa using h), if_neg h]
    exact ⟨_, _, rfl⟩

theorem readCurrent_ok (totalVoltage : ℚ) (c : Cursor) : ∃ result,
    readCurrent data totalVoltage c = .ok ⟨pass c.offset (Tagged data c.offset 3 0x84), result⟩ := by
  unfold readCurrent pass
  rw [hasTag_eq (by decide), ok_bind]
  by_cases h : Tagged data c.offset 3 0x84
  · obtain ⟨v, hv⟩ := tagValue_ok h.1
    obtain ⟨sign, hsign⟩ := byteOrZero_ok data (c.offset + 3)
    rw [if_pos (decide_eq_true h), if_pos h, hv, ok_bind]
    simp only [hsign]
    exact ⟨_, rfl⟩
  · rw [if_neg (by simpa using h), if_neg h]
    exact ⟨_, rfl⟩

/-- A field is read safely when the bytes asked for are those that are read. -/
theorem readField_ok {tag need width : Nat} {read : Nat → Except PyErr Nat} (key unit : String) (c : Cursor)
    (hneed : 0 < need) (hread : c.offset + need ≤ data.length → ∃ v, read (c.offset + 1) = .ok v) :
    ∃ c', readField data tag need width read key unit c = .ok c' := by
  unfold readField
  rw [hasTag_eq hneed, ok_bind]
  by_cases h : Tagged data c.offset need tag
  · obtain ⟨v, hv⟩ := hread h.1
    rw [if_pos (decide_eq_true h), hv]
    exact ⟨_, rfl⟩
  · rw [if_neg (by simpa using h)]
    exact ⟨_, rfl⟩

theorem readMode_ok (c : Cursor) : ∃ c', readMode data c = .ok c' := by
  unfold readMode
  rw [hasTag_eq (by decide), ok_bind]
  by_cases h : Tagged data c.offset 3 0x8C
  · obtain ⟨v, hv⟩ := getU16_ok (show c.offset + 1 + 2 ≤ data.length from h.1)
    rw [if_pos (decide_eq_true h), hv]
    exact ⟨_, rfl⟩
  · rw [if_neg (by simpa using h)]
    exact ⟨_, rfl⟩

theorem scanCapacity_ok {data : Bytes} (result : Decoded) {scans : List Nat} (h : ∀ scan ∈ scans, scan + 5 ≤ data.length) :
    ∃ result', scanCapacity data result scans = .ok result' := by
  induction scans with
  | nil => exact ⟨result, rfl⟩
  | cons scan rest ih =>
    have hscan := h scan List.mem_cons_self
    unfold scanCapacity
    rw [byteAt_ok (show scan < data.length by omega), ok_bind]
    split_ifs
    · obtain ⟨v, hv⟩ := getU32_ok (show scan + 1 + 4 ≤ data.length by omega)
      rw [hv]
      exact ⟨_, rfl⟩
    · exact ih fun s hs => h s (List.mem_cons_of_mem _ hs)

theorem scanRange_within (offset : Nat) : ∀ scan ∈ scanRange data offset, scan + 5 ≤ data.length := by
  intro scan hscan
  have hrange := List.mem_range'_1.mp hscan
  omega

/-- The tag of the state of charge is the last byte. -/
def SocLast (data : Bytes) (offset : Nat) : Prop := Tagged data offset 1 0x85 ∧ data.length = offset + 1

theorem readSoc_returns_iff (c : Cursor) : (∃ c', readSoc data c = .ok c') ↔ ¬ SocLast data c.offset := by
  constructor
  · rintro ⟨c', hc'⟩ ⟨htag, hlast⟩
    unfold readSoc readField at hc'
    rw [hasTag_eq (by decide), ok_bind, if_pos (decide_eq_true htag)] at hc'
    have hbeyond : byteAt data (c.offset + 1) = .error .indexError := by
      unfold byteAt
      rw [List.getElem?_eq_none (by omega)]
    rw [hbeyond] at hc'
    cases hc'
  · intro hnot
    by_cases htag : Tagged data c.offset 1 0x85
    · have hin : c.offset + 1 < data.length :=
        lt_of_le_of_ne htag.1 fun h => hnot ⟨htag, h.symm⟩
      exact readField_ok data "soc" "%" c (by decide) fun _ => ⟨_, byteAt_ok hin⟩
    · unfold readSoc readField
      rw [hasTag_eq (by decide), ok_bind, if_neg (by simpa using htag)]
      exact ⟨_, rfl⟩

/-- Behind the state of charge nothing goes wrong. -/
theorem readOthers_returns_iff (totalVoltage : ℚ) (c : Cursor) : (∃ result, readOthers data totalVoltage c = .ok result) ↔
    ¬ SocLast data (pass c.offset (Tagged data c.offset 3 0x84)) := by
  obtain ⟨result, hcurrent⟩ := readCurrent_ok data totalVoltage c
  unfold readOthers
  rw [hcurrent, ok_bind]
  refine Iff.trans ?_ (readSoc_returns_iff data ⟨pass c.offset (Tagged data c.offset 3 0x84), result⟩)
  constructor
  · rintro ⟨out, hout⟩
    obtain ⟨c₁, hsoc, -⟩ := bind_eq_ok.mp hout
    exact ⟨c₁, hsoc⟩
  · rintro ⟨c₁, hsoc⟩
    obtain ⟨c₂, hcount⟩ : ∃ c', readSensorCount data c₁ = .ok c' :=
      readField_ok data _ _ c₁ (by decide) fun h => ⟨_, byteAt_ok (show c₁.offset + 1 < data.length from h)⟩
    obtain ⟨c₃, hcycles⟩ : ∃ c', readCycleCount data c₂ = .ok c' :=
      readField_ok data _ _ c₂ (by decide) fun h => getU16_ok h
    obtain ⟨c₄, hcapacity⟩ : ∃ c', readCycleCapacity data c₃ = .ok c' :=
      readField_ok data _ _ c₃ (by decide) fun h => getU32_ok h
    obtain ⟨c₅, hstrings⟩ : ∃ c', readTotalStrings data c₄ = .ok c' :=
      readField_ok data _ _ c₄ (by decide) fun h => getU16_ok h
    obtain ⟨c₆, hwarnings⟩ : ∃ c', readWarnings data c₅ = .ok c' :=
      readField_ok data _ _ c₅ (by decide) fun h => getU16_ok h
    obtain ⟨c₇, hmode⟩ := readMode_ok data c₆
    obtain ⟨out, hout⟩ := scanCapacity_ok c₇.result (scanRange_within data c₇.offset)
    rw [hsoc, ok_bind, hcount, ok_bind, hcycles, ok_bind, hcapacity, ok_bind, hstrings, ok_bind, hwarnings, ok_bind,
      hmode, ok_bind]
    exact ⟨out, hout⟩

/-- Where the total voltage is looked for: behind the temperatures. -/
def voltageOffset (data : Bytes) (offset : Nat) : Nat :=
  let offset := pass offset (offset + 3 ≤ data.length)
  let offset := pass offset (offset + 3 ≤ data.length)
  pass offset (offset + 3 ≤ data.length)

/-- Where the current is looked for. -/
def currentOffset (data : Bytes) (offset : Nat) : Nat :=
  pass (voltageOffset data offset) (Tagged data (voltageOffset data offset) 3 0x83)

/-- Where the state of charge is looked for. -/
def socOffset (data : Bytes) (offset : Nat) : Nat :=
  pass (currentOffset data offset) (Tagged data (currentOffset data offset) 3 0x84)

theorem readFields_returns_iff (c : Cursor) : (∃ result, readFields data c = .ok result) ↔
    ¬ SocLast data (socOffset data c.offset) := by
  obtain ⟨result₁, hread₁⟩ := readTemperature_ok data "mosfet_temperature" c
  obtain ⟨result₂, hread₂⟩ := readTemperature_ok data "battery_box_temperature" ⟨_, result₁⟩
  obtain ⟨result₃, hread₃⟩ := readTemperature_ok data "battery_temperature_1" ⟨_, result₂⟩
  obtain ⟨totalVoltage, result₄, hvoltage⟩ := readTotalVoltage_ok data ⟨_, result₃⟩
  unfold readFields
  rw [hread₁, ok_bind, hread₂, ok_bind, hread₃, ok_bind, hvoltage, ok_bind]
  exact readOthers_returns_iff data totalVoltage _

end

/-! ## Bodies that end with the tag -/

/-- The fields of three bytes that are read in front of the state of charge, as many as the bytes are. -/
def WholeFields (fields : Bytes) : Prop :=
  fields.length ∈ [0, 3, 6, 9] ∨
  fields.length = 12 ∧ (fields[9]? = some 0x83 ∨ fields[9]? = some 0x84) ∨
  fields.length = 15 ∧ fields[9]? = some 0x83 ∧ fields[12]? = some 0x84

theorem wholeFields_iff {tail : Bytes} : (∃ fields, tail = fields ++ [0x85] ∧ WholeFields fields) ↔
    tail[tail.length - 1]? = some 0x85 ∧ (tail.length ∈ [1, 4, 7, 10] ∨
      tail.length = 13 ∧ (tail[9]? = some 0x83 ∨ tail[9]? = some 0x84) ∨
      tail.length = 16 ∧ tail[9]? = some 0x83 ∧ tail[12]? = some 0x84) := by
  constructor
  · rintro ⟨fields, rfl, hfields⟩
    have hlen : (fields ++ [0x85]).length = fields.length + 1 := by simp
    refine ⟨by simp, ?_⟩
    rw [hlen]
    rcases hfields with h | ⟨h, htag⟩ | ⟨h, hvoltage, hcurrent⟩
    · left
      simpa using h
    · right; left
      rw [List.getElem?_append_left (by omega)]
      exact ⟨by omega, htag⟩
    · right; right
      rw [List.getElem?_append_left (by omega), List.getElem?_append_left (by omega)]
      exact ⟨by omega, hvoltage, hcurrent⟩
  · rintro ⟨hlast, hshape⟩
    rcases List.eq_nil_or_concat' tail with rfl | ⟨fields, b, rfl⟩
    · simp at hlast
    · obtain rfl : b = 0x85 := by simpa using hlast
      have hlen : (fields ++ [0x85]).length = fields.length + 1 := by simp
      rw [hlen] at hshape
      refine ⟨fields, rfl, ?_⟩
      rcases hshape with h | ⟨h, htag⟩ | ⟨h, hvoltage, hcurrent⟩
      · left
        simpa using h
      · right; left
        rw [List.getElem?_append_left (by omega)] at htag
        exact ⟨by omega, htag⟩
      · right; right
        rw [List.getElem?_append_left (by omega)] at hvoltage hcurrent
        exact ⟨by omega, hvoltage, hcurrent⟩

section
variable (front tail : Bytes)

/-- A tag behind `front`. -/
theorem tagged_behind (k need : Nat) (tag : UInt8) :
    Tagged (front ++ tail) (front.length + k) need tag.toNat ↔ k + need ≤ tail.length ∧ tail[k]? = some tag := by
  unfold Tagged
  rw [List.getElem?_append_right (by omega), Nat.add_sub_cancel_left, List.length_append]
  refine and_congr (by omega) ?_
  cases tail[k]? with
  | none => simp
  | some b => simp [UInt8.toNat_inj]

theorem socLast_behind (k : Nat) :
    SocLast (front ++ tail) (front.length + k) ↔ tail[k]? = some 0x85 ∧ tail.length = k + 1 := by
  unfold SocLast
  rw [show 0x85 = (0x85 : UInt8).toNat from rfl, tagged_behind, List.length_append]
  constructor
  · rintro ⟨⟨-, htag⟩, hlen⟩
    exact ⟨htag, by omega⟩
  · rintro ⟨htag, hlen⟩
    exact ⟨⟨by omega, htag⟩, by omega⟩

/-- Three bytes are passed by for each temperature. -/
theorem voltageOffset_eq :
    voltageOffset (front ++ tail) front.length = front.length + min 3 (tail.length / 3) * 3 := by
  unfold voltageOffset pass
  simp only [List.length_append]
  split_ifs <;> omega

/-- A field is passed by when its tag is there. -/
theorem pass_behind (k : Nat) (tag : UInt8) :
    pass (front.length + k) (Tagged (front ++ tail) (front.length + k) 3 tag.toNat) =
      front.length + if k + 3 ≤ tail.length ∧ tail[k]? = some tag then k + 3 else k := by
  unfold pass
  simp only [tagged_behind]
  split_ifs <;> omega

theorem socLast_iff : SocLast (front ++ tail) (socOffset (front ++ tail) front.length) ↔
    ∃ fields, tail = fields ++ [0x85] ∧ WholeFields fields := by
  unfold socOffset currentOffset
  rw [voltageOffset_eq, show 0x83 = (0x83 : UInt8).toNat from rfl, show 0x84 = (0x84 : UInt8).toNat from rfl,
    pass_behind, pass_behind, socLast_behind, wholeFields_iff]
  have hlast (k : Nat) : tail[k]? = some 0x85 ∧ tail.length = k + 1 ↔
      tail[tail.length - 1]? = some 0x85 ∧ tail.length = k + 1 :=
    and_congr_left fun h => by rw [show tail.length - 1 = k by omega]
  rw [hlast]
  refine and_congr_right fun _ => ?_
  simp only [List.mem_cons, List.not_mem_nil, or_false]
  rcases Nat.lt_or_ge tail.length 12 with hshort | hlong
  · -- no three bytes are left for a tag
    rw [if_neg (show ¬ (min 3 (tail.length / 3) * 3 + 3 ≤ tail.length ∧ _) from fun h => by omega),
      if_neg (fun h => by omega)]
    omega
  · rw [show min 3 (tail.length / 3) * 3 = 9 by omega]
    have hle : 9 + 3 ≤ tail.length := hlong
    by_cases hvoltage : tail[9]? = some 0x83
    · -- the current is looked for behind the voltage
      simp only [hvoltage, hle, and_self, if_true, Nat.reduceAdd, true_or, true_and, and_true]
      by_cases hcurrent : tail[12]? = some 0x84
      · simp only [hcurrent, and_true]
        split_ifs <;> omega
      · simp only [hcurrent, and_false, if_false, or_false]
        omega
    · simp only [hvoltage, and_false, false_and, if_false, false_or, or_false]
      by_cases hcurrent : tail[9]? = some 0x84
      · simp only [hcurrent, hle, and_self, if_true, and_true]
        omega
      · simp only [hcurrent, and_false, if_false, or_false]
        omega

end

/-- The body ends where the value of the state of charge would be. -/
def SocCut (body : Bytes) : Prop :=
  ∃ byteCount filler cells fields, body = 0x79 :: byteCount :: filler :: (cells ++ (fields ++ [0x85])) ∧
    1 ≤ byteCount.toNat / 3 ∧ byteCount.toNat / 3 ≤ 64 ∧ cells.length = byteCount.toNat / 3 * 3 ∧ WholeFields fields

theorem scanCells_ok {data : Bytes} {cellCount : Nat} (h : cellCount * 3 + 3 ≤ data.length) :
    ∃ cells, scanCells data cellCount = .ok cells := by
  unfold scanCells
  induction cellCount with
  | zero => exact ⟨_, rfl⟩
  | succ n ih =>
    obtain ⟨cells, hcells⟩ := ih (by omega)
    obtain ⟨raw, hraw⟩ := getU16_ok (show 3 + n * 3 + 1 + 2 ≤ data.length by omega)
    have hcell : scanCell data cells n = .ok (cells.add n (raw * 0.001)) := by
      show (byteAt data (3 + n * 3) >>= fun _ => _) = _
      rw [byteAt_ok (show 3 + n * 3 < data.length by omega), ok_bind, hraw]
      rfl
    rw [List.range_succ, List.foldlM_append, hcells, ok_bind, List.foldlM_cons, hcell]
    exact ⟨_, rfl⟩

/-- The cells are in front of the fields. -/
theorem parseStatus_behind {byteCount filler : UInt8} {cells tail : Bytes} (hsome : 1 ≤ byteCount.toNat / 3)
    (hfew : byteCount.toNat / 3 ≤ 64) (hwidth : cells.length = byteCount.toNat / 3 * 3) :
    (∃ result, parseStatus (0x79 :: byteCount :: filler :: (cells ++ tail)) = .ok result) ↔
      ¬ ∃ fields, tail = fields ++ [0x85] ∧ WholeFields fields := by
  have hfront : (0x79 :: byteCount :: filler :: cells).length = byteCount.toNat / 3 * 3 + 3 := by
    simp only [List.length_cons]
    omega
  have hsoc := socLast_iff (0x79 :: byteCount :: filler :: cells) tail
  rw [hfront] at hsoc
  rw [← hsoc]
  generalize hbody : 0x79 :: byteCount :: filler :: (cells ++ tail) = body
  have hlen : byteCount.toNat / 3 * 3 + 3 ≤ body.length := by
    rw [← hbody]
    simp only [List.length_cons, List.length_append]
    omega
  have hmarker : byteAt body 0 = .ok 0x79 := hbody ▸ rfl
  have hcount : byteAt body 1 = .ok byteCount.toNat := hbody ▸ rfl
  obtain ⟨scan, hscan⟩ := scanCells_ok hlen
  have hfields := readFields_returns_iff body
    ⟨byteCount.toNat / 3 * 3 + 3, scan.result.sets (scan.summary (byteCount.toNat / 3))⟩
  unfold parseStatus
  rw [if_neg (by omega), hmarker, ok_bind, if_neg (by decide), hcount, ok_bind]
  simp only
  rw [if_neg (by omega), if_neg (by omega), hscan, ok_bind]
  have hsame : 0x79 :: byteCount :: filler :: cells ++ tail = body := hbody
  rw [hsame, ← hfields]
  constructor
  · rintro ⟨_, hresult⟩
    obtain ⟨result, hread, -⟩ := bind_eq_ok.mp hresult
    exact ⟨result, hread⟩
  · rintro ⟨result, hread⟩
    exact ⟨some result, by rw [hread]; rfl⟩

/-- A body is refused, or begins with the marker and its cells. -/
theorem parseStatus_cases (body : Bytes) : parseStatus body = .ok none ∨
    ∃ byteCount filler cells tail, body = 0x79 :: byteCount :: filler :: (cells ++ tail) ∧
      1 ≤ byteCount.toNat / 3 ∧ byteCount.toNat / 3 ≤ 64 ∧ cells.length = byteCount.toNat / 3 * 3 := by
  match body with
  | [] | [_] => exact Or.inl rfl
  | marker :: byteCount :: rest =>
    have hmarker : byteAt (marker :: byteCount :: rest) 0 = .ok marker.toNat := rfl
    have hcount : byteAt (marker :: byteCount :: rest) 1 = .ok byteCount.toNat := rfl
    unfold parseStatus
    rw [if_neg (by simp only [List.length_cons]; omega), hmarker, ok_bind]
    by_cases h79 : marker.toNat = 0x79
    · rw [if_neg (not_not.mpr h79), hcount, ok_bind]
      by_cases hcells : byteCount.toNat / 3 = 0 ∨ 64 < byteCount.toNat / 3
      · exact Or.inl (if_pos hcells)
      · by_cases hlen : (marker :: byteCount :: rest).length < byteCount.toNat / 3 * 3 + 3
        · exact Or.inl ((if_neg hcells).trans (if_pos hlen))
        · refine Or.inr ?_
          obtain rfl : marker = 0x79 := UInt8.toNat_inj.mp h79
          simp only [List.length_cons] at hlen
          obtain ⟨filler, rest, rfl⟩ := List.exists_cons_of_length_pos (show 0 < rest.length by omega)
          rw [List.length_cons] at hlen
          refine ⟨byteCount, filler, rest.take (byteCount.toNat / 3 * 3), rest.drop (byteCount.toNat / 3 * 3), ?_,
            by omega, by omega, ?_⟩
          · rw [List.take_append_drop]
          · rw [List.length_take]
            omega
    · exact Or.inl (if_pos h79)

theorem parseStatus_returns_iff (body : Bytes) : (∃ result, parseStatus body = .ok result) ↔ ¬ SocCut body := by
  constructor
  · rintro hreturns ⟨byteCount, filler, cells, fields, rfl, hsome, hfew, hwidth, hfields⟩
    exact (parseStatus_behind hsome hfew hwidth).mp hreturns ⟨fields, rfl, hfields⟩
  · intro hcut
    rcases parseStatus_cases body with hnone | ⟨byteCount, filler, cells, tail, rfl, hsome, hfew, hwidth⟩
    · exact ⟨none, hnone⟩
    · refine (parseStatus_behind hsome hfew hwidth).mpr ?_
      rintro ⟨fields, rfl, hfields⟩
      exact hcut ⟨byteCount, filler, cells, fields, rfl, hsome, hfew, hwidth, hfields⟩

/-! ## Frames -/

theorem not_neither_iff {α : Type} {a b c : α} : ¬ (a ≠ b ∧ a ≠ c) ↔ a = b ∨ a = c := by
  rw [not_and_or, not_not, not_not]

/-- The data of a frame that passes the checks: `dataLen` bytes behind the header. -/
structure Checked (data : Bytes) (dataLen : Nat) : Prop where
  long : 20 ≤ data.length
  magic : data.take 2 = MAGIC
  function : byteAt data 8 = .ok FUNCTION_READ_ALL ∨ byteAt data 8 = .ok 0x03
  declared : getU16 data 10 = .ok dataLen
  complete : 12 + dataLen + 4 ≤ data.length
  checksum : getU32 data (12 + dataLen) = .ok (jkChecksum (data.take (12 + dataLen))) ∨
    getU32 data (12 + dataLen) = .ok (jkChecksum (slice data 2 (12 + dataLen)))

theorem Checked.parseFrame {data : Bytes} {dataLen : Nat} (h : Checked data dataLen) :
    parseFrame data = parseStatus (slice data 12 (12 + dataLen)) := by
  obtain ⟨hlong, hmagic, hfunction, hdeclared, hcomplete, hchecksum⟩ := h
  obtain ⟨frameLen, hframe⟩ := getU16_ok (show 2 + 2 ≤ data.length by omega)
  obtain ⟨function, hbyte, hknown⟩ : ∃ function, byteAt data 8 = .ok function ∧
      ¬ (function ≠ FUNCTION_READ_ALL ∧ function ≠ 0x03) := by
    rcases hfunction with h | h
    · exact ⟨_, h, not_neither_iff.mpr (Or.inl rfl)⟩
    · exact ⟨_, h, not_neither_iff.mpr (Or.inr rfl)⟩
  obtain ⟨crc, hcrc, hsum⟩ : ∃ crc, getU32 data (12 + dataLen) = .ok crc ∧
      ¬ (crc ≠ jkChecksum (data.take (12 + dataLen)) ∧ crc ≠ jkChecksum (slice data 2 (12 + dataLen))) := by
    rcases hchecksum with h | h
    · exact ⟨_, h, not_neither_iff.mpr (Or.inl rfl)⟩
    · exact ⟨_, h, not_neither_iff.mpr (Or.inr rfl)⟩
  unfold JkBms.parseFrame
  rw [if_neg (by omega), if_neg (not_not.mpr hmagic), hframe, ok_bind, hbyte, ok_bind, hdeclared, ok_bind, if_neg hknown]
  simp only [Nat.add_sub_cancel]
  rw [if_neg (by omega), hcrc, ok_bind, if_neg hsum]

/-- A frame is refused, or it passes the checks. -/
theorem parseFrame_cases (data : Bytes) : parseFrame data = .ok none ∨ ∃ dataLen, Checked data dataLen := by
  unfold parseFrame
  by_cases hlong : data.length < 20
  · exact Or.inl (if_pos hlong)
  obtain ⟨frameLen, hframe⟩ := getU16_ok (show 2 + 2 ≤ data.length by omega)
  obtain ⟨dataLen, hdeclared⟩ := getU16_ok (show 10 + 2 ≤ data.length by omega)
  have hbyte := byteAt_ok (show 8 < data.length by omega)
  rw [if_neg hlong, hframe, ok_bind, hbyte, ok_bind, hdeclared, ok_bind]
  simp only [Nat.add_sub_cancel]
  by_cases hmagic : data.take 2 = MAGIC
  · rw [if_neg (not_not.mpr hmagic)]
    by_cases hknown : data[8].toNat ≠ FUNCTION_READ_ALL ∧ data[8].toNat ≠ 0x03
    · exact Or.inl (if_pos hknown)
    rw [if_neg hknown]
    by_cases hcomplete : data.length < 12 + dataLen + 4
    · exact Or.inl (if_pos hcomplete)
    obtain ⟨crc, hcrc⟩ := getU32_ok (show 12 + dataLen + 4 ≤ data.length by omega)
    rw [if_neg hcomplete, hcrc, ok_bind]
    by_cases hsum : crc ≠ jkChecksum (data.take (12 + dataLen)) ∧ crc ≠ jkChecksum (slice data 2 (12 + dataLen))
    · exact Or.inl (if_pos hsum)
    refine Or.inr ⟨dataLen, by omega, hmagic, ?_, hdeclared, by omega, ?_⟩
    · rw [hbyte]
      rcases not_neither_iff.mp hknown with h | h
      · exact Or.inl (congrArg _ h)
      · exact Or.inr (congrArg _ h)
    · rw [hcrc]
      rcases not_neither_iff.mp hsum with h | h
      · exact Or.inl (congrArg _ h)
      · exact Or.inr (congrArg _ h)
  · exact Or.inl (if_pos hmagic)

/-- `_parse_frame` returns unless the body ends with the tag of the state of charge. -/
theorem parseFrame_returns_iff (data : Bytes) : (∃ result, parseFrame data = .ok result) ↔
    ¬ ∃ dataLen, Checked data dataLen ∧ SocCut (slice data 12 (12 + dataLen)) := by
  constructor
  · rintro hreturns ⟨dataLen, hchecked, hcut⟩
    rw [hchecked.parseFrame] at hreturns
    exact (parseStatus_returns_iff _).mp hreturns hcut
  · intro hnot
    rcases parseFrame_cases data with hnone | ⟨dataLen, hchecked⟩
    · exact ⟨none, hnone⟩
    · rw [hchecked.parseFrame]
      exact (parseStatus_returns_iff _).mpr fun hcut => hnot ⟨dataLen, hchecked, hcut⟩

/-- One cell, no temperatures, and the tag as the last byte of the body. -/
def cutFrame : Bytes := [0x4E, 0x57, 0x00, 0x15, 0x00, 0x00, 0x00, 0x00, 0x06, 0x00, 0x00, 0x07,
  0x79, 0x03, 0x00, 0x01, 0x0D, 0x00, 0x85, 0x00, 0x00, 0x01, 0xD6]

theorem cut_frame_raises :
    parseFrame cutFrame = .error .indexError ∧ ¬ ∀ data, ∃ result, parseFrame data = .ok result := by
  have hraises : parseFrame cutFrame = .error .indexError := rfl
  refine ⟨hraises, fun hall => ?_⟩
  obtain ⟨result, hresult⟩ := hall cutFrame
  rw [hraises] at hresult
  cases hresult

end LuxMon.JkBms
