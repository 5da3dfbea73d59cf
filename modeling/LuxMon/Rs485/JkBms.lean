import LuxMon.Protocol.Frame
import LuxMon.Storage.Decode

/-!
# JK BMS status frames

`_parse_status` reads the cells from offset 3 on, behind a byte that the layout does not
have: the byte count is at offset 1 and the first cell follows it.  From there on every
field is read one byte late.

    a body in this layout is never decoded as it is                  (status_misread)
    with one more byte in front of the cells it would be             (parseStatus_padded)
-/

namespace LuxMon.JkBms

open Python

/-! ## Algorithm -/

def MAGIC : Bytes := [0x4E, 0x57]

def FUNCTION_READ_ALL : Nat := 0x06

/-- `_jk_checksum`. -/
def jkChecksum (data : Bytes) : Nat := (data.map UInt8.toNat).sum % 2 ^ 32

/-- `_get_u16`. -/
def getU16 (data : Bytes) (offset : Nat) : Except PyErr Nat := do
  let high ← byteAt data offset
  let low ← byteAt data (offset + 1)
  return high <<< 8 ||| low

/-- `_get_u32`. -/
def getU32 (data : Bytes) (offset : Nat) : Except PyErr Nat := do
  let high ← getU16 data offset
  let low ← getU16 data (offset + 2)
  return high <<< 16 ||| low

/-- `_temperature`. -/
def temperature (raw : Nat) : ℚ := if 100 < raw then (raw : ℚ) - 100 - 100 else raw

/-- `_current`. -/
def current (raw signByte : Nat) : ℚ :=
  let current : ℚ := raw * 0.01
  if signByte &&& 0x01 ≠ 0 then -current else current

/-- An entry of the result. -/
def entry (value : ℚ) (unit : String) : Info := { value := .float (.fin value), unit := unit }

theorem entry_inj {x y : ℚ} {unit : String} (h : entry x unit = entry y unit) : x = y :=
  PyFloat.fin.inj (Json.float.inj (congrArg Info.value h))

def cellKey (i : Nat) : String := s!"cell_{i}_voltage"

/-- What the loop over the cells keeps. -/
structure CellScan where
  minCell : ℚ := 100
  maxCell : ℚ := 0
  sumCells : ℚ := 0
  minIdx : Nat := 0
  maxIdx : Nat := 0
  result : Decoded := .empty

/-- What one voltage changes. -/
def CellScan.add (s : CellScan) (i : Nat) (voltage : ℚ) : CellScan where
  minCell := if voltage < s.minCell then voltage else s.minCell
  maxCell := if s.maxCell < voltage then voltage else s.maxCell
  sumCells := s.sumCells + voltage
  minIdx := if voltage < s.minCell then i + 1 else s.minIdx
  maxIdx := if s.maxCell < voltage then i + 1 else s.maxIdx
  result := s.result.set (cellKey (i + 1)) (entry voltage "V")

/-- One turn of the loop over the cells. -/
def scanCell (data : Bytes) (s : CellScan) (i : Nat) : Except PyErr CellScan := do
  let offset := 3 + i * 3
  let _idx ← byteAt data offset
  let raw ← getU16 data (offset + 1)
  return s.add i (raw * 0.001)

def scanCells (data : Bytes) (cellCount : Nat) : Except PyErr CellScan := (List.range cellCount).foldlM (scanCell data) {}

/-- What is derived from the cells. -/
def CellScan.summary (s : CellScan) (cellCount : Nat) : List (String × Info) := [
  ("cell_min_voltage", entry s.minCell "V"),
  ("cell_max_voltage", entry s.maxCell "V"),
  ("cell_avg_voltage", entry (s.sumCells / cellCount) "V"),
  ("cell_delta_voltage", entry (s.maxCell - s.minCell) "V"),
  ("cell_min_index", entry s.minIdx ""),
  ("cell_max_index", entry s.maxIdx ""),
  ("cell_count", entry cellCount "")]

/-- Where the tagged fields are read, and the result so far. -/
structure Cursor where
  offset : Nat
  result : Decoded

/-- `tag_value`: a wrong tag is only logged. -/
def tagValue (data : Bytes) (offset : Nat) : Except PyErr (Nat × Nat) :=
  if data.length < offset + 3 then return (0, offset)
  else do
    let _tag ← byteAt data offset
    let val ← getU16 data (offset + 1)
    return (val, offset + 3)

/-- `len(data) >= offset + need and data[offset] == tag`. -/
def hasTag (data : Bytes) (offset need tag : Nat) : Except PyErr Bool :=
  if offset + need ≤ data.length then do
    let b ← byteAt data offset
    return b == tag
  else return false

/-- A temperature, whatever its tag. -/
def readTemperature (data : Bytes) (key : String) (c : Cursor) : Except PyErr Cursor :=
  if c.offset + 3 ≤ data.length then do
    let (raw, offset) ← tagValue data c.offset
    return { offset := offset, result := c.result.set key (entry (temperature raw) "°C") }
  else return c

def readTotalVoltage (data : Bytes) (c : Cursor) : Except PyErr (ℚ × Cursor) := do
  if ← hasTag data c.offset 3 0x83 then
    let (raw, offset) ← tagValue data c.offset
    let totalVoltage : ℚ := raw * 0.01
    return (totalVoltage, { offset := offset, result := c.result.set "total_voltage" (entry totalVoltage "V") })
  else return (0, c)

/-- `data[offset] if len(data) > offset else 0`. -/
def byteOrZero (data : Bytes) (offset : Nat) : Except PyErr Nat :=
  if offset < data.length then byteAt data offset else return 0

/-- The powers, when there is a voltage. -/
def powers (totalVoltage amps : ℚ) : List (String × Info) :=
  if totalVoltage ≠ 0 then
    let power := totalVoltage * amps
    [("power", entry power "W"), ("charge_power", entry (max 0 power) "W"), ("discharge_power", entry |min 0 power| "W")]
  else []

/-- The byte that follows the current is taken for its sign. -/
def readCurrent (data : Bytes) (totalVoltage : ℚ) (c : Cursor) : Except PyErr Cursor := do
  if ← hasTag data c.offset 3 0x84 then
    let (rawCurrent, offset) ← tagValue data c.offset
    let signByte ← byteOrZero data offset
    let amps := current rawCurrent signByte
    return { offset := offset, result := (c.result.set "current" (entry amps "A")).sets (powers totalVoltage amps) }
  else return c

/-- A field behind its tag: `need` bytes are asked for, `width` are used up. -/
def readField (data : Bytes) (tag need width : Nat) (read : Nat → Except PyErr Nat) (key unit : String) (c : Cursor) :
    Except PyErr Cursor := do
  if ← hasTag data c.offset need tag then
    let value ← read (c.offset + 1)
    return { offset := c.offset + width, result := c.result.set key (entry value unit) }
  else return c

/-- One byte is asked for, two are read. -/
def readSoc (data : Bytes) : Cursor → Except PyErr Cursor := readField data 0x85 1 2 (byteAt data) "soc" "%"

def readSensorCount (data : Bytes) : Cursor → Except PyErr Cursor :=
  readField data 0x86 2 2 (byteAt data) "temperature_sensor_count" ""

def readCycleCount (data : Bytes) : Cursor → Except PyErr Cursor := readField data 0x87 3 3 (getU16 data) "cycle_count" ""

def readCycleCapacity (data : Bytes) : Cursor → Except PyErr Cursor :=
  readField data 0x89 5 5 (getU32 data) "total_cycle_capacity" "Ah"

def readTotalStrings (data : Bytes) : Cursor → Except PyErr Cursor :=
  readField data 0x8A 3 3 (getU16 data) "total_strings" ""

def readWarnings (data : Bytes) : Cursor → Except PyErr Cursor :=
  readField data 0x8B 3 3 (getU16 data) "warning_bitmask" ""

/-- `float(bool(mode & bit))`. -/
def flag (mode bit : Nat) : ℚ := if mode &&& bit ≠ 0 then 1 else 0

def readMode (data : Bytes) (c : Cursor) : Except PyErr Cursor := do
  if ← hasTag data c.offset 3 0x8C then
    let mode ← getU16 data (c.offset + 1)
    return { offset := c.offset + 3, result := c.result.sets [
      ("operation_mode_bitmask", entry mode ""), ("charging_enabled", entry (flag mode 0x01) ""),
      ("discharging_enabled", entry (flag mode 0x02) ""), ("balancing_enabled", entry (flag mode 0x04) "")] }
  else return c

/-- The scan for 0xAA. -/
def scanCapacity (data : Bytes) (result : Decoded) : List Nat → Except PyErr Decoded
  | [] => return result
  | scan :: rest => do
    let b ← byteAt data scan
    if b = 0xAA then
      let capacity ← getU32 data (scan + 1)
      return result.set "full_charge_capacity" (entry capacity "Ah")
    else scanCapacity data result rest

/-- `range(offset, min(len(data) - 5, offset + 120))`. -/
def scanRange (data : Bytes) (offset : Nat) : List Nat :=
  List.range' offset (min (data.length - 5) (offset + 120) - offset)

/-- The fields behind the total voltage. -/
def readOthers (data : Bytes) (totalVoltage : ℚ) (c : Cursor) : Except PyErr Decoded := do
  let c ← readCurrent data totalVoltage c
  let c ← readSoc data c
  let c ← readSensorCount data c
  let c ← readCycleCount data c
  let c ← readCycleCapacity data c
  let c ← readTotalStrings data c
  let c ← readWarnings data c
  let c ← readMode data c
  scanCapacity data c.result (scanRange data c.offset)

/-- The tagged fields. -/
def readFields (data : Bytes) (c : Cursor) : Except PyErr Decoded := do
  let c ← readTemperature data "mosfet_temperature" c
  let c ← readTemperature data "battery_box_temperature" c
  let c ← readTemperature data "battery_temperature_1" c
  let (totalVoltage, c) ← readTotalVoltage data c
  readOthers data totalVoltage c

/-- `_parse_status`. -/
def parseStatus (data : Bytes) : Except PyErr (Option Decoded) := do
  if data.length < 2 then return none
  let marker ← byteAt data 0
  if marker ≠ 0x79 then return none
  let byteCount ← byteAt data 1
  let cellCount := byteCount / 3
  if cellCount = 0 ∨ 64 < cellCount then return none
  if data.length < cellCount * 3 + 3 then return none
  let cells ← scanCells data cellCount
  let result ← readFields data { offset := cellCount * 3 + 3, result := cells.result.sets (cells.summary cellCount) }
  return some result

/-- `_parse_frame`: the length at offset 2 is not looked at. -/
def parseFrame (data : Bytes) : Except PyErr (Option Decoded) := do
  if data.length < 20 then return none
  if data.take 2 ≠ MAGIC then return none
  let _frameLen ← getU16 data 2
  let function ← byteAt data 8
  let dataLen ← getU16 data 10
  if function ≠ FUNCTION_READ_ALL ∧ function ≠ 0x03 then return none
  let expectedLen := 12 + dataLen + 4
  if data.length < expectedLen then return none
  let storedCrc ← getU32 data (expectedLen - 4)
  -- some firmware leaves the magic bytes out of the sum
  if storedCrc ≠ jkChecksum (data.take (expectedLen - 4)) ∧ storedCrc ≠ jkChecksum (slice data 2 (expectedLen - 4)) then
    return none
  parseStatus (slice data 12 (expectedLen - 4))

/-! ## Keys -/

theorem cellKey_toList (i : Nat) :
    (cellKey i).toList = "cell_".toList ++ Nat.toDigits 10 i ++ "_voltage".toList := by
  show ("cell_" ++ i.repr ++ "_voltage").toList = _
  rw [String.toList_append, String.toList_append, Nat.toList_repr]

theorem cellKey_inj {i j : Nat} (h : cellKey i = cellKey j) : i = j := by
  have h := congrArg String.toList h
  rw [cellKey_toList, cellKey_toList, List.append_left_inj, List.append_right_inj] at h
  rw [← Nat.ofDigitChars_ten_toDigits (n := i), h, Nat.ofDigitChars_ten_toDigits]

/-- A key without a digit in that place is none of a cell. -/
theorem cellKey_ne {key : String} (h : (key.toList[5]?).all (fun c => !c.isDigit) = true) (i : Nat) : key ≠ cellKey i := by
  rintro rfl
  have hhead : (cellKey i).toList[5]? = (Nat.toDigits 10 i).head? := by
    rw [cellKey_toList, List.append_assoc, List.getElem?_append_right (by decide)]
    cases hdigits : Nat.toDigits 10 i with
    | nil => exact absurd hdigits Nat.toDigits_ne_nil
    | cons d ds => rfl
  rw [hhead] at h
  cases hdigits : Nat.toDigits 10 i with
  | nil => exact Nat.toDigits_ne_nil hdigits
  | cons d ds =>
    have hdigit : d.isDigit = true :=
      Nat.isDigit_of_mem_toDigits (by decide) (by decide) (hdigits ▸ List.mem_cons_self)
    rw [hdigits] at h
    simp [hdigit] at h

/-! ## The cells -/

/-- The loop on the voltages that it reads. -/
def scanned (voltages : List ℚ) : CellScan := voltages.zipIdx.foldl (fun s x => s.add x.2 x.1) {}

theorem scanned_concat (voltages : List ℚ) (v : ℚ) :
    scanned (voltages ++ [v]) = (scanned voltages).add voltages.length v := by
  unfold scanned
  rw [List.zipIdx_append, List.foldl_append]
  simp

theorem scanned_cells (voltages : List ℚ) (i : Nat) :
    (scanned voltages).result.get? (cellKey (i + 1)) = voltages[i]?.map fun v => entry v "V" := by
  induction voltages using List.reverseRecOn with
  | nil => rfl
  | append_singleton voltages v ih =>
    rw [scanned_concat]
    show ((scanned voltages).result.set _ _).get? _ = _
    rw [Dict.get?_set]
    by_cases hi : i = voltages.length
    · subst hi
      simp
    · rw [if_neg fun h => hi (Nat.succ.inj (cellKey_inj h)), ih]
      rcases Nat.lt_or_gt_of_ne hi with h | h
      · rw [List.getElem?_append_left h]
      · have hlen : (voltages ++ [v]).length ≤ i := by simpa using h
        rw [List.getElem?_eq_none h.le, List.getElem?_eq_none hlen]

theorem scanned_other {voltages : List ℚ} {key : String} (h : ∀ i, key ≠ cellKey i) :
    (scanned voltages).result.get? key = none := by
  induction voltages using List.reverseRecOn with
  | nil => rfl
  | append_singleton voltages v ih =>
    rw [scanned_concat]
    show ((scanned voltages).result.set _ _).get? _ = _
    rw [Dict.get?_set, if_neg (h _), ih]

theorem scanned_sum (voltages : List ℚ) : (scanned voltages).sumCells = voltages.sum := by
  induction voltages using List.reverseRecOn with
  | nil => rfl
  | append_singleton voltages v ih =>
    rw [scanned_concat, List.sum_append, List.sum_singleton, ← ih]
    rfl

/-- The running minimum is below all of the list, and one of it unless it is still the start. -/
theorem foldl_min_least {α : Type} [LinearOrder α] (start : α) (l : List α) :
    (∀ v ∈ l, l.foldl min start ≤ v) ∧ (l.foldl min start ∈ l ∨ l.foldl min start = start) := by
  induction l using List.reverseRecOn with
  | nil => exact ⟨fun v hv => absurd hv List.not_mem_nil, Or.inr rfl⟩
  | append_singleton l w ih =>
    obtain ⟨hle, hmem⟩ := ih
    rw [List.foldl_append, List.foldl_cons, List.foldl_nil]
    constructor
    · intro v hv
      rcases List.mem_append.mp hv with hv | hv
      · exact (min_le_left _ _).trans (hle v hv)
      · exact List.mem_singleton.mp hv ▸ min_le_right _ _
    · rcases min_choice (l.foldl min start) w with h | h
      · rw [h]
        exact hmem.imp (List.mem_append_left _) id
      · rw [h]
        exact Or.inl (List.mem_append_right _ List.mem_cons_self)

theorem foldl_max_greatest {α : Type} [LinearOrder α] (start : α) (l : List α) :
    (∀ v ∈ l, v ≤ l.foldl max start) ∧ (l.foldl max start ∈ l ∨ l.foldl max start = start) :=
  foldl_min_least (OrderDual.toDual start) l

theorem scanned_minCell (voltages : List ℚ) : (scanned voltages).minCell = voltages.foldl min 100 := by
  induction voltages using List.reverseRecOn with
  | nil => rfl
  | append_singleton voltages v ih =>
    rw [scanned_concat, List.foldl_append, List.foldl_cons, List.foldl_nil, ← ih, min_comm, min_def_lt]
    rfl

theorem scanned_maxCell (voltages : List ℚ) : (scanned voltages).maxCell = voltages.foldl max 0 := by
  induction voltages using List.reverseRecOn with
  | nil => rfl
  | append_singleton voltages v ih =>
    rw [scanned_concat, List.foldl_append, List.foldl_cons, List.foldl_nil, ← ih, max_def_lt]
    rfl

theorem scanned_least {voltages : List ℚ} (hne : voltages ≠ []) (h : ∀ v ∈ voltages, v < 100) :
    (∀ v ∈ voltages, (scanned voltages).minCell ≤ v) ∧ (scanned voltages).minCell ∈ voltages := by
  obtain ⟨hle, hmem⟩ := foldl_min_least 100 voltages
  rw [← scanned_minCell] at hle hmem
  refine ⟨hle, hmem.resolve_right fun hstart => ?_⟩
  obtain ⟨v, hv⟩ := List.exists_mem_of_ne_nil voltages hne
  have hlt := (hle v hv).trans_lt (h v hv)
  exact hlt.ne hstart

theorem scanned_greatest {voltages : List ℚ} (hne : voltages ≠ []) (h : ∀ v ∈ voltages, 0 ≤ v) :
    (∀ v ∈ voltages, v ≤ (scanned voltages).maxCell) ∧ (scanned voltages).maxCell ∈ voltages := by
  obtain ⟨hle, hmem⟩ := foldl_max_greatest 0 voltages
  rw [← scanned_maxCell] at hle hmem
  refine ⟨hle, hmem.elim id fun hstart => ?_⟩
  -- all the voltages are 0, as the start
  obtain ⟨v, hv⟩ := List.exists_mem_of_ne_nil voltages hne
  have hzero : v = 0 := le_antisymm (hstart ▸ hle v hv) (h v hv)
  rw [hstart, ← hzero]
  exact hv

/-- Whatever it reads, the loop gives the scan of some voltages. -/
theorem scanCells_scanned {data : Bytes} {cellCount : Nat} {s : CellScan} (h : scanCells data cellCount = .ok s) :
    ∃ voltages, voltages.length = cellCount ∧ s = scanned voltages := by
  induction cellCount generalizing s with
  | zero =>
    cases h
    exact ⟨[], rfl, rfl⟩
  | succ n ih =>
    unfold scanCells at h
    rw [List.range_succ, List.foldlM_append] at h
    obtain ⟨s', hs', h⟩ := bind_eq_ok.mp h
    obtain ⟨voltages, hlen, rfl⟩ := ih hs'
    rw [List.foldlM_cons] at h
    obtain ⟨s'', hcell, h⟩ := bind_eq_ok.mp h
    cases h
    obtain ⟨idx, -, hcell⟩ := bind_eq_ok.mp hcell
    obtain ⟨raw, -, hcell⟩ := bind_eq_ok.mp hcell
    cases hcell
    exact ⟨voltages ++ [(raw : ℚ) * 0.001], by rw [List.length_append, hlen]; rfl, by rw [scanned_concat, hlen]⟩

/-! ## Reading at a place -/

/-- The bytes from the offset on. -/
def At (data : Bytes) (offset : Nat) (tail : Bytes) : Prop := ∃ front, data = front ++ tail ∧ front.length = offset

/-- `v` as two bytes, the high one first. -/
def be16 (v : UInt16) : Bytes := [UInt8.ofNat (v.toNat / 256), UInt8.ofNat v.toNat]

theorem high_toNat (v : UInt16) : (UInt8.ofNat (v.toNat / 256)).toNat = v.toNat / 256 := by
  have hlt := v.toNat_lt
  rw [UInt8.toNat_ofNat']
  omega

theorem low_toNat (v : UInt16) : (UInt8.ofNat v.toNat).toNat = v.toNat % 256 := UInt8.toNat_ofNat'

/-- Two bytes as a word. -/
theorem word_eq (high : Nat) {low : Nat} (h : low < 256) : high <<< 8 ||| low = high * 256 + low := by
  rw [← Nat.shiftLeft_add_eq_or_of_lt h, Nat.shiftLeft_eq]

section
variable {data tail : Bytes} {offset : Nat}

theorem At.length (h : At data offset tail) : data.length = offset + tail.length := by
  obtain ⟨front, rfl, rfl⟩ := h
  exact List.length_append

theorem At.skip {bs : Bytes} (h : At data offset (bs ++ tail)) : At data (offset + bs.length) tail := by
  obtain ⟨front, rfl, rfl⟩ := h
  exact ⟨front ++ bs, by rw [List.append_assoc], List.length_append⟩

theorem At.next {b : UInt8} (h : At data offset (b :: tail)) : At data (offset + 1) tail := by
  have hone : At data offset ([b] ++ tail) := h
  exact hone.skip

theorem At.byte {b : UInt8} (h : At data offset (b :: tail)) : byteAt data offset = .ok b.toNat := by
  obtain ⟨front, rfl, rfl⟩ := h
  unfold byteAt
  rw [List.getElem?_append_right le_rfl, Nat.sub_self]
  rfl

theorem At.u16 {high low : UInt8} (h : At data offset (high :: low :: tail)) :
    getU16 data offset = .ok (high.toNat <<< 8 ||| low.toNat) := by
  unfold getU16
  rw [h.byte, h.next.byte]
  rfl

theorem At.be16 {v : UInt16} (h : At data offset (be16 v ++ tail)) : getU16 data offset = .ok v.toNat := by
  rw [At.u16 h, high_toNat, low_toNat, word_eq _ (Nat.mod_lt _ (by decide)), Nat.div_add_mod']

theorem At.tagValue {tag high low : UInt8} (h : At data offset (tag :: high :: low :: tail)) :
    tagValue data offset = .ok (high.toNat <<< 8 ||| low.toNat, offset + 3) := by
  have hlen := h.length
  unfold JkBms.tagValue
  rw [if_neg (by simp only [List.length_cons] at hlen; omega), h.byte, h.next.u16]
  rfl

theorem At.hasTag {b : UInt8} (h : At data offset (b :: tail)) {need tag : Nat} (hneed : need ≤ tail.length + 1) :
    hasTag data offset need tag = .ok (b.toNat == tag) := by
  have hlen := h.length
  unfold JkBms.hasTag
  rw [if_pos (by rw [List.length_cons] at hlen; omega), h.byte]
  rfl

/-- Nothing is left. -/
theorem At.hasTag_end (h : At data offset []) {need : Nat} (hneed : 0 < need) (tag : Nat) :
    JkBms.hasTag data offset need tag = .ok false := by
  have hlen := h.length
  unfold JkBms.hasTag
  rw [if_neg (by rw [List.length_nil] at hlen; omega)]
  rfl

end

/-! ## The tagged fields -/

section
variable {data : Bytes} {c c' : Cursor} {key : String}

theorem readTemperature_keeps {name : String} (h : readTemperature data name c = .ok c') (hne : key ≠ name) :
    c'.result.get? key = c.result.get? key := by
  unfold readTemperature at h
  split_ifs at h
  · obtain ⟨⟨raw, offset⟩, -, h⟩ := bind_eq_ok.mp h
    cases h
    rw [Dict.get?_set, if_neg hne]
  · cases h
    rfl

theorem readTotalVoltage_keeps {totalVoltage : ℚ} (h : readTotalVoltage data c = .ok (totalVoltage, c'))
    (hne : key ≠ "total_voltage") : c'.result.get? key = c.result.get? key := by
  obtain ⟨found, -, h⟩ := bind_eq_ok.mp h
  split_ifs at h
  · obtain ⟨⟨raw, offset⟩, -, h⟩ := bind_eq_ok.mp h
    cases h
    rw [Dict.get?_set, if_neg hne]
  · cases h
    rfl

theorem readCurrent_keeps {totalVoltage : ℚ} (h : readCurrent data totalVoltage c = .ok c')
    (hne : key ∉ ["current", "power", "charge_power", "discharge_power"]) : c'.result.get? key = c.result.get? key := by
  obtain ⟨found, -, h⟩ := bind_eq_ok.mp h
  have hcurrent : key ≠ "current" := fun heq => hne (heq ▸ List.mem_cons_self)
  have hpowers : key ∉ ["power", "charge_power", "discharge_power"] := fun hmem => hne (List.mem_cons_of_mem _ hmem)
  split_ifs at h
  · obtain ⟨⟨raw, offset⟩, -, h⟩ := bind_eq_ok.mp h
    obtain ⟨signByte, -, h⟩ := bind_eq_ok.mp h
    cases h
    have hother : key ∉ (powers totalVoltage (current raw signByte)).map Prod.fst := by
      unfold powers
      split_ifs
      · exact hpowers
      · exact List.not_mem_nil
    rw [Dict.get?_sets_other hother, Dict.get?_set, if_neg hcurrent]
  · cases h
    rfl

theorem readField_keeps {tag need width : Nat} {read : Nat → Except PyErr Nat} {name unit : String}
    (h : readField data tag need width read name unit c = .ok c') (hne : key ≠ name) :
    c'.result.get? key = c.result.get? key := by
  obtain ⟨found, -, h⟩ := bind_eq_ok.mp h
  split_ifs at h
  · obtain ⟨value, -, h⟩ := bind_eq_ok.mp h
    cases h
    rw [Dict.get?_set, if_neg hne]
  · cases h
    rfl

theorem readMode_keeps (h : readMode data c = .ok c') (hne : key ∉ ["operation_mode_bitmask", "charging_enabled",
    "discharging_enabled", "balancing_enabled"]) : c'.result.get? key = c.result.get? key := by
  obtain ⟨found, -, h⟩ := bind_eq_ok.mp h
  split_ifs at h
  · obtain ⟨mode, -, h⟩ := bind_eq_ok.mp h
    cases h
    exact Dict.get?_sets_other hne
  · cases h
    rfl

theorem scanCapacity_keeps {result result' : Decoded} {scans : List Nat} (h : scanCapacity data result scans = .ok result')
    (hne : key ≠ "full_charge_capacity") : result'.get? key = result.get? key := by
  induction scans with
  | nil =>
    cases h
    rfl
  | cons scan scans ih =>
    obtain ⟨b, -, h⟩ := bind_eq_ok.mp h
    split_ifs at h
    · obtain ⟨capacity, -, h⟩ := bind_eq_ok.mp h
      cases h
      rw [Dict.get?_set, if_neg hne]
    · exact ih h

/-- The keys behind the total voltage. -/
def otherKeys : List String := ["current", "power", "charge_power", "discharge_power", "soc", "temperature_sensor_count",
  "cycle_count", "total_cycle_capacity", "total_strings", "warning_bitmask", "operation_mode_bitmask",
  "charging_enabled", "discharging_enabled", "balancing_enabled", "full_charge_capacity"]

theorem readOthers_keeps {totalVoltage : ℚ} {result : Decoded} (h : readOthers data totalVoltage c = .ok result)
    (hne : key ∉ otherKeys) : result.get? key = c.result.get? key := by
  have hother : ∀ {name : String}, name ∈ otherKeys → key ≠ name := fun hmem heq => hne (heq ▸ hmem)
  have hlist : ∀ {names : List String}, (∀ name ∈ names, name ∈ otherKeys) → key ∉ names := fun hsub hmem =>
    hne (hsub key hmem)
  obtain ⟨c₁, h₁, h⟩ := bind_eq_ok.mp h
  obtain ⟨c₂, h₂, h⟩ := bind_eq_ok.mp h
  obtain ⟨c₃, h₃, h⟩ := bind_eq_ok.mp h
  obtain ⟨c₄, h₄, h⟩ := bind_eq_ok.mp h
  obtain ⟨c₅, h₅, h⟩ := bind_eq_ok.mp h
  obtain ⟨c₆, h₆, h⟩ := bind_eq_ok.mp h
  obtain ⟨c₇, h₇, h⟩ := bind_eq_ok.mp h
  obtain ⟨c₈, h₈, h⟩ := bind_eq_ok.mp h
  rw [scanCapacity_keeps h (hother (by decide)), readMode_keeps h₈ (hlist (by decide)),
    readField_keeps h₇ (hother (by decide)), readField_keeps h₆ (hother (by decide)),
    readField_keeps h₅ (hother (by decide)), readField_keeps h₄ (hother (by decide)),
    readField_keeps h₃ (hother (by decide)), readField_keeps h₂ (hother (by decide)),
    readCurrent_keeps h₁ (hlist (by decide))]

/-- The keys of the tagged fields. -/
def fieldKeys : List String :=
  ["mosfet_temperature", "battery_box_temperature", "battery_temperature_1", "total_voltage"] ++ otherKeys

theorem readFields_keeps {result : Decoded} (h : readFields data c = .ok result) (hne : key ∉ fieldKeys) :
    result.get? key = c.result.get? key := by
  have hother : ∀ {name : String}, name ∈ fieldKeys → key ≠ name := fun hmem heq => hne (heq ▸ hmem)
  obtain ⟨c₁, h₁, h⟩ := bind_eq_ok.mp h
  obtain ⟨c₂, h₂, h⟩ := bind_eq_ok.mp h
  obtain ⟨c₃, h₃, h⟩ := bind_eq_ok.mp h
  obtain ⟨⟨totalVoltage, c₄⟩, h₄, h⟩ := bind_eq_ok.mp h
  rw [readOthers_keeps h fun hmem => hne (List.mem_append_right _ hmem), readTotalVoltage_keeps h₄ (hother (by decide)),
    readTemperature_keeps h₃ (hother (by decide)), readTemperature_keeps h₂ (hother (by decide)),
    readTemperature_keeps h₁ (hother (by decide))]

end

/-! ## What is taken for the total voltage -/

section
variable {data tail : Bytes} {c : Cursor}

theorem At.readTemperature {tag high low : UInt8} (h : At data c.offset (tag :: high :: low :: tail)) (key : String) :
    ∃ c' : Cursor, readTemperature data key c = .ok c' ∧ At data c'.offset tail := by
  have hlen := h.length
  have hread : JkBms.readTemperature data key c = .ok ⟨c.offset + 3,
      c.result.set key (entry (temperature (high.toNat <<< 8 ||| low.toNat)) "°C")⟩ := by
    unfold JkBms.readTemperature
    rw [if_pos (by simp only [List.length_cons] at hlen; omega), h.tagValue]
    rfl
  exact ⟨_, hread, h.next.next.next⟩

/-- Three temperatures come first, whatever the bytes are. -/
theorem At.readFields {t₁ h₁ l₁ t₂ h₂ l₂ t₃ h₃ l₃ : UInt8}
    (h : At data c.offset (t₁ :: h₁ :: l₁ :: t₂ :: h₂ :: l₂ :: t₃ :: h₃ :: l₃ :: tail)) :
    ∃ c' : Cursor, At data c'.offset tail ∧ c'.result.get? "total_voltage" = c.result.get? "total_voltage" ∧
      readFields data c = readTotalVoltage data c' >>= fun x => readOthers data x.1 x.2 := by
  obtain ⟨c₁, hread₁, hat₁⟩ := h.readTemperature "mosfet_temperature"
  obtain ⟨c₂, hread₂, hat₂⟩ := hat₁.readTemperature "battery_box_temperature"
  obtain ⟨c₃, hread₃, hat₃⟩ := hat₂.readTemperature "battery_temperature_1"
  refine ⟨c₃, hat₃, ?_, ?_⟩
  · rw [readTemperature_keeps hread₃ (by decide), readTemperature_keeps hread₂ (by decide),
      readTemperature_keeps hread₁ (by decide)]
  · unfold JkBms.readFields
    rw [hread₁, ok_bind, hread₂, ok_bind, hread₃, ok_bind]

/-- The byte behind them decides whether there is a total voltage, and the next two are its value. -/
theorem At.totalVoltage {tag high low : UInt8} (h : At data c.offset (tag :: high :: low :: tail)) :
    readTotalVoltage data c = .ok (if tag.toNat = 0x83
      then (((high.toNat <<< 8 ||| low.toNat : ℕ) : ℚ) * 0.01, ⟨c.offset + 3,
        c.result.set "total_voltage" (entry (((high.toNat <<< 8 ||| low.toNat : ℕ) : ℚ) * 0.01) "V")⟩)
      else (0, c)) := by
  unfold readTotalVoltage
  rw [h.hasTag (by simp only [List.length_cons]; omega), ok_bind]
  by_cases htag : tag.toNat = 0x83
  · rw [if_pos htag, if_pos (by simpa using htag), h.tagValue]
    rfl
  · rw [if_neg htag, if_neg (by simpa using htag)]
    rfl

theorem total_voltage_read {t₁ h₁ l₁ t₂ h₂ l₂ t₃ h₃ l₃ tag high low : UInt8}
    (h : At data c.offset (t₁ :: h₁ :: l₁ :: t₂ :: h₂ :: l₂ :: t₃ :: h₃ :: l₃ :: tag :: high :: low :: tail))
    (hnone : c.result.get? "total_voltage" = none) {result : Decoded} (hread : readFields data c = .ok result) :
    result.get? "total_voltage" = if tag.toNat = 0x83
      then some (entry (((high.toNat <<< 8 ||| low.toNat : ℕ) : ℚ) * 0.01) "V") else none := by
  obtain ⟨c', hat, hkept, hfields⟩ := h.readFields
  rw [hfields, hat.totalVoltage, ok_bind] at hread
  rw [readOthers_keeps hread (by decide)]
  split_ifs
  · exact (Dict.get?_set _ _ _ _).trans (if_pos rfl)
  · exact hkept.trans hnone

end

/-! ## Bodies -/

structure StatusCell where
  index : UInt8
  millivolts : UInt16

namespace StatusCell

def bytes (cell : StatusCell) : Bytes := cell.index :: be16 cell.millivolts

def volts (cell : StatusCell) : ℚ := cell.millivolts.toNat * 0.001

end StatusCell

theorem flatMap_bytes_length (cells : List StatusCell) :
    (cells.flatMap StatusCell.bytes).length = 3 * cells.length := by
  induction cells with
  | nil => rfl
  | cons cell cells ih =>
    rw [List.flatMap_cons, List.length_append, ih, List.length_cons]
    show 3 + _ = _
    omega

/-- What a status tells. -/
structure StatusBody where
  cells : List StatusCell
  some_cells : 1 ≤ cells.length
  few_cells : cells.length ≤ 64
  mosfetTemperature : UInt16
  boxTemperature : UInt16
  batteryTemperature : UInt16
  totalVoltage : UInt16
  current : UInt16
  soc : UInt8

namespace StatusBody

variable (b : StatusBody)

def cellBytes : Bytes := b.cells.flatMap StatusCell.bytes

def fields : Bytes :=
  (0x80 :: be16 b.mosfetTemperature) ++ (0x81 :: be16 b.boxTemperature) ++ (0x82 :: be16 b.batteryTemperature) ++
    (0x83 :: be16 b.totalVoltage) ++ (0x84 :: be16 b.current) ++ [0x85, b.soc]

def byteCount : UInt8 := UInt8.ofNat (3 * b.cells.length)

/-- The layout: marker, byte count, cells, fields. -/
def bytes : Bytes := 0x79 :: b.byteCount :: (b.cellBytes ++ b.fields)

/-- The layout with a byte in front of the cells. -/
def padded (filler : UInt8) : Bytes := 0x79 :: b.byteCount :: filler :: (b.cellBytes ++ b.fields)

def voltages : List ℚ := b.cells.map StatusCell.volts

/-- The result tells the same. -/
structure DecodedAs (result : Decoded) : Prop where
  cells : ∀ i, result.get? (cellKey (i + 1)) = b.voltages[i]?.map fun v => entry v "V"
  minimum : ∃ v, result.get? "cell_min_voltage" = some (entry v "V") ∧ IsLeast {v | v ∈ b.voltages} v
  maximum : ∃ v, result.get? "cell_max_voltage" = some (entry v "V") ∧ IsGreatest {v | v ∈ b.voltages} v
  average : result.get? "cell_avg_voltage" = some (entry (b.voltages.sum / b.voltages.length) "V")
  totalVoltage : result.get? "total_voltage" = some (entry (b.totalVoltage.toNat * 0.01) "V")
  soc : result.get? "soc" = some (entry b.soc.toNat "%")

theorem byteCount_toNat : b.byteCount.toNat = 3 * b.cells.length := by
  have hfew := b.few_cells
  unfold byteCount
  rw [UInt8.toNat_ofNat']
  omega

theorem cellBytes_length : b.cellBytes.length = 3 * b.cells.length := flatMap_bytes_length b.cells

/-- The marker and the byte count are as the code wants them. -/
theorem parseStatus_eq {rest : Bytes} (hlen : 3 * b.cells.length + 1 ≤ rest.length) :
    parseStatus (0x79 :: b.byteCount :: rest) = scanCells (0x79 :: b.byteCount :: rest) b.cells.length >>= fun cells =>
      readFields (0x79 :: b.byteCount :: rest) ⟨b.cells.length * 3 + 3, cells.result.sets (cells.summary b.cells.length)⟩
        >>= fun result => return some result := by
  have hsome := b.some_cells
  have hfew := b.few_cells
  have hmarker : byteAt (0x79 :: b.byteCount :: rest) 0 = .ok 0x79 := rfl
  have hcount : byteAt (0x79 :: b.byteCount :: rest) 1 = .ok b.byteCount.toNat := rfl
  have hcells : b.byteCount.toNat / 3 = b.cells.length := by
    rw [byteCount_toNat]
    omega
  unfold parseStatus
  rw [if_neg (by simp only [List.length_cons]; omega), hmarker, ok_bind, if_neg (by decide), hcount, ok_bind]
  simp only [hcells]
  rw [if_neg (by omega), if_neg (by simp only [List.length_cons]; omega)]

theorem bytes_at : At b.bytes (b.cells.length * 3 + 2) b.fields := by
  refine ⟨0x79 :: b.byteCount :: b.cellBytes, rfl, ?_⟩
  rw [List.length_cons, List.length_cons, cellBytes_length]
  omega

theorem padded_at (filler : UInt8) : At (b.padded filler) (b.cells.length * 3 + 3) b.fields := by
  refine ⟨0x79 :: b.byteCount :: filler :: b.cellBytes, rfl, ?_⟩
  rw [List.length_cons, List.length_cons, List.length_cons, cellBytes_length]
  omega

theorem bytes_long : 3 * b.cells.length + 1 ≤ (b.cellBytes ++ b.fields).length := by
  rw [List.length_append, cellBytes_length]
  have hfields : b.fields.length = 17 := rfl
  omega

theorem summary_keys (s : CellScan) (cellCount : Nat) : (s.summary cellCount).map Prod.fst = ["cell_min_voltage",
    "cell_max_voltage", "cell_avg_voltage", "cell_delta_voltage", "cell_min_index", "cell_max_index", "cell_count"] := rfl

theorem no_total_voltage (voltages : List ℚ) (cellCount : Nat) :
    ((scanned voltages).result.sets ((scanned voltages).summary cellCount)).get? "total_voltage" = none := by
  rw [Dict.get?_sets_other (by rw [summary_keys]; decide)]
  exact scanned_other (cellKey_ne (by decide))

/-- The total voltage is missing or wrong. -/
theorem total_voltage_misread {result : Decoded} (h : parseStatus b.bytes = .ok (some result)) :
    result.get? "total_voltage" ≠ some (entry (b.totalVoltage.toNat * 0.01) "V") := by
  have hat : At b.bytes (b.cells.length * 3 + 3) b.fields.tail := b.bytes_at.next
  unfold bytes at h hat
  rw [b.parseStatus_eq b.bytes_long] at h
  obtain ⟨cells, hcells, h⟩ := bind_eq_ok.mp h
  obtain ⟨result', hread, h⟩ := bind_eq_ok.mp h
  cases h
  obtain ⟨voltages, -, rfl⟩ := scanCells_scanned hcells
  rw [total_voltage_read (c := ⟨_, _⟩) hat (no_total_voltage voltages _) hread, high_toNat, low_toNat,
    word_eq _ (by decide)]
  split_ifs with htag
  · -- the high byte passes for the tag, and the next tag for the low byte
    intro h
    have hvalue := entry_inj (Option.some.inj h)
    have hword : b.totalVoltage.toNat % 256 * 256 + (0x84 : UInt8).toNat = b.totalVoltage.toNat := by
      have hcancel := mul_right_cancel₀ (by norm_num) hvalue
      exact_mod_cast hcancel
    have htag84 : (0x84 : UInt8).toNat = 0x84 := rfl
    omega
  · simp

end StatusBody

/-- No body in the layout is decoded as what it tells. -/
theorem status_misread (b : StatusBody) : ¬ ∃ result, parseStatus b.bytes = .ok (some result) ∧ b.DecodedAs result :=
  fun ⟨_, hparse, hdecoded⟩ => b.total_voltage_misread hparse hdecoded.totalVoltage

/-- One cell of 3.3 V at half its charge. -/
def oneCell : StatusBody where
  cells := [⟨1, 3300⟩]
  some_cells := by decide
  few_cells := by decide
  mosfetTemperature := 25
  boxTemperature := 24
  batteryTemperature := 23
  totalVoltage := 330
  current := 100
  soc := 50

/-- The one cell has no total voltage. -/
theorem one_cell_misread :
    ¬ ∀ b : StatusBody, ∃ result, parseStatus b.bytes = .ok (some result) ∧ b.DecodedAs result := by
  intro h
  obtain ⟨result, hparse, hdecoded⟩ := h oneCell
  exact oneCell.total_voltage_misread hparse hdecoded.totalVoltage

/-! ## With one more byte -/

section
variable {data tail : Bytes} {c : Cursor}

theorem At.readCurrent {high low sign : UInt8} (h : At data c.offset (0x84 :: high :: low :: sign :: tail))
    (totalVoltage : ℚ) : ∃ c' : Cursor, readCurrent data totalVoltage c = .ok c' ∧ At data c'.offset (sign :: tail) := by
  have hsign : byteOrZero data (c.offset + 3) = .ok sign.toNat := by
    have hat : At data (c.offset + 3) (sign :: tail) := h.next.next.next
    have hlen := hat.length
    unfold byteOrZero
    rw [if_pos (by rw [List.length_cons] at hlen; omega), hat.byte]
  have hread : JkBms.readCurrent data totalVoltage c = .ok ⟨c.offset + 3,
      (c.result.set "current" (entry (current (high.toNat <<< 8 ||| low.toNat) sign.toNat) "A")).sets
        (powers totalVoltage (current (high.toNat <<< 8 ||| low.toNat) sign.toNat))⟩ := by
    unfold JkBms.readCurrent
    rw [h.hasTag (by simp only [List.length_cons]; omega), ok_bind, if_pos (by decide), h.tagValue, ok_bind]
    simp only [hsign, ok_bind]
    rfl
  exact ⟨_, hread, h.next.next.next⟩

/-- At the end no field is found. -/
theorem readField_end (h : At data c.offset []) {need : Nat} (hneed : 0 < need) (tag width : Nat)
    (read : Nat → Except PyErr Nat) (key unit : String) : readField data tag need width read key unit c = .ok c := by
  unfold readField
  rw [h.hasTag_end hneed]
  rfl

theorem readMode_end (h : At data c.offset []) : readMode data c = .ok c := by
  unfold readMode
  rw [h.hasTag_end (by decide)]
  rfl

/-- The current, and the state of charge at the end. -/
theorem At.readOthers {high low soc : UInt8} (h : At data c.offset [0x84, high, low, 0x85, soc]) (totalVoltage : ℚ) :
    ∃ result, readOthers data totalVoltage c = .ok result ∧ result.get? "soc" = some (entry soc.toNat "%") := by
  obtain ⟨c₁, hcurrent, hat₁⟩ := h.readCurrent totalVoltage
  have hsoc : readSoc data c₁ = .ok ⟨c₁.offset + 2, c₁.result.set "soc" (entry soc.toNat "%")⟩ := by
    unfold readSoc readField
    rw [hat₁.hasTag (by simp only [List.length_cons]; omega), ok_bind, if_pos (by decide), hat₁.next.byte]
    rfl
  have hend : At data (c₁.offset + 2) [] := hat₁.next.next
  have hscan : scanRange data (c₁.offset + 2) = [] := by
    have hlen := hend.length
    have hnone : min (data.length - 5) (c₁.offset + 2 + 120) - (c₁.offset + 2) = 0 := by
      rw [List.length_nil] at hlen
      omega
    unfold scanRange
    rw [hnone]
    rfl
  refine ⟨c₁.result.set "soc" (entry soc.toNat "%"), ?_, (Dict.get?_set _ _ _ _).trans (if_pos rfl)⟩
  generalize hc₂ : (⟨c₁.offset + 2, c₁.result.set "soc" (entry soc.toNat "%")⟩ : Cursor) = c₂ at hsoc
  have hat₂ : At data c₂.offset [] := hc₂ ▸ hend
  have hcount : readSensorCount data c₂ = .ok c₂ := readField_end hat₂ (by decide) _ _ _ _ _
  have hcycles : readCycleCount data c₂ = .ok c₂ := readField_end hat₂ (by decide) _ _ _ _ _
  have hcapacity : readCycleCapacity data c₂ = .ok c₂ := readField_end hat₂ (by decide) _ _ _ _ _
  have hstrings : readTotalStrings data c₂ = .ok c₂ := readField_end hat₂ (by decide) _ _ _ _ _
  have hwarnings : readWarnings data c₂ = .ok c₂ := readField_end hat₂ (by decide) _ _ _ _ _
  unfold JkBms.readOthers
  rw [hcurrent, ok_bind, hsoc, ok_bind, hcount, ok_bind, hcycles, ok_bind, hcapacity, ok_bind, hstrings, ok_bind,
    hwarnings, ok_bind, readMode_end hat₂, ok_bind, ← hc₂]
  simp only [hscan]
  rfl

end

namespace StatusBody

variable (b : StatusBody)

/-- A cell is where the code looks for it. -/
theorem padded_cell_at (filler : UInt8) {i : Nat} (hi : i < b.cells.length) :
    ∃ tail, At (b.padded filler) (3 + i * 3) (b.cells[i].bytes ++ tail) := by
  refine ⟨(b.cells.drop (i + 1)).flatMap StatusCell.bytes ++ b.fields,
    0x79 :: b.byteCount :: filler :: (b.cells.take i).flatMap StatusCell.bytes, ?_, ?_⟩
  · have hcells : b.cells = b.cells.take i ++ b.cells[i] :: b.cells.drop (i + 1) := by
      rw [List.getElem_cons_drop, List.take_append_drop]
    have hbytes := congrArg (List.flatMap StatusCell.bytes) hcells
    rw [List.flatMap_append, List.flatMap_cons] at hbytes
    unfold padded cellBytes
    rw [hbytes]
    simp
  · rw [List.length_cons, List.length_cons, List.length_cons, flatMap_bytes_length, List.length_take]
    omega

theorem padded_cells (filler : UInt8) : scanCells (b.padded filler) b.cells.length = .ok (scanned b.voltages) := by
  have hprefix : ∀ k ≤ b.cells.length,
      (List.range k).foldlM (scanCell (b.padded filler)) {} = .ok (scanned (b.voltages.take k)) := by
    intro k hk
    induction k with
    | zero => rfl
    | succ k ih =>
      obtain ⟨tail, hat⟩ := b.padded_cell_at filler (Nat.lt_of_succ_le hk)
      have hcell : scanCell (b.padded filler) (scanned (b.voltages.take k)) k =
          .ok ((scanned (b.voltages.take k)).add k b.cells[k].volts) := by
        unfold scanCell
        dsimp only
        rw [At.byte hat, ok_bind, At.be16 hat.next]
        rfl
      have hlen : (b.voltages.take k).length = k := by
        unfold voltages
        rw [List.length_take, List.length_map]
        omega
      have hnext : b.voltages.take (k + 1) = b.voltages.take k ++ [b.cells[k].volts] := by
        have hlt : k < b.voltages.length := by simpa [voltages] using hk
        rw [← List.take_append_getElem hlt]
        simp [voltages]
      rw [List.range_succ, List.foldlM_append, ih (by omega), ok_bind, List.foldlM_cons, hcell, ok_bind, hnext,
        scanned_concat, hlen]
      rfl
  have hall := hprefix b.cells.length le_rfl
  have htake : b.voltages.take b.cells.length = b.voltages := List.take_of_length_le (by simp [voltages])
  rw [htake] at hall
  exact hall

theorem volts_range : ∀ v ∈ b.voltages, 0 ≤ v ∧ v < 100 := by
  intro v hv
  obtain ⟨cell, -, rfl⟩ := List.mem_map.mp hv
  have hlt : (cell.millivolts.toNat : ℚ) < 65536 := by exact_mod_cast cell.millivolts.toNat_lt
  unfold StatusCell.volts
  constructor
  · positivity
  · linarith

theorem voltages_length : b.voltages.length = b.cells.length := List.length_map _

/-- The fields, read where they begin. -/
theorem readFields_aligned {data : Bytes} {c : Cursor} (h : At data c.offset b.fields) :
    ∃ result, readFields data c = .ok result ∧ result.get? "soc" = some (entry b.soc.toNat "%") := by
  obtain ⟨c', hat, -, hfields⟩ := h.readFields
  obtain ⟨x, hx, hat'⟩ : ∃ x, readTotalVoltage data c' = .ok x ∧
      At data x.2.offset (0x84 :: be16 b.current ++ [0x85, b.soc]) := by
    refine ⟨_, At.totalVoltage hat, ?_⟩
    rw [if_pos (by decide)]
    exact hat.next.next.next
  obtain ⟨result, hothers, hsoc⟩ := At.readOthers hat' x.1
  exact ⟨result, by rw [hfields, hx, ok_bind, hothers], hsoc⟩

/-- No cell's key is among keys that have no digit where it has its number. -/
theorem cellKey_not_mem {keys : List String} (h : keys.all (fun key => (key.toList[5]?).all fun c => !c.isDigit) = true)
    (i : Nat) : cellKey i ∉ keys := fun hmem =>
  cellKey_ne (List.all_eq_true.mp h _ hmem) i rfl

theorem cellKey_not_field (i : Nat) : cellKey i ∉ fieldKeys := cellKey_not_mem (by decide) i

theorem cellKey_not_summary (s : CellScan) (cellCount i : Nat) : cellKey i ∉ (s.summary cellCount).map Prod.fst := by
  rw [summary_keys]
  exact cellKey_not_mem (by decide) i

/-- With a byte in front of the cells, the code reads the layout as it is. -/
theorem parseStatus_padded (filler : UInt8) :
    ∃ result, parseStatus (b.padded filler) = .ok (some result) ∧ b.DecodedAs result := by
  have hlen : 3 * b.cells.length + 1 ≤ (filler :: (b.cellBytes ++ b.fields)).length := by
    have hlong := b.bytes_long
    rw [List.length_cons]
    omega
  have hne : b.voltages ≠ [] := fun h => by
    have hsome := b.some_cells
    rw [← b.voltages_length, h, List.length_nil] at hsome
    omega
  let cells := (scanned b.voltages).result.sets ((scanned b.voltages).summary b.cells.length)
  obtain ⟨result, hread, hsoc⟩ := b.readFields_aligned (c := ⟨b.cells.length * 3 + 3, cells⟩) (b.padded_at filler)
  have hkept : ∀ {key : String}, key ∉ fieldKeys → result.get? key = cells.get? key := readFields_keeps hread
  have hnone : cells.get? "total_voltage" = none := no_total_voltage b.voltages _
  refine ⟨result, ?_, ?_⟩
  · have hparse := b.parseStatus_eq hlen
    have hcells := b.padded_cells filler
    unfold padded at hread hcells ⊢
    rw [hparse, hcells, ok_bind, hread]
    rfl
  · obtain ⟨hle, hleast⟩ := scanned_least hne fun v hv => (b.volts_range v hv).2
    obtain ⟨hge, hgreatest⟩ := scanned_greatest hne fun v hv => (b.volts_range v hv).1
    constructor
    · intro i
      rw [hkept (cellKey_not_field _), Dict.get?_sets_other (cellKey_not_summary _ _ _), scanned_cells]
    · refine ⟨_, (hkept (by decide)).trans ((Dict.get?_sets _ _ _).trans rfl), hleast, hle⟩
    · refine ⟨_, (hkept (by decide)).trans ((Dict.get?_sets _ _ _).trans rfl), hgreatest, hge⟩
    · rw [← scanned_sum, b.voltages_length]
      exact (hkept (by decide)).trans ((Dict.get?_sets _ _ _).trans rfl)
    · rw [total_voltage_read (c := ⟨_, cells⟩) (b.padded_at filler) hnone hread, if_pos (by decide), high_toNat, low_toNat,
        word_eq _ (Nat.mod_lt _ (by decide)), Nat.div_add_mod']
    · exact hsoc

end StatusBody

end LuxMon.JkBms
