import LuxMon.Python.Number

/-!
# LuxPower frames

`parse_frame` reads one frame, `find_frames` scans a buffer for complete frames.
Every access to the bytes is checked: an index out of range raises
`indexError`, a `struct.unpack_from` out of range `structError`.

    findFrames data never raises                                (findFrames_ok)
-/

namespace LuxMon

open Python

abbrev Bytes := List UInt8

def headerSize : Nat := 18

def tcpFuncTranslatedData : Nat := 0xC2

def modbusReadHold : Nat := 3
def modbusReadInput : Nat := 4
def modbusWriteSingle : Nat := 6
def modbusWriteMulti : Nat := 16

/-- `data[i]`. -/
def byteAt (data : Bytes) (i : Nat) : Except PyErr Nat :=
  match data[i]? with
  | some b => .ok b.toNat
  | none => .error .indexError

/-- `struct.unpack_from('<H', data, off)[0]`. -/
def unpackU16 (data : Bytes) (off : Nat) : Except PyErr Nat :=
  match data[off]?, data[off + 1]? with
  | some lo, some hi => .ok (lo.toNat + 256 * hi.toNat)
  | _, _ => .error .structError

/-- `data[i:j]`. -/
def slice (data : Bytes) (i j : Nat) : Bytes := (data.take j).drop i

/-- `data.decode('ascii', errors='replace').rstrip('\x00')`. -/
def decodeSerial (data : Bytes) : String :=
  let chars := data.map fun b => if b.toNat < 128 then Char.ofNat b.toNat else '\uFFFD'
  String.ofList (chars.reverse.dropWhile (· == Char.ofNat 0)).reverse

/-- A parsed LuxPower TCP frame. -/
structure LuxFrame where
  protocol : Nat
  tcpFunction : Nat
  datalogSerial : String
  raw : Bytes
  address : Nat := 0
  deviceFunction : Nat := 0
  inverterSerial : String := ""
  register : Nat := 0
  values : List Nat := []
  writeCount : Nat := 0
  isError : Bool := false
  errorCode : Nat := 0

namespace LuxFrame

def isTranslatedData (f : LuxFrame) : Bool := f.tcpFunction == tcpFuncTranslatedData

def isRead (f : LuxFrame) : Bool :=
  f.deviceFunction == modbusReadHold || f.deviceFunction == modbusReadInput

def isReadInput (f : LuxFrame) : Bool := f.deviceFunction == modbusReadInput

def isReadHold (f : LuxFrame) : Bool := f.deviceFunction == modbusReadHold

end LuxFrame

/-! ## Parsing one frame -/

/-- The value loop of a read response: `num_regs` values of two bytes each, as
far as they end before the two CRC bytes. -/
def readValues (data : Bytes) (valsBegin : Nat) : (i n : Nat) → Except PyErr (List Nat)
  | _, 0 => .ok []
  | i, n + 1 => do
    let offset := valsBegin + i * 2
    if offset + 2 ≤ data.length - 2 then
      let val ← unpackU16 data offset
      let vals ← readValues data valsBegin (i + 1) n
      return val :: vals
    else readValues data valsBegin (i + 1) n

/-- The part of a data frame after its register number. -/
def parseBody (data : Bytes) (frame : LuxFrame) : Except PyErr LuxFrame := do
  if frame.deviceFunction = modbusWriteSingle then
    -- write-single responses echo register and value without a length byte
    if 38 ≤ data.length then
      let val ← unpackU16 data 34
      return { frame with values := [val] }
    return frame
  if frame.isRead then
    if 34 < data.length then
      let valLen ← byteAt data 34
      let values ← readValues data 35 0 (valLen / 2)
      return { frame with values := values }
    return frame
  if frame.deviceFunction = modbusWriteMulti then
    if 38 ≤ data.length then
      let register ← unpackU16 data 32
      let writeCount ← unpackU16 data 34
      return { frame with register := register, writeCount := writeCount }
    return frame
  return frame

/-- The inner Modbus data frame of a TranslatedData packet. -/
def parseDataFrame (data : Bytes) (frame : LuxFrame) : Except PyErr LuxFrame := do
  let _dataLen ← unpackU16 data 18
  if data.length < 22 then return frame
  let address ← byteAt data 20
  let deviceFunction ← byteAt data 21
  let frame := { frame with address := address, deviceFunction := deviceFunction }
  if 128 ≤ deviceFunction then
    let errorCode ← if 22 < data.length then byteAt data 22 else pure frame.errorCode
    return { frame with isError := true, errorCode := errorCode }
  let inverterSerial :=
    if 32 ≤ data.length then decodeSerial (slice data 22 32) else frame.inverterSerial
  let register ← if 34 ≤ data.length then unpackU16 data 32 else pure frame.register
  parseBody data { frame with inverterSerial := inverterSerial, register := register }

/-- `parse_frame`: `none` when the bytes are no frame. -/
def parseFrame (data : Bytes) : Except PyErr (Option LuxFrame) := do
  if data.length < headerSize then return none
  if slice data 0 2 ≠ [0xA1, 0x1A] then return none
  let protocol ← unpackU16 data 2
  let _frameLength ← unpackU16 data 4
  let _unknown ← byteAt data 6
  let tcpFunc ← byteAt data 7
  let frame : LuxFrame :=
    { protocol := protocol, tcpFunction := tcpFunc, datalogSerial := decodeSerial (slice data 8 18),
      raw := data }
  if tcpFunc = tcpFuncTranslatedData ∧ 20 ≤ data.length then
    let frame ← parseDataFrame data frame
    return some frame
  return some frame

/-! ## Scanning a buffer -/

/-- The loop of `find_frames` on the unread rest `data[i:]`.  Every turn consumes
at least one byte, so as many turns as there are bytes are enough. -/
def scanFrames : Nat → Bytes → Except PyErr (List LuxFrame)
  | turns + 1, b0 :: b1 :: tail => do
    let rest := b0 :: b1 :: tail
    if b0 = 0xA1 ∧ b1 = 0x1A ∧ 6 ≤ rest.length then
      let frameLen ← unpackU16 rest 4
      let total := 6 + frameLen
      if total ≤ rest.length then
        let frame ← parseFrame (rest.take total)
        let frames ← scanFrames turns (rest.drop total)
        return frame.toList ++ frames
      else scanFrames turns (b1 :: tail)
    else scanFrames turns (b1 :: tail)
  | _, _ => .ok []

def findFrames (data : Bytes) : Except PyErr (List LuxFrame) := scanFrames data.length data

/-! ## No access out of range -/

theorem byteAt_ok {data : Bytes} {i : Nat} (h : i < data.length) :
    byteAt data i = .ok data[i].toNat := by
  simp [byteAt, h]

theorem unpackU16_ok {data : Bytes} {off : Nat} (h : off + 1 < data.length) :
    unpackU16 data off = .ok (data[off].toNat + 256 * data[off + 1].toNat) := by
  have h' : off < data.length := by omega
  simp [unpackU16, h, h']

theorem readValues_ok (data : Bytes) (valsBegin i n : Nat) :
    ∃ vals, readValues data valsBegin i n = .ok vals := by
  induction n generalizing i with
  | zero => exact ⟨[], rfl⟩
  | succ n ih =>
    obtain ⟨vals, hv⟩ := ih (i + 1)
    unfold readValues
    simp only [hv]
    split
    · next h =>
      rw [unpackU16_ok (by omega)]
      exact ⟨_, rfl⟩
    · exact ⟨vals, rfl⟩

theorem parseBody_ok (data : Bytes) (frame : LuxFrame) : ∃ f, parseBody data frame = .ok f := by
  unfold parseBody
  split
  · split
    · next h =>
      rw [unpackU16_ok (by omega)]
      exact ⟨_, rfl⟩
    · exact ⟨_, rfl⟩
  · split
    · split
      · next h =>
        obtain ⟨vals, hv⟩ := readValues_ok data 35 0 (data[34].toNat / 2)
        rw [byteAt_ok h, ok_bind, hv]
        exact ⟨_, rfl⟩
      · exact ⟨_, rfl⟩
    · split
      · split
        · next h =>
          rw [unpackU16_ok (by omega), unpackU16_ok (by omega)]
          exact ⟨_, rfl⟩
        · exact ⟨_, rfl⟩
      · exact ⟨_, rfl⟩

theorem parseDataFrame_ok (data : Bytes) (frame : LuxFrame) (h : 20 ≤ data.length) :
    ∃ f, parseDataFrame data frame = .ok f := by
  unfold parseDataFrame
  rw [unpackU16_ok (by omega), ok_bind]
  split
  · exact ⟨_, rfl⟩
  · next h22 =>
    rw [byteAt_ok (show 20 < data.length by omega), byteAt_ok (show 21 < data.length by omega)]
    simp only [ok_bind]
    split
    · split
      · next h23 =>
        rw [byteAt_ok h23]
        exact ⟨_, rfl⟩
      · exact ⟨_, rfl⟩
    · split
      · next h34 =>
        rw [unpackU16_ok (by omega)]
        exact parseBody_ok _ _
      · exact parseBody_ok _ _

theorem parseFrame_ok (data : Bytes) : ∃ f, parseFrame data = .ok f := by
  unfold parseFrame
  split
  · exact ⟨_, rfl⟩
  · next h =>
    have hl : 18 ≤ data.length := by simpa [headerSize] using h
    split
    · exact ⟨_, rfl⟩
    · rw [unpackU16_ok (by omega), unpackU16_ok (by omega), byteAt_ok (show 6 < data.length by omega),
        byteAt_ok (show 7 < data.length by omega)]
      simp only [ok_bind]
      split
      · next h20 =>
        obtain ⟨f, hf⟩ := parseDataFrame_ok data _ h20.2
        rw [hf]
        exact ⟨_, rfl⟩
      · exact ⟨_, rfl⟩

theorem scanFrames_ok (turns : Nat) (rest : Bytes) : ∃ fs, scanFrames turns rest = .ok fs := by
  induction turns generalizing rest with
  | zero => exact ⟨[], by unfold scanFrames; rfl⟩
  | succ turns ih =>
    match rest with
    | [] => exact ⟨[], rfl⟩
    | [b] => exact ⟨[], rfl⟩
    | b0 :: b1 :: tail =>
      unfold scanFrames
      simp only
      split
      · next h =>
        rw [unpackU16_ok (by have := h.2.2; omega), ok_bind]
        split
        · obtain ⟨f, hf⟩ := parseFrame_ok (List.take _ (b0 :: b1 :: tail))
          obtain ⟨fs, hfs⟩ := ih (List.drop _ (b0 :: b1 :: tail))
          rw [hf, ok_bind, hfs]
          exact ⟨_, rfl⟩
        · exact ih _
      · exact ih _

/-- Whatever the bytes, the scan ends without an access out of range. -/
theorem findFrames_ok (data : Bytes) : ∃ fs, findFrames data = .ok fs :=
  scanFrames_ok _ _

end LuxMon
