import LuxMon.Protocol.FindFrames
import LuxMon.Protocol.Requests

/-!
# Corrupted responses

The last two bytes of a data frame are its CRC-16/MODBUS.  The parser leaves them
out of the values and never compares them.

    nothing is taken from a corrupted response ↔
      it reads as an error frame, or is too short for a register       (corruption_unnoticed_iff)
-/

namespace LuxMon

open Python Framing

/-- The last two bytes are the CRC of the data frame before them. -/
def CrcOk (raw : Bytes) : Prop :=
  slice raw (raw.length - 2) raw.length = u16Bytes (crc16Modbus (slice raw 20 (raw.length - 2)))

instance (raw : Bytes) : Decidable (CrcOk raw) := inferInstanceAs (Decidable (_ = _))

/-- A TranslatedData frame with room for address, function and CRC. -/
structure Translated (raw : Bytes) : Prop where
  isFrame : IsFrame raw
  function : byteAt raw 7 = .ok tcpFuncTranslatedData
  room : 24 ≤ raw.length

/-- A well-formed response of the dongle. -/
structure Response where
  bytes : Bytes
  translated : Translated bytes
  dataLength : unpackU16 bytes 18 = .ok (bytes.length - 20)
  crcOk : CrcOk bytes

/-- A change of bits of the data frame that leaves a wrong CRC behind. -/
structure Corruption (f : Response) where
  bytes : Bytes
  length_eq : bytes.length = f.bytes.length
  header_eq : bytes.take 20 = f.bytes.take 20
  changed : bytes ≠ f.bytes
  badCrc : ¬ CrcOk bytes

/-- The device function. -/
def functionByte (raw : Bytes) : ℕ := (raw.getD 21 0).toNat

/-- Register numbers, values and counts of the frames found. -/
def registerData (found : List LuxFrame) : List (ℕ × List ℕ × ℕ) :=
  found.map fun h => (h.register, h.values, h.writeCount)

/-- Register numbers or values that `find_frames` returns come from these bytes: with
other bytes behind the same header, address and function it returns others. -/
def TakesData (raw : Bytes) : Prop :=
  ∃ other : Bytes, other.length = raw.length ∧ other.take 22 = raw.take 22 ∧
    (findFrames other).map registerData ≠ (findFrames raw).map registerData

/-! ## What the parser takes from a data frame -/

/-- No register data: the defaults. -/
def Blank (h : LuxFrame) : Prop := h.register = 0 ∧ h.values = [] ∧ h.writeCount = 0

theorem parseBody_short {data : Bytes} {frame h : LuxFrame} (hshort : data.length < 34)
    (hrun : parseBody data frame = .ok h) : h = frame := by
  obtain ⟨-, h38, -⟩ | ⟨-, h34, -⟩ | ⟨-, h38, -⟩ | ⟨-, rfl⟩ := parseBody_cases hrun
  · omega
  · omega
  · omega
  · rfl

/-- Whatever the function, the register of the frame is the one at offset 32. -/
theorem parseBody_register {data : Bytes} {frame h : LuxFrame}
    (hreg : unpackU16 data 32 = .ok frame.register) (hrun : parseBody data frame = .ok h) :
    h.register = frame.register := by
  obtain ⟨-, -, _, rfl⟩ | ⟨-, -, _, -, rfl⟩ | ⟨-, -, _, _, hregister, rfl⟩ | ⟨-, rfl⟩ := parseBody_cases hrun
  · rfl
  · rfl
  · exact Except.ok.inj (hregister.symm.trans hreg)
  · rfl

theorem functionByte_eq {data : Bytes} {function : ℕ} (h : byteAt data 21 = .ok function) :
    function = functionByte data := by
  unfold byteAt at h
  unfold functionByte
  rw [List.getD_eq_getElem?_getD]
  cases hbyte : data[21]? with
  | none =>
    rw [hbyte] at h
    cases h
  | some b =>
    rw [hbyte] at h
    exact (Except.ok.inj h).symm

/-- An error frame, and a frame without a register, leave the register data at the defaults. -/
theorem parseDataFrame_blank {data : Bytes} {base h : LuxFrame} (hbase : Blank base)
    (hroom : 24 ≤ data.length) (hno : 128 ≤ functionByte data ∨ data.length < 34)
    (hrun : parseDataFrame data base = .ok h) : Blank h := by
  obtain ⟨-, rfl⟩ | ⟨_, function, hfunction, hrest⟩ := parseDataFrame_cases (by omega) hrun
  · exact hbase
  · rcases hrest with ⟨-, _, rfl⟩ | ⟨hfun, _, register, hregister, hbody⟩
    · exact hbase
    · rw [functionByte_eq hfunction] at hfun
      have hshort : data.length < 34 := by omega
      rw [if_neg (by omega)] at hregister
      cases hregister
      obtain rfl := parseBody_short hshort hbody
      exact hbase

theorem parseDataFrame_register {data : Bytes} {base h : LuxFrame} (hfun : functionByte data < 128)
    (hlong : 34 ≤ data.length) (hrun : parseDataFrame data base = .ok h) :
    unpackU16 data 32 = .ok h.register := by
  obtain ⟨h22, -⟩ | ⟨_, function, hfunction, hrest⟩ := parseDataFrame_cases (by omega) hrun
  · omega
  · rcases hrest with ⟨herror, -⟩ | ⟨-, _, register, hregister, hbody⟩
    · rw [functionByte_eq hfunction] at herror
      omega
    · rw [if_pos hlong] at hregister
      rw [parseBody_register hregister hbody]
      exact hregister

/-- One TranslatedData frame is found as what its data frame is parsed to. -/
theorem findFrames_translated {raw : Bytes} (h : Translated raw) :
    ∃ base f, Blank base ∧ parseDataFrame raw base = .ok f ∧ findFrames raw = .ok [f] := by
  have hroom := h.room
  have hfind := findFrames_frame ⟨raw, h.isFrame⟩
  have hparse : parseFrame raw = .ok (some (WireFrame.parsed ⟨raw, h.isFrame⟩)) :=
    WireFrame.parseFrame_eq ⟨raw, h.isFrame⟩
  have hpair : slice raw 0 2 = [0xA1, 0x1A] := h.isFrame.starts
  unfold parseFrame at hparse
  rw [if_neg (by simp [headerSize]; omega), if_neg (by simp [hpair]), unpackU16_ok (by omega),
    unpackU16_ok (by omega), byteAt_ok (show 6 < raw.length by omega), h.function] at hparse
  simp only [ok_bind] at hparse
  rw [if_pos ⟨trivial, by omega⟩] at hparse
  obtain ⟨f, hf⟩ := parseDataFrame_ok raw _ (show 20 ≤ raw.length by omega)
  rw [hf] at hparse
  have : f = WireFrame.parsed ⟨raw, h.isFrame⟩ := Option.some.inj (Except.ok.inj hparse)
  exact ⟨_, f, ⟨rfl, rfl, rfl⟩, hf, by rw [hfind, this]⟩

/-! ## Other bytes behind the same header -/

theorem getD_of_take_eq {xs ys : Bytes} {n i : ℕ} (h : xs.take n = ys.take n) (hi : i < n) :
    xs.getD i 0 = ys.getD i 0 := by
  have hx : (xs.take n).getD i 0 = xs.getD i 0 := by simp [hi]
  have hy : (ys.take n).getD i 0 = ys.getD i 0 := by simp [hi]
  rw [← hx, ← hy, h]

/-- The header decides the shape of the frame. -/
theorem Translated.of_take {raw other : Bytes} (h : Translated raw) (hlen : other.length = raw.length)
    (htake : other.take 20 = raw.take 20) : Translated other := by
  have hroom := h.room
  have hframe := h.isFrame
  refine ⟨⟨?_, ?_, ?_⟩, ?_, by omega⟩
  · have h2 := congrArg (List.take 2) htake
    rw [List.take_take, List.take_take] at h2
    exact h2.trans hframe.starts
  · rw [hlen, hframe.length_eq]
    unfold declared
    rw [getD_of_take_eq htake (by omega), getD_of_take_eq htake (by omega)]
  · rw [hlen]
    exact hframe.long
  · have h7 := getD_of_take_eq htake (show 7 < 20 by omega)
    have hf := h.function
    rw [byteAt_ok (show 7 < raw.length by omega)] at hf
    rw [byteAt_ok (show 7 < other.length by omega), ← hf]
    have hx : other.getD 7 0 = other[7] := by simp [show 7 < other.length by omega]
    have hy : raw.getD 7 0 = raw[7] := by simp [show 7 < raw.length by omega]
    rw [← hx, ← hy, h7]

/-- Bytes with the same beginning are translated alike. -/
theorem same_beginning {raw other : Bytes} (h : Translated raw) (hlen : other.length = raw.length)
    (htake : other.take 22 = raw.take 22) : Translated other ∧ functionByte other = functionByte raw := by
  constructor
  · refine h.of_take hlen ?_
    have h20 := congrArg (List.take 20) htake
    rwa [List.take_take, List.take_take] at h20
  · unfold functionByte
    rw [getD_of_take_eq htake (by omega)]

/-- An error frame, or one without a register, is parsed like any other of its beginning. -/
theorem not_takesData {raw : Bytes} (h : Translated raw) (hno : ¬ (functionByte raw < 128 ∧ 34 ≤ raw.length)) :
    ¬ TakesData raw := by
  rintro ⟨other, hlen, htake, hne⟩
  have hroom := h.room
  obtain ⟨hother, hfun⟩ := same_beginning h hlen htake
  obtain ⟨base, f, hbase, hparse, hfind⟩ := findFrames_translated h
  obtain ⟨base', f', hbase', hparse', hfind'⟩ := findFrames_translated hother
  have hf := parseDataFrame_blank hbase hroom (by omega) hparse
  have hf' := parseDataFrame_blank hbase' hother.room (by omega) hparse'
  apply hne
  rw [hfind, hfind']
  show Except.ok [(f'.register, f'.values, f'.writeCount)] =
    Except.ok [(f.register, f.values, f.writeCount)]
  rw [hf.1, hf.2.1, hf.2.2, hf'.1, hf'.2.1, hf'.2.2]

/-- Nothing is taken from an error frame, nor from one without a register. -/
theorem takesData_iff {raw : Bytes} (h : Translated raw) :
    TakesData raw ↔ functionByte raw < 128 ∧ 34 ≤ raw.length := by
  refine ⟨fun htakes => by_contra fun hno => not_takesData h hno htakes, ?_⟩
  rintro ⟨hfun, hlong⟩
  -- the same frame with another low byte of the register is taken differently
  have h32 : 32 < raw.length := by have := h.isFrame.long; omega
  let other := raw.set 32 (raw[32] + 1)
  have hlen : other.length = raw.length := List.length_set
  have htake : other.take 22 = raw.take 22 := by
    show (raw.set 32 _).take 22 = _
    rw [List.take_set, List.set_eq_of_length_le]
    rw [List.length_take]
    omega
  obtain ⟨hother, hfun'⟩ := same_beginning h hlen htake
  obtain ⟨base, f, -, hparse, hfind⟩ := findFrames_translated h
  obtain ⟨base', f', -, hparse', hfind'⟩ := findFrames_translated hother
  have hreg := parseDataFrame_register hfun hlong hparse
  have hreg' := parseDataFrame_register (by omega) (by omega) hparse'
  refine ⟨other, hlen, htake, fun heq => ?_⟩
  rw [hfind, hfind'] at heq
  have hsame : f'.register = f.register :=
    congrArg Prod.fst (List.cons.inj (Except.ok.inj heq)).1
  rw [hsame, ← hreg, unpackU16_ok (by omega), unpackU16_ok (by omega)] at hreg'
  have hsum := Except.ok.inj hreg'
  simp only [other, List.getElem_set_self, List.getElem_set_ne (show (32 : ℕ) ≠ 32 + 1 by omega)] at hsum
  have hlow : (raw[32] + 1).toNat = raw[32].toNat := by omega
  have hbyte := UInt8.toNat_inj.mp hlow
  simp at hbyte

/-- Which corrupted responses the parser takes nothing from. -/
theorem corruption_unnoticed_iff (f : Response) (c : Corruption f) :
    ¬ TakesData c.bytes ↔ 128 ≤ functionByte c.bytes ∨ c.bytes.length < 34 := by
  have h : Translated c.bytes := f.translated.of_take c.length_eq c.header_eq
  rw [takesData_iff h]
  omega

/-! ## A flipped value bit -/

/-- A read response for register 60 that carries `value` and the CRC of the value 100. -/
def readResponse (value : UInt8) : Bytes :=
  [0xA1, 0x1A, 5, 0, 33, 0, 1, 0xC2] ++ List.replicate 10 0x41 ++ [19, 0, 1, 3] ++
    List.replicate 10 0x31 ++ [60, 0, 2, value, 0, 0x90, 0x6e]

def goodRead : Response where
  bytes := readResponse 100
  translated := ⟨by decide, by decide, by decide⟩
  dataLength := by decide
  crcOk := by decide +kernel

/-- One bit of the value changed on the way. -/
def flippedRead : Corruption goodRead where
  bytes := readResponse 101
  length_eq := rfl
  header_eq := rfl
  changed := by decide
  badCrc := by decide +kernel

/-- The wrong value is returned like a right one. -/
theorem flippedRead_taken :
    TakesData flippedRead.bytes ∧
      (findFrames flippedRead.bytes).map registerData = .ok [(60, [101], 0)] := by
  have h : Translated flippedRead.bytes :=
    goodRead.translated.of_take flippedRead.length_eq flippedRead.header_eq
  exact ⟨(takesData_iff h).mpr ⟨by decide, by decide⟩, by decide +kernel⟩

end LuxMon
