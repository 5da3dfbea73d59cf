import LuxMon.Protocol.Conformance
import LuxMon.Protocol.Corruption

/-!
# Building and parsing again

The parser reads back what the request builders lay out, and read responses that carry
a value length byte.  It takes the byte at offset 34 as that length whatever the
protocol, so a response without one is misread.

    requests and responses with a length byte parse to what was laid out   (codec_round_trip)
    a read response parses to its values ↔ its protocol is not 1           (value_length_iff)
-/

namespace LuxMon

open Python Framing

/-! ## Packets -/

/-- A TranslatedData packet around a data frame (given without its CRC). -/
def packet (protocol : ℕ) (unknown : UInt8) (datalog data : Bytes) : Bytes :=
  pair ++ u16Bytes protocol ++ u16Bytes (14 + (data.length + 2)) ++
    [unknown, 0xC2] ++ datalog ++ u16Bytes (data.length + 2) ++ data ++ u16Bytes (crc16Modbus data)

/-- Address, function, inverter serial and register come first in every data frame. -/
def dataFrame (address function : UInt8) (inverter : Bytes) (register : ℕ) (rest : Bytes) : Bytes :=
  [address, function] ++ inverter ++ u16Bytes register ++ rest

/-- Both length fields count what follows them. -/
structure LengthsAgree (bytes : Bytes) : Prop where
  frame : unpackU16 bytes 4 = .ok (bytes.length - 6)
  data : unpackU16 bytes 18 = .ok (bytes.length - 20)

/-! ## Reading a field where it was written -/

theorem unpackU16_drop {data rest : Bytes} {n off : ℕ} (h : data.drop off = u16Bytes n ++ rest)
    (hn : n < 65536) : unpackU16 data off = .ok n := by
  have hlo : data[off]? = some (n % 256).toUInt8 := by
    rw [← Nat.add_zero off, ← List.getElem?_drop, h]
    rfl
  have hhi : data[off + 1]? = some (n / 256 % 256).toUInt8 := by
    rw [← List.getElem?_drop, h]
    rfl
  unfold unpackU16
  rw [hlo, hhi]
  show Except.ok (_ + 256 * _) = _
  rw [u16Bytes_toNat hn]

theorem byteAt_drop {data rest : Bytes} {b : UInt8} {off : ℕ} (h : data.drop off = b :: rest) :
    byteAt data off = .ok b.toNat := by
  have hb : data[off]? = some b := by
    rw [← Nat.add_zero off, ← List.getElem?_drop, h]
    rfl
  unfold byteAt
  rw [hb]

theorem slice_drop {data field rest : Bytes} {i j : ℕ} (h : data.drop i = field ++ rest)
    (hj : i + field.length = j) : slice data i j = field := by
  subst hj
  unfold slice
  rw [List.drop_take, h, Nat.add_sub_cancel_left, List.take_left]

/-- The next field begins where this one ends. -/
theorem drop_field (field : Bytes) {data rest : Bytes} {i j : ℕ} (h : data.drop i = field ++ rest)
    (hj : i + field.length = j) : data.drop j = rest := by
  subst hj
  rw [← List.drop_drop, h, List.drop_left]

theorem length_packet (protocol : ℕ) (unknown : UInt8) {datalog : Bytes} (data : Bytes)
    (hd : datalog.length = 10) :
    (packet protocol unknown datalog data).length = data.length + 22 := by
  simp [packet, pair, hd]
  omega

theorem length_dataFrame {address function : UInt8} {inverter rest : Bytes} {register : ℕ}
    (hi : inverter.length = 10) :
    (dataFrame address function inverter register rest).length = rest.length + 14 := by
  simp [dataFrame, hi]
  omega

/-! ## What a packet says about itself -/

section

variable (protocol : ℕ) (unknown : UInt8) {datalog : Bytes} (data : Bytes)

/-- The fields of the header, each at its offset. -/
theorem packet_drop (hd : datalog.length = 10) :
    (packet protocol unknown datalog data).drop 2 = u16Bytes protocol ++
        (u16Bytes (14 + (data.length + 2)) ++ ([unknown, 0xC2] ++ (datalog ++
          (u16Bytes (data.length + 2) ++ (data ++ u16Bytes (crc16Modbus data)))))) ∧
      (packet protocol unknown datalog data).drop 4 = u16Bytes (14 + (data.length + 2)) ++
        ([unknown, 0xC2] ++ (datalog ++
          (u16Bytes (data.length + 2) ++ (data ++ u16Bytes (crc16Modbus data))))) ∧
      (packet protocol unknown datalog data).drop 7 = 0xC2 :: (datalog ++
        (u16Bytes (data.length + 2) ++ (data ++ u16Bytes (crc16Modbus data)))) ∧
      (packet protocol unknown datalog data).drop 8 = datalog ++
        (u16Bytes (data.length + 2) ++ (data ++ u16Bytes (crc16Modbus data))) ∧
      (packet protocol unknown datalog data).drop 18 =
        u16Bytes (data.length + 2) ++ (data ++ u16Bytes (crc16Modbus data)) ∧
      (packet protocol unknown datalog data).drop 20 = data ++ u16Bytes (crc16Modbus data) := by
  have h2 : (packet protocol unknown datalog data).drop 2 = u16Bytes protocol ++
      (u16Bytes (14 + (data.length + 2)) ++ ([unknown, 0xC2] ++ (datalog ++
        (u16Bytes (data.length + 2) ++ (data ++ u16Bytes (crc16Modbus data)))))) := by
    simp [packet, pair]
  have h4 := drop_field _ h2 rfl
  have h6 := drop_field _ h4 rfl
  have h7 := drop_field [unknown] h6 rfl
  have h8 := drop_field [0xC2] h7 rfl
  have h18 := drop_field _ h8 (by rw [hd])
  have h20 := drop_field _ h18 rfl
  exact ⟨h2, h4, h7, h8, h18, h20⟩

theorem packet_lengths (hd : datalog.length = 10) (hlen : data.length < 65000) :
    LengthsAgree (packet protocol unknown datalog data) := by
  obtain ⟨-, h4, -, -, h18, -⟩ := packet_drop protocol unknown data hd
  constructor
  · rw [length_packet _ _ _ hd, show data.length + 22 - 6 = 14 + (data.length + 2) by omega]
    exact unpackU16_drop h4 (by omega)
  · rw [length_packet _ _ _ hd, show data.length + 22 - 20 = data.length + 2 by omega]
    exact unpackU16_drop h18 (by omega)

theorem packet_crcOk (hd : datalog.length = 10) : CrcOk (packet protocol unknown datalog data) := by
  obtain ⟨-, -, -, -, -, h20⟩ := packet_drop protocol unknown data hd
  have hcrc : (packet protocol unknown datalog data).drop (data.length + 20) =
      u16Bytes (crc16Modbus data) ++ [] := by
    rw [List.append_nil]
    exact drop_field _ h20 (Nat.add_comm _ _)
  unfold CrcOk
  rw [length_packet _ _ _ hd, show data.length + 22 - 2 = data.length + 20 by omega,
    slice_drop h20 (Nat.add_comm _ _)]
  exact slice_drop hcrc rfl

theorem packet_isFrame (hd : datalog.length = 10) (hlen : data.length < 65000) :
    IsFrame (packet protocol unknown datalog data) := by
  have htotal := length_packet protocol unknown data hd
  have hlengths := packet_lengths protocol unknown data hd hlen
  refine ⟨by simp [packet, pair], ?_, by rw [htotal, headerSize]; omega⟩
  have h := hlengths.frame
  rw [unpackU16_declared (by omega)] at h
  have hdecl := six_le_declared (packet protocol unknown datalog data)
  have := Except.ok.inj h
  omega

/-- The scan of a packet finds the packet and nothing inside it. -/
theorem findFrames_packet (hd : datalog.length = 10) (hlen : data.length < 65000) {f : LuxFrame}
    (h : parseFrame (packet protocol unknown datalog data) = .ok (some f)) :
    findFrames (packet protocol unknown datalog data) = .ok [f] := by
  let frame : WireFrame := ⟨packet protocol unknown datalog data, packet_isFrame protocol unknown data hd hlen⟩
  have hparsed : parseFrame frame.bytes = .ok (some frame.parsed) := frame.parseFrame_eq
  have hf : f = frame.parsed := Option.some.inj (Except.ok.inj (h.symm.trans hparsed))
  rw [hf]
  exact findFrames_frame frame

end

/-- The fields of the data frame, each at its offset. -/
theorem dataFrame_drop {bytes crc inverter rest : Bytes} {address function : UInt8} {register : ℕ}
    (hi : inverter.length = 10)
    (h : bytes.drop 20 = dataFrame address function inverter register rest ++ crc) :
    bytes.drop 21 = function :: (inverter ++ (u16Bytes register ++ (rest ++ crc))) ∧
      bytes.drop 22 = inverter ++ (u16Bytes register ++ (rest ++ crc)) ∧
      bytes.drop 32 = u16Bytes register ++ (rest ++ crc) ∧ bytes.drop 34 = rest ++ crc := by
  have h20 : bytes.drop 20 = [address] ++ (function :: (inverter ++ (u16Bytes register ++
      (rest ++ crc)))) := by
    rw [h]
    simp [dataFrame]
  have h21 := drop_field _ h20 rfl
  have h22 := drop_field [function] h21 rfl
  have h32 := drop_field _ h22 (by rw [hi])
  have h34 := drop_field _ h32 rfl
  exact ⟨h21, h22, h32, h34⟩

/-- What the parser knows when it comes to the part behind the register. -/
def parsedHead (protocol : ℕ) (unknown : UInt8) (datalog : Bytes) (address function : UInt8)
    (inverter : Bytes) (register : ℕ) (rest : Bytes) : LuxFrame :=
  { protocol := protocol
    tcpFunction := tcpFuncTranslatedData
    datalogSerial := decodeSerial datalog
    raw := packet protocol unknown datalog (dataFrame address function inverter register rest)
    address := address.toNat
    deviceFunction := function.toNat
    inverterSerial := decodeSerial inverter
    register := register }

/-- The header, the serials and the register are read back; what follows decides. -/
theorem parseFrame_packet {protocol : ℕ} (unknown : UInt8) {datalog : Bytes} (address : UInt8)
    {function : UInt8} {inverter : Bytes} {register : ℕ} (rest : Bytes) (hp : protocol < 65536)
    (hd : datalog.length = 10) (hf : function.toNat < 128) (hi : inverter.length = 10)
    (hr : register < 65536) :
    parseFrame (packet protocol unknown datalog (dataFrame address function inverter register rest)) =
      (parseBody (packet protocol unknown datalog (dataFrame address function inverter register rest))
        (parsedHead protocol unknown datalog address function inverter register rest)).map some := by
  have hlen := length_packet protocol unknown (dataFrame address function inverter register rest) hd
  rw [length_dataFrame hi] at hlen
  obtain ⟨h2, -, h7, h8, -, h20⟩ := packet_drop protocol unknown
    (dataFrame address function inverter register rest) hd
  obtain ⟨h21, h22, h32, -⟩ := dataFrame_drop hi h20
  generalize hpkt : packet protocol unknown datalog (dataFrame address function inverter register rest) =
    data at *
  have hmagic : slice data 0 2 = [0xA1, 0x1A] := by
    rw [← hpkt]
    rfl
  unfold parseFrame parseDataFrame
  rw [if_neg (by rw [headerSize]; omega), if_neg (by simp [hmagic]), unpackU16_drop h2 hp,
    unpackU16_ok (by omega), byteAt_ok (show 6 < data.length by omega), byteAt_drop h7]
  simp only [ok_bind]
  rw [if_pos ⟨rfl, by omega⟩, unpackU16_ok (by omega), ok_bind, if_neg (by omega),
    byteAt_drop (h20.trans rfl), byteAt_drop h21]
  simp only [ok_bind]
  rw [if_neg (by omega), if_pos (by omega), if_pos (by omega), unpackU16_drop h32 hr,
    slice_drop h22 (by rw [hi]), slice_drop h8 (by rw [hd])]
  simp only [ok_bind]
  have hmap : ∀ x : Except PyErr LuxFrame, (x >>= fun f => pure (some f)) = x.map some := by
    intro x
    cases x <;> rfl
  rw [parsedHead, hpkt]
  exact hmap _

/-! ## Behind the register -/

theorem packet_body (protocol : ℕ) (unknown address function : UInt8) {datalog inverter : Bytes}
    (register : ℕ) (rest : Bytes) (hd : datalog.length = 10) (hi : inverter.length = 10) :
    ∃ crc, (packet protocol unknown datalog (dataFrame address function inverter register rest)).drop 32 =
      u16Bytes register ++ (rest ++ u16Bytes crc) := by
  obtain ⟨-, -, -, -, -, h20⟩ := packet_drop protocol unknown
    (dataFrame address function inverter register rest) hd
  obtain ⟨-, -, h32, -⟩ := dataFrame_drop hi h20
  exact ⟨_, h32⟩

theorem length_of_drop {data rest : Bytes} {n : ℕ} (h : data.drop n = rest) (hne : rest ≠ []) :
    data.length = n + rest.length := by
  have hlen := congrArg List.length h
  have hpos := List.length_pos_iff.mpr hne
  rw [List.length_drop] at hlen
  omega

theorem parseBody_single {data : Bytes} (frame : LuxFrame) {register value : ℕ}
    (h : ∃ crc, data.drop 32 = u16Bytes register ++ (u16Bytes value ++ u16Bytes crc))
    (hf : frame.deviceFunction = modbusWriteSingle) (hv : value < 65536) :
    parseBody data frame = .ok { frame with values := [value] } := by
  obtain ⟨crc, h32⟩ := h
  have hlen := length_of_drop h32 (by simp [u16Bytes])
  simp only [List.length_append, length_u16Bytes] at hlen
  have h34 : data.drop 34 = u16Bytes value ++ u16Bytes crc := drop_field _ h32 rfl
  unfold parseBody
  rw [if_pos hf, if_pos (by omega), unpackU16_drop h34 hv]
  rfl

theorem parseBody_multi {data rest : Bytes} (frame : LuxFrame) {register count : ℕ}
    (h : ∃ crc, data.drop 32 = u16Bytes register ++ ((u16Bytes count ++ rest) ++ u16Bytes crc))
    (hf : frame.deviceFunction = modbusWriteMulti) (hr : register < 65536) (hc : count < 65536) :
    parseBody data frame = .ok { frame with register := register, writeCount := count } := by
  obtain ⟨crc, h32⟩ := h
  have hlen := length_of_drop h32 (by simp [u16Bytes])
  simp only [List.length_append, length_u16Bytes] at hlen
  have h34 : data.drop 34 = u16Bytes count ++ rest ++ u16Bytes crc := drop_field _ h32 rfl
  rw [List.append_assoc] at h34
  have hread : frame.isRead = false := by
    unfold LuxFrame.isRead
    rw [hf]
    rfl
  unfold parseBody
  rw [if_neg (by rw [hf]; decide), hread, if_neg (by simp), if_pos hf, if_pos (by omega),
    unpackU16_drop h32 hr, unpackU16_drop h34 hc]
  rfl

/-- The value loop takes the words that stand before the CRC, as many as it is told. -/
theorem readValues_words {data crc : Bytes} {values : List ℕ} {valsBegin i : ℕ}
    (h : data.drop (valsBegin + i * 2) = wordBytes values ++ crc) (hcrc : 2 ≤ crc.length)
    (hv : ∀ v ∈ values, v < 65536) : readValues data valsBegin i values.length = .ok values := by
  induction values generalizing i with
  | nil => rfl
  | cons v values ih =>
    have hword : data.drop (valsBegin + i * 2) = u16Bytes v ++ (wordBytes values ++ crc) := by
      rw [h]
      simp [wordBytes]
    have hlen := length_of_drop hword (by simp [u16Bytes])
    simp only [List.length_append, length_u16Bytes] at hlen
    have hnext : data.drop (valsBegin + (i + 1) * 2) = wordBytes values ++ crc :=
      drop_field _ hword (by rw [length_u16Bytes]; omega)
    have hrest := ih hnext fun w hw => hv w (List.mem_cons_of_mem v hw)
    rw [List.length_cons, readValues, if_pos (by omega), unpackU16_drop hword (hv v List.mem_cons_self), hrest]
    rfl

/-- The value loop never reads into the CRC. -/
theorem readValues_fits {data : Bytes} {valsBegin i n : ℕ} {values : List ℕ}
    (h : readValues data valsBegin i n = .ok values) (hne : values ≠ []) :
    valsBegin + i * 2 + 2 * values.length ≤ data.length - 2 := by
  induction n generalizing i values with
  | zero =>
    cases h
    exact absurd rfl hne
  | succ n ih =>
    obtain ⟨rest, hrest⟩ := readValues_ok data valsBegin (i + 1) n
    unfold readValues at h
    dsimp only at h
    rw [hrest] at h
    split at h
    · next hfits =>
      rw [unpackU16_ok (by omega)] at h
      cases h
      cases rest with
      | nil => exact hfits
      | cons w rest =>
        have := ih hrest (List.cons_ne_nil w rest)
        rw [List.length_cons] at this ⊢
        rw [List.length_cons]
        omega
    · cases h
      have := ih hrest hne
      omega

/-- A read response is parsed by its byte at offset 34, whatever that byte means. -/
theorem parseBody_read {data : Bytes} (frame : LuxFrame) {register : ℕ} {count : UInt8} {rest : Bytes}
    (h : data.drop 32 = u16Bytes register ++ (count :: rest)) (hf : frame.isRead = true) :
    ∃ values, readValues data 35 0 (count.toNat / 2) = .ok values ∧
      parseBody data frame = .ok { frame with values := values } := by
  have hlen := length_of_drop h (by simp [u16Bytes])
  simp only [List.length_append, length_u16Bytes, List.length_cons] at hlen
  have hnot : frame.deviceFunction ≠ modbusWriteSingle := by
    intro hw
    unfold LuxFrame.isRead at hf
    rw [hw] at hf
    exact absurd hf (by decide)
  obtain ⟨values, hvalues⟩ := readValues_ok data 35 0 (count.toNat / 2)
  refine ⟨values, hvalues, ?_⟩
  unfold parseBody
  have h34 : data.drop 34 = count :: rest := drop_field _ h rfl
  rw [if_neg hnot, if_pos hf, if_pos (by omega), byteAt_drop h34, ok_bind, hvalues]
  rfl

/-! ## Requests -/

/-- The builder returns a packet whose lengths and CRC are right, and the scan finds one frame in it. -/
def ReadBack (built : Except PyErr Bytes) (P : LuxFrame → Prop) : Prop :=
  ∃ bytes f, built = .ok bytes ∧ findFrames bytes = .ok [f] ∧ P f ∧ LengthsAgree bytes ∧ CrcOk bytes

/-- A built packet is read back when the parser understands what stands behind its register. -/
theorem readBack_packet {datalog inverter : String} {function : UInt8} {register : ℕ} {rest : Bytes}
    {f : LuxFrame} {P : LuxFrame → Prop} (hf : function.toNat < 128) (hr : register < 65536)
    (hlen : rest.length < 60000)
    (hbody : parseBody (packet 1 0x01 (serialToBytes datalog)
        (dataFrame 0x00 function (serialToBytes inverter) register rest))
      (parsedHead 1 0x01 (serialToBytes datalog) 0x00 function (serialToBytes inverter) register rest) =
        .ok f) (hP : P f) :
    ReadBack (.ok (translatedData datalog
      ([0x00, function] ++ serialToBytes inverter ++ u16Bytes register ++ rest))) P := by
  have hdlen : (dataFrame 0x00 function (serialToBytes inverter) register rest).length < 65000 := by
    rw [length_dataFrame (length_serialToBytes inverter)]
    omega
  have hparse := parseFrame_packet 0x01 0x00 rest (show 1 < 65536 by decide)
    (length_serialToBytes datalog) hf (length_serialToBytes inverter) hr
  rw [hbody] at hparse
  exact ⟨_, f, rfl, findFrames_packet _ _ _ (length_serialToBytes datalog) hdlen hparse, hP,
    packet_lengths _ _ _ (length_serialToBytes datalog) hdlen,
    packet_crcOk _ _ _ (length_serialToBytes datalog)⟩

theorem writeRequest_readBack (datalog inverter : String) {register value : ℕ}
    (hr : register < 65536) (hv : value < 65536) :
    ReadBack (buildWriteRequest datalog inverter register value) fun f =>
      f.deviceFunction = modbusWriteSingle ∧ f.register = register ∧ f.values = [value] := by
  rw [buildWriteRequest_eq datalog inverter hr hv]
  have hbody := parseBody_single
    (parsedHead 1 0x01 (serialToBytes datalog) 0x00 6 (serialToBytes inverter) register (u16Bytes value))
    (packet_body 1 0x01 0x00 6 register (u16Bytes value) (length_serialToBytes datalog)
      (length_serialToBytes inverter)) rfl hv
  exact readBack_packet (by decide) hr (by rw [length_u16Bytes]; omega) hbody ⟨rfl, rfl, rfl⟩

theorem writeMultiRequest_readBack (datalog inverter : String) {register : ℕ} {values : List ℕ}
    (hr : register < 65536) (hne : values ≠ []) (hmax : values.length ≤ 123)
    (hv : ∀ v ∈ values, v < 65536) :
    ReadBack (buildWriteMultiRequest datalog inverter register (values.map fun v : ℕ => (v : ℤ))) fun f =>
      f.deviceFunction = modbusWriteMulti ∧ f.register = register ∧ f.writeCount = values.length := by
  rw [buildWriteMultiRequest_eq datalog inverter hr hne hmax hv]
  have hbody := parseBody_multi
    (parsedHead 1 0x01 (serialToBytes datalog) 0x00 16 (serialToBytes inverter) register
      (u16Bytes values.length ++ ([(2 * values.length).toUInt8] ++ wordBytes values)))
    (packet_body 1 0x01 0x00 16 register
      (u16Bytes values.length ++ ([(2 * values.length).toUInt8] ++ wordBytes values))
      (length_serialToBytes datalog) (length_serialToBytes inverter)) rfl hr (by omega)
  refine readBack_packet (by decide) hr ?_ hbody ⟨rfl, rfl, rfl⟩
  simp only [List.length_append, length_u16Bytes, length_wordBytes, List.length_singleton]
  omega

/-! ## Read responses -/

/-- A read response in the layout of the document, whatever its header and serials are: it has a
value length byte when the table prescribes one. -/
structure ReadResponse where
  protocol : ℕ
  unknown : UInt8
  datalog : Bytes
  address : UInt8
  function : UInt8
  inverter : Bytes
  register : ℕ
  values : List ℕ
  protocol_lt : protocol < 65536
  datalog_length : datalog.length = 10
  isRead : function.toNat = modbusReadHold ∨ function.toNat = modbusReadInput
  inverter_length : inverter.length = 10
  register_lt : register < 65536
  values_lt : ∀ v ∈ values, v < 65536
  counted : hasValueLength protocol function.toNat .inverter = true → values.length ≤ 127

namespace ReadResponse

def lengthByte (r : ReadResponse) : Bytes :=
  if hasValueLength r.protocol r.function.toNat .inverter then [(2 * r.values.length).toUInt8] else []

def bytes (r : ReadResponse) : Bytes :=
  packet r.protocol r.unknown r.datalog
    (dataFrame r.address r.function r.inverter r.register (r.lengthByte ++ wordBytes r.values))

end ReadResponse

namespace ReadResponse

variable (r : ReadResponse)

theorem hasLength_iff : hasValueLength r.protocol r.function.toNat .inverter = true ↔ r.protocol ≠ 1 := by
  unfold hasValueLength
  rcases r.isRead with h | h
  · rw [h]
    simp
  · rw [h]
    simp

theorem length_lt (h : r.protocol ≠ 1) :
    (dataFrame r.address r.function r.inverter r.register
      (r.lengthByte ++ wordBytes r.values)).length < 65000 := by
  have hcounted := r.counted (r.hasLength_iff.mpr h)
  rw [length_dataFrame r.inverter_length, lengthByte, if_pos (r.hasLength_iff.mpr h)]
  simp only [List.length_append, List.length_singleton, length_wordBytes]
  omega

/-- The head of a response is read back whatever its layout behind the register. -/
theorem parse_eq : ∃ frame, frame.isRead = true ∧ frame.register = r.register ∧
    parseFrame r.bytes = (parseBody r.bytes frame).map some := by
  have hfun : r.function.toNat < 128 := by
    rcases r.isRead with h | h <;> rw [h] <;> decide
  refine ⟨_, ?_, rfl, parseFrame_packet r.unknown r.address _ r.protocol_lt r.datalog_length hfun
    r.inverter_length r.register_lt⟩
  show (r.function.toNat == modbusReadHold || r.function.toNat == modbusReadInput) = true
  rcases r.isRead with h | h <;> rw [h] <;> rfl

theorem body : ∃ crc, r.bytes.drop 32 =
    u16Bytes r.register ++ (r.lengthByte ++ wordBytes r.values ++ u16Bytes crc) :=
  packet_body r.protocol r.unknown r.address r.function r.register
    (r.lengthByte ++ wordBytes r.values) r.datalog_length r.inverter_length

/-- With a value length byte the values are read back. -/
theorem parse_counted (h : r.protocol ≠ 1) :
    ∃ f, parseFrame r.bytes = .ok (some f) ∧ f.register = r.register ∧ f.values = r.values := by
  have hlength := r.hasLength_iff.mpr h
  have hcounted := r.counted hlength
  obtain ⟨frame, hread, hregister, hparse⟩ := r.parse_eq
  obtain ⟨crc, h32⟩ := r.body
  rw [lengthByte, if_pos hlength, List.append_assoc] at h32
  obtain ⟨values, hvalues, hbody⟩ := parseBody_read frame h32 hread
  have h34 : r.bytes.drop 34 = [(2 * r.values.length).toUInt8] ++ (wordBytes r.values ++ u16Bytes crc) :=
    drop_field _ h32 rfl
  have h35 : r.bytes.drop (35 + 0 * 2) = wordBytes r.values ++ u16Bytes crc := drop_field _ h34 rfl
  have hcount : (2 * r.values.length).toUInt8.toNat / 2 = r.values.length := by
    rw [UInt8.toNat_ofNat']
    omega
  rw [hcount] at hvalues
  have hwords := readValues_words h35 (by simp) r.values_lt
  have heq : values = r.values := Except.ok.inj (hvalues.symm.trans hwords)
  refine ⟨{ frame with values := values }, ?_, hregister, heq⟩
  rw [hparse]
  exact congrArg (Except.map some) hbody

/-- Without one, the low byte of the first value is taken for it, and a value is missing. -/
theorem parse_uncounted (h : r.protocol = 1) (hne : r.values ≠ []) {f : LuxFrame}
    (hf : parseFrame r.bytes = .ok (some f)) : f.values.length < r.values.length := by
  have hlength : ¬ hasValueLength r.protocol r.function.toNat .inverter = true :=
    fun hl => r.hasLength_iff.mp hl h
  obtain ⟨frame, hread, -, hparse⟩ := r.parse_eq
  obtain ⟨crc, h32⟩ := r.body
  rw [lengthByte, if_neg hlength, List.nil_append] at h32
  have hlen := length_of_drop h32 (by simp [u16Bytes])
  simp only [List.length_append, length_u16Bytes, length_wordBytes] at hlen
  obtain ⟨v, vs, hvs⟩ := List.exists_cons_of_ne_nil hne
  have hfirst : wordBytes r.values ++ u16Bytes crc =
      (v % 256).toUInt8 :: ((v / 256 % 256).toUInt8 :: wordBytes vs ++ u16Bytes crc) := by
    rw [hvs]
    rfl
  rw [hfirst] at h32
  obtain ⟨values, hvalues, hbody⟩ := parseBody_read frame h32 hread
  have heq : f = { frame with values := values } := by
    have hbytes : parseFrame r.bytes = _ := hparse.trans (congrArg (Except.map some) hbody)
    rw [hf] at hbytes
    exact Option.some.inj (Except.ok.inj hbytes)
  have hpos := List.length_pos_iff.mpr hne
  rw [heq]
  by_cases hnil : values = []
  · rw [hnil]
    exact hpos
  · have hfits := readValues_fits hvalues hnil
    show values.length < r.values.length
    omega

end ReadResponse

/-! ## The two rules -/

/-- Requests and counted read responses are read back as they were laid out. -/
theorem codec_round_trip :
    (∀ (datalog inverter : String) (register value : ℕ), register < 65536 → value < 65536 →
      ReadBack (buildWriteRequest datalog inverter register value) fun f =>
        f.deviceFunction = modbusWriteSingle ∧ f.register = register ∧ f.values = [value]) ∧
    (∀ (datalog inverter : String) (register : ℕ) (values : List ℕ), register < 65536 → values ≠ [] →
      values.length ≤ 123 → (∀ v ∈ values, v < 65536) →
      ReadBack (buildWriteMultiRequest datalog inverter register (values.map fun v : ℕ => (v : ℤ))) fun f =>
        f.deviceFunction = modbusWriteMulti ∧ f.register = register ∧ f.writeCount = values.length) ∧
    ∀ r : ReadResponse, r.protocol ≠ 1 →
      ∃ f, parseFrame r.bytes = .ok (some f) ∧ findFrames r.bytes = .ok [f] ∧ f.values = r.values := by
  refine ⟨fun datalog inverter _ _ hr hv => writeRequest_readBack datalog inverter hr hv,
    fun datalog inverter _ _ hr hne hmax hv => writeMultiRequest_readBack datalog inverter hr hne hmax hv,
    fun r h => ?_⟩
  obtain ⟨f, hf, -, hvalues⟩ := r.parse_counted h
  exact ⟨f, hf, findFrames_packet _ _ _ r.datalog_length (r.length_lt h) hf, hvalues⟩

/-- A write of the pair A1 1A to the schedule block, whose payload looks like the start of a frame. -/
theorem codec_round_trip_prefix :
    ReadBack (buildWriteMultiRequest "0123456789" "9876543210" 500 [0x1AA1, 0x0005]) fun f =>
      f.deviceFunction = modbusWriteMulti ∧ f.register = 500 ∧ f.writeCount = 2 :=
  codec_round_trip.2.1 "0123456789" "9876543210" 500 [0x1AA1, 0x0005] (by decide) (by decide) (by decide)
    (by decide)

/-- The parser understands a response: its register and all its values. -/
def ReadResponse.Understood (r : ReadResponse) : Prop :=
  ∃ f, parseFrame r.bytes = .ok (some f) ∧ f.register = r.register ∧ f.values = r.values

/-- Read responses are understood exactly when their protocol has the value length byte. -/
theorem value_length_iff (r : ReadResponse) (hne : r.values ≠ []) : r.Understood ↔ r.protocol ≠ 1 := by
  constructor
  · rintro ⟨f, hf, -, hvalues⟩ hp
    have hlt := r.parse_uncounted hp hne hf
    rw [hvalues] at hlt
    exact Nat.lt_irrefl _ hlt
  · exact r.parse_counted

/-- A response for register 60 with the value 100. -/
def singleRead (protocol : ℕ) (h : protocol < 65536) : ReadResponse where
  protocol := protocol
  unknown := 1
  datalog := List.replicate 10 0x41
  address := 1
  function := 3
  inverter := List.replicate 10 0x31
  register := 60
  values := [100]
  protocol_lt := h
  datalog_length := rfl
  isRead := Or.inl rfl
  inverter_length := rfl
  register_lt := by decide
  values_lt := by decide
  counted := fun _ => by decide

/-- Of the dongle's own protocol. -/
theorem value_length_five : (singleRead 5 (by decide)).Understood :=
  (value_length_iff (singleRead 5 (by decide)) (by decide)).mpr (by decide)

/-- Of protocol 1: the value is lost. -/
theorem value_length_one :
    ¬ (singleRead 1 (by decide)).Understood ∧
      (parseFrame (singleRead 1 (by decide)).bytes).map (fun f => f.map LuxFrame.values) = .ok (some []) := by
  have hparse : (parseFrame (singleRead 1 (by decide)).bytes).map (fun f => f.map LuxFrame.values) =
      .ok (some []) := by decide +kernel
  refine ⟨?_, hparse⟩
  rintro ⟨f, hf, -, hvalues⟩
  rw [hf] at hparse
  have : f.values = [] := Option.some.inj (Except.ok.inj hparse)
  rw [hvalues] at this
  cases this

end LuxMon
