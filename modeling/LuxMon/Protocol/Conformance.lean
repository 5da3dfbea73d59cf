import LuxMon.Protocol.Requests
import LuxMon.Protocol.Wire

/-!
# Requests and the protocol document

A decoder of client requests written from the protocol document: the frame table,
the table that ties the value length byte to the protocol version, and the request
layouts.  A serial is ten ASCII characters there.

    read and write-single requests are recovered ↔ both serials are serials
    multi-write requests are never recovered                      (request_conforms_iff)
-/

namespace LuxMon

open Python

/-! ## The document's decoder -/

inductive Source
  | client
  | inverter
  deriving DecidableEq

/-- The value-length-byte table. -/
def hasValueLength (protocol function : ℕ) (source : Source) : Bool :=
  protocol ≠ 1 &&
    ((function == modbusReadHold || function == modbusReadInput) && source == .inverter ||
      function == modbusWriteMulti && source == .client)

inductive RequestBody
  | read (function register count : ℕ)
  | writeSingle (register value : ℕ)
  | writeMulti (register : ℕ) (values : List ℕ)
  deriving DecidableEq

structure DecodedRequest where
  datalogSerial : String
  inverterSerial : String
  body : RequestBody
  deriving DecidableEq

def takeBytes (n : ℕ) (bs : Bytes) : Option (Bytes × Bytes) :=
  if n ≤ bs.length then some (bs.take n, bs.drop n) else none

def takeU16 : Bytes → Option (ℕ × Bytes)
  | lo :: hi :: rest => some (lo.toNat + 256 * hi.toNat, rest)
  | _ => none

/-- Little-endian 16-bit values up to the end. -/
def wordsOf : Bytes → Option (List ℕ)
  | [] => some []
  | [_] => none
  | lo :: hi :: rest => (wordsOf rest).map ((lo.toNat + 256 * hi.toNat) :: ·)

/-- A 10-byte ASCII serial. -/
def asciiSerial (bs : Bytes) : Option String :=
  if bs.all (fun b => b.toNat < 128) then
    some (String.ofList (bs.map fun b => Char.ofNat b.toNat))
  else none

/-- What follows the register, by function. -/
def decodeBody (protocol function register : ℕ) (rest : Bytes) : Option RequestBody := do
  let (word, rest) ← takeU16 rest
  if function = modbusReadHold ∨ function = modbusReadInput then
    guard (rest = [])
    return .read function register word
  if function = modbusWriteSingle then
    guard (rest = [])
    return .writeSingle register word
  guard (function = modbusWriteMulti)
  if hasValueLength protocol function .client then
    let (len, rest) ← takeBytes 1 rest
    guard (len = [(2 * word).toUInt8] ∧ rest.length = 2 * word)
    return .writeMulti register (← wordsOf rest)
  guard (rest.length = 2 * word)
  return .writeMulti register (← wordsOf rest)

/-- A client's data frame, without its CRC. -/
def decodeData (protocol : ℕ) (data : Bytes) : Option (String × RequestBody) := do
  let (head, rest) ← takeBytes 2 data
  guard (head.take 1 = [0x00])
  let (serial, rest) ← takeBytes 10 rest
  let (register, rest) ← takeU16 rest
  let body ← decodeBody protocol (head.getD 1 0).toNat register rest
  return (← asciiSerial serial, body)

/-- A whole TranslatedData request. -/
def decodeRequest (packet : Bytes) : Option DecodedRequest := do
  let (start, rest) ← takeBytes 2 packet
  guard (start = pair)
  let (protocol, rest) ← takeU16 rest
  let (frameLength, rest) ← takeU16 rest
  guard (frameLength = rest.length)
  let (kind, rest) ← takeBytes 2 rest
  guard (kind = [0x01, 0xC2])
  let (datalog, rest) ← takeBytes 10 rest
  let (dataLength, rest) ← takeU16 rest
  guard (dataLength = rest.length ∧ 2 ≤ rest.length)
  let (data, crc) ← takeBytes (rest.length - 2) rest
  guard (crc = u16Bytes (crc16Modbus data))
  let (inverter, body) ← decodeData protocol data
  return ⟨← asciiSerial datalog, inverter, body⟩

/-! ## Fields -/

theorem u16Bytes_toNat {n : ℕ} (h : n < 65536) :
    ((n % 256).toUInt8).toNat + 256 * ((n / 256 % 256).toUInt8).toNat = n := by
  have h1 : ((n % 256).toUInt8).toNat = n % 256 := by
    rw [UInt8.toNat_ofNat']
    omega
  have h2 : ((n / 256 % 256).toUInt8).toNat = n / 256 := by
    rw [UInt8.toNat_ofNat']
    omega
  rw [h1, h2]
  omega

@[simp] theorem length_u16Bytes (n : ℕ) : (u16Bytes n).length = 2 := rfl

theorem takeU16_append {n : ℕ} (h : n < 65536) (rest : Bytes) :
    takeU16 (u16Bytes n ++ rest) = some (n, rest) := by
  show some (_ + 256 * _, rest) = _
  rw [u16Bytes_toNat h]

theorem takeBytes_append {xs : Bytes} {n : ℕ} (h : xs.length = n) (rest : Bytes) :
    takeBytes n (xs ++ rest) = some (xs, rest) := by
  subst h
  unfold takeBytes
  rw [if_pos (by simp), List.take_left, List.drop_left]

@[simp] theorem length_serialToBytes (s : String) : (serialToBytes s).length = 10 := by
  unfold serialToBytes
  simp only [List.length_take, List.length_append, List.length_replicate]
  omega

/-- What the document calls a serial. -/
def IsSerial (s : String) : Prop := s.toList.length = 10 ∧ ∀ c ∈ s.toList, c.toNat < 128

instance (s : String) : Decidable (IsSerial s) :=
  haveI := List.decidableBAll (fun c : Char => c.toNat < 128) s.toList
  inferInstanceAs (Decidable (_ ∧ ∀ c ∈ s.toList, c.toNat < 128))

/-- The ten characters that the packet carries for a serial. -/
def carried (s : String) : String :=
  String.ofList ((serialToBytes s).map fun b => Char.ofNat b.toNat)

theorem serialToBytes_ascii (s : String) : ∀ b ∈ serialToBytes s, b.toNat < 128 := by
  intro b hb
  rcases List.mem_append.mp (List.mem_of_mem_take hb) with h | h
  · obtain ⟨c, -, rfl⟩ := List.mem_map.mp h
    split
    · next hc =>
      rw [UInt8.toNat_ofNat']
      omega
    · decide
  · rw [List.eq_of_mem_replicate h]
    decide

theorem asciiSerial_serialToBytes (s : String) :
    asciiSerial (serialToBytes s) = some (carried s) := by
  have hall : ((serialToBytes s).all fun b => b.toNat < 128) = true := by
    simpa using serialToBytes_ascii s
  unfold asciiSerial
  rw [if_pos hall]
  rfl

theorem char_ofNat_toNat_lt : ∀ {n : ℕ}, n < 128 → (Char.ofNat n).toNat = n := by
  decide

/-- The packet carries the serial itself exactly when it is ten ASCII characters. -/
theorem carried_eq_iff (s : String) : carried s = s ↔ IsSerial s := by
  constructor
  · intro h
    have hlist : s.toList = (serialToBytes s).map fun b => Char.ofNat b.toNat := by
      conv_lhs => rw [← h]
      exact String.toList_ofList
    refine ⟨?_, fun c hc => ?_⟩
    · rw [hlist, List.length_map, length_serialToBytes]
    · rw [hlist] at hc
      obtain ⟨b, hb, rfl⟩ := List.mem_map.mp hc
      have hlt := serialToBytes_ascii s b hb
      rw [char_ofNat_toNat_lt hlt]
      exact hlt
  · rintro ⟨hlen, hascii⟩
    have hbytes : serialToBytes s = s.toList.map fun c => c.toNat.toUInt8 := by
      have hmap : (s.toList.map fun c => if c.toNat < 128 then c.toNat.toUInt8 else 63) =
          s.toList.map fun c => c.toNat.toUInt8 :=
        List.map_congr_left fun c hc => if_pos (hascii c hc)
      unfold serialToBytes
      rw [hmap]
      simp [hlen]
    have hchars : (s.toList.map fun c => c.toNat.toUInt8).map (fun b => Char.ofNat b.toNat) =
        s.toList := by
      rw [List.map_map]
      conv_rhs => rw [← List.map_id s.toList]
      refine List.map_congr_left fun c hc => ?_
      have hlt := hascii c hc
      have htoNat : (c.toNat.toUInt8).toNat = c.toNat := by
        rw [UInt8.toNat_ofNat']
        omega
      show Char.ofNat (c.toNat.toUInt8).toNat = c
      rw [htoNat, Char.ofNat_toNat]
    unfold carried
    rw [hbytes, hchars, String.ofList_toList]

/-! ## Decoding what the builders build -/

theorem some_bind {α β : Type} (a : α) (f : α → Option β) : (some a >>= f) = f a := rfl

theorem guard_bind {β : Type} {c : Prop} [Decidable c] (h : c) (f : Unit → Option β) :
    (guard c >>= f) = f () := by
  unfold guard
  rw [if_pos h]
  rfl

theorem guard_bind_not {β : Type} {c : Prop} [Decidable c] (h : ¬ c) (f : Unit → Option β) :
    (guard c >>= f) = none := by
  unfold guard
  rw [if_neg h]
  rfl

/-- The outer packet is consistent: the decoder comes down to the data frame. -/
theorem decodeRequest_translatedData (datalog : String) {data : Bytes} (h : data.length < 65000) :
    decodeRequest (translatedData datalog data) =
      (decodeData 1 data).map fun d => ⟨carried datalog, d.1, d.2⟩ := by
  have hpacket : translatedData datalog data = pair ++ (u16Bytes 1 ++ (u16Bytes (14 + (data.length + 2)) ++
      ([0x01, 0xC2] ++ (serialToBytes datalog ++ (u16Bytes (data.length + 2) ++
        (data ++ u16Bytes (crc16Modbus data))))))) := by
    simp [translatedData, pair]
  have hrest : (data ++ u16Bytes (crc16Modbus data)).length - 2 = data.length := by simp
  rw [hpacket]
  unfold decodeRequest
  rw [takeBytes_append (show pair.length = 2 from rfl), some_bind]
  dsimp only
  rw [guard_bind rfl, takeU16_append (by omega), some_bind]
  dsimp only
  rw [takeU16_append (by omega), some_bind]
  dsimp only
  rw [guard_bind (by simp; omega), takeBytes_append (show ([0x01, 0xC2] : Bytes).length = 2 from rfl),
    some_bind]
  dsimp only
  rw [guard_bind rfl, takeBytes_append (length_serialToBytes datalog), some_bind]
  dsimp only
  rw [takeU16_append (by omega), some_bind]
  dsimp only
  rw [guard_bind (by simp), hrest, takeBytes_append rfl, some_bind]
  dsimp only
  rw [guard_bind rfl, asciiSerial_serialToBytes]
  cases decodeData 1 data <;> rfl

/-- The data frame is consistent: what follows the register decides. -/
theorem decodeData_frame (inverter : String) (function : UInt8) {register : ℕ} (h : register < 65536)
    (rest : Bytes) :
    decodeData 1 ([0x00, function] ++ serialToBytes inverter ++ u16Bytes register ++ rest) =
      (decodeBody 1 function.toNat register rest).map fun body => (carried inverter, body) := by
  simp only [List.append_assoc]
  unfold decodeData
  rw [takeBytes_append (show ([0x00, function] : Bytes).length = 2 from rfl), some_bind]
  dsimp only
  rw [guard_bind (show ([0x00, function] : Bytes).take 1 = [0x00] from rfl),
    takeBytes_append (length_serialToBytes inverter), some_bind]
  dsimp only
  rw [takeU16_append h, some_bind, asciiSerial_serialToBytes]
  show (decodeBody 1 function.toNat register rest >>= _) = _
  cases decodeBody 1 function.toNat register rest <;> rfl

/-- The builder returns a packet, and the document's decoder reads `request` from it. -/
def Recovers (packet : Except PyErr Bytes) (request : DecodedRequest) : Prop :=
  ∃ bytes, packet = .ok bytes ∧ decodeRequest bytes = some request

theorem packU16_natCast {n : ℕ} (h : n < 65536) : packU16 (n : ℤ) = .ok (u16Bytes n) := by
  rw [packU16_ok (by omega), Int.toNat_natCast]

/-- A request is recovered exactly when the packet carries both serials. -/
theorem recovers_iff {packet : Except PyErr Bytes} {data : Bytes} {datalog inverter : String}
    {body : RequestBody} (hpacket : packet = .ok (translatedData datalog data))
    (hlen : data.length < 65000) (hdata : decodeData 1 data = some (carried inverter, body)) :
    Recovers packet ⟨datalog, inverter, body⟩ ↔ IsSerial datalog ∧ IsSerial inverter := by
  have hdecode : decodeRequest (translatedData datalog data) =
      some ⟨carried datalog, carried inverter, body⟩ := by
    rw [decodeRequest_translatedData datalog hlen, hdata]
    rfl
  rw [← carried_eq_iff, ← carried_eq_iff]
  constructor
  · rintro ⟨bytes, hbytes, hrequest⟩
    rw [hpacket] at hbytes
    cases hbytes
    rw [hdecode] at hrequest
    have heq := Option.some.inj hrequest
    exact ⟨congrArg DecodedRequest.datalogSerial heq, congrArg DecodedRequest.inverterSerial heq⟩
  · rintro ⟨hd, hi⟩
    refine ⟨_, hpacket, ?_⟩
    rw [hdecode, hd, hi]

theorem decodeBody_read {function : ℕ} (hf : function = modbusReadHold ∨ function = modbusReadInput)
    {register count : ℕ} (hc : count < 65536) :
    decodeBody 1 function register (u16Bytes count) = some (.read function register count) := by
  have hword := takeU16_append hc []
  rw [List.append_nil] at hword
  unfold decodeBody
  rw [hword, some_bind]
  dsimp only
  rw [if_pos hf, guard_bind rfl]
  rfl

theorem decodeBody_write {register value : ℕ} (hv : value < 65536) :
    decodeBody 1 modbusWriteSingle register (u16Bytes value) = some (.writeSingle register value) := by
  have hword := takeU16_append hv []
  rw [List.append_nil] at hword
  unfold decodeBody
  rw [hword, some_bind]
  dsimp only
  rw [if_neg (by decide), if_pos rfl, guard_bind rfl]
  rfl

/-- Without a value length byte the document expects exactly the values. -/
theorem decodeBody_multi {register count : ℕ} (hc : count < 65536) {rest : Bytes}
    (hlen : rest.length ≠ 2 * count) :
    decodeBody 1 modbusWriteMulti register (u16Bytes count ++ rest) = none := by
  unfold decodeBody
  rw [takeU16_append hc, some_bind]
  dsimp only
  rw [if_neg (by decide), if_neg (by decide), guard_bind rfl, if_neg (by decide), guard_bind_not hlen]

/-! ## The three builders -/

theorem buildReadRequest_recovers_iff (datalog inverter : String) {function : ℕ}
    (hf : function = modbusReadHold ∨ function = modbusReadInput) {register count : ℕ}
    (hr : register < 65536) (hc : count < 65536) :
    Recovers (buildReadRequest datalog inverter function register count)
        ⟨datalog, inverter, .read function register count⟩ ↔
      IsSerial datalog ∧ IsSerial inverter := by
  have hfun : function.toUInt8.toNat = function := by
    rcases hf with rfl | rfl <;> rfl
  have hdata : decodeData 1 ([0x00, function.toUInt8] ++ serialToBytes inverter ++ u16Bytes register ++
      u16Bytes count) = some (carried inverter, .read function register count) := by
    rw [decodeData_frame inverter _ hr, hfun, decodeBody_read hf hc]
    rfl
  refine recovers_iff ?_ (by simp) hdata
  unfold buildReadRequest
  rw [packU16_natCast hr, packU16_natCast hc]
  rfl

theorem buildWriteRequest_eq (datalog inverter : String) {register value : ℕ}
    (hr : register < 65536) (hv : value < 65536) :
    buildWriteRequest datalog inverter register value = .ok (translatedData datalog
      ([0x00, 6] ++ serialToBytes inverter ++ u16Bytes register ++ u16Bytes value)) := by
  unfold buildWriteRequest
  rw [if_neg (by simp; omega), packU16_natCast hr, packU16_natCast hv]
  rfl

theorem buildWriteRequest_recovers_iff (datalog inverter : String) {register value : ℕ}
    (hr : register < 65536) (hv : value < 65536) :
    Recovers (buildWriteRequest datalog inverter register value)
        ⟨datalog, inverter, .writeSingle register value⟩ ↔
      IsSerial datalog ∧ IsSerial inverter := by
  have hdata : decodeData 1 ([0x00, 6] ++ serialToBytes inverter ++ u16Bytes register ++
      u16Bytes value) = some (carried inverter, .writeSingle register value) := by
    rw [decodeData_frame inverter _ hr, show (6 : UInt8).toNat = modbusWriteSingle from rfl,
      decodeBody_write hv]
    rfl
  exact recovers_iff (buildWriteRequest_eq datalog inverter hr hv) (by simp) hdata

theorem mapM_packU16 {values : List ℕ} (h : ∀ v ∈ values, v < 65536) :
    (values.map fun v : ℕ => (v : ℤ)).mapM packU16 = .ok (values.map u16Bytes) := by
  have hpack : ∀ v ∈ values.map fun v : ℕ => (v : ℤ), packU16 v = .ok (u16Bytes v.toNat) := by
    intro v hv
    obtain ⟨w, hw, rfl⟩ := List.mem_map.mp hv
    exact packU16_natCast (h w hw)
  rw [mapM_ok hpack, List.map_map]
  rfl

theorem forM_range {values : List ℕ} (h : ∀ v ∈ values, v < 65536) :
    ((values.map fun v : ℕ => (v : ℤ)).forM fun v =>
      if 0 ≤ v ∧ v ≤ 0xFFFF then pure () else throw (outOfRange v)) =
      (.ok () : Except PyErr Unit) := by
  induction values with
  | nil => rfl
  | cons v values ih =>
    have hv := h v List.mem_cons_self
    have hrest := ih fun w hw => h w (List.mem_cons_of_mem v hw)
    rw [List.forM_eq_forM] at hrest ⊢
    rw [List.map_cons, List.forM_cons, if_pos (by omega)]
    exact hrest

/-- The values of registers, two bytes each. -/
def wordBytes (values : List ℕ) : Bytes := (values.map u16Bytes).flatten

@[simp] theorem length_wordBytes (values : List ℕ) : (wordBytes values).length = 2 * values.length := by
  unfold wordBytes
  rw [List.length_flatten, List.map_map]
  have : List.length ∘ u16Bytes = fun _ => 2 := rfl
  rw [this, List.map_const', List.sum_replicate, Nat.nsmul_eq_mul, Nat.mul_comm]

theorem buildWriteMultiRequest_eq (datalog inverter : String) {register : ℕ} {values : List ℕ}
    (hr : register < 65536) (hne : values ≠ []) (hmax : values.length ≤ 123)
    (hv : ∀ v ∈ values, v < 65536) :
    buildWriteMultiRequest datalog inverter register (values.map fun v : ℕ => (v : ℤ)) =
      .ok (translatedData datalog ([0x00, 16] ++ serialToBytes inverter ++ u16Bytes register ++
        (u16Bytes values.length ++ ([(2 * values.length).toUInt8] ++ wordBytes values)))) := by
  have hcount : values.length < 65536 := by omega
  unfold buildWriteMultiRequest
  rw [if_neg (by simpa using hne), List.length_map, if_neg (by omega), forM_range hv,
    packU16_natCast hr, packU16_natCast hcount, mapM_packU16 hv]
  simp [wordBytes]

/-- The multi-write packet says protocol 1, yet it carries the byte count. -/
theorem buildWriteMultiRequest_not_recovered (datalog inverter : String) {register : ℕ}
    {values : List ℕ} (hr : register < 65536) (hne : values ≠ []) (hmax : values.length ≤ 123)
    (hv : ∀ v ∈ values, v < 65536) (request : DecodedRequest) :
    ¬ Recovers (buildWriteMultiRequest datalog inverter register (values.map fun v : ℕ => (v : ℤ)))
      request := by
  have hcount : values.length < 65536 := by omega
  have hlen : ([0x00, 16] ++ serialToBytes inverter ++ u16Bytes register ++ (u16Bytes values.length ++
      ([(2 * values.length).toUInt8] ++ wordBytes values))).length < 65000 := by
    simp only [List.length_append, length_wordBytes, length_serialToBytes, length_u16Bytes,
      List.length_cons, List.length_nil]
    omega
  rintro ⟨bytes, hbytes, hdecode⟩
  rw [buildWriteMultiRequest_eq datalog inverter hr hne hmax hv] at hbytes
  cases hbytes
  rw [decodeRequest_translatedData datalog hlen, decodeData_frame inverter _ hr,
    show (16 : UInt8).toNat = modbusWriteMulti from rfl, decodeBody_multi hcount] at hdecode
  · cases hdecode
  · rw [List.length_append, length_wordBytes, List.length_singleton]
    omega

/-- Which requests the document's decoder reads back. -/
theorem request_conforms_iff (datalog inverter : String) (register : ℕ) (hr : register < 65536) :
    (∀ function, function = modbusReadHold ∨ function = modbusReadInput → ∀ count : ℕ, count < 65536 →
      (Recovers (buildReadRequest datalog inverter function register count)
          ⟨datalog, inverter, .read function register count⟩ ↔
        IsSerial datalog ∧ IsSerial inverter)) ∧
    (∀ value : ℕ, value < 65536 →
      (Recovers (buildWriteRequest datalog inverter register value)
          ⟨datalog, inverter, .writeSingle register value⟩ ↔
        IsSerial datalog ∧ IsSerial inverter)) ∧
    ∀ values : List ℕ, values ≠ [] → values.length ≤ 123 → (∀ v ∈ values, v < 65536) →
      ¬ Recovers (buildWriteMultiRequest datalog inverter register (values.map fun v : ℕ => (v : ℤ)))
        ⟨datalog, inverter, .writeMulti register values⟩ :=
  ⟨fun _ hf _ hc => buildReadRequest_recovers_iff datalog inverter hf hr hc,
    fun _ hv => buildWriteRequest_recovers_iff datalog inverter hr hv,
    fun _ hne hmax hv => buildWriteMultiRequest_not_recovered datalog inverter hr hne hmax hv _⟩

/-- A read of 40 input registers and a write of register 60, with serials of ten digits. -/
theorem request_conforms_sample :
    Recovers (buildReadRequest "0123456789" "9876543210" 4 0 40)
        ⟨"0123456789", "9876543210", .read 4 0 40⟩ ∧
      ¬ Recovers (buildWriteMultiRequest "0123456789" "9876543210" 0 [100, 200])
        ⟨"0123456789", "9876543210", .writeMulti 0 [100, 200]⟩ := by
  have h := request_conforms_iff "0123456789" "9876543210" 0 (by decide)
  exact ⟨(h.1 4 (Or.inr rfl) 40 (by decide)).mpr ⟨by decide, by decide⟩,
    h.2.2 [100, 200] (by decide) (by decide) (by decide)⟩

/-- The schedule block's write of two registers, on serials as the document has them. -/
theorem writeMulti_not_conforming :
    ∃ bytes, buildWriteMultiRequest "0123456789" "9876543210" 500 [100, 200] = .ok bytes ∧
      decodeRequest bytes = none := by
  refine ⟨_, rfl, ?_⟩
  decide +kernel

end LuxMon
