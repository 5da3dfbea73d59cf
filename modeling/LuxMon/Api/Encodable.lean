import LuxMon.Api.WriteGate
import LuxMon.Protocol.Conformance

/-!
# Accepted values and 16-bit words

`PUT /api/holding/{name}` checks a value against the bounds of the table, which are
signed for some rows; the packet builder takes unsigned words.

    an accepted value is sent as itself ↔ its row has no negative minimum, or the value
      lies from zero to the largest positive word                 (accepted_encodable_iff)
-/

namespace LuxMon

open Python

/-! ## What is asked for and what arrives -/

/-- The engineering value that the body asks for. -/
def HoldingUpdate.AsksFor (body : HoldingUpdate) (info : HoldingRegister) (v : ℚ) : Prop :=
  (∃ r : ℤ, body.raw = some r ∧ v = r * info.scale) ∨ body.value = some (.fin v)

/-- A word of the register: two's complement where the minimum is negative. -/
def HoldingRegister.interpret (info : HoldingRegister) (word : ℕ) : ℤ :=
  if info.min < 0 ∧ 2 ^ 15 ≤ word then word - 2 ^ 16 else word

/-- `q` is `v` rounded to a multiple of `scale`. -/
def RoundsTo (scale v q : ℚ) : Prop := (∃ k : ℤ, q = k * scale) ∧ |q - v| ≤ scale / 2

/-- The request is built, and the inverter reads `v` from it, rounded to the resolution. -/
def Carries (packet : Except PyErr Bytes) (reg : ℕ) (info : HoldingRegister) (v : ℚ) : Prop :=
  ∃ bytes word, packet = .ok bytes ∧ (decodeRequest bytes).map DecodedRequest.body = some (.writeSingle reg word) ∧
    RoundsTo info.scale v (info.interpret word * info.scale)

section
variable {reg : ℕ} {info : HoldingRegister} {raw : ℤ} {v : ℚ}

theorem holdingRegister_mem (h : holdingRegister reg = some info) : (reg, info) ∈ holdingRegisters := by
  obtain ⟨l₁, l₂, hl, -⟩ := List.lookup_eq_some_iff.mp h
  rw [hl]
  simp

theorem scale_pos (h : holdingRegister reg = some info) : 0 < info.scale := by
  rcases (holdingRegisters_wf _ (holdingRegister_mem h)).2.1 with hs | hs | hs <;> rw [hs] <;> norm_num

/-- No maximum is above the largest word. -/
theorem max_le_word (h : holdingRegister reg = some info) : info.max ≤ 0xFFFF := by
  have hall : ∀ r ∈ holdingRegisters, r.2.max ≤ 0xFFFF := by decide +kernel
  exact hall _ (holdingRegister_mem h)

/-- Only a number is converted. -/
theorem engineeringToRaw_some {x : PyFloat} (h : engineeringToRaw x info = some raw) : ∃ q, x = .fin q := by
  cases x with
  | fin q => exact ⟨q, rfl⟩
  | nan => cases h
  | posInf =>
    simp only [engineeringToRaw, PyFloat.divBy] at h
    split_ifs at h <;> simp [PyFloat.round] at h
  | negInf =>
    simp only [engineeringToRaw, PyFloat.divBy] at h
    split_ifs at h <;> simp [PyFloat.round] at h

/-- What an accepted body asks for is half a unit from the raw value at most. -/
theorem accepted_raw {name : String} {body : HoldingUpdate} (hinfo : holdingRegister reg = some info)
    (h : requestedRaw name info body = .ok raw) :
    info.min ≤ raw ∧ raw ≤ info.max ∧ (∃ v, body.AsksFor info v) ∧
      ∀ v, body.AsksFor info v → raw = roundHalfEven (v / info.scale) := by
  have hs : info.scale ≠ 0 := (scale_pos hinfo).ne'
  obtain ⟨value, raw'⟩ := body
  cases raw' with
  | some r =>
    cases value with
    | some x => cases h
    | none =>
      obtain ⟨rfl, hmin, hmax⟩ := checkRaw_ok h
      refine ⟨hmin, hmax, ⟨_, Or.inl ⟨_, rfl, rfl⟩⟩, ?_⟩
      rintro v (⟨s, hr, rfl⟩ | hv)
      · obtain rfl := Option.some.inj hr
        rw [mul_div_assoc, div_self hs, mul_one, roundHalfEven_intCast]
      · cases hv
  | none =>
    cases value with
    | none => cases h
    | some x =>
      cases hx : engineeringToRaw x info with
      | none =>
        unfold requestedRaw at h
        simp only [hx] at h
        cases h
      | some r =>
        obtain ⟨q, rfl⟩ := engineeringToRaw_some hx
        unfold requestedRaw at h
        simp only [hx] at h
        obtain ⟨rfl, hmin, hmax⟩ := checkRaw_ok h
        rw [engineeringToRaw_fin q hs] at hx
        refine ⟨hmin, hmax, ⟨q, Or.inr rfl⟩, ?_⟩
        rintro v (⟨s, hs', -⟩ | hv)
        · cases hs'
        · cases hv
          exact (Option.some.inj hx).symm

/-- The word of a 16-bit value is read from its request. -/
theorem request_word (datalog inverter : String) (hreg : reg < 65536) (h0 : 0 ≤ raw) (hmax : raw ≤ 0xFFFF) :
    ∃ bytes, buildWriteRequest datalog inverter reg raw = .ok bytes ∧
      (decodeRequest bytes).map DecodedRequest.body = some (.writeSingle reg raw.toNat) := by
  have hword : raw.toNat < 65536 := by omega
  have hraw : raw = (raw.toNat : ℤ) := by omega
  have hdata : decodeData 1 ([0x00, 6] ++ serialToBytes inverter ++ u16Bytes reg ++ u16Bytes raw.toNat) =
      some (carried inverter, .writeSingle reg raw.toNat) := by
    rw [decodeData_frame inverter _ hreg, show (6 : UInt8).toNat = modbusWriteSingle from rfl, decodeBody_write hword]
    rfl
  refine ⟨translatedData datalog ([0x00, 6] ++ serialToBytes inverter ++ u16Bytes reg ++ u16Bytes raw.toNat), ?_, ?_⟩
  · rw [hraw, buildWriteRequest_eq datalog inverter hreg hword, Int.toNat_natCast]
  · rw [decodeRequest_translatedData datalog (by simp), hdata]
    rfl

/-- Rounding to the resolution. -/
theorem roundsTo_roundHalfEven {scale : ℚ} (hs : 0 < scale) (v : ℚ) :
    RoundsTo scale v (roundHalfEven (v / scale) * scale) := by
  refine ⟨⟨_, rfl⟩, ?_⟩
  have herr := abs_roundHalfEven_sub_le (v / scale)
  have hv : v = v / scale * scale := (div_mul_cancel₀ v hs.ne').symm
  calc |(roundHalfEven (v / scale) : ℚ) * scale - v|
      = |(roundHalfEven (v / scale) - v / scale) * scale| := by rw [sub_mul, ← hv]
    _ = |(roundHalfEven (v / scale) : ℚ) - v / scale| * scale := by rw [abs_mul, abs_of_pos hs]
    _ ≤ 1 / 2 * scale := mul_le_mul_of_nonneg_right herr hs.le
    _ = scale / 2 := by ring

/-- A multiple of the resolution that is a whole word away is no rounding. -/
theorem not_roundsTo_wrapped {scale : ℚ} (hs : 0 < scale) {q : ℚ} (h : RoundsTo scale v q) :
    ¬ RoundsTo scale v (q - 2 ^ 16 * scale) := by
  intro hwrapped
  have h1 := abs_le.mp h.2
  have h2 := abs_le.mp hwrapped.2
  linarith

/-- A request is sent as what was asked for exactly when its raw value is a word of the register. -/
theorem carries_iff (datalog inverter : String) (hinfo : holdingRegister reg = some info)
    (hraw : raw = roundHalfEven (v / info.scale)) (hmax : raw ≤ info.max) :
    Carries (buildWriteRequest datalog inverter reg raw) reg info v ↔
      0 ≤ raw ∧ (info.min < 0 → raw < 2 ^ 15) := by
  have hreg : reg < 65536 := (holdingRegisters_wf _ (holdingRegister_mem hinfo)).2.2
  have hmax' := le_trans hmax (max_le_word hinfo)
  have hs := scale_pos hinfo
  have hrounds : RoundsTo info.scale v (raw * info.scale) := by
    rw [hraw]
    exact roundsTo_roundHalfEven hs v
  constructor
  · rintro ⟨bytes, word, hbytes, hword, hnear⟩
    have h0 := ((buildWriteRequest_ok_iff datalog inverter reg raw).mp ⟨bytes, hbytes⟩).2.1
    refine ⟨h0, fun hmin => ?_⟩
    obtain ⟨bytes', hbytes', hword'⟩ := request_word datalog inverter hreg h0 hmax'
    obtain rfl := Except.ok.inj (hbytes.symm.trans hbytes')
    have heq : word = raw.toNat := by
      have := Option.some.inj (hword.symm.trans hword')
      injection this
    by_contra hbig
    -- the word stands for a value below zero
    have hinterpret : info.interpret word = raw - 2 ^ 16 := by
      unfold HoldingRegister.interpret
      rw [if_pos ⟨hmin, by omega⟩]
      omega
    refine not_roundsTo_wrapped hs hrounds ?_
    rw [hinterpret] at hnear
    push_cast at hnear
    rwa [sub_mul] at hnear
  · rintro ⟨h0, hsigned⟩
    obtain ⟨bytes, hbytes, hword⟩ := request_word datalog inverter hreg h0 hmax'
    refine ⟨bytes, raw.toNat, hbytes, hword, ?_⟩
    have hinterpret : info.interpret raw.toNat = raw := by
      unfold HoldingRegister.interpret
      rw [if_neg (by intro h; have := hsigned h.1; omega)]
      omega
    rwa [hinterpret]

end

/-- For every row and every accepted body: what the inverter reads is the requested value,
rounded to the resolution, exactly when the row's minimum is not negative or the value lies
between zero and the largest positive word, up to rounding. -/
theorem accepted_encodable_iff (datalog inverter name : String) {reg : ℕ} {info : HoldingRegister}
    (hinfo : holdingRegister reg = some info) {body : HoldingUpdate} {raw : ℤ}
    (haccepted : requestedRaw name info body = .ok raw) :
    (∃ v, body.AsksFor info v) ∧ ∀ v, body.AsksFor info v →
      (Carries (buildWriteRequest datalog inverter reg raw) reg info v ↔
        (info.min < 0 → -(info.scale / 2) ≤ v ∧ v < (2 ^ 15 - 1 / 2) * info.scale)) := by
  obtain ⟨hmin, hmax, hasked, hraw⟩ := accepted_raw hinfo haccepted
  have hs := scale_pos hinfo
  refine ⟨hasked, fun v hv => ?_⟩
  rw [carries_iff datalog inverter hinfo (hraw v hv) hmax]
  have hlow : 0 ≤ raw ↔ -(info.scale / 2) ≤ v := by
    rw [hraw v hv, le_roundHalfEven_iff (by decide), le_div_iff₀ hs]
    constructor <;> intro h <;> push_cast at h ⊢ <;> linarith
  have hhigh : raw < 2 ^ 15 ↔ v < (2 ^ 15 - 1 / 2) * info.scale := by
    rw [← not_le, ← not_le, not_iff_not, hraw v hv, le_roundHalfEven_iff (by decide), le_div_iff₀ hs]
    norm_num
  by_cases hneg : info.min < 0
  · simp only [hneg, forall_const]
    rw [hlow, hhigh]
  · simp only [hneg, false_imp_iff, and_true, iff_true]
    omega

/-- 50 Hz, as 5000 steps of 0.01 Hz. -/
theorem eps_frequency_encoded : Carries (buildWriteRequest "DJ12345678" "4512345678" 91 5000) 91
    ⟨"eps_frequency_set", "Hz", 0.01, 0, 6000, []⟩ 50 := by
  have hinfo : holdingRegister 91 = some ⟨"eps_frequency_set", "Hz", 0.01, 0, 6000, []⟩ := by decide +kernel
  have haccepted : requestedRaw "eps_frequency_set" ⟨"eps_frequency_set", "Hz", 0.01, 0, 6000, []⟩
      { value := some (.fin 50) } = .ok 5000 := by decide +kernel
  refine ((accepted_encodable_iff "DJ12345678" "4512345678" "eps_frequency_set" hinfo haccepted).2 50
    (Or.inr rfl)).mpr fun hneg => ?_
  exact absurd hneg (by decide)

/-- -10 °C is accepted for a discharge limit, and its request cannot be built; an offset of
40000 W is accepted and read as a negative one. -/
theorem accepted_not_encodable :
    (requestedRaw "lead_acid_discharge_temp_low" ⟨"lead_acid_discharge_temp_low", "°C", 0.1, -200, 600, []⟩
        { value := some (.fin (-10)) } = .ok (-100) ∧
      buildWriteRequest "DJ12345678" "4512345678" 106 (-100) = .error (outOfRange (-100)) ∧
      ¬ Carries (buildWriteRequest "DJ12345678" "4512345678" 106 (-100)) 106
        ⟨"lead_acid_discharge_temp_low", "°C", 0.1, -200, 600, []⟩ (-10)) ∧
    requestedRaw "external_ct_power_offset" ⟨"external_ct_power_offset", "W", 1, -65535, 65535, []⟩
        { raw := some 40000 } = .ok 40000 ∧
      ¬ Carries (buildWriteRequest "DJ12345678" "4512345678" 119 40000) 119
        ⟨"external_ct_power_offset", "W", 1, -65535, 65535, []⟩ 40000 := by
  have hlimit : holdingRegister 106 = some ⟨"lead_acid_discharge_temp_low", "°C", 0.1, -200, 600, []⟩ := by
    decide +kernel
  have hoffset : holdingRegister 119 = some ⟨"external_ct_power_offset", "W", 1, -65535, 65535, []⟩ := by
    decide +kernel
  have htemp : requestedRaw "lead_acid_discharge_temp_low"
      ⟨"lead_acid_discharge_temp_low", "°C", 0.1, -200, 600, []⟩ { value := some (.fin (-10)) } = .ok (-100) := by
    decide +kernel
  refine ⟨⟨htemp, rfl, fun h => ?_⟩, rfl, fun h => ?_⟩
  · have := ((carries_iff "DJ12345678" "4512345678" hlimit (by decide +kernel) (by decide)).mp h).1
    omega
  · have := ((carries_iff "DJ12345678" "4512345678" hoffset (by decide +kernel) (by decide)).mp h).2 (by decide)
    omega

end LuxMon
