import LuxMon.Storage.Locality
import LuxMon.Storage.OneValue

/-!
# The sanity limits

A value of an unsigned field ends between 0 and its limit.  A signed field, which is the
battery current alone, is compared with its limit from above only: a discharge of more
than 150 A goes on as it was read.

    a clamped value is within its limit ↔ it is no such discharge     (clamped_within_iff)
    a snapshot respects the limits ↔ register 98 has none             (respects_limits_iff)
-/

namespace LuxMon

open Python

/-- The value of a field does not go beyond its limit, nor below 0 unless the field is signed. -/
def Info.WithinLimit (key : String) (limit : ℤ) (info : Info) : Prop :=
  ∃ q : ℚ, info.value.toFloat = .ok (.fin q) ∧ |q| ≤ limit ∧ (key ∉ SIGNED_FIELDS → 0 ≤ q)

/-- The limits hold of what is passed on, and what was within them is passed on as it was. -/
structure RespectsLimits (decoded passed : Decoded) : Prop where
  within : ∀ l ∈ SANITY_LIMITS, ∀ info, passed.get? l.1 = some info → info.WithinLimit l.1 l.2
  unchanged : ∀ l ∈ SANITY_LIMITS, ∀ info, decoded.get? l.1 = some info → info.WithinLimit l.1 l.2 →
    passed.get? l.1 = some info

/-! ## One value -/

section
variable {key : String} {limit : ℤ} {info : Info} {q : ℚ}

theorem clampValue_eq (hq : info.value.toFloat = .ok (.fin q)) : clampValue key limit info.value =
    if q < 0 ∧ key ∉ SIGNED_FIELDS then .float (.fin 0) else if (limit : ℚ) < q then .int limit else info.value := by
  unfold clampValue
  rw [hq]
  simp [PyFloat.lt]

theorem clampValue_unchanged (h : info.WithinLimit key limit) : clampValue key limit info.value = info.value := by
  obtain ⟨q, hq, habs, hsign⟩ := h
  rw [clampValue_eq hq, if_neg fun hneg => not_lt.mpr (hsign hneg.2) hneg.1, if_neg (not_lt.mpr (abs_le.mp habs).2)]

/-- A clamped value is within its limit, but for a signed one below the opposite of the limit. -/
theorem clamped_within_iff (hlimit : 0 ≤ limit) (hsmall : |limit| ≤ 2 ^ 53)
    (hq : info.value.toFloat = .ok (.fin q)) :
    Info.WithinLimit key limit { info with value := clampValue key limit info.value } ↔
      (key ∈ SIGNED_FIELDS → -(limit : ℚ) ≤ q) := by
  have hnonneg : (0 : ℚ) ≤ limit := by exact_mod_cast hlimit
  unfold Info.WithinLimit
  rw [clampValue_eq hq]
  by_cases hsigned : key ∈ SIGNED_FIELDS
  · rw [if_neg fun h => h.2 hsigned]
    by_cases hover : (limit : ℚ) < q
    · rw [if_pos hover]
      refine iff_of_true ⟨limit, Json.floatOfInt_small hsmall, ?_, fun h => absurd hsigned h⟩ fun _ => by linarith
      rw [abs_of_nonneg hnonneg]
    · rw [if_neg hover]
      constructor
      · rintro ⟨q', hq', habs, -⟩ -
        rw [hq] at hq'
        cases hq'
        exact (abs_le.mp habs).1
      · exact fun h => ⟨q, hq, abs_le.mpr ⟨h hsigned, not_lt.mp hover⟩, fun h => absurd hsigned h⟩
  · refine iff_of_true ?_ fun h => absurd h hsigned
    by_cases hneg : q < 0
    · rw [if_pos ⟨hneg, hsigned⟩]
      exact ⟨0, rfl, by rw [abs_zero]; exact hnonneg, fun _ => le_rfl⟩
    · rw [if_neg fun h => hneg h.1]
      by_cases hover : (limit : ℚ) < q
      · rw [if_pos hover]
        exact ⟨limit, Json.floatOfInt_small hsmall, by rw [abs_of_nonneg hnonneg], fun _ => hnonneg⟩
      · rw [if_neg hover]
        exact ⟨q, hq, by rw [abs_of_nonneg (not_lt.mp hneg)]; exact not_lt.mp hover, fun _ => not_lt.mp hneg⟩

end

/-! ## A whole snapshot -/

theorem limits_small : ∀ l ∈ SANITY_LIMITS, 0 ≤ l.2 ∧ |l.2| ≤ 2 ^ 53 := by
  decide

theorem limit_lookup {l : String × ℤ} (hl : l ∈ SANITY_LIMITS) : SANITY_LIMITS.lookup l.1 = some l.2 := by
  have hall : ∀ l ∈ SANITY_LIMITS, SANITY_LIMITS.lookup l.1 = some l.2 := by
    decide
  exact hall l hl

theorem get?_limited {l : String × ℤ} (hl : l ∈ SANITY_LIMITS) (decoded : Decoded) :
    (clampValues decoded).get? l.1 =
      (decoded.get? l.1).map fun info => { info with value := clampValue l.1 l.2 info.value } := by
  rw [get?_clampValues]
  congr 1
  funext info
  unfold Info.clamped
  rw [limit_lookup hl]

/-- Clamping respects the limits as far as the signed fields do from below. -/
theorem clampValues_respects_iff {decoded : Decoded}
    (hnumeric : ∀ name info, decoded.get? name = some info → info.Numeric) :
    RespectsLimits decoded (clampValues decoded) ↔ ∀ l ∈ SANITY_LIMITS, l.1 ∈ SIGNED_FIELDS →
      ∀ info, decoded.get? l.1 = some info → ∀ q, info.value.toFloat = .ok (.fin q) → -(l.2 : ℚ) ≤ q := by
  constructor
  · intro h l hl hsigned info hinfo q hq
    have hpassed := h.within l hl _ (by rw [get?_limited hl, hinfo, Option.map_some])
    exact (clamped_within_iff (limits_small l hl).1 (limits_small l hl).2 hq).mp hpassed hsigned
  · intro h
    refine ⟨fun l hl info hinfo => ?_, fun l hl info hinfo hwithin => ?_⟩
    · rw [get?_limited hl] at hinfo
      obtain ⟨info, hdecoded, rfl⟩ := Option.map_eq_some_iff.mp hinfo
      obtain ⟨q, hq⟩ := hnumeric _ _ hdecoded
      exact (clamped_within_iff (limits_small l hl).1 (limits_small l hl).2 hq).mpr fun hsigned =>
        h l hl hsigned info hdecoded q hq
    · rw [get?_limited hl, hinfo, Option.map_some, clampValue_unchanged hwithin]

/-! ## The battery current -/

def batteryCurrentDef : RegisterDef := { name := "battery_current", unit := "A", scale := 0.1, signed := true }

theorem register_98 (family : DriverFamily) : family.inputRegisters.get? 98 = some batteryCurrentDef :=
  base_register family (by decide) (by decide) rfl

theorem batteryCurrent_alone (family : DriverFamily) : batteryCurrentDef.Alone family.inputRegisters 98 :=
  alone_of_entries (by decide) (by decide) (by decide +kernel)

/-- A current of −1500 tenths is the last one that is not below −150 A, in doubles as well. -/
theorem tenths_above_iff {n : ℤ} (hn : -0x8000 ≤ n) : -((150 : ℤ) : ℚ) ≤ timesDouble n 0.1 ↔ -1500 ≤ n := by
  have htenth : (0.1 : ℚ) ≤ nearest 0.1 ∧ nearest 0.1 ≤ (0.1 : ℚ) + 1 / 10 ^ 9 := by decide +kernel
  rcases le_or_gt 0 n with hsign | hsign
  · have hnonneg : (0 : ℚ) ≤ nearest n := le_nearest (by exact_mod_cast hsign) representable_zero
    have hprod : 0 ≤ timesDouble n 0.1 := le_nearest (mul_nonneg hnonneg (by linarith)) representable_zero
    exact iff_of_true (le_trans (by norm_num) hprod) (by omega)
  · rw [timesDouble, nearest_intCast (abs_le.mpr ⟨by omega, by omega⟩)]
    rcases lt_trichotomy n (-1500) with hlt | rfl | hgt
    · -- below −150.0625, which has 53 bits
      have hn' : (n : ℚ) ≤ -1501 := by exact_mod_cast (show n ≤ -1501 by omega)
      have hbelow : nearest (n * nearest 0.1) ≤ (-2401 : ℤ) * 2 ^ (-4 : ℤ) :=
        nearest_le (by norm_num; nlinarith [htenth.1]) ⟨-2401, -4, by norm_num, by norm_num, rfl⟩
      refine iff_of_false (fun h => ?_) (by omega)
      norm_num at hbelow h
      linarith
    · exact iff_of_true (by decide +kernel) le_rfl
    · have hn' : (-1499 : ℚ) ≤ n := by exact_mod_cast (show -1499 ≤ n by omega)
      have habove : ((-150 : ℤ) : ℚ) ≤ nearest (n * nearest 0.1) :=
        le_nearest (by norm_num; nlinarith [htenth.1, htenth.2]) (representable_intCast (by norm_num))
      refine iff_of_true ?_ (by omega)
      push_cast at habove ⊢
      exact habove

/-- The current of a word is below −150 A exactly when the word is a negative number below −1500. -/
theorem current_above_iff (value : Nat) :
    -((150 : ℤ) : ℚ) ≤ batteryCurrentDef.decode value ↔ value < 0x8000 ∨ 0x10000 - 1500 ≤ value := by
  have hdecode : batteryCurrentDef.decode value =
      timesDouble (if 0x8000 ≤ value then (value : ℤ) - 0x10000 else value : ℤ) 0.1 := by
    unfold RegisterDef.decode batteryCurrentDef
    simp
  rw [hdecode, tenths_above_iff (by split_ifs <;> omega)]
  split_ifs <;> omega

theorem get?_batteryCurrent (family : DriverFamily) (raw : Dict Nat Nat) :
    (decodeRegisters family.inputRegisters raw).get? "battery_current" =
      (raw.get? 98).map fun value => batteryCurrentDef.info value := by
  have hentry := get?_decodeRegisters (batteryCurrent_alone family) (register_98 family) raw
  refine hentry.trans ?_
  unfold RegisterDef.entry
  cases raw.get? 98 <;> rfl

/-- The limits are respected only if no discharge of more than 150 A was read. -/
theorem current_of_respects {family : DriverFamily} {raw : Dict Nat Nat} {value : Nat}
    (h : RespectsLimits (decodeRegisters family.inputRegisters raw) (family.decode raw)) (hvalue : raw.get? 98 = some value) :
    value < 0x8000 ∨ 0x10000 - 1500 ≤ value := by
  have hinfo : (decodeRegisters family.inputRegisters raw).get? "battery_current" = some (batteryCurrentDef.info value) := by
    rw [get?_batteryCurrent, hvalue, Option.map_some]
  have hcurrent := (clampValues_respects_iff (decodeRegisters_numeric _ _)).mp h ("battery_current", 150) (by decide)
    (by decide) _ hinfo _ rfl
  exact (current_above_iff value).mp hcurrent

/-- The limits are respected exactly when no discharge of more than 150 A was read. -/
theorem respects_limits_iff (family : DriverFamily) (raw : Dict Nat Nat) :
    RespectsLimits (decodeRegisters family.inputRegisters raw) (family.decode raw) ↔
      ∀ value, raw.get? 98 = some value → value < 0x8000 ∨ 0x10000 - 1500 ≤ value := by
  refine ⟨fun h value hvalue => current_of_respects h hvalue, fun h => ?_⟩
  refine (clampValues_respects_iff (decodeRegisters_numeric _ _)).mpr fun l hl hsigned info hinfo q hq => ?_
  -- the battery current is the only signed field
  have honly : ∀ l ∈ SANITY_LIMITS, l.1 ∈ SIGNED_FIELDS → l = ("battery_current", 150) := by
    decide
  obtain rfl := honly l hl hsigned
  rw [get?_batteryCurrent] at hinfo
  obtain ⟨value, hvalue, rfl⟩ := Option.map_eq_some_iff.mp hinfo
  cases hq
  exact (current_above_iff value).mpr (h value hvalue)

/-- A battery at 51.2 V that is discharged at 200 A. -/
def deepDischarge : Dict Nat Nat := .ofList [(4, 512), (98, 0x10000 - 2000)]

/-- A discharge at 200 A is passed on. -/
theorem discharge_not_clamped : ¬ ∀ (family : DriverFamily) (raw : Dict Nat Nat),
    RespectsLimits (decodeRegisters family.inputRegisters raw) (family.decode raw) := by
  intro h
  have hvalue : deepDischarge.get? 98 = some (0x10000 - 2000) := by decide
  exact absurd (current_of_respects (h .sna deepDischarge) hvalue) (by decide)

end LuxMon
