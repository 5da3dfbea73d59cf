import LuxMon.Protocol.Registers
import LuxMon.Python.Number

/-!
# Engineering values and raw register values

Conversion divides by the row's scale and rounds to even; clamping compares the
engineering value with the row's `min` and `max` as they stand in the table.
-/

namespace LuxMon

open Python

/-- `meta.get("scale", 1.0) or 1.0`. -/
def HoldingRegister.scaleOrOne (info : HoldingRegister) : ℚ :=
  if info.scale = 0 then 1 else info.scale

/-- `_engineering_to_raw`: `none` where the conversion raises. -/
def engineeringToRaw (value : PyFloat) (info : HoldingRegister) : Option ℤ :=
  match (value.divBy info.scaleOrOne).round with
  | .ok raw => some raw
  | .error _ => none

/-- `_clamp_to_register`. -/
def clampToRegister (value : PyFloat) (info : HoldingRegister) : PyFloat :=
  (value.max (.fin info.min)).min (.fin info.max)

/-- `HOLDING_REGISTERS[reg]`. -/
def registerInfo (reg : Nat) : Except PyErr HoldingRegister :=
  match holdingRegister reg with
  | some info => .ok info
  | none => .error .keyError

/-- A number is clamped by comparisons. -/
theorem clampToRegister_number (v : ℚ) {info : HoldingRegister} (h : info.min ≤ info.max) :
    clampToRegister (.fin v) info = .fin (Min.min (Max.max v info.min) info.max) := by
  have hq : (info.min : ℚ) ≤ info.max := by exact_mod_cast h
  simp only [clampToRegister, PyFloat.max, PyFloat.min, PyFloat.lt]
  by_cases h1 : v < info.min
  · simp [h1, not_lt.mpr h, max_eq_right h1.le, min_eq_left hq]
  · by_cases h2 : (info.max : ℚ) < v
    · simp [h1, h2, max_eq_left (not_lt.mp h1), min_eq_right h2.le]
    · simp [h1, h2, max_eq_left (not_lt.mp h1), min_eq_left (not_lt.mp h2)]

theorem clampToRegister_negInf {info : HoldingRegister} (h : info.min ≤ info.max) :
    clampToRegister .negInf info = .fin info.min := by
  simp [clampToRegister, PyFloat.max, PyFloat.min, PyFloat.lt, not_lt.mpr h]

theorem clampToRegister_posInf (info : HoldingRegister) : clampToRegister .posInf info = .fin info.max := by
  simp [clampToRegister, PyFloat.max, PyFloat.min, PyFloat.lt]

/-- A number is clamped into the row's range; below the maximum the clamped value keeps a
bound exactly when both the value and the minimum do. -/
theorem clampToRegister_fin {value : PyFloat} (hv : value ≠ .nan) {info : HoldingRegister}
    (h : info.min ≤ info.max) :
    ∃ c : ℚ, clampToRegister value info = .fin c ∧ info.min ≤ c ∧ c ≤ info.max ∧
      ∀ b : ℚ, b < info.max → (c ≤ b ↔ info.min ≤ b ∧ value.le (.fin b) = true) := by
  have hq : (info.min : ℚ) ≤ info.max := by exact_mod_cast h
  cases value with
  | nan => exact absurd rfl hv
  | negInf =>
    exact ⟨info.min, clampToRegister_negInf h, le_rfl, hq, fun b hb => by simp [PyFloat.le, PyFloat.lt]⟩
  | posInf =>
    exact ⟨info.max, clampToRegister_posInf info, hq, le_rfl, fun b hb => by simp [PyFloat.le, PyFloat.lt, not_le.mpr hb]⟩
  | fin v =>
    refine ⟨_, clampToRegister_number v h, by simp [hq], by simp, fun b hb => ?_⟩
    · rw [PyFloat.le_fin, min_le_iff, max_le_iff]
      constructor
      · rintro (⟨h1, h2⟩ | h3)
        · exact ⟨h2, h1⟩
        · linarith
      · intro h
        exact Or.inl ⟨h.2, h.1⟩

/-- A value of the row's range is kept, any other number is replaced by one of the ends. -/
theorem clampToRegister_cases {value : PyFloat} (hv : value ≠ .nan) {info : HoldingRegister}
    (h : info.min ≤ info.max) :
    (∃ v : ℚ, value = .fin v ∧ info.min ≤ v ∧ v ≤ info.max ∧ clampToRegister value info = .fin v) ∨
      ((∀ v : ℚ, value = .fin v → info.min ≤ v → ¬ v ≤ info.max) ∧
        ∃ c : ℤ, (c = info.min ∨ c = info.max) ∧ clampToRegister value info = .fin c) := by
  have hq : (info.min : ℚ) ≤ info.max := by exact_mod_cast h
  cases value with
  | nan => exact absurd rfl hv
  | negInf => exact Or.inr ⟨fun v hv => (by cases hv), info.min, Or.inl rfl, clampToRegister_negInf h⟩
  | posInf => exact Or.inr ⟨fun v hv => (by cases hv), info.max, Or.inr rfl, clampToRegister_posInf info⟩
  | fin v =>
    have hclamp := clampToRegister_number v h
    by_cases hmin : info.min ≤ v
    · by_cases hmax : v ≤ info.max
      · refine Or.inl ⟨v, rfl, hmin, hmax, ?_⟩
        rw [hclamp, max_eq_left hmin, min_eq_left hmax]
      · refine Or.inr ⟨?_, info.max, Or.inr rfl, ?_⟩
        · rintro _ ⟨⟩ _
          exact hmax
        · rw [hclamp, max_eq_left hmin, min_eq_right (not_le.mp hmax).le]
    · refine Or.inr ⟨?_, info.min, Or.inl rfl, ?_⟩
      · rintro _ ⟨⟩ hmin'
        exact absurd hmin' hmin
      · rw [hclamp, max_eq_right (not_le.mp hmin).le, min_eq_left hq]

/-- NaN stays NaN. -/
@[simp] theorem clampToRegister_nan (info : HoldingRegister) : clampToRegister .nan info = .nan := rfl

theorem engineeringToRaw_fin (c : ℚ) {info : HoldingRegister} (h : info.scale ≠ 0) :
    engineeringToRaw (.fin c) info = some (roundHalfEven (c / info.scale)) := by
  unfold engineeringToRaw HoldingRegister.scaleOrOne
  rw [if_neg h]
  rfl

/-- An integer in a register of scale 1 is its own raw value. -/
theorem engineeringToRaw_int (n : ℤ) (info : HoldingRegister) (h : info.scale = 1) :
    engineeringToRaw (.fin n) info = some n := by
  rw [engineeringToRaw_fin _ (by rw [h]; norm_num), h, div_one, roundHalfEven_intCast]

end LuxMon
