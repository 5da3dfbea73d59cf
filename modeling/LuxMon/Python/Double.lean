import LuxMon.Python.Decimal
import LuxMon.Python.Nearest

/-!
# Doubles

`float` rounds what it reads to the nearest double, and `repr` prints the shortest decimal that
`float` reads as the double.

    a double is a decimal                                      (IsDouble.isDecimal)
    what float reads is a double                               (floatOfString_isDouble)
    float gives back the double whose text repr printed        (floatOfString_repr)
-/

namespace Python

/-! ## There and back -/

theorem readsAs_iff {x c : ℚ} : readsAs x c = true ↔ toDouble c = .ok x := by
  unfold readsAs
  cases toDouble c with
  | error e => simp
  | ok y => simp

/-- Powers of two are no obstacle to a decimal. -/
theorem isDecimal_mul_two_zpow (z e : ℤ) : IsDecimal ((z : ℚ) * 2 ^ e) := by
  refine isDecimal_iff.mpr ?_
  rcases Int.le_total 0 e with he | he
  · obtain ⟨n, rfl⟩ := Int.eq_ofNat_of_zero_le he
    exact ⟨0, z * 2 ^ n, by push_cast; simp⟩
  · obtain ⟨n, hn⟩ := Int.eq_ofNat_of_zero_le (neg_nonneg.mpr he)
    obtain rfl : e = -n := by omega
    refine ⟨n, z * 5 ^ n, ?_⟩
    have hten : (10 : ℚ) ^ n = 2 ^ n * 5 ^ n := by rw [← mul_pow]; norm_num
    have htwo : (2 : ℚ) ^ n ≠ 0 := by positivity
    rw [hten, zpow_neg, zpow_natCast]
    push_cast
    field_simp

theorem IsDouble.isDecimal {x : ℚ} (h : IsDouble x) : IsDecimal x := by
  rw [← h.nearest]
  exact isDecimal_mul_two_zpow _ _

theorem decimalOf_spec {x c : ℚ} {n : ℕ} (h : decimalOf x n = some c) : toDouble c = .ok x ∧ IsDecimal c := by
  have hmem := List.mem_of_find?_eq_some h
  refine ⟨readsAs_iff.mp (List.find?_some h), ?_⟩
  simp only [List.mem_cons, List.not_mem_nil, or_false] at hmem
  rcases hmem with rfl | rfl | rfl <;> exact isDecimal_mul_zpow (isDecimal_intCast _) _

/-- What is printed is a decimal that is read as the double. -/
theorem shortest_spec {x : ℚ} (h : IsDouble x) : toDouble (shortest x) = .ok x ∧ IsDecimal (shortest x) := by
  unfold shortest
  cases hfind : (List.range 17).findSome? fun n => decimalOf x (n + 1) with
  | none => exact ⟨h, h.isDecimal⟩
  | some c =>
    obtain ⟨n, -, hn⟩ := List.exists_of_findSome?_eq_some hfind
    exact decimalOf_spec hn

theorem floatOfString_isDouble {s : String} {x : ℚ} (h : floatOfString s = .ok (.fin x)) : IsDouble x := by
  unfold floatOfString at h
  cases hread : readFloat s with
  | error e =>
    rw [hread] at h
    cases h
  | ok y =>
    rw [hread] at h
    exact rounded_isDouble (Except.ok.inj h)

/-- `float(repr(x))` is `x`. -/
theorem floatOfString_repr {x : ℚ} (h : IsDouble x) : floatOfString (PyFloat.fin x).repr = .ok (.fin x) := by
  obtain ⟨hdouble, hdecimal⟩ := shortest_spec h
  show (readFloat (decimalText (shortest x))).map PyFloat.rounded = _
  rw [readFloat_decimalText hdecimal]
  show Except.ok (PyFloat.fin (shortest x)).rounded = _
  unfold PyFloat.rounded
  dsimp only
  rw [hdouble]

/-- What `float` read, it reads again from its `repr`. -/
theorem floatOfString_again {s : String} {x : PyFloat} (h : floatOfString s = .ok x) : floatOfString x.repr = .ok x := by
  cases x with
  | fin q => exact floatOfString_repr (floatOfString_isDouble h)
  | _ => exact floatOfString_repr_special fun q hq => by cases hq

theorem repr_plain (x : ℚ) : ∀ c ∈ (PyFloat.fin x).repr.toList, c.isDigit = true ∨ c ∈ ['.', 'e', '+', '-'] :=
  decimalText_plain _

theorem repr_ne_empty (x : PyFloat) : x.repr ≠ "" := by
  cases x with
  | fin q => exact decimalText_ne_empty _
  | _ => decide

/-! ## The sign of zero -/

section
variable {s : String} {x : PyFloat}

/-- The text is that of the number, or of the negative zero. -/
theorem textFrom_cases (s : String) (x : PyFloat) : x.textFrom s = x.repr ∨ x = .fin 0 ∧ x.textFrom s = "-0.0" := by
  unfold PyFloat.textFrom
  by_cases hzero : (hasMinus s && x == .fin 0) = true
  · rw [if_pos hzero]
    exact .inr ⟨eq_of_beq (Bool.and_eq_true_iff.mp hzero).2, rfl⟩
  · rw [if_neg hzero]
    exact .inl rfl

/-- `float(str(float(s)))` is `float(s)`. -/
theorem floatOfString_textFrom (h : floatOfString s = .ok x) : floatOfString (x.textFrom s) = .ok x := by
  rcases textFrom_cases s x with htext | ⟨rfl, htext⟩
  · rw [htext]
    exact floatOfString_again h
  · rw [htext]
    decide +kernel

/-- The text keeps its sign. -/
theorem textFrom_textFrom (s : String) (x : PyFloat) : x.textFrom (x.textFrom s) = x.textFrom s := by
  rcases textFrom_cases s x with htext | ⟨rfl, htext⟩
  · rw [htext]
    by_cases hx : x = .fin 0
    · subst hx
      decide +kernel
    · unfold PyFloat.textFrom
      rw [if_neg (by simp [hx])]
  · rw [htext]
    decide +kernel

theorem textFrom_ne_empty (s : String) (x : PyFloat) : x.textFrom s ≠ "" := by
  rcases textFrom_cases s x with htext | ⟨-, htext⟩
  · rw [htext]
    exact repr_ne_empty x
  · rw [htext]
    decide

theorem intOfString_textFrom (s : String) (x : PyFloat) : ∃ e, intOfString (x.textFrom s) = .error (.valueError e) := by
  rcases textFrom_cases s x with htext | ⟨-, htext⟩
  · rw [htext]
    exact ⟨_, intOfString_repr x⟩
  · rw [htext]
    exact ⟨"invalid literal for int() with base 10: '-0.0'", by decide +kernel⟩

end

end Python
