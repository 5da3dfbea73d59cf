import LuxMon.Python.Number

/-!
# Rounding to 53 bits

The nearest double of a number, without regard to the largest one.

    what is rounded has 53 bits                                (nearest_representable)
    a number of 53 bits is rounded to itself                   (Representable.nearest)
    rounding does not pass a number of 53 bits                 (nearest_le, le_nearest)
-/

namespace Python

/-- A number of 53 bits. -/
def Representable (x : ℚ) : Prop := ∃ n e : ℤ, |n| ≤ 2 ^ 53 ∧ -1074 ≤ e ∧ x = n * 2 ^ e

/-! ## The step around a number -/

theorem doubleStep_pos (q : ℚ) : 0 < doubleStep q := by
  unfold doubleStep
  positivity

/-- A number has at most 53 bits above its step. -/
theorem abs_lt_doubleStep (q : ℚ) : |q| < 2 ^ 53 * doubleStep q := by
  unfold doubleStep
  rcases eq_or_ne q 0 with rfl | hq
  · rw [abs_zero]
    positivity
  · have hlog : |q| < 2 ^ (Int.log 2 |q| + 1) := Int.lt_zpow_succ_log_self (by norm_num) _
    refine hlog.trans_le ?_
    rw [← zpow_natCast, ← zpow_add₀ (by norm_num)]
    exact zpow_le_zpow_right₀ (by norm_num) (by push_cast; omega)

/-! ## Rounding -/

theorem abs_roundHalfEven_le {q : ℚ} {n : ℤ} (h : |q| ≤ n) : |roundHalfEven q| ≤ n := by
  obtain ⟨hlow, hhigh⟩ := abs_le.mp h
  exact abs_le.mpr ⟨le_roundHalfEven (by push_cast; exact hlow), roundHalfEven_le hhigh⟩

theorem nearest_representable (q : ℚ) : Representable (nearest q) := by
  refine ⟨roundHalfEven (q / doubleStep q), max (Int.log 2 |q| - 52) (-1074), ?_, le_max_right _ _, rfl⟩
  refine abs_roundHalfEven_le ?_
  rw [abs_div, abs_of_pos (doubleStep_pos q), div_le_iff₀ (doubleStep_pos q)]
  exact_mod_cast (abs_lt_doubleStep q).le

/-- A multiple of the step stays. -/
theorem nearest_of_multiple {x : ℚ} {m : ℤ} (h : x = m * doubleStep x) : nearest x = x := by
  have hstep := (doubleStep_pos x).ne'
  have hquot : x / doubleStep x = m := (div_eq_iff hstep).mpr h
  rw [nearest, hquot, roundHalfEven_intCast, ← h]

/-- A power of two is a multiple of each smaller one. -/
theorem mul_zpow_multiple (n : ℤ) {a e : ℤ} (h : a ≤ e) : ∃ m : ℤ, (n : ℚ) * 2 ^ e = m * 2 ^ a := by
  refine ⟨n * 2 ^ (e - a).toNat, ?_⟩
  have hexp : (2 : ℚ) ^ e = 2 ^ (e - a).toNat * 2 ^ a := by
    rw [← zpow_natCast, ← zpow_add₀ (by norm_num)]
    congr 1
    omega
  rw [hexp]
  push_cast
  ring

/-- Below 54 bits the step divides the number. -/
theorem nearest_mul_zpow {n e : ℤ} (hn : |n| < 2 ^ 53) (he : -1074 ≤ e) : nearest ((n : ℚ) * 2 ^ e) = n * 2 ^ e := by
  rcases eq_or_ne n 0 with rfl | hzero
  · exact @nearest_of_multiple _ 0 (by simp)
  · have hne : (n : ℚ) * 2 ^ e ≠ 0 := mul_ne_zero (by exact_mod_cast hzero) (by positivity)
    have hlt : |(n : ℚ) * 2 ^ e| < 2 ^ (e + 53) := by
      have hcast : |(n : ℚ)| < 2 ^ 53 := by exact_mod_cast hn
      rw [abs_mul, abs_of_pos (show (0 : ℚ) < 2 ^ e by positivity), zpow_add₀ (by norm_num), mul_comm]
      exact mul_lt_mul_of_pos_left hcast (by positivity)
    have hlog := (Int.lt_zpow_iff_log_lt (b := 2) (by norm_num) (abs_pos.mpr hne)).mp hlt
    obtain ⟨m, hm⟩ := mul_zpow_multiple n (show max (Int.log 2 |(n : ℚ) * 2 ^ e| - 52) (-1074) ≤ e by omega)
    exact nearest_of_multiple hm

theorem Representable.nearest {x : ℚ} (h : Representable x) : nearest x = x := by
  obtain ⟨n, e, hn, he, rfl⟩ := h
  rcases hn.lt_or_eq with hlt | heq
  · exact nearest_mul_zpow hlt he
  · -- one bit more, and the next power
    obtain ⟨k, hk, rfl⟩ : ∃ k : ℤ, |k| < 2 ^ 53 ∧ n = k * 2 := by
      rcases (abs_eq (by norm_num)).mp heq with rfl | rfl
      · exact ⟨2 ^ 52, by norm_num, by norm_num⟩
      · exact ⟨-2 ^ 52, by norm_num, by norm_num⟩
    have hshift : ((k * 2 : ℤ) : ℚ) * 2 ^ e = k * 2 ^ (e + 1) := by
      rw [zpow_add_one₀ (by norm_num)]
      push_cast
      ring
    rw [hshift]
    exact nearest_mul_zpow hk (by omega)

theorem representable_intCast {n : ℤ} (h : |n| ≤ 2 ^ 53) : Representable n := ⟨n, 0, h, by norm_num, by simp⟩

theorem nearest_intCast {n : ℤ} (h : |n| ≤ 2 ^ 53) : nearest (n : ℚ) = n := (representable_intCast h).nearest

theorem nearest_nearest (q : ℚ) : nearest (nearest q) = nearest q := (nearest_representable q).nearest

/-! ## Against a number of 53 bits -/

/-- A number of 53 bits is a multiple of the step around `q`, or not above the power of two below `q`. -/
theorem Representable.multiple_or_le {x q : ℚ} (h : Representable x) (hq : q ≠ 0) :
    (∃ m : ℤ, x = m * doubleStep q) ∨ |x| ≤ 2 ^ 52 * doubleStep q ∧ 2 ^ 52 * doubleStep q ≤ |q| := by
  obtain ⟨n, e, hn, he, rfl⟩ := h
  by_cases hle : max (Int.log 2 |q| - 52) (-1074) ≤ e
  · exact .inl (mul_zpow_multiple n hle)
  · right
    have hmax : max (Int.log 2 |q| - 52) (-1074) = Int.log 2 |q| - 52 := by omega
    have hstep : (2 : ℚ) ^ 52 * doubleStep q = 2 ^ Int.log 2 |q| := by
      unfold doubleStep
      rw [hmax, ← zpow_natCast, ← zpow_add₀ (by norm_num)]
      congr 1
      push_cast
      ring
    rw [hstep]
    constructor
    · have hcast : |(n : ℚ)| ≤ 2 ^ 53 := by exact_mod_cast hn
      rw [abs_mul, abs_of_pos (show (0 : ℚ) < 2 ^ e by positivity)]
      calc |(n : ℚ)| * 2 ^ e ≤ 2 ^ 53 * 2 ^ e := by gcongr
        _ = 2 ^ (e + 53) := by rw [add_comm, zpow_add₀ (by norm_num)]; norm_cast
        _ ≤ 2 ^ Int.log 2 |q| := zpow_le_zpow_right₀ (by norm_num) (by omega)
    · exact Int.zpow_log_le_self (by norm_num) (abs_pos.mpr hq)

theorem nearest_zero : nearest 0 = 0 := @nearest_of_multiple 0 0 (by simp)

/-- Rounding does not rise above a number of 53 bits. -/
theorem nearest_le {q x : ℚ} (h : q ≤ x) (hx : Representable x) : nearest q ≤ x := by
  rcases eq_or_ne q 0 with rfl | hq
  · rwa [nearest_zero]
  have hpos := doubleStep_pos q
  have hbound : ∀ m : ℤ, q ≤ m * doubleStep q → nearest q ≤ m * doubleStep q := by
    intro m hm
    have hround := roundHalfEven_le ((div_le_iff₀ hpos).mpr hm)
    have hcast : (roundHalfEven (q / doubleStep q) : ℚ) ≤ m := by exact_mod_cast hround
    exact mul_le_mul_of_nonneg_right hcast hpos.le
  rcases hx.multiple_or_le hq with ⟨m, rfl⟩ | ⟨hsmall, hlarge⟩
  · exact hbound m h
  · rcases le_or_gt 0 q with hsign | hsign
    · have hself : x = q := by
        rw [abs_of_nonneg hsign] at hlarge
        exact le_antisymm ((le_abs_self x).trans (hsmall.trans hlarge)) h
      rw [← hself, hx.nearest]
    · rw [abs_of_neg hsign] at hlarge
      have hpower := hbound (-2 ^ 52) (by push_cast; linarith)
      push_cast at hpower
      linarith [neg_abs_le x]

/-- Nor does it fall below one. -/
theorem le_nearest {q x : ℚ} (h : x ≤ q) (hx : Representable x) : x ≤ nearest q := by
  rcases eq_or_ne q 0 with rfl | hq
  · rwa [nearest_zero]
  have hpos := doubleStep_pos q
  have hbound : ∀ m : ℤ, m * doubleStep q ≤ q → m * doubleStep q ≤ nearest q := by
    intro m hm
    have hround := le_roundHalfEven ((le_div_iff₀ hpos).mpr hm)
    have hcast : (m : ℚ) ≤ roundHalfEven (q / doubleStep q) := by exact_mod_cast hround
    exact mul_le_mul_of_nonneg_right hcast hpos.le
  rcases hx.multiple_or_le hq with ⟨m, rfl⟩ | ⟨hsmall, hlarge⟩
  · exact hbound m h
  · rcases le_or_gt 0 q with hsign | hsign
    · rw [abs_of_nonneg hsign] at hlarge
      have hpower := hbound (2 ^ 52) (by push_cast; linarith)
      push_cast at hpower
      linarith [le_abs_self x]
    · have hself : x = q := by
        rw [abs_of_neg hsign] at hlarge
        exact le_antisymm h (by linarith [neg_abs_le x])
      rw [← hself, hx.nearest]

theorem representable_zero : Representable 0 := ⟨0, 0, by norm_num, by norm_num, by norm_num⟩

theorem timesDouble_one {n : ℤ} (h : |n| ≤ 2 ^ 53) : timesDouble n 1 = n := by
  have hone : nearest 1 = 1 := by exact_mod_cast @nearest_intCast 1 (by norm_num)
  rw [timesDouble, hone, mul_one, nearest_nearest, nearest_intCast h]

/-! ## Doubles -/

/-- A float holds `x` exactly. -/
def IsDouble (x : ℚ) : Prop := toDouble x = .ok x

theorem toDouble_ok {q x : ℚ} (h : toDouble q = .ok x) : x = nearest q ∧ |nearest q| < doubleLimit := by
  unfold toDouble at h
  split_ifs at h with hlimit
  exact ⟨(Except.ok.inj h).symm, not_le.mp hlimit⟩

/-- Rounding gives a double. -/
theorem isDouble_of_toDouble {q x : ℚ} (h : toDouble q = .ok x) : IsDouble x := by
  obtain ⟨rfl, hlimit⟩ := toDouble_ok h
  unfold IsDouble toDouble
  rw [nearest_nearest, if_neg (not_le.mpr hlimit)]

theorem IsDouble.nearest {x : ℚ} (h : IsDouble x) : nearest x = x := (toDouble_ok h).1.symm

theorem isDouble_intCast {n : ℤ} (h : |n| ≤ 2 ^ 53) : IsDouble n := by
  have hlimit : (2 : ℚ) ^ 53 < doubleLimit := by decide +kernel
  have hcast : |(n : ℚ)| ≤ 2 ^ 53 := by exact_mod_cast h
  unfold IsDouble toDouble
  rw [nearest_intCast h, if_neg (not_le.mpr (hcast.trans_lt hlimit))]

theorem IsDouble.rounded {x : ℚ} (h : IsDouble x) : (PyFloat.fin x).rounded = .fin x := by
  have hself : toDouble x = .ok x := h
  unfold PyFloat.rounded
  dsimp only
  rw [hself]

/-- What `float` gives is a double, if it is a number. -/
theorem rounded_isDouble {y : PyFloat} {x : ℚ} (h : y.rounded = .fin x) : IsDouble x := by
  cases y with
  | fin q =>
    unfold PyFloat.rounded at h
    dsimp only at h
    cases hq : toDouble q with
    | ok z =>
      rw [hq] at h
      exact PyFloat.fin.inj h ▸ isDouble_of_toDouble hq
    | error e =>
      rw [hq] at h
      dsimp only at h
      split_ifs at h
  | _ => cases h

end Python
