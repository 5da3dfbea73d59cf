import LuxMon.Python.Number

/-!
# Decimal text

What is printed for a decimal is read back, before `float` rounds it.  `int` takes no
text with a point or an exponent.

    a printed decimal is read back                             (readFloat_decimalText)
    str and int give an integer back                           (intOfString_toString)
    int rejects every repr                                     (intOfString_repr)
-/

namespace Python

/-- A power of ten clears the denominator. -/
def IsDecimal (q : ℚ) : Prop := ∃ k : ℕ, q.den ∣ 10 ^ k

/-- No digit of a number follows. -/
def Stops (rest : List Char) : Prop := ∀ c cs, rest = c :: cs → digitValue c = none ∧ c ≠ '_'

theorem stops_nil : Stops [] := fun _ _ h => by cases h

theorem stops_cons {c : Char} (cs : List Char) (hvalue : digitValue c = none) (hne : c ≠ '_') : Stops (c :: cs) := by
  rintro _ _ ⟨⟩
  exact ⟨hvalue, hne⟩

/-! ## Digits -/

theorem digitValue_of_isDigit {c : Char} (h : c.isDigit = true) : digitValue c = some (c.toNat - 48) := if_pos h

theorem ne_underscore_of_isDigit {c : Char} (h : c.isDigit = true) : c ≠ '_' := by
  rintro rfl
  cases h

/-- A digit is read. -/
theorem readDigits_digit {c : Char} (h : c.isDigit = true) (acc count : Nat) (cs : List Char) :
    readDigits acc count (c :: cs) = readDigits (acc * 10 + (c.toNat - 48)) (count + 1) cs := by
  have hne := ne_underscore_of_isDigit h
  rw [readDigits.eq_3 _ _ _ _ (fun _ _ hc => absurd hc hne), digitValue_of_isDigit h]

/-- Anything else ends the digits. -/
theorem readDigits_stops {rest : List Char} (h : Stops rest) (acc count : Nat) :
    readDigits acc count rest = (acc, count, rest) := by
  cases rest with
  | nil => rfl
  | cons c cs =>
    obtain ⟨hvalue, hne⟩ := h c cs rfl
    rw [readDigits.eq_3 _ _ _ _ (fun _ _ hc => absurd hc hne), hvalue]

theorem readDigits_append {ds rest : List Char} (hds : ∀ c ∈ ds, c.isDigit = true) (hrest : Stops rest)
    (acc count : Nat) :
    readDigits acc count (ds ++ rest) = (Nat.ofDigitChars 10 ds acc, count + ds.length, rest) := by
  induction ds generalizing acc count with
  | nil => exact readDigits_stops hrest acc count
  | cons d ds ih =>
    obtain ⟨hd, hds⟩ := List.forall_mem_cons.mp hds
    rw [List.cons_append, readDigits_digit hd, ih hds, Nat.ofDigitChars_cons, List.length_cons]
    congr 2
    · rw [mul_comm]
      rfl
    · omega

theorem isDigit_toString {n : Nat} : ∀ c ∈ (toString n).toList, c.isDigit = true := by
  intro c hc
  rw [Nat.toString_eq_ofList_toDigits, String.toList_ofList] at hc
  exact Nat.isDigit_of_mem_toDigits (by decide) (by decide) hc

theorem ofDigitChars_toString (n : Nat) : Nat.ofDigitChars 10 (toString n).toList 0 = n := by
  rw [Nat.toString_eq_ofList_toDigits, String.toList_ofList]
  exact Nat.ofDigitChars_ten_toDigits

theorem toString_ne_nil (n : Nat) : (toString n).toList ≠ [] := by
  rw [Nat.toString_eq_ofList_toDigits, String.toList_ofList]
  exact Nat.toDigits_ne_nil

/-! ## The part behind the point -/

theorem isDigit_fracDigits (d : Nat) : ∀ {n rem : Nat}, rem < d → ∀ c ∈ fracDigits d n rem, c.isDigit = true
  | 0, _, _, c, hc => by cases hc
  | n + 1, rem, hrem, c, hc => by
    unfold fracDigits at hc
    split at hc
    · cases hc
    · have hdigit : rem * 10 / d < 10 := Nat.div_lt_of_lt_mul (by omega)
      rcases List.mem_cons.mp hc with rfl | hc
      · simpa using hdigit
      · exact isDigit_fracDigits d (Nat.mod_lt _ (by omega)) c hc

/-- Enough digits give the fraction back. -/
theorem fracDigits_value {d : Nat} : ∀ {n rem : Nat}, rem < d → d ∣ rem * 10 ^ n →
    Nat.ofDigitChars 10 (fracDigits d n rem) 0 * d = rem * 10 ^ (fracDigits d n rem).length
  | 0, rem, hrem, hdvd => by
    have hzero : rem = 0 := Nat.eq_zero_of_dvd_of_lt (by simpa using hdvd) hrem
    subst hzero
    simp [fracDigits]
  | n + 1, rem, hrem, hdvd => by
    unfold fracDigits
    by_cases hzero : rem = 0
    · simp [hzero]
    · have hd : 0 < d := by omega
      have hdigit : rem * 10 / d < 10 := Nat.div_lt_of_lt_mul (by omega)
      have hmod := Nat.div_add_mod (rem * 10) d
      have hdvd' : d ∣ rem * 10 % d * 10 ^ n := by
        have hsplit : rem * 10 ^ (n + 1) = d * (rem * 10 / d) * 10 ^ n + rem * 10 % d * 10 ^ n := by
          rw [← add_mul, hmod, pow_succ']
          ring
        rw [hsplit, mul_assoc] at hdvd
        exact (Nat.dvd_add_right (dvd_mul_right d _)).mp hdvd
      have ih := fracDigits_value (Nat.mod_lt (rem * 10) hd) hdvd'
      rw [if_neg hzero, Nat.ofDigitChars_cons_digitChar_of_lt_ten hdigit, mul_zero, zero_add,
        Nat.ofDigitChars_eq_ofDigitChars_zero, List.length_cons, add_mul, ih, pow_succ']
      calc 10 ^ (fracDigits d n (rem * 10 % d)).length * (rem * 10 / d) * d +
            rem * 10 % d * 10 ^ (fracDigits d n (rem * 10 % d)).length
          = 10 ^ (fracDigits d n (rem * 10 % d)).length * (d * (rem * 10 / d) + rem * 10 % d) := by ring
        _ = rem * (10 * 10 ^ (fracDigits d n (rem * 10 % d)).length) := by
          rw [hmod]
          ring

/-- A decimal has no more digits behind the point than its denominator has bits. -/
theorem dvd_pow_log2 {d k : Nat} (hd : d ≠ 0) (h : d ∣ 10 ^ k) : d ∣ 10 ^ d.log2 := by
  rw [← Nat.factorization_le_iff_dvd hd (by positivity)]
  intro p
  rw [Nat.factorization_pow, Finsupp.smul_apply, smul_eq_mul]
  by_cases hp : d.factorization p = 0
  · rw [hp]
    exact Nat.zero_le _
  · have hten : 0 < Nat.factorization 10 p := by
      have hle := (Nat.factorization_le_iff_dvd hd (by positivity)).mpr h p
      rw [Nat.factorization_pow, Finsupp.smul_apply, smul_eq_mul] at hle
      exact Nat.pos_of_mul_pos_left (lt_of_lt_of_le (Nat.pos_of_ne_zero hp) hle)
    have htwo : 2 ≤ p := by
      have hmem : p ∈ d.primeFactors := by
        rw [← Nat.support_factorization]
        exact Finsupp.mem_support_iff.mpr hp
      exact (Nat.prime_of_mem_primeFactors hmem).two_le
    have hpow : 2 ^ d.factorization p ≤ d :=
      (Nat.pow_le_pow_left htwo _).trans (Nat.ordProj_le p hd)
    exact ((Nat.le_log2 hd).mpr hpow).trans (Nat.le_mul_of_pos_right _ hten)

theorem isDigit_fracPart {n d : Nat} (hd : 0 < d) : ∀ c ∈ fracPart n d, c.isDigit = true :=
  isDigit_fracDigits d (Nat.mod_lt n hd)

theorem fracPart_value (n : Nat) {d k : Nat} (hd : d ≠ 0) (h : d ∣ 10 ^ k) :
    Nat.ofDigitChars 10 (fracPart n d) 0 * d = n % d * 10 ^ (fracPart n d).length := by
  refine fracDigits_value (Nat.mod_lt n (Nat.pos_of_ne_zero hd)) ?_
  exact (dvd_pow_log2 hd h).trans ((pow_dvd_pow 10 (Nat.le_add_left _ _)).trans (dvd_mul_left _ _))

/-- Whole part and digits behind the point make the number. -/
theorem decimal_value {n d f m : Nat} (hd : d ≠ 0) (h : f * d = n % d * 10 ^ m) :
    ((n / d * 10 ^ m + f : Nat) : ℚ) / 10 ^ m = n / d := by
  have hdq : (d : ℚ) ≠ 0 := by exact_mod_cast hd
  have hpow : (10 : ℚ) ^ m ≠ 0 := by positivity
  have hnat : (n / d * 10 ^ m + f) * d = n * 10 ^ m := by
    calc (n / d * 10 ^ m + f) * d = (d * (n / d) + n % d) * 10 ^ m := by
          rw [add_mul, h]
          ring
      _ = n * 10 ^ m := by rw [Nat.div_add_mod]
  rw [div_eq_div_iff hpow hdq]
  exact_mod_cast hnat

/-! ## Reading a number -/

/-- A number with a point. -/
theorem readDecimal_point {w : Nat} {fs es : List Char} {e : ℤ} (hfs : ∀ c ∈ fs, c.isDigit = true)
    (hes : Stops es) (he : readExponent es = some e) :
    readDecimal ((toString w).toList ++ '.' :: (fs ++ es)) =
      some (((w * 10 ^ fs.length + Nat.ofDigitChars 10 fs 0 : Nat) : ℚ) / 10 ^ fs.length * (10 : ℚ) ^ e) := by
  have hpoint : Stops ('.' :: (fs ++ es)) := stops_cons _ (by decide) (by decide)
  have hlength : 0 < (toString w).toList.length := List.length_pos_iff.mpr (toString_ne_nil w)
  unfold readDecimal
  simp only [readDigits_append isDigit_toString hpoint, ofDigitChars_toString, readDigits_append hfs hes, Nat.zero_add]
  rw [if_neg (by omega), he]
  rfl

/-- A number without one. -/
theorem readDecimal_whole {w : Nat} {es : List Char} {e : ℤ} (hes : Stops es) (hpoint : es.head? ≠ some '.')
    (he : readExponent es = some e) : readDecimal ((toString w).toList ++ es) = some ((w : ℚ) * (10 : ℚ) ^ e) := by
  have hlength : 0 < (toString w).toList.length := List.length_pos_iff.mpr (toString_ne_nil w)
  unfold readDecimal
  rw [readDigits_append isDigit_toString hes, ofDigitChars_toString]
  dsimp only
  cases es with
  | nil =>
    dsimp only
    rw [if_neg (by omega), he]
    simp
  | cons c cs =>
    have hc : c ≠ '.' := fun h => hpoint (by rw [h]; rfl)
    split
    · next fs hfs => exact absurd (List.cons.inj hfs).1 hc
    · dsimp only
      rw [if_neg (by omega), he]
      simp

/-- An exponent with its sign, and a zero before a single digit. -/
theorem readExponent_e (e : ℤ) (pad : Bool) :
    readExponent ('e' :: (if e < 0 then '-' else '+') :: ((if pad then ['0'] else []) ++ (toString e.natAbs).toList)) =
      some e := by
  have hdigits : ∀ c ∈ (if pad then ['0'] else []) ++ (toString e.natAbs).toList, c.isDigit = true := by
    intro c hc
    rcases List.mem_append.mp hc with hc | hc
    · cases pad with
      | false => cases hc
      | true =>
        obtain rfl := List.mem_singleton.mp hc
        rfl
    · exact isDigit_toString c hc
  have hvalue : Nat.ofDigitChars 10 ((if pad then ['0'] else []) ++ (toString e.natAbs).toList) 0 = e.natAbs := by
    rw [Nat.ofDigitChars_append]
    cases pad <;> exact ofDigitChars_toString _
  have hlength : 0 < ((if pad then ['0'] else []) ++ (toString e.natAbs).toList).length := by
    have := List.length_pos_iff.mpr (toString_ne_nil e.natAbs)
    rw [List.length_append]
    omega
  have hread := readDigits_append hdigits stops_nil 0 0
  rw [List.append_nil, hvalue] at hread
  have he : Char.toLower 'e' = 'e' := by decide
  by_cases hneg : e < 0
  · rw [if_pos hneg]
    simp only [readExponent, he, if_true, readSign, hread]
    rw [if_neg (by omega), Option.some.injEq]
    omega
  · rw [if_neg hneg]
    simp only [readExponent, he, if_true, readSign, hread]
    rw [if_neg (by omega), if_neg Bool.false_ne_true, Option.some.injEq]
    omega

/-! ## Decimals -/

theorem isDecimal_iff {q : ℚ} : IsDecimal q ↔ ∃ (k : ℕ) (z : ℤ), q * 10 ^ k = z := by
  constructor
  · rintro ⟨k, c, hc⟩
    refine ⟨k, q.num * c, ?_⟩
    have hden : (q.den : ℚ) ≠ 0 := by exact_mod_cast q.den_nz
    have hpow : (10 : ℚ) ^ k = q.den * c := by exact_mod_cast hc
    rw [hpow]
    nth_rewrite 1 [← Rat.num_div_den q]
    field_simp
    push_cast
    ring
  · rintro ⟨k, z, h⟩
    refine ⟨k, ?_⟩
    have hpow : (10 : ℚ) ^ k ≠ 0 := by positivity
    have hq : q = Rat.divInt z (10 ^ k : ℕ) := by
      rw [Rat.divInt_eq_div]
      push_cast
      rw [eq_div_iff hpow, h]
    have hdvd := Rat.den_dvd z ((10 ^ k : ℕ) : ℤ)
    rw [← hq] at hdvd
    exact_mod_cast hdvd

theorem isDecimal_mul_zpow {q : ℚ} (h : IsDecimal q) (e : ℤ) : IsDecimal (q * (10 : ℚ) ^ e) := by
  obtain ⟨k, z, hz⟩ := isDecimal_iff.mp h
  refine isDecimal_iff.mpr ⟨k + e.natAbs, z * 10 ^ (e + e.natAbs).toNat, ?_⟩
  have hsum : ((e + e.natAbs).toNat : ℤ) = e + e.natAbs := by omega
  have hexp : (10 : ℚ) ^ e * 10 ^ e.natAbs = 10 ^ (e + e.natAbs).toNat := by
    rw [← zpow_natCast, ← zpow_natCast, ← zpow_add₀ (by norm_num), hsum]
  rw [Int.cast_mul, Int.cast_pow, Int.cast_ofNat, ← hz, ← hexp, pow_add]
  ring

theorem isDecimal_intCast (z : ℤ) : IsDecimal (z : ℚ) := isDecimal_iff.mpr ⟨0, z, by simp⟩

/-! ## What `repr` prints -/

theorem positional_toList (n d : Nat) : (positional n d).toList =
    (toString (n / d)).toList ++ '.' :: (if (fracPart n d).isEmpty then ['0'] else fracPart n d) := by
  simp [positional]

theorem isDigit_shown {n d : Nat} (hd : 0 < d) :
    ∀ c ∈ (if (fracPart n d).isEmpty then ['0'] else fracPart n d), c.isDigit = true := by
  intro c hc
  split_ifs at hc
  · obtain rfl := List.mem_singleton.mp hc
    rfl
  · exact isDigit_fracPart hd c hc

/-- A shown zero changes nothing. -/
theorem shown_value (n : Nat) {d k : Nat} (hd : d ≠ 0) (h : d ∣ 10 ^ k) :
    Nat.ofDigitChars 10 (if (fracPart n d).isEmpty then ['0'] else fracPart n d) 0 * d =
      n % d * 10 ^ (if (fracPart n d).isEmpty then ['0'] else fracPart n d).length := by
  have hvalue := fracPart_value n hd h
  by_cases hempty : (fracPart n d).isEmpty
  · rw [List.isEmpty_iff.mp hempty] at hvalue
    have hzero : n % d = 0 := by simpa using hvalue.symm
    rw [if_pos hempty, hzero, Nat.zero_mul]
    exact Nat.zero_mul d
  · rw [if_neg hempty]
    exact hvalue

theorem readDecimal_positional (n : Nat) {d k : Nat} (hd : d ≠ 0) (h : d ∣ 10 ^ k) :
    readDecimal (positional n d).toList = some ((n : ℚ) / d) := by
  have hread := readDecimal_point (w := n / d) (isDigit_shown (n := n) (Nat.pos_of_ne_zero hd)) stops_nil rfl
  rw [List.append_nil] at hread
  rw [positional_toList, hread, decimal_value hd (shown_value n hd h), zpow_zero, mul_one]

/-- The exponent as it is printed. -/
def exponentText (e : ℤ) : List Char :=
  'e' :: (if e < 0 then '-' else '+') ::
    ((if e.natAbs < 10 then ['0'] else []) ++ (toString e.natAbs).toList)

theorem readExponent_text (e : ℤ) : readExponent (exponentText e) = some e := by
  have h := readExponent_e e (decide (e.natAbs < 10))
  unfold exponentText
  simpa only [decide_eq_true_eq] using h

theorem stops_exponentText (e : ℤ) : Stops (exponentText e) := stops_cons _ (by decide) (by decide)

/-- A positive number below its power of ten. -/
def mantissa (n d : Nat) : ℚ := (n : ℚ) / d / 10 ^ Int.log 10 ((n : ℚ) / d)

theorem scientific_toList (n d : Nat) : (scientific n d).toList =
    (toString ((mantissa n d).num.natAbs / (mantissa n d).den)).toList ++
      ((if (fracPart (mantissa n d).num.natAbs (mantissa n d).den).isEmpty then []
        else '.' :: fracPart (mantissa n d).num.natAbs (mantissa n d).den) ++
        exponentText (Int.log 10 ((n : ℚ) / d))) := by
  unfold scientific exponentText
  simp only [String.toList_append]
  rw [show (n : ℚ) / d / 10 ^ Int.log 10 ((n : ℚ) / d) = mantissa n d from rfl]
  split_ifs <;> simp

theorem readDecimal_scientific {n d k : Nat} (hd : d ≠ 0) (h : d ∣ 10 ^ k) :
    readDecimal (scientific n d).toList = some ((n : ℚ) / d) := by
  have hten : (10 : ℚ) ^ Int.log 10 ((n : ℚ) / d) ≠ 0 := by positivity
  have hmantissa : IsDecimal (mantissa n d) := by
    have hn : IsDecimal ((n : ℚ) / d) := by
      obtain ⟨c, hc⟩ := h
      have hdq : (d : ℚ) ≠ 0 := by exact_mod_cast hd
      refine isDecimal_iff.mpr ⟨k, n * c, ?_⟩
      have hpow : (10 : ℚ) ^ k = d * c := by exact_mod_cast hc
      rw [hpow]
      push_cast
      field_simp
    rw [mantissa, div_eq_mul_inv _ ((10 : ℚ) ^ _), ← zpow_neg]
    exact isDecimal_mul_zpow hn _
  obtain ⟨j, hj⟩ := hmantissa
  have hpos : 0 ≤ mantissa n d := by
    unfold mantissa
    positivity
  have hself : ((mantissa n d).num.natAbs : ℚ) / (mantissa n d).den = mantissa n d := by
    have hnum : ((mantissa n d).num.natAbs : ℤ) = (mantissa n d).num :=
      Int.natAbs_of_nonneg (Rat.num_nonneg.mpr hpos)
    have hcast : ((mantissa n d).num.natAbs : ℚ) = (mantissa n d).num := by
      rw [← Int.cast_natCast, hnum]
    rw [hcast, Rat.num_div_den]
  have hback : mantissa n d * (10 : ℚ) ^ Int.log 10 ((n : ℚ) / d) = (n : ℚ) / d := div_mul_cancel₀ _ hten
  have hden := (mantissa n d).den_nz
  have hfrac := fracPart_value (mantissa n d).num.natAbs hden hj
  rw [scientific_toList]
  by_cases hempty : (fracPart (mantissa n d).num.natAbs (mantissa n d).den).isEmpty
  · rw [if_pos hempty, List.nil_append,
      readDecimal_whole (stops_exponentText _) (by simp [exponentText]) (readExponent_text _)]
    rw [List.isEmpty_iff.mp hempty] at hfrac
    have hvalue := decimal_value hden hfrac
    simp only [Nat.ofDigitChars_nil, List.length_nil, pow_zero, mul_one, add_zero, div_one] at hvalue
    rw [hvalue, hself, hback]
  · rw [if_neg hempty, List.cons_append,
      readDecimal_point (isDigit_fracPart (Nat.pos_of_ne_zero hden)) (stops_exponentText _) (readExponent_text _),
      decimal_value hden hfrac, hself, hback]

/-- What `repr` prints is read back. -/
theorem readDecimal_magnitude {n d k : Nat} (hd : d ≠ 0) (h : d ∣ 10 ^ k) :
    readDecimal (magnitude n d).toList = some ((n : ℚ) / d) := by
  unfold magnitude
  split_ifs
  · exact readDecimal_positional n hd h
  · exact readDecimal_scientific hd h

theorem toNat_of_isDigit {c : Char} (h : c.isDigit = true) : 48 ≤ c.toNat ∧ c.toNat ≤ 57 := by
  rw [Char.isDigit, Bool.and_eq_true, decide_eq_true_eq, decide_eq_true_eq] at h
  exact ⟨h.1, h.2⟩

theorem isNumberSpace_of_isDigit {c : Char} (h : c.isDigit = true) : isNumberSpace c = false := by
  obtain ⟨hlow, hhigh⟩ := toNat_of_isDigit h
  unfold isNumberSpace
  rw [if_pos (by omega)]
  simp only [Bool.or_eq_false_iff, Bool.and_eq_false_iff, decide_eq_false_iff_not]
  omega

/-- A digit is no sign. -/
theorem readSign_digit {c : Char} (hc : c.isDigit = true) (rest : List Char) : readSign (c :: rest) = (false, c :: rest) := by
  unfold readSign
  split
  · next heq =>
    obtain ⟨rfl, -⟩ := List.cons.inj heq
    cases hc
  · next heq =>
    obtain ⟨rfl, -⟩ := List.cons.inj heq
    cases hc
  · rfl

theorem toLower_of_isDigit {c : Char} (h : c.isDigit = true) : c.toLower = c := by
  obtain ⟨-, hhigh⟩ := toNat_of_isDigit h
  unfold Char.toLower
  rw [dif_neg]
  rintro ⟨hup, -⟩
  have : 65 ≤ c.toNat := hup
  omega

theorem stripWhile_eq_self {p : Char → Bool} {cs : List Char} (h : ∀ c ∈ cs, p c = false) : stripWhile p cs = cs := by
  have hdrop : ∀ {ds : List Char}, (∀ c ∈ ds, p c = false) → ds.dropWhile p = ds := by
    intro ds hds
    cases ds with
    | nil => rfl
    | cons d ds => rw [List.dropWhile_cons_of_neg (by simpa using hds d List.mem_cons_self)]
  unfold stripWhile
  rw [hdrop h, hdrop fun c hc => h c (List.mem_reverse.mp hc), List.reverse_reverse]

/-- Digits, and then the point or the exponent. -/
def Printed (cs : List Char) : Prop :=
  ∃ (whole : Nat) (mark : Char) (tail : List Char), cs = (toString whole).toList ++ mark :: tail ∧
    (mark = '.' ∨ mark = 'e') ∧ ∀ c ∈ tail, c.isDigit = true ∨ c ∈ ['.', 'e', '+', '-']

theorem plain_exponentText (e : ℤ) : ∀ c ∈ exponentText e, c.isDigit = true ∨ c ∈ ['.', 'e', '+', '-'] := by
  intro c hc
  unfold exponentText at hc
  rcases List.mem_cons.mp hc with rfl | hc
  · exact .inr (by decide)
  · rcases List.mem_cons.mp hc with rfl | hc
    · right
      split_ifs <;> decide
    · rcases List.mem_append.mp hc with hc | hc
      · split_ifs at hc
        · exact .inl (by rw [List.mem_singleton.mp hc]; rfl)
        · cases hc
      · exact .inl (isDigit_toString c hc)

theorem printed_magnitude {n d : Nat} (hd : d ≠ 0) : Printed (magnitude n d).toList := by
  unfold magnitude
  split_ifs
  · exact ⟨_, _, _, positional_toList n d, .inl rfl, fun c hc => .inl (isDigit_shown (Nat.pos_of_ne_zero hd) c hc)⟩
  · rw [scientific_toList]
    split_ifs
    · exact ⟨_, _, _, rfl, .inr rfl, fun c hc => plain_exponentText _ c (List.mem_cons_of_mem _ hc)⟩
    · refine ⟨_, _, _, rfl, .inl rfl, fun c hc => ?_⟩
      rcases List.mem_append.mp hc with hc | hc
      · exact .inl (isDigit_fracPart (mantissa n d).den_pos c hc)
      · exact plain_exponentText _ c hc

namespace Printed

variable {cs : List Char}

theorem plain (h : Printed cs) : ∀ c ∈ cs, c.isDigit = true ∨ c ∈ ['.', 'e', '+', '-'] := by
  obtain ⟨whole, mark, tail, rfl, hmark, htail⟩ := h
  intro c hc
  rcases List.mem_append.mp hc with hc | hc
  · exact .inl (isDigit_toString c hc)
  · rcases List.mem_cons.mp hc with rfl | hc
    · rcases hmark with rfl | rfl <;> exact .inr (by decide)
    · exact htail c hc

theorem digit_first (h : Printed cs) : ∃ c rest, cs = c :: rest ∧ c.isDigit = true := by
  obtain ⟨whole, mark, tail, rfl, -, -⟩ := h
  obtain ⟨c, rest, hc⟩ := List.exists_cons_of_ne_nil (toString_ne_nil whole)
  refine ⟨c, rest ++ mark :: tail, by rw [hc]; rfl, isDigit_toString (n := whole) c ?_⟩
  rw [hc]
  exact List.mem_cons_self

theorem readSign_eq (h : Printed cs) : readSign cs = (false, cs) := by
  obtain ⟨c, rest, rfl, hc⟩ := h.digit_first
  exact readSign_digit hc rest

/-- The digits do not reach the end. -/
theorem readDigits_eq (h : Printed cs) : ∃ n count c rest, readDigits 0 0 cs = (n, count, c :: rest) := by
  obtain ⟨whole, mark, tail, rfl, hmark, -⟩ := h
  have hstops : Stops (mark :: tail) := by
    rcases hmark with rfl | rfl <;> exact stops_cons _ (by decide) (by decide)
  exact ⟨_, _, _, _, readDigits_append isDigit_toString hstops 0 0⟩

theorem notSpace (h : Printed cs) : ∀ c ∈ '-' :: cs, isNumberSpace c = false := by
  intro c hc
  rcases List.mem_cons.mp hc with rfl | hc
  · rfl
  · rcases h.plain c hc with hdigit | hmark
    · exact isNumberSpace_of_isDigit hdigit
    · fin_cases hmark <;> rfl

/-- No word begins with a digit. -/
theorem word_ne (h : Printed cs) {w : String} {c : Char} {ws : List Char} (hw : w.toList = c :: ws)
    (hc : c.isDigit = false) : String.ofList (cs.map Char.toLower) ≠ w := by
  obtain ⟨d, rest, rfl, hd⟩ := h.digit_first
  rintro rfl
  rw [String.toList_ofList, List.map_cons] at hw
  obtain ⟨rfl, -⟩ := List.cons.inj hw
  rw [toLower_of_isDigit hd, hd] at hc
  cases hc

end Printed

/-- A printed number behind an optional minus. -/
theorem signed_strip {cs : List Char} (h : Printed cs) (neg : Bool) :
    readSign (stripWhile isNumberSpace ((if neg then ['-'] else []) ++ cs)) = (neg, cs) := by
  cases neg with
  | false =>
    rw [if_neg Bool.false_ne_true, List.nil_append,
      stripWhile_eq_self fun c hc => h.notSpace c (List.mem_cons_of_mem _ hc), h.readSign_eq]
  | true =>
    rw [if_pos rfl, List.singleton_append, stripWhile_eq_self h.notSpace]
    rfl

theorem readFloat_printed {s : String} {cs : List Char} {q : ℚ} (h : Printed cs) (neg : Bool)
    (hs : s.toList = (if neg then ['-'] else []) ++ cs) (hread : readDecimal cs = some q) :
    readFloat s = .ok (.fin (if neg then -q else q)) := by
  have hnan : String.ofList (cs.map Char.toLower) ≠ "nan" := h.word_ne (by rfl) (by decide)
  have hinf : String.ofList (cs.map Char.toLower) ≠ "inf" := h.word_ne (by rfl) (by decide)
  have hinfinity : String.ofList (cs.map Char.toLower) ≠ "infinity" := h.word_ne (by rfl) (by decide)
  unfold readFloat
  rw [hs, signed_strip h neg]
  dsimp only
  rw [if_neg hnan, if_neg (not_or.mpr ⟨hinf, hinfinity⟩), hread]

theorem intOfString_printed {s : String} {cs : List Char} (h : Printed cs) (neg : Bool)
    (hs : s.toList = (if neg then ['-'] else []) ++ cs) :
    intOfString s = .error (.valueError s!"invalid literal for int() with base 10: '{s}'") := by
  obtain ⟨n, count, c, rest, hread⟩ := h.readDigits_eq
  unfold intOfString
  rw [hs, signed_strip h neg]
  dsimp only
  rw [hread]

/-! ## There and back -/

theorem decimalText_toList (q : ℚ) : (decimalText q).toList =
    (if decide (q < 0) then ['-'] else []) ++ (magnitude q.num.natAbs q.den).toList := by
  by_cases hneg : q < 0 <;> simp [decimalText, hneg]

theorem decimalText_plain (q : ℚ) : ∀ c ∈ (decimalText q).toList, c.isDigit = true ∨ c ∈ ['.', 'e', '+', '-'] := by
  intro c hc
  rw [decimalText_toList] at hc
  rcases List.mem_append.mp hc with hc | hc
  · split_ifs at hc
    · exact .inr (by rw [List.mem_singleton.mp hc]; decide)
    · cases hc
  · exact (printed_magnitude q.den_nz).plain c hc

theorem decimalText_ne_empty (q : ℚ) : decimalText q ≠ "" := by
  intro h
  have hread := decimalText_toList q
  obtain ⟨c, rest, hfirst, -⟩ := (printed_magnitude (n := q.num.natAbs) q.den_nz).digit_first
  rw [h, hfirst] at hread
  simp at hread

/-- A printed decimal is read back. -/
theorem readFloat_decimalText {q : ℚ} (h : IsDecimal q) : readFloat (decimalText q) = .ok (.fin q) := by
  obtain ⟨k, hk⟩ := h
  rw [readFloat_printed (printed_magnitude q.den_nz) _ (decimalText_toList q) (readDecimal_magnitude q.den_nz hk),
    Nat.cast_natAbs]
  have hself := Rat.num_div_den q
  by_cases hneg : q < 0
  · rw [if_pos (decide_eq_true hneg), abs_of_neg (Rat.num_neg.mpr hneg)]
    push_cast
    rw [neg_div, hself, neg_neg]
  · rw [if_neg (by simpa using hneg), abs_of_nonneg (Rat.num_nonneg.mpr (not_lt.mp hneg)), hself]

/-- The special values come back from their text. -/
theorem floatOfString_repr_special {x : PyFloat} (h : ∀ q, x ≠ .fin q) : floatOfString x.repr = .ok x := by
  cases x with
  | nan => decide
  | negInf => decide
  | posInf => decide
  | fin q => exact absurd rfl (h q)

/-- The digits of a number behind an optional minus. -/
theorem intOfString_digits {s : String} {n : ℕ} (neg : Bool)
    (hs : s.toList = (if neg then ['-'] else []) ++ (toString n).toList) :
    intOfString s = .ok (if neg then -(n : ℤ) else n) := by
  have hdigits : ∀ c ∈ (toString n).toList, c.isDigit = true := isDigit_toString
  have hread : readDigits 0 0 (toString n).toList = (n, 0 + (toString n).toList.length, []) := by
    have happend := readDigits_append hdigits stops_nil 0 0
    rwa [List.append_nil, ofDigitChars_toString] at happend
  have hspace : ∀ c ∈ s.toList, isNumberSpace c = false := by
    intro c hc
    rw [hs] at hc
    rcases List.mem_append.mp hc with hc | hc
    · split_ifs at hc
      · rw [List.mem_singleton.mp hc]
        rfl
      · cases hc
    · exact isNumberSpace_of_isDigit (hdigits c hc)
  obtain ⟨c, rest, hfirst⟩ := List.exists_cons_of_ne_nil (toString_ne_nil n)
  have hsign : readSign s.toList = (neg, (toString n).toList) := by
    rw [hs]
    cases neg with
    | true => rfl
    | false =>
      have hc : c.isDigit = true := hdigits c (by rw [hfirst]; exact List.mem_cons_self)
      rw [if_neg Bool.false_ne_true, List.nil_append, hfirst]
      exact readSign_digit hc rest
  have hsome : 0 + (toString n).toList.length ≠ 0 := by
    rw [hfirst, List.length_cons]
    omega
  unfold intOfString
  rw [stripWhile_eq_self hspace, hsign]
  dsimp only
  rw [hread]
  exact if_neg hsome

/-- `int` reads back what `str` prints for an integer. -/
theorem intOfString_toString (z : ℤ) : intOfString (toString z) = .ok z := by
  cases z with
  | ofNat n => exact intOfString_digits false (show (toString n).toList = _ from rfl)
  | negSucc n =>
    have htext : (toString (Int.negSucc n)).toList = (if true then ['-'] else []) ++ (toString (n + 1)).toList := by
      show ("-" ++ toString (n + 1)).toList = _
      rw [String.toList_append]
      rfl
    exact intOfString_digits true htext

/-- A point, an exponent and a word are no part of an integer. -/
theorem intOfString_repr (x : PyFloat) :
    intOfString x.repr = .error (.valueError s!"invalid literal for int() with base 10: '{x.repr}'") := by
  cases x with
  | nan => decide
  | negInf => decide
  | posInf => decide
  | fin q => exact intOfString_printed (printed_magnitude (shortest q).den_nz) _ (decimalText_toList _)

end Python
