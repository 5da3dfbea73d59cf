import Mathlib.Data.Nat.Bitwise
import Mathlib.Tactic

/-!
# Reflected cyclic checksums

The register of a reflected CRC is a number that is shifted right by one; a bit that
falls out adds the polynomial.  Everything is linear over exclusive or, so the bytes of
a string may be gathered into one number that is fed in at once.

    a shift is linear, and injective below the top bit of the polynomial   (shift_xor, shift_injOn)
    feeding a string is feeding its number, then shifting                  (feed_eq)
    a table of the shifted bytes feeds eight shifts at a time              (feed_table)
    strings that differ within a window as wide as the register
      have different checksums                                             (feed_burst)
-/

namespace Checksum

/-- One shift of the register. -/
def shift (poly crc : ℕ) : ℕ := if crc &&& 1 ≠ 0 then (crc >>> 1) ^^^ poly else crc >>> 1

variable {poly : ℕ}

theorem shift_eq (crc : ℕ) : shift poly crc = (crc >>> 1) ^^^ (if crc.testBit 0 then poly else 0) := by
  unfold shift
  have hbit : crc &&& 1 ≠ 0 ↔ crc.testBit 0 = true := by
    rw [Nat.testBit_zero, Nat.and_one_is_mod, decide_eq_true_eq]
    omega
  by_cases h : crc.testBit 0 = true
  · rw [if_pos (hbit.mpr h), if_pos h]
  · rw [if_neg (mt hbit.mp h), if_neg h, Nat.xor_zero]

theorem shift_xor (a b : ℕ) : shift poly (a ^^^ b) = shift poly a ^^^ shift poly b := by
  rw [shift_eq, shift_eq, shift_eq, Nat.shiftRight_xor_distrib, Nat.testBit_xor]
  cases a.testBit 0 <;> cases b.testBit 0
  · simp
  · simp [Nat.xor_assoc]
  · simp only [Bool.xor_false, if_true, Bool.false_eq_true, if_false, Nat.xor_zero]
    rw [Nat.xor_assoc, Nat.xor_comm (b >>> 1), ← Nat.xor_assoc]
  · simp only [Bool.xor_self, Bool.false_eq_true, if_false, if_true, Nat.xor_zero]
    rw [Nat.xor_assoc (a >>> 1), Nat.xor_comm (b >>> 1), ← Nat.xor_assoc poly, Nat.xor_self, Nat.zero_xor]

theorem shift_lt {w crc : ℕ} (hpoly : poly < 2 ^ w) (hcrc : crc < 2 ^ w) : shift poly crc < 2 ^ w := by
  rw [shift_eq]
  refine Nat.xor_lt_two_pow ?_ ?_
  · rw [Nat.shiftRight_eq_div_pow]
    omega
  · split
    · exact hpoly
    · exact Nat.two_pow_pos w

/-- A bit that has not come to the end only moves. -/
theorem shift_shiftLeft (a n : ℕ) : shift poly (a <<< (n + 1)) = a <<< n := by
  have hbit : (a <<< (n + 1)).testBit 0 = false := by
    rw [Nat.testBit_shiftLeft]
    simp
  rw [shift_eq, hbit]
  simp only [Bool.false_eq_true, if_false, Nat.xor_zero]
  rw [Nat.shiftLeft_eq, Nat.shiftLeft_eq, Nat.shiftRight_eq_div_pow, pow_succ, pow_one, ← Nat.mul_assoc,
    Nat.mul_div_cancel _ Nat.two_pos]

/-- The polynomial has the top bit of the register, so no information is lost. -/
theorem shift_injOn {w : ℕ} (htop : poly.testBit w = true) {a b : ℕ} (ha : a < 2 ^ (w + 1)) (hb : b < 2 ^ (w + 1))
    (h : shift poly a = shift poly b) : a = b := by
  have hzero : shift poly (a ^^^ b) = 0 := by
    rw [shift_xor, h, Nat.xor_self]
  have hlt : (a ^^^ b) < 2 ^ (w + 1) := Nat.xor_lt_two_pow ha hb
  rw [shift_eq] at hzero
  have hsmall : (a ^^^ b) >>> 1 < 2 ^ w := by
    rw [Nat.shiftRight_eq_div_pow]
    omega
  cases hbit : (a ^^^ b).testBit 0 with
  | true =>
    -- then the polynomial would be below its own top bit
    rw [hbit, if_pos rfl, Nat.xor_eq_zero_iff] at hzero
    rw [← hzero, Nat.testBit_lt_two_pow hsmall] at htop
    cases htop
  | false =>
    rw [hbit] at hzero
    simp only [Bool.false_eq_true, if_false, Nat.xor_zero] at hzero
    have heven : (a ^^^ b) % 2 = 0 := by
      rw [Nat.testBit_zero, decide_eq_false_iff_not] at hbit
      omega
    rw [Nat.shiftRight_eq_div_pow] at hzero
    refine Nat.xor_eq_zero_iff.mp ?_
    omega

/-! ## Shifting often -/

theorem iterate_shift_xor (n a b : ℕ) : (shift poly)^[n] (a ^^^ b) = (shift poly)^[n] a ^^^ (shift poly)^[n] b := by
  induction n generalizing a b with
  | zero => rfl
  | succ n ih => rw [Function.iterate_succ_apply, Function.iterate_succ_apply, Function.iterate_succ_apply, shift_xor, ih]

theorem iterate_shift_lt {w : ℕ} (hpoly : poly < 2 ^ w) (n : ℕ) {crc : ℕ} (hcrc : crc < 2 ^ w) :
    (shift poly)^[n] crc < 2 ^ w := by
  induction n generalizing crc with
  | zero => exact hcrc
  | succ n ih => exact ih (shift_lt hpoly hcrc)

theorem iterate_shift_shiftLeft (n a : ℕ) : (shift poly)^[n] (a <<< n) = a := by
  induction n with
  | zero => rfl
  | succ n ih => rw [Function.iterate_succ_apply, shift_shiftLeft, ih]

theorem iterate_shift_injOn {w : ℕ} (hpoly : poly < 2 ^ (w + 1)) (htop : poly.testBit w = true) (n : ℕ) {a b : ℕ}
    (ha : a < 2 ^ (w + 1)) (hb : b < 2 ^ (w + 1)) (h : (shift poly)^[n] a = (shift poly)^[n] b) : a = b := by
  induction n generalizing a b with
  | zero => exact h
  | succ n ih => exact shift_injOn htop ha hb (ih (shift_lt hpoly ha) (shift_lt hpoly hb) h)

/-! ## Feeding a string -/

/-- A byte is added to the low end of the register, which is then shifted eight times. -/
def feed (poly : ℕ) (crc : ℕ) (data : List UInt8) : ℕ :=
  data.foldl (fun crc b => (shift poly)^[8] (crc ^^^ b.toNat)) crc

/-- The bytes as a number, the first one lowest. -/
def word : List UInt8 → ℕ
  | [] => 0
  | b :: rest => b.toNat ^^^ (word rest <<< 8)

theorem feed_append (crc : ℕ) (x y : List UInt8) : feed poly crc (x ++ y) = feed poly (feed poly crc x) y :=
  List.foldl_append

theorem feed_eq (crc : ℕ) (data : List UInt8) :
    feed poly crc data = (shift poly)^[8 * data.length] (crc ^^^ word data) := by
  induction data generalizing crc with
  | nil => exact (Nat.xor_zero crc).symm
  | cons b rest ih =>
    have hrest : (shift poly)^[8] (crc ^^^ word (b :: rest)) = (shift poly)^[8] (crc ^^^ b.toNat) ^^^ word rest := by
      rw [word, ← Nat.xor_assoc, iterate_shift_xor, iterate_shift_shiftLeft]
    have hlength : 8 * (b :: rest).length = 8 * rest.length + 8 := by
      rw [List.length_cons]
      omega
    rw [hlength, Function.iterate_add_apply, hrest]
    exact ih _

theorem feed_lt {w : ℕ} (hw : 8 ≤ w) (hpoly : poly < 2 ^ w) {crc : ℕ} (hcrc : crc < 2 ^ w) (data : List UInt8) :
    feed poly crc data < 2 ^ w := by
  induction data generalizing crc with
  | nil => exact hcrc
  | cons b rest ih =>
    have hb : b.toNat < 2 ^ w := lt_of_lt_of_le b.toNat_lt (Nat.pow_le_pow_right Nat.two_pos hw)
    exact ih (iterate_shift_lt hpoly 8 (Nat.xor_lt_two_pow hcrc hb))

/-- The entries of the table are the bytes, shifted eight times. -/
def IsTable (poly : ℕ) (table : List ℕ) : Prop := ∀ i < 256, table.getD i 0 = (shift poly)^[8] i

/-- Eight shifts at once: the low byte selects the entry, the rest moves down. -/
theorem feed_table {table : List ℕ} (htable : IsTable poly table) (crc : ℕ) (data : List UInt8) :
    data.foldl (fun crc b => (crc >>> 8) ^^^ table.getD ((crc ^^^ b.toNat) &&& 0xFF) 0) crc = feed poly crc data := by
  have hstep : ∀ (crc : ℕ) (b : UInt8), (crc >>> 8) ^^^ table.getD ((crc ^^^ b.toNat) &&& 0xFF) 0 =
      (shift poly)^[8] (crc ^^^ b.toNat) := by
    intro crc b
    have hlow : (crc ^^^ b.toNat) &&& 0xFF = (crc ^^^ b.toNat) % 2 ^ 8 := Nat.and_two_pow_sub_one_eq_mod _ 8
    have hhigh : (crc ^^^ b.toNat) >>> 8 = crc >>> 8 := by
      rw [Nat.shiftRight_xor_distrib, Nat.shiftRight_eq_div_pow b.toNat, Nat.div_eq_of_lt b.toNat_lt, Nat.xor_zero]
    rw [hlow, htable ((crc ^^^ b.toNat) % 2 ^ 8) (Nat.mod_lt _ (by decide)), ← hhigh]
    generalize crc ^^^ b.toNat = x
    have hsplit : x = ((x >>> 8) <<< 8) ^^^ (x % 2 ^ 8) := by
      refine Nat.eq_of_testBit_eq fun i => ?_
      rw [Nat.testBit_xor, Nat.testBit_shiftLeft, Nat.testBit_shiftRight, Nat.testBit_mod_two_pow]
      by_cases hi : 8 ≤ i
      · simp [hi, Nat.not_lt.mpr hi, Nat.add_sub_cancel' hi]
      · simp [hi, Nat.lt_of_not_le hi]
    conv => rhs; rw [hsplit]
    rw [iterate_shift_xor, iterate_shift_shiftLeft]
  unfold feed
  induction data generalizing crc with
  | nil => rfl
  | cons b rest ih => rw [List.foldl_cons, List.foldl_cons, hstep, ih]

/-! ## Bursts -/

theorem word_lt (data : List UInt8) : word data < 2 ^ (8 * data.length) := by
  induction data with
  | nil => decide
  | cons b rest ih =>
    have hlength : 8 * (b :: rest).length = 8 * rest.length + 8 := by
      rw [List.length_cons]
      omega
    rw [word, hlength]
    refine Nat.xor_lt_two_pow (lt_of_lt_of_le b.toNat_lt (Nat.pow_le_pow_right Nat.two_pos (by omega))) ?_
    rw [Nat.shiftLeft_eq, pow_add]
    exact Nat.mul_lt_mul_of_pos_right ih (by decide)

theorem word_inj {x y : List UInt8} (hlength : x.length = y.length) (h : word x = word y) : x = y := by
  induction x generalizing y with
  | nil => exact (List.length_eq_zero_iff.mp hlength.symm).symm
  | cons b rest ih =>
    cases y with
    | nil => cases hlength
    | cons c rest' =>
      have hmod : ∀ (b : UInt8) (n : ℕ), (b.toNat ^^^ (n <<< 8)) % 2 ^ 8 = b.toNat := by
        intro b n
        rw [Nat.xor_mod_two_pow, Nat.shiftLeft_eq, Nat.mul_mod_left, Nat.xor_zero, Nat.mod_eq_of_lt b.toNat_lt]
      have hdiv : ∀ (b : UInt8) (n : ℕ), (b.toNat ^^^ (n <<< 8)) >>> 8 = n := by
        intro b n
        rw [Nat.shiftRight_xor_distrib, Nat.shiftRight_eq_div_pow b.toNat, Nat.div_eq_of_lt b.toNat_lt, Nat.zero_xor,
          Nat.shiftLeft_shiftRight]
      have hfirst : b = c := by
        refine UInt8.toNat_inj.mp ?_
        rw [← hmod b (word rest), ← hmod c (word rest')]
        exact congrArg (· % 2 ^ 8) h
      have hrest : word rest = word rest' := by
        rw [← hdiv b (word rest), ← hdiv c (word rest')]
        exact congrArg (· >>> 8) h
      rw [hfirst, ih (Nat.succ.inj hlength) hrest]

/-- A difference of the registers is never lost. -/
theorem feed_injOn {w : ℕ} (hw : 8 ≤ w + 1) (hpoly : poly < 2 ^ (w + 1)) (htop : poly.testBit w = true)
    (data : List UInt8) {a b : ℕ} (ha : a < 2 ^ (w + 1)) (hb : b < 2 ^ (w + 1))
    (h : feed poly a data = feed poly b data) : a = b := by
  induction data generalizing a b with
  | nil => exact h
  | cons c rest ih =>
    have hc : c.toNat < 2 ^ (w + 1) := lt_of_lt_of_le c.toNat_lt (Nat.pow_le_pow_right Nat.two_pos hw)
    have hshifted : (shift poly)^[8] (a ^^^ c.toNat) = (shift poly)^[8] (b ^^^ c.toNat) :=
      ih (iterate_shift_lt hpoly 8 (Nat.xor_lt_two_pow ha hc)) (iterate_shift_lt hpoly 8 (Nat.xor_lt_two_pow hb hc)) h
    exact Nat.xor_left_inj.mp
      (iterate_shift_injOn hpoly htop 8 (Nat.xor_lt_two_pow ha hc) (Nat.xor_lt_two_pow hb hc) hshifted)

/-- Two strings that differ within a window no wider than the register. -/
theorem feed_burst {w : ℕ} (hw : 8 ≤ w + 1) (hpoly : poly < 2 ^ (w + 1)) (htop : poly.testBit w = true) {crc : ℕ}
    (hcrc : crc < 2 ^ (w + 1)) (front : List UInt8) {x y : List UInt8} (back : List UInt8) (hlength : x.length = y.length)
    (hwindow : 8 * x.length ≤ w + 1) (hne : x ≠ y) :
    feed poly crc (front ++ x ++ back) ≠ feed poly crc (front ++ y ++ back) := by
  intro h
  rw [feed_append, feed_append, feed_append, feed_append] at h
  have hfront := feed_lt hw hpoly hcrc front
  have hbefore := feed_injOn hw hpoly htop back (feed_lt hw hpoly hfront x) (feed_lt hw hpoly hfront y) h
  rw [feed_eq _ x, feed_eq _ y, hlength] at hbefore
  have hfits : ∀ z : List UInt8, z.length = x.length → feed poly crc front ^^^ word z < 2 ^ (w + 1) := fun z hz =>
    Nat.xor_lt_two_pow hfront (lt_of_lt_of_le (word_lt z) (Nat.pow_le_pow_right Nat.two_pos (by rw [hz]; exact hwindow)))
  have hwords := iterate_shift_injOn hpoly htop _ (hfits x rfl) (hfits y hlength.symm) hbefore
  exact hne (word_inj hlength (Nat.xor_right_inj.mp hwords))

end Checksum
