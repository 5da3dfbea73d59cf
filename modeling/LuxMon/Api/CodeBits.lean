import LuxMon.Api.Snapshot

/-!
# Fault and warning words

The 32-bit words of registers 60–61 and 62–63 carry one bit for each fault or warning.
`_decode_bits` takes a word for a plain code first, if the table has one.

    a word and its parts are decoded bit by bit ↔ no part is a code of the
      table                                                    (code_bits_iff)
-/

namespace LuxMon

open Python

/-! ## Words -/

inductive CodeWord
  | fault
  | warning
  deriving DecidableEq

namespace CodeWord

def table : CodeWord → List (ℤ × String)
  | fault => FAULT_CODES
  | warning => WARNING_CODES

/-- The register of the low word. -/
def register : CodeWord → Nat
  | fault => 60
  | warning => 62

/-- `decode_fault_code` and `decode_warning_code`. -/
def decode (c : CodeWord) : Option ℤ → List String
  | none => []
  | some value => decodeBits value c.table

/-- The word of a low and a high register. -/
def word (lo hi : Nat) : Nat := lo + hi <<< 16

/-- It is the value of the register pair. -/
theorem word_decoded (c : CodeWord) {r : RegisterDef} (h : baseInputRegisters.lookup c.register = some r) {lo hi : Nat}
    (hlo : lo < 65536) (hhi : hi < 65536) : r.decode lo hi = (word lo hi : ℚ) := by
  have hpair : r.pairHigh.isSome = true ∧ r.signed = false ∧ r.scale = 1 := by
    cases c <;>
    · obtain rfl := Option.some.inj h
      exact ⟨rfl, rfl, rfl⟩
  obtain ⟨hhigh, hsigned, hscale⟩ := hpair
  have hsmall : |((lo + hi <<< 16 : Nat) : ℤ)| ≤ 2 ^ 53 := by
    rw [Nat.shiftLeft_eq, abs_of_nonneg (Int.natCast_nonneg _)]
    push_cast
    omega
  unfold RegisterDef.decode
  simp only [hhigh, hsigned, hscale, if_true, Bool.false_and, Bool.false_eq_true, if_false]
  exact (timesDouble_one hsmall).trans (Int.cast_natCast _)

/-- The label of a word joins its texts. -/
theorem label_word (c : CodeWord) (w : Nat) :
    codeLabel c.table (.float (.fin w)) = .ok (", ".intercalate (c.decode (some w))) := by
  have hint : (Json.float (.fin w)).toInt = .ok (w : ℤ) := by
    simp [Json.toInt, PyFloat.toInt]
  unfold codeLabel
  rw [hint]
  rfl

end CodeWord

/-! ## Bits -/

/-- The text of a bit, with the bit. -/
def bitText (table : List (ℤ × String)) (w bit : Nat) : Option (Nat × String) :=
  if w.testBit bit then (table.lookup (bit : ℤ)).map (bit, ·) else none

/-- The known bits that are set, in increasing order, each with its text. -/
def knownBits (table : List (ℤ × String)) (w : Nat) : List (Nat × String) := (List.range 32).filterMap (bitText table w)

/-- Two lists in the order of their bits, as one. -/
def mergeBits (xs ys : List (Nat × String)) : List (Nat × String) := xs.merge ys fun x y => decide (x.1 ≤ y.1)

/-- The answers for a word and for any two parts of it are the texts of their known bits, and those of
the parts merge to that of the word. -/
structure BitByBit (c : CodeWord) (w : Nat) : Prop where
  texts : c.decode (some w) = (knownBits c.table w).map Prod.snd
  parts : ∀ u v, u &&& v = 0 → u ||| v = w →
    c.decode (some u) = (knownBits c.table u).map Prod.snd ∧ c.decode (some v) = (knownBits c.table v).map Prod.snd ∧
      c.decode (some w) = (mergeBits (knownBits c.table u) (knownBits c.table v)).map Prod.snd

/-- A word that is no code is decoded bit by bit. -/
theorem decode_of_no_code (c : CodeWord) {w : Nat} (h : w = 0 ∨ c.table.lookup (w : ℤ) = none) :
    c.decode (some w) = (knownBits c.table w).map Prod.snd := by
  unfold CodeWord.decode decodeBits
  by_cases hw : w = 0
  · subst hw
    cases c <;> decide +kernel
  · have hnone := h.resolve_left hw
    dsimp only
    rw [if_neg (by exact_mod_cast hw), hnone]
    dsimp only
    unfold knownBits
    rw [List.map_filterMap]
    refine List.filterMap_congr fun bit _ => ?_
    unfold bitText
    show (if w.testBit bit then c.table.lookup (bit : ℤ) else none) = _
    by_cases hbit : w.testBit bit = true
    · rw [if_pos hbit, if_pos hbit, Option.map_map]
      exact (Option.map_id_fun' ▸ rfl)
    · rw [if_neg hbit, if_neg hbit, Option.map_none]

/-- A code of the table is not: its text is another one. -/
theorem decode_of_code (c : CodeWord) {w : Nat} (hw : w ≠ 0) {text : String} (h : c.table.lookup (w : ℤ) = some text) :
    c.decode (some w) ≠ (knownBits c.table w).map Prod.snd := by
  have hdecode : c.decode (some w) = [text] := by
    unfold CodeWord.decode decodeBits
    dsimp only
    rw [if_neg (by exact_mod_cast hw), h]
  have hall : ∀ e ∈ c.table, e.1 ≠ 0 → [e.2] ≠ (knownBits c.table e.1.toNat).map Prod.snd := by
    cases c <;> decide +kernel
  obtain ⟨before, after, hsplit, -⟩ := List.lookup_eq_some_iff.mp h
  rw [hdecode]
  exact hall ((w : ℤ), text) (by rw [hsplit]; exact List.mem_append_right _ List.mem_cons_self)
    (Int.natCast_ne_zero.mpr hw)

/-! ## Parts of a word -/

theorem mergeBits_left {x : Nat × String} {xs ys : List (Nat × String)} (h : ∀ y ∈ ys, x.1 < y.1) :
    mergeBits (x :: xs) ys = x :: mergeBits xs ys := by
  unfold mergeBits
  cases ys with
  | nil => simp
  | cons y ys =>
    have hle := (h y List.mem_cons_self).le
    rw [List.cons_merge_cons_pos _ _ _ (decide_eq_true hle)]

theorem mergeBits_right {y : Nat × String} {xs ys : List (Nat × String)} (h : ∀ x ∈ xs, y.1 < x.1) :
    mergeBits xs (y :: ys) = y :: mergeBits xs ys := by
  unfold mergeBits
  cases xs with
  | nil => simp
  | cons x xs =>
    have hlt := h x List.mem_cons_self
    rw [List.cons_merge_cons_neg _ _ _ (by simpa using hlt)]

theorem bitText_bit {table : List (ℤ × String)} {w bit : Nat} {x : Nat × String} (h : bitText table w bit = some x) :
    x.1 = bit := by
  unfold bitText at h
  split_ifs at h
  obtain ⟨text, -, rfl⟩ := Option.map_eq_some_iff.mp h
  rfl

theorem testBit_of_bitText {table : List (ℤ × String)} {w bit : Nat} {x : Nat × String}
    (h : bitText table w bit = some x) : w.testBit bit = true := by
  by_contra hclear
  rw [bitText, if_neg hclear] at h
  cases h

theorem filterMap_bitText_later {table : List (ℤ × String)} {w bit : Nat} {bits : List Nat} (hlater : ∀ b ∈ bits, bit < b) :
    ∀ y ∈ bits.filterMap (bitText table w), bit < y.1 := by
  intro y hy
  obtain ⟨b, hb, hby⟩ := List.mem_filterMap.mp hy
  rw [bitText_bit hby]
  exact hlater b hb

section
variable (table : List (ℤ × String)) {u v : Nat} (hdisjoint : u &&& v = 0)
include hdisjoint

theorem testBit_disjoint {bit : Nat} (hu : u.testBit bit = true) : v.testBit bit = false := by
  have hand := congrArg (Nat.testBit · bit) hdisjoint
  simpa [Nat.testBit_and, hu] using hand

theorem bitText_or (bit : Nat) : bitText table (u ||| v) bit = (bitText table u bit).or (bitText table v bit) := by
  unfold bitText
  rw [Nat.testBit_or]
  cases hu : u.testBit bit with
  | false => simp
  | true => simp [testBit_disjoint hdisjoint hu]

theorem filterMap_parts {bits : List Nat} (hsorted : bits.Pairwise (· < ·)) : bits.filterMap (bitText table (u ||| v)) =
    mergeBits (bits.filterMap (bitText table u)) (bits.filterMap (bitText table v)) := by
  induction bits with
  | nil => simp [mergeBits]
  | cons bit bits ih =>
    obtain ⟨hlater, hrest⟩ := List.pairwise_cons.mp hsorted
    rw [List.filterMap_cons, List.filterMap_cons, List.filterMap_cons, bitText_or table hdisjoint, ih hrest]
    cases hu : bitText table u bit with
    | some x =>
      have hclear : v.testBit bit = false := testBit_disjoint hdisjoint (testBit_of_bitText hu)
      have hv : bitText table v bit = none := by
        rw [bitText, if_neg (by rw [hclear]; exact Bool.false_ne_true)]
      rw [hv]
      refine (mergeBits_left ?_).symm
      rw [bitText_bit hu]
      exact filterMap_bitText_later hlater
    | none =>
      cases hv : bitText table v bit with
      | none => rfl
      | some y =>
        refine (mergeBits_right ?_).symm
        rw [bitText_bit hv]
        exact filterMap_bitText_later hlater

/-- The bits of two parts without a common bit interleave to those of the whole. -/
theorem knownBits_parts : knownBits table (u ||| v) = mergeBits (knownBits table u) (knownBits table v) :=
  filterMap_parts table hdisjoint List.pairwise_lt_range

end

/-- A part of a word and the rest of it. -/
theorem part_rest {u w : Nat} (h : u &&& w = u) : u &&& (u ^^^ w) = 0 ∧ u ||| (u ^^^ w) = w := by
  have hbits : ∀ bit, u.testBit bit = true → w.testBit bit = true := by
    intro bit hu
    have hand := congrArg (Nat.testBit · bit) h
    simpa [Nat.testBit_and, hu] using hand
  constructor
  · refine Nat.eq_of_testBit_eq fun bit => ?_
    rw [Nat.testBit_and, Nat.testBit_xor, Nat.zero_testBit]
    cases hu : u.testBit bit with
    | false => rfl
    | true => rw [hbits bit hu]; rfl
  · refine Nat.eq_of_testBit_eq fun bit => ?_
    rw [Nat.testBit_or, Nat.testBit_xor]
    cases hu : u.testBit bit with
    | false => simp
    | true => rw [hbits bit hu]; rfl

/-- A word and its parts are decoded bit by bit exactly when no part but 0 is a code of the table. -/
theorem code_bits_iff (c : CodeWord) (lo hi : Nat) : BitByBit c (CodeWord.word lo hi) ↔
    ∀ u, u ≠ 0 → u &&& CodeWord.word lo hi = u → c.table.lookup (u : ℤ) = none := by
  generalize CodeWord.word lo hi = w
  constructor
  · intro h u hu hpart
    by_contra hcode
    obtain ⟨text, htext⟩ := Option.ne_none_iff_exists'.mp hcode
    obtain ⟨hdisjoint, hwhole⟩ := part_rest hpart
    exact decode_of_code c hu htext (h.parts u (u ^^^ w) hdisjoint hwhole).1
  · intro h
    have hparts : ∀ u, u &&& w = u → c.decode (some u) = (knownBits c.table u).map Prod.snd := by
      intro u hpart
      exact decode_of_no_code c ((eq_or_ne u 0).imp_right fun hu => h u hu hpart)
    refine ⟨hparts w (Nat.and_self w), ?_⟩
    rintro u v hdisjoint rfl
    refine ⟨hparts u ?_, hparts v ?_, ?_⟩
    · exact Nat.eq_of_testBit_eq fun bit => by simp +contextual [Nat.testBit_and, Nat.testBit_or]
    · exact Nat.eq_of_testBit_eq fun bit => by simp +contextual [Nat.testBit_and, Nat.testBit_or]
    · rw [hparts _ (Nat.and_self _), knownBits_parts c.table hdisjoint]

/-- Bit 0 of the fault word is set, and the text is that of code 1. -/
theorem bit_zero_mistaken :
    CodeWord.fault.decode (some (CodeWord.word 1 0 : ℤ)) = ["Model fault"] ∧
      knownBits FAULT_CODES (CodeWord.word 1 0) = [(0, "Internal communication failure 1")] ∧
      ¬ BitByBit .fault (CodeWord.word 1 0) := by
  refine ⟨by decide +kernel, by decide +kernel, fun h => ?_⟩
  have hcode : CodeWord.fault.table.lookup (CodeWord.word 1 0 : ℤ) = some "Model fault" := by decide +kernel
  exact decode_of_code .fault (by decide) hcode h.texts

end LuxMon
