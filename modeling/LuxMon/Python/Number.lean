import Mathlib.Tactic
import Mathlib.Data.Int.Log
import Mathlib.Data.Rat.Floor

/-!
# Python numbers

`int` is `ℤ`; `float` is a rational or one of the three special values (`PyFloat`).
What `float` makes of a text or an integer is the nearest double; arithmetic on
floats is exact, and the sign of zero is kept only where a text is printed back.
Comparisons, `max`, `min`, `round` (ties to even), and the conversions between numbers
and text follow the language reference.

    q ≤ n → roundHalfEven q ≤ n                                (roundHalfEven_le)
    Even n → (roundHalfEven q ≤ n ↔ q ≤ n + 1/2)               (roundHalfEven_le_iff)
-/

namespace Python

/-- The exceptions that the modelled code raises or catches. -/
inductive PyErr
  | typeError
  | attributeError
  | overflowError
  | indexError
  | keyError
  | structError
  | valueError (msg : String)
  | osError (msg : String)
  | dbError
  | httpException (status : Nat) (detail : String)
  deriving DecidableEq, Repr

@[simp] theorem ok_bind {ε α β : Type} (a : α) (f : α → Except ε β) :
    (Except.ok a >>= f) = f a := rfl

theorem mapM_ok {ε α β : Type} {f : α → Except ε β} {g : α → β} {as : List α}
    (h : ∀ a ∈ as, f a = .ok (g a)) : as.mapM f = .ok (as.map g) := by
  induction as with
  | nil => rfl
  | cons a as ih =>
    have hrest := ih fun b hb => h b (List.mem_cons_of_mem a hb)
    rw [List.mapM_cons, h a List.mem_cons_self, ok_bind, hrest]
    rfl

theorem bind_eq_ok {ε α β : Type} {x : Except ε α} {f : α → Except ε β} {b : β} :
    (x >>= f) = .ok b ↔ ∃ a, x = .ok a ∧ f a = .ok b := by
  cases x with
  | error e =>
    constructor
    · intro h
      cases h
    · rintro ⟨a, h, -⟩
      cases h
  | ok a =>
    constructor
    · intro h
      exact ⟨a, rfl, h⟩
    · rintro ⟨a', h, hf⟩
      cases h
      exact hf

theorem bind_exists_ok {ε α β : Type} {x : Except ε α} {f : α → Except ε β} (hx : ∃ a, x = .ok a)
    (hf : ∀ a, ∃ b, f a = .ok b) : ∃ b, (x >>= f) = .ok b := by
  obtain ⟨a, rfl⟩ := hx
  exact hf a

/-- Every result of a loop comes from one of its items. -/
theorem mapM_mem {ε α β : Type} {f : α → Except ε β} {as : List α} {bs : List β} {b : β} (h : as.mapM f = .ok bs)
    (hb : b ∈ bs) : ∃ a ∈ as, f a = .ok b := by
  induction as generalizing bs with
  | nil =>
    cases h
    exact (List.not_mem_nil hb).elim
  | cons a as ih =>
    rw [List.mapM_cons] at h
    obtain ⟨c, hc, h⟩ := bind_eq_ok.mp h
    obtain ⟨cs, hcs, h⟩ := bind_eq_ok.mp h
    cases h
    rcases List.mem_cons.mp hb with rfl | hb
    · exact ⟨a, List.mem_cons_self, hc⟩
    · obtain ⟨a', ha', hfa⟩ := ih hcs hb
      exact ⟨a', List.mem_cons_of_mem a ha', hfa⟩

theorem mapM_map {ε α β γ : Type} {f : α → Except ε β} {g : β → γ} {k : α → γ} {as : List α} {bs : List β}
    (h : as.mapM f = .ok bs) (hg : ∀ a b, f a = .ok b → g b = k a) : bs.map g = as.map k := by
  induction as generalizing bs with
  | nil =>
    cases h
    rfl
  | cons a as ih =>
    rw [List.mapM_cons] at h
    obtain ⟨b, hb, h⟩ := bind_eq_ok.mp h
    obtain ⟨bs, hbs, h⟩ := bind_eq_ok.mp h
    cases h
    rw [List.map_cons, List.map_cons, hg a b hb, ih hbs]

theorem mapM_exists_ok {ε α β : Type} {f : α → Except ε β} {as : List α} (h : ∀ a ∈ as, ∃ b, f a = .ok b) :
    ∃ bs, as.mapM f = .ok bs := by
  induction as with
  | nil => exact ⟨[], rfl⟩
  | cons a as ih =>
    obtain ⟨bs, hbs⟩ := ih fun b hb => h b (List.mem_cons_of_mem a hb)
    rw [List.mapM_cons]
    exact bind_exists_ok (h a List.mem_cons_self) fun b => ⟨b :: bs, by rw [hbs]; rfl⟩

/-! ## Rounding -/

/-- `round(q)`: the nearest integer, ties to the even one. -/
def roundHalfEven (q : ℚ) : ℤ :=
  if q - ⌊q⌋ < 1 / 2 then ⌊q⌋
  else if 1 / 2 < q - ⌊q⌋ then ⌊q⌋ + 1
  else if ⌊q⌋ % 2 = 0 then ⌊q⌋ else ⌊q⌋ + 1

theorem roundHalfEven_le {q : ℚ} {n : ℤ} (h : q ≤ n) : roundHalfEven q ≤ n := by
  have hf : ⌊q⌋ ≤ n := by
    have := Int.floor_le_floor h
    rwa [Int.floor_intCast] at this
  by_cases he : ⌊q⌋ = n
  · have hz : q - ⌊q⌋ < 1 / 2 := by
      rw [he]
      linarith
    unfold roundHalfEven
    rw [if_pos hz, he]
  · unfold roundHalfEven
    split_ifs <;> omega

theorem le_roundHalfEven {q : ℚ} {n : ℤ} (h : (n : ℚ) ≤ q) : n ≤ roundHalfEven q := by
  have hf : n ≤ ⌊q⌋ := Int.le_floor.mpr h
  unfold roundHalfEven
  split_ifs <;> omega

@[simp] theorem roundHalfEven_intCast (n : ℤ) : roundHalfEven (n : ℚ) = n :=
  le_antisymm (roundHalfEven_le le_rfl) (le_roundHalfEven le_rfl)

/-- Rounding moves a number by half a unit at most. -/
theorem abs_roundHalfEven_sub_le (q : ℚ) : |(roundHalfEven q : ℚ) - q| ≤ 1 / 2 := by
  have h1 := Int.floor_le q
  have h2 := Int.lt_floor_add_one q
  unfold roundHalfEven
  rw [abs_le]
  split_ifs
  all_goals
    push_cast
    constructor <;> linarith

/-- More than half a unit above a bound is not rounded down to it. -/
theorem lt_roundHalfEven {q : ℚ} {n : ℤ} (h : n + 1 / 2 < q) : n < roundHalfEven q := by
  have herr := (abs_le.mp (abs_roundHalfEven_sub_le q)).1
  have hlt : (n : ℚ) < roundHalfEven q := by linarith
  exact_mod_cast hlt

/-- An even bound is kept exactly by the numbers up to half a unit above it. -/
theorem roundHalfEven_le_iff {q : ℚ} {n : ℤ} (hn : n % 2 = 0) :
    roundHalfEven q ≤ n ↔ q ≤ n + 1 / 2 := by
  constructor
  · intro h
    have herr := (abs_le.mp (abs_roundHalfEven_sub_le q)).1
    have hle : (roundHalfEven q : ℚ) ≤ n := by exact_mod_cast h
    linarith
  · intro h
    by_cases hq : q ≤ n
    · exact roundHalfEven_le hq
    · -- the floor is `n`, which is even
      have hfloor : ⌊q⌋ = n := by
        rw [Int.floor_eq_iff]
        constructor <;> linarith
      have hhalf : ¬ (1 / 2 < q - n) := not_lt.mpr (by linarith)
      unfold roundHalfEven
      rw [hfloor, if_neg hhalf, if_pos hn, ite_self]

/-- An even bound is reached exactly from half a unit below it. -/
theorem le_roundHalfEven_iff {q : ℚ} {n : ℤ} (hn : n % 2 = 0) :
    n ≤ roundHalfEven q ↔ (n : ℚ) - 1 / 2 ≤ q := by
  constructor
  · intro h
    have herr := (abs_le.mp (abs_roundHalfEven_sub_le q)).2
    have hle : (n : ℚ) ≤ roundHalfEven q := by exact_mod_cast h
    linarith
  · intro h
    by_cases hq : (n : ℚ) ≤ q
    · exact le_roundHalfEven hq
    · -- the floor is `n - 1`, which is odd
      have hfloor : ⌊q⌋ = n - 1 := by
        rw [Int.floor_eq_iff]
        push_cast
        constructor <;> linarith
      unfold roundHalfEven
      rw [hfloor, if_neg (by push_cast; linarith)]
      split_ifs <;> omega

/-! ## Doubles -/

/-- The distance of the doubles around `q`. -/
def doubleStep (q : ℚ) : ℚ := 2 ^ max (Int.log 2 |q| - 52) (-1074)

/-- The nearest number of 53 bits, ties to the even one. -/
def nearest (q : ℚ) : ℚ := roundHalfEven (q / doubleStep q) * doubleStep q

/-- `a * b` of two doubles, of integers and literals the nearest ones. -/
def timesDouble (a b : ℚ) : ℚ := nearest (nearest a * nearest b)

/-- No double reaches it. -/
@[irreducible] def doubleLimit : ℚ := 2 ^ 1024

/-- The nearest double. -/
def toDouble (q : ℚ) : Except PyErr ℚ :=
  if doubleLimit ≤ |nearest q| then .error .overflowError else .ok (nearest q)

/-- `c` is rounded to `x`. -/
def readsAs (x c : ℚ) : Bool :=
  match toDouble c with
  | .ok y => y == x
  | .error _ => false

/-- Of the decimals of `n` digits around `x` the nearest one that is rounded to `x`. -/
def decimalOf (x : ℚ) (n : ℕ) : Option ℚ :=
  let unit : ℚ := 10 ^ (Int.log 10 |x| + 1 - n)
  [(roundHalfEven (x / unit) : ℚ) * unit, (⌊x / unit⌋ : ℚ) * unit, ((⌊x / unit⌋ + 1 : ℤ) : ℚ) * unit].find? (readsAs x)

/-- The decimal of the fewest digits that is rounded to a double; 17 digits are always enough.  Any other
number stays as it is. -/
def shortest (x : ℚ) : ℚ := ((List.range 17).findSome? fun n => decimalOf x (n + 1)).getD x

/-! ## Floats -/

/-- A Python float with exact arithmetic. -/
inductive PyFloat
  | nan
  | negInf
  | posInf
  | fin (q : ℚ)
  deriving DecidableEq

namespace PyFloat

/-- `a < b`; every comparison with NaN is false. -/
def lt : PyFloat → PyFloat → Bool
  | .nan, _ => false
  | _, .nan => false
  | .fin a, .fin b => a < b
  | .negInf, .negInf => false
  | .negInf, _ => true
  | .posInf, _ => false
  | .fin _, .negInf => false
  | .fin _, .posInf => true

/-- `a <= b`. -/
def le (a b : PyFloat) : Bool := a.lt b || (a != .nan && a == b)

theorem le_fin (a b : ℚ) : (fin a).le (fin b) = true ↔ a ≤ b := by
  simp [le, lt, le_iff_lt_or_eq]

/-- `max(a, b)`: the first argument unless the second is greater. -/
def max (a b : PyFloat) : PyFloat := if a.lt b then b else a

/-- `min(a, b)`: the first argument unless the second is smaller. -/
def min (a b : PyFloat) : PyFloat := if b.lt a then b else a

/-- `bool(x)`. -/
def truthy (x : PyFloat) : Bool := x != .fin 0

/-- `x / s` for a finite `s ≠ 0`. -/
def divBy (x : PyFloat) (s : ℚ) : PyFloat :=
  match x with
  | .fin q => .fin (q / s)
  | .nan => .nan
  | .posInf => if 0 < s then .posInf else .negInf
  | .negInf => if 0 < s then .negInf else .posInf

/-- `x * s` for a finite `s`. -/
def mulBy (x : PyFloat) (s : ℚ) : PyFloat :=
  match x with
  | .fin q => .fin (q * s)
  | .nan => .nan
  | .posInf => if s = 0 then .nan else if 0 < s then .posInf else .negInf
  | .negInf => if s = 0 then .nan else if 0 < s then .negInf else .posInf

/-- `-x`. -/
def neg : PyFloat → PyFloat
  | .nan => .nan
  | .negInf => .posInf
  | .posInf => .negInf
  | .fin q => .fin (-q)

/-- `a + b`. -/
def add : PyFloat → PyFloat → PyFloat
  | .nan, _ => .nan
  | _, .nan => .nan
  | .fin a, .fin b => .fin (a + b)
  | .fin _, y => y
  | x, .fin _ => x
  | x, y => if x = y then x else .nan

/-- `a - b`. -/
def sub (a b : PyFloat) : PyFloat := a.add b.neg

/-- `a / b` for a positive `b`. -/
def div (a b : PyFloat) : PyFloat :=
  match b with
  | .fin q => a.divBy q
  | .posInf =>
    match a with
    | .fin _ => .fin 0
    | _ => .nan
  | _ => .nan

/-- `round(x, 1)`. -/
def round1 : PyFloat → PyFloat
  | .fin q => .fin (roundHalfEven (q * 10) / 10)
  | x => x

/-- `int(round(x))`. -/
def round : PyFloat → Except PyErr ℤ
  | .fin q => .ok (roundHalfEven q)
  | .nan => .error (.valueError "cannot convert float NaN to integer")
  | _ => .error .overflowError

/-- `int(x)` truncates. -/
def toInt : PyFloat → Except PyErr ℤ
  | .fin q => .ok (q.num.tdiv q.den)
  | .nan => .error (.valueError "cannot convert float NaN to integer")
  | _ => .error .overflowError

end PyFloat

/-! ## Text -/

/-- Decimal digits of `rem / den`, at most `n` of them. -/
def fracDigits (den : Nat) : Nat → Nat → List Char
  | 0, _ => []
  | n + 1, rem =>
    if rem = 0 then [] else
      Nat.digitChar (rem * 10 / den) :: fracDigits den n (rem * 10 % den)

/-- What stands behind the point of `n / d`: all digits of a decimal, 17 or more of another number. -/
def fracPart (n d : Nat) : List Char := fracDigits d (17 + d.log2) (n % d)

/-- `n / d` with a point. -/
def positional (n d : Nat) : String :=
  toString (n / d) ++ "." ++ String.ofList (if (fracPart n d).isEmpty then ['0'] else fracPart n d)

/-- `n / d` with one digit before the point, and an exponent of at least two digits. -/
def scientific (n d : Nat) : String :=
  let e := Int.log 10 ((n : ℚ) / d)
  let m := (n : ℚ) / d / 10 ^ e
  let frac := fracPart m.num.natAbs m.den
  toString (m.num.natAbs / m.den) ++ (if frac.isEmpty then "" else "." ++ String.ofList frac) ++ "e" ++
    (if e < 0 then "-" else "+") ++ (if e.natAbs < 10 then "0" else "") ++ toString e.natAbs

/-- `n / d` without a sign: the exponent is shown below 0.0001 and from 1e16 on. -/
def magnitude (n d : Nat) : String :=
  if n = 0 ∨ (d ≤ n * 10 ^ 4 ∧ n < d * 10 ^ 16) then positional n d else scientific n d

/-- A decimal with its sign. -/
def decimalText (q : ℚ) : String := (if q < 0 then "-" else "") ++ magnitude q.num.natAbs q.den

/-- `repr(x)`. -/
def PyFloat.repr : PyFloat → String
  | .nan => "nan"
  | .negInf => "-inf"
  | .posInf => "inf"
  | .fin q => decimalText (shortest q)

/-- `f"{x:.1f}"`. -/
def PyFloat.fixed1 : PyFloat → String
  | .fin q =>
    let tenths := roundHalfEven (q * 10)
    (if q < 0 then "-" else "") ++ toString (tenths.natAbs / 10) ++ "." ++
      toString (tenths.natAbs % 10)
  | x => x.repr

/-- `f"{x:.0f}"`. -/
def PyFloat.fixed0 : PyFloat → String
  | .fin q => (if q < 0 then "-" else "") ++ toString (roundHalfEven q).natAbs
  | x => x.repr

/-- Code points of white space beyond ASCII. -/
def wideSpaces : List Nat := [
  0x85, 0xa0, 0x1680, 0x2000, 0x2001, 0x2002, 0x2003, 0x2004, 0x2005, 0x2006, 0x2007, 0x2008, 0x2009, 0x200a,
  0x2028, 0x2029, 0x202f, 0x205f, 0x3000]

/-- White space around a number. -/
def isNumberSpace (c : Char) : Bool :=
  if c.toNat < 128 then c.toNat = 32 || (9 ≤ c.toNat && c.toNat ≤ 13) else wideSpaces.contains c.toNat

/-- `str.isspace` of a character: the four separators below the blank count as well. -/
def isSpaceChar (c : Char) : Bool := isNumberSpace c || (28 ≤ c.toNat && c.toNat ≤ 31)

/-- A text without the characters at both ends. -/
def stripWhile (p : Char → Bool) (cs : List Char) : List Char := ((cs.dropWhile p).reverse.dropWhile p).reverse

/-- `s.strip()` on the characters. -/
def strip (cs : List Char) : List Char := stripWhile isSpaceChar cs

/-- The code points of the zeros of the other scripts (Unicode 14); nine digits follow each. -/
def wideZeros : List Nat := [
  0x660, 0x6f0, 0x7c0, 0x966, 0x9e6, 0xa66, 0xae6, 0xb66, 0xbe6, 0xc66, 0xce6,
  0xd66, 0xde6, 0xe50, 0xed0, 0xf20, 0x1040, 0x1090, 0x17e0, 0x1810, 0x1946, 0x19d0,
  0x1a80, 0x1a90, 0x1b50, 0x1bb0, 0x1c40, 0x1c50, 0xa620, 0xa8d0, 0xa900, 0xa9d0, 0xa9f0,
  0xaa50, 0xabf0, 0xff10, 0x104a0, 0x10d30, 0x11066, 0x110f0, 0x11136, 0x111d0, 0x112f0, 0x11450,
  0x114d0, 0x11650, 0x116c0, 0x11730, 0x118e0, 0x11950, 0x11c50, 0x11d50, 0x11da0, 0x16a60, 0x16ac0,
  0x16b50, 0x1d7ce, 0x1d7d8, 0x1d7e2, 0x1d7ec, 0x1d7f6, 0x1e140, 0x1e2f0, 0x1e950, 0x1fbf0]

/-- The value of a decimal digit. -/
def digitValue (c : Char) : Option Nat :=
  if c.isDigit then some (c.toNat - 48)
  else if c.toNat < 128 then none
  else (wideZeros.find? fun z => z ≤ c.toNat && c.toNat < z + 10).map (c.toNat - ·)

/-- Leading digits (single underscores may stand between two digits): their
value, their number, and the rest. -/
def readDigits (acc count : Nat) : List Char → Nat × Nat × List Char
  | [] => (acc, count, [])
  | '_' :: d :: cs =>
    match digitValue d with
    | some v =>
      if count != 0 then readDigits (acc * 10 + v) (count + 1) cs else (acc, count, '_' :: d :: cs)
    | none => (acc, count, '_' :: d :: cs)
  | c :: cs =>
    match digitValue c with
    | some v => readDigits (acc * 10 + v) (count + 1) cs
    | none => (acc, count, c :: cs)

/-- A leading sign: whether it is a minus, and the rest. -/
def readSign : List Char → Bool × List Char
  | '-' :: cs => (true, cs)
  | '+' :: cs => (false, cs)
  | cs => (false, cs)

/-- `int(s)`. -/
def intOfString (s : String) : Except PyErr ℤ :=
  let (neg, cs) := readSign (stripWhile isNumberSpace s.toList)
  match readDigits 0 0 cs with
  | (n, count, []) =>
    if count = 0 then .error (.valueError s!"invalid literal for int() with base 10: '{s}'")
    else .ok (if neg then -(n : ℤ) else n)
  | _ => .error (.valueError s!"invalid literal for int() with base 10: '{s}'")

/-- The exponent part `e±ddd` of a float literal, to the end of the text. -/
def readExponent : List Char → Option ℤ
  | [] => some 0
  | c :: cs =>
    if c.toLower = 'e' then
      let (neg, ds) := readSign cs
      match readDigits 0 0 ds with
      | (n, count, []) => if count = 0 then none else some (if neg then -(n : ℤ) else n)
      | _ => none
    else none

/-- A decimal number without its sign. -/
def readDecimal (cs : List Char) : Option ℚ :=
  let (whole, n, rest) := readDigits 0 0 cs
  let (all, m, rest) :=
    match rest with
    | '.' :: fs =>
      let (f, m, rest) := readDigits 0 0 fs
      (whole * 10 ^ m + f, m, rest)
    | _ => (whole, 0, rest)
  if n + m = 0 then none else (readExponent rest).map fun e => (all : ℚ) / 10 ^ m * (10 : ℚ) ^ e

/-- The number that `float(s)` rounds. -/
def readFloat (s : String) : Except PyErr PyFloat :=
  let (neg, cs) := readSign (stripWhile isNumberSpace s.toList)
  let word := String.ofList (cs.map Char.toLower)
  if word = "nan" then .ok .nan
  else if word = "inf" ∨ word = "infinity" then .ok (if neg then .negInf else .posInf)
  else
    match readDecimal cs with
    | some q => .ok (.fin (if neg then -q else q))
    | none => .error (.valueError s!"could not convert string to float: '{s}'")

/-- `float(x)` of a number. -/
def PyFloat.toFloat : PyFloat → Except PyErr PyFloat
  | .fin q => (toDouble q).map .fin
  | x => .ok x

/-- The nearest double, or an infinity beyond the doubles. -/
def PyFloat.rounded : PyFloat → PyFloat
  | .fin q =>
    match toDouble q with
    | .ok x => .fin x
    | .error _ => if q < 0 then .negInf else .posInf
  | x => x

/-- `float(s)`. -/
def floatOfString (s : String) : Except PyErr PyFloat := (readFloat s).map PyFloat.rounded

/-- The text begins with a minus. -/
def hasMinus (s : String) : Bool := (readSign (stripWhile isNumberSpace s.toList)).1

/-- `str(float(s))` for `float(s) = x`: zero has the sign of its text. -/
def PyFloat.textFrom (s : String) (x : PyFloat) : String := if hasMinus s && x == .fin 0 then "-0.0" else x.repr

end Python
