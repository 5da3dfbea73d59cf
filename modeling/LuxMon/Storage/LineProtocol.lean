import LuxMon.Framing.Escape
import LuxMon.Python.Double
import LuxMon.Storage.Outputs

/-!
# The text of a line for InfluxDB

`_to_line` puts a backslash before the delimiters of names and tags, and writes field strings between
double quotes.  A reader that splits the line at the delimiters without a backslash gets back what was written.
Numbers go through `float`: two numbers with the same nearest double give the same line.

    the line of a point whose numbers are doubles reads as the point, so no other has it     (toLine_unambiguous)
    with 2^53 and 2^53 + 1 as values there is one line                                    (two_points_one_line)
-/

namespace LuxMon.LineProtocol

open Python Framing

/-! ## Algorithm -/

/-- The value of a field; a number may be NaN. -/
inductive FieldValue
  | bool (b : Bool)
  | text (s : String)
  | number (x : PyFloat)
  | none
  deriving DecidableEq

/-- `s.replace(old, new)` for one character. -/
def replace (old : Char) (new : List Char) (s : List Char) : List Char := s.flatMap fun c => if c = old then new else [c]

/-- `_escape_influx`. -/
def escapeInflux (s : String) : List Char :=
  replace '=' ['\\', '='] (replace ',' ['\\', ','] (replace ' ' ['\\', ' '] (replace '\\' ['\\', '\\'] s.toList)))

/-- `'"' + v.replace("\\", "\\\\").replace('"', '\\"') + '"'`. -/
def quoted (s : String) : List Char := ['"'] ++ replace '"' ['\\', '"'] (replace '\\' ['\\', '\\'] s.toList) ++ ['"']

/-- `v_str`; a missing value and NaN have none. -/
def valueText : FieldValue → Except PyErr (Option (List Char))
  | .bool b => return some (if b then ['t'] else ['f'])
  | .text s => return some (quoted s)
  | .none => return none
  | .number .nan => return none
  | .number x => do
    let v ← x.toFloat
    return some v.repr.toList

/-- `field_parts`. -/
def fieldParts : List (String × FieldValue) → Except PyErr (List (List Char))
  | [] => return []
  | (k, v) :: fields => do
    let text ← valueText v
    let parts ← fieldParts fields
    match text with
    | some text => return (escapeInflux k ++ ['='] ++ text) :: parts
    | none => return parts

/-- `tag_str`. -/
def tagText (tags : List (String × Option String)) : List Char :=
  tags.flatMap fun
    | (k, some v) => if v ≠ "" then [','] ++ escapeInflux k ++ ['='] ++ escapeInflux v else []
    | (_, none) => []

/-- What `_to_line` is given. -/
structure Point where
  measurement : String
  tags : Dict String (Option String)
  fields : Dict String FieldValue
  tsNs : ℤ

/-- `_to_line`. -/
def toLine (p : Point) : Except PyErr String := do
  let parts ← fieldParts p.fields.entries
  if parts.isEmpty then return ""
  return String.ofList (escapeInflux p.measurement ++ tagText p.tags.entries ++ [' '] ++ [','].intercalate parts ++ [' '] ++
    (toString p.tsNs).toList)

/-! ## Reading a line -/

/-- What a line says. -/
structure Written where
  measurement : String
  tags : List (String × String)
  fields : List (String × FieldValue)
  tsNs : ℤ
  deriving DecidableEq

def delimiter (c : Char) : Bool := c = ' ' || c = ',' || c = '='

/-- Up to the next delimiter without a backslash. -/
def readName (cs : List Char) : String × List Char :=
  (String.ofList (readUntil '\\' delimiter cs).1, (readUntil '\\' delimiter cs).2)

/-- A value without quotes. -/
def readBare (s : String) : Option FieldValue :=
  if s = "t" then some (.bool true)
  else if s = "f" then some (.bool false)
  else match floatOfString s with
    | .ok x => some (.number x)
    | .error _ => none

/-- A value: a string up to the next quote without a backslash, or what stands before the next delimiter. -/
def readValue : List Char → Option (FieldValue × List Char)
  | '"' :: cs =>
    match readUntil '\\' (fun c => c = '"') cs with
    | (s, '"' :: rest) => some (.text (String.ofList s), rest)
    | _ => none
  | cs => (readBare (readName cs).1).map fun v => (v, (readName cs).2)

/-- Tags, each behind a comma. -/
def readTags : ℕ → List Char → Option (List (String × String) × List Char)
  | n + 1, ',' :: cs =>
    match readName cs with
    | (k, '=' :: cs) => (readTags n (readName cs).2).map fun x => ((k, (readName cs).1) :: x.1, x.2)
    | _ => none
  | _, cs => some ([], cs)

/-- Fields, with commas between them. -/
def readFields : ℕ → List Char → Option (List (String × FieldValue) × List Char)
  | 0, _ => none
  | n + 1, cs =>
    match readName cs with
    | (k, '=' :: cs) =>
      match readValue cs with
      | some (v, ',' :: cs) => (readFields n cs).map fun x => ((k, v) :: x.1, x.2)
      | some (v, cs) => some ([(k, v)], cs)
      | none => none
    | _ => none

/-- Measurement and tags, a blank, fields, a blank, and the time. -/
def readLine (line : String) : Option Written := do
  let (measurement, cs) := readName line.toList
  let (tags, cs) ← readTags cs.length cs
  match cs with
  | ' ' :: cs =>
    let (fields, cs) ← readFields cs.length cs
    match cs with
    | ' ' :: cs =>
      let tsNs ← (intOfString (String.ofList cs)).toOption
      return { measurement := measurement, tags := tags, fields := fields, tsNs := tsNs }
    | _ => none
  | _ => none

/-! ## What is kept of a point -/

/-- Neither missing nor NaN. -/
def FieldValue.present : FieldValue → Bool
  | .none => false
  | .number .nan => false
  | _ => true

def keptTags (tags : List (String × Option String)) : List (String × String) :=
  tags.filterMap fun t => (t.2.filter fun v => v ≠ "").map fun v => (t.1, v)

def keptFields (fields : List (String × FieldValue)) : List (String × FieldValue) := fields.filter fun f => f.2.present

/-- The point without empty tags and missing values. -/
def Point.kept (p : Point) : Written where
  measurement := p.measurement
  tags := keptTags p.tags.entries
  fields := keptFields p.fields.entries
  tsNs := p.tsNs

/-- The parts of a line, as the outputs hold them, are what is kept. -/
theorem line_kept {measurement : String} {tags : List (String × String)} {fields : List (String × PyFloat)} {line : Line}
    (h : LuxMon.toLine measurement tags fields = some line) :
    line.tags = keptTags (tags.map fun t => (t.1, some t.2)) ∧
      (line.fields.map fun f => (f.1, FieldValue.number f.2)) = keptFields (fields.map fun f => (f.1, .number f.2)) := by
  unfold LuxMon.toLine at h
  dsimp only at h
  split_ifs at h
  obtain rfl := Option.some.inj h
  have hpresent (x : PyFloat) : (FieldValue.number x).present = (x != .nan) := by cases x <;> rfl
  constructor
  · show tags.filter (fun t => t.2 != "") = keptTags _
    unfold keptTags
    rw [List.filterMap_map, ← List.filterMap_eq_filter]
    refine congrArg (fun f => tags.filterMap f) (funext fun t => ?_)
    by_cases ht : t.2 = "" <;> simp [Option.guard, ht]
  · unfold keptFields
    simp only [List.filter_map, Function.comp_def, hpresent]

/-- A float holds the value as it is. -/
def FieldValue.Exact : FieldValue → Prop
  | .number (.fin q) => IsDouble q
  | .number .posInf | .number .negInf => False
  | _ => True

/-! ## Escapes -/

/-- The characters that `_escape_influx` puts a backslash before. -/
def special (c : Char) : Bool := c = '\\' || c = ' ' || c = ',' || c = '='

theorem replace_eq_escape (c : Char) (s : List Char) : replace c ['\\', c] s = s.flatMap (mark '\\' fun a => a = c) := by
  unfold replace mark
  congr 1
  funext a
  by_cases h : a = c <;> simp [h]

/-- The four replacements do not touch each other's backslashes. -/
theorem escapeInflux_eq (s : String) : escapeInflux s = escape '\\' special s.toList := by
  unfold escapeInflux
  rw [replace_eq_escape, replace_eq_escape, replace_eq_escape, replace_eq_escape]
  show (((escape '\\' _ s.toList).flatMap _).flatMap _).flatMap _ = _
  rw [escape_flatMap (by decide) (by decide), escape_flatMap (by decide) (by decide), escape_flatMap (by decide) (by decide)]
  rfl

theorem quoted_eq (s : String) : quoted s = '"' :: (escape '\\' (fun c => c = '\\' || c = '"') s.toList ++ ['"']) := by
  unfold quoted
  rw [replace_eq_escape, replace_eq_escape]
  show ['"'] ++ (escape '\\' _ s.toList).flatMap _ ++ ['"'] = _
  rw [escape_flatMap (by decide) (by decide)]
  rfl

theorem readName_escapeInflux (s : String) {rest : List Char} (h : Ends delimiter rest) :
    readName (escapeInflux s ++ rest) = (s, rest) := by
  have hspecial : ∀ c, delimiter c = true → special c = true := by
    intro c hc
    unfold delimiter at hc
    unfold special
    simp only [Bool.or_eq_true, decide_eq_true_eq] at hc ⊢
    tauto
  unfold readName
  rw [escapeInflux_eq, readUntil_escape (by decide) (by decide) hspecial _ h, String.ofList_toList]

/-! ## Values -/

/-- Without a quote in front. -/
theorem readValue_name {cs : List Char} (h : cs.head? ≠ some '"') :
    readValue cs = (readBare (readName cs).1).map fun v => (v, (readName cs).2) :=
  readValue.eq_2 cs fun _ hcs => h (by rw [hcs]; rfl)

theorem readValue_bare {text rest : List Char} {v : FieldValue} (hplain : ∀ c ∈ text, special c = false ∧ c ≠ '"')
    (hread : readBare (String.ofList text) = some v) (h : Ends delimiter rest) :
    readValue (text ++ rest) = some (v, rest) := by
  have hname := readName_escapeInflux (String.ofList text) h
  rw [escapeInflux_eq, String.toList_ofList, escape_plain fun c hc => (hplain c hc).1] at hname
  have hquote : (text ++ rest).head? ≠ some '"' := by
    cases text with
    | nil => exact fun hhead => absurd (h '"' hhead) (by decide)
    | cons c text => exact fun hhead => (hplain c List.mem_cons_self).2 (Option.some.inj hhead)
  rw [readValue_name hquote, hname, hread]
  rfl

theorem readValue_quoted (s : String) (rest : List Char) : readValue (quoted s ++ rest) = some (.text s, rest) := by
  have hread : readUntil '\\' (fun c => c = '"') (escape '\\' (fun c => c = '\\' || c = '"') s.toList ++ '"' :: rest) =
      (s.toList, '"' :: rest) :=
    readUntil_escape (by decide) (by decide) (by simp) _ (ends_cons (by decide) rest)
  rw [quoted_eq, List.cons_append, List.append_assoc, List.singleton_append, readValue, hread]
  simp only [String.ofList_toList]

/-- The text of a double is plain, and is read as the double. -/
theorem readValue_number {q : ℚ} (hq : IsDouble q) {rest : List Char} (h : Ends delimiter rest) :
    readValue ((PyFloat.fin q).repr.toList ++ rest) = some (.number (.fin q), rest) := by
  have hchars : ∀ c ∈ (PyFloat.fin q).repr.toList, c.isDigit = true ∨ c ∈ ['.', 'e', '+', '-'] := repr_plain _
  -- no delimiter, no quote, and neither word of a boolean
  have hother {c : Char} (hdigit : c.isDigit = false) (hmark : c ∉ ['.', 'e', '+', '-']) :
      c ∉ (PyFloat.fin q).repr.toList := by
    intro hc
    rcases hchars c hc with hd | hm
    · rw [hdigit] at hd
      cases hd
    · exact hmark hm
  have hplain : ∀ c ∈ (PyFloat.fin q).repr.toList, special c = false ∧ c ≠ '"' := by
    intro c hc
    refine ⟨Bool.eq_false_iff.mpr fun hspecial => ?_, ?_⟩
    · unfold special at hspecial
      simp only [Bool.or_eq_true, decide_eq_true_eq] at hspecial
      rcases hspecial with ((rfl | rfl) | rfl) | rfl <;> exact hother (by decide) (by decide) hc
    · rintro rfl
      exact hother (by decide) (by decide) hc
  refine readValue_bare hplain ?_ h
  have ht : (PyFloat.fin q).repr ≠ "t" := fun heq => hother (c := 't') (by decide) (by decide) (by rw [heq]; decide)
  have hf : (PyFloat.fin q).repr ≠ "f" := fun heq => hother (c := 'f') (by decide) (by decide) (by rw [heq]; decide)
  unfold readBare
  rw [String.ofList_toList, if_neg ht, if_neg hf, floatOfString_repr hq]

theorem valueText_fin (q : ℚ) :
    valueText (.number (.fin q)) = (toDouble q).map fun v => some (PyFloat.fin v).repr.toList := by
  show ((toDouble q).map PyFloat.fin >>= fun v => return some v.repr.toList) = _
  cases toDouble q <;> rfl

/-- A value that is left out has no text; any other is read back from its text. -/
theorem valueText_spec {v : FieldValue} (h : v.Exact) : (v.present = false ∧ valueText v = .ok none) ∨
    v.present = true ∧ ∃ text, valueText v = .ok (some text) ∧
      ∀ rest, Ends delimiter rest → readValue (text ++ rest) = some (v, rest) := by
  cases v with
  | none => exact Or.inl ⟨rfl, rfl⟩
  | bool b =>
    have hplain : ∀ c ∈ (if b then ['t'] else ['f']), special c = false ∧ c ≠ '"' := by
      cases b <;> simp [special]
    refine Or.inr ⟨rfl, _, rfl, fun rest hrest => readValue_bare hplain ?_ hrest⟩
    cases b <;> rfl
  | text s => exact Or.inr ⟨rfl, _, rfl, fun rest _ => readValue_quoted s rest⟩
  | number x =>
    cases x with
    | nan => exact Or.inl ⟨rfl, rfl⟩
    | posInf => exact h.elim
    | negInf => exact h.elim
    | fin q =>
      have hq : toDouble q = .ok q := h
      refine Or.inr ⟨rfl, (PyFloat.fin q).repr.toList, ?_, fun rest hrest => readValue_number hq hrest⟩
      rw [valueText_fin, hq]
      rfl

/-! ## Fields and tags -/

/-- The text of a field: its name, and a value that is read back. -/
def FieldPart (part : List Char) (f : String × FieldValue) : Prop :=
  ∃ text, part = escapeInflux f.1 ++ '=' :: text ∧ ∀ rest, Ends delimiter rest → readValue (text ++ rest) = some (f.2, rest)

theorem fieldParts_spec {fields : List (String × FieldValue)} (h : ∀ f ∈ fields, f.2.Exact) :
    ∃ parts, fieldParts fields = .ok parts ∧ List.Forall₂ FieldPart parts (keptFields fields) := by
  induction fields with
  | nil => exact ⟨[], rfl, .nil⟩
  | cons f fields ih =>
    obtain ⟨parts, hparts, hall⟩ := ih fun g hg => h g (List.mem_cons_of_mem _ hg)
    rw [fieldParts, hparts]
    rcases valueText_spec (h f List.mem_cons_self) with ⟨habsent, htext⟩ | ⟨hpresent, text, htext, hread⟩
    · refine ⟨parts, by rw [htext]; rfl, ?_⟩
      rwa [keptFields, List.filter_cons_of_neg (by simp [habsent])]
    · refine ⟨(escapeInflux f.1 ++ ['='] ++ text) :: parts, by rw [htext]; rfl, ?_⟩
      rw [show keptFields (f :: fields) = f :: keptFields fields from List.filter_cons_of_pos hpresent]
      exact .cons ⟨text, by rw [List.append_assoc, List.singleton_append], hread⟩ hall

theorem FieldPart.readName {part : List Char} {f : String × FieldValue} (h : FieldPart part f) (rest : List Char) :
    ∃ text, readName (part ++ rest) = (f.1, '=' :: (text ++ rest)) ∧
      (Ends delimiter rest → readValue (text ++ rest) = some (f.2, rest)) := by
  obtain ⟨text, hpart, hread⟩ := h
  refine ⟨text, ?_, hread rest⟩
  rw [hpart, List.append_assoc, List.cons_append]
  exact readName_escapeInflux f.1 (ends_cons (by decide) _)

theorem FieldPart.pos {part : List Char} {f : String × FieldValue} (h : FieldPart part f) : 0 < part.length := by
  obtain ⟨text, hpart, -⟩ := h
  rw [hpart, List.length_append, List.length_cons]
  omega

/-- By induction on the fields: a comma leads to the next one, a blank ends them. -/
theorem readFields_parts {parts : List (List Char)} {fields : List (String × FieldValue)}
    (h : List.Forall₂ FieldPart parts fields) (hne : parts ≠ []) {n : ℕ} (hn : fields.length ≤ n) (rest : List Char) :
    readFields n ([','].intercalate parts ++ ' ' :: rest) = some (fields, ' ' :: rest) := by
  induction h generalizing n with
  | nil => exact absurd rfl hne
  | @cons part f parts fields hpart hrest ih =>
    obtain ⟨n, rfl⟩ := Nat.exists_eq_succ_of_ne_zero (n := n) (by rw [List.length_cons] at hn; omega)
    cases hrest with
    | nil =>
      obtain ⟨text, hname, hread⟩ := hpart.readName (' ' :: rest)
      rw [List.intercalate_singleton, readFields, hname]
      simp only [hread (ends_cons (by decide) rest)]
      rfl
    | @cons part' f' parts fields hpart' hrest =>
      obtain ⟨text, hname, hread⟩ := hpart.readName (',' :: ([','].intercalate (part' :: parts) ++ ' ' :: rest))
      have hlater := ih (by simp) (n := n) (by simp only [List.length_cons] at hn ⊢; omega)
      rw [List.intercalate_cons_cons, List.append_assoc, List.append_assoc, List.singleton_append, readFields, hname]
      simp only [hread (ends_cons (by decide) _), hlater]
      rfl

/-- An empty tag or a missing one leaves nothing; another one is behind a comma. -/
theorem tag_cases (t : String × Option String) (tags : List (String × Option String)) :
    (tagText (t :: tags) = tagText tags ∧ keptTags (t :: tags) = keptTags tags) ∨
      ∃ v, tagText (t :: tags) = ',' :: (escapeInflux t.1 ++ '=' :: (escapeInflux v ++ tagText tags)) ∧
        keptTags (t :: tags) = (t.1, v) :: keptTags tags := by
  obtain ⟨k, v⟩ := t
  cases v with
  | none => exact Or.inl ⟨rfl, rfl⟩
  | some v =>
    unfold tagText keptTags
    by_cases hv : v = ""
    · subst hv
      exact Or.inl ⟨rfl, rfl⟩
    · exact Or.inr ⟨v, by simp [hv], by simp [hv]⟩

theorem ends_tagText (tags : List (String × Option String)) (rest : List Char) :
    Ends delimiter (tagText tags ++ ' ' :: rest) := by
  induction tags with
  | nil => exact ends_cons (by decide) rest
  | cons t tags ih =>
    rcases tag_cases t tags with ⟨htext, -⟩ | ⟨v, htext, -⟩
    · rwa [htext]
    · rw [htext]
      exact ends_cons (by decide) _

theorem readTags_tagText (tags : List (String × Option String)) {n : ℕ} (hn : (keptTags tags).length ≤ n)
    (rest : List Char) :
    readTags n (tagText tags ++ ' ' :: rest) = some (keptTags tags, ' ' :: rest) := by
  induction tags generalizing n with
  | nil => cases n <;> rfl
  | cons t tags ih =>
    rcases tag_cases t tags with ⟨htext, hkept⟩ | ⟨v, htext, hkept⟩
    · rw [hkept] at hn ⊢
      rw [htext]
      exact ih hn
    · rw [hkept, List.length_cons] at hn
      obtain ⟨n, rfl⟩ := Nat.exists_eq_succ_of_ne_zero (show n ≠ 0 by omega)
      have hkey : readName (escapeInflux t.1 ++ '=' :: (escapeInflux v ++ (tagText tags ++ ' ' :: rest))) = (t.1, _) :=
        readName_escapeInflux t.1 (ends_cons (by decide) _)
      have hvalue := readName_escapeInflux v (ends_tagText tags rest)
      rw [htext, hkept, List.cons_append, List.append_assoc, List.cons_append, List.append_assoc, readTags, hkey]
      simp only [hvalue]
      rw [ih (by omega)]
      rfl

/-- There are at least as many characters as tags. -/
theorem length_keptTags (tags : List (String × Option String)) : (keptTags tags).length ≤ (tagText tags).length := by
  induction tags with
  | nil => exact le_rfl
  | cons t tags ih =>
    rcases tag_cases t tags with ⟨htext, hkept⟩ | ⟨v, htext, hkept⟩
    · rwa [htext, hkept]
    · rw [htext, hkept]
      simp only [List.length_cons, List.length_append]
      omega

theorem length_intercalate {parts : List (List Char)} {fields : List (String × FieldValue)}
    (h : List.Forall₂ FieldPart parts fields) : fields.length ≤ ([','].intercalate parts).length := by
  induction h with
  | nil => exact le_rfl
  | @cons part f parts fields hpart hrest ih =>
    have hpos := hpart.pos
    cases parts with
    | nil =>
      cases hrest
      rw [List.intercalate_singleton]
      exact hpos
    | cons part' parts =>
      rw [List.intercalate_cons_cons]
      simp only [List.length_cons, List.length_append] at ih ⊢
      omega

/-! ## There and back -/

/-- What the parts of a line are read as. -/
theorem readLine_parts {line : List Char} {measurement : String} {tags : List (String × Option String)}
    {parts : List (List Char)} {fields : List (String × FieldValue)} (h : List.Forall₂ FieldPart parts fields)
    (hne : parts ≠ []) (tsNs : ℤ) (hline : line = escapeInflux measurement ++ (tagText tags ++ ' ' :: ([','].intercalate parts ++ ' ' ::
      (toString tsNs).toList))) :
    readLine (String.ofList line) =
      some { measurement := measurement, tags := keptTags tags, fields := fields, tsNs := tsNs } := by
  have hname := readName_escapeInflux measurement
    (ends_tagText tags ([','].intercalate parts ++ ' ' :: (toString tsNs).toList))
  have htags := readTags_tagText tags (n := (tagText tags ++ ' ' :: ([','].intercalate parts ++ ' ' ::
    (toString tsNs).toList)).length) (by have := length_keptTags tags; rw [List.length_append]; omega)
    ([','].intercalate parts ++ ' ' :: (toString tsNs).toList)
  have hfields := readFields_parts h hne (n := ([','].intercalate parts ++ ' ' :: (toString tsNs).toList).length)
    (by have := length_intercalate h; rw [List.length_append]; omega) (toString tsNs).toList
  have hts : (intOfString (String.ofList (toString tsNs).toList)).toOption = some tsNs := by
    rw [String.ofList_toList, intOfString_toString]
    rfl
  unfold readLine
  rw [String.toList_ofList, hline, hname]
  simp only [htags, Option.bind_eq_bind, Option.bind_some, hfields, hts]
  rfl

/-- The line of a point with a field, whose numbers are doubles, says what is kept of the point. -/
theorem readLine_toLine {p : Point} (hexact : ∀ f ∈ p.fields.entries, f.2.Exact) (hleft : p.kept.fields ≠ []) :
    ∃ line, toLine p = .ok line ∧ readLine line = some p.kept := by
  obtain ⟨parts, hparts, hall⟩ := fieldParts_spec hexact
  have hne : parts ≠ [] := by
    rintro rfl
    have hnil : keptFields p.fields.entries = [] := List.forall₂_nil_left_iff.mp hall
    exact hleft hnil
  refine ⟨_, by unfold toLine; rw [hparts, ok_bind, if_neg (by simpa using hne)]; rfl, ?_⟩
  exact readLine_parts hall hne p.tsNs (by simp)

/-- Points with a field left and doubles for numbers: each is what its line says, and no two of them have one line. -/
theorem toLine_unambiguous (p : Point) (hexact : ∀ f ∈ p.fields.entries, f.2.Exact) (hleft : p.kept.fields ≠ []) :
    (∃ line, toLine p = .ok line ∧ readLine line = some p.kept) ∧
      ∀ p' : Point, (∀ f ∈ p'.fields.entries, f.2.Exact) → p'.kept.fields ≠ [] → toLine p' = toLine p →
        p'.kept = p.kept := by
  obtain ⟨line, hline, hread⟩ := readLine_toLine hexact hleft
  refine ⟨⟨line, hline, hread⟩, fun p' hexact' hleft' hsame => ?_⟩
  obtain ⟨line', hline', hread'⟩ := readLine_toLine hexact' hleft'
  rw [hsame, hline] at hline'
  rw [← Except.ok.inj hline', hread] at hread'
  exact (Option.some.inj hread').symm

/-- A name with a blank, a tag that ends with a backslash, a string with a quote, and a number. -/
def delimiters : Point where
  measurement := "Grid power"
  tags := (Dict.empty.set "name" (some "a,b=\\")).set "unit" (some "")
  fields := (Dict.empty.set "label" (.text "say \"hi\"")).set "value" (.number (.fin (1 / 2)))
  tsNs := 1700000000000000000

example : toLine delimiters =
    .ok "Grid\\ power,name=a\\,b\\=\\\\ label=\"say \\\"hi\\\"\",value=0.5 1700000000000000000" := by decide +kernel

theorem delimiters_unambiguous : (∃ line, toLine delimiters = .ok line ∧ readLine line = some delimiters.kept) ∧
    ∀ p' : Point, (∀ f ∈ p'.fields.entries, f.2.Exact) → p'.kept.fields ≠ [] → toLine p' = toLine delimiters →
      p'.kept = delimiters.kept := by
  have hhalf : IsDouble (1 / 2) := by
    unfold IsDouble
    decide +kernel
  refine toLine_unambiguous delimiters ?_ (by decide)
  intro f hf
  rcases List.mem_cons.mp hf with rfl | hf
  · trivial
  · obtain rfl := List.mem_singleton.mp hf
    exact hhalf

/-! ## Numbers with one nearest double -/

/-- The strings of a point. -/
def Point.strings (p : Point) : List String :=
  p.measurement :: (p.tags.entries.flatMap fun t => t.1 :: t.2.toList) ++
    p.fields.entries.flatMap fun f => match f.2 with
      | .text s => [f.1, s]
      | _ => [f.1]

/-- No newline in a string, numbers that are rationals, and a field that is left. -/
structure Point.Finite (p : Point) : Prop where
  oneLine : ∀ s ∈ p.strings, '\n' ∉ s.toList
  finite : ∀ f ∈ p.fields.entries, f.2 ≠ .number .posInf ∧ f.2 ≠ .number .negInf
  left : p.kept.fields ≠ []

/-- One field with this number. -/
def single (x : ℚ) : Point where
  measurement := "luxmon_register"
  tags := .empty
  fields := Dict.empty.set "value" (.number (.fin x))
  tsNs := 0

theorem single_finite (x : ℚ) : (single x).Finite := by
  refine ⟨?_, ?_, List.cons_ne_nil _ _⟩
  · show ∀ s ∈ ["luxmon_register", "value"], '\n' ∉ s.toList
    decide
  · intro f hf
    obtain rfl := List.mem_singleton.mp hf
    exact ⟨by simp, by simp⟩

/-- The first integer that is no double is written like its neighbour. -/
theorem two_points_one_line :
    ¬ ∀ p p' : Point, p.Finite → p'.Finite → toLine p = toLine p' → p.kept = p'.kept := by
  intro h
  have hodd : toDouble (2 ^ 53 + 1) = .ok (2 ^ 53) := by decide +kernel
  have heven : toDouble (2 ^ 53) = .ok (2 ^ 53) := by decide +kernel
  have hparts (x : ℚ) : fieldParts (single x).fields.entries =
      (toDouble x).map fun v => [escapeInflux "value" ++ ['='] ++ (PyFloat.fin v).repr.toList] := by
    show (valueText (.number (.fin x)) >>= fun text => fieldParts [] >>= fun parts => _) = _
    rw [valueText_fin]
    cases toDouble x <;> rfl
  have hsame : toLine (single (2 ^ 53 + 1)) = toLine (single (2 ^ 53)) := by
    unfold toLine
    rw [hparts, hparts, hodd, heven]
    rfl
  have hkept := congrArg Written.fields (h _ _ (single_finite _) (single_finite _) hsame)
  have hvalue : (FieldValue.number (.fin (2 ^ 53 + 1))) = .number (.fin (2 ^ 53)) :=
    congrArg Prod.snd (List.cons.inj hkept).1
  exact absurd hvalue (by decide +kernel)

end LuxMon.LineProtocol
