import LuxMon.Config.Acknowledged
import Mathlib.Data.List.TakeWhile

/-!
# The mirror in the `.env` file

`_sync_env_file` cuts the file at every line boundary that Python knows, and joins the
lines with newlines.  A reader of the file cuts at newlines only.  A text that cannot be
encoded leaves the file empty.

    exactly the setting's variable changes, to the given value ↔ the value has no newline
      and can be encoded, and the other boundaries in the file
      mean nothing                                              (env_mirror_iff)
-/

namespace LuxMon

open Python

/-! ## Reading the file -/

/-- What a line maps a variable to; its name stands before the first `=`. -/
def lineValue (var : String) (line : List Char) : Option String :=
  if '=' ∈ line ∧ String.ofList (line.takeWhile (· ≠ '=')) = var then
    some (String.ofList (line.dropWhile (· ≠ '=')).tail)
  else none

/-- What lines map a variable to: the last one counts. -/
def linesValue (lines : List (List Char)) (var : String) : Option String := lines.reverse.findSome? (lineValue var)

/-- What a file maps a variable to, read line by line. -/
def fileValue (text var : String) : Option String := linesValue (text.toList.splitOn '\n') var

/-- The file after the mirror: the variable has the value, and every other one what it had. -/
structure Mirrored (var value before after : String) : Prop where
  own : fileValue after var = some value
  others : ∀ v, v ≠ var → fileValue after v = fileValue before v

/-- At all line boundaries and at newlines, the text maps the other variables to the same. -/
def SameCut (var text : String) : Prop := ∀ v, v ≠ var → linesValue (splitlines [] text.toList) v = fileValue text v

/-! ## Lines -/

theorem linesValue_concat (lines : List (List Char)) (line : List Char) (var : String) :
    linesValue (lines ++ [line]) var = (lineValue var line).or (linesValue lines var) := by
  unfold linesValue
  rw [List.reverse_append, List.reverse_singleton, List.singleton_append, List.findSome?_cons]
  cases lineValue var line <;> rfl

theorem linesValue_blank (lines : List (List Char)) (var : String) : linesValue (lines ++ [[]]) var = linesValue lines var := by
  rw [linesValue_concat]
  rfl

/-- A value has only characters of its line. -/
theorem mem_of_lineValue {var value : String} {line : List Char} (h : lineValue var line = some value) {c : Char}
    (hc : c ∈ value.toList) : c ∈ line := by
  unfold lineValue at h
  split_ifs at h
  obtain rfl := Option.some.inj h
  rw [String.toList_ofList] at hc
  exact (List.dropWhile_sublist _).subset (List.mem_of_mem_tail hc)

/-- No piece has the character at which the text was cut. -/
theorem not_mem_splitOn {a : Char} {cs l : List Char} (h : l ∈ cs.splitOn a) : a ∉ l := by
  induction cs generalizing l with
  | nil =>
    obtain rfl := List.mem_singleton.mp h
    exact List.not_mem_nil
  | cons c cs ih =>
    obtain ⟨first, rest, hsplit⟩ := List.exists_cons_of_ne_nil (List.splitOn_ne_nil a cs)
    rw [hsplit] at ih
    rw [List.splitOn_cons_eq_if_modifyHead, hsplit] at h
    by_cases hc : (c == a) = true
    · rw [if_pos hc] at h
      rcases List.mem_cons.mp h with rfl | h
      · exact List.not_mem_nil
      · exact ih h
    · rw [if_neg hc, List.modifyHead_cons] at h
      rcases List.mem_cons.mp h with rfl | h
      · have hne : a ≠ c := fun heq => hc (beq_iff_eq.mpr heq.symm)
        exact List.not_mem_cons_of_ne_of_not_mem hne (ih List.mem_cons_self)
      · exact ih (List.mem_cons_of_mem _ h)

/-- What a file maps a variable to has no newline. -/
theorem newline_not_mem_of_fileValue {text var value : String} (h : fileValue text var = some value) :
    '\n' ∉ value.toList := by
  obtain ⟨line, hline, hvalue⟩ := List.exists_of_findSome?_eq_some h
  exact fun hc => not_mem_splitOn (List.mem_reverse.mp hline) (mem_of_lineValue hvalue hc)

/-! ## The new lines -/

section
variable {var : String} (value : String)

/-- The line of the setting. -/
def entryLine (var value : String) : List Char := var.toList ++ '=' :: value.toList

/-- A line that begins with the variable and `=` gets the value. -/
def newLine (var value : String) (line : List Char) : List Char :=
  if (var.toList ++ ['=']).isPrefixOf line then entryLine var value else line

/-- The lines of the setting have its value; without any, one is added. -/
def newLines (var value : String) (lines : List (List Char)) : List (List Char) :=
  if lines.any (var.toList ++ ['=']).isPrefixOf then lines.map (newLine var value)
  else lines.map (newLine var value) ++ [entryLine var value]

theorem mirrorText_eq (text : String) : (mirrorText var value text).toList =
    ['\n'].intercalate (newLines var value (splitlines [] text.toList)) ++ ['\n'] := by
  have hstart : (var ++ "=").toList = var.toList ++ ['='] := by simp
  have hentry : (var ++ "=" ++ value).toList = entryLine var value := by simp [entryLine]
  unfold mirrorText newLines newLine
  simp only [hstart, hentry, String.toList_append, String.toList_ofList]
  rfl

/-- A line of the setting maps its variable, and no other. -/
theorem lineValue_start (hvar : '=' ∉ var.toList) {rest : List Char} (v : String) :
    lineValue v (var.toList ++ '=' :: rest) = if v = var then some (String.ofList rest) else none := by
  have hne : ∀ c ∈ var.toList, (decide (c ≠ '=')) = true := fun c hc =>
    decide_eq_true fun heq => hvar (heq ▸ hc)
  have htake : (var.toList ++ '=' :: rest).takeWhile (· ≠ '=') = var.toList := by
    rw [List.takeWhile_append_of_pos hne, List.takeWhile_cons_of_neg (by decide), List.append_nil]
  have hdrop : (var.toList ++ '=' :: rest).dropWhile (· ≠ '=') = '=' :: rest := by
    rw [List.dropWhile_append_of_pos hne, List.dropWhile_cons_of_neg (by decide)]
  have hmem : '=' ∈ var.toList ++ '=' :: rest := List.mem_append_right _ List.mem_cons_self
  unfold lineValue
  rw [htake, hdrop, String.ofList_toList]
  by_cases hv : v = var
  · rw [if_pos ⟨hmem, hv.symm⟩, if_pos hv, List.tail_cons]
  · rw [if_neg fun h => hv h.2.symm, if_neg hv]

/-- A line that maps the variable begins with it. -/
theorem start_of_lineValue {line : List Char} {x : String} (h : lineValue var line = some x) :
    (var.toList ++ ['=']).isPrefixOf line = true := by
  unfold lineValue at h
  split_ifs at h with hline
  obtain ⟨hmem, hname⟩ := hline
  have hsplit := List.takeWhile_append_dropWhile (p := (decide <| · ≠ '=')) (l := line)
  have hrest : ∃ rest, line.dropWhile (· ≠ '=') = '=' :: rest := by
    cases hdrop : line.dropWhile (· ≠ '=') with
    | nil => exact absurd (List.dropWhile_eq_nil_iff.mp hdrop '=' hmem) (by decide)
    | cons c rest =>
      have hhead := List.head_dropWhile_not (· ≠ '=') (l := line) (by rw [hdrop]; exact List.cons_ne_nil c rest)
      simp only [hdrop, List.head_cons, decide_eq_false_iff_not, not_not] at hhead
      exact ⟨rest, by rw [hhead]⟩
  obtain ⟨rest, hrest⟩ := hrest
  rw [hrest, ← String.toList_ofList (l := line.takeWhile _), hname] at hsplit
  rw [List.isPrefixOf_iff_prefix]
  exact ⟨rest, by rw [← hsplit]; simp⟩

theorem lineValue_newLine (hvar : '=' ∉ var.toList) (line : List Char) (v : String) :
    lineValue v (newLine var value line) =
      if v = var then (lineValue var line).map fun _ => value else lineValue v line := by
  unfold newLine entryLine
  by_cases hstart : (var.toList ++ ['=']).isPrefixOf line = true
  · obtain ⟨rest, rfl⟩ := List.isPrefixOf_iff_prefix.mp hstart
    rw [if_pos hstart, List.append_assoc, List.singleton_append, lineValue_start hvar, lineValue_start hvar,
      lineValue_start hvar, if_pos rfl, String.ofList_toList]
    split_ifs <;> rfl
  · rw [if_neg hstart]
    split_ifs with hv
    · subst hv
      have hnone : lineValue v line = none :=
        Option.eq_none_iff_forall_ne_some.mpr fun x hx => hstart (start_of_lineValue hx)
      rw [hnone, Option.map_none]
    · rfl

/-- The replaced lines keep the other variables. -/
theorem linesValue_map (hvar : '=' ∉ var.toList) (lines : List (List Char)) (v : String) :
    linesValue (lines.map (newLine var value)) v =
      if v = var then (linesValue lines var).map fun _ => value else linesValue lines v := by
  induction lines using List.reverseRecOn with
  | nil => split_ifs <;> rfl
  | append_singleton lines line ih =>
    rw [List.map_append, List.map_singleton, linesValue_concat, linesValue_concat, linesValue_concat, ih,
      lineValue_newLine value hvar]
    split_ifs with hv
    · cases lineValue var line <;> rfl
    · rfl

/-- The new lines map the variable to the value, and every other one as the old lines did. -/
theorem linesValue_newLines (hvar : '=' ∉ var.toList) (lines : List (List Char)) (v : String) :
    linesValue (newLines var value lines) v = if v = var then some value else linesValue lines v := by
  unfold newLines
  by_cases hfound : lines.any (var.toList ++ ['=']).isPrefixOf = true
  · rw [if_pos hfound, linesValue_map value hvar]
    split_ifs with hv
    · obtain ⟨line, hline, hstart⟩ := List.any_eq_true.mp hfound
      obtain ⟨rest, rfl⟩ := List.isPrefixOf_iff_prefix.mp hstart
      have hsome : (linesValue lines var).isSome = true := by
        refine List.findSome?_isSome_iff.mpr ⟨_, List.mem_reverse.mpr hline, ?_⟩
        rw [List.append_assoc, List.singleton_append, lineValue_start hvar, if_pos rfl]
        rfl
      obtain ⟨x, hx⟩ := Option.isSome_iff_exists.mp hsome
      rw [hx, Option.map_some]
    · rfl
  · rw [if_neg hfound, linesValue_concat, linesValue_map value hvar, entryLine, lineValue_start hvar,
      String.ofList_toList]
    split_ifs <;> rfl

end

/-! ## Cutting the new text -/

theorem newline_not_mem_splitlines {cs line l : List Char} (hline : '\n' ∉ line) (h : l ∈ splitlines line cs) :
    '\n' ∉ l := by
  induction line, cs using splitlines.induct with
  | case1 line hempty =>
    rw [splitlines.eq_1, if_pos hempty] at h
    cases h
  | case2 line hempty =>
    rw [splitlines.eq_1, if_neg hempty] at h
    rw [List.mem_singleton.mp h]
    exact hline
  | case3 line cs ih =>
    rw [splitlines.eq_2] at h
    rcases List.mem_cons.mp h with rfl | h
    · exact hline
    · exact ih List.not_mem_nil h
  | case4 line c cs hne hbreak ih =>
    rw [splitlines.eq_3 _ _ _ hne, if_pos hbreak] at h
    rcases List.mem_cons.mp h with rfl | h
    · exact hline
    · exact ih List.not_mem_nil h
  | case5 line c cs hne hbreak ih =>
    rw [splitlines.eq_3 _ _ _ hne, if_neg hbreak] at h
    refine ih ?_ h
    rw [List.mem_append, List.mem_singleton, not_or]
    exact ⟨hline, fun heq => hbreak (heq ▸ by decide)⟩

/-- A last newline is a last empty line. -/
theorem intercalate_blank {a : Char} {ls : List (List Char)} (h : ls ≠ []) :
    [a].intercalate (ls ++ [[]]) = [a].intercalate ls ++ [a] := by
  induction ls with
  | nil => exact absurd rfl h
  | cons l ls ih =>
    by_cases hls : ls = []
    · subst hls
      simp [List.intercalate_cons_cons]
    · rw [List.cons_append, List.intercalate_cons_of_ne_nil (by simp), ih hls, List.intercalate_cons_of_ne_nil hls]
      simp

theorem newLines_ne_nil (var value : String) (lines : List (List Char)) : newLines var value lines ≠ [] := by
  unfold newLines
  split_ifs with hfound
  · obtain ⟨line, hline, -⟩ := List.any_eq_true.mp hfound
    exact List.ne_nil_of_mem (List.mem_map_of_mem hline)
  · exact List.append_ne_nil_of_right_ne_nil _ (List.cons_ne_nil _ _)

theorem newline_not_mem_newLines {var value : String} (hvar : '\n' ∉ var.toList) (hvalue : '\n' ∉ value.toList)
    {lines : List (List Char)} (hlines : ∀ l ∈ lines, '\n' ∉ l) : ∀ l ∈ newLines var value lines, '\n' ∉ l := by
  have hentry : '\n' ∉ entryLine var value := by
    rw [entryLine, List.mem_append, List.mem_cons, not_or, not_or]
    exact ⟨hvar, by decide, hvalue⟩
  have hmap : ∀ l ∈ lines.map (newLine var value), '\n' ∉ l := by
    intro l hl
    obtain ⟨line, hline, rfl⟩ := List.mem_map.mp hl
    unfold newLine
    split_ifs
    · exact hentry
    · exact hlines line hline
  intro l hl
  unfold newLines at hl
  split_ifs at hl
  · exact hmap l hl
  · rcases List.mem_append.mp hl with hl | hl
    · exact hmap l hl
    · rw [List.mem_singleton.mp hl]
      exact hentry

/-- Without a newline in the value, the new text is read as its lines. -/
theorem fileValue_mirrorText {var value : String} (hname : '=' ∉ var.toList) (hvar : '\n' ∉ var.toList)
    (hvalue : '\n' ∉ value.toList) (text v : String) : fileValue (mirrorText var value text) v =
      if v = var then some value else linesValue (splitlines [] text.toList) v := by
  have hlines : ∀ l ∈ splitlines [] text.toList, '\n' ∉ l := fun l =>
    newline_not_mem_splitlines List.not_mem_nil
  have hjoin : ['\n'].intercalate (newLines var value (splitlines [] text.toList)) ++ ['\n'] =
      ['\n'].intercalate (newLines var value (splitlines [] text.toList) ++ [[]]) := by
    rw [intercalate_blank (newLines_ne_nil _ _ _)]
  unfold fileValue
  rw [mirrorText_eq, hjoin, List.splitOn_intercalate, linesValue_blank, linesValue_newLines value hname]
  · intro l hl
    rcases List.mem_append.mp hl with hl | hl
    · exact newline_not_mem_newLines hvar hvalue hlines l hl
    · rw [List.mem_singleton.mp hl]
      exact List.not_mem_nil
  · exact List.append_ne_nil_of_right_ne_nil _ (List.cons_ne_nil _ _)

/-- A variable is a name: its text can be told from the rest of the line. -/
theorem settingEnv_name {name var : String} {cast : Cast} (h : settingEnv.lookup name = some (var, cast)) :
    '=' ∉ var.toList ∧ '\n' ∉ var.toList ∧ var.toList.all (fun c => c.toNat < 128) = true := by
  have hall : ∀ e ∈ settingEnv, '=' ∉ e.2.1.toList ∧ '\n' ∉ e.2.1.toList ∧
      e.2.1.toList.all (fun c => c.toNat < 128) = true := by decide +kernel
  obtain ⟨before, after, hsplit, -⟩ := List.lookup_eq_some_iff.mp h
  exact hall (name, var, cast) (by rw [hsplit]; exact List.mem_append_right _ List.mem_cons_self)

theorem linesValue_cons (line : List Char) (lines : List (List Char)) (var : String) :
    linesValue (line :: lines) var = (linesValue lines var).or (lineValue var line) := by
  unfold linesValue
  rw [List.reverse_cons, List.findSome?_append]
  congr 1
  rw [List.findSome?_cons]
  cases lineValue var line <;> rfl

/-- Without other boundaries both cuts are the same, but for a blank line at the end. -/
theorem linesValue_splitlines {cs : List Char} (hplain : ∀ c ∈ cs, isLineBreak c = true → c = '\n') (line : List Char)
    (var : String) :
    linesValue (splitlines line cs) var = linesValue ((cs.splitOn '\n').modifyHead (line ++ ·)) var := by
  induction cs generalizing line with
  | nil =>
    rw [splitlines.eq_1, List.splitOn_nil, List.modifyHead_cons, List.append_nil]
    by_cases hline : line.isEmpty = true
    · rw [if_pos hline, List.isEmpty_iff.mp hline]
      exact (linesValue_blank [] var).symm
    · rw [if_neg hline]
  | cons c cs ih =>
    obtain ⟨hc, hcs⟩ := List.forall_mem_cons.mp hplain
    have hne : ∀ cs', c = '\r' → cs = '\n' :: cs' → False := by
      rintro cs' rfl -
      exact absurd (hc (by decide)) (by decide)
    obtain ⟨first, rest, hsplit⟩ := List.exists_cons_of_ne_nil (List.splitOn_ne_nil '\n' cs)
    rw [splitlines.eq_3 _ _ _ hne, List.splitOn_cons_eq_if_modifyHead]
    by_cases hbreak : isLineBreak c = true
    · have hnewline : (c == '\n') = true := beq_iff_eq.mpr (hc hbreak)
      rw [if_pos hbreak, if_pos hnewline, linesValue_cons, ih hcs, List.modifyHead_cons, List.append_nil,
        linesValue_cons, hsplit]
      rfl
    · have hother : ¬ (c == '\n') = true := fun heq => hbreak (by rw [beq_iff_eq.mp heq]; decide)
      rw [if_neg hbreak, if_neg hother, ih hcs, hsplit]
      simp only [List.modifyHead_cons, List.append_assoc, List.singleton_append]

/-- A file whose only line boundaries are newlines loses nothing. -/
theorem sameCut_of_plain {var text : String} (hplain : ∀ c ∈ text.toList, isLineBreak c = true → c = '\n') :
    SameCut var text := by
  intro v _
  obtain ⟨first, rest, hsplit⟩ := List.exists_cons_of_ne_nil (List.splitOn_ne_nil '\n' text.toList)
  rw [linesValue_splitlines hplain, fileValue, hsplit]
  rfl

/-! ## Encoding the new text -/

theorem mem_splitlines {cs line l : List Char} (h : l ∈ splitlines line cs) {c : Char} (hc : c ∈ l) :
    c ∈ line ∨ c ∈ cs := by
  induction line, cs using splitlines.induct with
  | case1 line hempty =>
    rw [splitlines.eq_1, if_pos hempty] at h
    cases h
  | case2 line hempty =>
    rw [splitlines.eq_1, if_neg hempty] at h
    exact .inl (List.mem_singleton.mp h ▸ hc)
  | case3 line cs ih =>
    rw [splitlines.eq_2] at h
    rcases List.mem_cons.mp h with rfl | h
    · exact .inl hc
    · exact .inr (List.mem_cons_of_mem _ (List.mem_cons_of_mem _ ((ih h).resolve_left List.not_mem_nil)))
  | case4 line d cs hne hbreak ih =>
    rw [splitlines.eq_3 _ _ _ hne, if_pos hbreak] at h
    rcases List.mem_cons.mp h with rfl | h
    · exact .inl hc
    · exact .inr (List.mem_cons_of_mem _ ((ih h).resolve_left List.not_mem_nil))
  | case5 line d cs hne hbreak ih =>
    rw [splitlines.eq_3 _ _ _ hne, if_neg hbreak] at h
    rcases ih h with hline | hcs
    · rcases List.mem_append.mp hline with hline | hd
      · exact .inl hline
      · exact .inr (List.mem_singleton.mp hd ▸ List.mem_cons_self)
    · exact .inr (List.mem_cons_of_mem _ hcs)

/-- The entry of the setting is one of the new lines, and the others are old ones. -/
theorem mem_newLines (var value : String) (lines : List (List Char)) :
    entryLine var value ∈ newLines var value lines ∧
      ∀ l ∈ newLines var value lines, l = entryLine var value ∨ l ∈ lines := by
  have hmap : ∀ l ∈ lines.map (newLine var value), l = entryLine var value ∨ l ∈ lines := by
    intro l hl
    obtain ⟨line, hline, rfl⟩ := List.mem_map.mp hl
    unfold newLine
    split_ifs
    · exact .inl rfl
    · exact .inr hline
  unfold newLines
  split_ifs with hfound
  · obtain ⟨line, hline, hstart⟩ := List.any_eq_true.mp hfound
    exact ⟨List.mem_map.mpr ⟨line, hline, by rw [newLine, if_pos hstart]⟩, hmap⟩
  · refine ⟨List.mem_append_right _ List.mem_cons_self, fun l hl => ?_⟩
    rcases List.mem_append.mp hl with hl | hl
    · exact hmap l hl
    · exact .inl (List.mem_singleton.mp hl)

theorem mem_intercalate {a c : Char} {ls : List (List Char)} :
    (c ∈ [a].intercalate ls → c = a ∨ ∃ l ∈ ls, c ∈ l) ∧ ((∃ l ∈ ls, c ∈ l) → c ∈ [a].intercalate ls) := by
  induction ls with
  | nil => exact ⟨fun h => absurd h List.not_mem_nil, fun ⟨l, hl, _⟩ => absurd hl List.not_mem_nil⟩
  | cons l ls ih =>
    by_cases hls : ls = []
    · subst hls
      have hself : [a].intercalate [l] = l := by simp [List.intercalate]
      rw [hself]
      exact ⟨fun hc => .inr ⟨l, List.mem_cons_self, hc⟩, fun ⟨l', hl', hc⟩ => List.mem_singleton.mp hl' ▸ hc⟩
    · rw [List.intercalate_cons_of_ne_nil hls]
      simp only [List.mem_append, List.mem_singleton, List.exists_mem_cons_iff]
      constructor
      · rintro ((hc | hc) | hc)
        · exact .inr (.inl hc)
        · exact .inl hc
        · exact (ih.1 hc).imp_right .inr
      · rintro (hc | hc)
        · exact .inl (.inl hc)
        · exact .inr (ih.2 hc)

/-- The variable and what was read from the file can be written: it is all about the value. -/
theorem encodesText_mirrorText {encodes : Char → Bool} (hascii : ∀ c : Char, c.toNat < 128 → encodes c = true)
    {var text : String} (hvar : var.toList.all (fun c => c.toNat < 128) = true)
    (htext : encodesText encodes text = true) (value : String) :
    encodesText encodes (mirrorText var value text) = encodesText encodes value := by
  obtain ⟨hentry, hlines⟩ := mem_newLines var value (splitlines [] text.toList)
  rw [Bool.eq_iff_iff]
  unfold encodesText at htext ⊢
  rw [mirrorText_eq, List.all_eq_true, List.all_eq_true]
  rw [List.all_eq_true] at htext hvar
  constructor
  · intro h c hc
    refine h c (List.mem_append_left _ (mem_intercalate.2 ⟨_, hentry, ?_⟩))
    exact List.mem_append_right _ (List.mem_cons_of_mem _ hc)
  · intro h c hc
    have hnewline : encodes '\n' = true := hascii _ (by decide)
    rcases List.mem_append.mp hc with hc | hc
    · rcases mem_intercalate.1 hc with rfl | ⟨l, hl, hcl⟩
      · exact hnewline
      · rcases hlines l hl with rfl | hl
        · rcases List.mem_append.mp hcl with hcl | hcl
          · exact hascii c (of_decide_eq_true (hvar c hcl))
          · rcases List.mem_cons.mp hcl with rfl | hcl
            · exact hascii _ (by decide)
            · exact h c hcl
        · exact htext c ((mem_splitlines hl hcl).resolve_left List.not_mem_nil)
    · rw [List.mem_singleton.mp hc]
      exact hnewline

/-- The mirror changes its variable only, exactly when the value is one line that the encoding of the file
has, and no other boundary cuts an assignment of the file. -/
theorem env_mirror_iff {name var : String} {cast : Cast} (h : settingEnv.lookup name = some (var, cast))
    {encodes : Char → Bool} (hascii : ∀ c : Char, c.toNat < 128 → encodes c = true)
    {text : String} (htext : encodesText encodes text = true) (value : String) :
    (∃ after, syncEnvFile (.done encodes) name value (some text) = some after ∧ Mirrored var value text after) ↔
      '\n' ∉ value.toList ∧ encodesText encodes value = true ∧ SameCut var text := by
  obtain ⟨hname, hnewline, hletters⟩ := settingEnv_name h
  have hsync : syncEnvFile (.done encodes) name value (some text) =
      some (if encodesText encodes value then mirrorText var value text else "") := by
    unfold syncEnvFile
    rw [h]
    dsimp only
    rw [encodesText_mirrorText hascii hletters htext]
  rw [hsync]
  constructor
  · rintro ⟨after, hafter, hown, hothers⟩
    obtain rfl := Option.some.inj hafter
    by_cases hencoded : encodesText encodes value = true
    · rw [if_pos hencoded] at hown hothers
      have hvalue := newline_not_mem_of_fileValue hown
      refine ⟨hvalue, hencoded, fun v hv => ?_⟩
      rw [← hothers v hv, fileValue_mirrorText hname hnewline hvalue, if_neg hv]
    · rw [if_neg hencoded] at hown
      cases hown
  · rintro ⟨hvalue, hencoded, hcut⟩
    rw [if_pos hencoded]
    refine ⟨_, rfl, ?_, fun v hv => ?_⟩
    · rw [fileValue_mirrorText hname hnewline hvalue, if_pos rfl]
    · rw [fileValue_mirrorText hname hnewline hvalue, if_neg hv, hcut v hv]

theorem broker_mirrored : Mirrored "LUX_MQTT_HOST" "10.0.0.9" "LUX_MQTT_PORT=1883\nLUX_MQTT_HOST=a\n"
    (mirrorText "LUX_MQTT_HOST" "10.0.0.9" "LUX_MQTT_PORT=1883\nLUX_MQTT_HOST=a\n") := by
  have hall : "LUX_MQTT_PORT=1883\nLUX_MQTT_HOST=a\n".toList.all (fun c => !isLineBreak c || c == '\n') = true := by
    decide +kernel
  have hplain : ∀ c ∈ "LUX_MQTT_PORT=1883\nLUX_MQTT_HOST=a\n".toList, isLineBreak c = true → c = '\n' := by
    intro c hc hbreak
    have hc' := List.all_eq_true.mp hall c hc
    rw [hbreak] at hc'
    exact beq_iff_eq.mp hc'
  have hlookup : settingEnv.lookup "mqtt_host" = some ("LUX_MQTT_HOST", .text) := by decide +kernel
  obtain ⟨after, hafter, hmirrored⟩ :=
    (@env_mirror_iff _ _ _ hlookup (fun _ => true) (fun _ _ => rfl) _ (by decide +kernel) "10.0.0.9").mpr
      ⟨by decide +kernel, by decide +kernel, sameCut_of_plain hplain⟩
  have hwritten : syncEnvFile (.done fun _ => true) "mqtt_host" "10.0.0.9"
      (some "LUX_MQTT_PORT=1883\nLUX_MQTT_HOST=a\n") =
      some (mirrorText "LUX_MQTT_HOST" "10.0.0.9" "LUX_MQTT_PORT=1883\nLUX_MQTT_HOST=a\n") := by
    decide +kernel
  obtain rfl := Option.some.inj (hwritten.symm.trans hafter)
  exact hmirrored

/-- A value of two lines sets a second variable. -/
theorem two_lines_mirrored :
    fileValue "LUX_MQTT_PORT=1883\nLUX_MQTT_HOST=a\n" "LUX_MQTT_PORT" = some "1883" ∧
      syncEnvFile (.done fun _ => true) "mqtt_host" "b\nLUX_MQTT_PORT=1" (some "LUX_MQTT_PORT=1883\nLUX_MQTT_HOST=a\n") =
        some "LUX_MQTT_PORT=1883\nLUX_MQTT_HOST=b\nLUX_MQTT_PORT=1\n" ∧
      fileValue "LUX_MQTT_PORT=1883\nLUX_MQTT_HOST=b\nLUX_MQTT_PORT=1\n" "LUX_MQTT_PORT" = some "1" ∧
      ¬ Mirrored "LUX_MQTT_HOST" "b\nLUX_MQTT_PORT=1" "LUX_MQTT_PORT=1883\nLUX_MQTT_HOST=a\n"
        "LUX_MQTT_PORT=1883\nLUX_MQTT_HOST=b\nLUX_MQTT_PORT=1\n" := by
  refine ⟨by decide +kernel, by decide +kernel, by decide +kernel, fun h => ?_⟩
  exact newline_not_mem_of_fileValue h.own (by decide)

end LuxMon
