import Mathlib.Data.List.Nodup
import Mathlib.Data.List.Lookmap
import Mathlib.Tactic

/-!
# Dicts

A Python dict: entries in the order of their first assignment, every key once.
An assignment replaces the value in place or appends the entry.

    (d.set k v).get? k' = if k' = k then v else d.get? k'      (get?_set)
    of several assignments the last one counts                 (get?_sets)
-/

namespace Python

variable {α β γ : Type} [DecidableEq α]

theorem lookup_cons_ite (k : α) (e : α × β) (es : List (α × β)) :
    (e :: es).lookup k = if k = e.1 then some e.2 else es.lookup k := by
  rw [List.lookup_cons]
  by_cases h : k = e.1
  · rw [if_pos h, beq_iff_eq.mpr h]
  · rw [if_neg h, beq_false_of_ne h]

/-- What is not assigned is not found. -/
theorem lookup_of_not_mem {k : α} {es : List (α × β)} (h : k ∉ es.map Prod.fst) : es.lookup k = none := by
  refine List.lookup_eq_none_iff.mpr fun e he => ?_
  have hne : k ≠ e.1 := fun heq => h (heq ▸ List.mem_map.mpr ⟨e, he, rfl⟩)
  simpa using hne

theorem lookup_concat (k : α) (e : α × β) (es : List (α × β)) :
    (es ++ [e]).lookup k = (es.lookup k).or (if k = e.1 then some e.2 else none) := by
  induction es with
  | nil => rw [List.nil_append, lookup_cons_ite, List.lookup_nil, Option.none_or]
  | cons x es ih =>
    rw [List.cons_append, lookup_cons_ite, lookup_cons_ite, ih]
    split <;> rfl

theorem lookup_map_entries (f : α → β → γ) (k : α) (es : List (α × β)) :
    (es.map fun e => (e.1, f e.1 e.2)).lookup k = (es.lookup k).map (f k) := by
  induction es with
  | nil => rfl
  | cons e es ih =>
    rw [List.map_cons, lookup_cons_ite, lookup_cons_ite, ih]
    split
    · next h => rw [h, Option.map_some]
    · rfl

/-- `d[k] = v` on the entries. -/
def setEntry (k : α) (v : β) : List (α × β) → List (α × β)
  | [] => [(k, v)]
  | e :: es => if e.1 = k then (k, v) :: es else e :: setEntry k v es

theorem setEntry_keys (k : α) (v : β) (es : List (α × β)) :
    (setEntry k v es).map Prod.fst = if k ∈ es.map Prod.fst then es.map Prod.fst else es.map Prod.fst ++ [k] := by
  induction es with
  | nil => rfl
  | cons e es ih =>
    unfold setEntry
    by_cases h : e.1 = k
    · rw [if_pos h, if_pos (by simp [h]), List.map_cons, List.map_cons, h]
    · rw [if_neg h, List.map_cons, ih, List.map_cons]
      by_cases hk : k ∈ es.map Prod.fst
      · rw [if_pos hk, if_pos (List.mem_cons_of_mem _ hk)]
      · rw [if_neg hk, if_neg (by simpa [Ne.symm h] using hk), List.cons_append]

theorem lookup_setEntry (k k' : α) (v : β) (es : List (α × β)) :
    (setEntry k v es).lookup k' = if k' = k then some v else es.lookup k' := by
  induction es with
  | nil => exact lookup_cons_ite k' (k, v) []
  | cons e es ih =>
    unfold setEntry
    by_cases he : e.1 = k
    · rw [if_pos he, lookup_cons_ite, lookup_cons_ite, he]
      split <;> rfl
    · rw [if_neg he, lookup_cons_ite, ih, lookup_cons_ite]
      by_cases h : k' = e.1
      · rw [if_pos h, if_neg (by rw [h]; exact he), if_pos h]
      · rw [if_neg h, if_neg h]

structure Dict (α β : Type) where
  entries : List (α × β)
  nodup : (entries.map Prod.fst).Nodup

namespace Dict

def empty : Dict α β := ⟨[], List.nodup_nil⟩

def keys (d : Dict α β) : List α := d.entries.map Prod.fst

/-- `d.get(k)`. -/
def get? (d : Dict α β) (k : α) : Option β := d.entries.lookup k

/-- `d[k] = v`. -/
def set (d : Dict α β) (k : α) (v : β) : Dict α β where
  entries := setEntry k v d.entries
  nodup := by
    rw [setEntry_keys]
    split
    · exact d.nodup
    · next h => exact List.nodup_append.mpr ⟨d.nodup, List.nodup_singleton k,
        fun a ha b hb => by rintro rfl; exact h (List.mem_singleton.mp hb ▸ ha)⟩

/-- Several assignments, one after the other. -/
def sets (d : Dict α β) (es : List (α × β)) : Dict α β := es.foldl (fun d e => d.set e.1 e.2) d

/-- `d.update(d')`. -/
def update (d d' : Dict α β) : Dict α β := d.sets d'.entries

/-- A dict display; also `dict(pairs)`. -/
def ofList (es : List (α × β)) : Dict α β := empty.sets es

@[simp] theorem get?_empty (k : α) : (empty : Dict α β).get? k = none := rfl

theorem get?_set (d : Dict α β) (k k' : α) (v : β) :
    (d.set k v).get? k' = if k' = k then some v else d.get? k' := lookup_setEntry k k' v d.entries

theorem mem_keys_set {d : Dict α β} {k k' : α} {v : β} : k' ∈ (d.set k v).keys ↔ k' ∈ d.keys ∨ k' = k := by
  have h : (d.set k v).keys = _ := setEntry_keys k v d.entries
  rw [h]
  unfold keys
  split
  · next hk =>
    constructor
    · exact Or.inl
    · rintro (h | rfl)
      · exact h
      · exact hk
  · rw [List.mem_append, List.mem_singleton]

theorem get?_sets (d : Dict α β) (es : List (α × β)) (k : α) :
    (d.sets es).get? k = (es.reverse.lookup k).or (d.get? k) := by
  induction es generalizing d with
  | nil => rfl
  | cons e es ih =>
    have hsets : d.sets (e :: es) = (d.set e.1 e.2).sets es := rfl
    rw [hsets, ih, get?_set, List.reverse_cons, lookup_concat, Option.or_assoc]
    split <;> rfl

theorem get?_sets_other {d : Dict α β} {es : List (α × β)} {k : α} (h : k ∉ es.map Prod.fst) :
    (d.sets es).get? k = d.get? k := by
  rw [get?_sets, lookup_of_not_mem fun hmem => h (by simpa using hmem), Option.none_or]

theorem get?_ofList (es : List (α × β)) (k : α) : (ofList es).get? k = es.reverse.lookup k := by
  unfold ofList
  rw [get?_sets, get?_empty, Option.or_none]

/-- Later assignments of other keys change nothing. -/
theorem get?_ofList_append {es es' : List (α × β)} {k : α} (h : k ∉ es'.map Prod.fst) :
    (ofList (es ++ es')).get? k = (ofList es).get? k := by
  have hsets : ofList (es ++ es') = (ofList es).sets es' := List.foldl_append
  rw [hsets, get?_sets_other h]

/-- What a dict holds was assigned. -/
theorem mem_of_get?_ofList {es : List (α × β)} {k : α} {v : β} (h : (ofList es).get? k = some v) : (k, v) ∈ es := by
  rw [get?_ofList] at h
  obtain ⟨front, back, hes, -⟩ := List.lookup_eq_some_iff.mp h
  exact List.mem_reverse.mp (hes ▸ List.mem_append_right _ List.mem_cons_self)

theorem mem_keys_sets {d : Dict α β} {es : List (α × β)} {k : α} :
    k ∈ (d.sets es).keys ↔ k ∈ d.keys ∨ k ∈ es.map Prod.fst := by
  induction es generalizing d with
  | nil => simp [sets]
  | cons e es ih =>
    have hsets : d.sets (e :: es) = (d.set e.1 e.2).sets es := rfl
    rw [hsets, ih, mem_keys_set, List.map_cons, List.mem_cons, or_assoc]

/-- The entries are what `get` finds. -/
theorem mem_entries {d : Dict α β} {k : α} {v : β} : (k, v) ∈ d.entries ↔ d.get? k = some v := by
  obtain ⟨es, hnodup⟩ := d
  show (k, v) ∈ es ↔ es.lookup k = some v
  induction es with
  | nil => simp
  | cons e es ih =>
    obtain ⟨hnot, hnodup⟩ := List.nodup_cons.mp hnodup
    rw [List.mem_cons, List.lookup_cons, ih hnodup]
    by_cases h : k = e.1
    · subst h
      rw [beq_self_eq_true]
      constructor
      · rintro (h | h)
        · exact congrArg some (congrArg Prod.snd h).symm
        · exact absurd (List.mem_map.mpr ⟨_, (ih hnodup).mpr h, rfl⟩) hnot
      · intro h
        exact Or.inl (Prod.ext rfl (Option.some.inj h).symm)
    · rw [beq_false_of_ne h]
      constructor
      · rintro (rfl | hlookup)
        · exact absurd rfl h
        · exact hlookup
      · exact Or.inr

theorem mem_keys_iff {d : Dict α β} {k : α} : k ∈ d.keys ↔ ∃ v, d.get? k = some v := by
  unfold keys
  rw [List.mem_map]
  constructor
  · rintro ⟨⟨k, v⟩, h, rfl⟩
    exact ⟨v, mem_entries.mp h⟩
  · rintro ⟨v, h⟩
    exact ⟨(k, v), mem_entries.mpr h, rfl⟩

theorem get?_update (d d' : Dict α β) (k : α) : (d.update d').get? k = (d'.get? k).or (d.get? k) := by
  unfold update
  rw [get?_sets]
  congr 1
  -- with every key once, the order of the assignments does not matter
  cases h : d'.get? k with
  | none =>
    refine lookup_of_not_mem fun hmem => ?_
    obtain ⟨v, hv⟩ := mem_keys_iff.mp (show k ∈ d'.keys by simpa [keys] using hmem)
    rw [hv] at h
    cases h
  | some v =>
    have hnodup : (d'.entries.reverse.map Prod.fst).Nodup := by
      rw [List.map_reverse]
      exact List.nodup_reverse.mpr d'.nodup
    exact (mem_entries (d := ⟨d'.entries.reverse, hnodup⟩)).mp (List.mem_reverse.mpr (mem_entries.mpr h))

theorem mem_keys_update {d d' : Dict α β} {k : α} : k ∈ (d.update d').keys ↔ k ∈ d.keys ∨ k ∈ d'.keys :=
  mem_keys_sets

/-- What holds of all values still holds after an assignment that keeps it. -/
theorem set_all {P : β → Prop} {d : Dict α β} {k : α} {v : β} (hd : ∀ k v, d.get? k = some v → P v) (hv : P v) :
    ∀ k' v', (d.set k v).get? k' = some v' → P v' := by
  intro k' v' h
  rw [get?_set] at h
  split at h
  · cases h
    exact hv
  · exact hd k' v' h

theorem sets_all {P : β → Prop} {d : Dict α β} {es : List (α × β)} (hd : ∀ k v, d.get? k = some v → P v)
    (hes : ∀ e ∈ es, P e.2) : ∀ k v, (d.sets es).get? k = some v → P v := by
  induction es generalizing d with
  | nil => exact hd
  | cons e es ih =>
    exact ih (set_all hd (hes e List.mem_cons_self)) fun e' he' => hes e' (List.mem_cons_of_mem e he')

theorem setEntry_new {k : α} {v : β} {es : List (α × β)} (h : k ∉ es.map Prod.fst) :
    setEntry k v es = es ++ [(k, v)] := by
  induction es with
  | nil => rfl
  | cons e es ih =>
    rw [List.map_cons, List.mem_cons, not_or] at h
    rw [setEntry, if_neg (Ne.symm h.1), ih h.2, List.cons_append]

/-- In a sum over the entries a new one counts for the one that it replaces. -/
theorem sum_setEntry {M : Type} [AddCommMonoid M] (g : α × β → M) (k : α) (v : β) (es : List (α × β)) :
    ((setEntry k v es).map g).sum + (es.lookup k).elim 0 (fun v' => g (k, v')) = (es.map g).sum + g (k, v) := by
  induction es with
  | nil => simp [setEntry]
  | cons e es ih =>
    unfold setEntry
    by_cases he : e.1 = k
    · subst he
      rw [if_pos rfl, lookup_cons_ite, if_pos rfl, List.map_cons, List.map_cons, List.sum_cons, List.sum_cons,
        Option.elim_some]
      abel
    · rw [if_neg he, lookup_cons_ite, if_neg (Ne.symm he), List.map_cons, List.map_cons, List.sum_cons, List.sum_cons,
        add_assoc, ih, add_assoc]

theorem sum_set {M : Type} [AddCommMonoid M] (g : α × β → M) (d : Dict α β) (k : α) (v : β) :
    ((d.set k v).entries.map g).sum + (d.get? k).elim 0 (fun v' => g (k, v')) = (d.entries.map g).sum + g (k, v) :=
  sum_setEntry g k v d.entries

/-- Assignments of different keys stay in their order. -/
theorem entries_ofList {es : List (α × β)} (h : (es.map Prod.fst).Nodup) : (ofList es).entries = es := by
  have key : ∀ (d : Dict α β) (es : List (α × β)), ((d.entries ++ es).map Prod.fst).Nodup →
      (d.sets es).entries = d.entries ++ es := by
    intro d es
    induction es generalizing d with
    | nil => exact fun _ => (List.append_nil _).symm
    | cons e es ih =>
      intro hnodup
      have hnew : e.1 ∉ d.entries.map Prod.fst := by
        rw [List.map_append, List.map_cons] at hnodup
        intro hmem
        exact (List.nodup_append.mp hnodup).2.2 _ hmem _ List.mem_cons_self rfl
      have hset : (d.set e.1 e.2).entries = d.entries ++ [e] := setEntry_new hnew
      have hrest := ih (d.set e.1 e.2) (by rwa [hset, List.append_assoc, List.singleton_append])
      rw [hset, List.append_assoc, List.singleton_append] at hrest
      exact hrest
  exact key empty es h

end Dict

end Python
