import Mathlib.Tactic

/-!
# Scanning a buffer for frames

A format tells the length of the frame at the front of a buffer, once that frame
is complete.  A scan takes a complete frame off the front, or else skips one
symbol.  Nothing is assumed about what lies between the frames.

    every buffer has exactly one scan                          (Scan.exists, Scan.unique)
    its units are disjoint slices in increasing position       (Scan.placed)
    complete frames in front are found first                   (Scan.units_append)
    what no frame begins in is passed over                     (Scan.silent_append)
    what it finds stands in front of a place it comes to       (Scan.mem_iff)
-/

namespace Framing

variable {α : Type}

/-- How frames lie in a buffer: `size bs` is the length of the frame at the front.
A complete frame is recognised by its own symbols, whatever follows. -/
structure Format (α : Type) where
  size : List α → Option ℕ
  size_pos : ∀ {bs n}, size bs = some n → 0 < n
  size_le : ∀ {bs n}, size bs = some n → n ≤ bs.length
  size_take : ∀ {bs n}, size bs = some n → size (bs.take n) = some n
  size_append : ∀ {bs n} more, size bs = some n → size (bs ++ more) = some n

variable {F : Format α}

namespace Format

/-- The list is one complete frame. -/
def Complete (F : Format α) (u : List α) : Prop := F.size u = some u.length

theorem size_nil (F : Format α) : F.size [] = none := by
  cases h : F.size [] with
  | none => rfl
  | some n =>
    have hpos := F.size_pos h
    have hle := F.size_le h
    rw [List.length_nil] at hle
    omega

theorem complete_take {bs : List α} {n : ℕ} (h : F.size bs = some n) : F.Complete (bs.take n) := by
  have hlen : (bs.take n).length = n := by
    rw [List.length_take]
    have := F.size_le h
    omega
  unfold Complete
  rw [hlen]
  exact F.size_take h

end Format

/-- `Scan F bs us`: the scan of `bs` finds the frames `us`. -/
inductive Scan (F : Format α) : List α → List (List α) → Prop
  | done : Scan F [] []
  | skip {b : α} {bs : List α} {us : List (List α)} (hsize : F.size (b :: bs) = none)
      (hrest : Scan F bs us) : Scan F (b :: bs) us
  | unit {bs : List α} {n : ℕ} {us : List (List α)} (hsize : F.size bs = some n)
      (hrest : Scan F (bs.drop n) us) : Scan F bs (bs.take n :: us)

namespace Scan

theorem unique {bs : List α} {us vs : List (List α)} (h : Scan F bs us) (h' : Scan F bs vs) :
    us = vs := by
  induction h generalizing vs with
  | done =>
    cases h' with
    | done => rfl
    | unit hsize _ => rw [F.size_nil] at hsize; cases hsize
  | skip hsize _ ih =>
    cases h' with
    | skip _ hrest => exact ih hrest
    | unit hsize' _ => rw [hsize] at hsize'; cases hsize'
  | unit hsize _ ih =>
    cases h' with
    | done => rw [F.size_nil] at hsize; cases hsize
    | skip hsize' _ => rw [hsize] at hsize'; cases hsize'
    | unit hsize' hrest =>
      rw [hsize] at hsize'
      obtain rfl := Option.some.inj hsize'
      rw [ih hrest]

theorem exists_of_length (F : Format α) (m : ℕ) : ∀ bs : List α, bs.length ≤ m → ∃ us, Scan F bs us := by
  induction m with
  | zero =>
    intro bs hle
    obtain rfl : bs = [] := List.length_eq_zero_iff.mp (by omega)
    exact ⟨[], .done⟩
  | succ m ih =>
    intro bs hle
    cases hsize : F.size bs with
    | some n =>
      have hpos := F.size_pos hsize
      have hshort : (bs.drop n).length ≤ m := by
        rw [List.length_drop]
        omega
      obtain ⟨us, hus⟩ := ih (bs.drop n) hshort
      exact ⟨_, .unit hsize hus⟩
    | none =>
      cases bs with
      | nil => exact ⟨[], .done⟩
      | cons b bs =>
        have hshort : bs.length ≤ m := by
          rw [List.length_cons] at hle
          omega
        obtain ⟨us, hus⟩ := ih bs hshort
        exact ⟨us, .skip hsize hus⟩

protected theorem «exists» (F : Format α) (bs : List α) : ∃ us, Scan F bs us :=
  exists_of_length F bs.length bs le_rfl

theorem complete {bs : List α} {us : List (List α)} (h : Scan F bs us) : ∀ u ∈ us, F.Complete u := by
  induction h with
  | done => simp
  | skip _ _ ih => exact ih
  | unit hsize _ ih =>
    intro u hu
    rcases List.mem_cons.mp hu with rfl | hu
    · exact Format.complete_take hsize
    · exact ih u hu

end Scan

/-- Slices of `bs` with their positions, one after the other. -/
def Placed (bs : List α) (found : List (ℕ × List α)) : Prop :=
  (∀ e ∈ found, (bs.drop e.1).take e.2.length = e.2 ∧ e.1 + e.2.length ≤ bs.length) ∧
    found.Pairwise fun a b => a.1 + a.2.length ≤ b.1

/-- Slices of the rest of a buffer are slices of the buffer. -/
theorem Placed.shift {bs : List α} {n : ℕ} {found : List (ℕ × List α)} (hn : n ≤ bs.length)
    (h : Placed (bs.drop n) found) : Placed bs (found.map fun e => (n + e.1, e.2)) := by
  refine ⟨fun e he => ?_, ?_⟩
  · obtain ⟨⟨pos, u⟩, hmem, rfl⟩ := List.mem_map.mp he
    have hslice := (h.1 _ hmem).1
    have hle := (h.1 _ hmem).2
    rw [List.drop_drop] at hslice
    rw [List.length_drop] at hle
    refine ⟨hslice, ?_⟩
    simp only at hle ⊢
    omega
  · rw [List.pairwise_map]
    refine h.2.imp fun hab => ?_
    simp only
    omega

theorem Placed.sublist {bs : List α} {found found' : List (ℕ × List α)} (h : Placed bs found)
    (hsub : found'.Sublist found) : Placed bs found' :=
  ⟨fun e he => h.1 e (hsub.subset he), h.2.sublist hsub⟩

/-- The units of a scan lie in the buffer one after the other. -/
theorem Scan.placed {bs : List α} {us : List (List α)} (h : Scan F bs us) :
    ∃ found, found.map Prod.snd = us ∧ Placed bs found := by
  induction h with
  | done => exact ⟨[], rfl, by simp, .nil⟩
  | @skip b bs us _ _ ih =>
    obtain ⟨found, hmap, hfound⟩ := ih
    refine ⟨found.map fun e => (1 + e.1, e.2), by rw [List.map_map]; exact hmap, ?_⟩
    exact Placed.shift (by simp) hfound
  | @unit bs n us hsize _ ih =>
    obtain ⟨found, hmap, hfound⟩ := ih
    have hle := F.size_le hsize
    have hlen : (bs.take n).length = n := by
      rw [List.length_take]
      omega
    have hrest := hfound.shift hle
    refine ⟨(0, bs.take n) :: found.map fun e => (n + e.1, e.2), ?_, fun e he => ?_, ?_⟩
    · rw [List.map_cons, List.map_map]
      exact congrArg (bs.take n :: ·) hmap
    · rcases List.mem_cons.mp he with rfl | he
      · simp only [hlen, List.drop_zero, true_and]
        omega
      · exact hrest.1 e he
    · rw [List.pairwise_cons]
      refine ⟨fun e he => ?_, hrest.2⟩
      obtain ⟨e, -, rfl⟩ := List.mem_map.mp he
      simp only [hlen]
      omega

/-! ## Building scans -/

namespace Scan

theorem unit_append {u rest : List α} {us : List (List α)} (hu : F.Complete u)
    (hrest : Scan F rest us) : Scan F (u ++ rest) (u :: us) := by
  have hsize : F.size (u ++ rest) = some u.length := F.size_append rest hu
  have hscan : Scan F ((u ++ rest).drop u.length) us := by
    rw [List.drop_left]
    exact hrest
  have := Scan.unit hsize hscan
  rwa [List.take_left] at this

/-- Complete frames in front of a buffer are found first, and the rest is scanned as ever. -/
theorem units_append {us vs : List (List α)} {rest : List α} (hus : ∀ u ∈ us, F.Complete u)
    (hrest : Scan F rest vs) : Scan F (us.flatten ++ rest) (us ++ vs) := by
  induction us with
  | nil => exact hrest
  | cons u us ih =>
    rw [List.flatten_cons, List.append_assoc]
    exact unit_append (hus u List.mem_cons_self)
      (ih fun w hw => hus w (List.mem_cons_of_mem u hw))

/-- No frame begins in `g` when `rest` follows it. -/
def Silent (F : Format α) (g rest : List α) : Prop := ∀ b bs, b :: bs <:+ g → F.size (b :: (bs ++ rest)) = none

theorem silent_append {g rest : List α} {us : List (List α)} (hg : Silent F g rest) (hrest : Scan F rest us) :
    Scan F (g ++ rest) us := by
  induction g with
  | nil => exact hrest
  | cons b bs ih => exact .skip (hg b bs List.suffix_rfl) (ih fun c cs hcs => hg c cs (hcs.trans (List.suffix_cons b bs)))

end Scan

/-! ## Where the scan looks -/

/-- `Comes F bs rest`: on its way through `bs` the scan comes to the suffix `rest`. -/
inductive Comes (F : Format α) : List α → List α → Prop
  | here {bs : List α} : Comes F bs bs
  | skip {b : α} {bs rest : List α} (hsize : F.size (b :: bs) = none) (hrest : Comes F bs rest) :
      Comes F (b :: bs) rest
  | jump {bs rest : List α} {n : ℕ} (hsize : F.size bs = some n) (hrest : Comes F (bs.drop n) rest) :
      Comes F bs rest

/-- The scan finds the frames in front of the suffixes it comes to. -/
theorem Scan.mem_iff {bs : List α} {us : List (List α)} (h : Scan F bs us) {u : List α} :
    u ∈ us ↔ ∃ rest n, Comes F bs rest ∧ F.size rest = some n ∧ u = rest.take n := by
  induction h with
  | done =>
    constructor
    · intro hu
      cases hu
    · rintro ⟨rest, n, hcomes, hsize, -⟩
      cases hcomes with
      | here => rw [F.size_nil] at hsize; cases hsize
      | jump hnil _ => rw [F.size_nil] at hnil; cases hnil
  | @skip b bs us hnone _ ih =>
    rw [ih]
    constructor
    · rintro ⟨rest, n, hcomes, hrest⟩
      exact ⟨rest, n, .skip hnone hcomes, hrest⟩
    · rintro ⟨rest, n, hcomes, hsize, hu⟩
      cases hcomes with
      | here => rw [hnone] at hsize; cases hsize
      | skip _ hcomes => exact ⟨rest, n, hcomes, hsize, hu⟩
      | jump hsome _ => rw [hnone] at hsome; cases hsome
  | @unit bs m us hsome _ ih =>
    rw [List.mem_cons, ih]
    constructor
    · rintro (rfl | ⟨rest, n, hcomes, hrest⟩)
      · exact ⟨bs, m, .here, hsome, rfl⟩
      · exact ⟨rest, n, .jump hsome hcomes, hrest⟩
    · rintro ⟨rest, n, hcomes, hsize, hu⟩
      cases hcomes with
      | here =>
        rw [hsome] at hsize
        obtain rfl := Option.some.inj hsize
        exact Or.inl hu
      | skip hnone _ => rw [hsome] at hnone; cases hnone
      | jump hsome' hcomes =>
        rw [hsome] at hsome'
        obtain rfl := Option.some.inj hsome'
        exact Or.inr ⟨rest, n, hcomes, hsize, hu⟩

end Framing
