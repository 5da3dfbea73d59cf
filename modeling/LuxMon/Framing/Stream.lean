import LuxMon.Framing.Scan

/-!
# A stream of frames, part of it received

Frames one after the other, of which some symbols have been received: complete
frames, and a part of the next one that is shorter than it.

    received symbols are complete frames and an open rest                (split_stream)
    the scan of them finds the complete frames, then what the rest holds (scan_received)
-/

namespace Framing

variable {α β : Type} (bytes : β → List α)

/-- The symbols of frames one after the other. -/
def concat (fs : List β) : List α := fs.flatMap bytes

/-- The frames that are complete after `n` symbols of their stream. -/
def completed : List β → ℕ → List β
  | f :: fs, n => if (bytes f).length ≤ n then f :: completed fs (n - (bytes f).length) else []
  | [], _ => []

/-- What follows the complete frames is less than the next frame. -/
def Open (fs : List β) (p : List α) : Prop := ∀ f ∈ fs.head?, p.length < (bytes f).length

variable {bytes}

theorem concat_cons (f : β) (fs : List β) : concat bytes (f :: fs) = bytes f ++ concat bytes fs :=
  List.flatMap_cons

theorem concat_append (fs gs : List β) :
    concat bytes (fs ++ gs) = concat bytes fs ++ concat bytes gs :=
  List.flatMap_append

/-- The open rest begins the next frame. -/
theorem Open.prefix_of {f : β} {fs : List β} {p r : List α} (hopen : Open bytes (f :: fs) p)
    (h : p ++ r = concat bytes (f :: fs)) : p <+: bytes f :=
  List.prefix_of_prefix_length_le ⟨r, h⟩ ⟨concat bytes fs, rfl⟩ (Nat.le_of_lt (hopen f rfl))

theorem Open.nil_of_nil {p r : List α} (h : p ++ r = concat bytes []) : p = [] :=
  (List.append_eq_nil_iff.mp h).1

theorem split_stream {fs : List β} {b r : List α} (h : b ++ r = concat bytes fs) :
    ∃ fs' p, fs = completed bytes fs b.length ++ fs' ∧
      b = concat bytes (completed bytes fs b.length) ++ p ∧
      p ++ r = concat bytes fs' ∧ Open bytes fs' p := by
  induction fs generalizing b with
  | nil =>
    obtain ⟨rfl, rfl⟩ := List.append_eq_nil_iff.mp h
    exact ⟨[], [], rfl, rfl, rfl, by simp [Open]⟩
  | cons f fs ih =>
    by_cases hf : (bytes f).length ≤ b.length
    · obtain ⟨b', rfl⟩ : ∃ b', b = bytes f ++ b' := by
        have hpre : bytes f <+: b :=
          List.prefix_of_prefix_length_le ⟨concat bytes fs, rfl⟩ ⟨r, h⟩ hf
        exact ⟨hpre.choose, hpre.choose_spec.symm⟩
      have hrest : b' ++ r = concat bytes fs := by
        rw [concat_cons, List.append_assoc] at h
        exact List.append_cancel_left h
      obtain ⟨fs', p, hfs, hb, hpr, hopen⟩ := ih hrest
      have hc : completed bytes (f :: fs) (bytes f ++ b').length =
          f :: completed bytes fs b'.length := by
        rw [completed, if_pos hf]
        congr 2
        rw [List.length_append]
        omega
      refine ⟨fs', p, ?_, ?_, hpr, hopen⟩
      · rw [hc, List.cons_append, ← hfs]
      · rw [hc, concat_cons, List.append_assoc, ← hb]
    · refine ⟨f :: fs, b, ?_, ?_, h, ?_⟩
      · rw [completed, if_neg hf, List.nil_append]
      · rw [completed, if_neg hf]
        rfl
      · intro g hg
        obtain rfl : f = g := by simpa using hg
        omega

/-- What has been received is scanned as the complete frames and then the rest. -/
theorem scan_received {F : Format α} {fs : List β} {p : List α} {us : List (List α)}
    (hfs : ∀ f ∈ fs, F.Complete (bytes f)) (hp : Scan F p us) :
    Scan F (concat bytes fs ++ p) (fs.map bytes ++ us) := by
  have hunits : ∀ u ∈ fs.map bytes, F.Complete u := by
    intro u hu
    obtain ⟨f, hf, rfl⟩ := List.mem_map.mp hu
    exact hfs f hf
  have := Scan.units_append hunits hp
  rwa [← List.flatMap_def] at this

end Framing
