import Mathlib.Tactic

/-!
# Edges of a boolean signal

A publisher that remembers the last sample and publishes a sample that differs
from it.  What was published outlives the publisher: after a reset it remembers
nothing (`false`).  A throttle passes an edge on only some time after its last
attempt, and an attempt may fail.

    the published edges tell the truth ↔
      no reset that a sample follows forgets a `true`            (edges_truthful_iff)
    the last delivered edge is the current state ↔
      an even number of edges after it were not delivered        (delivered_current_iff)
-/

namespace Signals

/-- What happens to the publisher. -/
inductive Tick
  | sample (b : Bool)
  | idle
  | reset

/-- The published edges, with `s` remembered. -/
def edges : Bool → List Tick → List Bool
  | _, [] => []
  | s, .sample b :: ts => (if b ≠ s then [b] else []) ++ edges b ts
  | s, .idle :: ts => edges s ts
  | _, .reset :: ts => edges false ts

/-- What is remembered at the end. -/
def recorded : Bool → List Tick → Bool
  | s, [] => s
  | _, .sample b :: ts => recorded b ts
  | s, .idle :: ts => recorded s ts
  | _, .reset :: ts => recorded false ts

/-- The published state: the last edge, or `false` before the first. -/
def lastState (es : List Bool) : Bool := es.getLastD false

/-- Strictly alternating, starting with `b`. -/
def Alternates : Bool → List Bool → Prop
  | _, [] => True
  | b, e :: es => e = b ∧ Alternates (!b) es

theorem edges_append (s : Bool) (ts us : List Tick) :
    edges s (ts ++ us) = edges s ts ++ edges (recorded s ts) us := by
  induction ts generalizing s with
  | nil => rfl
  | cons t ts ih =>
    cases t with
    | sample b =>
      rw [List.cons_append, edges, edges, ih, List.append_assoc]
      rfl
    | idle => exact ih s
    | reset => exact ih false

theorem recorded_append (s : Bool) (ts us : List Tick) :
    recorded s (ts ++ us) = recorded (recorded s ts) us := by
  induction ts generalizing s with
  | nil => rfl
  | cons t ts ih =>
    cases t with
    | sample b => exact ih b
    | idle => exact ih s
    | reset => exact ih false

/-- Without a sample nothing is learnt: a remembered `true` was there before. -/
theorem recorded_quiet {s : Bool} {ts : List Tick} (hquiet : ∀ b, Tick.sample b ∉ ts)
    (hrec : recorded s ts = true) : s = true := by
  induction ts generalizing s with
  | nil => exact hrec
  | cons t ts ih =>
    have hquiet' : ∀ b, Tick.sample b ∉ ts := fun b hb => hquiet b (List.mem_cons_of_mem _ hb)
    cases t with
    | sample b => exact absurd List.mem_cons_self (hquiet b)
    | idle => exact ih hquiet' hrec
    | reset => exact absurd (ih hquiet' hrec) (by simp)

theorem edges_quiet (s : Bool) {ts : List Tick} (hquiet : ∀ b, Tick.sample b ∉ ts) :
    edges s ts = [] := by
  induction ts generalizing s with
  | nil => rfl
  | cons t ts ih =>
    have hquiet' : ∀ b, Tick.sample b ∉ ts := fun b hb => hquiet b (List.mem_cons_of_mem _ hb)
    cases t with
    | sample b => exact absurd List.mem_cons_self (hquiet b)
    | idle => exact ih s hquiet'
    | reset => exact ih false hquiet'

theorem first_sample {ts : List Tick} (h : ∃ b, Tick.sample b ∈ ts) :
    ∃ quiet x rest, ts = quiet ++ .sample x :: rest ∧ ∀ b, Tick.sample b ∉ quiet := by
  obtain ⟨b, hb⟩ := h
  induction ts with
  | nil => cases hb
  | cons t ts ih =>
    cases t with
    | sample x => exact ⟨[], x, ts, rfl, by simp⟩
    | idle =>
      obtain ⟨quiet, x, rest, rfl, hquiet⟩ := ih (by simpa using hb)
      exact ⟨.idle :: quiet, x, rest, rfl, by simpa using hquiet⟩
    | reset =>
      obtain ⟨quiet, x, rest, rfl, hquiet⟩ := ih (by simpa using hb)
      exact ⟨.reset :: quiet, x, rest, rfl, by simpa using hquiet⟩

@[simp] theorem lastState_append_single (es : List Bool) (e : Bool) : lastState (es ++ [e]) = e := by
  simp [lastState]

/-- One more edge alternates exactly when it differs from the published state. -/
theorem alternates_append_single (es : List Bool) (e : Bool) :
    Alternates true (es ++ [e]) ↔ Alternates true es ∧ e ≠ lastState es := by
  have key : ∀ (b : Bool) (es : List Bool),
      Alternates b (es ++ [e]) ↔ Alternates b es ∧ e ≠ es.getLastD (!b) := by
    intro b es
    induction es generalizing b with
    | nil => simp [Alternates]
    | cons x es ih =>
      rw [List.cons_append, Alternates, Alternates, ih, and_assoc]
      refine and_congr_right fun hx => and_congr_right fun _ => ?_
      rw [List.getLastD_cons, hx, Bool.not_not]
  exact key true es

theorem getLastD_append (s : Bool) (es fs : List Bool) :
    (es ++ fs).getLastD s = fs.getLastD (es.getLastD s) := by
  induction es generalizing s with
  | nil => rfl
  | cons e es ih => rw [List.cons_append, List.getLastD_cons, List.getLastD_cons, ih]

/-- Alternating lists follow each other when the second starts against the end of the first. -/
theorem alternates_append {s : Bool} {es fs : List Bool} (h : Alternates (!s) es)
    (h' : Alternates (!(es.getLastD s)) fs) : Alternates (!s) (es ++ fs) := by
  induction es generalizing s with
  | nil => exact h'
  | cons e es ih =>
    obtain ⟨rfl, hes⟩ := h
    rw [List.getLastD_cons] at h'
    exact ⟨rfl, ih hes h'⟩

/-! ## Truth across resets -/

/-- After each sample the published edges alternate and end in the sample. -/
def Truthful (ts : List Tick) : Prop :=
  ∀ pre b post, ts = pre ++ .sample b :: post →
    Alternates true (edges false (pre ++ [.sample b])) ∧
      lastState (edges false (pre ++ [.sample b])) = b

theorem edges_sample (ts : List Tick) (b : Bool) :
    edges false (ts ++ [.sample b]) =
      edges false ts ++ if b ≠ recorded false ts then [b] else [] := by
  rw [edges_append]
  show edges false ts ++ ((if b ≠ recorded false ts then [b] else []) ++ []) = _
  rw [List.append_nil]

/-- A publisher whose memory is the published state tells the truth with its next sample. -/
theorem sample_truthful {ts : List Tick} {b : Bool} (halt : Alternates true (edges false ts))
    (hsame : lastState (edges false ts) = recorded false ts) :
    Alternates true (edges false (ts ++ [.sample b])) ∧
      lastState (edges false (ts ++ [.sample b])) = b := by
  rw [edges_sample]
  by_cases hb : b = recorded false ts
  · rw [if_neg (by simp [hb]), List.append_nil, hsame]
    exact ⟨halt, hb.symm⟩
  · rw [if_pos hb, alternates_append_single, lastState_append_single, hsame]
    exact ⟨⟨halt, hb⟩, rfl⟩

/-- No sample tells the truth when the published state is `true` and nothing is remembered. -/
theorem not_sample_truthful {ts : List Tick} (b : Bool) (hlast : lastState (edges false ts) = true)
    (hrec : recorded false ts = false) :
    ¬ (Alternates true (edges false (ts ++ [.sample b])) ∧
      lastState (edges false (ts ++ [.sample b])) = b) := by
  rintro ⟨halt, hstate⟩
  rw [edges_sample, hrec] at halt hstate
  cases b with
  | false =>
    rw [if_neg (by simp), List.append_nil, hlast] at hstate
    exact absurd hstate (by decide)
  | true =>
    rw [if_pos (by simp), alternates_append_single, hlast] at halt
    exact halt.2 rfl

/-- What a truthful publisher remembers as `true` is published as `true`. -/
theorem Truthful.lastState_of_recorded {pre post : List Tick} (htruth : Truthful (pre ++ post))
    (hrec : recorded false pre = true) : lastState (edges false pre) = true := by
  induction pre using List.reverseRecOn generalizing post with
  | nil => exact absurd hrec (by decide)
  | append_singleton pre t ih =>
    rw [List.append_assoc, List.singleton_append] at htruth
    rw [recorded_append] at hrec
    cases t with
    | sample b => rw [(htruth pre b post rfl).2]; exact hrec
    | idle =>
      rw [edges_append]
      show lastState (edges false pre ++ []) = true
      rw [List.append_nil]
      exact ih htruth hrec
    | reset => exact absurd hrec (by simp [recorded])

theorem edges_truthful_iff (ts : List Tick) :
    Truthful ts ↔ ∀ pre post, ts = pre ++ .reset :: post → (∃ b, Tick.sample b ∈ post) →
      recorded false pre = false := by
  constructor
  · rintro htruth pre post rfl hpost
    by_contra hrec
    have hlast := htruth.lastState_of_recorded (Bool.eq_true_of_not_eq_false hrec)
    -- the first sample after the reset finds the memory empty
    obtain ⟨quiet, x, rest, rfl, hquiet⟩ := first_sample hpost
    have hquiet' : ∀ b, Tick.sample b ∉ Tick.reset :: quiet := by simpa using hquiet
    have hedges : lastState (edges false (pre ++ .reset :: quiet)) = true := by
      rw [edges_append, edges_quiet _ hquiet', List.append_nil, hlast]
    have hempty : recorded false (pre ++ .reset :: quiet) = false := by
      rw [recorded_append]
      exact Bool.eq_false_iff.mpr fun h => absurd (recorded_quiet hquiet h) (by decide)
    exact not_sample_truthful x hedges hempty (htruth (pre ++ .reset :: quiet) x rest (by simp))
  · intro hcond
    -- as long as a sample is still to come, the memory is the published state
    have key : ∀ pre post, ts = pre ++ post → (∃ b, Tick.sample b ∈ post) →
        Alternates true (edges false pre) ∧
          lastState (edges false pre) = recorded false pre := by
      intro pre
      induction pre using List.reverseRecOn with
      | nil => exact fun _ _ _ => ⟨trivial, rfl⟩
      | append_singleton pre t ih =>
        intro post hsplit ⟨b, hb⟩
        rw [List.append_assoc, List.singleton_append] at hsplit
        have hpre := ih (t :: post) hsplit ⟨b, List.mem_cons_of_mem t hb⟩
        rw [recorded_append]
        cases t with
        | sample x => exact sample_truthful hpre.1 hpre.2
        | idle =>
          rw [edges_append]
          show Alternates true (edges false pre ++ []) ∧ lastState (edges false pre ++ []) = _
          rw [List.append_nil]
          exact hpre
        | reset =>
          rw [edges_append]
          show Alternates true (edges false pre ++ []) ∧ lastState (edges false pre ++ []) = false
          rw [List.append_nil, hpre.2]
          exact ⟨hpre.1, hcond pre post hsplit ⟨b, hb⟩⟩
    intro pre b post hsplit
    obtain ⟨halt, hsame⟩ := key pre (.sample b :: post) hsplit ⟨b, List.mem_cons_self⟩
    exact sample_truthful halt hsame

/-! ## A throttle -/

/-- An edge that a throttled channel is to deliver. -/
structure Edge where
  time : ℚ
  active : Bool
  ok : Bool

/-- Whether each edge is delivered: it comes `gap` or more after the last attempt (at
`last`), and the attempt does not fail. -/
def passed (gap : ℚ) : ℚ → List Edge → List Bool
  | _, [] => []
  | last, e :: es =>
    if e.time - last < gap then false :: passed gap last es else e.ok :: passed gap e.time es

/-- The time of the last attempt. -/
def lastAttempt (gap : ℚ) : ℚ → List Edge → ℚ
  | last, [] => last
  | last, e :: es => lastAttempt gap (if e.time - last < gap then last else e.time) es

/-- The delivered states, in order. -/
def delivered (gap : ℚ) : ℚ → List Edge → List Bool
  | _, [] => []
  | last, e :: es =>
    if e.time - last < gap then delivered gap last es
    else (if e.ok then [e.active] else []) ++ delivered gap e.time es

theorem length_passed (gap last : ℚ) (es : List Edge) : (passed gap last es).length = es.length := by
  induction es generalizing last with
  | nil => rfl
  | cons e es ih =>
    unfold passed
    split
    · rw [List.length_cons, List.length_cons, ih]
    · rw [List.length_cons, List.length_cons, ih]

theorem delivered_append (gap last : ℚ) (es fs : List Edge) :
    delivered gap last (es ++ fs) = delivered gap last es ++ delivered gap (lastAttempt gap last es) fs := by
  induction es generalizing last with
  | nil => rfl
  | cons e es ih =>
    rw [List.cons_append, delivered, delivered, lastAttempt]
    by_cases h : e.time - last < gap
    · rw [if_pos h, if_pos h, if_pos h, ih]
    · rw [if_neg h, if_neg h, if_neg h, ih, List.append_assoc]

/-- Delivered are the states of the edges that pass. -/
theorem delivered_eq (gap last : ℚ) (es : List Edge) :
    delivered gap last es =
      ((es.map Edge.active).zip (passed gap last es)).filterMap fun x => if x.2 then some x.1 else none := by
  induction es generalizing last with
  | nil => rfl
  | cons e es ih =>
    rw [List.map_cons, delivered, passed]
    by_cases h : e.time - last < gap
    · rw [if_pos h, if_pos h, List.zip_cons_cons, List.filterMap_cons_none rfl, ih]
    · rw [if_neg h, if_neg h, List.zip_cons_cons, ih]
      cases he : e.ok with
      | false => rfl
      | true => rfl

/-- Flags without a `true`, or the last `true` and how many follow it. -/
theorem last_true (ps : List Bool) :
    ps = List.replicate ps.length false ∨ ∃ pre n, ps = pre ++ true :: List.replicate n false := by
  induction ps with
  | nil => exact Or.inl rfl
  | cons p ps ih =>
    rcases ih with h | ⟨pre, n, h⟩
    · cases p with
      | false =>
        left
        rw [List.length_cons, List.replicate_succ, ← h]
      | true => exact Or.inr ⟨[], ps.length, by rw [List.nil_append, ← h]⟩
    · exact Or.inr ⟨p :: pre, n, by rw [h, List.cons_append]⟩

/-- The last state of an alternating list that starts with `a`. -/
theorem alternates_getLast? {b a : Bool} {bs : List Bool} (h : Alternates b (a :: bs)) :
    (a :: bs).getLast? = some (if Even bs.length then a else !a) := by
  induction bs generalizing b a with
  | nil => simp
  | cons x bs ih =>
    obtain ⟨rfl, hx⟩ := h
    have hxa : x = !a := hx.1
    rw [List.getLast?_cons_cons, ih hx, List.length_cons, hxa]
    by_cases he : Even bs.length
    · rw [if_pos he, if_neg (by rwa [Nat.even_add_one, not_not])]
    · rw [if_neg he, if_pos (by rwa [Nat.even_add_one]), Bool.not_not]

theorem alternates_drop {b : Bool} {as bs : List Bool} (h : Alternates b (as ++ bs)) :
    ∃ c, Alternates c bs := by
  induction as generalizing b with
  | nil => exact ⟨b, h⟩
  | cons a as ih => exact ih h.2

theorem filterMap_zip_false (as : List Bool) (n : Nat) :
    (as.zip (List.replicate n false)).filterMap (fun x => if x.2 then some x.1 else none) = [] := by
  rw [List.filterMap_eq_nil_iff]
  intro x hx
  rw [List.eq_of_mem_replicate (List.of_mem_zip hx).2]
  rfl

/-- How many flags follow the last `true` is determined. -/
theorem last_true_unique {pre pre' : List Bool} {n n' : Nat}
    (h : pre ++ true :: List.replicate n false = pre' ++ true :: List.replicate n' false) : n = n' := by
  have hrev := congrArg (fun l => (l.reverse.takeWhile (· == false)).length) h
  simpa [List.takeWhile_append, List.takeWhile_replicate] using hrev

theorem exists_split {as : List Bool} {k n : Nat} (h : as.length = k + (n + 1)) :
    ∃ front a rest, as = front ++ a :: rest ∧ front.length = k ∧ rest.length = n := by
  have hlt : k < as.length := by omega
  refine ⟨as.take k, as[k], as.drop (k + 1), ?_, ?_, ?_⟩
  · rw [← List.drop_eq_getElem_cons hlt, List.take_append_drop]
  · rw [List.length_take]
    omega
  · rw [List.length_drop]
    omega

/-- The last delivered edge carries the current state exactly when an even number of edges
follow it. -/
theorem delivered_current_iff (gap last : ℚ) {es : List Edge} (hne : es ≠ [])
    (halt : Alternates true (es.map Edge.active)) :
    (delivered gap last es).getLast? = (es.map Edge.active).getLast? ↔
      ∃ pre n, passed gap last es = pre ++ true :: List.replicate n false ∧ Even n := by
  have hlen := length_passed gap last es
  rw [delivered_eq]
  rcases last_true (passed gap last es) with hnone | ⟨pre, n, hsome⟩
  · constructor
    · intro h
      rw [hnone, filterMap_zip_false, List.getLast?_nil] at h
      exact absurd (List.map_eq_nil_iff.mp (List.getLast?_eq_none_iff.mp h.symm)) hne
    · rintro ⟨pre, n, hsome, -⟩
      rw [hsome] at hnone
      have hmem : true ∈ List.replicate (pre ++ true :: List.replicate n false).length false := by
        rw [← hnone]
        simp
      exact absurd (List.eq_of_mem_replicate hmem) (by decide)
  · -- split the states at the last edge that passed
    have htotal : (es.map Edge.active).length = pre.length + (n + 1) := by
      rw [List.length_map, ← hlen, hsome]
      simp
    obtain ⟨as, a, bs, hacts, hpre, hbs⟩ := exists_split htotal
    have hlast : (((es.map Edge.active).zip (passed gap last es)).filterMap
        fun x => if x.2 then some x.1 else none).getLast? = some a := by
      rw [hacts, hsome, List.zip_append hpre, List.filterMap_append, List.zip_cons_cons]
      show (_ ++ a :: (bs.zip (List.replicate n false)).filterMap _).getLast? = some a
      rw [filterMap_zip_false, List.getLast?_concat]
    obtain ⟨c, hc⟩ := alternates_drop (hacts ▸ halt)
    have hcurrent : (es.map Edge.active).getLast? = some (if Even bs.length then a else !a) := by
      rw [hacts, List.getLast?_append_of_ne_nil _ (by simp), alternates_getLast? hc]
    rw [hlast, hcurrent, hbs]
    constructor
    · intro h
      refine ⟨pre, n, hsome, ?_⟩
      by_contra hodd
      rw [if_neg hodd] at h
      cases a <;> simp at h
    · rintro ⟨pre', n', hsome', heven⟩
      have hn : n = n' := last_true_unique (hsome.symm.trans hsome')
      rw [if_pos (hn ▸ heven)]

end Signals
