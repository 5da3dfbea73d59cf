import LuxMon.Automation.Engine
import Mathlib.Data.List.Sort

/-!
# The schedule of the battery source

`_evaluate_battery_soc` sorts the points by time and looks for the one whose interval,
up to the next point, holds the current minute; the last interval wraps past midnight.

    while the minute is before every point, the last interval holds it    (activeSource_before)
    otherwise the interval of the latest point before it does             (activeSource_after)
    the scheduled source is chosen ↔ there are two points, or the only
      one says what is chosen anyway                                      (soc_schedule_iff)
-/

namespace LuxMon

open Python

/-! ## Points with times -/

/-- `point.get("source", "battery")`. -/
def pointSource (point : Json) : Except PyErr Json := point.get "source" (.str "battery")

/-- A point with its time. -/
abbrev TimedPoint := ℤ × Json

/-- The times are those of the points. -/
def Timed (timed : List TimedPoint) : Prop := ∀ e ∈ timed, pointTime e.2 = .ok (some e.1)

/-- Each point with the one after it; `wrap` follows the last. -/
def withNext (timed : List TimedPoint) (wrap : TimedPoint) : List (Json × Json) :=
  (timed.map Prod.snd).zip ((timed.drop 1 ++ [wrap]).map Prod.snd)

/-- The point with the latest time not after the minute, or else with the latest time of all. -/
def Scheduled (points : List Json) (minute : ℤ) (p : Json) : Prop :=
  p ∈ points ∧ ∃ t, pointTime p = .ok (some t) ∧
    ((t ≤ minute ∧ ∀ q ∈ points, ∀ u, pointTime q = .ok (some u) → u ≤ minute → u ≤ t) ∨
      ((∀ q ∈ points, ∀ u, pointTime q = .ok (some u) → minute < u) ∧
        ∀ q ∈ points, ∀ u, pointTime q = .ok (some u) → u ≤ t))

section
variable {minute : ℤ} {wrap : TimedPoint}

/-- One turn of the loop. -/
theorem activeSource_cons {x y : TimedPoint} {rest : List (Json × Json)} (hx : pointTime x.2 = .ok (some x.1))
    (hy : pointTime y.2 = .ok (some y.1)) :
    activeSource minute ((x.2, y.2) :: rest) =
      if x.1 ≤ y.1 then if x.1 ≤ minute ∧ minute < y.1 then pointSource x.2 else activeSource minute rest
      else if x.1 ≤ minute ∨ minute < y.1 then pointSource x.2 else activeSource minute rest := by
  rw [activeSource, hx, hy]
  rfl

/-- Before every point. -/
theorem activeSource_before (x : TimedPoint) (rest : List TimedPoint) (htimed : Timed (x :: rest))
    (hwrap : pointTime wrap.2 = .ok (some wrap.1)) (hsorted : (x :: rest).Pairwise fun p q => p.1 < q.1)
    (hbefore : minute < wrap.1) (hfirst : wrap.1 ≤ x.1) (hlast : ∃ e ∈ x :: rest, wrap.1 < e.1) :
    ∃ e ∈ x :: rest, (∀ f ∈ x :: rest, f.1 ≤ e.1) ∧
      activeSource minute (withNext (x :: rest) wrap) = pointSource e.2 := by
  induction rest generalizing x with
  | nil =>
    obtain ⟨e, he, hlt⟩ := hlast
    obtain rfl := List.mem_singleton.mp he
    refine ⟨e, List.mem_cons_self, fun f hf => le_of_eq (by rw [List.mem_singleton.mp hf]), ?_⟩
    show activeSource minute ((e.2, wrap.2) :: []) = _
    rw [activeSource_cons (htimed e List.mem_cons_self) hwrap, if_neg (by omega), if_pos (Or.inr hbefore)]
  | cons y rest ih =>
    have hxy : x.1 < y.1 := List.rel_of_pairwise_cons hsorted List.mem_cons_self
    obtain ⟨e, he, hmax, hactive⟩ := ih y (fun e he => htimed e (List.mem_cons_of_mem _ he)) hsorted.of_cons
      (by omega) ⟨y, List.mem_cons_self, by omega⟩
    refine ⟨e, List.mem_cons_of_mem _ he, fun f hf => ?_, ?_⟩
    · rcases List.mem_cons.mp hf with rfl | hf
      · have := hmax y List.mem_cons_self
        omega
      · exact hmax f hf
    · show activeSource minute ((x.2, y.2) :: withNext (y :: rest) wrap) = _
      rw [activeSource_cons (htimed x List.mem_cons_self) (htimed y (by simp)), if_pos hxy.le, if_neg (by omega), hactive]

/-- At or after the first point. -/
theorem activeSource_after (x : TimedPoint) (rest : List TimedPoint) (htimed : Timed (x :: rest))
    (hwrap : pointTime wrap.2 = .ok (some wrap.1)) (hsorted : (x :: rest).Pairwise fun p q => p.1 < q.1)
    (hafter : x.1 ≤ minute) (hfirst : wrap.1 ≤ x.1) (hlast : ∃ e ∈ x :: rest, wrap.1 < e.1) :
    ∃ e ∈ x :: rest, e.1 ≤ minute ∧ (∀ f ∈ x :: rest, f.1 ≤ minute → f.1 ≤ e.1) ∧
      activeSource minute (withNext (x :: rest) wrap) = pointSource e.2 := by
  induction rest generalizing x with
  | nil =>
    obtain ⟨e, he, hlt⟩ := hlast
    obtain rfl := List.mem_singleton.mp he
    refine ⟨e, List.mem_cons_self, hafter, fun f hf _ => le_of_eq (by rw [List.mem_singleton.mp hf]), ?_⟩
    show activeSource minute ((e.2, wrap.2) :: []) = _
    rw [activeSource_cons (htimed e List.mem_cons_self) hwrap, if_neg (by omega), if_pos (Or.inl hafter)]
  | cons y rest ih =>
    have hxy : x.1 < y.1 := List.rel_of_pairwise_cons hsorted List.mem_cons_self
    have hturn : activeSource minute (withNext (x :: y :: rest) wrap) =
        if x.1 ≤ y.1 then
          if x.1 ≤ minute ∧ minute < y.1 then pointSource x.2 else activeSource minute (withNext (y :: rest) wrap)
        else if x.1 ≤ minute ∨ minute < y.1 then pointSource x.2 else activeSource minute (withNext (y :: rest) wrap) :=
      activeSource_cons (htimed x List.mem_cons_self) (htimed y (by simp))
    rw [hturn, if_pos hxy.le]
    by_cases hminute : minute < y.1
    · -- the minute is in this interval
      refine ⟨x, List.mem_cons_self, hafter, fun f hf hle => ?_, if_pos ⟨hafter, hminute⟩⟩
      rcases List.mem_cons.mp hf with rfl | hf
      · exact le_rfl
      · rcases List.mem_cons.mp hf with rfl | hf
        · omega
        · have := List.rel_of_pairwise_cons hsorted.of_cons hf
          omega
    · obtain ⟨e, he, hle, hmax, hactive⟩ := ih y (fun e he => htimed e (List.mem_cons_of_mem _ he)) hsorted.of_cons
        (by omega) (by omega) ⟨y, List.mem_cons_self, by omega⟩
      refine ⟨e, List.mem_cons_of_mem _ he, hle, fun f hf hf' => ?_, ?_⟩
      · rcases List.mem_cons.mp hf with rfl | hf
        · have := hmax y List.mem_cons_self (by omega)
          omega
        · exact hmax f hf hf'
      · rw [if_neg (by omega), hactive]

end

/-! ## Sorting -/

/-- Earlier first. -/
def notLater (p q : TimedPoint) : Bool := p.1 ≤ q.1

/-- Valid points, each with its time. -/
theorem timed_exists {points : List Json} (hvalid : ∀ p ∈ points, ∃ t, pointTime p = .ok (some t)) :
    ∃ timed : List TimedPoint, points = timed.map Prod.snd ∧ Timed timed := by
  induction points with
  | nil => exact ⟨[], rfl, by intro e he; cases he⟩
  | cons p points ih =>
    obtain ⟨t, ht⟩ := hvalid p List.mem_cons_self
    obtain ⟨timed, rfl, htimed⟩ := ih fun q hq => hvalid q (List.mem_cons_of_mem _ hq)
    refine ⟨(t, p) :: timed, rfl, fun e he => ?_⟩
    rcases List.mem_cons.mp he with rfl | he
    · exact ht
    · exact htimed e he

theorem sortPoints_timed {timed : List TimedPoint} (htimed : Timed timed) :
    sortPoints (timed.map Prod.snd) = .ok ((timed.mergeSort notLater).map Prod.snd) := by
  have hkeyed : (timed.map Prod.snd).mapM
      (fun p => do return ((← pointTime p).getD 0, p) : Json → Except PyErr TimedPoint) = .ok timed := by
    induction timed with
    | nil => rfl
    | cons e timed ih =>
      rw [List.map_cons, List.mapM_cons, htimed e List.mem_cons_self,
        ih fun f hf => htimed f (List.mem_cons_of_mem _ hf)]
      rfl
  rw [sortPoints, hkeyed]
  rfl

/-- The search goes over the points in order of time, the first one following the last. -/
theorem targetSource_timed {timed : List TimedPoint} (htimed : Timed timed)
    (hdistinct : timed.Pairwise fun p q => p.1 ≠ q.1) (hne : timed ≠ []) (minute : ℤ) :
    ∃ x rest, (x :: rest).Perm timed ∧ (x :: rest).Pairwise (fun p q => p.1 < q.1) ∧
      targetSource (timed.map Prod.snd) minute = activeSource minute (withNext (x :: rest) x) := by
  have hperm : (timed.mergeSort notLater).Perm timed := List.mergeSort_perm _ _
  have hsorted : (timed.mergeSort notLater).Pairwise fun p q => notLater p q = true :=
    List.pairwise_mergeSort (by simp only [notLater, decide_eq_true_eq]; omega)
      (by simp only [notLater, Bool.or_eq_true, decide_eq_true_eq]; omega) _
  have htimes : (timed.mergeSort notLater).Pairwise fun p q => p.1 ≠ q.1 :=
    hperm.symm.pairwise hdistinct fun h => h.symm
  have htarget : targetSource (timed.map Prod.snd) minute =
      activeSource minute (((timed.mergeSort notLater).map Prod.snd).zip
        (((timed.mergeSort notLater).map Prod.snd).rotate 1)) := by
    rw [targetSource, sortPoints_timed htimed]
    rfl
  generalize timed.mergeSort notLater = sorted at hperm hsorted htimes htarget
  cases sorted with
  | nil => exact absurd hperm.nil_eq.symm hne
  | cons x rest =>
    refine ⟨x, rest, hperm, (hsorted.and htimes).imp fun h => ?_, ?_⟩
    · have := of_decide_eq_true h.1
      omega
    · rw [htarget, ← List.map_rotate, List.rotate_cons_succ, List.rotate_zero]
      rfl

/-- One point alone: its interval is empty. -/
theorem targetSource_single {p : Json} {t : ℤ} (htime : pointTime p = .ok (some t)) (minute : ℤ) :
    targetSource [p] minute = .ok (.str "battery") := by
  have htimed : Timed [(t, p)] := fun e he => by
    obtain rfl := List.mem_singleton.mp he
    exact htime
  obtain ⟨x, rest, hperm, -, htarget⟩ := targetSource_timed htimed (List.pairwise_singleton _ _) (by simp) minute
  have hxs : x :: rest = [(t, p)] := List.perm_singleton.mp hperm
  obtain ⟨rfl, rfl⟩ := List.cons.inj hxs
  rw [List.map_singleton] at htarget
  rw [htarget]
  show activeSource minute ((p, p) :: []) = _
  rw [activeSource_cons (x := (t, p)) (y := (t, p)) htime htime, if_pos le_rfl, if_neg (by simp only; omega)]
  rfl

/-! ## The schedule -/

section
variable {points : List Json} {minute : ℤ}

/-- Several points: the scheduled one is found. -/
theorem targetSource_several {timed : List TimedPoint} (htimed : Timed timed)
    (hdistinct : timed.Pairwise fun p q => p.1 ≠ q.1) (hlength : 2 ≤ timed.length) (minute : ℤ) :
    ∃ p, Scheduled (timed.map Prod.snd) minute p ∧ targetSource (timed.map Prod.snd) minute = pointSource p := by
  obtain ⟨x, rest, hperm, hsorted, htarget⟩ :=
    targetSource_timed htimed hdistinct (by intro hnil; rw [hnil] at hlength; simp at hlength) minute
  have hall : Timed (x :: rest) := fun e he => htimed e (hperm.mem_iff.mp he)
  have htime : ∀ q ∈ timed.map Prod.snd, ∀ u, pointTime q = .ok (some u) → ∃ f ∈ x :: rest, f.1 = u := by
    intro q hq u hu
    obtain ⟨f, hf, rfl⟩ := List.mem_map.mp hq
    refine ⟨f, hperm.mem_iff.mpr hf, ?_⟩
    rw [htimed f hf] at hu
    injection hu with hu
    injection hu
  have hlast : ∃ e ∈ x :: rest, x.1 < e.1 := by
    cases rest with
    | nil => rw [← hperm.length_eq] at hlength; simp at hlength
    | cons y rest => exact ⟨y, by simp, List.rel_of_pairwise_cons hsorted List.mem_cons_self⟩
  have hfirst : ∀ e ∈ x :: rest, x.1 ≤ e.1 := by
    intro e he
    rcases List.mem_cons.mp he with rfl | he
    · exact le_rfl
    · exact (List.rel_of_pairwise_cons hsorted he).le
  by_cases hminute : minute < x.1
  · obtain ⟨e, he, hmax, hactive⟩ :=
      activeSource_before x rest hall (hall x List.mem_cons_self) hsorted hminute le_rfl hlast
    refine ⟨e.2, ⟨List.mem_map_of_mem (hperm.mem_iff.mp he), e.1, hall e he, Or.inr ⟨?_, ?_⟩⟩, by rw [htarget, hactive]⟩
    · intro q hq u hu
      obtain ⟨f, hf, rfl⟩ := htime q hq u hu
      have := hfirst f hf
      omega
    · intro q hq u hu
      obtain ⟨f, hf, rfl⟩ := htime q hq u hu
      exact hmax f hf
  · obtain ⟨e, he, hle, hmax, hactive⟩ :=
      activeSource_after x rest hall (hall x List.mem_cons_self) hsorted (not_lt.mp hminute) le_rfl hlast
    refine ⟨e.2, ⟨List.mem_map_of_mem (hperm.mem_iff.mp he), e.1, hall e he, Or.inl ⟨hle, ?_⟩⟩, by rw [htarget, hactive]⟩
    intro q hq u hu hmin
    obtain ⟨f, hf, rfl⟩ := htime q hq u hu
    exact hmax f hf hmin

/-- Two scheduled points have the same time. -/
theorem Scheduled.time_eq {p q : Json} (hp : Scheduled points minute p) (hq : Scheduled points minute q) :
    pointTime p = pointTime q := by
  obtain ⟨hpm, t, ht, hpt⟩ := hp
  obtain ⟨hqm, u, hu, hqu⟩ := hq
  have htu : t = u := by
    rcases hpt with ⟨hle, hmax⟩ | ⟨hbefore, hmax⟩
    · rcases hqu with ⟨hle', hmax'⟩ | ⟨hbefore', -⟩
      · exact le_antisymm (hmax' p hpm t ht hle) (hmax q hqm u hu hle')
      · have := hbefore' p hpm t ht
        omega
    · rcases hqu with ⟨hle', -⟩ | ⟨-, hmax'⟩
      · have := hbefore q hqm u hu
        omega
      · exact le_antisymm (hmax' p hpm t ht) (hmax q hqm u hu)
  rw [ht, hu, htu]

/-- Distinct times tell the points apart. -/
theorem eq_of_pointTime (hdistinct : points.Pairwise fun p q => pointTime p ≠ pointTime q) {p q : Json}
    (hp : p ∈ points) (hq : q ∈ points) (htime : pointTime p = pointTime q) : p = q := by
  have hnodup : (points.map pointTime).Nodup := List.pairwise_map.mpr hdistinct
  exact List.inj_on_of_nodup_map hnodup hp hq htime

/-- One point: it is the scheduled one. -/
theorem Scheduled.single {p : Json} {t : ℤ} (htime : pointTime p = .ok (some t)) (minute : ℤ) :
    Scheduled [p] minute p := by
  have hsame : ∀ q ∈ [p], ∀ u, pointTime q = .ok (some u) → u = t := by
    intro q hq u hu
    rw [List.mem_singleton.mp hq, htime] at hu
    injection hu with hu
    injection hu with hu
    exact hu.symm
  refine ⟨List.mem_singleton.mpr rfl, t, htime, ?_⟩
  by_cases hle : t ≤ minute
  · exact Or.inl ⟨hle, fun q hq u hu _ => (hsame q hq u hu).le⟩
  · exact Or.inr ⟨fun q hq u hu => by have := hsame q hq u hu; omega, fun q hq u hu => (hsame q hq u hu).le⟩

/-- The scheduled point's source is chosen exactly when there are several points, or the
only one names the battery. -/
theorem soc_schedule_iff (points : List Json) (hne : points ≠ [])
    (hvalid : ∀ p ∈ points, ∃ t, pointTime p = .ok (some t))
    (hdistinct : points.Pairwise fun p q => pointTime p ≠ pointTime q) (minute : ℤ) :
    (∃ p, Scheduled points minute p) ∧
      ∀ p, Scheduled points minute p → (targetSource points minute = pointSource p ↔
        2 ≤ points.length ∨ ∀ q ∈ points, pointSource q = .ok (.str "battery")) := by
  by_cases hlength : 2 ≤ points.length
  · obtain ⟨timed, rfl, htimed⟩ := timed_exists hvalid
    have htimes : timed.Pairwise fun p q => p.1 ≠ q.1 := by
      refine (List.pairwise_map.mp hdistinct).imp_of_mem fun {p q} hp hq h heq => h ?_
      rw [htimed p hp, htimed q hq, heq]
    obtain ⟨p, hp, htarget⟩ := targetSource_several htimed htimes (by rwa [List.length_map] at hlength) minute
    refine ⟨⟨p, hp⟩, fun q hq => ⟨fun _ => Or.inl hlength, fun _ => ?_⟩⟩
    rw [htarget, eq_of_pointTime hdistinct hp.1 hq.1 (hp.time_eq hq)]
  · obtain ⟨p, rfl⟩ := List.length_eq_one_iff.mp
      (le_antisymm (by omega) (List.length_pos_iff.mpr hne))
    obtain ⟨t, htime⟩ := hvalid p List.mem_cons_self
    refine ⟨⟨p, Scheduled.single htime minute⟩, fun q hq => ?_⟩
    obtain rfl := List.mem_singleton.mp hq.1
    rw [targetSource_single htime]
    constructor
    · intro hsource
      exact Or.inr fun r hr => by rw [List.mem_singleton.mp hr, hsource]
    · rintro (htwo | hsource)
      · exact absurd htwo hlength
      · exact (hsource q List.mem_cons_self).symm

end

/-- `{"time": …, "source": …}`. -/
def schedulePoint (time source : String) : Json := .obj [("time", .str time), ("source", .str source)]

theorem eight_time (source : String) : pointTime (schedulePoint "08:00" source) = .ok (some 480) := by
  show Except.ok (parseHhmm (.str "08:00")) = _
  rw [show parseHhmm (.str "08:00") = some 480 by decide +kernel]

theorem eighteen_time (source : String) : pointTime (schedulePoint "18:00" source) = .ok (some 1080) := by
  show Except.ok (parseHhmm (.str "18:00")) = _
  rw [show parseHhmm (.str "18:00") = some 1080 by decide +kernel]

/-- At 05:00 the interval from 18:00 to 08:00 holds the minute. -/
theorem soc_schedule_wraps :
    targetSource [schedulePoint "18:00" "grid", schedulePoint "08:00" "battery"] 300 = .ok (.str "grid") := by
  have htimes : ∀ q ∈ [schedulePoint "18:00" "grid", schedulePoint "08:00" "battery"],
      pointTime q = .ok (some 1080) ∨ pointTime q = .ok (some 480) := by
    simp [eight_time, eighteen_time]
  have hscheduled : Scheduled [schedulePoint "18:00" "grid", schedulePoint "08:00" "battery"] 300
      (schedulePoint "18:00" "grid") := by
    have hvalues : ∀ q ∈ [schedulePoint "18:00" "grid", schedulePoint "08:00" "battery"],
        ∀ u, pointTime q = .ok (some u) → u = 1080 ∨ u = 480 := by
      intro q hq u hu
      rcases htimes q hq with h | h
      · left
        rw [h] at hu
        simpa using hu.symm
      · right
        rw [h] at hu
        simpa using hu.symm
    refine ⟨by simp, 1080, eighteen_time "grid", Or.inr ⟨fun q hq u hu => ?_, fun q hq u hu => ?_⟩⟩
    · have := hvalues q hq u hu
      omega
    · have := hvalues q hq u hu
      omega
  exact ((soc_schedule_iff [schedulePoint "18:00" "grid", schedulePoint "08:00" "battery"] (by simp)
    (fun q hq => (htimes q hq).elim (fun h => ⟨_, h⟩) fun h => ⟨_, h⟩)
    (by simp [eight_time, eighteen_time]) 300).2 _ hscheduled).mpr (Or.inl (by simp))

/-- A schedule of one point is not followed. -/
theorem soc_single_point_ignored :
    Scheduled [schedulePoint "08:00" "grid"] 600 (schedulePoint "08:00" "grid") ∧
      pointSource (schedulePoint "08:00" "grid") = .ok (.str "grid") ∧
      targetSource [schedulePoint "08:00" "grid"] 600 = .ok (.str "battery") ∧
      ¬ targetSource [schedulePoint "08:00" "grid"] 600 = pointSource (schedulePoint "08:00" "grid") := by
  have hignored := targetSource_single (eight_time "grid") 600
  refine ⟨Scheduled.single (eight_time "grid") 600, rfl, hignored, ?_⟩
  rw [hignored, show pointSource (schedulePoint "08:00" "grid") = .ok (.str "grid") from rfl]
  simp

end LuxMon
