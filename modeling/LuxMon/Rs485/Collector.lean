import LuxMon.Effects.Machine
import LuxMon.Rs485.Eg4A5Device
import LuxMon.Storage.Rs485

/-!
# The loop of the RS-485 collector

`Rs485Collector.run` reads its device again and again, keeps the last data that was not empty, and
writes it when the write interval since the last attempt is over; a read that raises ends the turn.

    each turn writes the last data there was, exactly when it is due            (run_writes)
    over A5/5A, a snapshot is what the last status frame and the last cells
      frame of everything heard so far told                                   (a5_snapshots)
-/

namespace LuxMon.Rs485

open Python Framing

/-! ## Algorithm -/

/-- A turn of the loop: what the device answers, the time of the check, and the time behind the write. -/
structure Turn where
  data : Except PyErr Decoded
  now : ℚ
  done : ℚ

/-- `latest_data` and `next_write`. -/
structure Loop where
  latestData : Decoded
  nextWrite : ℚ

def start : Loop := ⟨.empty, 0⟩

/-- The data is not empty. -/
def holds (data : Decoded) : Bool := !data.entries.isEmpty

/-- A turn: the data that goes to `_prefix_keys`, `_numeric_values` and the outputs, if it is time. -/
def turn (writeInterval : ℚ) (l : Loop) (t : Turn) : Loop × Option Decoded :=
  match t.data with
  | .error _ => (l, none)
  | .ok data =>
    let latestData := if holds data then data else l.latestData
    if holds latestData ∧ l.nextWrite ≤ t.now then (⟨latestData, t.done + writeInterval⟩, some latestData)
    else (⟨latestData, l.nextWrite⟩, none)

/-- The data that each turn writes. -/
def run (writeInterval : ℚ) (turns : List Turn) : List (Option Decoded) :=
  Machine.outputs (turn writeInterval) start turns

/-! ## What is written when -/

/-- The data of a turn, if it is not empty. -/
def Turn.read (t : Turn) : Option Decoded := t.data.toOption.filter holds

/-- The last data that was not empty. -/
def lastRead (turns : List Turn) : Decoded := (turns.filterMap Turn.read).getLast?.getD .empty

/-- When the last write was over. -/
def lastDone (writeInterval : ℚ) (turns : List Turn) : Option ℚ :=
  ((turns.zip (run writeInterval turns)).filterMap fun x => x.2.map fun _ => x.1.done).getLast?

/-- The interval since the last write is over. -/
def Due (writeInterval : ℚ) (earlier : List Turn) (now : ℚ) : Prop :=
  (lastDone writeInterval earlier).elim 0 (· + writeInterval) ≤ now

/-- What a turn is to write. -/
def Writes (writeInterval : ℚ) (earlier : List Turn) (t : Turn) : Prop :=
  t.data.isOk = true ∧ holds (lastRead (earlier ++ [t])) = true ∧ Due writeInterval earlier t.now

instance (writeInterval : ℚ) (earlier : List Turn) (now : ℚ) : Decidable (Due writeInterval earlier now) := by
  unfold Due
  infer_instance

instance (writeInterval : ℚ) (earlier : List Turn) (t : Turn) : Decidable (Writes writeInterval earlier t) := by
  unfold Writes
  infer_instance

section
variable (writeInterval : ℚ) (earlier : List Turn) (t : Turn)

theorem lastRead_concat : lastRead (earlier ++ [t]) = t.read.getD (lastRead earlier) := by
  unfold lastRead
  rw [List.filterMap_append]
  cases h : t.read with
  | none => simp [h]
  | some data => simp [h]

theorem run_concat : run writeInterval (earlier ++ [t]) =
    run writeInterval earlier ++ [(turn writeInterval (Machine.after (turn writeInterval) start earlier) t).2] :=
  Machine.outputs_append _ _ _ _

theorem lastDone_concat : lastDone writeInterval (earlier ++ [t]) =
    if (turn writeInterval (Machine.after (turn writeInterval) start earlier) t).2.isSome then some t.done
    else lastDone writeInterval earlier := by
  have hlength : earlier.length = (run writeInterval earlier).length := (Machine.length_outputs _ _ _).symm
  unfold lastDone
  rw [run_concat, List.zip_append hlength, List.filterMap_append]
  cases h : (turn writeInterval (Machine.after (turn writeInterval) start earlier) t).2 with
  | none => simp
  | some data => simp

/-- A turn, by what was read and written before. -/
theorem turn_eq {l : Loop} (hlatest : l.latestData = lastRead earlier)
    (hnext : l.nextWrite = (lastDone writeInterval earlier).elim 0 (· + writeInterval)) : turn writeInterval l t =
      if Writes writeInterval earlier t then
        (⟨lastRead (earlier ++ [t]), t.done + writeInterval⟩, some (lastRead (earlier ++ [t])))
      else (⟨lastRead (earlier ++ [t]), l.nextWrite⟩, none) := by
  have hread : lastRead (earlier ++ [t]) = t.read.getD (lastRead earlier) := lastRead_concat earlier t
  have hdue : Due writeInterval earlier t.now ↔ l.nextWrite ≤ t.now := by
    unfold Due
    rw [hnext]
  unfold turn
  cases hdata : t.data with
  | error e =>
    have hnone : t.read = none := by
      unfold Turn.read
      rw [hdata]
      rfl
    have hno : ¬ Writes writeInterval earlier t := fun h => by
      rw [Writes, hdata] at h
      exact Bool.false_ne_true h.1
    rw [if_neg hno, hread, hnone, Option.getD_none, ← hlatest]
  | ok data =>
    have hlast : (if holds data then data else l.latestData) = lastRead (earlier ++ [t]) := by
      rw [hread, hlatest]
      unfold Turn.read
      rw [hdata]
      by_cases h : holds data
      · simp [Except.toOption, Option.filter, h]
      · simp [Except.toOption, Option.filter, h]
    simp only [hlast]
    refine if_congr ?_ rfl rfl
    rw [Writes, hdata, hdue]
    exact ⟨fun h => ⟨rfl, h⟩, And.right⟩

/-- The state before a turn, by what was read and written. -/
theorem after_eq : Machine.after (turn writeInterval) start earlier =
    ⟨lastRead earlier, (lastDone writeInterval earlier).elim 0 (· + writeInterval)⟩ := by
  induction earlier using List.reverseRecOn with
  | nil => rfl
  | append_singleton earlier t ih =>
    have hturn := turn_eq writeInterval earlier t (congrArg Loop.latestData ih) (congrArg Loop.nextWrite ih)
    rw [Machine.after_append, Machine.after_cons, Machine.after_nil, lastDone_concat, hturn]
    by_cases h : Writes writeInterval earlier t
    · rw [if_pos h]
      rfl
    · rw [if_neg h, ih]
      rfl

/-- Each turn writes the last data there was, exactly when the read did not raise, some data was there, and the
interval since the last write is over. -/
theorem run_writes (later : List Turn) : (run writeInterval (earlier ++ t :: later))[earlier.length]? =
    some (if Writes writeInterval earlier t then some (lastRead (earlier ++ [t])) else none) := by
  have hafter := after_eq writeInterval earlier
  unfold run
  rw [Machine.outputs_getElem?, List.take_left, List.getElem?_append_right le_rfl, Nat.sub_self,
    List.getElem?_cons_zero, Option.map_some,
    turn_eq writeInterval earlier t (congrArg Loop.latestData hafter) (congrArg Loop.nextWrite hafter)]
  split_ifs <;> rfl

end

/-! ## Over A5/5A -/

open Eg4A5 (Heard answersTo polls known report)

/-- The turns of a collector whose device is an A5/5A one: what the port returns to each poll, and the clock. -/
def a5Turns (answers : List Decoded) (clocks : List (ℚ × ℚ)) : List Turn :=
  answers.zipWith (fun answer clock => ⟨.ok answer, clock.1, clock.2⟩) clocks

theorem report_unknown {frames : List Bytes} (h : known frames = false) : report frames = .empty := by
  obtain ⟨hstatus, hcells⟩ := Eg4A5.told_of_unknown h
  unfold report
  rw [hstatus, hcells]
  rfl

theorem holds_report (frames : List Bytes) : holds (report frames) = known frames := by
  cases hknown : known frames with
  | false =>
    rw [report_unknown hknown]
    rfl
  | true =>
    obtain ⟨k, unit, hunit, hk⟩ := Eg4A5.told_of_known hknown
    have hget : ((report frames).get? k).isSome := by
      unfold report
      rw [Eg4A5.get?_buildResult _ (List.mem_append_left _ hunit), Eg4A5.keeps_told frames k, Option.isSome_map]
      exact hk
    obtain ⟨info, hinfo⟩ := Option.isSome_iff_exists.mp hget
    unfold holds
    rw [List.isEmpty_eq_false_iff.mpr (List.ne_nil_of_mem (Dict.mem_entries.mpr hinfo))]
    rfl

theorem answersTo_concat (earlier : List Bytes) (heard : List (List Bytes)) (frames : List Bytes) :
    answersTo earlier (heard ++ [frames]) = answersTo earlier heard ++
      [if frames = [] then .empty else report (earlier ++ heard.flatten ++ frames)] := by
  induction heard generalizing earlier with
  | nil => simp [answersTo]
  | cons first heard ih =>
    rw [List.cons_append, answersTo, answersTo, ih, List.flatten_cons, List.append_assoc earlier, List.cons_append]

theorem answersTo_take (earlier : List Bytes) (heard : List (List Bytes)) (n : ℕ) :
    (answersTo earlier heard).take n = answersTo earlier (heard.take n) := by
  induction heard generalizing earlier n with
  | nil => rw [List.take_nil, answersTo, List.take_nil]
  | cons frames heard ih =>
    cases n with
    | zero => rfl
    | succ n => rw [answersTo, List.take_succ_cons, ih, List.take_succ_cons, answersTo]

theorem length_answersTo (earlier : List Bytes) (heard : List (List Bytes)) :
    (answersTo earlier heard).length = heard.length := by
  induction heard generalizing earlier with
  | nil => rfl
  | cons frames heard ih => exact congrArg (· + 1) (ih _)

theorem length_heard {earlier : List Bytes} {reads heard : List (List Bytes)} (h : Heard earlier reads heard) :
    heard.length = reads.length := by
  induction reads generalizing earlier heard with
  | nil => rw [show heard = [] from h]
  | cons read reads ih =>
    obtain ⟨frames, later, rfl, -, hlater⟩ := h
    rw [List.length_cons, List.length_cons, ih hlater]

/-- The last answer that is not empty is about all frames so far. -/
theorem lastAnswer (heard : List (List Bytes)) :
    ((answersTo [] heard).filter holds).getLast?.getD .empty = report heard.flatten := by
  induction heard using List.reverseRecOn with
  | nil => rfl
  | append_singleton heard frames ih =>
    rw [answersTo_concat, List.nil_append, List.filter_append, List.flatten_append, List.flatten_singleton]
    by_cases hframes : frames = []
    · have hempty : holds .empty = false := rfl
      rw [if_pos hframes, List.filter_cons_of_neg (by rw [hempty]; exact Bool.false_ne_true), List.filter_nil,
        List.append_nil, ih, hframes, List.append_nil]
    · rw [if_neg hframes]
      cases hknown : known (heard.flatten ++ frames) with
      | true => rw [List.filter_cons_of_pos (by rw [holds_report, hknown]), List.getLast?_append_cons]; rfl
      | false =>
        -- the earlier frames told nothing either
        have hearlier : known heard.flatten = false := by
          unfold known at hknown ⊢
          rw [List.any_append] at hknown
          exact (Bool.or_eq_false_iff.mp hknown).1
        rw [List.filter_cons_of_neg (by rw [holds_report, hknown]; exact Bool.false_ne_true), List.filter_nil,
          List.append_nil, ih, report_unknown hearlier, report_unknown hknown]

theorem lastRead_a5Turns {answers : List Decoded} {clocks : List (ℚ × ℚ)} (h : answers.length = clocks.length) :
    lastRead (a5Turns answers clocks) = (answers.filter holds).getLast?.getD .empty := by
  have hread : (a5Turns answers clocks).filterMap Turn.read = answers.filter holds := by
    unfold a5Turns
    induction answers generalizing clocks with
    | nil => rfl
    | cons answer answers ih =>
      obtain ⟨clock, clocks, rfl⟩ := List.exists_cons_of_length_eq_add_one h.symm
      rw [List.zipWith_cons_cons, List.filterMap_cons, ih (Nat.succ.inj h), List.filter_cons]
      by_cases hanswer : holds answer
      · simp [Turn.read, Except.toOption, Option.filter, hanswer]
      · simp [Turn.read, Except.toOption, Option.filter, hanswer]
  unfold lastRead
  rw [hread]

/-- Whatever the port returns and whenever the clock is read: a turn writes exactly when a frame told something so far
and the interval since the last write is over, and then it writes what the last status frame and the last cells frame
of everything heard so far told. -/
theorem a5_snapshots (writeInterval : ℚ) {reads : List (List Bytes)} {clocks : List (ℚ × ℚ)}
    (hlength : clocks.length = reads.length) :
    ∃ heard answers, Heard [] reads heard ∧ polls .empty reads = .ok answers ∧
      ∀ i clock, clocks[i]? = some clock →
        let turns := a5Turns answers clocks
        let frames := (heard.take (i + 1)).flatten
        (run writeInterval turns)[i]? =
          some (if known frames ∧ Due writeInterval (turns.take i) clock.1 then some (report frames) else none) := by
  obtain ⟨heard, hheard, hpolls⟩ := Eg4A5.polls_spec reads Eg4A5.keeps_nil
  refine ⟨heard, answersTo [] heard, hheard, hpolls, fun i clock hclock => ?_⟩
  intro turns frames
  have hsame : (answersTo [] heard).length = clocks.length := by rw [length_answersTo, length_heard hheard, hlength]
  have hi : i < clocks.length := (List.getElem?_eq_some_iff.mp hclock).1
  have hturns : turns.length = clocks.length := by
    rw [← hsame]
    exact List.length_zipWith.trans (by rw [hsame, Nat.min_self])
  obtain ⟨answer, hanswer⟩ : ∃ answer, (answersTo [] heard)[i]? = some answer :=
    ⟨_, List.getElem?_eq_getElem (hsame ▸ hi)⟩
  have hturn : turns[i]? = some ⟨.ok answer, clock.1, clock.2⟩ := by
    show (a5Turns _ _)[i]? = _
    unfold a5Turns
    rw [List.getElem?_zipWith, hanswer, hclock]
  have hsplit : turns = turns.take i ++ ⟨.ok answer, clock.1, clock.2⟩ :: turns.drop (i + 1) := by
    obtain ⟨hlt, heq⟩ := List.getElem?_eq_some_iff.mp hturn
    rw [← heq, ← List.drop_eq_getElem_cons hlt, List.take_append_drop]
  have htake : turns.take i ++ [⟨.ok answer, clock.1, clock.2⟩] =
      a5Turns (answersTo [] (heard.take (i + 1))) (clocks.take (i + 1)) := by
    rw [← answersTo_take]
    unfold a5Turns
    rw [← List.take_zipWith, List.take_add_one]
    exact congrArg (List.take i turns ++ ·) (by rw [← a5Turns]; exact (congrArg Option.toList hturn).symm)
  have hlast : lastRead (turns.take i ++ [⟨.ok answer, clock.1, clock.2⟩]) = report frames := by
    rw [htake, lastRead_a5Turns, lastAnswer]
    rw [← answersTo_take, List.length_take, List.length_take, hsame]
  have hlen : (turns.take i).length = i := by
    rw [List.length_take, hturns]
    omega
  have hwrites := run_writes writeInterval (turns.take i) ⟨.ok answer, clock.1, clock.2⟩ (turns.drop (i + 1))
  rw [← hsplit, hlen, hlast] at hwrites
  rw [hwrites]
  refine congrArg some (if_congr ?_ rfl rfl)
  rw [Writes, hlast, holds_report]
  exact ⟨And.right, fun h => ⟨rfl, h⟩⟩

/-- One poll that returns a whole cells frame, and one that returns nothing. -/
theorem a5_snapshots_weak :
    ∃ heard answers, Heard [] [[Eg4A5.cellsFrame 35 0 Eg4A5.oneWeakCell []], [[]]] heard ∧
      polls .empty [[Eg4A5.cellsFrame 35 0 Eg4A5.oneWeakCell []], [[]]] = .ok answers ∧
      ∀ i clock, [((100 : ℚ), (101 : ℚ)), (140, 141)][i]? = some clock →
        let turns := a5Turns answers [(100, 101), (140, 141)]
        let frames := (heard.take (i + 1)).flatten
        (run 30 turns)[i]? =
          some (if known frames ∧ Due 30 (turns.take i) clock.1 then some (report frames) else none) :=
  a5_snapshots 30 rfl

end LuxMon.Rs485
