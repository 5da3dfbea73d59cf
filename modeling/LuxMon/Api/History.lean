import LuxMon.Api.Readings
import LuxMon.Api.Views

/-!
# The history of a window

`/api/history` beside collectors that write: the SELECT of the window and the one of the
rows are two statements, and a large window is thinned out in between.

    every step-th item                                            (getElem?_everyNth)
    the step is the least that keeps to the limit                 (downsample_thinned)
    every point is empty or shows the readings of its snapshot    (history_points)
-/

namespace LuxMon

open Python Effects

/-! ## Slices -/

section
variable {α : Type} {step : Nat}

theorem everyNth_concat (step : Nat) (xs : List α) (x : α) :
    everyNth step (xs ++ [x]) = everyNth step xs ++ if xs.length % step = 0 then [x] else [] := by
  unfold everyNth
  rw [List.zipIdx_append, List.filter_append, List.map_append, List.zipIdx_singleton, Nat.zero_add]
  by_cases hlength : xs.length % step = 0
  · simp [hlength]
  · simp [hlength]

theorem length_everyNth (hstep : 0 < step) (xs : List α) :
    (everyNth step xs).length = (xs.length + step - 1) / step := by
  induction xs using List.reverseRecOn with
  | nil => exact (Nat.div_eq_of_lt (by simpa using hstep)).symm
  | append_singleton xs x ih =>
    have hcount : ((xs ++ [x]).length + step - 1) = (xs.length + step - 1) + 1 := by
      rw [List.length_append, List.length_singleton]
      omega
    have hdvd : step ∣ xs.length + step - 1 + 1 ↔ xs.length % step = 0 := by
      rw [show xs.length + step - 1 + 1 = xs.length + step by omega, Nat.dvd_add_self_right]
      exact Nat.dvd_iff_mod_eq_zero
    rw [everyNth_concat, List.length_append, ih, hcount, Nat.succ_div]
    by_cases h : xs.length % step = 0
    · rw [if_pos h, if_pos (hdvd.mpr h), List.length_singleton]
    · rw [if_neg h, if_neg (hdvd.not.mpr h), List.length_nil]

/-- `xs[::step][k]` is `xs[k * step]`. -/
theorem getElem?_everyNth (hstep : 0 < step) (xs : List α) (k : Nat) : (everyNth step xs)[k]? = xs[k * step]? := by
  induction xs using List.reverseRecOn with
  | nil => rfl
  | append_singleton xs x ih =>
    rw [everyNth_concat]
    by_cases hlength : xs.length % step = 0
    · -- the item is kept, after as many as there are multiples before it
      obtain ⟨q, hq⟩ := Nat.dvd_of_mod_eq_zero hlength
      have hkept : (everyNth step xs).length = q := by
        rw [length_everyNth hstep, hq, Nat.add_sub_assoc hstep, Nat.mul_add_div hstep,
          Nat.div_eq_of_lt (by omega), Nat.add_zero]
      rw [if_pos hlength]
      rcases Nat.lt_trichotomy k q with hk | rfl | hk
      · have hbefore : k * step < xs.length := by
          rw [hq, Nat.mul_comm]
          exact Nat.mul_lt_mul_of_pos_left hk hstep
        rw [List.getElem?_append_left (hkept ▸ hk), List.getElem?_append_left hbefore, ih]
      · have hend : k * step = xs.length := by rw [hq, Nat.mul_comm]
        rw [← hkept, List.getElem?_concat_length, hkept, hend, List.getElem?_concat_length]
      · have hafter : (xs ++ [x]).length ≤ k * step := by
          have hmul := Nat.mul_le_mul_right step hk
          rw [Nat.succ_mul, Nat.mul_comm q, ← hq] at hmul
          rw [List.length_append, List.length_singleton]
          omega
        have hkeptAll : (everyNth step xs ++ [x]).length ≤ k := by
          rw [List.length_append, List.length_singleton, hkept]
          exact hk
        rw [List.getElem?_eq_none hkeptAll, List.getElem?_eq_none hafter]
    · have hne : k * step ≠ xs.length := fun h => hlength (h ▸ Nat.mul_mod_left k step)
      rw [if_neg hlength, List.append_nil, ih]
      rcases Nat.lt_or_gt_of_ne hne with hk | hk
      · rw [List.getElem?_append_left hk]
      · have hafter : (xs ++ [x]).length ≤ k * step := by
          rw [List.length_append, List.length_singleton]
          exact hk
        rw [List.getElem?_eq_none hk.le, List.getElem?_eq_none hafter]

/-- What is kept of a window: as many items as allowed or fewer, evenly spaced from the first on, and
no smaller spacing would do. -/
structure Thinned (maxPoints : Nat) (xs kept : List α) : Prop where
  atMost : kept.length ≤ maxPoints
  spaced : ∃ step, 0 < step ∧ (∀ k, kept[k]? = xs[k * step]?) ∧
    ∀ smaller, 0 < smaller → smaller < step → maxPoints < (everyNth smaller xs).length

theorem downsample_thinned {maxPoints : Nat} (hmax : 0 < maxPoints) (xs : List α) :
    Thinned maxPoints xs (downsample maxPoints xs) := by
  unfold downsample
  split
  · next hlarge =>
    have hceil : ∀ step, (xs.length + maxPoints - 1) / maxPoints ≤ step ↔ xs.length ≤ step * maxPoints := by
      intro step
      rw [Nat.div_le_iff_le_mul hmax]
      omega
    have hcount : ∀ step, 0 < step → ((everyNth step xs).length ≤ maxPoints ↔ xs.length ≤ step * maxPoints) := by
      intro step hstep
      rw [length_everyNth hstep, Nat.div_le_iff_le_mul hstep, Nat.mul_comm maxPoints]
      omega
    have hpos : 0 < (xs.length + maxPoints - 1) / maxPoints := Nat.div_pos (by omega) hmax
    refine ⟨(hcount _ hpos).mpr ((hceil _).mp le_rfl), _, hpos, getElem?_everyNth hpos xs, fun smaller hsmaller hlt => ?_⟩
    have hnot := (hceil smaller).not.mp (not_le.mpr hlt)
    exact not_le.mp ((hcount smaller hsmaller).not.mpr hnot)
  · next hsmall =>
    refine ⟨not_lt.mp hsmall, 1, one_pos, fun k => by rw [Nat.mul_one], fun smaller hsmaller hlt => ?_⟩
    omega

end

/-! ## Collectors and requests -/

/-- What the database answers to the two statements of the history. -/
def Tables.AnswersHistory (t : Tables) : TableEvent → Prop
  | ⟨.selectSince since, r⟩ => ∀ window, r = .ok window →
      window.Perm (t.snapshots.filter (since ≤ ·.ts)) ∧ window.Pairwise (·.ts ≤ ·.ts)
  | ⟨.selectHistory ids names, r⟩ => ∀ rows, r = .ok rows → ∀ id ∈ ids,
      ((rows.filter (·.1 = id)).map Prod.snd).Perm ((t.registersOf id).filter (wanted names))
  | _ => True

def Tables.stepHistory (t : Tables) (ev : TableEvent) (t' : Tables) : Prop := t.step ev t' ∧ t.AnswersHistory ev

/-- A collector that writes what it has received, or a request. -/
inductive HistoryParty
  | collector (intervalSec : ℚ) (family : DriverFamily) (frames : List LuxFrame)
  | history (since : Nat) (fields : String) (maxPoints : Nat)

def HistoryParty.run : HistoryParty → Sql (List HistoryPoint)
  | .collector intervalSec family frames => do
    writeMariadb intervalSec (family.decode (received frames).input) (received frames).input
    return []
  | .history since fields maxPoints => apiHistory since fields maxPoints

/-- What a party is to insert for a snapshot. -/
def HistoryParty.Intends (p : HistoryParty) (rows : List RegisterRow) : Prop :=
  ∃ intervalSec family frames, p = .collector intervalSec family frames ∧
    snapshotRows (family.decode (received frames).input) = .ok rows

/-- The point has the readings of these frames under the names that are asked for, and no other register. -/
structure HistoryPoint.Reads (point : HistoryPoint) (names : Option (List String)) (family : DriverFamily)
    (frames : List LuxFrame) : Prop where
  registers : ∀ n r, family.Tells n r → n ≠ 170 → AsksFor names r.name →
    point.registers.get? r.name = (r.reading n frames).map PyFloat.fin
  others : ∀ name, (∀ n r, family.Tells n r → r.name ≠ name) → name ∉ storedComputed → AsksFor names name →
    point.registers.get? name = none
  unasked : ∀ name, ¬ AsksFor names name → point.registers.get? name = none

/-! ## One party -/

theorem apiHistory_run {since maxPoints : Nat} {fields : String} {tr : List TableEvent} {points : List HistoryPoint}
    (h : (apiHistory since fields maxPoints).Run tr (.ok points)) :
    ∃ window, (∃ t₁ t₂, tr = t₁ ++ ⟨.selectSince since, .ok window⟩ :: t₂) ∧
      ((downsample maxPoints window = [] ∧ points = []) ∨ ∃ t₁ rows t₂,
        tr = t₁ ++ ⟨.selectHistory ((downsample maxPoints window).map SnapshotRow.id) (fieldNames fields), .ok rows⟩ :: t₂ ∧
          points = (downsample maxPoints window).map (historyPoint rows)) := by
  obtain ⟨-, t₁, u₁, rfl, -, h₁⟩ := (Prog.run_bind_ok _ _ _ _).mp h
  obtain ⟨window, t₂, u₂, rfl, hwindow, h₂⟩ := (Prog.run_bind_ok _ _ _ _).mp h₁
  obtain ⟨(r : Except PyErr (List SnapshotRow)), t, rfl, hrest⟩ := hwindow
  obtain ⟨rfl, rfl⟩ := (Prog.run_ofExcept r _ _).mp hrest
  refine ⟨window, ⟨t₁, u₂, rfl⟩, ?_⟩
  by_cases hempty : window.isEmpty
  · rw [if_pos hempty] at h₂
    cases h₂.2
    refine Or.inl ⟨?_, rfl⟩
    rw [List.isEmpty_iff.mp hempty]
    unfold downsample
    exact if_neg (Nat.not_lt_zero maxPoints)
  · rw [if_neg hempty] at h₂
    obtain ⟨rows, t₃, u₃, rfl, hrows, h₃⟩ := (Prog.run_bind_ok _ _ _ _).mp h₂
    obtain ⟨(r : Except PyErr (List (Nat × RegisterRow))), t, rfl, hrest⟩ := hrows
    obtain ⟨rfl, rfl⟩ := (Prog.run_ofExcept r _ _).mp hrest
    cases h₃.2
    exact Or.inr ⟨t₁ ++ [_], rows, u₃, by rw [List.append_assoc]; rfl, rfl⟩

theorem apiHistory_inserts (since maxPoints : Nat) (fields : String) {tr : List TableEvent}
    {out : Except PyErr (List HistoryPoint)} (h : (apiHistory since fields maxPoints).Run tr out) (id : Nat) :
    tr.filterMap (newRegisters id) = [] := by
  have hasks : (apiHistory since fields maxPoints).Asks fun op => ∀ r : op.Answer, newRegisters id ⟨op, r⟩ = none := by
    refine Prog.asks_bind ⟨fun _ => rfl, fun r => Prog.asks_ofExcept r⟩ fun _ => ?_
    refine Prog.asks_bind ⟨fun _ => rfl, fun r => Prog.asks_ofExcept r⟩ fun window => ?_
    split
    · trivial
    · exact Prog.asks_bind ⟨fun _ => rfl, fun r => Prog.asks_ofExcept r⟩ fun _ => trivial
  exact List.filterMap_eq_nil_iff.mpr fun ev hev => hasks.of_run h ev hev ev.2

theorem HistoryParty.insertsOwn (p : HistoryParty) : InsertsOwn p.Intends p.run := by
  intro tr out id h hinserts
  cases p with
  | history since fields maxPoints => exact absurd (apiHistory_inserts _ _ _ h id) hinserts
  | collector intervalSec family frames =>
    rcases (Prog.run_bind _ _ _ _).mp h with ⟨_, t, u, rfl, hwrite, rfl, -⟩ | ⟨e, rfl, hwrite⟩
    · rw [List.append_nil] at hinserts ⊢
      obtain ⟨rows, hrows, hinserted⟩ := (writeMariadb_inserts hwrite id).resolve_left hinserts
      exact ⟨rows, ⟨_, _, _, rfl, hrows⟩, hinserted⟩
    · obtain ⟨rows, hrows, hinserted⟩ := (writeMariadb_inserts hwrite id).resolve_left hinserts
      exact ⟨rows, ⟨_, _, _, rfl, hrows⟩, hinserted⟩

/-! ## One point -/

/-- The point has the floats of its rows. -/
theorem get?_historyPoint (rows : List (Nat × RegisterRow)) (snap : SnapshotRow) (name : String) :
    (historyPoint rows snap).registers.get? name =
      ((rowRegisters ((rows.filter (·.1 = snap.id)).map Prod.snd)).get? name).bind fun info =>
        info.value.toFloat.toOption := by
  unfold historyPoint rowRegisters
  rw [Dict.get?_ofList, Dict.get?_ofList, List.map_map]
  induction rows.filter (·.1 = snap.id) using List.reverseRecOn with
  | nil => rfl
  | append_singleton rows row ih =>
    rw [List.map_append, List.map_append, List.reverse_append, List.reverse_append]
    simp only [List.map_cons, List.map_nil, List.reverse_singleton, List.singleton_append, lookup_cons_ite, ih,
      Function.comp_apply]
    by_cases hname : name = row.2.name
    · rw [if_pos hname, if_pos hname]
      rfl
    · rw [if_neg hname, if_neg hname]

/-- All rows that are asked for of a decoded snapshot, as a point: its readings. -/
theorem historyPoint_reads {family : DriverFamily} {frames : List LuxFrame} {stored : List RegisterRow}
    {rows : List (Nat × RegisterRow)} {snap : SnapshotRow} {names : Option (List String)}
    (hstored : snapshotRows (family.decode (received frames).input) = .ok stored)
    (hperm : ((rows.filter (·.1 = snap.id)).map Prod.snd).Perm (stored.filter (wanted names))) :
    (historyPoint rows snap).Reads names family frames := by
  refine ⟨fun n r hr hn hasked => ?_, fun name hothers hname hasked => ?_, fun name hasked => ?_⟩
  · have hreading := decode_readings family frames hr
    have hrow := get?_rowRegisters hstored hperm (tells_derived hr hn) hasked
    rw [get?_historyPoint]
    cases hread : r.reading n frames with
    | none =>
      rw [hrow.1 (hreading.1 hread)]
      rfl
    | some q =>
      obtain ⟨info, hinfo, hq, -⟩ := hreading.2 q hread
      obtain ⟨x, hx, hfetched⟩ := hrow.2 info hinfo
      obtain rfl := Except.ok.inj (hq.symm.trans hx)
      rw [hfetched]
      rfl
  · rw [get?_historyPoint, (get?_rowRegisters hstored hperm hname hasked).1 (decode_others hothers _)]
    rfl
  · have hnone : (rowRegisters ((rows.filter (·.1 = snap.id)).map Prod.snd)).get? name = none := by
      unfold rowRegisters
      rw [Dict.get?_ofList]
      refine lookup_of_not_mem fun hmem => ?_
      rw [List.map_reverse, List.mem_reverse, List.map_map] at hmem
      obtain ⟨row, hrow, rfl⟩ := List.mem_map.mp hmem
      exact hasked (wanted_iff.mp (List.mem_filter.mp (hperm.mem_iff.mp hrow)).2)
    rw [get?_historyPoint, hnone]
    rfl

/-! ## All parties -/

/-- Whatever the collectors do in between, an answer is the window of one SELECT, thinned out no more than
needed, and each point of a collector's snapshot is empty or shows what had been received. -/
theorem history_points {ι : Type} [DecidableEq ι] {parties : ι → HistoryParty} {t t' : Tables}
    {tr : List (ι × TableEvent)} {out : ι → Except PyErr (List HistoryPoint)}
    (hrun : PoolRun Tables.stepHistory t (fun i => (parties i).run) tr t' out) {i : ι} {since maxPoints : Nat}
    {fields : String} (hi : parties i = .history since fields maxPoints) (hmax : 0 < maxPoints)
    {points : List HistoryPoint} (hout : out i = .ok points) :
    ∃ window kept : List SnapshotRow,
      (∃ tr₁ tr₂ m, tr = tr₁ ++ tr₂ ∧ Steps Tables.stepHistory t (tr₁.map Prod.snd) m ∧
        window.Perm (m.snapshots.filter (since ≤ ·.ts)) ∧ window.Pairwise (·.ts ≤ ·.ts)) ∧
      Thinned maxPoints window kept ∧
      List.Forall₂ (fun snap point => point.timestamp = snap.ts ∧
        ∀ j intervalSec family frames, parties j = .collector intervalSec family frames → HeaderOf tr j snap.id →
          point.registers = .empty ∨ point.Reads (fieldNames fields) family frames) kept points := by
  obtain ⟨hruns, hsteps⟩ := (poolRun_iff _ _ _ _ _ _).mp hrun
  have hplain : PoolRun Tables.step t (fun i => (parties i).run) tr t' out :=
    (poolRun_iff _ _ _ _ _ _).mpr ⟨hruns, hsteps.mono fun _ _ _ h => h.1⟩
  have hrequest := hruns i
  rw [hi, hout] at hrequest
  obtain ⟨window, ⟨t₁, t₂, honly⟩, hpoints⟩ := apiHistory_run hrequest
  refine ⟨window, downsample maxPoints window, ?_, downsample_thinned hmax window, ?_⟩
  · obtain ⟨tr₁, tr₂, rfl, -, -⟩ := exists_of_only_eq honly
    rw [List.map_append, List.map_cons] at hsteps
    obtain ⟨m, hm, m', ⟨-, hans⟩, -⟩ := steps_append.mp hsteps
    exact ⟨tr₁, _, m, rfl, hm, hans window rfl⟩
  · rcases hpoints with ⟨hnone, rfl⟩ | ⟨t₃, rows, t₄, hrows, rfl⟩
    · rw [hnone]
      exact .nil
    · obtain ⟨tr₁, tr₂, rfl, -, -⟩ := exists_of_only_eq hrows
      rw [List.map_append, List.map_cons] at hsteps
      obtain ⟨m, hm, m', ⟨-, hans⟩, -⟩ := steps_append.mp hsteps
      rw [List.forall₂_map_right_iff, List.forall₂_same]
      refine fun snap hsnap => ⟨rfl, fun j intervalSec family frames hj hheader => ?_⟩
      have hperm := hans rows rfl snap.id (List.mem_map_of_mem hsnap)
      rcases insertsOwn_before (fun i => (parties i).insertsOwn) hplain hheader rfl (hm.mono fun _ _ _ h => h.1) with
        ⟨-, hempty⟩ | ⟨-, _, _, _, hcollector, hstored⟩
      · -- the rows are not there yet, or never
        refine Or.inl ?_
        rw [hempty, List.filter_nil, List.perm_nil, List.map_eq_nil_iff] at hperm
        unfold historyPoint
        rw [hperm]
        rfl
      · rw [hj] at hcollector
        cases hcollector
        exact Or.inr (historyPoint_reads hstored hperm)

/-! ## A write, and a request after it -/

theorem answer_stepHistory (hour : String) (settings : String → Option String) (t : Tables) (op : TableOp) :
    t.stepHistory ⟨op, (t.answer hour settings op).1⟩ (t.answer hour settings op).2 := by
  refine ⟨answer_step hour settings t op, ?_⟩
  cases op with
  | selectSince since =>
    intro window hwindow
    obtain rfl := Except.ok.inj hwindow
    refine ⟨List.mergeSort_perm _ _, ?_⟩
    have hsorted := @List.pairwise_mergeSort _ (fun a b : SnapshotRow => decide (a.ts ≤ b.ts))
      (fun a b c hab hbc => decide_eq_true ((of_decide_eq_true hab).trans (of_decide_eq_true hbc)))
      (fun a b => by simpa using le_total a.ts b.ts) (t.snapshots.filter (since ≤ ·.ts))
    exact hsorted.imp fun h => of_decide_eq_true h
  | selectHistory ids names =>
    intro rows hrows id hid
    have hreply : (if names = some [] then Except.error PyErr.dbError
      else Except.ok (t.registers.filter fun r => ids.contains r.1 && wanted names r.2)) = .ok rows := hrows
    split at hreply
    · cases hreply
    · obtain rfl := Except.ok.inj hreply
      unfold Tables.registersOf
      rw [List.filter_filter, List.filter_map, List.filter_filter]
      refine List.Perm.of_eq (congrArg (List.map Prod.snd) (List.filter_congr fun r _ => ?_))
      by_cases hr : r.1 = id
      · simp [hr, hid]
      · simp [hr]
  | _ => trivial

/-- A collector with one frame, and a request for the last hour. -/
def writeAndHistory : Bool → HistoryParty
  | false => .collector 5 .sna [batteryFrame]
  | true => .history 0 "" 500

/-- What they do. -/
def writeAndHistoryRun : Bool → Sql (List HistoryPoint)
  | false => do
    writeMariadb 5 batteryReading (.ofList [(4, 512)])
    return []
  | true => apiHistory 0 "" 500

theorem writeAndHistory_run (i : Bool) : (writeAndHistory i).run = writeAndHistoryRun i := by
  cases i with
  | false =>
    show (do
      writeMariadb 5 (DriverFamily.sna.decode (received [batteryFrame]).input) (received [batteryFrame]).input
      return []) = writeAndHistoryRun false
    rw [batteryFrame_decoded]
    rfl
  | true => rfl

def historyRun :=
  execPool (Tables.answer "2024-06-01 12:00:00" noSettings) (List.replicate 8 false ++ List.replicate 4 true)
    Tables.empty writeAndHistoryRun

theorem historyRun_points : ∃ t' out points,
    PoolRun Tables.stepHistory .empty (fun i => (writeAndHistory i).run) historyRun.1 t' out ∧ out true = .ok points ∧
      points.length = 1 ∧ ∃ window kept : List SnapshotRow, Thinned 500 window kept ∧
        List.Forall₂ (fun snap point => point.timestamp = snap.ts ∧ (HeaderOf historyRun.1 false snap.id →
          point.registers = .empty ∨ point.Reads none .sna [batteryFrame])) kept points := by
  have hwriter : (historyRun.2.2 false).returns (fun _ => true) = true := by
    decide +kernel
  have hrequest : (historyRun.2.2 true).returns (fun points => decide (points.length = 1)) = true := by
    decide +kernel
  obtain ⟨written, hwritten, -⟩ := Prog.returns_iff.mp hwriter
  obtain ⟨points, hpoints, hone⟩ := Prog.returns_iff.mp hrequest
  have hrun : PoolRun Tables.stepHistory .empty (fun i => (writeAndHistory i).run) historyRun.1 historyRun.2.1
      fun i => if i then .ok points else .ok written := by
    rw [show (fun i => (writeAndHistory i).run) = writeAndHistoryRun from funext writeAndHistory_run]
    refine execPool_spec Tables.stepHistory _ (answer_stepHistory _ _) _ _ _ _ fun i => ?_
    cases i with
    | false => exact hwritten ▸ ⟨rfl, rfl⟩
    | true => exact hpoints ▸ ⟨rfl, rfl⟩
  have hi : writeAndHistory true = .history 0 "" 500 := rfl
  have hfields : fieldNames "" = none := rfl
  have hout : (if true then Except.ok points else Except.ok written) = (Except.ok points : Except PyErr _) := rfl
  obtain ⟨window, kept, -, hthinned, hshown⟩ := history_points hrun hi (by decide) hout
  refine ⟨_, _, points, hrun, rfl, of_decide_eq_true hone, window, kept, hthinned, hshown.imp fun snap point h => ?_⟩
  exact ⟨h.1, fun hheader => hfields ▸ h.2 false 5 .sna [batteryFrame] rfl hheader⟩

end LuxMon
