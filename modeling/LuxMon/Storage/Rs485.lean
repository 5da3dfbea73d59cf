import LuxMon.Api.Views

/-!
# The RS-485 collector

A second collector writes its device's values to the same tables, under names with
a prefix.  Its snapshots become the latest ones and derive their own load power.

    without its events the others are a run of their own        (inverter_alone)
    all answers about the inverter are as without it, at any
      time of a run ↔ it has inserted no snapshot               (rs485_undisturbed_iff)
-/

namespace LuxMon

open Python Effects

/-! ## `Rs485Collector.run` -/

/-- The name under which a field is stored. -/
def prefixKey (keyPrefix key : String) : String :=
  if (keyPrefix ++ "_").toList.isPrefixOf key.toList then key else keyPrefix ++ "_" ++ key

/-- `_prefix_keys`. -/
def prefixKeys (keyPrefix : String) (data : Decoded) : Decoded :=
  if keyPrefix = "" then data else .ofList (data.entries.map fun e => (prefixKey keyPrefix e.1, e.2))

/-- A value that can be cast to float. -/
def Info.numeric (info : Info) : Except PyErr Bool :=
  match info.value with
  | .bool _ => .ok true
  | value =>
    match value.toFloat with
    | .ok _ => .ok true
    | .error .overflowError => .error .overflowError
    | .error _ => .ok false

/-- `_numeric_values`. -/
def numericValues (data : Decoded) : Except PyErr Decoded := do
  let entries ← data.entries.filterM fun e => e.2.numeric
  return .ofList entries

/-- What the loop of `run` writes for the latest data; an exception is only logged. -/
def rs485Write (keyPrefix : String) (data : Decoded) : Sql Unit :=
  match numericValues (prefixKeys keyPrefix data) with
  | .ok numeric => if numeric.entries.isEmpty then return () else writeMariadb 5 numeric .empty
  | .error _ => return ()

/-! ## Both collectors -/

/-- One snapshot of either collector. -/
inductive SnapshotWriter
  | inverter (intervalSec : ℚ) (decoded : Decoded) (rawRegisters : Dict Nat Nat)
  | rs485 (keyPrefix : String) (data : Decoded)

namespace SnapshotWriter

def run : SnapshotWriter → Sql Unit
  | .inverter intervalSec decoded raw => writeMariadb intervalSec decoded raw
  | .rs485 keyPrefix data => rs485Write keyPrefix data

def isInverter : SnapshotWriter → Bool
  | .inverter _ _ _ => true
  | .rs485 _ _ => false

/-- The same without the RS-485 collector. -/
def alone (w : SnapshotWriter) : Sql Unit := if w.isInverter then w.run else return ()

/-- A collector writes one snapshot, or nothing. -/
theorem run_cases (w : SnapshotWriter) :
    w.run = pure () ∨ ∃ intervalSec decoded raw, w.run = writeMariadb intervalSec decoded raw := by
  cases w with
  | inverter intervalSec decoded raw => exact Or.inr ⟨intervalSec, decoded, raw, rfl⟩
  | rs485 keyPrefix data =>
    show rs485Write keyPrefix data = pure () ∨ ∃ intervalSec decoded raw, rs485Write keyPrefix data = _
    unfold rs485Write
    split
    · split
      · exact Or.inl rfl
      · exact Or.inr ⟨5, _, .empty, rfl⟩
    · exact Or.inl rfl

theorem run_writing (w : SnapshotWriter) : w.run.Asks fun op => op.writing = true := by
  rcases w.run_cases with h | ⟨intervalSec, decoded, raw, h⟩
  · rw [h]
    trivial
  · rw [h]
    exact writeMariadb_writing _ _ _

/-- Rows are inserted for the own snapshot only. -/
theorem run_own {w : SnapshotWriter} {tr : List TableEvent} {out : Except PyErr Unit} (h : w.run.Run tr out) {id : Nat}
    (hinserts : tr.filterMap (newRegisters id) ≠ []) : id ∈ tr.filterMap newSnapshot := by
  rcases w.run_cases with hw | ⟨intervalSec, decoded, raw, hw⟩
  · rw [hw] at h
    obtain ⟨rfl, -⟩ := h
    exact absurd rfl hinserts
  · rw [hw] at h
    obtain ⟨rows, -, -, hid⟩ := (writeMariadb_inserts h id).resolve_left hinserts
    exact hid

theorem run_idle {w : SnapshotWriter} {u v : List TableEvent} {out : Except PyErr Unit} (h : w.run.Run (u ++ v) out)
    (hnone : u.filterMap newSnapshot = []) : ∀ ev ∈ u, ∀ t : Tables, t.after ev = t := by
  rcases w.run_cases with hw | ⟨intervalSec, decoded, raw, hw⟩
  · rw [hw] at h
    rw [(List.append_eq_nil_iff.mp h.1).1]
    simp
  · rw [hw] at h
    exact writeMariadb_idle h hnone

end SnapshotWriter

section
variable {ι : Type}

/-- The tables after some events. -/
def Tables.replay (t : Tables) (tr : List (ι × TableEvent)) : Tables := (tr.map Prod.snd).foldl Tables.after t

/-- The events of the inverter collector. -/
def inverterEvents (writers : ι → SnapshotWriter) (tr : List (ι × TableEvent)) : List (ι × TableEvent) :=
  tr.filter fun x => (writers x.1).isInverter

theorem inverterEvents_cons (writers : ι → SnapshotWriter) (x : ι × TableEvent) (tr : List (ι × TableEvent)) :
    inverterEvents writers (x :: tr) =
      if (writers x.1).isInverter then x :: inverterEvents writers tr else inverterEvents writers tr :=
  List.filter_cons

theorem inverterEvents_concat (writers : ι → SnapshotWriter) (tr : List (ι × TableEvent)) (x : ι × TableEvent) :
    inverterEvents writers (tr ++ [x]) =
      if (writers x.1).isInverter then inverterEvents writers tr ++ [x] else inverterEvents writers tr := by
  unfold inverterEvents
  rw [List.filter_append, List.filter_cons]
  split
  · rfl
  · exact List.append_nil _

theorem only_inverterEvents [DecidableEq ι] (writers : ι → SnapshotWriter) (i : ι) (tr : List (ι × TableEvent)) :
    only i (inverterEvents writers tr) = if (writers i).isInverter then only i tr else [] := by
  induction tr with
  | nil => exact (ite_self _).symm
  | cons x tr ih =>
    rw [inverterEvents_cons, only_cons]
    by_cases hx : x.1 = i
    · subst hx
      rw [if_pos rfl]
      split at ih
      · next h => rw [if_pos h, if_pos h, only_cons, if_pos rfl, ih]
      · next h => rw [if_neg h, if_neg h, ih]
    · rw [if_neg hx]
      split
      · rw [only_cons, if_neg hx, ih]
      · exact ih

end

/-! ## The inverter view -/

/-- A name of the input registers, or one that is derived from them. -/
def InverterName (name : String) : Prop :=
  (∃ (family : DriverFamily) (register : Nat) (r : RegisterDef),
    family.inputRegisters.get? register = some r ∧ r.name = name) ∨ name = "soh" ∨ name ∈ storedComputed

/-- The answers about the inverter are the same: the latest registers, the summary, the batteries, the
history of any inverter names and the hourly energy. -/
structure SameView (t t' : Tables) : Prop where
  latest : ∀ settings, (t.ask settings fetchLatestSnapshot).map (·.map LiveSnapshot.registers) =
    (t'.ask settings fetchLatestSnapshot).map (·.map LiveSnapshot.registers)
  summary : ∀ settings, (t.ask settings apiSummary).map LiveSnapshot.registers =
    (t'.ask settings apiSummary).map LiveSnapshot.registers
  batteries : (t.ask noSettings apiBatteries).map Prod.snd = (t'.ask noSettings apiBatteries).map Prod.snd
  history : ∀ since maxPoints, 10 ≤ maxPoints → ∀ names, names ≠ [] → (∀ name ∈ names, InverterName name) →
    t.ask noSettings (apiHistory since (",".intercalate names) maxPoints) =
      t'.ask noSettings (apiHistory since (",".intercalate names) maxPoints)
  energy : t.hourlyEnergy = t'.hourlyEnergy

theorem SameView.refl (t : Tables) : SameView t t := ⟨fun _ => rfl, fun _ => rfl, rfl, fun _ _ _ _ _ _ => rfl, rfl⟩

/-- One more snapshot is one more point in the history. -/
theorem SameView.length {t t' : Tables} (h : SameView t t') : t.snapshots.length = t'.snapshots.length := by
  have hfields : fieldNames (",".intercalate ["load_power"]) = some ["load_power"] := by
    decide +kernel
  have hnames : ["load_power"] ≠ [] := List.cons_ne_nil _ _
  have hinverter : ∀ name ∈ ["load_power"], InverterName name := by
    intro name hname
    obtain rfl := List.mem_singleton.mp hname
    exact Or.inr (Or.inr (by decide))
  let maxPoints := 10 + t.snapshots.length + t'.snapshots.length
  have hhistory := h.history 0 maxPoints (by omega) ["load_power"] hnames hinverter
  obtain ⟨points, hpoints, hlength⟩ := history_length t hfields hnames (show _ ≤ maxPoints by omega)
  obtain ⟨points', hpoints', hlength'⟩ := history_length t' hfields hnames (show _ ≤ maxPoints by omega)
  rw [hpoints, hpoints'] at hhistory
  rw [← hlength, ← hlength', Except.ok.inj hhistory]

/-! ## Removing events -/

section
variable {ι : Type} {t t' : Tables} {tr : List (ι × TableEvent)}

theorem replay_of_steps (h : Steps Tables.step t (tr.map Prod.snd) t') : t' = t.replay tr :=
  h.foldl fun _ _ _ h => h.2

theorem replay_concat (t : Tables) (tr : List (ι × TableEvent)) (x : ι × TableEvent) :
    t.replay (tr ++ [x]) = (t.replay tr).after x.2 := by
  unfold Tables.replay
  rw [List.map_append, List.foldl_append]
  rfl

/-- What a writer is answered holds of fewer snapshots as well, while they include the one whose
registers it inserts. -/
theorem answers_fewer {u : Tables} {ev : TableEvent} (hwriting : ev.1.writing = true) (h : t.Answers ev)
    (hfewer : ∀ id ∈ u.snapshots.map SnapshotRow.id, id ∈ t.snapshots.map SnapshotRow.id)
    (hheader : ∀ id rows, newRegisters id ev = some rows → id ∈ u.snapshots.map SnapshotRow.id) : u.Answers ev := by
  obtain ⟨op, r⟩ := ev
  cases op with
  | insertSnapshot raw => exact fun y hy id hid => h y hy id (hfewer id hid)
  | insertRegisters id rows => exact fun hdone => ⟨hheader id rows (if_pos ⟨rfl, hdone⟩), (h hdone).2⟩
  | upsertHourly hour name valueIn valueOut => exact h
  | ensureMariadb => trivial
  | strftimeHour => trivial
  | _ => cases hwriting

/-- Events that change nothing can be left out. -/
theorem replay_filter {keep : ι × TableEvent → Bool} (t : Tables)
    (h : ∀ x ∈ tr, keep x = false → ∀ t : Tables, t.after x.2 = t) : t.replay (tr.filter keep) = t.replay tr := by
  induction tr generalizing t with
  | nil => rfl
  | cons x tr ih =>
    have hrest := fun y hy => h y (List.mem_cons_of_mem x hy)
    cases hx : keep x with
    | true =>
      rw [List.filter_cons_of_pos hx]
      exact ih (t.after x.2) hrest
    | false =>
      rw [List.filter_cons_of_neg (by rw [hx]; exact Bool.false_ne_true), ih t hrest]
      show t.replay tr = (t.after x.2).replay tr
      rw [h x List.mem_cons_self hx t]

end

section
variable {ι : Type} [DecidableEq ι] {writers : ι → SnapshotWriter} {t t' : Tables} {tr : List (ι × TableEvent)}
  {out : ι → Except PyErr Unit}

/-- As long as the RS-485 collector has inserted no snapshot, it has changed nothing. -/
theorem replay_undisturbed (hrun : PoolRun Tables.step t (fun i => (writers i).run) tr t' out)
    {tr₁ tr₂ : List (ι × TableEvent)} (htr : tr = tr₁ ++ tr₂)
    (hnone : ∀ x ∈ tr₁, (writers x.1).isInverter = false → newSnapshot x.2 = none) :
    t.replay (inverterEvents writers tr₁) = t.replay tr₁ := by
  obtain ⟨hruns, -⟩ := (poolRun_iff _ _ _ _ _ _).mp hrun
  refine replay_filter t fun x hx hrs485 => ?_
  have hrunx := hruns x.1
  rw [htr, only_append] at hrunx
  refine (writers x.1).run_idle hrunx ?_ x.2 (mem_only.mpr hx)
  rw [List.filterMap_eq_nil_iff]
  exact fun ev hev => hnone _ (mem_only.mp hev) hrs485

/-- The snapshot whose registers are inserted was inserted before, by the same writer. -/
theorem header_before (hrun : PoolRun Tables.step t (fun i => (writers i).run) tr t' out)
    {front back : List (ι × TableEvent)} {x : ι × TableEvent} (htr : tr = front ++ x :: back) {id : Nat}
    {rows : List RegisterRow} (hrows : newRegisters id x.2 = some rows) :
    ∃ ev, (x.1, ev) ∈ front ∧ newSnapshot ev = some id := by
  obtain ⟨hruns, hsteps⟩ := (poolRun_iff _ _ _ _ _ _).mp hrun
  obtain ⟨hnodup, hfresh⟩ := newSnapshot_fresh hsteps
  have hmem : x ∈ tr := htr ▸ List.mem_append_right _ List.mem_cons_self
  have hown : id ∈ (only x.1 tr).filterMap newSnapshot := by
    refine (writers x.1).run_own (hruns x.1) fun hnil => ?_
    have hinserted := List.mem_filterMap.mpr ⟨x.2, mem_only.mpr hmem, hrows⟩
    rw [hnil] at hinserted
    exact List.not_mem_nil hinserted
  obtain ⟨header, hheader, hnew⟩ := List.mem_filterMap.mp hown
  have hunknown : id ∉ t.snapshots.map SnapshotRow.id :=
    hfresh id (List.mem_filterMap.mpr ⟨header, List.mem_map.mpr ⟨_, mem_only.mp hheader, rfl⟩, hnew⟩)
  -- the rows are accepted for a snapshot that is there
  rw [htr, List.map_append, List.map_cons] at hsteps
  obtain ⟨m, hm, m', ⟨hans, -⟩, -⟩ := steps_append.mp hsteps
  have hid : id ∈ m.snapshots.map SnapshotRow.id := by
    obtain ⟨i, op, r⟩ := x
    cases op with
    | insertRegisters id' rows' =>
      by_cases hdone : id' = id ∧ r.done?.isSome
      · obtain ⟨rfl, hdone⟩ := hdone
        exact (hans hdone).1
      · cases (if_neg hdone).symm.trans hrows
    | _ => cases hrows
  rw [ids_after hm] at hid
  obtain ⟨ev, hev, hnew'⟩ := List.mem_filterMap.mp ((List.mem_append.mp hid).resolve_left hunknown)
  obtain ⟨z, hz, rfl⟩ := List.mem_map.mp hev
  have hzi : z.1 = x.1 := owner_unique hnodup (htr ▸ List.mem_append_left _ hz) (mem_only.mp hheader) hnew' hnew
  exact ⟨z.2, hzi ▸ hz, hnew'⟩

/-- The events of the inverter collector answer it when it is alone. -/
theorem inverter_steps (hrun : PoolRun Tables.step t (fun i => (writers i).run) tr t' out)
    {tr₁ tr₂ : List (ι × TableEvent)} (htr : tr = tr₁ ++ tr₂) :
    Steps Tables.step t ((inverterEvents writers tr₁).map Prod.snd) (t.replay (inverterEvents writers tr₁)) := by
  obtain ⟨hruns, hsteps⟩ := (poolRun_iff _ _ _ _ _ _).mp hrun
  induction tr₁ using List.reverseRecOn generalizing tr₂ with
  | nil => rfl
  | append_singleton front x ih =>
    have hfront : tr = front ++ x :: tr₂ := by
      rw [htr, List.append_assoc]
      rfl
    have ih := ih hfront
    cases hx : (writers x.1).isInverter with
    | false =>
      rw [inverterEvents_concat, if_neg (by rw [hx]; exact Bool.false_ne_true)]
      exact ih
    | true =>
      rw [inverterEvents_concat, if_pos hx, List.map_append, replay_concat]
      refine steps_append.mpr ⟨_, ih, steps_single.mpr ⟨?_, rfl⟩⟩
      rw [hfront, List.map_append, List.map_cons] at hsteps
      obtain ⟨m, hm, m', ⟨hans, -⟩, -⟩ := steps_append.mp hsteps
      have hwriting := (writers x.1).run_writing.of_run (hruns x.1) x.2
        (mem_only.mpr (hfront ▸ List.mem_append_right _ List.mem_cons_self))
      refine answers_fewer hwriting hans (fun id hid => ?_) fun id rows hrows => ?_
      · rw [ids_after hm]
        rw [ids_after ih] at hid
        refine (List.mem_append.mp hid).elim (List.mem_append_left _) fun hid => List.mem_append_right _ ?_
        obtain ⟨ev, hev, hnew⟩ := List.mem_filterMap.mp hid
        obtain ⟨z, hz, rfl⟩ := List.mem_map.mp hev
        exact List.mem_filterMap.mpr ⟨_, List.mem_map_of_mem (List.mem_of_mem_filter hz), hnew⟩
      · obtain ⟨ev, hheader, hnew⟩ := header_before hrun hfront hrows
        rw [ids_after ih]
        have hkept : (x.1, ev) ∈ inverterEvents writers front := List.mem_filter.mpr ⟨hheader, hx⟩
        exact List.mem_append_right _ (List.mem_filterMap.mpr ⟨ev, List.mem_map_of_mem hkept, hnew⟩)

/-- Without the events of the RS-485 collector the others are a run of the inverter collector alone. -/
theorem inverter_alone (hrun : PoolRun Tables.step t (fun i => (writers i).run) tr t' out) :
    PoolRun Tables.step t (fun i => (writers i).alone) (inverterEvents writers tr)
      (t.replay (inverterEvents writers tr)) (fun i => if (writers i).isInverter then out i else .ok ()) := by
  obtain ⟨hruns, -⟩ := (poolRun_iff _ _ _ _ _ _).mp hrun
  refine (poolRun_iff _ _ _ _ _ _).mpr ⟨fun i => ?_, inverter_steps hrun (List.append_nil tr).symm⟩
  unfold SnapshotWriter.alone
  rw [only_inverterEvents]
  split
  · exact hruns i
  · exact ⟨rfl, rfl⟩

/-- At every time of a run all answers about the inverter are as they would be without the RS-485
collector, exactly when that has inserted no snapshot. -/
theorem rs485_undisturbed_iff (hrun : PoolRun Tables.step t (fun i => (writers i).run) tr t' out) :
    (∀ tr₁ tr₂, tr = tr₁ ++ tr₂ → SameView (t.replay tr₁) (t.replay (inverterEvents writers tr₁))) ↔
      ∀ x ∈ tr, (writers x.1).isInverter = false → newSnapshot x.2 = none := by
  constructor
  · intro h
    by_contra hnot
    push Not at hnot
    obtain ⟨x, hx, hrs485, hnew⟩ := hnot
    -- the first snapshot of the RS-485 collector
    let disturbs : ι × TableEvent → Bool := fun x => !(writers x.1).isInverter && (newSnapshot x.2).isSome
    cases hfind : tr.find? disturbs with
    | none =>
      refine List.find?_eq_none.mp hfind x hx ?_
      show (!(writers x.1).isInverter && (newSnapshot x.2).isSome) = true
      rw [hrs485, Option.isSome_iff_ne_none.mpr hnew]
      rfl
    | some y =>
      obtain ⟨hy, front, back, htr, hfront⟩ := List.find?_eq_some_iff_append.mp hfind
      obtain ⟨hy, hnew⟩ := Bool.and_eq_true_iff.mp hy
      have hfront : ∀ x ∈ front, (writers x.1).isInverter = false → newSnapshot x.2 = none := by
        intro x hx hrs485
        have := hfront x hx
        cases hnew : newSnapshot x.2 with
        | none => rfl
        | some id => simp [disturbs, hrs485, hnew] at this
      have hview := h (front ++ [y]) back (by rw [htr, List.append_assoc]; rfl)
      rw [inverterEvents_concat, if_neg (by simpa using hy), replay_undisturbed hrun htr hfront] at hview
      -- it adds one to what the history counts
      obtain ⟨-, hsteps⟩ := (poolRun_iff _ _ _ _ _ _).mp hrun
      rw [htr, List.map_append, List.map_cons] at hsteps
      obtain ⟨m, hm, m', hstep, -⟩ := steps_append.mp hsteps
      obtain rfl := replay_of_steps hm
      have hreplay : t.replay (front ++ [y]) = m' := (replay_concat t front y).trans hstep.2.symm
      have hlength := congrArg List.length (ids_step hstep)
      rw [hreplay] at hview
      rw [List.length_append, List.length_map, List.length_map, hview.length] at hlength
      obtain ⟨id, hid⟩ := Option.isSome_iff_exists.mp hnew
      rw [hid] at hlength
      simp at hlength
  · intro h tr₁ tr₂ htr
    rw [replay_undisturbed hrun htr fun x hx => h x (htr ▸ List.mem_append_left _ hx)]
    exact SameView.refl _

end

/-! ## A run with both collectors -/

/-- A snapshot of the inverter, and what an RS-485 device has read. -/
def bothCollectors (data : Decoded) : Bool → SnapshotWriter
  | true => .inverter 5 (.ofList [("battery_voltage", { value := .float (.fin 51.2), unit := "V" })]) (.ofList [(4, 512)])
  | false => .rs485 "rs485" data

/-- The inverter collector writes first. -/
def bothRun (data : Decoded) :=
  execPool (Tables.answer "2024-06-01 12:00:00" noSettings) (List.replicate 8 true ++ List.replicate 8 false) Tables.empty
    fun i => (bothCollectors data i).run

theorem bothRun_runs {data : Decoded} (h : ∀ i, ((bothRun data).2.2 i).returns (fun _ => true) = true) :
    ∃ out, PoolRun Tables.step .empty (fun i => (bothCollectors data i).run) (bothRun data).1 (bothRun data).2.1 out := by
  unfold bothRun at h ⊢
  exact execPool_returns Tables.step _ (answer_step _ _) _ _ _ h

/-- A device that only reports its model changes nothing. -/
theorem rs485_undisturbed_text :
    SameView (Tables.empty.replay (bothRun (.ofList [("model", { value := .str "JK", unit := "" })])).1)
      (Tables.empty.replay (inverterEvents (bothCollectors (.ofList [("model", { value := .str "JK", unit := "" })]))
        (bothRun (.ofList [("model", { value := .str "JK", unit := "" })])).1)) := by
  obtain ⟨out, hrun⟩ := @bothRun_runs (.ofList [("model", { value := .str "JK", unit := "" })]) (by decide +kernel)
  refine (rs485_undisturbed_iff hrun).mpr (fun x hx hrs485 => ?_) _ [] (List.append_nil _).symm
  have hall : ((bothRun (.ofList [("model", { value := .str "JK", unit := "" })])).1.all fun x =>
      x.1 || (newSnapshot x.2).isNone) = true := by
    decide +kernel
  have := List.all_eq_true.mp hall x hx
  obtain ⟨b, ev⟩ := x
  cases b with
  | true => cases hrs485
  | false => exact Option.isNone_iff_eq_none.mp this

/-- The names of the latest registers. -/
def latestNames (t : Tables) : List String :=
  ((t.ask noSettings fetchLatestSnapshot).map (·.map LiveSnapshot.registers)).toOption.join.elim [] Dict.keys

/-- After a snapshot of the RS-485 collector the latest registers are none of the inverter. -/
theorem rs485_hides_inverter :
    ¬ ∀ (writers : Bool → SnapshotWriter) (t' : Tables) (tr : List (Bool × TableEvent)) (out : Bool → Except PyErr Unit),
      PoolRun Tables.step .empty (fun i => (writers i).run) tr t' out →
      ∀ tr₁ tr₂, tr = tr₁ ++ tr₂ → SameView (Tables.empty.replay tr₁) (Tables.empty.replay (inverterEvents writers tr₁)) := by
  intro h
  let data : Decoded := .ofList [("voltage", { value := .float (.fin 52), unit := "V" })]
  obtain ⟨out, hrun⟩ := @bothRun_runs data (by decide +kernel)
  have hview := h _ _ _ _ hrun (bothRun data).1 [] (List.append_nil _).symm
  have hnames : latestNames (Tables.empty.replay (bothRun data).1) =
      latestNames (Tables.empty.replay (inverterEvents (bothCollectors data) (bothRun data).1)) :=
    congrArg (fun x => x.toOption.join.elim [] Dict.keys) (hview.latest noSettings)
  have hfull : latestNames (Tables.empty.replay (bothRun data).1) = ["rs485_voltage", "load_power"] := by
    decide +kernel
  have halone : latestNames (Tables.empty.replay (inverterEvents (bothCollectors data) (bothRun data).1)) =
      ["battery_voltage", "load_power"] := by
    decide +kernel
  rw [hfull, halone] at hnames
  exact absurd hnames (by decide)

end LuxMon
