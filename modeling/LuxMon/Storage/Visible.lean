import LuxMon.Api.Snapshot

/-!
# When a snapshot is visible

Writers and readers in any order.  The header of a snapshot is visible before its
rows are, and they stay away when the write fails in between; a reader that asks then
shows the id without any register, and the broadcaster does not send it again.

    a shown snapshot has the rows of its writer ↔ they were inserted before
      the reader asked for them                                (snapshot_complete_iff)
    otherwise it has none of them                              (rows_before)
-/

namespace LuxMon

open Python Effects

/-! ## Runs -/

/-- A collector that writes a snapshot, or a reader. -/
inductive Party
  | writer (intervalSec : ℚ) (decoded : Decoded) (rawRegisters : Dict Nat Nat)
  | status
  /-- `/api/alerts/live`, or a new WebSocket -/
  | fetch
  | broadcaster (rounds : Nat)

/-- What a party does; a reader returns the snapshots that it answers or marks as sent. -/
def Party.run : Party → Sql (List LiveSnapshot)
  | .writer intervalSec decoded raw => do
    writeMariadb intervalSec decoded raw
    return []
  | .status => do
    let snap ← apiStatus
    return [snap]
  | .fetch => do
    let snap ← fetchLatestSnapshot
    return snap.toList
  | .broadcaster rounds => LuxMon.broadcaster rounds none

/-- The snapshot shows all rows that were intended for these values. -/
def LiveSnapshot.Complete (snap : LiveSnapshot) (decoded : Decoded) : Prop :=
  ∃ rows shown, snapshotRows decoded = .ok rows ∧ shown.Perm rows ∧ snap.ShowsRows shown

section
variable {ι : Type}

/-- The party has inserted the header of this snapshot. -/
def HeaderOf [DecidableEq ι] (tr : List (ι × TableEvent)) (j : ι) (id : Nat) : Prop :=
  id ∈ (only j tr).filterMap newSnapshot

/-- The rows of this snapshot have been inserted. -/
def RowsInserted (tr : List (ι × TableEvent)) (id : Nat) : Prop := ∃ x ∈ tr, (newRegisters id x.2).isSome

end

/-! ## What a reader shows -/

theorem rows_load_power {decoded : Decoded} {rows : List RegisterRow} (h : snapshotRows decoded = .ok rows) :
    ∃ row ∈ rows, row.name = "load_power" := by
  obtain ⟨decodedRows, -, h⟩ := bind_eq_ok.mp h
  obtain ⟨computed, hcomputed, h⟩ := bind_eq_ok.mp h
  cases h
  obtain ⟨x, hx⟩ := Dict.mem_keys_iff.mp (load_power_computed hcomputed)
  refine ⟨{ name := "load_power", value := x, unit := "W" }, List.mem_append_right _ ?_, rfl⟩
  refine List.mem_filterMap.mpr ⟨"load_power", by decide, ?_⟩
  unfold computedRow
  rw [hx]
  rfl

theorem showFahrenheit_keys {registers : Decoded} {key name : String} (h : name ∈ registers.keys) :
    name ∈ (showFahrenheit registers key).keys := by
  unfold showFahrenheit
  split
  · exact Dict.mem_keys_set.mpr (Or.inl h)
  · exact h

theorem apiConvertTemperatures_keys {registers : Decoded} {name : String} (unit : Option String)
    (h : name ∈ registers.keys) : name ∈ (apiConvertTemperatures unit registers).keys := by
  unfold apiConvertTemperatures
  split
  · generalize TEMP_KEYS = keys
    induction keys generalizing registers with
    | nil => exact h
    | cons key keys ih => exact ih (showFahrenheit_keys h)
  · exact h

theorem addLabel_keys {registers labelled : Decoded} {l : String × String × (Json → Except PyErr String)}
    {name : String} (h : addLabel registers l = .ok labelled) (hname : name ∈ registers.keys) : name ∈ labelled.keys := by
  unfold addLabel at h
  split at h
  · obtain ⟨label, -, h⟩ := bind_eq_ok.mp h
    cases h
    exact Dict.mem_keys_set.mpr (Or.inl hname)
  · cases h
    exact hname

theorem addLabels_keys {registers labelled : Decoded} {name : String} (h : addLabels registers = .ok labelled)
    (hname : name ∈ registers.keys) : name ∈ labelled.keys := by
  unfold addLabels at h
  generalize registerLabels = labels at h
  induction labels generalizing registers with
  | nil =>
    cases h
    exact hname
  | cons l labels ih =>
    rw [List.foldlM_cons] at h
    obtain ⟨next, hnext, h⟩ := bind_eq_ok.mp h
    exact ih (addLabel_keys hnext hname) h

/-- Every row that is shown has its name among the registers. -/
theorem ShowsRows.keys {snap : LiveSnapshot} {rows : List RegisterRow} (h : snap.ShowsRows rows) {row : RegisterRow}
    (hrow : row ∈ rows) : row.name ∈ snap.registers.keys := by
  obtain ⟨unit, h⟩ := h
  refine addLabels_keys h (apiConvertTemperatures_keys unit ?_)
  refine Dict.mem_keys_sets.mpr (Or.inr (List.mem_map.mpr ⟨_, List.mem_map_of_mem hrow, rfl⟩))

/-- Without rows there are no registers. -/
theorem ShowsRows.nil {snap : LiveSnapshot} (h : snap.ShowsRows []) : snap.registers = .empty := by
  obtain ⟨unit, h⟩ := h
  unfold apiConvertTemperatures at h
  split at h
  · exact (Except.ok.inj h).symm
  · exact (Except.ok.inj h).symm

theorem Complete.load_power {snap : LiveSnapshot} {decoded : Decoded} (h : snap.Complete decoded) :
    "load_power" ∈ snap.registers.keys := by
  obtain ⟨rows, shown, hrows, hperm, hshown⟩ := h
  obtain ⟨row, hrow, hname⟩ := rows_load_power hrows
  rw [← hname]
  exact ShowsRows.keys hshown (hperm.mem_iff.mpr hrow)

/-! ## One party -/

theorem Party.run_shown {p : Party} {tr : List TableEvent} {shown : List LiveSnapshot} (h : p.run.Run tr (.ok shown)) :
    ∀ snap ∈ shown, ShownFrom tr snap := by
  cases p with
  | writer intervalSec decoded raw =>
    obtain ⟨_, t, u, rfl, -, hret⟩ := (Prog.run_bind_ok _ _ _ _).mp h
    cases hret.2
    simp
  | status =>
    obtain ⟨snap, t, u, rfl, hsnap, hret⟩ := (Prog.run_bind_ok _ _ _ _).mp h
    cases hret.2
    intro snap' hsnap'
    obtain rfl := List.mem_singleton.mp hsnap'
    exact (apiStatus_shown hsnap).append_right
  | fetch =>
    obtain ⟨snap, t, u, rfl, hsnap, hret⟩ := (Prog.run_bind_ok _ _ _ _).mp h
    cases hret.2
    intro snap' hsnap'
    rw [Option.mem_toList.mp hsnap'] at hsnap
    exact (fetchLatestSnapshot_shown hsnap).append_right
  | broadcaster rounds => exact broadcaster_shown h

/-- Only a writer inserts rows, all of them at once and for its own snapshot. -/
theorem Party.run_inserts {p : Party} {tr : List TableEvent} {out : Except PyErr (List LiveSnapshot)}
    (h : p.run.Run tr out) {id : Nat} (hinserts : tr.filterMap (newRegisters id) ≠ []) :
    ∃ intervalSec decoded raw rows, p = .writer intervalSec decoded raw ∧ snapshotRows decoded = .ok rows ∧
      tr.filterMap (newRegisters id) = [rows] ∧ id ∈ tr.filterMap newSnapshot := by
  cases p with
  | writer intervalSec decoded raw =>
    refine ⟨intervalSec, decoded, raw, ?_⟩
    rcases (Prog.run_bind _ _ _ _).mp h with ⟨_, t, u, rfl, hwrite, rfl, -⟩ | ⟨e, rfl, hwrite⟩
    · rw [List.append_nil] at hinserts ⊢
      obtain ⟨rows, hrows, hinserted⟩ := (writeMariadb_inserts hwrite id).resolve_left hinserts
      exact ⟨rows, rfl, hrows, hinserted⟩
    · obtain ⟨rows, hrows, hinserted⟩ := (writeMariadb_inserts hwrite id).resolve_left hinserts
      exact ⟨rows, rfl, hrows, hinserted⟩
  | status =>
    have hreads : Party.status.run.Asks fun op => op.reading = true := Prog.asks_bind apiStatus_reading fun _ => trivial
    exact absurd (newRegisters_reading (hreads.of_run h) id) hinserts
  | fetch =>
    have hreads : Party.fetch.run.Asks fun op => op.reading = true :=
      Prog.asks_bind fetchLatestSnapshot_reading fun _ => trivial
    exact absurd (newRegisters_reading (hreads.of_run h) id) hinserts
  | broadcaster rounds =>
    exact absurd (newRegisters_reading ((broadcaster_reading rounds none).of_run h) id) hinserts

/-! ## Programs that insert for themselves -/

/-- The program inserts rows only for a snapshot of its own, all of them at once. -/
def InsertsOwn {α : Type} (intended : List RegisterRow → Prop) (p : Sql α) : Prop :=
  ∀ tr out id, p.Run tr out → tr.filterMap (newRegisters id) ≠ [] →
    ∃ rows, intended rows ∧ tr.filterMap (newRegisters id) = [rows] ∧ id ∈ tr.filterMap newSnapshot

section
variable {ι α : Type} [DecidableEq ι] {progs : ι → Sql α} {intended : ι → List RegisterRow → Prop} {t t' : Tables}
  {tr : List (ι × TableEvent)} {out : ι → Except PyErr α}

/-- What is inserted for a snapshot comes from the program that inserted its header. -/
theorem insertsOwn_owner (hown : ∀ i, InsertsOwn (intended i) (progs i)) (hrun : PoolRun Tables.step t progs tr t' out)
    {j : ι} {id : Nat} (hheader : HeaderOf tr j id) : ∀ x ∈ tr, (newRegisters id x.2).isSome → x.1 = j := by
  obtain ⟨hruns, hsteps⟩ := (poolRun_iff _ _ _ _ _ _).mp hrun
  intro x hx hsome
  obtain ⟨rows, hrows⟩ := Option.isSome_iff_exists.mp hsome
  have hinserts : (only x.1 tr).filterMap (newRegisters id) ≠ [] := by
    intro h
    have hmem : rows ∈ (only x.1 tr).filterMap (newRegisters id) :=
      List.mem_filterMap.mpr ⟨x.2, mem_only.mpr hx, hrows⟩
    rw [h] at hmem
    exact List.not_mem_nil hmem
  obtain ⟨_, -, -, hnew⟩ := hown x.1 _ _ _ (hruns x.1) hinserts
  obtain ⟨ev, hev, hid⟩ := List.mem_filterMap.mp hnew
  obtain ⟨ev', hev', hid'⟩ := List.mem_filterMap.mp hheader
  exact owner_unique (newSnapshot_fresh hsteps).1 (mem_only.mp hev) (mem_only.mp hev') hid hid'

/-- At any time a snapshot has either no rows or all that its program intended. -/
theorem insertsOwn_before (hown : ∀ i, InsertsOwn (intended i) (progs i))
    (hrun : PoolRun Tables.step t progs tr t' out) {j : ι} {id : Nat} (hheader : HeaderOf tr j id)
    {tr₁ tr₂ : List (ι × TableEvent)} (htr : tr = tr₁ ++ tr₂) {m : Tables}
    (hm : Steps Tables.step t (tr₁.map Prod.snd) m) :
    (¬ RowsInserted tr₁ id ∧ m.registersOf id = []) ∨ (RowsInserted tr₁ id ∧ intended j (m.registersOf id)) := by
  obtain ⟨hruns, hsteps⟩ := (poolRun_iff _ _ _ _ _ _).mp hrun
  have howner := insertsOwn_owner hown hrun hheader
  obtain ⟨header, hheader, hid⟩ := List.mem_filterMap.mp hheader
  have hnew : id ∉ t.snapshots.map SnapshotRow.id := (newSnapshot_fresh hsteps).2 id
    (List.mem_filterMap.mpr ⟨header, List.mem_map.mpr ⟨_, mem_only.mp hheader, rfl⟩, hid⟩)
  have hrows : m.registersOf id = ((only j tr₁).filterMap (newRegisters id)).flatten := by
    rw [registersOf_after hm, registersOf_unknown t hnew, List.nil_append,
      filterMap_of_owner fun x hx => howner x (htr ▸ List.mem_append_left _ hx)]
  by_cases hinserts : (only j tr₁).filterMap (newRegisters id) = []
  · refine Or.inl ⟨?_, by rw [hrows, hinserts]; rfl⟩
    rintro ⟨x, hx, hsome⟩
    obtain ⟨rows, hx'⟩ := Option.isSome_iff_exists.mp hsome
    have hxj : x.1 = j := howner x (htr ▸ List.mem_append_left _ hx) hsome
    have hmem : rows ∈ (only j tr₁).filterMap (newRegisters id) :=
      List.mem_filterMap.mpr ⟨x.2, mem_only.mpr (hxj ▸ hx), hx'⟩
    rw [hinserts] at hmem
    exact List.not_mem_nil hmem
  · have hsplit : (only j tr).filterMap (newRegisters id) =
        (only j tr₁).filterMap (newRegisters id) ++ (only j tr₂).filterMap (newRegisters id) := by
      rw [htr, only_append, List.filterMap_append]
    have hsome : (only j tr).filterMap (newRegisters id) ≠ [] := by
      rw [hsplit]
      exact fun h => hinserts (List.append_eq_nil_iff.mp h).1
    obtain ⟨rows, hintended, hall, -⟩ := hown j _ _ _ (hruns j) hsome
    rw [hsplit] at hall
    have hone : (only j tr₁).filterMap (newRegisters id) = [rows] := by
      rcases List.append_eq_singleton_iff.mp hall with ⟨h, -⟩ | ⟨h, -⟩
      · exact absurd h hinserts
      · exact h
    refine Or.inr ⟨?_, by rw [hrows, hone, List.flatten_singleton]; exact hintended⟩
    have hmem : rows ∈ (only j tr₁).filterMap (newRegisters id) := by
      rw [hone]
      exact List.mem_cons_self
    obtain ⟨ev, hev, hrow⟩ := List.mem_filterMap.mp hmem
    exact ⟨_, mem_only.mp hev, by rw [hrow]; rfl⟩

end

/-! ## All parties -/

/-- What a party is to insert for a snapshot. -/
def Party.Intends (p : Party) (rows : List RegisterRow) : Prop :=
  ∃ intervalSec decoded raw, p = .writer intervalSec decoded raw ∧ snapshotRows decoded = .ok rows

theorem Party.insertsOwn (p : Party) : InsertsOwn p.Intends p.run := by
  intro tr out id h hinserts
  obtain ⟨intervalSec, decoded, raw, rows, hp, hrows, hall, hnew⟩ := p.run_inserts h hinserts
  exact ⟨rows, ⟨intervalSec, decoded, raw, hp, hrows⟩, hall, hnew⟩

section
variable {ι : Type} [DecidableEq ι] {parties : ι → Party} {t t' : Tables} {tr : List (ι × TableEvent)}
  {out : ι → Except PyErr (List LiveSnapshot)}

/-- At any time a snapshot has either no rows or all that its writer intended. -/
theorem rows_before (hrun : PoolRun Tables.step t (fun i => (parties i).run) tr t' out) {j : ι} {id : Nat}
    (hheader : HeaderOf tr j id) {intervalSec : ℚ} {decoded : Decoded} {raw : Dict Nat Nat}
    (hj : parties j = .writer intervalSec decoded raw) {tr₁ tr₂ : List (ι × TableEvent)} (htr : tr = tr₁ ++ tr₂)
    {m : Tables} (hm : Steps Tables.step t (tr₁.map Prod.snd) m) :
    (¬ RowsInserted tr₁ id ∧ m.registersOf id = []) ∨
      (RowsInserted tr₁ id ∧ snapshotRows decoded = .ok (m.registersOf id)) := by
  refine (insertsOwn_before (fun i => (parties i).insertsOwn) hrun hheader htr hm).imp_right fun ⟨hinserted, h⟩ => ?_
  obtain ⟨_, _, _, hwriter, hrows⟩ := h
  rw [hj] at hwriter
  cases hwriter
  exact ⟨hinserted, hrows⟩

/-- A snapshot that a reader answers or marks as sent has all rows of its writer exactly when they
were inserted before the reader's SELECT of the rows. -/
theorem snapshot_complete_iff (hrun : PoolRun Tables.step t (fun i => (parties i).run) tr t' out) {i : ι}
    {shown : List LiveSnapshot} (hout : out i = .ok shown) {snap : LiveSnapshot} (hsnap : snap ∈ shown) :
    ∃ tr₁ rows tr₂, tr = tr₁ ++ (i, ⟨.selectRegisters snap.snapshotId none, .ok rows⟩) :: tr₂ ∧ snap.ShowsRows rows ∧
      ∀ j intervalSec decoded raw, parties j = .writer intervalSec decoded raw → HeaderOf tr j snap.snapshotId →
        (snap.Complete decoded ↔ RowsInserted tr₁ snap.snapshotId) := by
  obtain ⟨hruns, hsteps⟩ := (poolRun_iff _ _ _ _ _ _).mp hrun
  obtain ⟨t₁, rows, t₂, honly, hshows⟩ := (parties i).run_shown (hout ▸ hruns i) snap hsnap
  obtain ⟨tr₁, tr₂, rfl, -, -⟩ := exists_of_only_eq honly
  refine ⟨tr₁, rows, tr₂, rfl, hshows, fun j intervalSec decoded raw hj hheader => ?_⟩
  rw [List.map_append, List.map_cons] at hsteps
  obtain ⟨m, hm, m', ⟨hans, -⟩, -⟩ := steps_append.mp hsteps
  have hperm : rows.Perm (m.registersOf snap.snapshotId) := by
    have := hans rows rfl
    rwa [show (m.registersOf snap.snapshotId).filter (wanted none) = m.registersOf snap.snapshotId from
      List.filter_eq_self.mpr fun _ _ => rfl] at this
  rcases rows_before hrun hheader hj rfl hm with ⟨hnot, hnone⟩ | ⟨hinserted, hall⟩
  · rw [hnone, List.perm_nil] at hperm
    subst hperm
    refine ⟨fun h => ?_, fun h => absurd h hnot⟩
    have hload := Complete.load_power h
    rw [ShowsRows.nil hshows] at hload
    exact (List.not_mem_nil hload).elim
  · exact ⟨fun _ => hinserted, fun _ => ⟨_, rows, hall, hperm, hshows⟩⟩

end

/-! ## A reader in between -/

def oneReading : Decoded := .ofList [("battery_voltage", { value := .float (.fin 51.2), unit := "V" })]

/-- One write, and two rounds of the broadcaster. -/
def writeAndBroadcast : Bool → Party
  | false => .writer 5 oneReading (.ofList [(4, 512)])
  | true => .broadcaster 2

/-- The first round comes between the header and the rows, the second when all is written. -/
def betweenRun :=
  execPool (Tables.answer "2024-06-01 12:00:00" noSettings)
    (List.replicate 2 false ++ List.replicate 5 true ++ List.replicate 6 false ++ List.replicate 5 true)
    Tables.empty fun i => (writeAndBroadcast i).run

/-- All that the broadcaster sends in this run is the id, without registers. -/
theorem betweenRun_runs : ∃ t' out snap, PoolRun Tables.step .empty (fun i => (writeAndBroadcast i).run) betweenRun.1 t' out ∧
    HeaderOf betweenRun.1 false 1 ∧ out true = .ok [snap] ∧ snap.snapshotId = 1 ∧ snap.registers.keys = [] := by
  have hwriter : (betweenRun.2.2 false).returns (fun _ => true) = true := by
    decide +kernel
  have hreader : (betweenRun.2.2 true).returns
      (fun shown => decide (shown.map (fun snap => (snap.snapshotId, snap.registers.keys)) = [(1, [])])) = true := by
    decide +kernel
  have hheader : HeaderOf betweenRun.1 false 1 := by
    unfold HeaderOf
    decide +kernel
  obtain ⟨written, hwritten, -⟩ := Prog.returns_iff.mp hwriter
  obtain ⟨shown, hshown, hsnap⟩ := Prog.returns_iff.mp hreader
  obtain ⟨snap, rfl, hsent⟩ := List.map_eq_singleton_iff.mp (of_decide_eq_true hsnap)
  obtain ⟨hid, hkeys⟩ := Prod.mk.inj hsent
  refine ⟨betweenRun.2.1, fun i => if i then .ok [snap] else .ok written, snap, ?_, hheader, rfl, hid, hkeys⟩
  refine execPool_spec Tables.step _ (answer_step _ _) _ _ _ _ fun i => ?_
  cases i with
  | false => exact hwritten ▸ ⟨rfl, rfl⟩
  | true => exact hshown ▸ ⟨rfl, rfl⟩

theorem snapshot_complete_between : ∃ out : Bool → Except PyErr (List LiveSnapshot), ∃ snap, out true = .ok [snap] ∧
    ∃ tr₁ rows tr₂, betweenRun.1 = tr₁ ++ (true, ⟨.selectRegisters snap.snapshotId none, .ok rows⟩) :: tr₂ ∧
      (snap.Complete oneReading ↔ RowsInserted tr₁ snap.snapshotId) := by
  obtain ⟨t', out, snap, hrun, hheader, hout, hid, -⟩ := betweenRun_runs
  obtain ⟨tr₁, rows, tr₂, htr, -, hiff⟩ := snapshot_complete_iff hrun hout List.mem_cons_self
  exact ⟨out, snap, hout, tr₁, rows, tr₂, htr, hiff false 5 _ _ rfl (hid ▸ hheader)⟩

/-- The broadcaster marks a snapshot as sent without its rows. -/
theorem header_broadcast_alone :
    ¬ ∀ (parties : Bool → Party) (t' : Tables) (tr : List (Bool × TableEvent)) (out : Bool → Except PyErr (List LiveSnapshot)),
      PoolRun Tables.step .empty (fun i => (parties i).run) tr t' out →
      ∀ i shown, out i = .ok shown → ∀ snap ∈ shown, ∀ j intervalSec decoded raw,
        parties j = .writer intervalSec decoded raw → HeaderOf tr j snap.snapshotId → snap.Complete decoded := by
  intro h
  obtain ⟨t', out, snap, hrun, hheader, hout, hid, hkeys⟩ := betweenRun_runs
  have hcomplete := h writeAndBroadcast _ _ _ hrun true _ hout snap List.mem_cons_self false 5 _ _ rfl (hid ▸ hheader)
  have hload := Complete.load_power hcomplete
  rw [hkeys] at hload
  exact List.not_mem_nil hload

end LuxMon
