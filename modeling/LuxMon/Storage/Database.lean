import LuxMon.Storage.Outputs
import LuxMon.Effects.Pool

/-!
# The snapshot tables

The statements on `snapshots`, `registers` and `hourly_energy`, and `_write_mariadb`.
All connections commit each statement on its own; one that changes the tables is
carried out as a whole or not at all, and its answer can be lost either way.

    a write inserts the rows of its own snapshot, at most once      (writeMariadb_inserts)
    what is stored is what the statements so far have inserted      (registersOf_after)
-/

namespace LuxMon

open Python Effects

/-! ## Tables -/

structure SnapshotRow where
  id : Nat
  /-- `NOW(3)`, in milliseconds -/
  ts : Nat
  rawRegisters : Dict Nat Nat

structure EnergyRow where
  valueIn : Option PyFloat
  valueOut : Option PyFloat
  deriving DecidableEq

structure Tables where
  snapshots : List SnapshotRow
  /-- rows with their snapshot id -/
  registers : List (Nat × RegisterRow)
  /-- by hour and name -/
  hourlyEnergy : Dict (String × String) EnergyRow
  /-- AUTO_INCREMENT -/
  increasing : (snapshots.map SnapshotRow.id).Pairwise (· < ·)
  /-- the foreign key of `registers` -/
  known : ∀ r ∈ registers, r.1 ∈ snapshots.map SnapshotRow.id

namespace Tables

def empty : Tables where
  snapshots := []
  registers := []
  hourlyEnergy := .empty
  increasing := .nil
  known := by simp

/-- No stored snapshot has this id or a later one. -/
def Unused (t : Tables) (id : Nat) : Prop := ∀ x ∈ t.snapshots.map SnapshotRow.id, x < id

instance (t : Tables) (id : Nat) : Decidable (t.Unused id) := by
  unfold Unused
  infer_instance

def insertSnapshot (t : Tables) (row : SnapshotRow) : Tables :=
  if h : t.Unused row.id then
    { t with
      snapshots := t.snapshots ++ [row]
      increasing := by
        rw [List.map_append, List.pairwise_append]
        exact ⟨t.increasing, List.pairwise_singleton _ _, fun a ha b hb => List.mem_singleton.mp hb ▸ h a ha⟩
      known := fun r hr => by
        rw [List.map_append]
        exact List.mem_append_left _ (t.known r hr) }
  else t

def insertRegisters (t : Tables) (id : Nat) (rows : List RegisterRow) : Tables :=
  if h : id ∈ t.snapshots.map SnapshotRow.id then
    { t with
      registers := t.registers ++ rows.map (id, ·)
      known := fun r hr => by
        rcases List.mem_append.mp hr with hr | hr
        · exact t.known r hr
        · obtain ⟨row, -, rfl⟩ := List.mem_map.mp hr
          exact h }
  else t

/-- `COALESCE(a, 0) + COALESCE(b, 0)`. -/
def coalesceAdd (a b : Option PyFloat) : PyFloat := (a.getD (.fin 0)).add (b.getD (.fin 0))

/-- `INSERT … ON DUPLICATE KEY UPDATE` of `_upsert_hourly`. -/
def upsertHourly (t : Tables) (hour name : String) (valueIn valueOut : Option PyFloat) : Tables :=
  let row : EnergyRow :=
    match t.hourlyEnergy.get? (hour, name) with
    | none => { valueIn := valueIn, valueOut := valueOut }
    | some row =>
      { valueIn := some (coalesceAdd row.valueIn valueIn), valueOut := some (coalesceAdd row.valueOut valueOut) }
  { t with hourlyEnergy := t.hourlyEnergy.set (hour, name) row }

/-- The snapshot with the largest id. -/
def latest (t : Tables) : Option SnapshotRow := t.snapshots.getLast?

/-- The register rows of a snapshot. -/
def registersOf (t : Tables) (id : Nat) : List RegisterRow := (t.registers.filter (·.1 = id)).map Prod.snd

end Tables

/-! ## Statements -/

/-- What a client learns of a statement that changes the tables. -/
inductive Executed (α : Type)
  | ok (a : α)
  /-- carried out, but the connection broke before the answer -/
  | lost (a : α) (e : PyErr)
  | failed (e : PyErr)

namespace Executed

variable {α : Type}

def toExcept : Executed α → Except PyErr α
  | .ok a => .ok a
  | .lost _ e => .error e
  | .failed e => .error e

/-- What the statement did, if it was carried out. -/
def done? : Executed α → Option α
  | .ok a => some a
  | .lost a _ => some a
  | .failed _ => none

theorem done_of_guard {c : Prop} [Decidable c] {a : α} {e : PyErr}
    (h : (if c then Executed.ok a else Executed.failed e).done?.isSome) : c := by
  by_contra hc
  rw [if_neg hc] at h
  cases h

theorem eq_ok_of_toExcept {r : Executed α} {a : α} (h : r.toExcept = .ok a) : r = .ok a := by
  cases r with
  | ok b => exact congrArg Executed.ok (Except.ok.inj h)
  | lost b e => cases h
  | failed e => cases h

end Executed

/-- What the collectors and the readers do to the database and around it. -/
inductive TableOp
  /-- `_ensure_mariadb` -/
  | ensureMariadb
  | insertSnapshot (rawRegisters : Dict Nat Nat)
  | insertRegisters (id : Nat) (rows : List RegisterRow)
  /-- `time.strftime` to the hour -/
  | strftimeHour
  | upsertHourly (hour name : String) (valueIn valueOut : Option PyFloat)
  /-- `_get_conn` -/
  | getConn
  /-- the snapshot with the largest id -/
  | selectLatest
  /-- the register rows of a snapshot, of some names or of all -/
  | selectRegisters (id : Nat) (names : Option (List String))
  /-- the snapshots of a window, by time -/
  | selectSince (since : Nat)
  /-- the register rows of some snapshots -/
  | selectHistory (ids : List Nat) (names : Option (List String))
  | selectSetting (name : String)
  /-- the broadcaster has clients -/
  | activeClients

def TableOp.Answer : TableOp → Type
  | .ensureMariadb => Bool
  | .insertSnapshot _ => Executed (Nat × Nat)
  | .insertRegisters _ _ => Executed Unit
  | .strftimeHour => String
  | .upsertHourly _ _ _ _ => Executed Unit
  | .getConn => Except PyErr Unit
  | .selectLatest => Except PyErr (Option SnapshotRow)
  | .selectRegisters _ _ => Except PyErr (List RegisterRow)
  | .selectSince _ => Except PyErr (List SnapshotRow)
  | .selectHistory _ _ => Except PyErr (List (Nat × RegisterRow))
  | .selectSetting _ => Except PyErr (Option String)
  | .activeClients => Bool

abbrev TableEvent := Event TableOp TableOp.Answer

abbrev Sql (α : Type) := Prog TableOp TableOp.Answer PyErr α

/-! ## `_write_mariadb` -/

/-- The header of a snapshot; the writer learns its id. -/
def insertSnapshot (rawRegisters : Dict Nat Nat) : Sql Nat := do
  let r : Executed (Nat × Nat) ← Prog.perform (TableOp.insertSnapshot rawRegisters)
  let inserted ← Prog.ofExcept r.toExcept
  return inserted.1

/-- `executemany` of the rows. -/
def insertRegisters (id : Nat) (rows : List RegisterRow) : Sql Unit := do
  let r : Executed Unit ← Prog.perform (TableOp.insertRegisters id rows)
  Prog.ofExcept r.toExcept

/-- `_upsert_hourly`. -/
def upsertHourly (hour name : String) (valueIn valueOut : Option PyFloat) : Sql Unit := do
  let r : Executed Unit ← Prog.perform (TableOp.upsertHourly hour name valueIn valueOut)
  Prog.ofExcept r.toExcept

/-- `_sa_value(decoded, key) or 0.0`. -/
def saValueOrZero (decoded : Decoded) (key : String) : Except PyErr PyFloat := do
  let value ← saValue decoded key
  return orZero value

/-- `_update_hourly_energy`. -/
def updateHourlyEnergy (intervalSec : ℚ) (decoded : Decoded) : Sql Unit := do
  let hour : String ← Prog.perform TableOp.strftimeHour
  let intervalHours := intervalSec / 3600
  let charge ← Prog.ofExcept (saValueOrZero decoded "charge_power")
  let discharge ← Prog.ofExcept (saValueOrZero decoded "discharge_power")
  upsertHourly hour "Battery power" (charge.mulBy intervalHours) (discharge.mulBy intervalHours)
  let gridIn ← Prog.ofExcept (saValueOrZero decoded "grid_import_power")
  let gridOut ← Prog.ofExcept (saValueOrZero decoded "grid_export_power")
  upsertHourly hour "Grid power" (gridIn.mulBy intervalHours) (gridOut.mulBy intervalHours)
  let pv1 ← Prog.ofExcept (saValueOrZero decoded "pv1_power")
  let pv2 ← Prog.ofExcept (saValueOrZero decoded "pv2_power")
  let pv3 ← Prog.ofExcept (saValueOrZero decoded "pv3_power")
  let pv := (pv1.add pv2).add pv3
  let load := (PyFloat.fin 0).max (((pv.add discharge).add gridIn).sub (charge.add gridOut))
  upsertHourly hour "Load power" (load.mulBy intervalHours) none
  -- the three PV powers are read once more
  upsertHourly hour "PV power" (pv.mulBy intervalHours) none

/-- `if rows: cur.executemany(…)`. -/
def insertRows (id : Nat) (rows : List RegisterRow) : Sql Unit :=
  if rows.isEmpty then return () else insertRegisters id rows

/-- The statements of `_write_mariadb`. -/
def insertAll (intervalSec : ℚ) (decoded : Decoded) (rawRegisters : Dict Nat Nat) : Sql Unit := do
  let id ← insertSnapshot rawRegisters
  let rows ← Prog.ofExcept (snapshotRows decoded)
  insertRows id rows
  updateHourlyEnergy intervalSec decoded

/-- `_write_mariadb`. -/
def writeMariadb (intervalSec : ℚ) (decoded : Decoded) (rawRegisters : Dict Nat Nat) : Sql Unit := do
  let usable : Bool ← Prog.perform TableOp.ensureMariadb
  if usable then (insertAll intervalSec decoded rawRegisters).tryCatch fun _ => return ()

/-! ## The database -/

/-- An empty settings table. -/
def noSettings (_ : String) : Option String := none

/-- The client refuses to send any other value. -/
def finite : PyFloat → Bool
  | .fin _ => true
  | _ => false

/-- `name IN (…)`, when there is a filter. -/
def wanted (names : Option (List String)) (row : RegisterRow) : Bool :=
  match names with
  | some names => names.contains row.name
  | none => true

namespace Tables

/-- What a statement does to the tables. -/
def after (t : Tables) : TableEvent → Tables
  | ⟨.insertSnapshot raw, r⟩ =>
    match r.done? with
    | some (id, ts) => t.insertSnapshot { id := id, ts := ts, rawRegisters := raw }
    | none => t
  | ⟨.insertRegisters id rows, r⟩ => if r.done?.isSome then t.insertRegisters id rows else t
  | ⟨.upsertHourly hour name valueIn valueOut, r⟩ =>
    if r.done?.isSome then t.upsertHourly hour name valueIn valueOut else t
  | _ => t

/-- What the database may answer.  Rows of one snapshot come in any order: `ORDER BY name` sorts
keys of a dict. -/
def Answers (t : Tables) : TableEvent → Prop
  | ⟨.insertSnapshot _, r⟩ => ∀ x, r.done? = some x → t.Unused x.1
  | ⟨.insertRegisters id rows, r⟩ =>
    r.done?.isSome → id ∈ t.snapshots.map SnapshotRow.id ∧ rows.all (finite ·.value)
  | ⟨.upsertHourly _ _ valueIn valueOut, r⟩ => r.done?.isSome → (valueIn.toList ++ valueOut.toList).all finite
  | ⟨.selectLatest, r⟩ => ∀ x, r = .ok x → x = t.latest
  | ⟨.selectRegisters id names, r⟩ => ∀ rows, r = .ok rows → rows.Perm ((t.registersOf id).filter (wanted names))
  | _ => True

def step (t : Tables) (ev : TableEvent) (t' : Tables) : Prop := t.Answers ev ∧ t' = t.after ev

end Tables

/-- An answer of a database where everything works, at a local hour and with some settings. -/
def Tables.reply (hour : String) (settings : String → Option String) (t : Tables) : (op : TableOp) → op.Answer
  | .ensureMariadb => true
  | .insertSnapshot _ =>
    let id := (t.latest.elim 0 SnapshotRow.id) + 1
    Executed.ok (id, id)
  | .insertRegisters id rows =>
    if id ∈ t.snapshots.map SnapshotRow.id ∧ rows.all (finite ·.value) then Executed.ok () else Executed.failed .dbError
  | .strftimeHour => hour
  | .upsertHourly _ _ valueIn valueOut =>
    if (valueIn.toList ++ valueOut.toList).all finite then Executed.ok () else Executed.failed .dbError
  | .getConn => Except.ok ()
  | .selectLatest => Except.ok t.latest
  | .selectRegisters id names => Except.ok ((t.registersOf id).filter (wanted names))
  | .selectSince since => Except.ok ((t.snapshots.filter (since ≤ ·.ts)).mergeSort (·.ts ≤ ·.ts))
  | .selectHistory ids names =>
    -- an empty list of names is no SQL
    if names = some [] then Except.error PyErr.dbError
    else Except.ok (t.registers.filter fun r => ids.contains r.1 && wanted names r.2)
  | .selectSetting name => Except.ok (settings name)
  | .activeClients => true

def Tables.answer (hour : String) (settings : String → Option String) (t : Tables) (op : TableOp) :
    op.Answer × Tables :=
  (t.reply hour settings op, t.after ⟨op, t.reply hour settings op⟩)

/-! ## What events store -/

/-- The id of a snapshot that is inserted. -/
def newSnapshot : TableEvent → Option Nat
  | ⟨.insertSnapshot _, r⟩ => r.done?.map Prod.fst
  | _ => none

/-- The rows that are inserted for a snapshot. -/
def newRegisters (id : Nat) : TableEvent → Option (List RegisterRow)
  | ⟨.insertRegisters id' rows, r⟩ => if id' = id ∧ r.done?.isSome then some rows else none
  | _ => none

section
variable {t t' : Tables} {ev : TableEvent} {tr : List TableEvent} {id : Nat}

theorem insertSnapshot_ids (t : Tables) (row : SnapshotRow) (h : t.Unused row.id) :
    (t.insertSnapshot row).snapshots = t.snapshots ++ [row] := by
  unfold Tables.insertSnapshot
  rw [dif_pos h]

theorem insertSnapshot_registers (t : Tables) (row : SnapshotRow) :
    (t.insertSnapshot row).registers = t.registers := by
  unfold Tables.insertSnapshot
  split <;> rfl

theorem insertRegisters_snapshots (t : Tables) (id : Nat) (rows : List RegisterRow) :
    (t.insertRegisters id rows).snapshots = t.snapshots := by
  unfold Tables.insertRegisters
  split <;> rfl

/-- The ids that are stored were there before, or were handed out since. -/
theorem ids_step (h : Tables.step t ev t') :
    t'.snapshots.map SnapshotRow.id = t.snapshots.map SnapshotRow.id ++ (newSnapshot ev).toList := by
  obtain ⟨op, r⟩ := ev
  obtain ⟨hans, rfl⟩ := h
  cases op with
  | insertSnapshot raw =>
    unfold Tables.after newSnapshot
    simp only
    cases hdone : r.done? with
    | none => exact (List.append_nil _).symm
    | some x =>
      rw [insertSnapshot_ids _ _ (hans x hdone), List.map_append]
      rfl
  | insertRegisters id rows =>
    unfold Tables.after
    simp only
    split
    · rw [insertRegisters_snapshots]
      exact (List.append_nil _).symm
    · exact (List.append_nil _).symm
  | upsertHourly hour name valueIn valueOut =>
    unfold Tables.after
    simp only
    split
    · exact (List.append_nil _).symm
    · exact (List.append_nil _).symm
  | _ => exact (List.append_nil _).symm

theorem ids_after (h : Steps Tables.step t tr t') :
    t'.snapshots.map SnapshotRow.id = t.snapshots.map SnapshotRow.id ++ tr.filterMap newSnapshot := by
  induction tr generalizing t with
  | nil =>
    cases h
    simp
  | cons ev tr ih =>
    obtain ⟨m, hm, ht⟩ := h
    rw [ih ht, ids_step hm]
    cases hev : newSnapshot ev with
    | none => rw [List.filterMap_cons_none hev, Option.toList_none, List.append_nil]
    | some id => rw [List.filterMap_cons_some hev, Option.toList_some, List.append_assoc, List.singleton_append]

/-- Ids that are handed out are new, and distinct. -/
theorem newSnapshot_fresh (h : Steps Tables.step t tr t') :
    (tr.filterMap newSnapshot).Nodup ∧
      ∀ id ∈ tr.filterMap newSnapshot, id ∉ t.snapshots.map SnapshotRow.id := by
  have hkeep : ∀ (a : Tables) ev b, Tables.step a ev b → ∀ id, id ∈ a.snapshots.map SnapshotRow.id →
      id ∈ b.snapshots.map SnapshotRow.id := by
    intro a ev b hstep id hid
    rw [ids_step hstep]
    exact List.mem_append_left _ hid
  refine h.fresh (fun t id => id ∈ t.snapshots.map SnapshotRow.id) hkeep ?_
  intro a ev b hstep id hid
  rw [ids_step hstep, hid]
  refine ⟨?_, List.mem_append_right _ List.mem_cons_self⟩
  obtain ⟨op, r⟩ := ev
  cases op with
  | insertSnapshot raw =>
    obtain ⟨x, hx, rfl⟩ := Option.map_eq_some_iff.mp (show r.done?.map Prod.fst = some id from hid)
    exact fun hmem => lt_irrefl _ (hstep.1 x hx _ hmem)
  | _ => cases hid

/-- One statement adds its rows to those of its snapshot. -/
theorem registersOf_step (h : Tables.step t ev t') (id : Nat) :
    t'.registersOf id = t.registersOf id ++ (newRegisters id ev).getD [] := by
  obtain ⟨op, r⟩ := ev
  obtain ⟨hans, rfl⟩ := h
  cases op with
  | insertSnapshot raw =>
    unfold Tables.after Tables.registersOf
    simp only
    split
    · rw [insertSnapshot_registers]
      exact (List.append_nil _).symm
    · exact (List.append_nil _).symm
  | insertRegisters id' rows =>
    unfold Tables.after newRegisters
    simp only
    by_cases hdone : r.done?.isSome
    · obtain ⟨hknown, -⟩ := hans hdone
      rw [if_pos hdone]
      unfold Tables.insertRegisters Tables.registersOf
      rw [dif_pos hknown]
      by_cases hid : id' = id
      · rw [if_pos ⟨hid, hdone⟩]
        subst hid
        rw [List.filter_append, List.map_append]
        simp [List.filter_map, Function.comp_def]
      · rw [if_neg fun h => hid h.1, List.filter_append, List.map_append]
        simp [hid]
    · rw [if_neg hdone, if_neg fun h => hdone h.2]
      exact (List.append_nil _).symm
  | upsertHourly hour name valueIn valueOut =>
    unfold Tables.after
    simp only
    split
    · exact (List.append_nil _).symm
    · exact (List.append_nil _).symm
  | _ => exact (List.append_nil _).symm

/-- What a snapshot has was there before, or was inserted since. -/
theorem registersOf_after (h : Steps Tables.step t tr t') (id : Nat) :
    t'.registersOf id = t.registersOf id ++ (tr.filterMap (newRegisters id)).flatten := by
  induction tr generalizing t with
  | nil =>
    cases h
    simp
  | cons ev tr ih =>
    obtain ⟨m, hm, ht⟩ := h
    rw [ih ht, registersOf_step hm]
    cases hev : newRegisters id ev with
    | none => rw [List.filterMap_cons_none hev, Option.getD_none, List.append_nil]
    | some rows => rw [List.filterMap_cons_some hev, Option.getD_some, List.flatten_cons, List.append_assoc]

/-- Snapshots that are not known have no rows. -/
theorem registersOf_unknown (t : Tables) (h : id ∉ t.snapshots.map SnapshotRow.id) : t.registersOf id = [] := by
  unfold Tables.registersOf
  rw [List.map_eq_nil_iff, List.filter_eq_nil_iff]
  intro r hr heq
  exact h (of_decide_eq_true heq ▸ t.known r hr)

end

theorem latest_max (t : Tables) : t.Unused (t.latest.elim 0 SnapshotRow.id + 1) := by
  intro x hx
  have hsorted := t.increasing
  unfold Tables.latest
  rcases List.eq_nil_or_concat t.snapshots with h | ⟨front, last, h⟩
  · rw [h] at hx
    exact (List.not_mem_nil hx).elim
  · rw [List.concat_eq_append] at h
    rw [h] at hx hsorted ⊢
    rw [List.getLast?_concat]
    rw [List.map_append, List.map_singleton] at hx hsorted
    show x < last.id + 1
    rcases List.mem_append.mp hx with hx | hx
    · exact Nat.lt_succ_of_lt ((List.pairwise_append.mp hsorted).2.2 x hx _ List.mem_cons_self)
    · exact Nat.lt_succ_of_le (List.mem_singleton.mp hx).le

/-- The answers are ones that the database may give. -/
theorem answer_step (hour : String) (settings : String → Option String) (t : Tables) (op : TableOp) :
    Tables.step t ⟨op, (t.answer hour settings op).1⟩ (t.answer hour settings op).2 := by
  refine ⟨?_, rfl⟩
  cases op with
  | insertSnapshot raw =>
    intro x hx
    cases hx
    exact latest_max t
  | insertRegisters id rows => exact Executed.done_of_guard
  | upsertHourly hour name valueIn valueOut => exact Executed.done_of_guard
  | selectLatest =>
    intro x hx
    cases hx
    rfl
  | selectRegisters id names =>
    intro rows hrows
    cases hrows
    exact List.Perm.refl _
  | _ => trivial

/-! ## What a write inserts -/

theorem run_insertSnapshot {raw : Dict Nat Nat} {tr : List TableEvent} {out : Except PyErr Nat}
    (h : (insertSnapshot raw).Run tr out) :
    ∃ r : Executed (Nat × Nat), tr = [⟨.insertSnapshot raw, r⟩] ∧ ∀ id, out = .ok id → ∃ ts, r.done? = some (id, ts) := by
  obtain ⟨(r : Executed (Nat × Nat)), t, rfl, hrest⟩ := h
  have hrest : (Prog.ofExcept r.toExcept >>= fun x => (pure x.1 : Sql Nat)).Run t out := hrest
  rcases (Prog.run_bind _ _ _ _).mp hrest with ⟨x, t₁, t₂, rfl, hx, hret⟩ | ⟨e, rfl, he⟩
  · obtain ⟨rfl, hx'⟩ := (Prog.run_ofExcept _ _ _).mp hx
    obtain ⟨rfl, rfl⟩ := (Prog.run_pure _ _ _).mp hret
    obtain rfl := Executed.eq_ok_of_toExcept hx'.symm
    refine ⟨_, rfl, fun id hid => ⟨x.2, ?_⟩⟩
    cases hid
    rfl
  · obtain ⟨rfl, -⟩ := (Prog.run_ofExcept _ _ _).mp he
    exact ⟨r, rfl, fun id hid => by cases hid⟩

theorem run_insertRows {id : Nat} {rows : List RegisterRow} {tr : List TableEvent} {out : Except PyErr Unit}
    (h : (insertRows id rows).Run tr out) : tr = [] ∨ ∃ r : Executed Unit, tr = [⟨.insertRegisters id rows, r⟩] := by
  unfold insertRows at h
  split at h
  · exact Or.inl h.1
  · obtain ⟨r, t, rfl, hrest⟩ := h
    obtain ⟨rfl, -⟩ := (Prog.run_ofExcept _ _ _).mp hrest
    exact Or.inr ⟨r, rfl⟩

/-- The statements that follow the rows. -/
def TableOp.hourly : TableOp → Bool
  | .strftimeHour => true
  | .upsertHourly _ _ _ _ => true
  | _ => false

theorem upsertHourly_hourly (hour name : String) (valueIn valueOut : Option PyFloat) :
    (upsertHourly hour name valueIn valueOut).Asks fun op => op.hourly = true :=
  Prog.asks_bind ⟨rfl, fun _ => trivial⟩ fun _ => Prog.asks_ofExcept _

theorem updateHourlyEnergy_hourly (intervalSec : ℚ) (decoded : Decoded) :
    (updateHourlyEnergy intervalSec decoded).Asks fun op => op.hourly = true := by
  refine Prog.asks_bind ⟨rfl, fun _ => trivial⟩ fun hour => ?_
  refine Prog.asks_bind (Prog.asks_ofExcept _) fun charge => Prog.asks_bind (Prog.asks_ofExcept _) fun discharge => ?_
  refine Prog.asks_bind (upsertHourly_hourly _ _ _ _) fun _ => ?_
  refine Prog.asks_bind (Prog.asks_ofExcept _) fun gridIn => Prog.asks_bind (Prog.asks_ofExcept _) fun gridOut => ?_
  refine Prog.asks_bind (upsertHourly_hourly _ _ _ _) fun _ => ?_
  refine Prog.asks_bind (Prog.asks_ofExcept _) fun pv1 => Prog.asks_bind (Prog.asks_ofExcept _) fun pv2 => ?_
  refine Prog.asks_bind (Prog.asks_ofExcept _) fun pv3 => Prog.asks_bind (upsertHourly_hourly _ _ _ _) fun _ => ?_
  exact upsertHourly_hourly _ _ _ _

theorem newRegisters_hourly {tr : List TableEvent} (h : ∀ ev ∈ tr, ev.1.hourly = true) (id : Nat) :
    tr.filterMap (newRegisters id) = [] := by
  rw [List.filterMap_eq_nil_iff]
  rintro ⟨op, r⟩ hev
  have hop := h _ hev
  cases op <;> first | rfl | cases hop

/-- The rows that a snapshot gets from a run of a program: none, or all of them for the snapshot it inserted. -/
def InsertsOnce (decoded : Decoded) (tr : List TableEvent) : Prop :=
  ∀ id, tr.filterMap (newRegisters id) = [] ∨
    ∃ rows, snapshotRows decoded = .ok rows ∧ tr.filterMap (newRegisters id) = [rows] ∧ id ∈ tr.filterMap newSnapshot

theorem insertsOnce_header {decoded : Decoded} {raw : Dict Nat Nat} {r : Executed (Nat × Nat)} {id ts : Nat}
    {rows : List RegisterRow} (hdone : r.done? = some (id, ts)) (hrows : snapshotRows decoded = .ok rows)
    {t rest : List TableEvent} (ht : t = [] ∨ ∃ r' : Executed Unit, t = [⟨.insertRegisters id rows, r'⟩])
    (hrest : ∀ ev ∈ rest, ev.1.hourly = true) :
    InsertsOnce decoded (⟨.insertSnapshot raw, r⟩ :: (t ++ rest)) := by
  intro i
  have hnone : newRegisters i ⟨.insertSnapshot raw, r⟩ = none := rfl
  rw [List.filterMap_cons_none hnone, List.filterMap_append, newRegisters_hourly hrest, List.append_nil]
  rcases ht with rfl | ⟨r', rfl⟩
  · exact Or.inl rfl
  · by_cases h : id = i ∧ r'.done?.isSome
    · have hsome : newRegisters i ⟨.insertRegisters id rows, r'⟩ = some rows := if_pos h
      have hnew : newSnapshot ⟨.insertSnapshot raw, r⟩ = some i := by
        show r.done?.map Prod.fst = some i
        rw [hdone, ← h.1]
        rfl
      refine Or.inr ⟨rows, hrows, by rw [List.filterMap_cons_some hsome]; rfl, ?_⟩
      exact List.mem_filterMap.mpr ⟨_, List.mem_cons_self, hnew⟩
    · have hnone : newRegisters i ⟨.insertRegisters id rows, r'⟩ = none := if_neg h
      exact Or.inl (by rw [List.filterMap_cons_none hnone]; rfl)

theorem insertAll_inserts {intervalSec : ℚ} {decoded : Decoded} {raw : Dict Nat Nat} {tr : List TableEvent}
    {out : Except PyErr Unit} (h : (insertAll intervalSec decoded raw).Run tr out) : InsertsOnce decoded tr := by
  have hnil : ∀ ev ∈ ([] : List TableEvent), ev.1.hourly = true := by simp
  rcases (Prog.run_bind _ _ _ _).mp h with ⟨id, t₁, u, rfl, hid, hrest⟩ | ⟨e, rfl, hid⟩
  · obtain ⟨r, rfl, hdone⟩ := run_insertSnapshot hid
    obtain ⟨ts, hdone⟩ := hdone id rfl
    rcases (Prog.run_bind _ _ _ _).mp hrest with ⟨rows, t₂, u', rfl, hcomputed, hrest'⟩ | ⟨e, rfl, he⟩
    · obtain ⟨rfl, hrows⟩ := (Prog.run_ofExcept _ _ _).mp hcomputed
      rcases (Prog.run_bind _ _ _ _).mp hrest' with ⟨_, t₃, u'', rfl, hinsert, hhourly⟩ | ⟨e, rfl, hinsert⟩
      · show InsertsOnce decoded (⟨.insertSnapshot raw, r⟩ :: (t₃ ++ u''))
        exact insertsOnce_header hdone hrows.symm (run_insertRows hinsert)
          ((updateHourlyEnergy_hourly _ _).of_run hhourly)
      · show InsertsOnce decoded (⟨.insertSnapshot raw, r⟩ :: u')
        rw [← List.append_nil u']
        exact insertsOnce_header hdone hrows.symm (run_insertRows hinsert) hnil
    · obtain ⟨rfl, -⟩ := (Prog.run_ofExcept _ _ _).mp he
      exact fun _ => Or.inl rfl
  · obtain ⟨r, rfl, -⟩ := run_insertSnapshot hid
    exact fun _ => Or.inl rfl

/-- A write inserts the rows of its own snapshot or none. -/
theorem writeMariadb_inserts {intervalSec : ℚ} {decoded : Decoded} {raw : Dict Nat Nat} {tr : List TableEvent}
    {out : Except PyErr Unit} (h : (writeMariadb intervalSec decoded raw).Run tr out) : InsertsOnce decoded tr := by
  obtain ⟨(usable : Bool), t, rfl, hrest⟩ := h
  have hrest : (if usable then (insertAll intervalSec decoded raw).tryCatch fun _ => pure () else pure () :
    Sql Unit).Run t out := hrest
  show InsertsOnce decoded t
  split at hrest
  · rcases (Prog.run_tryCatch _ _ _ _).mp hrest with ⟨a, -, hrun⟩ | ⟨e, t₁, t₂, rfl, hrun, rfl, -⟩
    · exact insertAll_inserts hrun
    · rw [List.append_nil]
      exact insertAll_inserts hrun
  · obtain ⟨rfl, -⟩ := hrest
    exact fun _ => Or.inl rfl

/-! ## What comes before the header -/

/-- The header comes first; when it is not inserted, the write is over. -/
theorem insertAll_header {intervalSec : ℚ} {decoded : Decoded} {raw : Dict Nat Nat} {tr : List TableEvent}
    {out : Except PyErr Unit} (h : (insertAll intervalSec decoded raw).Run tr out) :
    ∃ (r : Executed (Nat × Nat)) (rest : List TableEvent), tr = ⟨.insertSnapshot raw, r⟩ :: rest ∧
      (r.done? = none → rest = []) := by
  rcases (Prog.run_bind _ _ _ _).mp h with ⟨id, t, u, rfl, hid, -⟩ | ⟨e, rfl, hid⟩
  · obtain ⟨r, rfl, hdone⟩ := run_insertSnapshot hid
    obtain ⟨ts, hdone⟩ := hdone id rfl
    refine ⟨r, u, rfl, fun hnone => ?_⟩
    rw [hdone] at hnone
    cases hnone
  · obtain ⟨r, rfl, -⟩ := run_insertSnapshot hid
    exact ⟨r, [], rfl, fun _ => rfl⟩

/-- Until a write has inserted a header, it has changed nothing. -/
theorem writeMariadb_idle {intervalSec : ℚ} {decoded : Decoded} {raw : Dict Nat Nat} {u v : List TableEvent}
    {out : Except PyErr Unit} (h : (writeMariadb intervalSec decoded raw).Run (u ++ v) out)
    (hnone : u.filterMap newSnapshot = []) : ∀ ev ∈ u, ∀ t : Tables, t.after ev = t := by
  have hidle : ∀ {tr : List TableEvent} {o : Except PyErr Unit}, (insertAll intervalSec decoded raw).Run tr o →
      ∀ {u v : List TableEvent}, u ++ v = tr → u.filterMap newSnapshot = [] → ∀ ev ∈ u, ∀ t : Tables, t.after ev = t := by
    intro tr o hrun u v huv hnone ev hev t
    obtain ⟨r, rest, rfl, hrest⟩ := insertAll_header hrun
    cases u with
    | nil => cases hev
    | cons x u =>
      obtain ⟨rfl, htail⟩ := List.cons.inj huv
      have hdone : r.done? = none := by
        rw [List.filterMap_eq_nil_iff] at hnone
        exact Option.map_eq_none_iff.mp (hnone _ List.mem_cons_self)
      obtain ⟨rfl, -⟩ := List.append_eq_nil_iff.mp (htail.trans (hrest hdone))
      obtain rfl := List.mem_singleton.mp hev
      unfold Tables.after
      simp only [hdone]
  obtain ⟨(usable : Bool), t, huv, hrest⟩ := h
  have hrest : (if usable then (insertAll intervalSec decoded raw).tryCatch fun _ => pure () else pure () :
    Sql Unit).Run t out := hrest
  cases u with
  | nil => simp
  | cons x u =>
    obtain ⟨rfl, rfl⟩ := List.cons.inj huv
    intro ev hev
    rcases List.mem_cons.mp hev with rfl | hev
    · exact fun t => rfl
    split at hrest
    · rcases (Prog.run_tryCatch _ _ _ _).mp hrest with ⟨a, -, hrun⟩ | ⟨e, t₁, t₂, heq, hrun, hret⟩
      · exact hidle hrun rfl hnone ev hev
      · obtain ⟨rfl, -⟩ := hret
        rw [List.append_nil] at heq
        exact hidle hrun heq hnone ev hev
    · rw [(List.append_eq_nil_iff.mp hrest.1).1] at hev
      cases hev

/-- Everything a write asks for. -/
def TableOp.writing : TableOp → Bool
  | .ensureMariadb => true
  | .insertSnapshot _ => true
  | .insertRegisters _ _ => true
  | op => op.hourly

theorem writeMariadb_writing (intervalSec : ℚ) (decoded : Decoded) (raw : Dict Nat Nat) :
    (writeMariadb intervalSec decoded raw).Asks fun op => op.writing = true := by
  have hhourly : ∀ op : TableOp, op.hourly = true → op.writing = true := by
    intro op h
    cases op <;> first | rfl | cases h
  refine Prog.asks_bind ⟨rfl, fun _ => trivial⟩ fun usable => ?_
  split
  · refine Prog.asks_tryCatch ?_ fun _ => trivial
    refine Prog.asks_bind (Prog.asks_bind ⟨rfl, fun _ => trivial⟩ fun r => ?_) fun id => ?_
    · exact Prog.asks_bind (Prog.asks_ofExcept _) fun _ => trivial
    · refine Prog.asks_bind (Prog.asks_ofExcept _) fun rows => Prog.asks_bind ?_ fun _ => ?_
      · unfold insertRows
        split
        · trivial
        · exact Prog.asks_bind ⟨rfl, fun _ => trivial⟩ fun r => Prog.asks_ofExcept _
      · exact (updateHourlyEnergy_hourly _ _).mono hhourly
  · trivial

end LuxMon
