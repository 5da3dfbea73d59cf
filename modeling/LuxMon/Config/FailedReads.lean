import LuxMon.Config.Collector

/-!
# Failed settings reads

`_read_db_settings` answers a failure with a dict, and a check compares that dict
like any other.

    a run of checks leaves the collector alone ↔ each first read succeeds, or
      yields what is stored anyway                             (failed_reads_iff)
-/

namespace LuxMon

/-- All settings that the fingerprint covers. -/
def watchedKeys : List String := liveSafeKeys ++ restartKeys

/-- What the read yields agrees with the stored settings: it succeeds, or it fails where the
stored values are the ones that it yields then. -/
def Harmless (rows : Rows) (a : Access) : Prop :=
  if a.connects then
    a.queries = true ∨ ∀ k ∈ watchedKeys, (stored rows).value k = (defaults.lookup k).getD ""
  else ∀ k ∈ watchedKeys, (stored rows).value k = ""

theorem harmless_iff (rows : Rows) (connects queries : Bool) :
    Harmless rows ⟨rows, connects, queries⟩ ↔
      ∀ k ∈ watchedKeys, (readDbSettings ⟨rows, connects, queries⟩).value k = (stored rows).value k := by
  cases connects with
  | false => exact forall₂_congr fun k _ => eq_comm
  | true =>
    cases queries with
    | true => exact iff_of_true (Or.inl rfl) fun _ _ => rfl
    | false =>
      show (false = true ∨ _) ↔ _
      rw [or_iff_right (by decide)]
      exact forall₂_congr fun k _ => eq_comm

theorem seesChange_iff {H : Type} (sha : Digest H) {c : Collector H} {rows : Rows} {e : Check}
    (hfp : c.configFingerprint = some (fingerprint sha (stored rows))) (hrows : e.first.rows = rows) :
    SeesChange sha c e ↔ ¬ Harmless rows e.first := by
  obtain ⟨⟨rows', connects, queries⟩, second, serials, outputs, core, rebuild⟩ := e
  obtain rfl : rows' = rows := hrows
  rw [harmless_iff, watchedKeys, ← fingerprint_eq_iff sha]
  constructor
  · rintro ⟨fp, hfp', hne⟩
    rw [hfp] at hfp'
    obtain rfl := Option.some.inj hfp'
    exact hne
  · intro hne
    exact ⟨_, hfp, hne⟩

section
variable {H : Type} [DecidableEq H]

/-- A launched collector whose `start` has read the fingerprint and the restart values. -/
def recordedStart (sha : Digest H) (c : Collector H) (rows : Rows) : Collector H :=
  Machine.after (collectorStep sha) c
    [.recordFingerprint (successfulRead rows), .recordRestartValues fun _ => successfulRead rows]

/-- The check called `_reload_config` or `stop`. -/
def CheckResult.Invokes : CheckResult → Prop
  | .idle => False
  | .unchanged => False
  | .stopped => True
  | .reloaded => True
  | .reloadFailed => True

theorem check_invokes_iff (sha : Digest H) (c : Collector H) (e : Check) :
    (checkConfigChange sha c e).2.Invokes ↔ SeesChange sha c e := by
  by_cases h : SeesChange sha c e
  · refine iff_of_true ?_ h
    rcases check_seen sha c e h with hstops | hreloads
    · rw [hstops]
      trivial
    · rw [check_reloads sha c e hreloads]
      split <;> trivial
  · refine iff_of_false (fun hinv => ?_) h
    rcases (check_not_seen sha c e h).2 with hres | hres <;> rw [hres] at hinv <;> exact hinv

theorem failed_reads_iff (sha : Digest H) {cfg : Config} {replayFile : Option String}
    {shared : Option DongleKey} {r : Rebuild} {c : Collector H}
    (hlaunch : launch cfg replayFile shared r = some c) (rows : Rows) {run : List Check}
    (hrows : ∀ e ∈ run, e.first.rows = rows) :
    (∀ res ∈ Machine.outputs (collectorStep sha) (recordedStart sha c rows) (run.map .check), ¬ res.Invokes) ↔
      ∀ e ∈ run, Harmless rows e.first := by
  have hfp : (recordedStart sha c rows).configFingerprint = some (fingerprint sha (stored rows)) := rfl
  have hstopped : (recordedStart sha c rows).isStopped = false := (launch_spec hlaunch).2.2.1
  generalize recordedStart sha c rows = c' at hfp hstopped
  -- a harmless check leaves the collector as it is
  induction run with
  | nil => simp
  | cons e run ih =>
    have hstep : collectorStep sha c' (.check e) = checkConfigChange sha c' e := by
      show (if c'.isStopped then _ else _) = _
      rw [hstopped]
      rfl
    have hsees := seesChange_iff sha hfp (hrows e List.mem_cons_self)
    have hrest := ih fun x hx => hrows x (List.mem_cons_of_mem e hx)
    rw [List.map_cons, Machine.outputs_cons, List.forall_mem_cons, List.forall_mem_cons, hstep,
      check_invokes_iff, hsees, not_not]
    refine and_congr_right fun hharm => ?_
    rw [(check_not_seen sha c' e fun h => hsees.mp h hharm).1]
    exact hrest

end

/-! ## A database restart -/

/-- No setting is stored, so each has its default. -/
def unsetRows : Rows := fun _ => none

/-- The first read connects, and its query fails. -/
def queryFails : Check := { quietCheck unsetRows with first := ⟨unsetRows, true, false⟩ }

/-- A failed read that does not show. -/
theorem failed_reads_quiet :
    ¬ ∃ res ∈ Machine.outputs (collectorStep plainDigest) (recordedStart plainDigest launched unsetRows)
        ([quietCheck unsetRows, queryFails, quietCheck unsetRows].map .check), res.Invokes := by
  rintro ⟨res, hres, hinvokes⟩
  refine (failed_reads_iff plainDigest launch_launched unsetRows
    (by simp [queryFails, quietCheck, successfulRead])).mpr ?_ res hres hinvokes
  have hquiet : Harmless unsetRows (quietCheck unsetRows).first := Or.inl rfl
  have hdefaults : ∀ k ∈ watchedKeys, (stored unsetRows).value k = (defaults.lookup k).getD "" := by
    decide +kernel
  have hfails : Harmless unsetRows queryFails.first := Or.inr hdefaults
  simp only [List.mem_cons, List.not_mem_nil, or_false]
  rintro e (rfl | rfl | rfl)
  · exact hquiet
  · exact hfails
  · exact hquiet

/-- Both reads of a check find the database down. -/
def databaseDown : Check :=
  { quietCheck storedSerials with
    first := ⟨storedSerials, false, false⟩
    second := ⟨storedSerials, false, false⟩ }

/-- The database comes back after the first read. -/
def databaseBack : Check := { quietCheck storedSerials with first := ⟨storedSerials, false, false⟩ }

theorem failed_reads_stop :
    Machine.outputs (collectorStep plainDigest) (recordedStart plainDigest launched storedSerials)
        [.check databaseDown] = [.stopped] ∧
      Machine.outputs (collectorStep plainDigest) (recordedStart plainDigest launched storedSerials)
        [.check databaseBack] = [.reloaded] ∧
      ¬ (∀ run : List Check, (∀ e ∈ run, e.first.rows = storedSerials ∧ e.second.rows = storedSerials) →
        ∀ res ∈ Machine.outputs (collectorStep plainDigest) (recordedStart plainDigest launched storedSerials)
          (run.map .check), ¬ res.Invokes) := by
  have hstop : Machine.outputs (collectorStep plainDigest) (recordedStart plainDigest launched storedSerials)
      [.check databaseDown] = [.stopped] := by
    decide +kernel
  refine ⟨hstop, by decide +kernel, fun h => ?_⟩
  refine h [databaseDown] (by simp [databaseDown]) .stopped ?_ trivial
  rw [List.map_singleton, hstop]
  exact List.mem_singleton_self _

end LuxMon
