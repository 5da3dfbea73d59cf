import LuxMon.Config.Atomic

/-!
# Live configuration

The configuration comes from one set of reads and the fingerprint from another: at
startup the loads come first, in a reload the fingerprint does.  A change between
them is in one and not in the other.

    a check during which nothing changes brings the stored settings into force ↔
      they are already, or the recorded fingerprint is not theirs
                                                               (config_converges_iff)
    with loads and fingerprint from the same rows, at startup and in every reload, it
      always does                    (config_converges_iff, by coherentStart_converges)
-/

namespace LuxMon

/-! ## Startup -/

/-- The loads of `run_collector` and `LUX_POLL_MODE`. -/
def startupConfig (env : Config) (serials outputs core : Load) (pollMode : Bool) : Config :=
  let cfg := loadDbCoreSettings core (loadDbOutputSettings outputs (loadDbSerials serials env))
  if pollMode && cfg.text "transport" == "tcp_passive" then
    Function.update cfg "transport" (.text "tcp_active")
  else cfg

/-- `run_collector` up to the start of the writer. -/
def startup {H : Type} (env : Config) (serials outputs core : Load) (pollMode : Bool)
    (replayFile : Option String) (r : Rebuild) : Option (Collector H) :=
  launch (startupConfig env serials outputs core pollMode) replayFile none r

/-! ## Checks during which nothing changes -/

/-- The load finds these rows at every query, and nothing fails. -/
def Load.Finds (l : Load) (rows : Rows) : Prop :=
  l.connects = true ∧ ∀ k, l.queries k = true ∧ l.rows k = rows

/-- Every read of the check finds these rows, and none fails. -/
structure QuietCheck (rows : Rows) (e : Check) : Prop where
  first : e.first = successfulRead rows
  second : e.second = successfulRead rows
  serials : e.serials.Finds rows
  outputs : e.outputs.Finds rows
  core : e.core.Finds rows

theorem Load.Finds.get {l : Load} {rows : Rows} (h : l.Finds rows) : l.get = stored rows := by
  funext k
  rw [Load.get, if_pos (h.2 k).1, (h.2 k).2]

theorem loads_eq {serials outputs core : Load} {rows : Rows} (hs : serials.Finds rows)
    (ho : outputs.Finds rows) (hc : core.Finds rows) (cfg : Config) :
    loadDbCoreSettings core (loadDbOutputSettings outputs (loadDbSerials serials cfg)) =
      loadKeys (stored rows) loadedKeys cfg := by
  unfold loadDbCoreSettings loadDbOutputSettings loadDbSerials loadedKeys
  rw [if_pos hs.1, if_pos ho.1, if_pos hc.1, hs.get, ho.get, hc.get, loadKeys_append, loadKeys_append]

theorem QuietCheck.applied {rows : Rows} {e : Check} (h : QuietCheck rows e) (htyped : WellTyped rows) (cfg : Config) :
    Applied (e.load cfg) rows := by
  rw [Check.load, loads_eq h.serials h.outputs h.core]
  exact applied_loadKeys htyped cfg

variable {H : Type} [DecidableEq H] (sha : Digest H)

/-- After every check during which nothing changes the stored settings are in force, or the
collector has stopped. -/
def ConvergesRun (c : Collector H) (run : List CollectorStep) : Prop :=
  ∀ pre e post rows, run = pre ++ .check e :: post → WellTyped rows → QuietCheck rows e →
    (Machine.after (collectorStep sha) c (pre ++ [.check e])).isStopped = true ∨
      Applied (Machine.after (collectorStep sha) c (pre ++ [.check e])).cfg rows

/-- The collector has stopped, or a check of these rows sees a change, or they are in force. -/
def Current (c : Collector H) (rows : Rows) : Prop :=
  c.isStopped = true ∨
    (∃ fp, c.configFingerprint = some fp ∧ fp ≠ fingerprint sha (stored rows)) ∨ Applied c.cfg rows

theorem check_converges_iff {c : Collector H} {e : Check} {rows : Rows} (htyped : WellTyped rows)
    (hquiet : QuietCheck rows e) :
    ((collectorStep sha c (.check e)).1.isStopped = true ∨
        Applied (collectorStep sha c (.check e)).1.cfg rows) ↔ Current sha c rows := by
  have hfirst : readDbSettings e.first = stored rows := by rw [hquiet.first]; rfl
  have hsees : SeesChange sha c e ↔
      ∃ fp, c.configFingerprint = some fp ∧ fp ≠ fingerprint sha (stored rows) := by
    unfold SeesChange
    rw [hfirst]
    exact exists_congr fun fp => and_congr_right fun _ => ne_comm
  unfold Current
  rw [← hsees]
  show (((if c.isStopped then (c, CheckResult.idle) else checkConfigChange sha c e).1.isStopped = true) ∨
    Applied (if c.isStopped then (c, CheckResult.idle) else checkConfigChange sha c e).1.cfg rows) ↔ _
  cases hstopped : c.isStopped with
  | true => exact iff_of_true (Or.inl hstopped) (Or.inl rfl)
  | false =>
    simp only [Bool.false_eq_true, if_false, false_or]
    by_cases hchange : SeesChange sha c e
    · refine iff_of_true ?_ (Or.inl hchange)
      rcases check_seen sha c e hchange with hstops | hreloads
      · rw [hstops]
        exact Or.inl rfl
      · rw [check_reloads sha c e hreloads]
        have hcfg := (reload_keeps c e).1
        right
        split
        · show Applied (reloadConfig c e).1.cfg rows
          rw [hcfg]
          exact hquiet.applied htyped c.cfg
        · rw [hcfg]
          exact hquiet.applied htyped c.cfg
    · rw [(check_not_seen sha c e hchange).1, hstopped]
      simp [hchange]

theorem convergesRun_iff (c : Collector H) (run : List CollectorStep) :
    ConvergesRun sha c run ↔
      ∀ pre e post rows, run = pre ++ .check e :: post → WellTyped rows → QuietCheck rows e →
        Current sha (Machine.after (collectorStep sha) c pre) rows := by
  refine forall₄_congr fun pre e post rows => forall₃_congr fun _ htyped hquiet => ?_
  rw [Machine.after_append]
  exact check_converges_iff sha htyped hquiet

/-! ## Loads and fingerprint from the same rows -/

/-- The collector has stopped, or the recorded fingerprint is that of the settings in force. -/
def Synced (c : Collector H) : Prop :=
  c.isStopped = true ∨
    ∃ rows, c.configFingerprint = some (fingerprint sha (stored rows)) ∧ Applied c.cfg rows

/-- The loads find the rows of the first read, and nothing raises. -/
def Coherent (c : Collector H) (e : Check) : Prop :=
  Rebuilds c e ∧ ∃ rows, WellTyped rows ∧ e.first = successfulRead rows ∧ e.serials.Finds rows ∧
    e.outputs.Finds rows ∧ e.core.Finds rows

omit [DecidableEq H] in
theorem applied_of_fingerprint {cfg : Config} {rows rows' : Rows}
    (hfp : fingerprint sha (stored rows) = fingerprint sha (stored rows')) (h : Applied cfg rows) :
    Applied cfg rows' := by
  intro k hk
  rw [← (fingerprint_eq_iff sha _ _).mp hfp k (List.mem_append_left _ hk)]
  exact h k hk

theorem Synced.current {c : Collector H} (h : Synced sha c) (rows : Rows) : Current sha c rows := by
  rcases h with h | ⟨rows', hfp, happ⟩
  · exact Or.inl h
  · by_cases heq : fingerprint sha (stored rows') = fingerprint sha (stored rows)
    · exact Or.inr (Or.inr (applied_of_fingerprint sha heq happ))
    · exact Or.inr (Or.inl ⟨_, hfp, heq⟩)

theorem check_synced {c : Collector H} {e : Check} (h : Synced sha c)
    (hcond : Reloads sha c e → Coherent c e) : Synced sha (checkConfigChange sha c e).1 := by
  by_cases hsees : SeesChange sha c e
  · rcases check_seen sha c e hsees with hstops | hreloads
    · rw [hstops]
      exact Or.inl rfl
    · obtain ⟨hbuild, rows, htyped, hfirst, hserials, houtputs, hcore⟩ := hcond hreloads
      rw [check_reloads sha c e hreloads, if_pos ((reload_done_iff c e).mpr hbuild)]
      refine Or.inr ⟨rows, ?_, ?_⟩
      · show some (fingerprint sha (readDbSettings e.first)) = _
        rw [hfirst]
        rfl
      · show Applied (reloadConfig c e).1.cfg rows
        rw [(reload_keeps c e).1, Check.load, loads_eq hserials houtputs hcore]
        exact applied_loadKeys htyped c.cfg
  · rw [(check_not_seen sha c e hsees).1]
    exact h

theorem step_synced {c : Collector H} {st : CollectorStep} (h : Synced sha c)
    (hrecord : ∀ a, st ≠ .recordFingerprint a)
    (hcond : ∀ e, st = .check e → Reloads sha c e → Coherent c e) : Synced sha (collectorStep sha c st).1 := by
  cases st with
  | check e =>
    show Synced sha (if c.isStopped then (c, CheckResult.idle) else checkConfigChange sha c e).1
    split
    · exact h
    · exact check_synced sha h (hcond e rfl)
  | recordFingerprint a => exact absurd rfl (hrecord a)
  | recordRestartValues reads => exact h
  | useDongle => exact h

/-- When each reload loads the rows that it fingerprints, every quiet check converges. -/
theorem coherent_converges {c : Collector H} (hsynced : Synced sha c) {run : List CollectorStep}
    (hrecord : ∀ a, .recordFingerprint a ∉ run)
    (hcond : ∀ pre e post, run = pre ++ .check e :: post →
      Reloads sha (Machine.after (collectorStep sha) c pre) e →
      Coherent (Machine.after (collectorStep sha) c pre) e) : ConvergesRun sha c run := by
  have hinv : ∀ pre post, run = pre ++ post → Synced sha (Machine.after (collectorStep sha) c pre) := by
    intro pre
    induction pre using List.reverseRecOn with
    | nil => exact fun _ _ => hsynced
    | append_singleton pre st ih =>
      intro post hsplit
      rw [List.append_assoc, List.singleton_append] at hsplit
      rw [Machine.after_append]
      refine step_synced sha (ih _ hsplit) (fun a ha => hrecord a ?_) fun e he => hcond pre e post (he ▸ hsplit)
      rw [hsplit, ha]
      simp
  exact (convergesRun_iff sha c run).mpr fun pre e post rows hsplit _ _ =>
    (hinv pre _ hsplit).current sha rows

/-- So it does after a startup whose loads and fingerprint find the same rows. -/
theorem startup_synced {env : Config} {serials outputs core : Load} {pollMode : Bool}
    {replayFile : Option String} {r : Rebuild} {c : Collector H} {rows : Rows} (htyped : WellTyped rows)
    (hs : serials.Finds rows) (ho : outputs.Finds rows) (hc : core.Finds rows)
    (hstart : startup env serials outputs core pollMode replayFile r = some c) :
    Synced sha (collectorStep sha c (.recordFingerprint (successfulRead rows))).1 := by
  refine Or.inr ⟨rows, rfl, ?_⟩
  show Applied c.cfg rows
  rw [(launch_spec hstart).2.1, startupConfig, loads_eq hs ho hc]
  have happ := applied_loadKeys htyped env
  split
  · intro k hk
    have hne : k ≠ "transport" := by
      rintro rfl
      exact absurd hk (by decide)
    rw [Function.update_of_ne hne]
    exact happ k hk
  · exact happ

/-- The collector starts with one set of rows: it loads them and fingerprints them, and nothing is fingerprinted
again but in reloads, each of which finds one set of rows. -/
def CoherentStart (c : Collector H) (run : List CollectorStep) : Prop :=
  ∃ env serials outputs core pollMode replayFile r rows later,
    startup env serials outputs core pollMode replayFile r = some c ∧ WellTyped rows ∧ serials.Finds rows ∧
    outputs.Finds rows ∧ core.Finds rows ∧ run = .recordFingerprint (successfulRead rows) :: later ∧
    (∀ a, .recordFingerprint a ∉ later) ∧
    ∀ pre e post, run = pre ++ .check e :: post → Reloads sha (Machine.after (collectorStep sha) c pre) e →
      Coherent (Machine.after (collectorStep sha) c pre) e

theorem coherentStart_converges {c : Collector H} {run : List CollectorStep} (h : CoherentStart sha c run) :
    ConvergesRun sha c run := by
  obtain ⟨env, serials, outputs, core, pollMode, replayFile, r, rows, later, hstart, htyped, hs, ho, hc, rfl, hrecord,
    hcond⟩ := h
  have hlater : ConvergesRun sha (collectorStep sha c (.recordFingerprint (successfulRead rows))).1 later :=
    coherent_converges sha (startup_synced sha htyped hs ho hc hstart) hrecord fun pre e post hsplit hreloads =>
      hcond (.recordFingerprint (successfulRead rows) :: pre) e post (by rw [hsplit]; rfl) hreloads
  rintro pre e post rows' hsplit htyped' hquiet
  cases pre with
  | nil => cases hsplit
  | cons st pre =>
    obtain ⟨rfl, rfl⟩ := List.cons.inj hsplit
    exact hlater pre e post rows' rfl htyped' hquiet

/-- The checks of a run converge exactly if before each of them the collector has stopped, sees a change, or has the
stored settings in force.  A coherent start is enough for all of them. -/
theorem config_converges_iff (c : Collector H) (run : List CollectorStep) :
    (ConvergesRun sha c run ↔
      ∀ pre e post rows, run = pre ++ .check e :: post → WellTyped rows → QuietCheck rows e →
        Current sha (Machine.after (collectorStep sha) c pre) rows) ∧
      (CoherentStart sha c run → ConvergesRun sha c run) :=
  ⟨convergesRun_iff sha c run, coherentStart_converges sha⟩

/-! ## A change while the collector starts -/

/-- Every setting has a value. -/
def fullRows : Rows := fun key => if defaults.lookup key = some "" then some "x" else none

def fullMoved : Rows := fun key => if key = "dongle_host" then some "10.0.0.9" else fullRows key

def loadOf (rows : Rows) : Load := ⟨true, fun _ => rows, fun _ => true⟩

theorem startup_isSome :
    (startup (H := List (String × String)) (fun _ => .text "") (loadOf fullRows) (loadOf fullRows)
      (loadOf fullRows) false none rebuilds).isSome := by
  decide +kernel

/-- A collector that has loaded its configuration. -/
def started : Collector (List (String × String)) :=
  (startup (fun _ => .text "") (loadOf fullRows) (loadOf fullRows) (loadOf fullRows) false none
    rebuilds).get startup_isSome

theorem startup_started : startup (fun _ => .text "") (loadOf fullRows) (loadOf fullRows) (loadOf fullRows) false none
    rebuilds = some started :=
  (Option.some_get startup_isSome).symm

/-- The dongle address changes between the start and a check, which reloads. -/
def movedLater : List CollectorStep :=
  [.recordFingerprint (successfulRead fullRows), .recordRestartValues fun _ => successfulRead fullRows,
    .check (quietCheck fullMoved)]

theorem moved_later_converges : ConvergesRun plainDigest started movedLater := by
  have hfinds : ∀ rows, (loadOf rows).Finds rows := fun rows => ⟨rfl, fun _ => ⟨rfl, rfl⟩⟩
  have htyped : WellTyped fullRows ∧ WellTyped fullMoved := by
    unfold WellTyped
    decide +kernel
  refine (config_converges_iff plainDigest started movedLater).2 ⟨_, _, _, _, _, _, _, fullRows,
    [.recordRestartValues fun _ => successfulRead fullRows, .check (quietCheck fullMoved)], startup_started, htyped.1,
    hfinds _, hfinds _, hfinds _, rfl, by simp, ?_⟩
  -- the one check comes behind the two steps of the start
  intro pre e post hsplit _
  obtain ⟨rfl, rfl⟩ : pre = [.recordFingerprint (successfulRead fullRows),
      .recordRestartValues fun _ => successfulRead fullRows] ∧ e = quietCheck fullMoved := by
    rcases pre with _ | ⟨st₁, _ | ⟨st₂, _ | ⟨st₃, pre⟩⟩⟩ <;>
      simp_all [movedLater]
  exact ⟨(reload_done_iff _ _).mp (by decide +kernel), fullMoved, htyped.2, rfl, hfinds _, hfinds _, hfinds _⟩

/-- The dongle address changes before `start` reads the fingerprint, and never again. -/
def lateFingerprint : List CollectorStep :=
  [.recordFingerprint (successfulRead fullMoved), .recordRestartValues fun _ => successfulRead fullMoved,
    .check (quietCheck fullMoved)]

theorem late_fingerprint_diverges :
    WellTyped fullMoved ∧
      (Machine.after (collectorStep plainDigest) started lateFingerprint).cfg "dongle_host" =
        .text "192.168.1.100" ∧
      ¬ ConvergesRun plainDigest started lateFingerprint := by
  have htyped : WellTyped fullMoved := by
    unfold WellTyped
    decide +kernel
  have hhost : (Machine.after (collectorStep plainDigest) started lateFingerprint).cfg "dongle_host" =
      .text "192.168.1.100" := by
    decide +kernel
  have hquiet : QuietCheck fullMoved (quietCheck fullMoved) :=
    ⟨rfl, rfl, ⟨rfl, fun _ => ⟨rfl, rfl⟩⟩, ⟨rfl, fun _ => ⟨rfl, rfl⟩⟩, ⟨rfl, fun _ => ⟨rfl, rfl⟩⟩⟩
  refine ⟨htyped, hhost, fun h => ?_⟩
  rcases h [.recordFingerprint (successfulRead fullMoved),
    .recordRestartValues fun _ => successfulRead fullMoved] (quietCheck fullMoved) [] fullMoved rfl htyped
    hquiet with hstopped | happ
  · exact absurd hstopped (by decide +kernel)
  · have hnew := happ "dongle_host" (by decide)
    have hold : (castOf "dongle_host").apply ((stored fullMoved).value "dongle_host") =
        some (.text "10.0.0.9") := by
      decide +kernel
    rw [hold, Option.some.injEq] at hnew
    exact absurd (hnew.trans hhost) (by decide)

end LuxMon
