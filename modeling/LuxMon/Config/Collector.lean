import LuxMon.Config.Settings
import LuxMon.Effects.Machine

/-!
# The collector's configuration

`PassiveCollector` with respect to its settings: `start`, the periodic
`_check_config_change`, and the reload in place.  What a step meets outside, the
rows that each query finds and what raises, comes with the step.

    a reload that fails leaves the collector without open outputs or without a
      running transport                                        (reload_failed_not_serving)
    one that succeeds leaves both, built from what it loaded   (reload_succeeded_good)
-/

namespace LuxMon

open Python

/-! ## The collector -/

structure OutputsObject where
  /-- The configuration it was built from. -/
  config : Config
  isOpen : Bool

inductive TransportKind
  | replay
  | tcpPassive
  | tcpActive
  deriving DecidableEq

structure TransportObject where
  kind : TransportKind
  /-- The configuration it was built from. -/
  config : Config
  running : Bool

/-- What `get_shared_connection` compares. -/
structure DongleKey where
  host : Value
  port : Value
  datalogSerial : Value
  inverterSerial : Value
  deriving DecidableEq

variable {H : Type}

structure Collector (H : Type) where
  cfg : Config
  replayFile : Option String := none
  outputs : Option OutputsObject := none
  transport : Option TransportObject := none
  /-- `_shared` of the process. -/
  shared : Option DongleKey := none
  configFingerprint : Option H := none
  loadedRestartValues : String → String := fun _ => ""
  isStopped : Bool := false

/-- What building and starting the outputs and the transport meets. -/
structure Rebuild where
  /-- `Outputs(...)` does not raise. -/
  buildsOutputs : Bool
  /-- The dongle accepts a new connection. -/
  dongleAccepts : Bool
  /-- The replay file exists and the thread starts. -/
  startsThread : Bool

/-- A text field of the configuration. -/
def Config.text (cfg : Config) (key : String) : String :=
  match cfg key with
  | .text s => s
  | _ => ""

/-- `_create_transport`. -/
def createTransport (cfg : Config) (replayFile : Option String) : Except PyErr TransportKind :=
  let transport := (cfg.text "transport").toLower
  if transport = "replay" then
    if replayFile.getD "" = "" then .error (.valueError "LUX_REPLAY_FILE is required when transport=replay")
    else .ok .replay
  else if transport = "tcp_passive" then .ok .tcpPassive
  else if transport = "tcp_active" then
    if cfg.text "datalog_serial" = "" ∨ cfg.text "inverter_serial" = "" then
      .error (.valueError ("LUX_DATALOG_SERIAL and LUX_INVERTER_SERIAL are required " ++
        "when transport=tcp_active"))
    else .ok .tcpActive
  else .error (.valueError ("Unknown transport: " ++ cfg.text "transport"))

def dongleKey (cfg : Config) : DongleKey where
  host := cfg "dongle_host"
  port := cfg "dongle_port"
  datalogSerial := cfg "datalog_serial"
  inverterSerial := cfg "inverter_serial"

/-- `get_shared_connection`: the new connection is kept also when it cannot be opened. -/
def getSharedConnection (shared : Option DongleKey) (key : DongleKey) (r : Rebuild) :
    Option DongleKey × Bool :=
  if shared = some key then (shared, true) else (some key, r.dongleAccepts)

/-- `start` of a transport: the shared connection afterwards, and whether it did not raise. -/
def startTransport (kind : TransportKind) (shared : Option DongleKey) (cfg : Config) (r : Rebuild) :
    Option DongleKey × Bool :=
  match kind with
  | .replay => (shared, r.startsThread)
  | .tcpPassive => (shared, r.startsThread)
  | .tcpActive =>
    let (shared, connected) := getSharedConnection shared (dongleKey cfg) r
    (shared, connected && r.startsThread)

/-- `self._transport = _create_transport(...)`, `self._transport.start()`. -/
def replaceTransport (c : Collector H) (r : Rebuild) : Collector H × Bool :=
  match createTransport c.cfg c.replayFile with
  | .error _ => (c, false)
  | .ok kind =>
    let (shared, started) := startTransport kind c.shared c.cfg r
    ({ c with transport := some { kind := kind, config := c.cfg, running := started }, shared := shared },
      started)

/-- `self._outputs.close()`; what it raises is logged. -/
def closeOutputs (c : Collector H) : Collector H :=
  { c with outputs := c.outputs.map fun o => { o with isOpen := false } }

/-- `self._transport.stop()`; what it raises is logged. -/
def stopTransport (c : Collector H) : Collector H :=
  { c with transport := c.transport.map fun t => { t with running := false } }

/-- `self._outputs = Outputs(...)`. -/
def replaceOutputs (c : Collector H) : Collector H :=
  { c with outputs := some { config := c.cfg, isOpen := true } }

/-! ## Reload and check -/

/-- What a check meets. -/
structure Check where
  /-- The read for the fingerprint. -/
  first : Access
  /-- The read for the restart keys. -/
  second : Access
  serials : Load
  outputs : Load
  core : Load
  rebuild : Rebuild

def Check.load (e : Check) (cfg : Config) : Config :=
  loadDbCoreSettings e.core (loadDbOutputSettings e.outputs (loadDbSerials e.serials cfg))

/-- `_reload_config`: the collector afterwards, and whether it did not raise. -/
def reloadConfig (c : Collector H) (e : Check) : Collector H × Bool :=
  let c := closeOutputs { c with cfg := e.load c.cfg }
  if e.rebuild.buildsOutputs then replaceTransport (stopTransport (replaceOutputs c)) e.rebuild
  else (c, false)

/-- `{k: ... for k in self._RESTART_KEYS}`. -/
def restartValues (settings : String → Settings) (key : String) : String :=
  if key ∈ restartKeys then (settings key).value key else ""

def restartNeeded (c : Collector H) (settings : Settings) : Bool :=
  restartKeys.any fun k => settings.value k != c.loadedRestartValues k

/-- `stop`. -/
def Collector.stop (c : Collector H) : Collector H := { closeOutputs (stopTransport c) with isStopped := true }

inductive CheckResult
  | idle
  | unchanged
  | stopped
  | reloaded
  | reloadFailed
  deriving DecidableEq

/-- `_check_config_change`. -/
def checkConfigChange [DecidableEq H] (sha : Digest H) (c : Collector H) (e : Check) : Collector H × CheckResult :=
  match c.configFingerprint with
  | none => (c, .idle)
  | some fp =>
    let newFp := fingerprint sha (readDbSettings e.first)
    if newFp = fp then (c, .unchanged)
    else
      let settings := readDbSettings e.second
      if restartNeeded c settings then (c.stop, .stopped)
      else
        let (c, done) := reloadConfig c e
        if done then
          ({ c with configFingerprint := some newFp
                    loadedRestartValues := restartValues fun _ => settings }, .reloaded)
        else (c, .reloadFailed)

/-! ## Start and runs -/

/-- `start`, up to the start of the writer; `none` when it raises. -/
def launch (cfg : Config) (replayFile : Option String) (shared : Option DongleKey) (r : Rebuild) :
    Option (Collector H) :=
  if r.buildsOutputs then
    match replaceTransport (replaceOutputs { cfg := cfg, replayFile := replayFile, shared := shared }) r with
    | (c, true) => some c
    | (_, false) => none
  else none

/-- What happens to a launched collector: the writer checks, `start` goes on to record the
fingerprint and the restart values, and a write takes the shared connection. -/
inductive CollectorStep
  | check (e : Check)
  | recordFingerprint (a : Access)
  | recordRestartValues (reads : String → Access)
  | useDongle

/-- One step; the writer of a stopped collector checks no more. -/
def collectorStep [DecidableEq H] (sha : Digest H) (c : Collector H) : CollectorStep → Collector H × CheckResult
  | .check e => if c.isStopped then (c, .idle) else checkConfigChange sha c e
  | .recordFingerprint a =>
    ({ c with configFingerprint := some (fingerprint sha (readDbSettings a)) }, .idle)
  | .recordRestartValues reads =>
    ({ c with loadedRestartValues := restartValues fun k => readDbSettings (reads k) }, .idle)
  | .useDongle => ({ c with shared := some (dongleKey c.cfg) }, .idle)

/-! ## What a reload leaves -/

/-- Open outputs and a running transport. -/
def Serving (c : Collector H) : Prop :=
  (∃ o, c.outputs = some o ∧ o.isOpen = true) ∧ ∃ t, c.transport = some t ∧ t.running = true

/-- Serving, with everything built from the present configuration. -/
def Good (c : Collector H) : Prop :=
  c.outputs = some { config := c.cfg, isOpen := true } ∧
    ∃ kind, c.transport = some { kind := kind, config := c.cfg, running := true }

theorem Good.serving {c : Collector H} (h : Good c) : Serving c := by
  obtain ⟨hout, kind, htr⟩ := h
  exact ⟨⟨_, hout, rfl⟩, ⟨_, htr, rfl⟩⟩

theorem replaceTransport_keeps (c : Collector H) (r : Rebuild) :
    (replaceTransport c r).1.outputs = c.outputs ∧ (replaceTransport c r).1.cfg = c.cfg ∧
      (replaceTransport c r).1.isStopped = c.isStopped ∧
      (replaceTransport c r).1.configFingerprint = c.configFingerprint := by
  unfold replaceTransport
  cases createTransport c.cfg c.replayFile with
  | error e => exact ⟨rfl, rfl, rfl, rfl⟩
  | ok kind => exact ⟨rfl, rfl, rfl, rfl⟩

theorem replaceTransport_done {c : Collector H} {r : Rebuild} (h : (replaceTransport c r).2 = true) :
    ∃ kind, (replaceTransport c r).1.transport = some { kind := kind, config := c.cfg, running := true } := by
  unfold replaceTransport at h ⊢
  cases hkind : createTransport c.cfg c.replayFile with
  | error e => rw [hkind] at h; cases h
  | ok kind =>
    rw [hkind] at h
    have hstarted : (startTransport kind c.shared c.cfg r).2 = true := h
    refine ⟨kind, ?_⟩
    show some (TransportObject.mk kind c.cfg (startTransport kind c.shared c.cfg r).2) = _
    rw [hstarted]

/-- A transport that cannot be created or started leaves a stopped one stopped. -/
theorem replaceTransport_failed {c : Collector H} {r : Rebuild} (h : (replaceTransport c r).2 = false)
    (hstopped : ∀ t, c.transport = some t → t.running = false) :
    ∀ t, (replaceTransport c r).1.transport = some t → t.running = false := by
  unfold replaceTransport at h ⊢
  cases hkind : createTransport c.cfg c.replayFile with
  | error e => exact hstopped
  | ok kind =>
    rw [hkind] at h
    have hstarted : (startTransport kind c.shared c.cfg r).2 = false := h
    rintro t ht
    obtain rfl := Option.some.inj ht
    exact hstarted

theorem stopTransport_stopped (c : Collector H) :
    ∀ t, (stopTransport c).transport = some t → t.running = false := by
  intro t ht
  obtain ⟨t', -, rfl⟩ := Option.map_eq_some_iff.mp ht
  rfl

theorem closeOutputs_closed (c : Collector H) :
    ∀ o, (closeOutputs c).outputs = some o → o.isOpen = false := by
  intro o ho
  obtain ⟨o', -, rfl⟩ := Option.map_eq_some_iff.mp ho
  rfl

theorem reload_keeps (c : Collector H) (e : Check) :
    (reloadConfig c e).1.cfg = e.load c.cfg ∧ (reloadConfig c e).1.isStopped = c.isStopped ∧
      (reloadConfig c e).1.configFingerprint = c.configFingerprint := by
  unfold reloadConfig
  dsimp only
  split
  · obtain ⟨-, hcfg, hstopped, hfp⟩ := replaceTransport_keeps
      (stopTransport (replaceOutputs (closeOutputs { c with cfg := e.load c.cfg }))) e.rebuild
    exact ⟨hcfg, hstopped, hfp⟩
  · exact ⟨rfl, rfl, rfl⟩

theorem reload_succeeded_good {c : Collector H} {e : Check} (h : (reloadConfig c e).2 = true) :
    Good (reloadConfig c e).1 := by
  have hcfg := (reload_keeps c e).1
  unfold reloadConfig at h hcfg ⊢
  dsimp only at h hcfg ⊢
  split at h
  · rename_i hbuilds
    rw [if_pos hbuilds] at hcfg ⊢
    obtain ⟨kind, hkind⟩ := replaceTransport_done h
    refine ⟨?_, kind, ?_⟩
    · rw [(replaceTransport_keeps _ _).1, hcfg]
      rfl
    · rw [hkind, hcfg]
      rfl
  · cases h

theorem reload_failed_not_serving {c : Collector H} {e : Check} (h : (reloadConfig c e).2 = false) :
    ¬ Serving (reloadConfig c e).1 := by
  rintro ⟨⟨o, ho, hopen⟩, t, ht, hrunning⟩
  unfold reloadConfig at h ho ht
  dsimp only at h ho ht
  split at h
  · rename_i hbuilds
    rw [if_pos hbuilds] at ht
    have := replaceTransport_failed h (stopTransport_stopped _) t ht
    rw [this] at hrunning
    cases hrunning
  · rename_i hbuilds
    rw [if_neg hbuilds] at ho
    have := closeOutputs_closed _ o ho
    rw [this] at hopen
    cases hopen

theorem launch_spec {cfg : Config} {replayFile : Option String} {shared : Option DongleKey} {r : Rebuild}
    {c : Collector H} (h : launch cfg replayFile shared r = some c) :
    Good c ∧ c.cfg = cfg ∧ c.isStopped = false ∧ c.configFingerprint = none := by
  unfold launch at h
  split_ifs at h
  generalize hc₁ : (replaceOutputs { cfg := cfg, replayFile := replayFile, shared := shared } : Collector H) =
    c₁ at h
  obtain ⟨hout, hcfg, hstopped, hfp⟩ := replaceTransport_keeps c₁ r
  cases hdone : (replaceTransport c₁ r).2 with
  | false =>
    have hpair : replaceTransport c₁ r = ((replaceTransport c₁ r).1, false) := Prod.ext rfl hdone
    rw [hpair] at h
    cases h
  | true =>
    have hpair : replaceTransport c₁ r = ((replaceTransport c₁ r).1, true) := Prod.ext rfl hdone
    rw [hpair] at h
    obtain rfl := Option.some.inj h
    obtain ⟨kind, hkind⟩ := replaceTransport_done hdone
    subst hc₁
    exact ⟨⟨hout.trans (by rw [hcfg]; rfl), kind, hkind.trans (by rw [hcfg])⟩, hcfg, hstopped, hfp⟩

/-! ## What a check can do -/

section
variable [DecidableEq H] (sha : Digest H) (c : Collector H) (e : Check)

/-- The first read differs from the recorded fingerprint. -/
def SeesChange : Prop :=
  ∃ fp, c.configFingerprint = some fp ∧ fingerprint sha (readDbSettings e.first) ≠ fp

/-- The check goes on to reload. -/
def Reloads : Prop :=
  SeesChange sha c e ∧ restartNeeded c (readDbSettings e.second) = false

theorem check_not_seen (h : ¬ SeesChange sha c e) :
    (checkConfigChange sha c e).1 = c ∧
      ((checkConfigChange sha c e).2 = .idle ∨ (checkConfigChange sha c e).2 = .unchanged) := by
  unfold checkConfigChange
  cases hfp : c.configFingerprint with
  | none => exact ⟨rfl, Or.inl rfl⟩
  | some fp =>
    have heq : fingerprint sha (readDbSettings e.first) = fp := by
      by_contra hne
      exact h ⟨fp, hfp, hne⟩
    simp [heq]

theorem check_stops (h : SeesChange sha c e) (hrestart : restartNeeded c (readDbSettings e.second) = true) :
    checkConfigChange sha c e = (c.stop, .stopped) := by
  obtain ⟨fp, hfp, hne⟩ := h
  unfold checkConfigChange
  simp only [hfp, hne, hrestart, if_false, if_true]

/-- A change that is seen stops the collector, or is reloaded. -/
theorem check_seen (h : SeesChange sha c e) : checkConfigChange sha c e = (c.stop, .stopped) ∨ Reloads sha c e := by
  by_cases hrestart : restartNeeded c (readDbSettings e.second) = true
  · exact Or.inl (check_stops sha c e h hrestart)
  · exact Or.inr ⟨h, Bool.eq_false_iff.mpr hrestart⟩

theorem check_reloads (h : Reloads sha c e) :
    checkConfigChange sha c e =
      if (reloadConfig c e).2 then
        ({ (reloadConfig c e).1 with
            configFingerprint := some (fingerprint sha (readDbSettings e.first))
            loadedRestartValues := restartValues fun _ => readDbSettings e.second }, .reloaded)
      else ((reloadConfig c e).1, .reloadFailed) := by
  obtain ⟨⟨fp, hfp, hne⟩, hrestart⟩ := h
  unfold checkConfigChange
  simp only [hfp, hne, hrestart, if_false, Bool.false_eq_true]

end

/-! ## A launched collector -/

/-- A read that succeeds. -/
def successfulRead (rows : Rows) : Access := ⟨rows, true, true⟩

/-- A digest without collisions. -/
def plainDigest : Digest (List (String × String)) := ⟨id, Function.injective_id⟩

def storedSerials : Rows := fun key =>
  if key = "datalog_serial" then some "BA12345678"
  else if key = "inverter_serial" then some "1234567890" else none

/-- Reads, loads and the rebuilding with these rows, all successful. -/
def quietCheck (rows : Rows) : Check where
  first := successfulRead rows
  second := successfulRead rows
  serials := ⟨true, fun _ => rows, fun _ => true⟩
  outputs := ⟨true, fun _ => rows, fun _ => true⟩
  core := ⟨true, fun _ => rows, fun _ => true⟩
  rebuild := ⟨true, true, true⟩

/-- The configuration that the rows give. -/
def sampleConfig (rows : Rows) : Config := loadKeys (stored rows) loadedKeys fun _ => .text ""

/-- Everything builds and starts. -/
def rebuilds : Rebuild := ⟨true, true, true⟩

theorem launch_isSome :
    (launch (H := List (String × String)) (sampleConfig storedSerials) none none rebuilds).isSome := by
  decide +kernel

/-- A collector launched with the stored settings. -/
def launched : Collector (List (String × String)) :=
  (launch (sampleConfig storedSerials) none none rebuilds).get launch_isSome

theorem launch_launched : launch (sampleConfig storedSerials) none none rebuilds = some launched :=
  (Option.some_get launch_isSome).symm

end LuxMon
