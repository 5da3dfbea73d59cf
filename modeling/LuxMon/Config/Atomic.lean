import LuxMon.Config.Collector

/-!
# Reloads and what they leave behind

`_reload_config` changes the shared configuration, closes the outputs and stops the
transport before it builds the new ones, so nothing is left when one of these
steps raises.

    every check leaves open outputs and a running transport, all new or
      all old ↔ no reload raises                               (reload_atomic_iff)
-/

namespace LuxMon

variable {H : Type}

/-- No step of the reload raises: building the outputs, creating the transport, starting it. -/
def Rebuilds (c : Collector H) (e : Check) : Prop :=
  e.rebuild.buildsOutputs = true ∧ ∃ kind, createTransport (e.load c.cfg) c.replayFile = .ok kind ∧
    (startTransport kind c.shared (e.load c.cfg) e.rebuild).2 = true

theorem replaceTransport_done_iff (c : Collector H) (r : Rebuild) :
    (replaceTransport c r).2 = true ↔ ∃ kind, createTransport c.cfg c.replayFile = .ok kind ∧
      (startTransport kind c.shared c.cfg r).2 = true := by
  unfold replaceTransport
  cases createTransport c.cfg c.replayFile with
  | error err => simp
  | ok kind =>
    constructor
    · intro h
      exact ⟨kind, rfl, h⟩
    · rintro ⟨kind', hkind, h⟩
      cases hkind
      exact h

theorem reload_done_iff (c : Collector H) (e : Check) : (reloadConfig c e).2 = true ↔ Rebuilds c e := by
  unfold reloadConfig Rebuilds
  dsimp only
  by_cases hbuilds : e.rebuild.buildsOutputs = true
  · rw [if_pos hbuilds, and_iff_right hbuilds]
    exact replaceTransport_done_iff _ e.rebuild
  · rw [if_neg hbuilds]
    exact iff_of_false (by simp) fun h => hbuilds h.1

/-- After a check: everything new and at work, or everything old left at work and the change
still to be seen. -/
def Atomic (c c' : Collector H) : Prop :=
  Good c' ∨ (c'.outputs = c.outputs ∧ c'.transport = c.transport ∧
    c'.configFingerprint = c.configFingerprint ∧ Serving c')

variable [DecidableEq H] (sha : Digest H)

/-- Every check that does not stop the collector is atomic. -/
def AtomicRun (c : Collector H) (run : List CollectorStep) : Prop :=
  ∀ pre e post, run = pre ++ .check e :: post →
    (Machine.after (collectorStep sha) c pre).isStopped = false →
    (checkConfigChange sha (Machine.after (collectorStep sha) c pre) e).1.isStopped = true ∨
      Atomic (Machine.after (collectorStep sha) c pre)
        (checkConfigChange sha (Machine.after (collectorStep sha) c pre) e).1

theorem check_good {c : Collector H} {e : Check} (hgood : Good c)
    (hcond : Reloads sha c e → Rebuilds c e) :
    (checkConfigChange sha c e).1.isStopped = true ∨ Good (checkConfigChange sha c e).1 := by
  by_cases hsees : SeesChange sha c e
  · rcases check_seen sha c e hsees with hstops | hreloads
    · rw [hstops]
      exact Or.inl rfl
    · have hdone := (reload_done_iff c e).mpr (hcond hreloads)
      rw [check_reloads sha c e hreloads, if_pos hdone]
      exact Or.inr (reload_succeeded_good hdone)
  · rw [(check_not_seen sha c e hsees).1]
    exact Or.inr hgood

/-- A reload that raises is not atomic. -/
theorem check_not_atomic {c : Collector H} {e : Check} (hrun : c.isStopped = false)
    (hreloads : Reloads sha c e) (hraises : ¬ Rebuilds c e) :
    ¬ ((checkConfigChange sha c e).1.isStopped = true ∨ Atomic c (checkConfigChange sha c e).1) := by
  have hfailed : (reloadConfig c e).2 = false :=
    Bool.eq_false_iff.mpr fun h => hraises ((reload_done_iff c e).mp h)
  have hstopped := (reload_keeps c e).2.1
  rw [check_reloads sha c e hreloads, if_neg (by simp [hfailed])]
  rintro (h | h | ⟨-, -, -, h⟩)
  · rw [hstopped, hrun] at h
    cases h
  · exact reload_failed_not_serving hfailed h.serving
  · exact reload_failed_not_serving hfailed h

theorem step_good {c : Collector H} {st : CollectorStep} (hinv : c.isStopped = true ∨ Good c)
    (hcond : ∀ e, st = .check e → c.isStopped = false → Reloads sha c e → Rebuilds c e) :
    (collectorStep sha c st).1.isStopped = true ∨ Good (collectorStep sha c st).1 := by
  cases st with
  | check e =>
    show (if c.isStopped then (c, CheckResult.idle) else checkConfigChange sha c e).1.isStopped = true ∨
      Good (if c.isStopped then (c, CheckResult.idle) else checkConfigChange sha c e).1
    cases hstopped : c.isStopped with
    | true => exact Or.inl hstopped
    | false => exact check_good sha (hinv.resolve_left (by simp [hstopped])) (hcond e rfl hstopped)
  | recordFingerprint a => exact hinv
  | recordRestartValues reads => exact hinv
  | useDongle => exact hinv

theorem reload_atomic_iff {cfg : Config} {replayFile : Option String} {shared : Option DongleKey}
    {r : Rebuild} {c : Collector H} (hlaunch : launch cfg replayFile shared r = some c)
    (run : List CollectorStep) :
    AtomicRun sha c run ↔ ∀ pre e post, run = pre ++ .check e :: post →
      (Machine.after (collectorStep sha) c pre).isStopped = false →
      Reloads sha (Machine.after (collectorStep sha) c pre) e →
      Rebuilds (Machine.after (collectorStep sha) c pre) e := by
  constructor
  · intro h pre e post hsplit hrun hreloads
    by_contra hraises
    exact check_not_atomic sha hrun hreloads hraises (h pre e post hsplit hrun)
  · intro hcond
    have hinv : ∀ pre post, run = pre ++ post →
        (Machine.after (collectorStep sha) c pre).isStopped = true ∨
          Good (Machine.after (collectorStep sha) c pre) := by
      intro pre
      induction pre using List.reverseRecOn with
      | nil => exact fun _ _ => Or.inr (launch_spec hlaunch).1
      | append_singleton pre st ih =>
        intro post hsplit
        rw [List.append_assoc, List.singleton_append] at hsplit
        rw [Machine.after_append]
        exact step_good sha (ih _ hsplit) fun e he => hcond pre e post (he ▸ hsplit)
    intro pre e post hsplit hrun
    have hgood := (hinv pre _ hsplit).resolve_left (by simp [hrun])
    exact (check_good sha hgood (hcond pre e post hsplit hrun)).imp_right Or.inl

/-! ## A dongle that refuses -/

def movedDongle : Rows := fun key => if key = "dongle_host" then some "10.0.0.9" else storedSerials key

/-- The dongle address changed, and the dongle refuses the connection. -/
def refusedCheck : Check := { quietCheck movedDongle with rebuild := ⟨true, false, true⟩ }

/-- `start` goes on as usual, then the dongle address changes. -/
def refusedRun : List CollectorStep :=
  [.recordFingerprint (successfulRead storedSerials),
    .recordRestartValues fun _ => successfulRead storedSerials, .check refusedCheck]

theorem reload_atomic_refused :
    AtomicRun plainDigest launched refusedRun ↔ ∀ pre e post, refusedRun = pre ++ .check e :: post →
      (Machine.after (collectorStep plainDigest) launched pre).isStopped = false →
      Reloads plainDigest (Machine.after (collectorStep plainDigest) launched pre) e →
      Rebuilds (Machine.after (collectorStep plainDigest) launched pre) e :=
  reload_atomic_iff plainDigest launch_launched refusedRun

/-- The retry after the refusal finds the unopened connection in the cache and takes the change
as done. -/
theorem refused_not_atomic :
    Machine.outputs (collectorStep plainDigest) launched (refusedRun ++ [.check refusedCheck]) =
        [.idle, .idle, .reloadFailed, .reloaded] ∧
      ¬ AtomicRun plainDigest launched refusedRun := by
  refine ⟨by decide +kernel, fun h => ?_⟩
  have hcheck := h [.recordFingerprint (successfulRead storedSerials),
    .recordRestartValues fun _ => successfulRead storedSerials] refusedCheck [] rfl (by decide +kernel)
  have hrunning : ((checkConfigChange plainDigest (Machine.after (collectorStep plainDigest) launched
      [.recordFingerprint (successfulRead storedSerials),
        .recordRestartValues fun _ => successfulRead storedSerials]) refusedCheck).1.transport.map
      TransportObject.running) = some false := by
    decide +kernel
  have hserving : ∀ c : Collector (List (String × String)),
      c.transport.map TransportObject.running = some false → ¬ Serving c := by
    rintro c hc ⟨-, t, ht, hr⟩
    rw [ht, Option.map_some, hr] at hc
    cases hc
  rcases hcheck with hstopped | hgood | ⟨-, -, -, h⟩
  · exact absurd hstopped (by decide +kernel)
  · exact hserving _ hrunning hgood.serving
  · exact hserving _ hrunning h

end LuxMon
