import LuxMon.Effects.History
import LuxMon.QuickCharge.StartStop

/-!
# The deadline of a quick charge

A start leaves a deadline in the persisted state; ticks compare the clock with it.  When
nothing fails, the first tick at or after the deadline stops the charge and no other
tick does anything.  When anything may fail, the state stays active until a stop has
seen the bit cleared and the duration acknowledged.

    ticks after a start, and stops under failures                  (quickCharge_deadline)
-/

namespace LuxMon

open Python Effects Prog World

/-- Anything may fail. -/
def Policy.faulty : Policy where
  readFails := True
  dbFails := True
  write := fun _ _ _ => True

/-- The calls, live or dry. -/
inductive QcAction
  | start (minutes : Option ℤ) (dryRun : Bool)
  | stop (dryRun : Bool)
  | tick
  deriving DecidableEq

/-- `tr` is the trace of one complete call. -/
def QcAction.Ran (d : Dongle) (tr : List Ev) : QcAction → Prop
  | .start minutes dryRun => ∃ out, (LuxMon.start d minutes dryRun).Run tr out
  | .stop dryRun => ∃ out, (LuxMon.stop d dryRun).Run tr out
  | .tick => ∃ out, (LuxMon.tick d).Run tr out

/-- One call, with the states around it. -/
structure QcRecord where
  action : QcAction
  before : World
  trace : List Ev
  after : World

/-- What no one else writes: the two registers and the persisted state. -/
def World.qcView (w : World) : UInt16 × UInt16 × Option (Option Json) :=
  (w.regs qcEnableReg, w.regs qcDurationReg, w.documents qcStateKey)

/-- The deadline of a charge that is recorded as active. -/
def World.qcDeadline (w : World) : Option PyFloat :=
  match decodeState (w.documents qcStateKey) with
  | .ok s => if s.active then some s.deadlineTs else none
  | .error _ => none

/-- Calls one after the other; between them everything else may change. -/
abbrev QcRuns (pol : Policy) (d : Dongle) : UInt16 × UInt16 × Option (Option Json) → List QcRecord → Prop :=
  Runs (fun r => r.action.Ran d r.trace ∧ Steps (step pol) r.before r.trace r.after)
    (fun r => r.before.qcView) (fun r => r.after.qcView)

/-- The call did nothing: it read the state and the clock at most. -/
structure QcRecord.Idle (r : QcRecord) : Prop where
  same : r.after = r.before
  reads : ∀ ev ∈ r.trace, ev.1 = .getDocument qcStateKey ∨ ev.1 = .time

/-- The charge is over: bit 0 of the enable register is clear, its other bits are as they were,
the duration is 0, no other register changed, and the state is recorded as inactive. -/
structure Stopped (w w' : World) : Prop where
  bit : w'.qcBit = false
  bits : ∀ i, (w'.regs qcEnableReg).toNat.testBit (i + 1) = (w.regs qcEnableReg).toNat.testBit (i + 1)
  duration : w'.regs qcDurationReg = 0
  others : ∀ q, q ≠ qcEnableReg → q ≠ qcDurationReg → w'.regs q = w.regs q
  recorded : ∃ s, decodeState (w'.documents qcStateKey) = .ok s ∧ s.active = false

/-- The read of the register was answered with `raw`. -/
def Tells {r : ℕ} (raw : ℤ) (a : Except PyErr (Option (Reply (.readHoldOne r)))) : Prop :=
  ∃ f, a = .ok (some f) ∧ f.1.isError = false ∧ (f.1.values.headD 0 : ℤ) = raw

/-- In this order: the bit was written as cleared, a read-back told so, and the write of the
duration 0 was acknowledged. -/
def StopConfirmed (d : Dongle) (tr : List Ev) : Prop :=
  ∃ (new : ℕ) (echo : Op.Answer (.transact d (.writeSingle qcEnableReg new)))
      (back : Op.Answer (.transact d (.readHoldOne qcEnableReg)))
      (ack : Op.Answer (.transact d (.writeSingle qcDurationReg 0))),
    new.testBit 0 = false ∧ Tells new back ∧ answered ack = true ∧
      [⟨.transact d (.writeSingle qcEnableReg new), echo⟩, ⟨.transact d (.readHoldOne qcEnableReg), back⟩,
        ⟨.transact d (.writeSingle qcDurationReg 0), ack⟩].Sublist tr

/-- The call begins with a read of the state, and the read succeeds. -/
def QcRecord.ReadState (r : QcRecord) : Prop :=
  ∃ row rest, r.trace = ⟨.getDocument qcStateKey, .ok row⟩ :: rest

/-- A whole run of `stop` is part of the call. -/
def TriesStop (d : Dongle) (tr : List Ev) : Prop :=
  ∃ t u v out, tr = t ++ u ++ v ∧ (stop d false).Run u out

/-! ## When nothing fails -/

section
variable {d : Dongle} {w : World}

theorem logQc_reliable (name : String) (raw scaled : Option ℤ) (success : Bool) (msg : String) :
    Ensures (step .reliable) w (logQc name raw scaled success msg) fun tr out w' =>
      w' = w ∧ out = .ok () ∧ ∀ ev ∈ tr, ev.1 ≠ .time := by
  refine (logQc_ensures name raw scaled success msg).mono ?_
  rintro tr out w' ⟨row, a, rfl, rfl, h⟩
  obtain ⟨rfl, rfl⟩ := stores_reliable h
  exact ⟨rfl, rfl, by simp⟩

theorem saveState_reliable (s : QuickChargeState) :
    Ensures (step .reliable) w (saveState s) fun tr out w' =>
      out = .ok () ∧ w'.regs = w.regs ∧ decodeState (w'.documents qcStateKey) = .ok s ∧
        ∀ ev ∈ tr, ev.1 ≠ .time := by
  refine (saveState_ensures s).mono ?_
  rintro tr out w' ⟨a, rfl, rfl, h⟩
  obtain ⟨rfl, rfl⟩ := stores_reliable h
  exact ⟨rfl, rfl, by simp, by simp⟩

theorem loadState_reliable {s : QuickChargeState} (hs : decodeState (w.documents qcStateKey) = .ok s) :
    Ensures (step .reliable) w loadState fun tr out w' =>
      w' = w ∧ out = .ok s ∧ ∃ a, tr = [⟨.getDocument qcStateKey, a⟩] := by
  refine loadState_ensures.mono ?_
  rintro tr out w' ⟨a, rfl, rfl, rfl, h⟩
  rcases h with rfl | ⟨h, -⟩
  · exact ⟨rfl, hs, _, rfl⟩
  · exact h.elim

theorem setEnableBit_reliable (enable : Bool) :
    Ensures (step .reliable) w (setEnableBit d enable) fun tr out w' =>
      (∃ x, out = .ok (.ok x)) ∧ w'.documents = w.documents ∧
        (w'.regs qcEnableReg).toNat = withEnableBit (w.regs qcEnableReg).toNat enable ∧
        (∀ q, q ≠ qcEnableReg → w'.regs q = w.regs q) ∧ ∀ ev ∈ tr, ev.1 ≠ .time := by
  have hreg : qcEnableReg ≤ 0xFFFF := by decide
  have hlt := withEnableBit_lt (w.regs qcEnableReg).toNat_lt enable
  unfold setEnableBit
  refine (readHoldingRegister_reliable hreg).bind ?_ ?_
  · rintro t res m ⟨rfl, ⟨msg, hres⟩, ht⟩
    cases hres
    refine (writeHoldingRegister_reliable hreg (by omega)).bind ?_ ?_
    · rintro t₁ wres m₁ ⟨⟨wmsg, hwres⟩, hdoc, hset, hother, ht₁⟩
      cases hwres
      have hnat : (m₁.regs qcEnableReg).toNat = withEnableBit (m.regs qcEnableReg).toNat enable := by
        rw [hset]
        exact toUInt16_withEnableBit _ _
      refine (readBack_reliable hreg (by exact_mod_cast hnat) 3).bind ?_ ?_
      · rintro t₂ verified m₂ ⟨rfl, hv, ht₂⟩
        cases hv
        refine (ensures_pure _).mpr ⟨⟨_, rfl⟩, hdoc, hnat, hother, ?_⟩
        simp only [List.mem_append, List.append_nil]
        rintro ev (h | h | h)
        · exact ht ev h
        · exact ht₁ ev h
        · exact ht₂ ev h
      · rintro t₂ x m₂ ⟨-, h, -⟩
        cases h
    · rintro t₁ x m₁ ⟨⟨wmsg, h⟩, -⟩
      cases h
  · rintro t x m ⟨-, ⟨msg, h⟩, -⟩
    cases h

/-- A start sets the deadline from the clock it reads when it builds the state. -/
theorem start_reliable (m : ℤ) :
    Ensures (step .reliable) w (start d (some m) false) fun tr _ w' =>
      ∃ (now : ℚ) (s : QuickChargeState), ⟨.time, now⟩ ∈ tr ∧
        decodeState (w'.documents qcStateKey) = .ok s ∧ s.active = true ∧
        s.deadlineTs = .fin (now + clampMinutes m * 60) := by
  have hrange := clampMinutes_range m
  rw [start_live]
  show Ensures _ w (startDuration d (clampMinutes m) (clampMinutes m)) _
  unfold startDuration
  refine (writeHoldingRegister_reliable (by decide) (by omega)).bind ?_ ?_
  · rintro t wres w₁ ⟨⟨msg, hres⟩, -⟩
    cases hres
    refine (logQc_reliable _ _ _ _ _).bind ?_ ?_
    · rintro t₁ - w₂ ⟨rfl, -⟩
      unfold startEnable
      refine (setEnableBit_reliable true).bind ?_ ?_
      · rintro t₂ eres w₃ ⟨⟨x, hres⟩, -⟩
        cases hres
        refine (logQc_reliable _ _ _ _ _).bind ?_ ?_
        · rintro t₃ - w₄ ⟨rfl, -⟩
          rw [perform_bind, ensures_ask]
          rintro now w₅ rfl
          rw [perform_bind, ensures_ask]
          rintro utc w₆ rfl
          refine (saveState_reliable _).bind ?_ ?_
          · rintro t₅ - w₇ ⟨-, -, hs, -⟩
            exact (ensures_pure _).mpr ⟨now, _, by simp, hs, rfl, rfl⟩
          · rintro t₅ x w₇ ⟨h, -⟩
            cases h
        · rintro t₃ x w₄ ⟨-, h, -⟩
          cases h
      · rintro t₂ x w₃ ⟨⟨y, h⟩, -⟩
        cases h
    · rintro t₁ x w₂ ⟨-, h, -⟩
      cases h
  · rintro t x w₁ ⟨⟨msg, h⟩, -⟩
    cases h

theorem stop_reliable {s : QuickChargeState} (hs : decodeState (w.documents qcStateKey) = .ok s) :
    Ensures (step .reliable) w (stop d false) fun tr out w' =>
      (∃ rep, out = .ok (.ok rep)) ∧ Stopped w w' ∧ ∀ ev ∈ tr, ev.1 ≠ .time := by
  unfold stop
  refine (loadState_reliable hs).bind ?_ fun t x w₁ h => by cases h.2.1
  rintro t state w₁ ⟨rfl, hstate, a, rfl⟩
  cases hstate
  simp only [Bool.false_eq_true, if_false, stopClear_eq]
  refine (setEnableBit_reliable false).bind ?_ fun t x m h => by obtain ⟨⟨y, h⟩, -⟩ := h; cases h
  rintro t₁ eres w₂ ⟨⟨x, hres⟩, hdoc₂, hbit, hother₂, ht₁⟩
  cases hres
  refine (logQc_reliable _ _ _ _ _).bind ?_ fun t x m h => by cases h.2.1
  rintro t₂ - w₃ ⟨rfl, -, ht₂⟩
  unfold stopDuration
  refine (writeHoldingRegister_reliable (by decide) (by norm_num)).bind ?_ fun t x m h => by
    obtain ⟨⟨y, h⟩, -⟩ := h; cases h
  rintro t₃ wres w₄ ⟨⟨msg, hres⟩, hdoc₄, hdur, hother₄, ht₃⟩
  cases hres
  refine (logQc_reliable _ _ _ _ _).bind ?_ fun t x m h => by cases h.2.1
  rintro t₄ - w₅ ⟨rfl, -, ht₄⟩
  refine (saveState_reliable _).bind ?_ fun t x m h => by cases h.1
  rintro t₅ - w₆ ⟨-, hregs, hsaved, ht₅⟩
  have henable : w₆.regs qcEnableReg = w₃.regs qcEnableReg := by
    rw [hregs]
    exact hother₄ _ qcRegs_ne.1
  refine (ensures_pure _).mpr ⟨⟨_, rfl⟩, ⟨?_, fun i => ?_, ?_, fun q hq hq' => ?_, _, hsaved, rfl⟩, ?_⟩
  · rw [World.qcBit, henable, hbit, withEnableBit_zero]
  · rw [henable, hbit, withEnableBit_succ]
  · rw [hregs, hdur]
    rfl
  · rw [hregs, hother₄ q hq', hother₂ q hq]
  · simp only [List.mem_append, List.append_nil, List.mem_singleton]
    rintro ev (rfl | h | h | h | h | h)
    · simp
    · exact ht₁ ev h
    · exact ht₂ ev h
    · exact ht₃ ev h
    · exact ht₄ ev h
    · exact ht₅ ev h

/-- What one tick does, by the state and the clock it reads. -/
theorem tick_reliable {s : QuickChargeState} (hs : decodeState (w.documents qcStateKey) = .ok s) :
    Ensures (step .reliable) w (tick d) fun tr _ w' =>
      (w' = w ∧ (∀ ev ∈ tr, ev.1 = .getDocument qcStateKey ∨ ev.1 = .time) ∧
        (s.active = true → ∃ now : ℚ, ⟨.time, now⟩ ∈ tr ∧ PyFloat.lt (.fin now) s.deadlineTs = true)) ∨
      (Stopped w w' ∧ s.active = true ∧
        ∃ now : ℚ, ⟨.time, now⟩ ∈ tr ∧ PyFloat.lt (.fin now) s.deadlineTs = false) := by
  unfold tick
  refine (loadState_reliable hs).bind ?_ fun t x w₁ h => by cases h.2.1
  rintro t state w₁ ⟨rfl, hstate, a, rfl⟩
  cases hstate
  split
  · next hact =>
    refine (ensures_pure _).mpr (Or.inl ⟨rfl, by simp, fun h => ?_⟩)
    rw [h] at hact
    cases hact
  · next hact =>
    rw [perform_bind, ensures_ask]
    rintro now w₂ rfl
    split
    · next hlt => exact (ensures_pure _).mpr (Or.inl ⟨rfl, by simp, fun _ => ⟨now, by simp, hlt⟩⟩)
    · next hlt =>
      refine (stop_reliable hs).bind ?_ fun t x m h => by obtain ⟨⟨y, h⟩, -⟩ := h; cases h
      rintro t₂ result w₃ ⟨⟨rep, hres⟩, hstopped, -⟩
      cases hres
      refine (logQc_reliable _ _ _ _ _).bind ?_ fun t x m h => by cases h.2.1
      rintro t₃ - w₄ ⟨rfl, -⟩
      exact (ensures_pure _).mpr
        (Or.inr ⟨hstopped, by simpa using hact, now, by simp, by simpa using hlt⟩)

end

/-! ## Ticks after a start -/

/-- A tick at time `t`: whenever it reads the clock, it reads `t`. -/
structure TickAt (r : QcRecord) (t : ℚ) : Prop where
  tick : r.action = .tick
  clock : ∀ now : ℚ, ⟨.time, now⟩ ∈ r.trace → now = t

section
variable {d : Dongle}

/-- A tick that finds the state inactive does nothing. -/
theorem tick_inactive {r : QcRecord} (htick : r.action = .tick)
    (hran : r.action.Ran d r.trace) (hs : Steps (step .reliable) r.before r.trace r.after)
    {s : QuickChargeState} (hstate : decodeState (r.before.documents qcStateKey) = .ok s)
    (hact : s.active = false) : r.Idle := by
  rw [htick] at hran
  obtain ⟨out, hr⟩ := hran
  rcases tick_reliable hstate _ _ _ hr hs with ⟨hsame, hreads, -⟩ | ⟨-, h, -⟩
  · exact ⟨hsame, hreads⟩
  · rw [hact] at h
    cases h

/-- A tick that finds the state active decides by its clock. -/
theorem tick_active {r : QcRecord} {t : ℚ} (htick : TickAt r t)
    (hran : r.action.Ran d r.trace) (hs : Steps (step .reliable) r.before r.trace r.after)
    {s : QuickChargeState} (hstate : decodeState (r.before.documents qcStateKey) = .ok s)
    (hact : s.active = true) {deadline : ℚ} (hdeadline : s.deadlineTs = .fin deadline) :
    (t < deadline → r.Idle) ∧ (deadline ≤ t → Stopped r.before r.after) := by
  rw [htick.tick] at hran
  obtain ⟨out, hr⟩ := hran
  rcases tick_reliable hstate _ _ _ hr hs with ⟨hsame, hreads, hclock⟩ | ⟨hstopped, -, now, hnow, hlt⟩
  · obtain ⟨now, hnow, hlt⟩ := hclock hact
    rw [htick.clock now hnow, hdeadline] at hlt
    refine ⟨fun _ => ⟨hsame, hreads⟩, fun hle => ?_⟩
    have : t < deadline := by simpa [PyFloat.lt] using hlt
    exact absurd this (not_lt.mpr hle)
  · rw [htick.clock now hnow, hdeadline] at hlt
    have : ¬ t < deadline := by simpa [PyFloat.lt] using hlt
    exact ⟨fun h => absurd h this, fun _ => hstopped⟩

/-- Once the state is inactive, ticks do nothing. -/
theorem ticks_inactive {rs : List QcRecord} {v : UInt16 × UInt16 × Option (Option Json)}
    (hrun : QcRuns .reliable d v rs) (hticks : ∀ r ∈ rs, r.action = .tick) {s : QuickChargeState}
    (hstate : decodeState v.2.2 = .ok s) (hact : s.active = false) : ∀ r ∈ rs, r.Idle := by
  induction rs generalizing v with
  | nil => simp
  | cons r rs ih =>
    obtain ⟨hview, ⟨hran, hs⟩, hrest⟩ := hrun
    have hdoc : decodeState (r.before.documents qcStateKey) = .ok s := by
      rw [← hstate, ← hview]
      rfl
    have hidle := tick_inactive (hticks r List.mem_cons_self) hran hs hdoc hact
    have hnext : decodeState r.after.qcView.2.2 = .ok s := by
      rw [hidle.same]
      exact hdoc
    intro q hq
    rcases List.mem_cons.mp hq with rfl | hq
    · exact hidle
    · exact ih hrest (fun p hp => hticks p (List.mem_cons_of_mem r hp)) hnext q hq

/-- The ticks before the deadline do nothing, the first one from it on stops the charge, and those
after it do nothing. -/
theorem ticks_active {ticks : List (QcRecord × ℚ)} {v : UInt16 × UInt16 × Option (Option Json)}
    (hrun : QcRuns .reliable d v (ticks.map Prod.fst)) (hticks : ∀ e ∈ ticks, TickAt e.1 e.2)
    {s : QuickChargeState} (hstate : decodeState v.2.2 = .ok s) (hact : s.active = true) {deadline : ℚ}
    (hdeadline : s.deadlineTs = .fin deadline) {pre post : List (QcRecord × ℚ)} {r : QcRecord} {t : ℚ}
    (hsplit : ticks = pre ++ (r, t) :: post) (hpre : ∀ e ∈ pre, e.2 < deadline) :
    (t < deadline → r.Idle) ∧
      (deadline ≤ t → Stopped r.before r.after ∧ ∀ e ∈ post, e.1.Idle) := by
  induction pre generalizing v ticks with
  | nil =>
    subst hsplit
    obtain ⟨hview, ⟨hran, hs⟩, hrest⟩ := hrun
    have hdoc : decodeState (r.before.documents qcStateKey) = .ok s := by
      rw [← hstate, ← hview]
      rfl
    obtain ⟨hidle, hstop⟩ := tick_active (hticks (r, t) List.mem_cons_self) hran hs hdoc hact hdeadline
    refine ⟨hidle, fun hle => ⟨hstop hle, fun e he => ?_⟩⟩
    obtain ⟨s', hs', hinact⟩ := (hstop hle).recorded
    refine ticks_inactive hrest (fun q hq => ?_) hs' hinact e.1 (List.mem_map_of_mem he)
    obtain ⟨e', he', rfl⟩ := List.mem_map.mp hq
    exact (hticks e' (List.mem_cons_of_mem _ he')).tick
  | cons p pre ih =>
    subst hsplit
    obtain ⟨hview, ⟨hran, hs⟩, hrest⟩ := hrun
    have hdoc : decodeState (p.1.before.documents qcStateKey) = .ok s := by
      rw [← hstate, ← hview]
      rfl
    have hidle := (tick_active (hticks p List.mem_cons_self) hran hs hdoc hact hdeadline).1
      (hpre p List.mem_cons_self)
    have hnext : decodeState p.1.after.qcView.2.2 = .ok s := by
      rw [hidle.same]
      exact hdoc
    exact ih hrest (fun e he => hticks e (List.mem_cons_of_mem p he)) hnext rfl
      fun e he => hpre e (List.mem_cons_of_mem p he)

end

/-! ## When anything may fail -/

section
variable {d : Dongle} {w : World}

/-- A read-back loop that succeeds was told the value. -/
theorem readBack_tells {S : Type} {step : S → Ev → S → Prop} {s : S} {r : ℕ} (hr : r ≤ 0xFFFF) {raw : ℤ}
    (n : ℕ) :
    Ensures step s (readBack d r raw n) fun tr out _ => out = .ok true →
      ∃ back : Op.Answer (.transact d (.readHoldOne r)),
        ⟨.transact d (.readHoldOne r), back⟩ ∈ tr ∧ Tells raw back := by
  induction n generalizing s with
  | zero => exact (ensures_pure _).mpr fun h => by cases h
  | succ n ih =>
    unfold readBack
    refine (readHoldingRegister_ensures hr).bind ?_ fun t x m _ h => by cases h
    rintro t res m ⟨a, rfl, hres, -, -⟩
    split
    · next hc =>
      refine (ensures_pure _).mpr fun _ => ⟨a, by simp, ?_⟩
      cases res with
      | error msg => cases hc
      | ok read =>
        obtain ⟨v, msg⟩ := read
        obtain ⟨f, rfl, hf, rfl⟩ := readResult_ok hres.symm
        exact ⟨f, rfl, hf, by simpa [ReadResult.confirms] using hc⟩
    · rw [perform_bind, ensures_ask]
      intro _ m' _
      refine ih.mono fun t' out s' h hout => ?_
      obtain ⟨back, hback, htells⟩ := h hout
      exact ⟨back, by simp [hback], htells⟩

/-- A successful `setEnableBit` wrote the bit and was told so afterwards. -/
theorem setEnableBit_tells {S : Type} {step : S → Ev → S → Prop} {s : S} (enable : Bool) :
    Ensures step s (setEnableBit d enable) fun tr out _ => ∀ x, out = .ok (.ok x) →
      ∃ (new : ℕ) (echo : Op.Answer (.transact d (.writeSingle qcEnableReg new)))
        (back : Op.Answer (.transact d (.readHoldOne qcEnableReg))),
        new.testBit 0 = enable ∧ Tells new back ∧
          [⟨.transact d (.writeSingle qcEnableReg new), echo⟩,
            ⟨.transact d (.readHoldOne qcEnableReg), back⟩].Sublist tr := by
  have hreg : qcEnableReg ≤ 0xFFFF := by decide
  unfold setEnableBit
  refine (readHoldingRegister_ensures hreg).bind ?_ fun t x m h => by rintro _ ⟨⟩
  rintro t res m -
  match res with
  | .error msg => exact (ensures_pure _).mpr fun _ h => by cases h
  | .ok (cur, rmsg) =>
    refine (writeHoldingRegister_ensures hreg).bind ?_ fun t x m h => by rintro _ ⟨⟩
    rintro t₁ wres m₁ (⟨-, -, -, e, he⟩ | ⟨-, echo, rfl, -, -⟩)
    · cases he
    · match wres with
      | .error msg => exact (ensures_pure _).mpr fun _ h => by cases h
      | .ok msg =>
        refine (readBack_tells hreg 4).bind ?_ fun t x m h => by rintro _ ⟨⟩
        intro t₂ verified m₂ hback
        split
        · next hv =>
          refine (ensures_pure _).mpr fun _ _ => ?_
          obtain ⟨back, hmem, htells⟩ := hback (by rw [hv])
          refine ⟨_, echo, back, withEnableBit_zero cur enable, htells, ?_⟩
          rw [List.append_nil]
          exact ((List.singleton_sublist.mpr hmem).cons_cons _).trans (List.sublist_append_right t _)
        · exact (ensures_pure _).mpr fun _ h => by cases h

theorem StopConfirmed.append {t u : List Ev} (h : StopConfirmed d u) (v : List Ev) :
    StopConfirmed d (t ++ (u ++ v)) := by
  obtain ⟨new, echo, back, ack, hbit, htells, hack, hsub⟩ := h
  exact ⟨new, echo, back, ack, hbit, htells, hack,
    (hsub.trans (List.sublist_append_left u v)).trans (List.sublist_append_right t _)⟩

/-- The state is saved only after the write of the duration 0 is acknowledged. -/
theorem stopDuration_confirms (state : QuickChargeState) :
    Ensures (step .faulty) w (stopDuration d state 0) fun tr _ w' => w'.documents = w.documents ∨
      ∃ ack : Op.Answer (.transact d (.writeSingle qcDurationReg 0)), answered ack = true ∧
        (⟨.transact d (.writeSingle qcDurationReg 0), ack⟩ : Ev) ∈ tr := by
  unfold stopDuration
  refine (writeHoldingRegister_spec (by decide)).bind ?_ ?_
  · rintro t wres m (⟨-, -, -, e, he⟩ | ⟨-, ack, rfl, hok, hw⟩)
    · cases he
    · obtain ⟨hdoc, -⟩ := writeStep_regs hw
      match wres, hok with
      | .error msg, _ =>
        refine (logQc_spec _ _ _ _ _).bind ?_ ?_
        · rintro t₁ - m₁ ⟨rfl, -⟩
          exact (ensures_pure _).mpr (Or.inl hdoc)
        · rintro t₁ x m₁ ⟨rfl, -⟩
          exact Or.inl hdoc
      | .ok msg, hok =>
        refine Ensures.trivial.mono fun u _ _ _ => Or.inr ⟨ack, hok.symm, ?_⟩
        exact List.mem_append_left _ List.mem_cons_self
  · rintro t x m (⟨-, -, rfl, -⟩ | ⟨-, ack, -, -, hw⟩)
    · exact Or.inl rfl
    · obtain ⟨hdoc, -⟩ := writeStep_regs hw
      exact Or.inl hdoc

/-- A stop changes the persisted state only after it has confirmed the registers. -/
theorem stop_confirmed :
    Ensures (step .faulty) w (stop d false) fun tr _ w' =>
      w'.documents = w.documents ∨ StopConfirmed d tr := by
  unfold stop
  refine loadState_ensures.bind ?_ ?_
  · rintro t state m ⟨a, rfl, -, rfl, -⟩
    simp only [Bool.false_eq_true, if_false, stopClear_eq]
    refine ((setEnableBit_spec false).and (setEnableBit_tells false)).bind ?_ ?_
    · rintro t₁ res m₁ ⟨hdone, htells⟩
      match res, htells with
      | .error msg, _ =>
        refine (logQc_spec _ _ _ _ _).bind ?_ ?_
        · rintro t₂ - m₂ ⟨rfl, -⟩
          exact (ensures_pure _).mpr (Or.inl hdone.documents)
        · rintro t₂ x m₂ ⟨rfl, -⟩
          exact Or.inl hdone.documents
      | .ok (msg, n), htells =>
        obtain ⟨new, echo, back, hbit, hback, hsub⟩ := htells _ rfl
        refine (logQc_spec _ _ _ _ _).bind ?_ ?_
        · rintro t₂ - m₂ ⟨rfl, -⟩
          refine (stopDuration_confirms state).mono ?_
          rintro t₃ - m₃ (hdoc | ⟨ack, hok, hmem⟩)
          · exact Or.inl (hdoc.trans hdone.documents)
          · refine Or.inr ⟨new, echo, back, ack, hbit, hback, hok, ?_⟩
            have hack := (List.singleton_sublist.mpr hmem).trans (List.sublist_append_right t₂ t₃)
            exact (hsub.append hack).trans (List.sublist_append_right _ _)
        · rintro t₂ x m₂ ⟨rfl, -⟩
          exact Or.inl hdone.documents
    · rintro t₁ x m₁ ⟨hdone, -⟩
      exact Or.inl hdone.documents
  · rintro t x m ⟨a, -, -, rfl, -⟩
    exact Or.inl rfl

/-- The only documents that the program stores are active states. -/
def StoresActive (op : Op) : Prop :=
  ∀ name j, op = .setDocument name j → ∃ s : QuickChargeState, s.active = true ∧ j = s.toDict

theorem logQc_asks {P : Op → Prop} (h : ∀ row, P (.insertLog row)) (name : String) (raw scaled : Option ℤ)
    (success : Bool) (msg : String) : (logQc name raw scaled success msg).Asks P :=
  ⟨h _, fun _ => asks_ofExcept _⟩

theorem setEnableBit_asks {P : Op → Prop} (hread : P (.transact d (.readHoldOne qcEnableReg)))
    (hwrite : ∀ v, P (.transact d (.writeSingle qcEnableReg v))) (hsleep : P (.sleep 0.5)) (enable : Bool) :
    (setEnableBit d enable).Asks P := by
  unfold setEnableBit
  refine asks_bind (readHoldingRegister_asks hread) fun res => ?_
  match res with
  | .error msg => exact trivial
  | .ok (cur, msg) =>
    refine asks_bind (writeHoldingRegister_asks (hwrite _)) fun wres => ?_
    match wres with
    | .error msg => exact trivial
    | .ok msg =>
      refine asks_bind (readBack_asks hread hsleep 4) fun verified => ?_
      split
      · exact trivial
      · exact trivial

theorem start_asks (minutes : Option ℤ) : (start d minutes false).Asks StoresActive := by
  have hlog : ∀ row, StoresActive (.insertLog row) := by rintro row name j ⟨⟩
  have htransact : ∀ req, StoresActive (.transact d req) := by rintro req name j ⟨⟩
  rw [start_live]
  refine asks_bind ((requestedMinutes_asks minutes).mono ?_) fun n => ?_
  · rintro op rfl name j ⟨⟩
  · unfold startDuration
    refine asks_bind (writeHoldingRegister_asks (htransact _)) fun res => ?_
    match res with
    | .error msg => exact asks_bind (logQc_asks hlog _ _ _ _ _) fun _ => trivial
    | .ok msg =>
      refine asks_bind (logQc_asks hlog _ _ _ _ _) fun _ => ?_
      unfold startEnable
      refine asks_bind (setEnableBit_asks (htransact _) (fun _ => htransact _) (by rintro name j ⟨⟩) true) ?_
      rintro (msg | ⟨msg, new⟩)
      · exact asks_bind (logQc_asks hlog _ _ _ _ _) fun _ => trivial
      · refine asks_bind (logQc_asks hlog _ _ _ _ _) fun _ => ?_
        refine asks_bind ⟨by rintro name j ⟨⟩, fun _ => trivial⟩ fun now => ?_
        refine asks_bind ⟨by rintro name j ⟨⟩, fun _ => trivial⟩ fun utc => ?_
        refine asks_bind ⟨?_, fun _ => asks_ofExcept _⟩ fun _ => trivial
        rintro name j ⟨⟩
        exact ⟨_, rfl, rfl⟩

/-- A dry start looks the minutes up and logs. -/
theorem start_dry_asks (minutes : Option ℤ) :
    (start d minutes true).Asks fun op => op.storesDocument = false := by
  unfold start
  refine asks_bind ((requestedMinutes_asks minutes).mono fun op h => by rw [h]; rfl) fun n => ?_
  refine asks_bind (asks_ofExcept _) fun durMeta => ?_
  split
  · exact trivial
  · exact asks_bind (logQc_asks (fun _ => rfl) _ _ _ _ _) fun _ => trivial

theorem stop_dry_asks : (stop d true).Asks fun op => op.storesDocument = false := by
  unfold stop
  refine asks_bind ⟨rfl, fun _ => asks_ofExcept _⟩ fun state => ?_
  exact asks_bind (logQc_asks (fun _ => rfl) _ _ _ _ _) fun _ => trivial

theorem qcActive_congr {w' : World} (h : w'.documents = w.documents) : w'.qcActive = w.qcActive := by
  unfold World.qcActive
  rw [h]

/-- A program that stores only active states does not take the flag back. -/
theorem storesActive_keeps {α : Type} {p : Py α} (hp : p.Asks StoresActive) :
    Ensures (step .faulty) w p fun _ _ w' => w.qcActive = true → w'.qcActive = true := by
  intro tr out w' hr hs hact
  refine Steps.invariant (fun x => x.qcActive = true) (fun ev hev a b ha hab => ?_) hs hact
  have hstores := hp.of_run hr ev hev
  by_cases hop : ev.1.storesDocument = false
  · rw [qcActive_congr (step_keeps_documents hab hop)]
    exact ha
  · obtain ⟨op, ans⟩ := ev
    cases op with
    | setDocument name j =>
      obtain ⟨s, hs, rfl⟩ := hstores name j rfl
      rcases hab with ⟨-, rfl⟩ | ⟨-, -, rfl⟩
      · by_cases hname : qcStateKey = name
        · unfold World.qcActive
          simp [hname, hs]
        · unfold World.qcActive at ha ⊢
          simpa [Function.update_apply, hname] using ha
      · exact ha
    | _ => exact absurd rfl hop

/-- A tick changes the persisted state only where it has confirmed the registers. -/
theorem tick_confirmed :
    Ensures (step .faulty) w (tick d) fun tr _ w' =>
      w'.documents = w.documents ∨ StopConfirmed d tr := by
  unfold tick
  refine loadState_ensures.bind ?_ ?_
  · rintro t state m ⟨a, rfl, -, rfl, -⟩
    split
    · exact (ensures_pure _).mpr (Or.inl rfl)
    · rw [perform_bind, ensures_ask]
      rintro now m₁ rfl
      split
      · exact (ensures_pure _).mpr (Or.inl rfl)
      · refine stop_confirmed.bind ?_ ?_
        · intro t₂ result m₂ hstop
          rcases hstop with hdoc | hconfirmed
          · match result with
            | .error msg => exact (ensures_pure _).mpr (Or.inl hdoc)
            | .ok rep =>
              refine (logQc_spec _ _ _ _ _).bind ?_ ?_
              · rintro t₃ - m₃ ⟨rfl, -⟩
                exact (ensures_pure _).mpr (Or.inl hdoc)
              · rintro t₃ x m₃ ⟨rfl, -⟩
                exact Or.inl hdoc
          · exact Ensures.trivial.mono fun u _ _ _ => Or.inr (hconfirmed.append (t := [_, _]) u)
        · rintro t₂ x m₂ (hdoc | hconfirmed)
          · exact Or.inl hdoc
          · refine Or.inr ?_
            have := hconfirmed.append (t := [⟨.getDocument qcStateKey, a⟩, ⟨.time, now⟩]) []
            rwa [List.append_nil] at this
  · rintro t x m ⟨a, -, -, rfl, -⟩
    exact Or.inl rfl

/-- A tick that reads an active state and a clock at or after its deadline runs a stop. -/
theorem tick_tries {tr : List Ev} {out : Except PyErr (Option (Except String StopReport))}
    (h : (tick d).Run tr out) {row : Option (Option Json)} {rest : List Ev}
    (htr : tr = ⟨.getDocument qcStateKey, .ok row⟩ :: rest) {s : QuickChargeState}
    (hs : decodeState row = .ok s) (hact : s.active = true) :
    ∃ now : ℚ, ⟨.time, now⟩ ∈ tr ∧ (PyFloat.lt (.fin now) s.deadlineTs = false → TriesStop d tr) := by
  unfold tick at h
  rcases (run_bind _ _ _ _).mp h with ⟨state, t, u, rfl, ht, hu⟩ | ⟨x, rfl, ht⟩
  · obtain ⟨a, rfl, hstate, -⟩ := loadState_ensures t _ () ht (steps_anyStep _)
    obtain ⟨ha, rfl⟩ := List.cons.inj htr
    cases ha
    have hstate : Except.ok state = decodeState row := hstate
    rw [hs] at hstate
    cases hstate
    rw [if_neg (by simp [hact]), perform_bind] at hu
    obtain ⟨now, v, rfl, hv⟩ := hu
    refine ⟨now, by simp, fun hlt => ?_⟩
    dsimp only at hv
    rw [if_neg (by simp [hlt])] at hv
    rcases (run_bind _ _ _ _).mp hv with ⟨result, t', u', rfl, hstop, -⟩ | ⟨x, rfl, hstop⟩
    · exact ⟨[_, _], t', u', _, rfl, hstop⟩
    · exact ⟨[⟨.getDocument qcStateKey, .ok row⟩, ⟨.time, now⟩], v, [], _, by simp, hstop⟩
  · obtain ⟨a, rfl, hstate, -⟩ := loadState_ensures tr _ () ht (steps_anyStep _)
    obtain ⟨ha, -⟩ := List.cons.inj htr
    cases ha
    have hstate : Except.error x = decodeState row := hstate
    rw [hs] at hstate
    cases hstate

end

/-! ## Both together -/

/-- The flag is taken back only where a stop has confirmed the registers. -/
theorem record_confirmed {d : Dongle} {r : QcRecord} (hran : r.action.Ran d r.trace)
    (hs : Steps (step .faulty) r.before r.trace r.after) (hbefore : r.before.qcActive = true)
    (hafter : r.after.qcActive = false) :
    (r.action = .stop false ∨ r.action = .tick) ∧ StopConfirmed d r.trace := by
  have hchanged : r.after.documents ≠ r.before.documents := by
    intro h
    rw [qcActive_congr h, hbefore] at hafter
    cases hafter
  obtain ⟨action, w, tr, w'⟩ := r
  cases action with
  | start minutes dryRun =>
    obtain ⟨out, hr⟩ := hran
    cases dryRun with
    | true =>
      exact absurd (hs.unchanged World.documents fun ev hev a b hab =>
        step_keeps_documents hab ((start_dry_asks minutes).of_run hr ev hev)) hchanged
    | false =>
      have hact : w'.qcActive = true := storesActive_keeps (start_asks minutes) _ _ _ hr hs hbefore
      have hno : w'.qcActive = false := hafter
      rw [hact] at hno
      cases hno
  | stop dryRun =>
    obtain ⟨out, hr⟩ := hran
    cases dryRun with
    | true =>
      exact absurd (hs.unchanged World.documents fun ev hev a b hab =>
        step_keeps_documents hab (stop_dry_asks.of_run hr ev hev)) hchanged
    | false => exact ⟨Or.inl rfl, (stop_confirmed _ _ _ hr hs).resolve_left hchanged⟩
  | tick =>
    obtain ⟨out, hr⟩ := hran
    exact ⟨Or.inr rfl, (tick_confirmed _ _ _ hr hs).resolve_left hchanged⟩

/-- A tick that reads an active state tries to stop, unless its clock is before the deadline. -/
theorem record_tries {d : Dongle} {r : QcRecord} (htick : r.action = .tick)
    (hran : r.action.Ran d r.trace) (hs : Steps (step .faulty) r.before r.trace r.after)
    (hread : r.ReadState) {deadline : PyFloat} (hdeadline : r.before.qcDeadline = some deadline) :
    ∃ now : ℚ, ⟨.time, now⟩ ∈ r.trace ∧
      (PyFloat.lt (.fin now) deadline = false → TriesStop d r.trace) := by
  rw [htick] at hran
  obtain ⟨out, hr⟩ := hran
  obtain ⟨row, rest, htr⟩ := hread
  have hrow : row = r.before.documents qcStateKey := by
    rw [htr] at hs
    obtain ⟨m, ⟨-, hsel⟩, -⟩ := hs
    rcases hsel with h | ⟨-, e, h⟩
    · exact Except.ok.inj h
    · cases h
  unfold World.qcDeadline at hdeadline
  rw [← hrow] at hdeadline
  cases hstate : decodeState row with
  | error x =>
    rw [hstate] at hdeadline
    cases hdeadline
  | ok s =>
    rw [hstate] at hdeadline
    cases hact : s.active with
    | false => simp [hact] at hdeadline
    | true =>
      simp only [hact, if_true, Option.some.injEq] at hdeadline
      obtain ⟨now, hnow, htries⟩ := tick_tries hr htr hstate hact
      exact ⟨now, hnow, fun hlt => htries (by rwa [hdeadline])⟩

/-- Without failures: the start fixes the deadline, ticks before it do nothing, the first one from
it on stops the charge, later ones do nothing.  With failures of any pattern: only a confirmed stop
takes the active flag back, and until then every tick from the deadline on tries to stop. -/
theorem quickCharge_deadline (d : Dongle) :
    (∀ (v : UInt16 × UInt16 × Option (Option Json)) (m : ℤ) (r₀ : QcRecord) (ticks : List (QcRecord × ℚ)),
      r₀.action = .start (some m) false → (∀ e ∈ ticks, TickAt e.1 e.2) →
      QcRuns .reliable d v (r₀ :: ticks.map Prod.fst) →
      ∃ now deadline : ℚ, ⟨.time, now⟩ ∈ r₀.trace ∧ deadline = now + clampMinutes m * 60 ∧
        r₀.after.qcDeadline = some (.fin deadline) ∧
        ∀ pre r t post, ticks = pre ++ (r, t) :: post → (∀ e ∈ pre, e.2 < deadline) →
          (t < deadline → r.Idle) ∧
            (deadline ≤ t → Stopped r.before r.after ∧ ∀ e ∈ post, e.1.Idle)) ∧
    ∀ (v : UInt16 × UInt16 × Option (Option Json)) (rs : List QcRecord), QcRuns .faulty d v rs →
      ∀ r ∈ rs,
        (r.before.qcActive = true → r.after.qcActive = false →
          (r.action = .stop false ∨ r.action = .tick) ∧ StopConfirmed d r.trace) ∧
        (r.action = .tick → r.ReadState → ∀ deadline, r.before.qcDeadline = some deadline →
          ∃ now : ℚ, ⟨.time, now⟩ ∈ r.trace ∧
            (PyFloat.lt (.fin now) deadline = false → TriesStop d r.trace)) := by
  constructor
  · intro v m r₀ ticks hstart hticks hrun
    obtain ⟨-, ⟨hran, hs⟩, hrest⟩ := hrun
    rw [hstart] at hran
    obtain ⟨out, hr⟩ := hran
    obtain ⟨now, s, hnow, hstate, hact, hdeadline⟩ := start_reliable m _ _ _ hr hs
    refine ⟨now, now + clampMinutes m * 60, hnow, rfl, ?_, fun pre r t post hsplit hpre =>
      ticks_active hrest hticks hstate hact hdeadline hsplit hpre⟩
    unfold World.qcDeadline
    rw [hstate, ← hdeadline]
    simp [hact]
  · intro v rs hrun r hr
    obtain ⟨hran, hs⟩ := hrun.of_mem hr
    exact ⟨record_confirmed hran hs, fun htick hread deadline h => record_tries htick hran hs hread h⟩

/-- The reliable dongle and database, with the clock at `t`. -/
def World.clockAnswer (t : ℚ) (w : World) (op : Op) : Op.Answer op × World :=
  match op with
  | .time => (t, w)
  | op => w.answer op

theorem World.clockAnswer_step (t : ℚ) (w : World) (op : Op) :
    step .reliable w ⟨op, (w.clockAnswer t op).1⟩ (w.clockAnswer t op).2 := by
  unfold World.clockAnswer
  split
  · rfl
  · exact w.answer_step _

/-- A call at time `t`. -/
def callAt (t : ℚ) (action : QcAction) {α : Type} (p : Py α) (w : World) : QcRecord :=
  let run := exec (World.clockAnswer t) w p
  { action := action, before := w, trace := run.1, after := run.2.2 }

theorem callAt_steps (t : ℚ) (action : QcAction) {α : Type} (p : Py α) (w : World) :
    p.Run (callAt t action p w).trace (exec (World.clockAnswer t) w p).2.1 ∧
      Steps (step .reliable) w (callAt t action p w).trace (callAt t action p w).after :=
  exec_spec (step .reliable) _ (World.clockAnswer_step t) p w

theorem callAt_clock (t : ℚ) (action : QcAction) {α : Type} (p : Py α) (w : World) :
    ∀ now : ℚ, ⟨.time, now⟩ ∈ (callAt t action p w).trace → now = t := by
  show ∀ now : ℚ, ⟨.time, now⟩ ∈ (exec (World.clockAnswer t) w p).1 → now = t
  induction p generalizing w with
  | ret a => simp [exec]
  | raise x => simp [exec]
  | ask op k ih =>
    intro now hnow
    rcases List.mem_cons.mp hnow with h | h
    · cases op with
      | time => simpa [World.clockAnswer] using h
      | _ => cases h
    · exact ih _ _ now h

/-- A charge of one minute from time 0 on, and ticks after 30, 61 and 90 seconds. -/
def minuteStart : QcRecord := callAt 0 (.start (some 1) false) (start idleDongle (some 1) false) idleWorld

def tickAfter (r : QcRecord) (t : ℚ) : QcRecord := callAt t .tick (tick idleDongle) r.after

def minuteTicks : List (QcRecord × ℚ) :=
  let first := tickAfter minuteStart 30
  let second := tickAfter first 61
  [(first, 30), (second, 61), (tickAfter second 90, 90)]

/-- The tick after 61 seconds stops it, and the one after 90 seconds finds nothing to do. -/
theorem minuteTicks_stop :
    Stopped (tickAfter minuteStart 30).after (tickAfter (tickAfter minuteStart 30) 61).after ∧
      (tickAfter (tickAfter (tickAfter minuteStart 30) 61) 90).Idle := by
  have htick : ∀ r t, TickAt (tickAfter r t) t := fun r t => ⟨rfl, callAt_clock t .tick _ _⟩
  have hok : ∀ r t, (tickAfter r t).action.Ran idleDongle (tickAfter r t).trace ∧
      Steps (step .reliable) (tickAfter r t).before (tickAfter r t).trace (tickAfter r t).after :=
    fun r t => ⟨⟨_, (callAt_steps t .tick _ _).1⟩, (callAt_steps t .tick _ _).2⟩
  have hstart := callAt_steps 0 (.start (some 1) false) (start idleDongle (some 1) false) idleWorld
  obtain ⟨now, deadline, hnow, hdeadline, -, hall⟩ :=
    (quickCharge_deadline idleDongle).1 idleWorld.qcView 1 minuteStart minuteTicks rfl
      (by simp [minuteTicks, htick]) ⟨rfl, ⟨⟨_, hstart.1⟩, hstart.2⟩, rfl, hok _ _, rfl, hok _ _, rfl, hok _ _, trivial⟩
  have hzero : now = 0 := callAt_clock 0 _ _ _ now hnow
  have hsixty : deadline = 60 := by
    rw [hdeadline, hzero]
    decide +kernel
  obtain ⟨-, hstop⟩ := hall [(tickAfter minuteStart 30, 30)] _ 61 _ rfl (by
    rw [hsixty]
    norm_num)
  obtain ⟨hstopped, hidle⟩ := hstop (by rw [hsixty]; norm_num)
  exact ⟨hstopped, hidle _ (List.mem_singleton_self _)⟩

end LuxMon
