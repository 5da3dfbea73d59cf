import LuxMon.QuickCharge.Races

/-!
# Start and stop at the same time

Both operations write the duration, the enable bit and the persisted state once
each, in different orders and without a lock.  Who wrote each of the three last
decides whether inverter and state agree.

    Agree ↔ start wrote all three last, or stop wrote bit and state last     (start_stop_agree_iff)
-/

namespace LuxMon

open Python Effects Prog World ParTrace

/-- The persisted `active` flag. -/
def World.qcActive (w : World) : Bool :=
  match decodeState (w.documents qcStateKey) with
  | .ok s => s.active
  | .error _ => false

/-- Bit 0 of the enable bitfield. -/
def World.qcBit (w : World) : Bool := (w.regs qcEnableReg).toNat.testBit 0

/-- The state says active exactly when the bit is set, and a set bit has a duration. -/
def Agree (w : World) : Prop :=
  (w.qcActive = true ↔ w.qcBit = true) ∧ (w.qcBit = true → 0 < (w.regs qcDurationReg).toNat)

/-! ## What the operations write -/

theorem qcRegs_ne : ¬ qcEnableReg = qcDurationReg ∧ ¬ qcDurationReg = qcEnableReg := by decide

/-- Bit 0 survives the cut to 16 bits. -/
theorem toUInt16_testBit_zero (n : Nat) :
    (n : ℤ).toNat.toUInt16.toNat.testBit 0 = n.testBit 0 := by
  simp only [Int.toNat_natCast, Nat.toUInt16_eq, UInt16.toNat_ofNat', Nat.testBit_zero]
  congr 2
  omega

/-- One write of each cell: the duration, the bit, the state. -/
structure Wrote (tr : List Ev) (enable : Bool) (duration : ℤ) (s : QuickChargeState) : Prop where
  duration : tr.filterMap (setsReg qcDurationReg) = [duration.toNat.toUInt16]
  bit : ∃ x, tr.filterMap (setsReg qcEnableReg) = [x] ∧ x.toNat.testBit 0 = enable
  state : tr.filterMap (setsDocument qcStateKey) = [some (some s.toDict)]

/-- Reading settings writes nothing. -/
theorem filterMap_settings {t : List Ev} {name : String} (h : ∀ ev ∈ t, ev.1 = .getSetting name) :
    (∀ r, t.filterMap (setsReg r) = []) ∧ ∀ doc, t.filterMap (setsDocument doc) = [] := by
  simp only [List.filterMap_eq_nil_iff, setsReg, setsDocument]
  constructor
  · intro r ev hev
    rw [h ev hev]
    rfl
  · intro doc ev hev
    rw [h ev hev]
    rfl

section
variable {d : Dongle}

/-- A successful `setEnableBit` writes the bit and nothing else. -/
theorem setEnableBit_wrote (enable : Bool) :
    Ensures anyStep () (setEnableBit d enable) fun tr out _ => ∀ x, out = .ok (.ok x) →
      tr.filterMap (setsReg qcDurationReg) = [] ∧ tr.filterMap (setsDocument qcStateKey) = [] ∧
      ∃ x, tr.filterMap (setsReg qcEnableReg) = [x] ∧ x.toNat.testBit 0 = enable := by
  refine (setEnableBit_shape enable).mono ?_
  rintro tr out s' h ⟨msg, new⟩ rfl
  obtain ⟨f, g, backs, -, hnew, rfl, hbacks⟩ := h msg new rfl
  have hdoc : backs.filterMap (setsDocument qcStateKey) = [] := by
    refine List.filterMap_eq_nil_iff.mpr fun ev hev => setsDocument_eq_none ?_
    obtain ⟨op, a⟩ := ev
    rcases hbacks _ hev with h | h
    · cases op <;> first | rfl | cases h
    · rw [h]
      rfl
  refine ⟨?_, ?_, (new : ℤ).toNat.toUInt16, ?_, ?_⟩
  · simp [qcRegs_ne, List.filterMap_cons, filterMap_setsReg_back _ hbacks]
  · simp [List.filterMap_cons, hdoc]
  · simp [List.filterMap_cons, filterMap_setsReg_back _ hbacks]
  · rw [← withEnableBit_zero (f.1.values.headD 0) enable, ← hnew]
    exact toUInt16_testBit_zero new

theorem start_wrote (minutes : Option ℤ) :
    Ensures anyStep () (start d minutes false) fun tr out _ => ∀ rep, out = .ok (.ok rep) →
      ∃ n s, 1 ≤ n ∧ n ≤ 1440 ∧ s.active = true ∧ Wrote tr true n s := by
  have hreg : qcDurationReg ≤ 0xFFFF := by decide
  rw [start_live]
  refine (Ensures.of_asks (requestedMinutes_asks minutes)).bind ?_ fun t x m h => by rintro _ ⟨⟩
  intro t requested m hq
  refine (writeHoldingRegister_ensures hreg).bind ?_ fun t x m h => by rintro _ ⟨⟩
  rintro t₁ wres m₁ (⟨-, -, -, e, he⟩ | ⟨-, g, rfl, -⟩)
  · cases he
  · match wres with
    | .error msg =>
      refine (logQc_ensures _ _ _ _ _).bind ?_ fun t x m h => by rintro _ ⟨⟩
      exact fun _ _ _ _ => (ensures_pure _).mpr fun _ h => by cases h
    | .ok msg =>
      refine (logQc_ensures _ _ _ _ _).bind ?_ fun t x m h => by rintro _ ⟨⟩
      rintro t₂ - m₂ ⟨row, a, rfl, -⟩
      refine (setEnableBit_wrote true).bind ?_ fun t x m h => by rintro _ ⟨⟩
      intro t₃ eres m₃ he
      match eres, he with
      | .error msg, _ =>
        refine (logQc_ensures _ _ _ _ _).bind ?_ fun t x m h => by rintro _ ⟨⟩
        exact fun _ _ _ _ => (ensures_pure _).mpr fun _ h => by cases h
      | .ok (emsg, new), he =>
        obtain ⟨hdur, hdoc, hbit⟩ := he _ rfl
        refine (logQc_ensures _ _ _ _ _).bind ?_ fun t x m h => by rintro _ ⟨⟩
        rintro t₄ - m₄ ⟨row', a', rfl, -⟩
        rw [perform_bind, ensures_ask]
        intro now m₅ _
        rw [perform_bind, ensures_ask]
        intro utc m₆ _
        refine (saveState_ensures _).bind ?_ fun t x m h => by rintro _ ⟨⟩
        rintro t₇ - m₇ ⟨a₇, rfl, -⟩
        refine (ensures_pure _).mpr fun rep _ => ?_
        refine ⟨clampMinutes requested,
          { active := true, minutes := clampMinutes requested,
            deadlineTs := .fin (now + clampMinutes requested * 60), startedAt := utc },
          (clampMinutes_range _).1, (clampMinutes_range _).2, rfl, ?_, ?_, ?_⟩
        · simp [List.filterMap_cons, filterMap_settings hq, hdur]
        · simpa [List.filterMap_cons, filterMap_settings hq, qcRegs_ne] using hbit
        · simp [List.filterMap_cons, filterMap_settings hq, hdoc]

theorem stop_wrote :
    Ensures anyStep () (stop d false) fun tr out _ => ∀ rep, out = .ok (.ok rep) →
      ∃ s, s.active = false ∧ Wrote tr false 0 s := by
  have hreg : qcDurationReg ≤ 0xFFFF := by decide
  unfold stop
  refine loadState_ensures.bind ?_ fun t x m h => by rintro _ ⟨⟩
  rintro t₀ state m₀ ⟨a₀, rfl, -, -⟩
  simp only [Bool.false_eq_true, if_false, stopClear_eq]
  refine (setEnableBit_wrote false).bind ?_ fun t x m h => by rintro _ ⟨⟩
  intro t₁ eres m₁ he
  match eres, he with
  | .error msg, _ =>
    refine (logQc_ensures _ _ _ _ _).bind ?_ fun t x m h => by rintro _ ⟨⟩
    exact fun _ _ _ _ => (ensures_pure _).mpr fun _ h => by cases h
  | .ok (emsg, new), he =>
    obtain ⟨hdur, hdoc, hbit⟩ := he _ rfl
    refine (logQc_ensures _ _ _ _ _).bind ?_ fun t x m h => by rintro _ ⟨⟩
    rintro t₂ - m₂ ⟨row, a, rfl, -⟩
    unfold stopDuration
    refine (writeHoldingRegister_ensures hreg).bind ?_ fun t x m h => by rintro _ ⟨⟩
    rintro t₃ wres m₃ (⟨-, -, -, e, he⟩ | ⟨-, g, rfl, -⟩)
    · cases he
    · match wres with
      | .error msg =>
        refine (logQc_ensures _ _ _ _ _).bind ?_ fun t x m h => by rintro _ ⟨⟩
        exact fun _ _ _ _ => (ensures_pure _).mpr fun _ h => by cases h
      | .ok msg =>
        refine (logQc_ensures _ _ _ _ _).bind ?_ fun t x m h => by rintro _ ⟨⟩
        rintro t₄ - m₄ ⟨row', a', rfl, -⟩
        refine (saveState_ensures _).bind ?_ fun t x m h => by rintro _ ⟨⟩
        rintro t₅ - m₅ ⟨a₅, rfl, -⟩
        refine (ensures_pure _).mpr fun rep _ => ?_
        refine ⟨{ state with active := false }, rfl, ?_, ?_, ?_⟩
        · simp [List.filterMap_cons, hdur]
        · simpa [List.filterMap_cons, qcRegs_ne] using hbit
        · simp [List.filterMap_cons, hdoc]

theorem tick_wrote :
    Ensures anyStep () (tick d) fun tr out _ => ∀ rep, out = .ok (some (.ok rep)) →
      ∃ s, s.active = false ∧ Wrote tr false 0 s := by
  unfold tick
  refine loadState_ensures.bind ?_ fun t x m h => by rintro _ ⟨⟩
  rintro t₀ state m₀ ⟨a₀, rfl, -, -⟩
  split
  · exact (ensures_pure _).mpr fun _ h => by cases h
  · rw [perform_bind, ensures_ask]
    intro now m₁ _
    split
    · exact (ensures_pure _).mpr fun _ h => by cases h
    · refine stop_wrote.bind ?_ fun t x m h => by rintro _ ⟨⟩
      intro t₂ result m₂ hstop
      match result, hstop with
      | .error msg, _ => exact (ensures_pure _).mpr fun _ h => by cases h
      | .ok rep, hstop =>
        obtain ⟨s, hs, hdur, ⟨x, hx, hbit⟩, hstate⟩ := hstop rep rfl
        refine (logQc_ensures _ _ _ _ _).bind ?_ fun t x m h => by rintro _ ⟨⟩
        rintro t₃ - m₃ ⟨row, a, rfl, -⟩
        refine (ensures_pure _).mpr fun _ _ => ⟨s, hs, ?_, ⟨x, ?_, hbit⟩, ?_⟩
        · simp [List.filterMap_cons, hdur]
        · simp [List.filterMap_cons, hx]
        · simp [List.filterMap_cons, hstate]

end

/-! ## Who wrote last -/

/-- `start` is on the left.  It wrote duration, bit and state last, or the other
operation wrote bit and state last. -/
def OneLast (tr : ParTrace Op Op.Answer) : Prop :=
  (lastSide (setsReg qcDurationReg) tr = some .left ∧ lastSide (setsReg qcEnableReg) tr = some .left ∧
    lastSide (setsDocument qcStateKey) tr = some .left) ∨
  (lastSide (setsReg qcEnableReg) tr = some .right ∧
    lastSide (setsDocument qcStateKey) tr = some .right)

theorem agree_iff {w w' : World} {tr : ParTrace Op Op.Answer} {n : ℤ} {s s₀ : QuickChargeState}
    (hn : 1 ≤ n ∧ n ≤ 1440) (hs : s.active = true) (hs₀ : s₀.active = false)
    (hl : Wrote (side .left tr) true n s) (hr : Wrote (side .right tr) false 0 s₀)
    (h : Steps (World.step .reliable) w (tr.map Prod.snd) w') : Agree w' ↔ OneLast tr := by
  obtain ⟨hdl, ⟨x, hxl, hx⟩, hsl⟩ := hl
  obtain ⟨hdr, ⟨y, hyr, hy⟩, hsr⟩ := hr
  have hpos : 0 < n.toNat % 65536 := by omega
  have hdur := regs_last qcDurationReg h
  have hbit := regs_last qcEnableReg h
  have hdoc := document_last qcStateKey h
  rcases last_of_pair _ tr _ _ hdl hdr with ⟨h1, h1'⟩ | ⟨h1, h1'⟩ <;> rw [h1'] at hdur <;>
    rcases last_of_pair _ tr _ _ hxl hyr with ⟨h2, h2'⟩ | ⟨h2, h2'⟩ <;> rw [h2'] at hbit <;>
    rcases last_of_pair _ tr _ _ hsl hsr with ⟨h3, h3'⟩ | ⟨h3, h3'⟩ <;> rw [h3'] at hdoc <;>
    simp [Agree, OneLast, World.qcActive, World.qcBit, hdur, hbit, hdoc, h1, h2, h3, hx, hy, hs, hs₀,
      hpos, -Nat.testBit_zero]

/-- The operations that stop a quick charge. -/
inductive Stopper
  | stop
  | tick

/-- `none` when there was nothing to stop. -/
def Stopper.prog (d : Dongle) : Stopper → Py (Option (Except String StopReport))
  | .stop => do
    let result ← LuxMon.stop d false
    return some result
  | .tick => LuxMon.tick d

theorem stopper_wrote {d : Dongle} (q : Stopper) :
    Ensures anyStep () (q.prog d) fun tr out _ => ∀ rep, out = .ok (some (.ok rep)) →
      ∃ s, s.active = false ∧ Wrote tr false 0 s := by
  cases q with
  | stop =>
    refine stop_wrote.bind (fun t result m h => ?_) fun t x m h => by rintro _ ⟨⟩
    refine (ensures_pure _).mpr fun rep hrep => ?_
    rw [List.append_nil]
    exact h rep (by rw [Option.some.inj (Except.ok.inj hrep)])
  | tick => exact tick_wrote

/-- Interleave `start` with an operation that stops, and let both report success. -/
theorem start_stop_agree_iff (d : Dongle) (minutes : Option ℤ) (q : Stopper) (w w' : World)
    (tr : ParTrace Op Op.Answer) (started : StartReport) (stopped : StopReport)
    (hrun : ParRun (World.step .reliable) w (start d minutes false) (q.prog d) tr w'
      (.ok (.ok started)) (.ok (some (.ok stopped)))) : Agree w' ↔ OneLast tr := by
  obtain ⟨hl, hr, hs⟩ := (parRun_iff _ _ _ _ _ _ _ _).mp hrun
  obtain ⟨n, s, h1, h2, hact, hw⟩ := start_wrote minutes _ _ () hl (steps_anyStep _) _ rfl
  obtain ⟨s₀, hinact, hw₀⟩ := stopper_wrote q _ _ () hr (steps_anyStep _) _ rfl
  exact agree_iff ⟨h1, h2⟩ hact hinact hw hw₀ hs

/-- A 60-minute start against a stop. -/
def raceStop (sched : List Side) :=
  execPar World.answer sched idleWorld (start idleDongle (some 60) false)
    (Stopper.stop.prog idleDongle)

theorem raceStop_parRun (sched : List Side)
    (hl : (raceStop sched).2.2.1.returns Except.isOk = true)
    (hr : (raceStop sched).2.2.2.returns (fun r => r.any Except.isOk) = true) :
    ∃ started stopped, ParRun (World.step .reliable) idleWorld (start idleDongle (some 60) false)
      (Stopper.stop.prog idleDongle) (raceStop sched).1 (raceStop sched).2.1
      (.ok (.ok started)) (.ok (some (.ok stopped))) := by
  obtain ⟨a, ha, haok⟩ := Prog.returns_iff.mp hl
  obtain ⟨b, hb, hbok⟩ := Prog.returns_iff.mp hr
  match a, haok, b, hbok with
  | .ok started, _, some (.ok stopped), _ =>
    exact ⟨started, stopped, execPar_spec _ _ World.answer_step sched _ _ _ _ _ ha hb⟩

/-- One operation after the other agrees. -/
theorem start_then_stop_agree :
    Agree (raceStop (List.replicate 9 .left ++ List.replicate 8 .right)).2.1 := by
  obtain ⟨started, stopped, h⟩ := raceStop_parRun
    (List.replicate 9 .left ++ List.replicate 8 .right) (by decide +kernel) (by decide +kernel)
  exact (start_stop_agree_iff _ _ .stop _ _ _ _ _ h).mpr (Or.inr (by decide +kernel))

/-- A stop that runs before the last step of a start: both report success, the
state says active and the bit is clear. -/
theorem start_stop_disagree :
    ∃ tr w' started stopped,
      ParRun (World.step .reliable) idleWorld (start idleDongle (some 60) false)
        (Stopper.stop.prog idleDongle) tr w' (.ok (.ok started)) (.ok (some (.ok stopped))) ∧
      ¬ Agree w' := by
  let sched := List.replicate 8 Side.left ++ List.replicate 8 .right ++ [.left]
  obtain ⟨started, stopped, h⟩ := raceStop_parRun sched (by decide +kernel) (by decide +kernel)
  refine ⟨_, _, started, stopped, h, fun hagree => ?_⟩
  have hactive : (raceStop sched).2.1.qcActive = true := by decide +kernel
  exact absurd (hagree.1.mp hactive) (by decide +kernel)

end LuxMon
