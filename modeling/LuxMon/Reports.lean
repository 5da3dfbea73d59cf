import LuxMon.Api.Holding
import LuxMon.Automation.Write
import LuxMon.Dongle.Silent
import LuxMon.QuickCharge.StartStop

/-!
# What a report of success is worth

A dongle may echo a write without applying it; that is why writes are read back.
The block write and the duration of a quick charge are not.  An operation that
reports success has set all it was asked for exactly when the write that it does
not check was applied, or changed nothing.

    every goal holds ↔ the unchecked write was applied, or its goals held before    (report_sound_iff)
-/

namespace LuxMon

open Python Effects Prog World

/-- What an operation is asked to bring about. -/
inductive Goal
  | value (reg : Nat) (raw : ℤ)
  | enableBit (enable : Bool)
  deriving DecidableEq

def Goal.Holds (w : World) : Goal → Prop
  | .value reg raw => ((w.regs reg).toNat : ℤ) = raw
  | .enableBit enable => w.qcBit = enable

/-- The operations that report success. -/
inductive Operation
  | put (name : String) (body : HoldingUpdate)
  | multi (startName : String) (body : HoldingMultiUpdate)
  | automation (d : Dongle) (job : WriteJob) (value : PyFloat) (dryRun : Bool)
  | start (d : Dongle) (minutes : Option ℤ)
  | stop (d : Dongle)

/-- `tr` is the trace of a run that reports success. -/
def Operation.Reports (tr : List Ev) : Operation → Prop
  | .put name body => ∃ rep, (apiHoldingPut name body).Run tr (.ok rep)
  | .multi startName body => ∃ rep, (apiHoldingMultiWrite startName body).Run tr (.ok rep)
  | .automation d job value dryRun =>
    (∃ out, (doWrite d job value dryRun).Run tr out) ∧ reported tr = true
  | .start d minutes => ∃ rep, (LuxMon.start d minutes false).Run tr (.ok (.ok rep))
  | .stop d => ∃ rep, (LuxMon.stop d false).Run tr (.ok (.ok rep))

/-- Contiguous registers. -/
def blockGoals (start : Nat) (values : List ℤ) : List Goal :=
  (List.range values.length).map fun i => .value (start + i) (values.getD i 0)

/-- The goals whose write is read back. -/
def Operation.checked : Operation → Option (List Goal)
  | .put name body => do
    let reg ← holdingByName name
    let info ← holdingRegister reg
    let raw ← (requestedRaw name info body).toOption
    return [.value reg raw]
  | .multi _ _ => some []
  | .automation _ job value _ => (writePlan job.setting value).map fun p => [.value p.reg p.raw]
  | .start _ _ => some [.enableBit true]
  | .stop _ => some [.enableBit false]

/-- The goals whose write counts as done when it is echoed. -/
def Operation.unchecked (w : World) : Operation → Option (List Goal)
  | .multi startName body => (holdingByName startName).map fun reg => blockGoals reg body.values
  | .start _ minutes =>
    (w.minutesAsked minutes).toOption.map fun n => [.value qcDurationReg (clampMinutes n)]
  | .stop _ => some [.value qcDurationReg 0]
  | _ => some []

/-- The number of the write that is not checked. -/
def Operation.uncheckedWrite (w : World) : Operation → Nat
  | .stop _ => w.writes + 1
  | _ => w.writes

/-! ## Settings do not touch the inverter -/

/-- Reading a setting or the environment. -/
def Op.looksUp : Op → Bool
  | .getSetting _ => true
  | .getenv _ => true
  | _ => false

section
variable {pol : Policy} {w : World}

theorem looksUp_keeps {α : Type} {p : Py α} (h : p.Asks fun op => op.looksUp = true) :
    Ensures (step pol) w p fun _ _ w' => w' = w := by
  refine Ensures.frame h (· = w) ?_ rfl
  rintro ⟨op, a⟩ x y hop rfl hstep
  cases op with
  | getSetting n => exact hstep.1
  | getenv n => exact hstep.1
  | _ => cases hop

theorem requireDongle_looksUp : requireDongle.Asks fun op => op.looksUp = true := by
  refine asks_bind (resolveDongle_asks (fun _ _ => rfl) fun _ => rfl) fun dongle => ?_
  split
  · exact asks_ofExcept _
  · trivial

theorem resolveModelApi_looksUp : resolveModelApi.Asks fun op => op.looksUp = true := by
  unfold resolveModelApi
  rw [perform_bind]
  refine ⟨rfl, fun value => ?_⟩
  dsimp only
  split
  · trivial
  · exact asks_bind ⟨rfl, fun _ => trivial⟩ fun _ => trivial

/-! ## The endpoints -/

/-- After the retries the register is read back. -/
theorem putVerified_spec {d : Dongle} (name : String) {reg : Nat} (hreg : reg ≤ 0xFFFF) (raw : ℤ) :
    Ensures (step pol) w (putVerified d name reg raw) fun _ out w' =>
      ∀ rep, out = .ok rep → (Goal.value reg raw).Holds w' := by
  unfold putVerified
  refine Ensures.trivial.bind ?_ fun t x m _ => by rintro _ ⟨⟩
  intro t res m _
  match res with
  | .error msg => exact (ensures_ofExcept _).mpr fun _ h => by cases h
  | .ok msg =>
    refine (readBack_spec hreg 4).bind ?_ fun t x m h => by rintro _ ⟨⟩
    rintro t verified m ⟨rfl, hback⟩
    split
    · next hv => exact (ensures_pure _).mpr fun _ _ => hback (by rw [hv])
    · exact (ensures_ofExcept _).mpr fun _ h => by cases h

theorem apiHoldingPut_spec (name : String) (body : HoldingUpdate) :
    Ensures (step pol) w (apiHoldingPut name body) fun _ out w' => ∀ rep, out = .ok rep →
      ∃ goals, (Operation.put name body).checked = some goals ∧ ∀ g ∈ goals, g.Holds w' := by
  unfold apiHoldingPut
  split
  · exact (ensures_ofExcept _).mpr fun _ h => by cases h
  · next reg hreg =>
    refine (looksUp_keeps resolveModelApi_looksUp).bind ?_ fun t x m h => by rintro _ ⟨⟩
    intro t model m _
    split
    · exact (ensures_ofExcept _).mpr fun _ h => by cases h
    · unfold registerInfo
      cases hinfo : holdingRegister reg with
      | none => exact (ensures_raise _).mpr fun _ h => by cases h
      | some info =>
        rw [ofExcept_ok_bind]
        cases hraw : requestedRaw name info body with
        | error x => exact (ensures_raise _).mpr fun _ h => by cases h
        | ok raw =>
          rw [ofExcept_ok_bind]
          refine (looksUp_keeps requireDongle_looksUp).bind ?_ fun t x m h => by rintro _ ⟨⟩
          intro t d m _
          refine (putVerified_spec name (holdingByName_le hreg) raw).mono fun u out w' h rep hrep => ?_
          refine ⟨[.value reg raw], ?_, by simpa using h rep hrep⟩
          simp [Operation.checked, hreg, hinfo, hraw, Except.toOption]

/-- A block that is written holds. -/
theorem blockGoals_setRegs (start : Nat) (body : HoldingMultiUpdate) :
    ∀ g ∈ blockGoals start body.values, g.Holds (w.setRegs start body.values) := by
  intro g hg
  obtain ⟨i, hi, rfl⟩ := List.mem_map.mp hg
  have hlt := List.mem_range.mp hi
  obtain ⟨h0, h1⟩ := body.range (body.values.getD i 0) (by
    simp [List.getD_eq_getElem?_getD, hlt])
  simp only [Goal.Holds, setRegs, Nat.add_sub_cancel_left]
  rw [if_pos (by omega)]
  simp only [Nat.toUInt16_eq, UInt16.toNat_ofNat']
  omega

theorem apiHoldingMultiWrite_spec (applies : Nat → Bool) (startName : String)
    (body : HoldingMultiUpdate) :
    Ensures (step (.silent applies)) w (apiHoldingMultiWrite startName body) fun _ out w' =>
      ∀ rep, out = .ok rep → ∃ goals, (Operation.multi startName body).unchecked w = some goals ∧
        ((∀ g ∈ goals, g.Holds w') ↔ applies w.writes = true ∨ ∀ g ∈ goals, g.Holds w) := by
  unfold apiHoldingMultiWrite
  split
  · exact (ensures_ofExcept _).mpr fun _ h => by cases h
  · next reg hreg =>
    refine (looksUp_keeps resolveModelApi_looksUp).bind ?_ fun t x m h => by rintro _ ⟨⟩
    rintro t model w rfl
    split
    · exact (ensures_ofExcept _).mpr fun _ h => by cases h
    · cases checkBlock model reg body.values with
      | error x => exact (ensures_raise _).mpr fun _ h => by cases h
      | ok u =>
        rw [ofExcept_ok_bind]
        refine (looksUp_keeps requireDongle_looksUp).bind ?_ fun t x m h => by rintro _ ⟨⟩
        rintro t d w rfl
        refine (writeHoldingRegisters_spec reg body.values).bind ?_ fun t x m h => by rintro _ ⟨⟩
        intro t res w' hw
        match res, hw with
        | .error msg, _ => exact (ensures_ofExcept _).mpr fun _ h => by cases h
        | .ok msg, hw =>
          obtain ⟨applied, rfl, rfl⟩ := hw rfl
          refine (ensures_pure _).mpr fun rep _ => ⟨blockGoals reg body.values, ?_, ?_⟩
          · simp [Operation.unchecked, hreg]
          · cases happ : applies w.writes with
            | true => exact iff_of_true (blockGoals_setRegs reg body) (Or.inl rfl)
            | false => exact (or_iff_right Bool.false_ne_true).symm

/-! ## Quick charge -/

variable {d : Dongle}

/-- The enable bit is read back; the duration register is left alone. -/
theorem startEnable_spec (minutes durRaw : ℤ) :
    Ensures (step pol) w (startEnable d minutes durRaw) fun _ out w' => ∀ rep, out = .ok (.ok rep) →
      w'.qcBit = true ∧ w'.regs qcDurationReg = w.regs qcDurationReg := by
  unfold startEnable
  refine (setEnableBit_spec true).bind ?_ fun t x m h => by rintro _ ⟨⟩
  intro t res m hdone
  match res, hdone with
  | .error msg, _ =>
    refine (logQc_spec _ _ _ _ _).bind ?_ fun t x m h => by rintro _ ⟨⟩
    exact fun _ _ _ _ => (ensures_pure _).mpr fun _ h => by cases h
  | .ok (msg, new), hdone =>
    have hbit : m.qcBit = true := by rw [World.qcBit, (hdone.success rfl).2, withEnableBit_zero]
    refine (logQc_spec _ _ _ _ _).bind ?_ fun t x m h => by rintro _ ⟨⟩
    rintro u _ m ⟨rfl, -⟩
    rw [perform_bind, ensures_ask]
    rintro now _ rfl
    rw [perform_bind, ensures_ask]
    rintro utc _ rfl
    refine (saveState_spec _).bind ?_ fun t x m h => by rintro _ ⟨⟩
    intro u _ m' hregs
    refine (ensures_pure _).mpr fun _ _ => ?_
    rw [World.qcBit, hregs]
    exact ⟨hbit, hdone.others _ qcRegs_ne.2⟩

theorem start_spec (applies : Nat → Bool) (minutes : Option ℤ) :
    Ensures (step (.silent applies)) w (start d minutes false) fun _ out w' =>
      ∀ rep, out = .ok (.ok rep) → ∃ n, w.minutesAsked minutes = .ok n ∧ w'.qcBit = true ∧
        w'.regs qcDurationReg =
          if applies w.writes then (clampMinutes n).toNat.toUInt16 else w.regs qcDurationReg := by
  rw [start_live]
  refine ((requestedMinutes_spec minutes).and (requestedMinutes_ok minutes)).bind ?_
    fun t x m h => by rintro _ ⟨⟩
  rintro t n m ⟨⟨rfl, -⟩, hn⟩
  unfold startDuration
  refine (writeHoldingRegister_spec (by decide)).bind ?_ fun t x m h => by rintro _ ⟨⟩
  rintro t res m' (⟨-, -, -, e, he⟩ | ⟨-, a, -, -, hw⟩)
  · cases he
  · obtain ⟨-, -, -, applied, rfl, hdur⟩ := writeStep_regs hw
    match res with
    | .error msg =>
      refine (logQc_spec _ _ _ _ _).bind ?_ fun t x m h => by rintro _ ⟨⟩
      exact fun _ _ _ _ => (ensures_pure _).mpr fun _ h => by cases h
    | .ok msg =>
      refine (logQc_spec _ _ _ _ _).bind ?_ fun t x m h => by rintro _ ⟨⟩
      rintro u _ m'' ⟨rfl, -⟩
      refine (startEnable_spec _ _).mono fun u out w' h rep hrep => ?_
      obtain ⟨hbit, hsame⟩ := h rep hrep
      exact ⟨n, hn n rfl, hbit, hsame.trans hdur⟩

theorem stop_spec (applies : Nat → Bool) :
    Ensures (step (.silent applies)) w (stop d false) fun _ out w' => ∀ rep, out = .ok (.ok rep) →
      w'.qcBit = false ∧ w'.regs qcDurationReg =
        if applies (w.writes + 1) then (0 : ℤ).toNat.toUInt16 else w.regs qcDurationReg := by
  unfold stop
  refine loadState_ensures.bind ?_ fun t x m h => by rintro _ ⟨⟩
  rintro t state m ⟨a, -, -, rfl, -⟩
  simp only [Bool.false_eq_true, if_false, stopClear_eq]
  refine (setEnableBit_spec false).bind ?_ fun t x m h => by rintro _ ⟨⟩
  intro t res m' hdone
  cases res with
  | error msg =>
    refine (logQc_spec _ _ _ _ _).bind ?_ fun t x m h => by rintro _ ⟨⟩
    exact fun _ _ _ _ => (ensures_pure _).mpr fun _ h => by cases h
  | ok done =>
    obtain ⟨msg, new⟩ := done
    obtain ⟨hwrites, hreg⟩ := hdone.success rfl
    have hbit : m'.qcBit = false := by rw [World.qcBit, hreg, withEnableBit_zero]
    refine (logQc_spec _ _ _ _ _).bind ?_ fun t x m h => by rintro _ ⟨⟩
    rintro u _ m' ⟨rfl, -⟩
    unfold stopDuration
    refine (writeHoldingRegister_spec (by decide)).bind ?_ fun t x m h => by rintro _ ⟨⟩
    rintro t wres m'' (⟨-, -, -, e, he⟩ | ⟨-, a, -, -, hw⟩)
    · cases he
    · obtain ⟨-, -, hother, applied, rfl, hdur⟩ := writeStep_regs hw
      rw [hwrites, hdone.others _ qcRegs_ne.2] at hdur
      cases wres with
      | error msg =>
        refine (logQc_spec _ _ _ _ _).bind ?_ fun t x m h => by rintro _ ⟨⟩
        exact fun _ _ _ _ => (ensures_pure _).mpr fun _ h => by cases h
      | ok msg =>
        refine (logQc_spec _ _ _ _ _).bind ?_ fun t x m h => by rintro _ ⟨⟩
        rintro u _ m'' ⟨rfl, -⟩
        refine (saveState_spec _).bind ?_ fun t x m h => by rintro _ ⟨⟩
        intro u _ m₄ hregs
        refine (ensures_pure _).mpr fun _ _ => ?_
        rw [World.qcBit, hregs, hother _ qcRegs_ne.1]
        exact ⟨hbit, hdur⟩

/-! ## Every operation -/

/-- A 16-bit value is there when its write was applied, or when it was there before. -/
theorem value_iff {applied : Bool} {x y : UInt16} {v : ℤ} (hv : 0 ≤ v ∧ v ≤ 0xFFFF)
    (h : y = if applied then v.toNat.toUInt16 else x) :
    ((y.toNat : ℤ) = v) ↔ applied = true ∨ (x.toNat : ℤ) = v := by
  subst h
  cases applied with
  | false => simp
  | true =>
    refine iff_of_true ?_ (Or.inl rfl)
    simp only [if_true, Nat.toUInt16_eq, UInt16.toNat_ofNat']
    omega

/-- All goals hold exactly when the unchecked write was applied or its goals held before. -/
theorem report_sound_iff (applies : Nat → Bool) (op : Operation) (w w' : World) (tr : List Ev)
    (h : op.Reports tr) (hs : Steps (step (.silent applies)) w tr w') :
    ∃ checked unchecked, op.checked = some checked ∧ op.unchecked w = some unchecked ∧
      ((∀ g ∈ checked ++ unchecked, g.Holds w') ↔
        applies (op.uncheckedWrite w) = true ∨ ∀ g ∈ unchecked, g.Holds w) := by
  cases op with
  | put name body =>
    obtain ⟨rep, hr⟩ := h
    obtain ⟨goals, hgoals, hall⟩ := apiHoldingPut_spec name body tr _ w' hr hs rep rfl
    exact ⟨goals, [], hgoals, rfl, iff_of_true (by simpa using hall) (Or.inr (by simp))⟩
  | multi startName body =>
    obtain ⟨rep, hr⟩ := h
    obtain ⟨goals, hgoals, hiff⟩ := apiHoldingMultiWrite_spec applies startName body tr _ w' hr hs rep rfl
    exact ⟨[], goals, rfl, hgoals, hiff⟩
  | automation d job value dryRun =>
    obtain ⟨⟨out, hr⟩, hrep⟩ := h
    obtain ⟨p, hp, hval⟩ := doWrite_logged job value dryRun tr out w' hr hs hrep
    refine ⟨[.value p.reg p.raw], [], by simp [Operation.checked, hp], rfl,
      iff_of_true (by simpa [Goal.Holds] using hval) (Or.inr (by simp))⟩
  | start d minutes =>
    obtain ⟨rep, hr⟩ := h
    obtain ⟨n, hn, hbit, hdur⟩ := start_spec applies minutes tr _ w' hr hs rep rfl
    refine ⟨[.enableBit true], [.value qcDurationReg (clampMinutes n)], rfl, ?_, ?_⟩
    · simp [Operation.unchecked, hn, Except.toOption]
    · have := clampMinutes_range n
      simpa [Goal.Holds, hbit, Operation.uncheckedWrite] using value_iff ⟨by omega, by omega⟩ hdur
  | stop d =>
    obtain ⟨rep, hr⟩ := h
    obtain ⟨hbit, hdur⟩ := stop_spec applies tr _ w' hr hs rep rfl
    refine ⟨[.enableBit false], [.value qcDurationReg 0], rfl, rfl, ?_⟩
    have := value_iff (by norm_num) hdur
    simpa [Goal.Holds, hbit, Operation.uncheckedWrite] using this

end

/-! ## An echo without effect -/

/-- A start of 60 minutes on an idle inverter. -/
def silentStart (applies : Nat → Bool) :=
  exec (World.silentAnswer applies) idleWorld (start idleDongle (some 60) false)

theorem silentStart_reports (applies : Nat → Bool)
    (h : (silentStart applies).2.1.toOption.any Except.isOk = true) :
    (Operation.start idleDongle (some 60)).Reports (silentStart applies).1 ∧
      Steps (step (.silent applies)) idleWorld (silentStart applies).1 (silentStart applies).2.2 := by
  obtain ⟨hr, hs⟩ := exec_spec (step (.silent applies)) _ (World.silentAnswer_step applies)
    (start idleDongle (some 60) false) idleWorld
  refine ⟨?_, hs⟩
  match hout : (silentStart applies).2.1, h with
  | .ok (.ok rep), _ => exact ⟨rep, hout ▸ hr⟩

/-- With every write applied, 60 minutes and the bit are set. -/
theorem silentStart_sound :
    ∃ checked unchecked, (Operation.start idleDongle (some 60)).checked = some checked ∧
      (Operation.start idleDongle (some 60)).unchecked idleWorld = some unchecked ∧
      ∀ g ∈ checked ++ unchecked, g.Holds (silentStart fun _ => true).2.2 := by
  obtain ⟨hr, hs⟩ := silentStart_reports (fun _ => true) (by decide +kernel)
  obtain ⟨checked, unchecked, hc, hu, hiff⟩ := report_sound_iff (fun _ => true) _ _ _ _ hr hs
  exact ⟨checked, unchecked, hc, hu, hiff.mpr (Or.inl rfl)⟩

/-- The write of the duration is echoed and not applied: the start reports success, the
bit is set, and the duration is 0. -/
theorem silentStart_unsound :
    (Operation.start idleDongle (some 60)).Reports (silentStart (· != 0)).1 ∧
      Steps (step (.silent (· != 0))) idleWorld (silentStart (· != 0)).1 (silentStart (· != 0)).2.2 ∧
      (Operation.start idleDongle (some 60)).unchecked idleWorld = some [.value qcDurationReg 60] ∧
      ¬ (Goal.value qcDurationReg 60).Holds (silentStart (· != 0)).2.2 := by
  obtain ⟨hr, hs⟩ := silentStart_reports (· != 0) (by decide +kernel)
  refine ⟨hr, hs, by decide +kernel, ?_⟩
  unfold Goal.Holds
  decide +kernel

end LuxMon
