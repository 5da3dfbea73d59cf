import LuxMon.Effects.History
import LuxMon.QuickCharge.StartStop

/-!
# Quick charge never runs untracked

Reads, writes and statements may fail one by one; a register changes exactly when
its write is echoed.  A stop that fails leaves the state marked active, so `tick`
tries again; a start that fails after its duration write leaves the duration
behind and no record of it.

    every state between calls is tracked ↔ no start is disturbed after its duration write
                                                                     (quickCharge_tracked_iff)
-/

namespace LuxMon

open Python Effects Prog World

/-- A register changes exactly when its write is echoed; anything may fail. -/
def Policy.exact : Policy where
  readFails := True
  dbFails := True
  write := fun _ echoed applied => applied = echoed

/-- Persisted as inactive, the duration is 0 and bit 0 is clear. -/
def Tracked (w : World) : Prop :=
  w.qcActive = false → w.regs qcDurationReg = 0 ∧ w.qcBit = false

/-! ## Failures after the duration write -/

/-- An answered read of the enable register. -/
def heard (ev : Ev) : Bool := ev.1.readsReg qcEnableReg && !failed ev

/-- Nothing fails but reads of the enable register that are repeated with success. -/
def steadyTail : List Ev → Bool
  | [] => true
  | ev :: tr => (!failed ev || (ev.1.readsReg qcEnableReg && tr.any heard)) && steadyTail tr

/-- After an echoed write of the duration, nothing else fails. -/
def steady : List Ev → Bool
  | [] => true
  | ev :: tr => if ev.1.writesReg qcDurationReg && !failed ev then steadyTail tr else steady tr

theorem steadyTail_append_true {t u : List Ev} (h : steadyTail t = true) :
    steadyTail (t ++ u) = steadyTail u := by
  induction t with
  | nil => rfl
  | cons ev t ih =>
    simp only [steadyTail, Bool.and_eq_true, Bool.or_eq_true] at h
    rw [List.cons_append, steadyTail, ih h.2]
    rcases h.1 with hf | ⟨hr, ha⟩
    · rw [hf]
      rfl
    · rw [hr, List.any_append, ha]
      simp

theorem steadyTail_append_false {t u : List Ev} (h : steadyTail t = false)
    (hu : ∀ ev ∈ u, ev.1.readsReg qcEnableReg = false) : steadyTail (t ++ u) = false := by
  have hany : u.any heard = false := by
    simp only [List.any_eq_false, heard, Bool.and_eq_true, not_and]
    intro ev hev hr
    rw [hu ev hev] at hr
    cases hr
  induction t with
  | nil => cases h
  | cons ev t ih =>
    rw [steadyTail, Bool.and_eq_false_iff] at h
    rw [List.cons_append, steadyTail, List.any_append, hany, Bool.or_false, Bool.and_eq_false_iff]
    exact h.imp id ih

section
variable {d : Dongle} {w : World}

/-- With the register at the value, the read-back loop succeeds exactly when one of its
reads is answered. -/
theorem readBack_heard {raw : ℤ} (hw : ((w.regs qcEnableReg).toNat : ℤ) = raw) (n : Nat) :
    Ensures (step .exact) w (readBack d qcEnableReg raw n) fun tr out _ =>
      (out = .ok true ∧ steadyTail tr = true ∧ tr.any heard = true) ∨
      (out ≠ .ok true ∧ tr.any heard = false ∧ (0 < n → steadyTail tr = false)) := by
  induction n with
  | zero => exact (ensures_pure _).mpr (Or.inr ⟨by simp, rfl, by simp⟩)
  | succ n ih =>
    unfold readBack
    refine (readHoldingRegister_spec (by decide)).bind ?_ ?_
    · rintro t res m ⟨rfl, hval, a, rfl, hok, -⟩
      cases res with
      | ok read =>
        obtain ⟨v, msg⟩ := read
        have hc : ReadResult.confirms (.ok (v, msg)) raw = true := by
          simp [ReadResult.confirms, hval v msg rfl, hw]
        rw [if_pos hc]
        refine (ensures_pure _).mpr (Or.inl ⟨rfl, ?_, ?_⟩) <;>
          simp [steadyTail, heard, failed, ← hok, succeeded, Op.readsReg]
      | error msg =>
        rw [if_neg (by simp [ReadResult.confirms]), perform_bind, ensures_ask]
        rintro _ _ rfl
        refine ih.mono ?_
        rintro tr out _ (⟨h1, h2, h3⟩ | ⟨h1, h2, -⟩)
        · refine Or.inl ⟨h1, ?_, ?_⟩ <;>
            simp [steadyTail, heard, failed, Op.readsReg, ← hok, succeeded, h2, h3]
        · refine Or.inr ⟨h1, ?_, fun _ => ?_⟩ <;>
            simp [steadyTail, heard, failed, Op.readsReg, ← hok, succeeded, h2]
    · rintro t x m ⟨-, -, a, rfl, hok, -⟩
      refine Or.inr ⟨by simp, ?_, fun _ => ?_⟩ <;>
        simp [steadyTail, heard, failed, ← hok, succeeded]

/-- `setEnableBit` reports success exactly when nothing but repeated reads failed. -/
theorem setEnableBit_steady (enable : Bool) :
    Ensures (step .exact) w (setEnableBit d enable) fun tr out _ => steadyTail tr = succeeded out := by
  have hreg : qcEnableReg ≤ 0xFFFF := by decide
  unfold setEnableBit
  refine (readHoldingRegister_spec hreg).bind ?_ ?_
  · rintro t res m ⟨rfl, hval, a, rfl, hok, -⟩
    cases res with
    | error msg =>
      refine (ensures_pure _).mpr ?_
      simp [steadyTail, failed, ← hok, succeeded]
    | ok read =>
      obtain ⟨cur, rmsg⟩ := read
      obtain rfl := hval cur rmsg rfl
      refine (writeHoldingRegister_spec hreg).bind ?_ ?_
      · rintro t wres m' (⟨-, -, -, e, he⟩ | ⟨-, g, rfl, hgok, hw⟩)
        · cases he
        · cases wres with
          | error msg =>
            refine (ensures_pure _).mpr ?_
            simp [steadyTail, failed, ← hgok, succeeded, Op.readsReg]
          | ok msg =>
            obtain ⟨-, -, -, applied, happ, hset⟩ := writeStep_regs hw
            have happ : applied = answered g := happ
            rw [happ, ← hgok] at hset
            have hreg' : (m'.regs qcEnableReg).toNat = withEnableBit (m.regs qcEnableReg).toNat enable := by
              rw [hset]
              exact toUInt16_withEnableBit _ _
            refine (readBack_heard (by rw [hreg']) 4).bind ?_ ?_
            · rintro t verified m'' (⟨hv, hst, -⟩ | ⟨hv, -, hst⟩)
              · rw [if_pos (Except.ok.inj hv)]
                refine (ensures_pure _).mpr ?_
                simp [steadyTail, failed, ← hgok, ← hok, succeeded, hst]
              · rw [if_neg (fun h => hv (by rw [h]))]
                refine (ensures_pure _).mpr ?_
                simp [steadyTail, failed, ← hgok, ← hok, succeeded, hst]
            · rintro t x m'' (⟨hv, -, -⟩ | ⟨-, -, hst⟩)
              · cases hv
              · simp [steadyTail, failed, ← hgok, ← hok, succeeded, hst]
      · rintro t x m' (⟨hv, -⟩ | ⟨-, g, rfl, hgok, -⟩)
        · have := withEnableBit_lt (m.regs qcEnableReg).toNat_lt enable
          exact absurd ⟨by omega, by omega⟩ hv
        · simp [steadyTail, failed, ← hgok, succeeded, Op.readsReg]
  · rintro t x m ⟨-, -, a, rfl, hok, -⟩
    simp [steadyTail, failed, ← hok, succeeded]

/-! ## One call -/

/-- After the duration write, either the state is saved as active, or something
failed for good and nothing is saved. -/
def TailDone (w : World) (tr : List Ev) (w' : World) : Prop :=
  (steadyTail tr = true ∧ w'.qcActive = true) ∨
  (steadyTail tr = false ∧ w'.documents = w.documents ∧ w'.regs qcDurationReg = w.regs qcDurationReg)

theorem logQc_tail (name : String) (raw scaled : Option ℤ) (success : Bool) (msg : String) :
    Ensures (step .exact) w (logQc name raw scaled success msg) fun tr out w' =>
      w' = w ∧ steadyTail tr = out.isOk ∧ (∀ ev ∈ tr, ev.1.readsReg qcEnableReg = false) ∧
      steady tr = true := by
  refine (logQc_spec _ _ _ _ _).mono ?_
  rintro tr out w' ⟨rfl, row, a, rfl, rfl⟩
  exact ⟨rfl, by simp [steadyTail, failed, Op.readsReg], by simp [Op.readsReg],
    by simp [steady, Op.writesReg]⟩

theorem startEnable_tail (minutes durRaw : ℤ) :
    Ensures (step .exact) w (startEnable d minutes durRaw) fun tr _ w' => TailDone w tr w' := by
  unfold startEnable
  refine ((setEnableBit_spec true).and (setEnableBit_steady true)).bind ?_ ?_
  · rintro t res m ⟨hdone, hst⟩
    have hdur := hdone.others qcDurationReg qcRegs_ne.2
    match res, hst with
    | .error msg, hst =>
      refine (logQc_tail _ _ _ _ _).bind ?_ ?_
      · rintro u - m' ⟨rfl, -, hu, -⟩
        refine (ensures_pure _).mpr (Or.inr ⟨?_, hdone.documents, hdur⟩)
        rw [List.append_nil]
        exact steadyTail_append_false hst hu
      · rintro u x m' ⟨rfl, -, hu, -⟩
        exact Or.inr ⟨steadyTail_append_false hst hu, hdone.documents, hdur⟩
    | .ok (msg, new), hst =>
      refine (logQc_tail _ _ _ _ _).bind ?_ ?_
      · rintro u _ m' ⟨rfl, hu, -⟩
        rw [perform_bind, ensures_ask]
        rintro now _ rfl
        rw [perform_bind, ensures_ask]
        rintro utc _ rfl
        refine (saveState_ensures _).bind ?_ ?_
        · rintro u' _ m' ⟨a, rfl, ha, hs⟩
          refine (ensures_pure _).mpr (Or.inl ⟨?_, ?_⟩)
          · rw [steadyTail_append_true hst, steadyTail_append_true hu]
            simp [steadyTail, failed, ← ha, Except.isOk, Except.toBool]
          · rcases hs with ⟨-, rfl⟩ | ⟨-, ⟨e, rfl⟩, -⟩
            · simp [World.qcActive]
            · cases ha
        · rintro u' x m' ⟨a, rfl, rfl, hs⟩
          rcases hs with ⟨h, -⟩ | ⟨-, -, rfl⟩
          · cases h
          · refine Or.inr ⟨?_, hdone.documents, hdur⟩
            rw [steadyTail_append_true hst, steadyTail_append_true hu]
            simp [steadyTail, failed, Except.isOk, Except.toBool]
      · rintro u x m' ⟨rfl, hu, -⟩
        refine Or.inr ⟨?_, hdone.documents, hdur⟩
        rw [steadyTail_append_true hst, hu]
        rfl
  · rintro t x m ⟨hdone, hst⟩
    exact Or.inr ⟨hst, hdone.documents, hdone.others _ qcRegs_ne.2⟩

/-- The duration write is applied exactly when it is echoed. -/
theorem writeDuration_exact {n : ℤ} (hn : 0 ≤ n ∧ n ≤ 1440) :
    Ensures (step .exact) w (writeHoldingRegister d qcDurationReg n) fun tr out w' =>
      ∃ a, tr = [⟨.transact d (.writeSingle qcDurationReg n), a⟩] ∧ succeeded out = answered a ∧
        w'.documents = w.documents ∧ w'.regs qcEnableReg = w.regs qcEnableReg ∧
        w'.regs qcDurationReg = if answered a then n.toNat.toUInt16 else w.regs qcDurationReg := by
  refine (writeHoldingRegister_spec (by decide)).mono ?_
  rintro tr out w' (⟨hv, -⟩ | ⟨-, a, rfl, hok, hw⟩)
  · exact absurd ⟨by omega, by omega⟩ hv
  · obtain ⟨hdoc, -, hother, applied, happ, hreg⟩ := writeStep_regs hw
    have happ : applied = answered a := happ
    rw [happ] at hreg
    exact ⟨a, rfl, hok, hdoc, hother _ qcRegs_ne.1, hreg⟩

theorem tracked_congr {w' : World} (hdoc : w'.documents = w.documents)
    (hdur : w'.regs qcDurationReg = w.regs qcDurationReg)
    (henable : w'.regs qcEnableReg = w.regs qcEnableReg) : Tracked w' ↔ Tracked w := by
  unfold Tracked World.qcActive World.qcBit
  rw [hdoc, hdur, henable]

/-- Once the duration is written, only the saved state makes it tracked. -/
theorem tailDone_tracked {m w' : World} {n : ℤ} {tr : List Ev} (hn : 1 ≤ n ∧ n ≤ 1440)
    (hdoc : m.documents = w.documents) (hdur : m.regs qcDurationReg = n.toNat.toUInt16)
    (h : TailDone m tr w') : Tracked w' ↔ (w.qcActive = false → steadyTail tr = true) := by
  rcases h with ⟨hst, hact⟩ | ⟨hst, hdoc', hdur'⟩
  · simp [Tracked, hst, hact]
  · have hact : w'.qcActive = w.qcActive := by
      unfold World.qcActive
      rw [hdoc', hdoc]
    have hne : n.toNat.toUInt16 ≠ 0 := by
      intro h0
      have := congrArg UInt16.toNat h0
      simp only [Nat.toUInt16_eq, UInt16.toNat_ofNat', UInt16.toNat_zero] at this
      omega
    simp [Tracked, hst, hact, hdur', hdur, hne]

theorem startDuration_tracked {n : ℤ} (hw : Tracked w) (hn : 1 ≤ n ∧ n ≤ 1440) :
    Ensures (step .exact) w (startDuration d n n) fun tr _ w' =>
      Tracked w' ↔ (w.qcActive = false → steady tr = true) := by
  unfold startDuration
  refine (writeDuration_exact ⟨by omega, hn.2⟩).bind ?_ ?_
  · rintro t res m ⟨a, rfl, hok, hdoc, henable, hdur⟩
    match res, hok with
    | .error msg, hok =>
      -- not echoed, so not applied
      rw [← hok] at hdur
      refine (logQc_tail _ _ _ _ _).bind ?_ ?_
      · rintro u _ m' ⟨rfl, -, -, hu⟩
        refine (ensures_pure _).mpr ?_
        simp [tracked_congr hdoc hdur henable, hw, steady, failed, ← hok, succeeded, hu]
      · rintro u x m' ⟨rfl, -, -, hu⟩
        simp [tracked_congr hdoc hdur henable, hw, steady, failed, ← hok, succeeded, hu]
    | .ok msg, hok =>
      rw [← hok] at hdur
      have hecho : ∀ u, steady (⟨.transact d (.writeSingle qcDurationReg n), a⟩ :: u) = steadyTail u := by
        simp [steady, Op.writesReg, failed, ← hok, succeeded]
      refine (logQc_tail _ _ _ _ _).bind ?_ ?_
      · rintro u _ m' ⟨rfl, hu, -⟩
        refine (startEnable_tail n n).mono ?_
        intro tr _ w' htail
        rw [List.singleton_append, hecho, steadyTail_append_true hu]
        exact tailDone_tracked hn hdoc hdur htail
      · rintro u x m' ⟨rfl, hu, -⟩
        rw [List.singleton_append, hecho]
        exact tailDone_tracked hn hdoc hdur (Or.inr ⟨hu, rfl, rfl⟩)
  · rintro t x m ⟨a, rfl, hok, hdoc, henable, hdur⟩
    rw [← hok] at hdur
    simp [tracked_congr hdoc hdur henable, hw, steady, failed, ← hok, succeeded]

/-- Reading settings is no duration write. -/
theorem steady_settings {t u : List Ev} (h : ∀ ev ∈ t, ev.1 = .getSetting qcMinutesKey) :
    steady (t ++ u) = steady u := by
  induction t with
  | nil => rfl
  | cons ev t ih =>
    rw [List.cons_append, steady, h ev List.mem_cons_self]
    exact ih fun e he => h e (List.mem_cons_of_mem _ he)

/-- A start from a tracked state, inactive before: the result is tracked exactly when
nothing failed for good after the duration write. -/
theorem start_tracked (minutes : Option ℤ) (hw : Tracked w) :
    Ensures (step .exact) w (start d minutes false) fun tr _ w' =>
      Tracked w' ↔ (w.qcActive = false → steady tr = true) := by
  rw [start_live]
  refine (requestedMinutes_spec minutes).bind ?_ ?_
  · rintro t requested m ⟨rfl, hq⟩
    simp only [steady_settings hq]
    exact startDuration_tracked hw (clampMinutes_range requested)
  · rintro t x m ⟨rfl, hq⟩
    rw [← List.append_nil t, steady_settings hq]
    simp [hw, steady]

/-- The state is the same, the bit and the duration are the same or cleared. -/
structure Lowered (w w' : World) : Prop where
  documents : w'.documents = w.documents
  bit : w.qcBit = false → w'.qcBit = false
  duration : w.regs qcDurationReg = 0 → w'.regs qcDurationReg = 0

theorem Lowered.tracked {w' : World} (h : Lowered w w') (hw : Tracked w) : Tracked w' := by
  intro hact
  have hact' : w.qcActive = false := by
    rw [← hact, World.qcActive, World.qcActive, h.documents]
  exact ⟨h.duration (hw hact').1, h.bit (hw hact').2⟩

theorem lowered_setEnableBit {w' : World} {out : Except PyErr (Except String (String × Nat))}
    (h : EnableBitDone w false out w') : Lowered w w' := by
  refine ⟨h.documents, fun hbit => ?_, fun hdur => by rw [h.others _ qcRegs_ne.2, hdur]⟩
  unfold World.qcBit at hbit ⊢
  rcases h.enableReg with heq | hclear
  · rw [heq, hbit]
  · rw [hclear, withEnableBit_zero]

theorem stopDuration_tracked (state : QuickChargeState) (hw : Tracked w) (hbit : w.qcBit = false) :
    Ensures (step .exact) w (stopDuration d state 0) fun _ _ w' => Tracked w' := by
  have hlow : ∀ {m : World} {echoed : Bool}, m.documents = w.documents →
      m.regs qcEnableReg = w.regs qcEnableReg →
      m.regs qcDurationReg = (if echoed then (0 : ℤ).toNat.toUInt16 else w.regs qcDurationReg) →
      Lowered w m := fun hdoc henable hdur => by
    refine ⟨hdoc, fun h => by rw [← h, World.qcBit, World.qcBit, henable], fun h => ?_⟩
    rw [hdur, h]
    split <;> rfl
  unfold stopDuration
  refine (writeDuration_exact (by norm_num)).bind ?_ ?_
  · rintro t res m ⟨a, -, hok, hdoc, henable, hdur⟩
    have hm : Tracked m := (hlow hdoc henable hdur).tracked hw
    cases res with
    | error msg =>
      refine (logQc_tail _ _ _ _ _).bind ?_ ?_
      · rintro u _ m' ⟨rfl, -⟩
        exact (ensures_pure _).mpr hm
      · rintro u x m' ⟨rfl, -⟩
        exact hm
    | ok msg =>
      rw [← hok] at hdur
      refine (logQc_tail _ _ _ _ _).bind ?_ ?_
      · rintro u _ m' ⟨rfl, -⟩
        refine (saveState_ensures _).bind ?_ ?_
        · rintro u' _ m'' ⟨b, -, -, ⟨-, rfl⟩ | ⟨-, -, rfl⟩⟩
          · refine (ensures_pure _).mpr fun _ => ⟨hdur, ?_⟩
            rw [← hbit, World.qcBit, World.qcBit, ← henable]
          · exact (ensures_pure _).mpr hm
        · rintro u' x m'' ⟨b, -, rfl, ⟨h, -⟩ | ⟨-, -, rfl⟩⟩
          · cases h
          · exact hm
      · rintro u x m' ⟨rfl, -⟩
        exact hm
  · rintro t x m ⟨a, -, -, hdoc, henable, hdur⟩
    exact (hlow hdoc henable hdur).tracked hw

/-- A stop keeps the invariant, wherever it fails. -/
theorem stop_tracked (hw : Tracked w) :
    Ensures (step .exact) w (stop d false) fun _ _ w' => Tracked w' := by
  unfold stop
  refine loadState_ensures.bind ?_ ?_
  · rintro t state m ⟨a, -, -, rfl, -⟩
    simp only [Bool.false_eq_true, if_false, stopClear_eq]
    refine (setEnableBit_spec false).bind ?_ ?_
    · intro t res m' hdone
      have hm : Tracked m' := (lowered_setEnableBit hdone).tracked hw
      match res, hdone with
      | .error msg, _ =>
        refine (logQc_tail _ _ _ _ _).bind ?_ ?_
        · rintro u _ m'' ⟨rfl, -⟩
          exact (ensures_pure _).mpr hm
        · rintro u x m'' ⟨rfl, -⟩
          exact hm
      | .ok (msg, new), hdone =>
        have hbit : m'.qcBit = false := by
          rw [World.qcBit, (hdone.success rfl).2, withEnableBit_zero]
        refine (logQc_tail _ _ _ _ _).bind ?_ ?_
        · rintro u _ m'' ⟨rfl, -⟩
          exact stopDuration_tracked state hm hbit
        · rintro u x m'' ⟨rfl, -⟩
          exact hm
    · intro t x m' hdone
      exact (lowered_setEnableBit hdone).tracked hw
  · rintro t x m ⟨a, -, -, rfl, -⟩
    exact hw

theorem tick_tracked (hw : Tracked w) :
    Ensures (step .exact) w (tick d) fun _ _ w' => Tracked w' := by
  unfold tick
  refine loadState_ensures.bind ?_ ?_
  · rintro t state m ⟨a, -, -, rfl, -⟩
    split
    · exact (ensures_pure _).mpr hw
    · rw [perform_bind, ensures_ask]
      rintro now _ rfl
      split
      · exact (ensures_pure _).mpr hw
      · refine (stop_tracked hw).bind ?_ fun t x m h => h
        intro t result m hm
        match result with
        | .error msg => exact (ensures_pure _).mpr hm
        | .ok rep =>
          refine (logQc_tail _ _ _ _ _).bind ?_ ?_
          · rintro u _ m' ⟨rfl, -⟩
            exact (ensures_pure _).mpr hm
          · rintro u x m' ⟨rfl, -⟩
            exact hm
  · rintro t x m ⟨a, -, -, rfl, -⟩
    exact hw

end

/-! ## Runs of calls -/

/-- The live operations. -/
inductive QcCall
  | start (minutes : Option ℤ)
  | stop
  | tick

/-- `tr` is the trace of one complete call. -/
def QcCall.Ran (d : Dongle) (tr : List Ev) : QcCall → Prop
  | .start minutes => ∃ out, (LuxMon.start d minutes false).Run tr out
  | .stop => ∃ out, (LuxMon.stop d false).Run tr out
  | .tick => ∃ out, (LuxMon.tick d).Run tr out

/-- One call of a run, with the states around it. -/
structure CallRecord where
  call : QcCall
  before : World
  trace : List Ev
  after : World

/-- If it is a start from the inactive state, nothing fails after its duration write is
echoed, but reads of the enable register that are repeated with success. -/
def CallRecord.Undisturbed (r : CallRecord) : Prop :=
  match r.call with
  | .start _ => r.before.qcActive = false → steady r.trace = true
  | _ => True

/-- Calls one after the other, from a state on. -/
abbrev QcRun (d : Dongle) : World → List CallRecord → Prop :=
  Runs (fun r => r.call.Ran d r.trace ∧ Steps (step .exact) r.before r.trace r.after)
    CallRecord.before CallRecord.after

/-- One call from a tracked state. -/
theorem call_tracked_iff {d : Dongle} {r : CallRecord} (hw : Tracked r.before)
    (hran : r.call.Ran d r.trace) (hs : Steps (step .exact) r.before r.trace r.after) :
    Tracked r.after ↔ r.Undisturbed := by
  obtain ⟨call, w, tr, w'⟩ := r
  cases call with
  | start minutes =>
    obtain ⟨out, hr⟩ := hran
    exact start_tracked minutes hw tr out w' hr hs
  | stop =>
    obtain ⟨out, hr⟩ := hran
    exact iff_of_true (stop_tracked hw tr out w' hr hs) trivial
  | tick =>
    obtain ⟨out, hr⟩ := hran
    exact iff_of_true (tick_tracked hw tr out w' hr hs) trivial

theorem run_tracked_iff {d : Dongle} {w : World} {rs : List CallRecord} (hw : Tracked w)
    (hrun : QcRun d w rs) : (∀ r ∈ rs, Tracked r.after) ↔ ∀ r ∈ rs, r.Undisturbed := by
  induction rs generalizing w with
  | nil => simp
  | cons r rs ih =>
    obtain ⟨rfl, ⟨hran, hs⟩, hrest⟩ := hrun
    have hcall := call_tracked_iff hw hran hs
    simp only [List.forall_mem_cons]
    constructor
    · rintro ⟨hr, hrs⟩
      exact ⟨hcall.mp hr, (ih hr hrest).mp hrs⟩
    · rintro ⟨hr, hrs⟩
      exact ⟨hcall.mpr hr, (ih (hcall.mpr hr) hrest).mpr hrs⟩

/-- From an idle inverter, every state between calls is tracked exactly when no call
is disturbed. -/
theorem quickCharge_tracked_iff (d : Dongle) (w : World) (rs : List CallRecord)
    (hidle : w.qcActive = false ∧ w.qcBit = false ∧ w.regs qcDurationReg = 0) (hrun : QcRun d w rs) :
    (∀ r ∈ rs, Tracked r.after) ↔ ∀ r ∈ rs, r.Undisturbed :=
  run_tracked_iff (fun _ => ⟨hidle.2.2, hidle.2.1⟩) hrun

/-! ## One read that is not answered -/

/-- The reliable dongle, but reads stay unanswered. -/
def World.deafAnswer (w : World) (op : Op) : Op.Answer op × World :=
  match op with
  | .transact _ (.readHoldOne _) => (.ok none, w)
  | op => w.answer op

theorem step_exact_of_reliable {w w' : World} {ev : Ev} (h : step .reliable w ev w') :
    step .exact w ev w' :=
  step_mono False.elim False.elim
    (fun _ _ _ (hw : _ = true ∧ _ = true) => hw.2.trans hw.1.symm) h

theorem World.deafAnswer_step (w : World) (op : Op) :
    step .exact w ⟨op, (w.deafAnswer op).1⟩ (w.deafAnswer op).2 := by
  unfold World.deafAnswer
  split
  · exact ⟨rfl, fun _ => trivial, fun f h => by cases h⟩
  · exact step_exact_of_reliable (w.answer_step _)

/-- A start of 60 minutes against an environment function. -/
def startRecord (ans : World → (op : Op) → Op.Answer op × World) : CallRecord :=
  let run := exec ans idleWorld (start idleDongle (some 60) false)
  { call := .start (some 60), before := idleWorld, trace := run.1, after := run.2.2 }

theorem startRecord_run (ans : World → (op : Op) → Op.Answer op × World)
    (hans : ∀ w op, step .exact w ⟨op, (ans w op).1⟩ (ans w op).2) :
    QcRun idleDongle idleWorld [startRecord ans] := by
  obtain ⟨hr, hs⟩ := exec_spec (step .exact) ans hans (start idleDongle (some 60) false) idleWorld
  exact ⟨rfl, ⟨⟨_, hr⟩, hs⟩, trivial⟩

theorem idleWorld_idle : idleWorld.qcActive = false ∧ idleWorld.qcBit = false ∧
    idleWorld.regs qcDurationReg = 0 := by
  decide +kernel

theorem startRecord_tracked : Tracked (startRecord World.answer).after := by
  have hsteady : ∀ r ∈ [startRecord World.answer], r.Undisturbed := by
    intro r hr
    rw [List.mem_singleton.mp hr]
    exact fun _ => by decide +kernel
  have hrun := startRecord_run _ fun w op => step_exact_of_reliable (w.answer_step op)
  exact (quickCharge_tracked_iff idleDongle idleWorld _ idleWorld_idle hrun).mpr hsteady _
    (List.mem_singleton_self _)

/-- The read of the enable register fails after the duration is written: 60 minutes
stay in the inverter, and the state says inactive. -/
theorem startRecord_untracked :
    ∃ r, QcRun idleDongle idleWorld [r] ∧
      (idleWorld.qcActive = false ∧ idleWorld.qcBit = false ∧ idleWorld.regs qcDurationReg = 0) ∧
      r.after.qcActive = false ∧ r.after.regs qcDurationReg = 60 ∧ ¬ Tracked r.after := by
  have hact : (startRecord World.deafAnswer).after.qcActive = false := by decide +kernel
  have hdur : (startRecord World.deafAnswer).after.regs qcDurationReg = 60 := by decide +kernel
  refine ⟨_, startRecord_run _ World.deafAnswer_step, idleWorld_idle, hact, hdur, fun h => ?_⟩
  have hzero := (h hact).1
  rw [hdur] at hzero
  exact absurd hzero (by decide)

end LuxMon
