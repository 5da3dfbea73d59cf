import LuxMon.Automation.Engine
import LuxMon.Dongle.Inverter

/-!
# What `_do_write` does

The register and the raw value follow from the setting and the value alone
(`writePlan`).  `doWrite` either starts no transaction or, live and on a model that
has the register, reads, compares, writes and reads back (`doWrite_run`).

    a write that is logged as a success holds on the inverter        (doWrite_logged)
-/

namespace LuxMon

open Python Effects Prog World

/-- Without transactions. -/
def Quiet (tr : List Ev) : Prop := ∀ ev ∈ tr, ev.1.quiet = true

/-- The log row of a live write that succeeded. -/
@[simp] def Op.reportsWrite : Op → Bool
  | .insertLog row => row.success && !row.dryRun
  | _ => false

/-- Without transactions and without a report of a write. -/
def Idle (tr : List Ev) : Prop := ∀ ev ∈ tr, ev.1.quiet = true ∧ ev.1.reportsWrite = false

theorem Idle.quiet {tr : List Ev} (h : Idle tr) : Quiet tr := fun ev hev => (h ev hev).1

theorem quiet_nil : Quiet [] := fun _ h => by cases h

theorem idle_nil : Idle [] := fun _ h => by cases h

theorem Quiet.append {t u : List Ev} (ht : Quiet t) (hu : Quiet u) : Quiet (t ++ u) := fun ev hev =>
  (List.mem_append.mp hev).elim (ht ev) (hu ev)

/-- What a value for a setting comes to. -/
structure WritePlan where
  regName : String
  reg : Nat
  info : HoldingRegister
  raw : ℤ
  deriving DecidableEq

/-- The plan for a register: clamp, then convert. -/
def registerPlan (regName : String) (reg : Nat) (value : PyFloat) : Option WritePlan :=
  match holdingRegister reg with
  | some info =>
    (engineeringToRaw (clampToRegister value info) info).map fun raw =>
      { regName := regName, reg := reg, info := info, raw := raw }
  | none => none

def writePlan (setting : Json) (value : PyFloat) : Option WritePlan :=
  match settingRegister setting with
  | .ok (some regName) => (holdingByName regName).bind fun reg => registerPlan regName reg value
  | _ => none

theorem registerPlan_reg {regName : String} {reg : Nat} {value : PyFloat} {p : WritePlan}
    (h : registerPlan regName reg value = some p) : p.reg = reg := by
  unfold registerPlan at h
  split at h
  · obtain ⟨raw, -, rfl⟩ := Option.map_eq_some_iff.mp h
    rfl
  · cases h

/-- The setting's register exists in the table. -/
theorem settingRegister_of_plan {setting : Json} {value : PyFloat} {p : WritePlan}
    (h : writePlan setting value = some p) :
    settingRegister setting = .ok (some p.regName) ∧ holdingByName p.regName = some p.reg ∧
      holdingRegister p.reg = some p.info ∧
      engineeringToRaw (clampToRegister value p.info) p.info = some p.raw := by
  unfold writePlan at h
  split at h
  · next regName hset =>
    obtain ⟨reg, hreg, hp⟩ := Option.bind_eq_some_iff.mp h
    unfold registerPlan at hp
    split at hp
    · next info hinfo =>
      obtain ⟨raw, hraw, rfl⟩ := Option.map_eq_some_iff.mp hp
      exact ⟨hset, hreg, hinfo, hraw⟩
    · cases hp
  · cases h

section
variable {d : Dongle} {pol : Policy} {w w' : World}

theorem logAutomation_asks {P : Op → Prop} {id : String} {name registerName : Json} {raw : Option ℤ}
    {scaled : Option PyFloat} {dryRun success : Bool} {message : String}
    (h : ∀ row, row.dryRun = dryRun → row.success = success → P (.insertLog row)) :
    (logAutomation id name registerName raw scaled dryRun success message).Asks P :=
  ⟨h _ rfl rfl, fun _ => trivial⟩

/-- The live part reads and writes its register, with its value. -/
theorem writeVerified_asks {P : Op → Prop} (job : WriteJob) (regName : String) (reg : Nat) (raw : ℤ)
    (clamped : PyFloat) (hread : P (.transact d (.readHoldOne reg)))
    (hwrite : P (.transact d (.writeSingle reg raw))) (hsleep : P (.sleep 0.5))
    (hlog : ∀ row, P (.insertLog row)) :
    (writeVerified d job regName reg raw clamped).Asks P := by
  refine asks_bind (readHoldingRegister_asks hread) fun current => ?_
  split
  · trivial
  · refine asks_bind (writeHoldingRegister_asks hwrite) fun res => ?_
    split
    · exact logAutomation_asks fun row _ _ => hlog row
    · refine asks_bind (readBack_asks hread hsleep 4) fun verified => ?_
      split <;> exact logAutomation_asks fun row _ _ => hlog row

/-- Why a `doWrite` starts no transaction. -/
def NotLive (setting : Json) (value : PyFloat) (dryRun : Bool) (tr : List Ev) : Prop :=
  dryRun = true ∨ writePlan setting value = none ∨
    ∃ m p, ⟨.getSetting SETTING_MODEL, m⟩ ∈ tr ∧ writePlan setting value = some p ∧
      supports (settingOrDefault m DEFAULT_MODEL) p.reg = false

/-- The live part of `doWrite`, for a plan. -/
def WritePlan.write (d : Dongle) (job : WriteJob) (value : PyFloat) (p : WritePlan) : Py Unit :=
  writeVerified d job p.regName p.reg p.raw (clampToRegister value p.info)

theorem idle_log {id : String} {name registerName : Json} {raw : Option ℤ} {scaled : Option PyFloat}
    {dryRun success : Bool} {message : String} {tr : List Ev} {out : Except PyErr Unit}
    (h : (logAutomation id name registerName raw scaled dryRun success message).Run tr out)
    (hno : (success && !dryRun) = false) : Idle tr :=
  (show (logAutomation id name registerName raw scaled dryRun success message).Asks
    (fun op => op.quiet = true ∧ op.reportsWrite = false) from
      logAutomation_asks fun row hdry hsuccess => ⟨rfl, by rw [← hno, ← hdry, ← hsuccess]; rfl⟩).of_run h

theorem writeSupported_run {job : WriteJob} {regName : String} {reg : Nat} {value : PyFloat}
    {dryRun : Bool} {model : String} {tr : List Ev} {out : Except PyErr Unit}
    (h : (writeSupported d job regName reg value dryRun model).Run tr out) :
    (Idle tr ∧ (dryRun = true ∨ registerPlan regName reg value = none ∨ supports model reg = false)) ∨
      ∃ p, dryRun = false ∧ registerPlan regName reg value = some p ∧ supports model reg = true ∧
        (p.write d job value).Run tr out := by
  unfold writeSupported at h
  split at h
  · next hsup =>
    unfold registerInfo at h
    unfold registerPlan
    cases hinfo : holdingRegister reg with
    | none =>
      rw [hinfo] at h
      obtain ⟨rfl, -⟩ := h
      exact Or.inl ⟨idle_nil, Or.inr (Or.inl rfl)⟩
    | some info =>
      rw [hinfo] at h
      have h : (writeRegister d job regName reg info value dryRun).Run tr out := h
      unfold writeRegister at h
      dsimp only at h ⊢
      cases hraw : engineeringToRaw (clampToRegister value info) info with
      | none =>
        rw [hraw] at h
        exact Or.inl ⟨idle_log h rfl, Or.inr (Or.inl rfl)⟩
      | some raw =>
        rw [hraw] at h
        dsimp only at h
        split at h
        · next hdry => exact Or.inl ⟨idle_log h rfl, Or.inl hdry⟩
        · next hdry => exact Or.inr ⟨⟨regName, reg, info, raw⟩, by simpa using hdry, rfl, hsup, h⟩
  · next hsup => exact Or.inl ⟨idle_log h rfl, Or.inr (Or.inr (by simpa using hsup))⟩

/-- What a `doWrite` may ask for: its transactions are with the register of its setting. -/
theorem doWrite_asks_register {P : Op → Prop} {job : WriteJob} {value : PyFloat} {dryRun : Bool}
    (hmodel : P (.getSetting SETTING_MODEL))
    (hregister : ∀ name reg, settingRegister job.setting = .ok (some name) → holdingByName name = some reg →
      P (.transact d (.readHoldOne reg)) ∧ ∀ raw, P (.transact d (.writeSingle reg raw)))
    (hsleep : P (.sleep 0.5)) (hlog : ∀ row, P (.insertLog row)) : (doWrite d job value dryRun).Asks P := by
  unfold doWrite
  cases hset : settingRegister job.setting with
  | error x => trivial
  | ok name =>
    rw [ofExcept_ok_bind]
    split
    · exact logAutomation_asks fun row _ _ => hlog row
    · next name =>
      cases hreg : holdingByName name with
      | none => exact logAutomation_asks fun row _ _ => hlog row
      | some reg =>
        obtain ⟨hread, hwrite⟩ := hregister name reg hset hreg
        refine ⟨hmodel, fun model => ?_⟩
        show (writeSupported _ _ _ _ _ _ _).Asks _
        unfold writeSupported
        split
        · refine asks_bind (asks_ofExcept _) fun info => ?_
          unfold writeRegister
          dsimp only
          split
          · exact logAutomation_asks fun row _ _ => hlog row
          · split
            · exact logAutomation_asks fun row _ _ => hlog row
            · exact writeVerified_asks _ _ _ _ _ hread (hwrite _) hsleep hlog
        · exact logAutomation_asks fun row _ _ => hlog row

theorem doWrite_asks {P : Op → Prop} {job : WriteJob} {value : PyFloat} {dryRun : Bool} (hmodel : P (.getSetting SETTING_MODEL))
    (hread : ∀ reg, P (.transact d (.readHoldOne reg))) (hwrite : ∀ reg raw, P (.transact d (.writeSingle reg raw)))
    (hsleep : P (.sleep 0.5)) (hlog : ∀ row, P (.insertLog row)) : (doWrite d job value dryRun).Asks P :=
  doWrite_asks_register hmodel (fun _ reg _ _ => ⟨hread reg, hwrite reg⟩) hsleep hlog

/-- What `doWrite` does: nothing on the dongle, or the model is read and the plan is carried out. -/
theorem doWrite_run {job : WriteJob} {value : PyFloat} {dryRun : Bool} {tr : List Ev}
    {out : Except PyErr Unit} (h : (doWrite d job value dryRun).Run tr out) :
    (Idle tr ∧ NotLive job.setting value dryRun tr) ∨
      ∃ p m rest, dryRun = false ∧ writePlan job.setting value = some p ∧
        tr = ⟨.getSetting SETTING_MODEL, m⟩ :: rest ∧
        supports (settingOrDefault m DEFAULT_MODEL) p.reg = true ∧
        (p.write d job value).Run rest out := by
  unfold doWrite at h
  unfold NotLive writePlan
  cases hset : settingRegister job.setting with
  | error x =>
    rw [hset] at h
    obtain ⟨rfl, -⟩ := h
    exact Or.inl ⟨idle_nil, Or.inr (Or.inl rfl)⟩
  | ok name =>
    rw [hset, ofExcept_ok_bind] at h
    match name, h with
    | none, h => exact Or.inl ⟨idle_log h rfl, Or.inr (Or.inl rfl)⟩
    | some name, h =>
      dsimp only at h ⊢
      cases hreg : holdingByName name with
      | none =>
        rw [hreg] at h
        exact Or.inl ⟨idle_log h rfl, Or.inr (Or.inl rfl)⟩
      | some reg =>
        rw [hreg] at h
        obtain ⟨m, rest, rfl, hrest⟩ := h
        have hrest : (writeSupported d job name reg value dryRun
          (settingOrDefault m DEFAULT_MODEL)).Run rest out := hrest
        rcases writeSupported_run hrest with
          ⟨hq, hwhy⟩ | ⟨p, hdry, hp, hsup, hrun⟩
        · refine Or.inl ⟨fun ev hev => ?_, ?_⟩
          · rcases List.mem_cons.mp hev with rfl | hev
            · exact ⟨rfl, rfl⟩
            · exact hq ev hev
          · rcases hwhy with hdry | hnone | hsup
            · exact Or.inl hdry
            · exact Or.inr (Or.inl hnone)
            · cases hp : registerPlan name reg value with
              | none => exact Or.inr (Or.inl hp)
              | some p =>
                exact Or.inr (Or.inr ⟨m, p, List.mem_cons_self, hp, by rw [registerPlan_reg hp, hsup]⟩)
        · exact Or.inr ⟨p, m, rest, hdry, hp, rfl, by rw [registerPlan_reg hp, hsup], hrun⟩

/-! ## What a report of a write is worth -/

/-- The trace reports a live write as successful. -/
def reported (tr : List Ev) : Bool := tr.any fun ev => ev.1.reportsWrite

@[simp] theorem reported_nil : reported [] = false := rfl

@[simp] theorem reported_cons (ev : Ev) (t : List Ev) :
    reported (ev :: t) = (ev.1.reportsWrite || reported t) := rfl

@[simp] theorem reported_append (t u : List Ev) : reported (t ++ u) = (reported t || reported u) :=
  List.any_append

theorem reported_of_asks {t : List Ev} (h : ∀ ev ∈ t, ev.1.reportsWrite = false) :
    reported t = false :=
  List.any_eq_false.mpr fun ev hev hr => by cases (h ev hev).symm.trans hr

theorem logAutomation_spec (id : String) (name registerName : Json) (raw : Option ℤ)
    (scaled : Option PyFloat) (dryRun success : Bool) (message : String) :
    Ensures (step pol) w (logAutomation id name registerName raw scaled dryRun success message)
      fun tr _ w' => w' = w ∧ reported tr = (success && !dryRun) := by
  unfold logAutomation
  rw [perform_bind, ensures_ask]
  intro a m h
  refine (ensures_pure _).mpr ⟨?_, by simp⟩
  rcases h with ⟨-, rfl⟩ | ⟨-, -, rfl⟩ <;> rfl

/-- A write is reported only after the register has been read back with the value. -/
theorem writeVerified_logged (job : WriteJob) (regName : String) {reg : Nat} (hreg : reg ≤ 0xFFFF)
    (raw : ℤ) (clamped : PyFloat) :
    Ensures (step pol) w (writeVerified d job regName reg raw clamped) fun tr _ w' =>
      reported tr = true → ((w'.regs reg).toNat : ℤ) = raw := by
  unfold writeVerified
  refine (readHoldingRegister_spec hreg).bind ?_ ?_
  · rintro t res m ⟨rfl, -, a, rfl, -⟩
    split
    · exact (ensures_pure _).mpr (by simp)
    · refine (writeHoldingRegister_spec hreg).bind ?_ ?_
      · rintro t wres m' (⟨-, -, -, e, he⟩ | ⟨-, g, rfl, -⟩)
        · cases he
        · match wres with
          | .error msg =>
            refine (logAutomation_spec _ _ _ _ _ _ _ _).mono ?_
            rintro u _ w' ⟨-, hu⟩
            simp [hu]
          | .ok msg =>
            have hquiet : (readBack d reg raw 4).Asks fun op => op.reportsWrite = false :=
              readBack_asks (by rfl) (by rfl) 4
            refine ((readBack_spec hreg 4).and (.of_asks hquiet)).bind ?_ ?_
            · rintro t verified m'' ⟨⟨rfl, hback⟩, ht⟩
              split
              · next hv =>
                refine (logAutomation_spec _ _ _ _ _ _ _ _).mono ?_
                rintro u _ w' ⟨rfl, -⟩ -
                exact hback (by rw [hv])
              · refine (logAutomation_spec _ _ _ _ _ _ _ _).mono ?_
                rintro u _ w' ⟨-, hu⟩
                simp [reported_of_asks ht, hu]
            · rintro t x m'' ⟨-, ht⟩
              simp [reported_of_asks ht]
      · rintro t x m' (⟨-, rfl, -⟩ | ⟨-, g, rfl, -⟩) <;> simp
  · rintro t x m ⟨-, -, a, rfl, -⟩
    simp

/-- A write that is logged as a success holds on the inverter. -/
theorem doWrite_logged (job : WriteJob) (value : PyFloat) (dryRun : Bool) :
    Ensures (step pol) w (doWrite d job value dryRun) fun tr _ w' => reported tr = true →
      ∃ p, writePlan job.setting value = some p ∧ ((w'.regs p.reg).toNat : ℤ) = p.raw := by
  intro tr out w' hr hs hrep
  rcases doWrite_run hr with ⟨hidle, -⟩ | ⟨p, m, rest, -, hp, rfl, -, hrest⟩
  · rw [reported_of_asks fun ev hev => (hidle ev hev).2] at hrep
    cases hrep
  · obtain ⟨-, hname, -, -⟩ := settingRegister_of_plan hp
    obtain ⟨w₁, ⟨rfl, -⟩, hs⟩ := hs
    exact ⟨p, hp, writeVerified_logged job p.regName (holdingByName_le hname) p.raw _ rest out w'
      hrest hs hrep⟩

end

end LuxMon
