import LuxMon.Api.Holding
import LuxMon.Automation.Write
import LuxMon.Dongle.Reliable

/-!
# The write range of the automations and of the API

`_do_write` clamps the engineering value to `min` and `max` and converts then; the
API compares the raw value with the same `min` and `max`.  Where the scale is not 1
the two disagree.

    every write of _do_write is accepted by the API ↔ scale 1, or the bound in
    engineering units is kept                                        (doWrite_accepted_iff)
-/

namespace LuxMon

open Python Effects Prog

/-- The largest engineering value that converts to a raw value of at most `max`. -/
def HoldingRegister.rawBound (info : HoldingRegister) : ℚ := (info.max + 1 / 2) * info.scale

/-- What the rows that settings are mapped to have in common. -/
def mappedRow (info : HoldingRegister) : Bool :=
  info.min ≤ info.max &&
    (info.scale = 1 || (info.scale = 0.1 && 0 ≤ info.min && 1 ≤ info.max && info.max ≤ 6553 &&
      (info.max % 2 == 0 || info.rawBound < info.min)))

theorem settingNameToRegister_rows : (settingNameToRegister.all fun s =>
    ((s.2.bind holdingByName).bind fun reg => (holdingRegister reg).map fun info =>
      mappedRow info).getD true) = true := by
  decide +kernel

/-- A setting with a register has a row in the table. -/
theorem settingRegister_mem {setting : Json} {regName : String}
    (hset : settingRegister setting = .ok (some regName)) : ∃ s, (s, some regName) ∈ settingNameToRegister := by
  match setting, hset with
  | .str s, hset =>
    have hjoin := Except.ok.inj hset
    obtain ⟨o, ho, rfl⟩ : ∃ o, settingNameToRegister.lookup s = some o ∧ o = some regName := by
      cases hl : settingNameToRegister.lookup s with
      | none => simp [hl] at hjoin
      | some o => exact ⟨o, rfl, by simpa [hl] using hjoin⟩
    obtain ⟨l₁, l₂, h, -⟩ := List.lookup_eq_some_iff.mp ho
    exact ⟨s, by rw [h]; simp⟩

theorem mappedRow_of_setting {setting : Json} {regName : String} {reg : Nat} {info : HoldingRegister}
    (hset : settingRegister setting = .ok (some regName)) (hreg : holdingByName regName = some reg)
    (hinfo : holdingRegister reg = some info) : mappedRow info = true := by
  obtain ⟨s, hmem⟩ := settingRegister_mem hset
  have := List.all_eq_true.mp settingNameToRegister_rows _ hmem
  simpa [hreg, hinfo] using this

section
variable {d : Dongle} {job : WriteJob} {value : PyFloat} {regName : String} {reg : Nat}
  {info : HoldingRegister}

/-- What a live plan writes is its own register, with its raw value. -/
theorem write_planned {p : WritePlan} {tr : List Ev} {out : Except PyErr Unit} (h : (p.write d job value).Run tr out) :
    ∀ ev ∈ tr, ev.1.writesRegs = true → ev.1 = .transact d (.writeSingle p.reg p.raw) := by
  have hasks : (p.write d job value).Asks fun op =>
      op.writesRegs = true → op = .transact d (.writeSingle p.reg p.raw) :=
    writeVerified_asks job p.regName p.reg p.raw _ (by simp) (by simp) (by simp) (by simp)
  exact hasks.of_run h

/-- A write of `doWrite` is the write of its plan. -/
theorem doWrite_planned {dryRun : Bool} {tr : List Ev} {out : Except PyErr Unit}
    (h : (doWrite d job value dryRun).Run tr out) {ev : Ev} (hev : ev ∈ tr) (hw : ev.1.writesRegs = true) :
    ∃ p m rest, writePlan job.setting value = some p ∧ ev.1 = .transact d (.writeSingle p.reg p.raw) ∧
      tr = ⟨.getSetting SETTING_MODEL, m⟩ :: rest ∧
      supports (settingOrDefault m DEFAULT_MODEL) p.reg = true := by
  rcases doWrite_run h with ⟨hq, -⟩ | ⟨p, m, rest, -, hp, rfl, hsup, hrest⟩
  · have hquiet := hq.quiet _ hev
    cases hop : ev.1 <;> rw [hop] at hquiet hw <;> cases hquiet <;> cases hw
  · rcases List.mem_cons.mp hev with rfl | hev
    · cases hw
    · exact ⟨p, m, rest, hp, write_planned hrest ev hev hw, rfl, hsup⟩

theorem doWrite_write {dryRun : Bool} {tr : List Ev} {out : Except PyErr Unit} {r : ℤ}
    {ans : Op.Answer (.transact d (.writeSingle reg r))}
    (h : (doWrite d job value dryRun).Run tr out) (hmem : ⟨.transact d (.writeSingle reg r), ans⟩ ∈ tr) :
    ∃ p m rest, writePlan job.setting value = some p ∧ p.raw = r ∧
      tr = ⟨.getSetting SETTING_MODEL, m⟩ :: rest ∧
      supports (settingOrDefault m DEFAULT_MODEL) p.reg = true := by
  obtain ⟨p, m, rest, hp, hop, htr, hsup⟩ := doWrite_planned h hmem rfl
  obtain ⟨-, hreq⟩ := Op.transact.inj hop
  obtain ⟨-, rfl⟩ := Request.writeSingle.inj hreq
  exact ⟨p, m, rest, hp, rfl, htr, hsup⟩

/-- The raw value of a plan lies in the raw range exactly when the scale is 1 or the bound in
engineering units is kept. -/
theorem raw_range_iff (hrow : mappedRow info = true) (hv : value ≠ .nan) {raw : ℤ}
    (hraw : engineeringToRaw (clampToRegister value info) info = some raw) :
    (info.min ≤ raw ∧ raw ≤ info.max) ↔
      info.scale = 1 ∨ (info.min ≤ info.rawBound ∧ value.le (.fin info.rawBound) = true) := by
  simp only [mappedRow, Bool.and_eq_true, Bool.or_eq_true, decide_eq_true_eq, beq_iff_eq] at hrow
  obtain ⟨hle, hscale⟩ := hrow
  obtain ⟨c, hc, h1, h2, hb⟩ := clampToRegister_fin hv hle
  rw [hc] at hraw
  rcases hscale with hone | ⟨⟨⟨⟨htenth, h0⟩, hmax⟩, -⟩, hparity⟩
  · rw [engineeringToRaw_fin c (by rw [hone]; norm_num), hone, div_one] at hraw
    obtain rfl := Option.some.inj hraw
    exact iff_of_true ⟨le_roundHalfEven h1, roundHalfEven_le h2⟩ (Or.inl hone)
  · rw [engineeringToRaw_fin c (by rw [htenth]; norm_num), htenth] at hraw
    obtain rfl := Option.some.inj hraw
    have hdiv : c / 0.1 = c * 10 := by
      rw [div_eq_mul_inv]
      norm_num
    have h0' : (0 : ℚ) ≤ info.min := by exact_mod_cast h0
    have hmax' : (1 : ℚ) ≤ info.max := by exact_mod_cast hmax
    have hlower : info.min ≤ roundHalfEven (c / 0.1) := le_roundHalfEven (by rw [hdiv]; linarith)
    have hbound : info.rawBound = (info.max + 1 / 2) / 10 := by
      rw [HoldingRegister.rawBound, htenth]
      norm_num
      ring
    have hne : info.scale ≠ 1 := by
      rw [htenth]
      norm_num
    have hupper : roundHalfEven (c / 0.1) ≤ info.max ↔ c ≤ info.rawBound := by
      rw [hdiv, hbound]
      rcases hparity with heven | hmin
      · rw [roundHalfEven_le_iff heven]
        constructor <;> intro h <;> linarith
      · rw [hbound] at hmin
        refine iff_of_false (not_le.mpr (lt_roundHalfEven ?_)) (not_le.mpr ?_) <;> linarith
    rw [or_iff_right hne, ← hb _ (by rw [hbound]; linarith), ← hupper]
    exact and_iff_right hlower

/-- A plan of a row of scale 1/10 fits into 16 bits. -/
theorem raw_sixteen (hrow : mappedRow info = true) (hne : info.scale ≠ 1) (hv : value ≠ .nan) :
    ∃ raw : ℤ, engineeringToRaw (clampToRegister value info) info = some raw ∧ 0 ≤ raw ∧ raw ≤ 0xFFFF := by
  simp only [mappedRow, Bool.and_eq_true, Bool.or_eq_true, decide_eq_true_eq, beq_iff_eq] at hrow
  obtain ⟨hle, hscale⟩ := hrow
  obtain ⟨c, hc, h1, h2, -⟩ := clampToRegister_fin hv hle
  obtain ⟨⟨⟨⟨htenth, h0⟩, -⟩, hmax⟩, -⟩ := hscale.resolve_left hne
  have hdiv : c / 0.1 = c * 10 := by
    rw [div_eq_mul_inv]
    norm_num
  have h0' : (0 : ℚ) ≤ info.min := by exact_mod_cast h0
  have hmax' : (info.max : ℚ) ≤ 6553 := by exact_mod_cast hmax
  refine ⟨roundHalfEven (c / 0.1), ?_, le_roundHalfEven ?_, roundHalfEven_le ?_⟩
  · rw [hc, engineeringToRaw_fin c (by rw [htenth]; norm_num), htenth]
  · rw [hdiv]
    push_cast
    linarith
  · rw [hdiv]
    push_cast
    linarith

/-- On a model that has the register, a live `doWrite` with a 16-bit plan can get as far as
sending its write. -/
theorem doWrite_sends (d : Dongle) (job : WriteJob) (value : PyFloat) {p : WritePlan} (hplan : writePlan job.setting value = some p)
    (hreg : p.reg ≤ 0xFFFF) (hraw : 0 ≤ p.raw ∧ p.raw ≤ 0xFFFF) {model : String}
    (hsup : supports model p.reg = true) :
    ∃ tr out, (doWrite d job value false).Run tr out ∧
      tr.head? = some ⟨.getSetting SETTING_MODEL, .ok (some model)⟩ ∧
      ⟨.transact d (.writeSingle p.reg p.raw), .ok none⟩ ∈ tr := by
  obtain ⟨hset, hname, hinfo, hconv⟩ := settingRegister_of_plan hplan
  obtain ⟨b, hb⟩ : ∃ b, (Request.readHoldOne p.reg).encode d = .ok b := encode_readHoldOne hreg
  obtain ⟨b', hb'⟩ : ∃ b, (Request.writeSingle p.reg p.raw).encode d = .ok b :=
    (encode_writeSingle_iff hreg).mpr hraw
  -- neither transaction is answered
  have hunanswered : ∃ row, (p.write d job value).Run [⟨.transact d (.readHoldOne p.reg), .ok none⟩,
      ⟨.transact d (.writeSingle p.reg p.raw), .ok none⟩, ⟨.insertLog row, .ok ()⟩] (.ok ()) := by
    unfold WritePlan.write writeVerified readHoldingRegister writeHoldingRegister
    simp only [transact_eq hb, transact_eq hb']
    exact ⟨_, .ok none, _, rfl, .ok none, _, rfl, .ok (), [], rfl, rfl, rfl⟩
  obtain ⟨rest, hrun, hmem⟩ : ∃ rest, (p.write d job value).Run rest (.ok ()) ∧
      ⟨.transact d (.writeSingle p.reg p.raw), .ok none⟩ ∈ rest :=
    hunanswered.imp' _ fun _ h => ⟨h, List.mem_cons_of_mem _ List.mem_cons_self⟩
  have hsupported : (writeSupported d job p.regName p.reg value false model).Run rest (.ok ()) := by
    unfold writeSupported registerInfo writeRegister
    simp only [hsup, if_true, hinfo, ofExcept_ok_bind, hconv, Bool.false_eq_true, if_false]
    exact hrun
  refine ⟨⟨.getSetting SETTING_MODEL, .ok (some model)⟩ :: rest, .ok (), ?_, rfl,
    List.mem_cons_of_mem _ hmem⟩
  unfold doWrite
  simp only [hset, ofExcept_ok_bind, hname]
  exact ⟨.ok (some model), rest, rfl, hsupported⟩

/-- For a setting that is mapped to a register: whatever `doWrite` sends there on a model, the
API accepts as a raw value, exactly when the model lacks the register, the value is NaN, the
row has scale 1, or minimum and value keep the bound. -/
theorem doWrite_accepted_iff (d : Dongle) (job : WriteJob) (value : PyFloat) (regName : String)
    (reg : Nat) (info : HoldingRegister) (model : String)
    (hset : settingRegister job.setting = .ok (some regName)) (hreg : holdingByName regName = some reg)
    (hinfo : holdingRegister reg = some info) :
    (∀ dryRun tr out m r ans, (doWrite d job value dryRun).Run tr out →
      tr.head? = some ⟨.getSetting SETTING_MODEL, m⟩ → settingOrDefault m DEFAULT_MODEL = model →
      ⟨.transact d (.writeSingle reg r), ans⟩ ∈ tr →
      ∃ raw, requestedRaw regName info { raw := some r } = .ok raw) ↔
    (supports model reg = false ∨ value = .nan ∨ info.scale = 1 ∨
      (info.min ≤ info.rawBound ∧ value.le (.fin info.rawBound) = true)) := by
  have hrow := mappedRow_of_setting hset hreg hinfo
  -- a plan for this value is a plan of this row
  have hplan : ∀ p, writePlan job.setting value = some p → p.reg = reg ∧
      engineeringToRaw (clampToRegister value info) info = some p.raw := fun p hp => by
    obtain ⟨h1, h2, h3, h4⟩ := settingRegister_of_plan hp
    rw [hset] at h1
    obtain rfl := Option.some.inj (Except.ok.inj h1)
    rw [hreg] at h2
    obtain rfl := Option.some.inj h2
    rw [hinfo] at h3
    obtain rfl := Option.some.inj h3
    exact ⟨rfl, h4⟩
  constructor
  · intro hall
    by_contra hcond
    simp only [not_or, Bool.not_eq_false] at hcond
    obtain ⟨hsup, hv, hone, hbound⟩ := hcond
    obtain ⟨raw, hraw, hpos, hle⟩ := raw_sixteen hrow hone hv
    obtain ⟨tr, out, hrun, hhead, hmem⟩ := doWrite_sends d job value
      (show writePlan job.setting value = some ⟨regName, reg, info, raw⟩ by
        simp [writePlan, hset, hreg, registerPlan, hinfo, hraw])
      (holdingByName_le hreg) ⟨hpos, hle⟩ hsup
    have hacc := hall false tr out _ raw _ hrun hhead rfl hmem
    rw [requestedRaw_raw_ok_iff, raw_range_iff hrow hv hraw] at hacc
    exact hacc.elim hone hbound
  · intro hcond dryRun tr out m r ans hrun hhead hm hmem
    obtain ⟨p, m', rest, hp, rfl, rfl, hsup⟩ := doWrite_write hrun hmem
    obtain ⟨rfl, hraw⟩ := hplan p hp
    have hmm : m' = m := by simpa using hhead
    rw [hmm, hm] at hsup
    have hv : value ≠ .nan := by
      rintro rfl
      cases hraw
    rw [requestedRaw_raw_ok_iff, raw_range_iff hrow hv hraw]
    exact (hcond.resolve_left (by simp [hsup])).resolve_left hv

end

/-- An automation that sets the absorption voltage. -/
def absorptionJob : WriteJob :=
  { id := "r1", name := .str "Absorb", setting := .str "absorption_charge_voltage" }

/-- 54 V is within the row's 50 to 58 in volts; the raw value 540 is not within it. -/
theorem doWrite_exceeds_range :
    ∃ tr out m ans info,
      (doWrite idleDongle absorptionJob (.fin 54) false).Run tr out ∧
      tr.head? = some ⟨.getSetting SETTING_MODEL, m⟩ ∧
      ⟨.transact idleDongle (.writeSingle 99 540), ans⟩ ∈ tr ∧
      supports (settingOrDefault m DEFAULT_MODEL) 99 = true ∧ holdingRegister 99 = some info ∧
      requestedRaw "lead_acid_charge_voltage" info { raw := some 540 } =
        httpError 400 "lead_acid_charge_voltage raw 540 above maximum 58" := by
  let info : HoldingRegister := ⟨"lead_acid_charge_voltage", "V", 0.1, 50, 58, []⟩
  have hsup : supports DEFAULT_MODEL 99 = true := by decide +kernel
  obtain ⟨tr, out, hrun, hhead, hmem⟩ := doWrite_sends idleDongle absorptionJob (.fin 54)
    (show writePlan absorptionJob.setting (.fin 54) =
      some ⟨"lead_acid_charge_voltage", 99, info, 540⟩ by decide +kernel)
    (by decide) (by decide) hsup
  exact ⟨tr, out, _, _, info, hrun, hhead, hmem, hsup, by decide +kernel, rfl⟩

/-- The grid-charge start voltage, 0 to 600 in steps of 0.1 V, is safe up to 60.05 V. -/
theorem doWrite_accepted_grid_charge :
    ∃ info, ∀ dryRun tr out m r ans,
      (doWrite idleDongle ⟨"r2", .str "Grid", .str "grid_charge_start_voltage"⟩ (.fin 48) dryRun).Run
        tr out →
      tr.head? = some ⟨.getSetting SETTING_MODEL, m⟩ →
      settingOrDefault m DEFAULT_MODEL = DEFAULT_MODEL →
      ⟨.transact idleDongle (.writeSingle 158 r), ans⟩ ∈ tr →
      ∃ raw, requestedRaw "ac_charge_start_battery_voltage" info { raw := some r } = .ok raw :=
  ⟨⟨"ac_charge_start_battery_voltage", "V", 0.1, 0, 600, []⟩,
    (doWrite_accepted_iff idleDongle _ (.fin 48) "ac_charge_start_battery_voltage" 158 _ DEFAULT_MODEL
      (by decide +kernel) (by decide +kernel) (by decide +kernel)).mpr (by decide +kernel)⟩

end LuxMon
