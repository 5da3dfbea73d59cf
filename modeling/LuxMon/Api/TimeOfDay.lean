import LuxMon.Api.Encodable
import LuxMon.Automation.WriteRange

/-!
# Registers that hold a time of day

The rows of unit `time` pack the minute above the hour; all three write paths check
or clamp the packed number only, from 0 to 23:59.

    what is written to such a register is a time ↔ the low byte of what was
      asked for is an hour                                     (time_registers_iff)
-/

namespace LuxMon

open Python Effects Prog

/-- `(minute << 8) | hour`. -/
def IsTimeOfDay (raw : ℤ) : Prop :=
  ∃ hour minute : ℕ, hour < 24 ∧ minute < 60 ∧ raw = ((minute <<< 8 ||| hour : ℕ) : ℤ)

/-- The register's unit is `time`. -/
def TimeRegister (reg : ℕ) : Prop := ∃ info, holdingRegister reg = some info ∧ info.unit = "time"

/-- The low byte is an hour. -/
def HourByte (raw : ℤ) : Prop := raw % 256 < 24

instance (raw : ℤ) : Decidable (HourByte raw) := inferInstanceAs (Decidable (raw % 256 < 24))

/-- What the body of a single write asks for has an hour in its low byte. -/
def HoldingUpdate.AsksHour (body : HoldingUpdate) : Prop :=
  (∀ r, body.raw = some r → HourByte r) ∧ ∀ v, body.value = some (.fin v) → HourByte (roundHalfEven v)

/-- An automation's value has one, or it lies beyond the ends. -/
def ValueHour (value : PyFloat) : Prop :=
  ∀ v : ℚ, value = .fin v → 0 ≤ v → v ≤ 15127 → HourByte (roundHalfEven v)

section
variable {reg : ℕ} {info : HoldingRegister} {raw : ℤ}

/-- The rows of unit `time`: 0 to 23:59, unscaled. -/
theorem time_rows (hinfo : holdingRegister reg = some info) (hunit : info.unit = "time") :
    info.min = 0 ∧ info.max = 15127 ∧ info.scale = 1 := by
  have hall : ∀ r ∈ holdingRegisters, r.2.unit = "time" → r.2.min = 0 ∧ r.2.max = 15127 ∧ r.2.scale = 1 := by
    decide +kernel
  exact hall _ (holdingRegister_mem hinfo) hunit

theorem pack_eq {hour : ℕ} (minute : ℕ) (h : hour < 24) : minute <<< 8 ||| hour = minute * 256 + hour := by
  rw [← Nat.shiftLeft_add_eq_or_of_lt (show hour < 2 ^ 8 by omega), Nat.shiftLeft_eq]

/-- Up to 23:59 only the hour can be wrong. -/
theorem isTimeOfDay_iff (h0 : 0 ≤ raw) (hmax : raw ≤ 15127) : IsTimeOfDay raw ↔ HourByte raw := by
  unfold IsTimeOfDay HourByte
  constructor
  · rintro ⟨hour, minute, hh, hm, rfl⟩
    rw [pack_eq minute hh]
    omega
  · intro hhour
    refine ⟨(raw % 256).toNat, (raw / 256).toNat, by omega, by omega, ?_⟩
    rw [pack_eq _ (by omega)]
    omega

/-! ## What the three paths send -/

/-- The word of a single write is the one its body asks for. -/
theorem apiHoldingPut_requested {name : String} {body : HoldingUpdate} {tr : List Ev}
    {out : Except PyErr HoldingWritten} (h : (apiHoldingPut name body).Run tr out) :
    ∀ ev ∈ tr, ev.1.writesRegs = true → ∃ d reg info raw, ev.1 = .transact d (.writeSingle reg raw) ∧
      holdingRegister reg = some info ∧ requestedRaw name info body = .ok raw := by
  unfold apiHoldingPut at h
  split at h
  · obtain ⟨rfl, rfl⟩ := (run_ofExcept _ _ _).mp h
    simp
  · next reg hreg =>
    have hguarded : ∀ model, Guarded (fun op => ∃ d reg info raw, op = .transact d (.writeSingle reg raw) ∧
        holdingRegister reg = some info ∧ requestedRaw name info body = .ok raw) True
        (if !supports model reg then
          Prog.ofExcept (httpError 404 s!"Register {name} not supported by this inverter model")
        else do
          let info ← Prog.ofExcept (registerInfo reg)
          let raw ← Prog.ofExcept (requestedRaw name info body)
          let dongle ← requireDongle
          putVerified dongle name reg raw) := by
      intro model
      split
      · exact guarded_raise _
      · cases hinfo : holdingRegister reg with
        | none =>
          rw [show registerInfo reg = .error .keyError by unfold registerInfo; rw [hinfo]]
          exact guarded_raise _
        | some info =>
          rw [show registerInfo reg = .ok info by unfold registerInfo; rw [hinfo], ofExcept_ok_bind]
          cases hraw : requestedRaw name info body with
          | error x => exact guarded_raise x
          | ok raw =>
            rw [ofExcept_ok_bind]
            refine guarded_bind requireDongle_looksUp fun d tr out hrun => ⟨fun ev hev hw => ?_, fun _ => trivial⟩
            obtain ⟨-, hop⟩ := (putVerified_guarded name (holdingByName_le hreg) tr out hrun).1 ev hev hw
            exact ⟨d, reg, info, raw, hop, hinfo, hraw⟩
    intro ev hev hw
    obtain ⟨model, -, hwrite⟩ := (resolved_guarded hguarded h).1 ev hev hw
    exact hwrite

theorem put_time_iff {name : String} {body : HoldingUpdate} {tr : List Ev} {out : Except PyErr HoldingWritten}
    (h : (apiHoldingPut name body).Run tr out) {d : Dongle} {ans : Op.Answer (.transact d (.writeSingle reg raw))}
    (hev : ⟨.transact d (.writeSingle reg raw), ans⟩ ∈ tr) (htime : TimeRegister reg) :
    IsTimeOfDay raw ↔ body.AsksHour := by
  obtain ⟨d', reg', info, raw', hop, hinfo, hraw⟩ := apiHoldingPut_requested h _ hev rfl
  obtain ⟨rfl, hreq⟩ := Op.transact.inj hop
  obtain ⟨rfl, rfl⟩ := Request.writeSingle.inj hreq
  obtain ⟨info', hinfo', hunit⟩ := htime
  obtain rfl := Option.some.inj (hinfo.symm.trans hinfo')
  obtain ⟨hmin, hmax, hscale⟩ := time_rows hinfo hunit
  obtain ⟨h0, h1, ⟨v, hv⟩, hasked⟩ := accepted_raw hinfo hraw
  rw [isTimeOfDay_iff (by omega) (by omega)]
  have hraw_eq : ∀ r, body.raw = some r → raw = r := by
    intro r hr
    rw [hasked _ (Or.inl ⟨r, hr, rfl⟩), hscale, mul_one, div_one, roundHalfEven_intCast]
  have hvalue_eq : ∀ q, body.value = some (.fin q) → raw = roundHalfEven q := by
    intro q hq
    rw [hasked _ (Or.inr hq), hscale, div_one]
  constructor
  · intro hhour
    constructor
    · intro r hr
      rwa [← hraw_eq r hr]
    · intro q hq
      rwa [← hvalue_eq q hq]
  · intro hhour
    rcases hv with ⟨r, hr, -⟩ | hq
    · rw [hraw_eq r hr]
      exact hhour.1 r hr
    · rw [hvalue_eq v hq]
      exact hhour.2 v hq

/-- A block carries the values of its request. -/
theorem post_time_iff {startName : String} {values : List ℤ} {tr : List Ev} {out : Except PyErr HoldingMultiWritten}
    (h : (postHoldingMulti startName values).Run tr out) {d : Dongle} {start : ℕ} {raws : List ℤ}
    {ans : Op.Answer (.transact d (.writeMulti start raws))}
    (hev : ⟨.transact d (.writeMulti start raws), ans⟩ ∈ tr) :
    raws = values ∧ ∀ i (hi : i < values.length), TimeRegister (start + i) →
      (IsTimeOfDay values[i] ↔ HourByte values[i]) := by
  obtain ⟨model, -, d', start', hop, hblock⟩ := (postHoldingMulti_gate h).1 _ hev rfl
  obtain ⟨rfl, hreq⟩ := Op.transact.inj hop
  obtain ⟨rfl, rfl⟩ := Request.writeMulti.inj hreq
  refine ⟨rfl, fun i hi htime => ?_⟩
  obtain ⟨info, hinfo, h0, h1⟩ := (hblock.admits i hi).row
  obtain ⟨info', hinfo', hunit⟩ := htime
  obtain rfl := Option.some.inj (hinfo.symm.trans hinfo')
  obtain ⟨hmin, hmax, -⟩ := time_rows hinfo hunit
  exact isTimeOfDay_iff (by omega) (by omega)

/-- A value clamped to the ends is a time. -/
theorem doWrite_time_iff {d : Dongle} {job : WriteJob} {value : PyFloat} {dryRun : Bool} {tr : List Ev}
    {out : Except PyErr Unit} (h : (doWrite d job value dryRun).Run tr out) {d' : Dongle}
    {ans : Op.Answer (.transact d' (.writeSingle reg raw))}
    (hev : ⟨.transact d' (.writeSingle reg raw), ans⟩ ∈ tr) (htime : TimeRegister reg) :
    IsTimeOfDay raw ↔ ValueHour value := by
  obtain ⟨p, -, -, hp, hop, -, -⟩ := doWrite_planned h hev rfl
  obtain ⟨-, hreq⟩ := Op.transact.inj hop
  obtain ⟨rfl, rfl⟩ := Request.writeSingle.inj hreq
  obtain ⟨-, -, hinfo, hplan⟩ := settingRegister_of_plan hp
  obtain ⟨info', hinfo', hunit⟩ := htime
  obtain rfl := Option.some.inj (hinfo.symm.trans hinfo')
  obtain ⟨hmin, hmax, hscale⟩ := time_rows hinfo hunit
  have hone : p.info.scale ≠ 0 := by
    rw [hscale]
    norm_num
  have hvalue : value ≠ .nan := by
    rintro rfl
    cases hplan
  rcases clampToRegister_cases hvalue (show p.info.min ≤ p.info.max by omega) with
    ⟨v, rfl, h0, h1, hclamp⟩ | ⟨hbeyond, c, hend, hclamp⟩
  · rw [hmin] at h0
    rw [hmax] at h1
    rw [hclamp, engineeringToRaw_fin v hone, hscale, div_one] at hplan
    rw [← Option.some.inj hplan, isTimeOfDay_iff (le_roundHalfEven h0) (roundHalfEven_le h1)]
    constructor
    · rintro hhour _ ⟨⟩ _ _
      exact hhour
    · exact fun hhour => hhour v rfl (by exact_mod_cast h0) (by exact_mod_cast h1)
  · -- both ends are times
    rw [hmin, hmax] at hend
    have htime : IsTimeOfDay c := by
      rcases hend with rfl | rfl
      · exact (isTimeOfDay_iff (by decide) (by decide)).mpr (by decide)
      · exact (isTimeOfDay_iff (by decide) (by decide)).mpr (by decide)
    rw [hclamp, engineeringToRaw_fin _ hone, hscale, div_one, roundHalfEven_intCast] at hplan
    rw [← Option.some.inj hplan]
    refine iff_of_true htime fun v hv h0 h1 => absurd ?_ (hbeyond v hv ?_)
    · rw [hmax]
      exact_mod_cast h1
    · rw [hmin]
      exact_mod_cast h0

end

/-- On each of the three write paths a register of unit `time` is sent a time exactly when
the number that was asked for, after rounding and clamping, has an hour in its low byte. -/
theorem time_registers_iff (reg : ℕ) (htime : TimeRegister reg) :
    (∀ name body tr out, (apiHoldingPut name body).Run tr out → ∀ d raw ans,
      ⟨.transact d (.writeSingle reg raw), ans⟩ ∈ tr → (IsTimeOfDay raw ↔ body.AsksHour)) ∧
    (∀ startName values tr out, (postHoldingMulti startName values).Run tr out → ∀ d start raws ans,
      ⟨.transact d (.writeMulti start raws), ans⟩ ∈ tr → raws = values ∧ ∀ i (hi : i < values.length),
        start + i = reg → (IsTimeOfDay values[i] ↔ HourByte values[i])) ∧
    (∀ dongle job value dryRun tr out, (doWrite dongle job value dryRun).Run tr out → ∀ d raw ans,
      ⟨.transact d (.writeSingle reg raw), ans⟩ ∈ tr → (IsTimeOfDay raw ↔ ValueHour value)) := by
  refine ⟨fun _ _ _ _ h _ _ _ hev => put_time_iff h hev htime, fun _ _ _ _ h _ _ _ _ hev => ?_,
    fun _ _ _ _ _ _ h _ _ _ hev => doWrite_time_iff h hev htime⟩
  obtain ⟨hsame, htimes⟩ := post_time_iff h hev
  exact ⟨hsame, fun i hi hreg => htimes i hi (hreg ▸ htime)⟩

/-- The effect sends the request. -/
def Op.sendsRequest (req : Request) : Op → Bool
  | .transact _ req' => req' == req
  | _ => false

/-- A request that a run sends to a reliable dongle. -/
theorem sent_request {α : Type} {p : Py α} {req : Request}
    (h : ((exec World.answer idleWorld p).1.any fun ev => ev.1.sendsRequest req) = true) :
    ∃ tr out d ans, p.Run tr out ∧ ⟨.transact d req, ans⟩ ∈ tr := by
  obtain ⟨hr, -⟩ := exec_spec (World.step .reliable) World.answer World.answer_step p idleWorld
  obtain ⟨⟨op, ans⟩, hev, hsends⟩ := List.any_eq_true.mp h
  cases op with
  | transact d req' =>
    obtain rfl := eq_of_beq hsends
    exact ⟨_, _, d, ans, hr, hev⟩
  | _ => cases hsends

theorem ac_charge_start_time : TimeRegister 68 :=
  ⟨⟨"ac_charge_period_1_start", "time", 1, 0, 15127, []⟩, by decide +kernel, rfl⟩

/-- 22:30 is written as a time. -/
theorem half_past_ten_written : ∃ tr out d ans,
    (apiHoldingPut "ac_charge_period_1_start" { raw := some 7702 }).Run tr out ∧
      ⟨.transact d (.writeSingle 68 7702), ans⟩ ∈ tr ∧ IsTimeOfDay 7702 := by
  have hsent : ((exec World.answer idleWorld (apiHoldingPut "ac_charge_period_1_start" { raw := some 7702 })).1.any
      fun ev => ev.1.sendsRequest (.writeSingle 68 7702)) = true := by decide +kernel
  obtain ⟨tr, out, d, ans, hr, hev⟩ := sent_request hsent
  refine ⟨tr, out, d, ans, hr, hev,
    ((time_registers_iff 68 ac_charge_start_time).1 _ _ _ _ hr _ _ _ hev).mpr ⟨fun r h => ?_, fun v h => ?_⟩⟩
  · obtain rfl := Option.some.inj h
    decide
  · cases h

/-- 24 is no time, and each of the three paths writes it. -/
theorem hour_twenty_four_written :
    (∃ tr out d ans, (apiHoldingPut "ac_charge_period_1_start" { raw := some 24 }).Run tr out ∧
      ⟨.transact d (.writeSingle 68 24), ans⟩ ∈ tr) ∧
    (∃ tr out d ans, (postHoldingMulti "ac_charge_period_1_start" [24]).Run tr out ∧
      ⟨.transact d (.writeMulti 68 [24]), ans⟩ ∈ tr) ∧
    (∃ tr out d ans, (doWrite idleDongle ⟨"r1", .str "Night", .str "grid_charge_slot_1_start"⟩ (.fin 24) false).Run
        tr out ∧ ⟨.transact d (.writeSingle 68 24), ans⟩ ∈ tr) ∧
    TimeRegister 68 ∧ ¬ IsTimeOfDay 24 :=
  ⟨sent_request (by decide +kernel), sent_request (by decide +kernel), sent_request (by decide +kernel),
    ac_charge_start_time, fun h => absurd ((isTimeOfDay_iff (by decide) (by decide)).mp h) (by decide)⟩

end LuxMon
