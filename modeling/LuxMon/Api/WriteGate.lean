import LuxMon.Reports

/-!
# The write gate of the API

Both write endpoints check the names, the model's registers and the ranges before
they look for the dongle; the packet builder refuses what is no 16-bit number.

    a request writes, or reports success, only if every register it addresses
      takes the value it is given                                  (api_write_gate)
-/

namespace LuxMon

open Python Effects Prog

/-- The table and the model have the register, and the raw value is a 16-bit number in the
register's own range. -/
structure Admits (model : String) (reg : ℕ) (raw : ℤ) : Prop where
  supported : supports model reg = true
  row : ∃ info, holdingRegister reg = some info ∧ info.min ≤ raw ∧ raw ≤ info.max
  word : 0 ≤ raw ∧ raw ≤ 0xFFFF

/-- What `PUT /api/holding/{name}` needs to write `raw` to `reg`. -/
structure PutAdmitted (model name : String) (body : HoldingUpdate) (reg : ℕ) (raw : ℤ) : Prop where
  one : body.raw.isSome = !body.value.isSome
  listed : holdingByName name = some reg
  admits : Admits model reg raw

/-- What `POST /api/holding/multi/{start_name}` needs to write the values from `start` on. -/
structure BlockAdmitted (model startName : String) (values : List ℤ) (start : ℕ) : Prop where
  nonempty : values ≠ []
  listed : holdingByName startName = some start
  admits : ∀ i (h : i < values.length), Admits model (start + i) values[i]

/-- The request found `model` configured. -/
def Resolved (tr : List Ev) (model : String) : Prop :=
  ∃ t u, tr = t ++ u ∧ resolveModelApi.Run t (.ok model)

/-- `POST /api/holding/multi/{start_name}` with the values of the request's body: those that do
not pass `_validate_values` are answered 422. -/
def postHoldingMulti (startName : String) (values : List ℤ) : Py HoldingMultiWritten :=
  match HoldingMultiUpdate.validate values with
  | .error detail => Prog.ofExcept (httpError 422 detail)
  | .ok body => apiHoldingMultiWrite startName body

/-! ## Programs that write only what is admitted -/

/-- Every write of a run is `ok`, and a run that returns has `done`. -/
def Guarded {α : Type} (ok : Op → Prop) (done : Prop) (p : Py α) : Prop :=
  ∀ tr out, p.Run tr out →
    (∀ ev ∈ tr, ev.1.writesRegs = true → ok ev.1) ∧ (out.isOk = true → done)

section
variable {α β : Type} {ok : Op → Prop} {done : Prop}

theorem guarded_raise (x : PyErr) : Guarded ok done (.raise x : Py α) := by
  rintro tr out ⟨rfl, rfl⟩
  exact ⟨by simp, by simp [Except.isOk, Except.toBool]⟩

theorem guarded_of_asks {p : Py α} (hp : p.Asks fun op => op.writesRegs = true → ok op)
    (hdone : done) : Guarded ok done p :=
  fun _ _ h => ⟨hp.of_run h, fun _ => hdone⟩

/-- Looking something up writes nothing. -/
theorem guarded_bind {p : Py α} {f : α → Py β} (hp : p.Asks fun op => op.looksUp = true)
    (hf : ∀ a, Guarded ok done (f a)) : Guarded ok done (p >>= f) := by
  have hquiet : ∀ {t : List Ev} {out : Except PyErr α}, p.Run t out →
      ∀ ev ∈ t, ev.1.writesRegs = true → ok ev.1 := by
    intro t out h ev hev hw
    have hlook := hp.of_run h ev hev
    cases hop : ev.1 <;> rw [hop] at hlook hw <;> cases hlook <;> cases hw
  intro tr out h
  rcases (run_bind p f tr out).mp h with ⟨a, t, u, rfl, ht, hu⟩ | ⟨x, rfl, ht⟩
  · refine ⟨fun ev hev => ?_, (hf a u out hu).2⟩
    rcases List.mem_append.mp hev with hev | hev
    · exact hquiet ht ev hev
    · exact (hf a u out hu).1 ev hev
  · exact ⟨hquiet ht, fun h => by cases h⟩

end

/-! ## One register -/

/-- The attempts raise when the value is no 16-bit number. -/
theorem writeAttempts_refused {d : Dongle} {reg : ℕ} {raw : ℤ} (hreg : reg ≤ 0xFFFF)
    (hraw : ¬ (0 ≤ raw ∧ raw ≤ 0xFFFF)) (tries : ℕ) (msg : String) :
    ∃ x, writeAttempts d reg raw (tries + 1) msg = .raise x := by
  have hencode := mt (encode_writeSingle_iff (d := d) (v := raw) hreg).mp hraw
  cases hb : (Request.writeSingle reg raw).encode d with
  | ok b => exact absurd ⟨b, hb⟩ hencode
  | error x =>
    refine ⟨x, ?_⟩
    unfold writeAttempts writeHoldingRegister transact
    rw [hb]
    rfl

theorem writeAttempts_asks {d : Dongle} {reg : ℕ} {raw : ℤ} {P : Op → Prop}
    (hw : P (.transact d (.writeSingle reg raw))) (hs : P (.sleep 0.7)) (tries : ℕ) (msg : String) :
    (writeAttempts d reg raw tries msg).Asks P := by
  induction tries generalizing msg with
  | zero => exact trivial
  | succ tries ih =>
    refine asks_bind (writeHoldingRegister_asks hw) fun res => ?_
    match res with
    | .ok msg => exact trivial
    | .error msg => exact ⟨hs, fun _ => ih msg⟩

theorem putVerified_guarded {d : Dongle} (name : String) {reg : ℕ} {raw : ℤ} (hreg : reg ≤ 0xFFFF) :
    Guarded (fun op => (0 ≤ raw ∧ raw ≤ 0xFFFF) ∧ op = .transact d (.writeSingle reg raw))
      (0 ≤ raw ∧ raw ≤ 0xFFFF) (putVerified d name reg raw) := by
  by_cases hraw : 0 ≤ raw ∧ raw ≤ 0xFFFF
  · refine guarded_of_asks ?_ hraw
    refine asks_bind (writeAttempts_asks (fun _ => ⟨hraw, rfl⟩) (fun h => by cases h) 4 "") fun res => ?_
    match res with
    | .error msg => exact asks_ofExcept _
    | .ok msg =>
      refine asks_bind (readBack_asks (fun h => by cases h) (fun h => by cases h) 4) fun verified => ?_
      split
      · exact trivial
      · exact asks_ofExcept _
  · obtain ⟨x, hx⟩ := writeAttempts_refused (d := d) hreg hraw 3 ""
    unfold putVerified
    rw [hx, raise_bind]
    exact guarded_raise x

/-- What `checkRaw` lets pass is in the row's range. -/
theorem checkRaw_ok {name : String} {info : HoldingRegister} {raw r : ℤ}
    (h : checkRaw name info raw = .ok r) : r = raw ∧ info.min ≤ raw ∧ raw ≤ info.max := by
  unfold checkRaw at h
  split at h
  · cases h
  · split at h
    · cases h
    · cases h
      exact ⟨rfl, by omega, by omega⟩

theorem requestedRaw_ok {name : String} {info : HoldingRegister} {body : HoldingUpdate} {raw : ℤ}
    (h : requestedRaw name info body = .ok raw) :
    body.raw.isSome = !body.value.isSome ∧ info.min ≤ raw ∧ raw ≤ info.max := by
  unfold requestedRaw at h
  split at h
  · cases h
  · cases h
  · next r hr hv =>
    obtain ⟨rfl, hrange⟩ := checkRaw_ok h
    rw [hr, hv]
    exact ⟨rfl, hrange⟩
  · next v hr hv =>
    split at h
    · cases h
    · obtain ⟨rfl, hrange⟩ := checkRaw_ok h
      rw [hr, hv]
      exact ⟨rfl, hrange⟩

/-- A write that the gate lets pass, in a request that found `model` configured. -/
def PutWrite (model name : String) (body : HoldingUpdate) (op : Op) : Prop :=
  ∃ d reg raw, op = .transact d (.writeSingle reg raw) ∧ PutAdmitted model name body reg raw

theorem apiHoldingPut_guarded {model name : String} {body : HoldingUpdate} {reg : ℕ}
    (hreg : holdingByName name = some reg) {info : HoldingRegister}
    (hinfo : registerInfo reg = .ok info) {raw : ℤ} (hraw : requestedRaw name info body = .ok raw)
    (hsup : supports model reg = true) :
    Guarded (PutWrite model name body) (∃ reg raw, PutAdmitted model name body reg raw)
      (requireDongle >>= fun dongle => putVerified dongle name reg raw) := by
  have hrow : holdingRegister reg = some info := by
    unfold registerInfo at hinfo
    split at hinfo
    · next hrow =>
      cases hinfo
      exact hrow
    · cases hinfo
  obtain ⟨hone, hrange⟩ := requestedRaw_ok hraw
  have hadmits : (0 ≤ raw ∧ raw ≤ 0xFFFF) → PutAdmitted model name body reg raw :=
    fun hword => ⟨hone, hreg, hsup, ⟨info, hrow, hrange⟩, hword⟩
  refine guarded_bind requireDongle_looksUp fun d => ?_
  intro tr out h
  obtain ⟨hwrites, hdone⟩ := putVerified_guarded name (holdingByName_le hreg) tr out h
  constructor
  · intro ev hev hw
    obtain ⟨hword, hop⟩ := hwrites ev hev hw
    exact ⟨d, reg, raw, hop, hadmits hword⟩
  · exact fun hout => ⟨reg, raw, hadmits (hdone hout)⟩

/-! ## A block of registers -/

theorem checkBlockRegister_ok {model : String} {reg : ℕ} {raw : ℤ}
    (h : checkBlockRegister model reg raw = .ok ()) :
    supports model reg = true ∧ ∃ info, holdingRegister reg = some info ∧ info.min ≤ raw ∧ raw ≤ info.max := by
  unfold checkBlockRegister at h
  split at h
  · cases h
  · next info hrow =>
    split at h
    · cases h
    · next hsup =>
      split at h
      · cases h
      · split at h
        · cases h
        · exact ⟨by simpa using hsup, info, hrow, by omega, by omega⟩

/-- Each value of a checked block is checked against the row of its own register. -/
theorem checkBlock_ok {model : String} {reg : ℕ} {values : List ℤ}
    (h : checkBlock model reg values = .ok ()) :
    ∀ i (hi : i < values.length), checkBlockRegister model (reg + i) values[i] = .ok () := by
  induction values generalizing reg with
  | nil => exact fun i hi => absurd hi (Nat.not_lt_zero i)
  | cons v values ih =>
    unfold checkBlock at h
    cases hv : checkBlockRegister model reg v with
    | error x =>
      rw [hv] at h
      cases h
    | ok u =>
      rw [hv] at h
      have hrest : checkBlock model (reg + 1) values = .ok () := h
      intro i hi
      cases i with
      | zero => exact hv
      | succ i =>
        have := ih hrest i (by simpa using hi)
        rw [show reg + (i + 1) = reg + 1 + i by omega]
        exact this

def BlockWrite (model startName : String) (values : List ℤ) (op : Op) : Prop :=
  ∃ d start, op = .transact d (.writeMulti start values) ∧ BlockAdmitted model startName values start

theorem writeBlock_guarded {model startName : String} {body : HoldingMultiUpdate} {start : ℕ}
    (hstart : holdingByName startName = some start)
    (hcheck : checkBlock model start body.values = .ok ()) {α : Type} (f : Dongle → WriteResult → Py α)
    (hf : ∀ d res, (f d res).Asks fun op => op.writesRegs = true → False) :
    Guarded (BlockWrite model startName body.values)
      (∃ start, BlockAdmitted model startName body.values start)
      (requireDongle >>= fun dongle => writeHoldingRegisters dongle start body.values >>= f dongle) := by
  have hblock : BlockAdmitted model startName body.values start := by
    refine ⟨body.nonempty, hstart, fun i hi => ?_⟩
    obtain ⟨hsup, hrow⟩ := checkBlockRegister_ok (checkBlock_ok hcheck i hi)
    exact ⟨hsup, hrow, body.range _ (List.getElem_mem hi)⟩
  refine guarded_bind requireDongle_looksUp fun d => guarded_of_asks ?_ ⟨start, hblock⟩
  refine asks_bind (asks_bind (transact_asks fun _ => ⟨d, start, rfl, hblock⟩) fun _ => trivial) fun res => ?_
  exact (hf d res).mono fun op h hw => (h hw).elim

theorem validate_values {values : List ℤ} {body : HoldingMultiUpdate}
    (h : HoldingMultiUpdate.validate values = .ok body) : body.values = values := by
  unfold HoldingMultiUpdate.validate at h
  split at h
  · cases h
  · split at h
    · cases h
    · split at h
      · cases h
      · cases h
        rfl

/-! ## The endpoints -/

/-- The model that a request found is the one its look-up returned. -/
theorem resolved_guarded {α : Type} {ok : String → Op → Prop} {done : String → Prop}
    {f : String → Py α} (hf : ∀ model, Guarded (ok model) (done model) (f model)) {tr : List Ev}
    {out : Except PyErr α} (h : (resolveModelApi >>= f).Run tr out) :
    (∀ ev ∈ tr, ev.1.writesRegs = true → ∃ model, Resolved tr model ∧ ok model ev.1) ∧
      (out.isOk = true → ∃ model, Resolved tr model ∧ done model) := by
  have hquiet : ∀ {t : List Ev} {out : Except PyErr String}, resolveModelApi.Run t out →
      ∀ ev ∈ t, ev.1.writesRegs = false := by
    intro t out ht ev hev
    have hlook := resolveModelApi_looksUp.of_run ht ev hev
    cases hop : ev.1 <;> rw [hop] at hlook <;> first | rfl | cases hlook
  rcases (run_bind _ f tr out).mp h with ⟨model, t, u, rfl, ht, hu⟩ | ⟨x, rfl, ht⟩
  · obtain ⟨hwrites, hdone⟩ := hf model u out hu
    refine ⟨fun ev hev hw => ?_, fun hout => ⟨model, ⟨t, u, rfl, ht⟩, hdone hout⟩⟩
    rcases List.mem_append.mp hev with hev | hev
    · rw [hquiet ht ev hev] at hw
      cases hw
    · exact ⟨model, ⟨t, u, rfl, ht⟩, hwrites ev hev hw⟩
  · refine ⟨fun ev hev hw => ?_, fun h => by cases h⟩
    rw [hquiet ht ev hev] at hw
    cases hw

theorem apiHoldingPut_gate {name : String} {body : HoldingUpdate} {tr : List Ev}
    {out : Except PyErr HoldingWritten} (h : (apiHoldingPut name body).Run tr out) :
    (∀ ev ∈ tr, ev.1.writesRegs = true → ∃ model, Resolved tr model ∧ PutWrite model name body ev.1) ∧
      (out.isOk = true → ∃ model, Resolved tr model ∧ ∃ reg raw, PutAdmitted model name body reg raw) := by
  unfold apiHoldingPut at h
  split at h
  · obtain ⟨rfl, rfl⟩ := (run_ofExcept _ _ _).mp h
    exact ⟨by simp, fun h => by cases h⟩
  · next reg hreg =>
    refine resolved_guarded (fun model => ?_) h
    split
    · exact guarded_raise _
    · next hsup =>
      cases hinfo : registerInfo reg with
      | error x => exact guarded_raise x
      | ok info =>
        rw [ofExcept_ok_bind]
        cases hraw : requestedRaw name info body with
        | error x => exact guarded_raise x
        | ok raw => exact apiHoldingPut_guarded hreg hinfo hraw (by simpa using hsup)

theorem postHoldingMulti_gate {startName : String} {values : List ℤ} {tr : List Ev}
    {out : Except PyErr HoldingMultiWritten} (h : (postHoldingMulti startName values).Run tr out) :
    (∀ ev ∈ tr, ev.1.writesRegs = true →
        ∃ model, Resolved tr model ∧ BlockWrite model startName values ev.1) ∧
      (out.isOk = true → ∃ model, Resolved tr model ∧ ∃ start, BlockAdmitted model startName values start) := by
  unfold postHoldingMulti at h
  split at h
  · obtain ⟨rfl, rfl⟩ := (run_ofExcept _ _ _).mp h
    exact ⟨by simp, fun h => by cases h⟩
  · next body hbody =>
    have hvalues : body.values = values := validate_values hbody
    rw [← hvalues]
    unfold apiHoldingMultiWrite at h
    split at h
    · obtain ⟨rfl, rfl⟩ := (run_ofExcept _ _ _).mp h
      exact ⟨by simp, fun h => by cases h⟩
    · next start hstart =>
      refine resolved_guarded (fun model => ?_) h
      split
      · exact guarded_raise _
      · cases hcheck : checkBlock model start body.values with
        | error x => exact guarded_raise x
        | ok u =>
          rw [ofExcept_ok_bind]
          refine writeBlock_guarded hstart hcheck _ fun d res => ?_
          split
          · exact asks_ofExcept _
          · trivial

/-- Whatever a request says, each write it sends is one that its gate admits as a whole, and it
reports success only when the gate admitted it. -/
theorem api_write_gate :
    (∀ (name : String) (body : HoldingUpdate) (tr : List Ev) (out : Except PyErr HoldingWritten),
      (apiHoldingPut name body).Run tr out →
      (∀ ev ∈ tr, ev.1.writesRegs = true → ∃ model, Resolved tr model ∧
        ∃ d reg raw, ev.1 = .transact d (.writeSingle reg raw) ∧ PutAdmitted model name body reg raw) ∧
      (out.isOk = true → ∃ model, Resolved tr model ∧
        ∃ reg raw, PutAdmitted model name body reg raw)) ∧
    ∀ (startName : String) (values : List ℤ) (tr : List Ev) (out : Except PyErr HoldingMultiWritten),
      (postHoldingMulti startName values).Run tr out →
      (∀ ev ∈ tr, ev.1.writesRegs = true → ∃ model, Resolved tr model ∧
        ∃ d start, ev.1 = .transact d (.writeMulti start values) ∧
          BlockAdmitted model startName values start) ∧
      (out.isOk = true → ∃ model, Resolved tr model ∧
        ∃ start, BlockAdmitted model startName values start) :=
  ⟨fun _ _ _ _ h => apiHoldingPut_gate h, fun _ _ _ _ h => postHoldingMulti_gate h⟩

/-- A block whose second value is one too large for its register. -/
def refusedBlock :=
  exec (World.silentAnswer fun _ => true) idleWorld (postHoldingMulti "charge_power_percent" [50, 101])

/-- Nothing of it is written, and it is not reported as written. -/
theorem refusedBlock_not_sent :
    (∀ ev ∈ refusedBlock.1, ev.1.writesRegs = false) ∧ refusedBlock.2.1.isOk = false := by
  have hno : ∀ model start, ¬ BlockAdmitted model "charge_power_percent" [50, 101] start := by
    intro model start hblock
    have hstart : some start = some 64 := hblock.listed.symm.trans (by decide +kernel)
    obtain rfl := Option.some.inj hstart
    obtain ⟨info, hinfo, -, hmax⟩ := (hblock.admits 1 (by decide)).row
    have hrow : (holdingRegister (64 + 1)).map HoldingRegister.max = some 100 := by decide +kernel
    rw [hinfo] at hrow
    have : info.max = 100 := Option.some.inj hrow
    have : ([50, 101] : List ℤ)[1] ≤ info.max := hmax
    simp only [List.getElem_cons_succ, List.getElem_cons_zero] at this
    omega
  obtain ⟨hr, -⟩ := exec_spec (World.step (.silent fun _ => true)) _ (World.silentAnswer_step _)
    (postHoldingMulti "charge_power_percent" [50, 101]) idleWorld
  obtain ⟨hwrites, hdone⟩ := api_write_gate.2 _ _ _ _ hr
  constructor
  · intro ev hev
    by_contra hw
    obtain ⟨model, -, d, start, -, hblock⟩ := hwrites ev hev (by simpa using hw)
    exact hno model start hblock
  · refine Bool.eq_false_iff.mpr fun hok => ?_
    obtain ⟨model, -, start, hblock⟩ := hdone hok
    exact hno model start hblock

end LuxMon
