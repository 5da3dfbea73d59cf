import LuxMon.Api.BlockRead
import LuxMon.Api.Encodable
import LuxMon.Dongle.Footprint

/-!
# Reading the holding registers

`GET /api/holding/{name}` and `GET /api/holding`, beside requests that write.  What they
answer was told by a block read, so after a `PUT` that returned and until the register is
written again, both tell the value of the `PUT`.

    an answer was told by a block read                        (holdingRequest_told)
    a read between no writes tells the register               (told_between)
    read your write                                           (holding_read_your_write)
-/

namespace LuxMon

open Python Effects Prog World

/-! ## Requests -/

/-- What a request tells of a register. -/
structure HoldingRead where
  name : String
  address : Nat
  raw : Nat
  unit : String
  scale : ℚ
  min : ℤ
  max : ℤ

def holdingRead (reg raw : Nat) (info : HoldingRegister) : HoldingRead :=
  { name := info.name, address := reg, raw := raw, unit := info.unit, scale := info.scale, min := info.min,
    max := info.max }

/-- `api_holding_get`. -/
def apiHoldingGet (name : String) : Py HoldingRead := do
  match holdingByName name with
  | none => Prog.ofExcept (httpError 404 s!"Unknown holding register: {name}")
  | some reg =>
    let model ← resolveModelApi
    if !supports model reg then
      Prog.ofExcept (httpError 404 s!"Register {name} not supported by this inverter model")
    else
      let dongle ← requireDongle
      let info ← Prog.ofExcept (registerInfo reg)
      let read ← readHoldingBlock dongle reg 1
      match if read.ok then read.block.get? reg else none with
      | some raw => return { holdingRead reg raw info with name := name }
      | none => Prog.ofExcept (httpError 502 s!"Failed to read {name}: {read.msg}")

/-- `_holding_registers_for_model`, sorted by address. -/
def holdingRegistersForModel (model : String) : List (Nat × HoldingRegister) :=
  (filterHoldingRegisters holdingRegisters model).mergeSort fun a b => a.1 ≤ b.1

/-- The registers that were read, by name. -/
def listedRegisters (raw : Dict Nat Nat) (model : String) : Dict String HoldingRead :=
  .ofList ((holdingRegistersForModel model).filterMap fun e =>
    (raw.get? e.1).map fun value => (e.2.name, holdingRead e.1 value e.2))

/-- `api_holding_list`. -/
def apiHoldingList : Py (Dict String HoldingRead) := do
  let dongle ← requireDongle
  let raw ← readAllHoldingRegisters dongle
  let model ← resolveModelApi
  return listedRegisters raw model

/-- The requests for holding registers. -/
inductive HoldingRequest
  | put (name : String) (body : HoldingUpdate)
  | multi (startName : String) (body : HoldingMultiUpdate)
  | get (name : String)
  | list

inductive HoldingResponse
  | written (w : HoldingWritten)
  | block (w : HoldingMultiWritten)
  | registers (reads : List HoldingRead)

def HoldingRequest.run : HoldingRequest → Py HoldingResponse
  | .put name body => do
    let w ← apiHoldingPut name body
    return .written w
  | .multi startName body => do
    let w ← apiHoldingMultiWrite startName body
    return .block w
  | .get name => do
    let read ← apiHoldingGet name
    return .registers [read]
  | .list => do
    let reads ← apiHoldingList
    return .registers (reads.entries.map Prod.snd)

/-! ## What a run was told -/

/-- A block read of the run, answered without an error, has this value for the register. -/
def Told (tr : List Ev) (reg value : Nat) : Prop :=
  ∃ d start count, ∃ reply : Reply (.readHold start count),
    ⟨.transact d (.readHold start count), .ok (some reply)⟩ ∈ tr ∧ reply.1.isError = false ∧ start ≤ reg ∧
      reply.1.values[reg - start]? = some value

theorem Told.append_left {t u : List Ev} {reg value : Nat} (h : Told u reg value) : Told (t ++ u) reg value := by
  obtain ⟨d, start, count, reply, hev, hrest⟩ := h
  exact ⟨d, start, count, reply, List.mem_append_right _ hev, hrest⟩

theorem Told.append_right {t u : List Ev} {reg value : Nat} (h : Told t reg value) : Told (t ++ u) reg value := by
  obtain ⟨d, start, count, reply, hev, hrest⟩ := h
  exact ⟨d, start, count, reply, List.mem_append_left _ hev, hrest⟩

theorem get?_blockOf {start reg value : Nat} {values : List Nat} (h : (blockOf start values).get? reg = some value) :
    start ≤ reg ∧ values[reg - start]? = some value := by
  obtain ⟨i, hi, hentry⟩ := List.mem_mapIdx.mp (Dict.mem_of_get?_ofList h)
  obtain ⟨rfl, rfl⟩ := Prod.mk.inj hentry
  exact ⟨Nat.le_add_right _ _, by rw [Nat.add_sub_cancel_left, List.getElem?_eq_getElem hi]⟩

theorem readHoldingBlock_told {d : Dongle} {start count : Nat} {tr : List Ev} {read : BlockRead}
    (h : (readHoldingBlock d start count).Run tr (.ok read)) (hok : read.ok = true) {reg value : Nat}
    (hvalue : read.block.get? reg = some value) : Told tr reg value := by
  obtain ⟨answer, rfl, rfl⟩ := readHoldingBlock_run h
  cases answer with
  | none => cases hok
  | some reply =>
    have herror := blockResult_ok_iff.mp hok
    have hblock : (blockOf start reply.1.values).get? reg = some value := by
      unfold blockResult at hvalue
      simpa only [herror, Bool.false_eq_true, if_false] using hvalue
    obtain ⟨hstart, hvalues⟩ := get?_blockOf hblock
    exact ⟨d, start, count, reply, List.mem_singleton_self _, herror, hstart, hvalues⟩

theorem readBatch_told {d : Dongle} {start count tries attempt : Nat} {last read : BlockRead} {tr : List Ev}
    (h : (readBatch d start count tries attempt last).Run tr (.ok read)) (hlast : last.ok = false) (hok : read.ok = true)
    {reg value : Nat} (hvalue : read.block.get? reg = some value) : Told tr reg value := by
  induction tries generalizing attempt last tr with
  | zero =>
    cases h.2
    rw [hlast] at hok
    cases hok
  | succ tries ih =>
    obtain ⟨first, t, u, rfl, ht, hu⟩ := (run_bind_ok _ _ _ _).mp h
    by_cases hfirst : first.ok = true
    · rw [if_pos hfirst] at hu
      cases hu.2
      exact (readHoldingBlock_told ht hok hvalue).append_right
    · rw [if_neg hfirst] at hu
      obtain ⟨slept, v, rfl, hv⟩ := hu
      have hrest : (readBatch d start count tries (attempt + 1) first).Run v (.ok read) := hv
      exact (Told.append_left (t := [_]) (ih hrest (Bool.eq_false_iff.mpr hfirst))).append_left

theorem readBatches_told {d : Dongle} {batches : List (Nat × Nat)} {raw out : Dict Nat Nat} {tr : List Ev}
    (h : (readBatches d batches raw).Run tr (.ok out)) {reg value : Nat} (hvalue : out.get? reg = some value) :
    raw.get? reg = some value ∨ Told tr reg value := by
  induction batches generalizing raw tr with
  | nil =>
    cases h.2
    exact Or.inl hvalue
  | cons b batches ih =>
    obtain ⟨read, t, u, rfl, ht, hu⟩ := (run_bind_ok _ _ _ _).mp h
    obtain ⟨slept, v, rfl, hv⟩ := hu
    have hrest : (readBatches d batches (if read.ok then raw.update read.block else raw)).Run v (.ok out) := hv
    rcases ih hrest with hold | htold
    · by_cases hok : read.ok = true
      · rw [if_pos hok, Dict.get?_update] at hold
        rcases Option.or_eq_some_iff.mp hold with hread | ⟨-, hraw⟩
        · exact Or.inr (readBatch_told ht rfl hok hread).append_right
        · exact Or.inl hraw
      · rw [if_neg hok] at hold
        exact Or.inl hold
    · exact Or.inr (Told.append_left (t := [_]) htold).append_left

theorem apiHoldingGet_told {name : String} {tr : List Ev} {read : HoldingRead}
    (h : (apiHoldingGet name).Run tr (.ok read)) :
    read.name = name ∧ holdingByName name = some read.address ∧ Told tr read.address read.raw := by
  unfold apiHoldingGet at h
  cases hreg : holdingByName name with
  | none =>
    rw [hreg] at h
    cases ((run_ofExcept _ _ _).mp h).2
  | some reg =>
    rw [hreg] at h
    obtain ⟨model, t₁, u₁, rfl, -, h₁⟩ := (run_bind_ok _ _ _ _).mp h
    split at h₁
    · cases ((run_ofExcept _ _ _).mp h₁).2
    · obtain ⟨dongle, t₂, u₂, rfl, -, h₂⟩ := (run_bind_ok _ _ _ _).mp h₁
      obtain ⟨info, t₃, u₃, rfl, -, h₃⟩ := (run_bind_ok _ _ _ _).mp h₂
      obtain ⟨block, t₄, u₄, rfl, hblock, h₄⟩ := (run_bind_ok _ _ _ _).mp h₃
      cases hvalue : (if block.ok then block.block.get? reg else none) with
      | none =>
        rw [hvalue] at h₄
        cases ((run_ofExcept _ _ _).mp h₄).2
      | some raw =>
        rw [hvalue] at h₄
        cases h₄.2
        by_cases hok : block.ok = true
        · rw [if_pos hok] at hvalue
          have htold := readHoldingBlock_told hblock hok hvalue
          exact ⟨rfl, rfl, htold.append_right.append_left.append_left.append_left⟩
        · rw [if_neg hok] at hvalue
          cases hvalue

theorem apiHoldingList_told {tr : List Ev} {reads : Dict String HoldingRead}
    (h : apiHoldingList.Run tr (.ok reads)) {name : String} {read : HoldingRead}
    (hread : reads.get? name = some read) :
    (∃ info, (read.address, info) ∈ holdingRegisters ∧ info.name = read.name) ∧ Told tr read.address read.raw := by
  obtain ⟨dongle, t₁, u₁, rfl, -, h₁⟩ := (run_bind_ok _ _ _ _).mp h
  obtain ⟨raw, t₂, u₂, rfl, hraw, h₂⟩ := (run_bind_ok _ _ _ _).mp h₁
  obtain ⟨model, t₃, u₃, rfl, -, h₃⟩ := (run_bind_ok _ _ _ _).mp h₂
  cases h₃.2
  obtain ⟨e, he, hentry⟩ := List.mem_filterMap.mp (Dict.mem_of_get?_ofList hread)
  obtain ⟨value, hvalue, hentry⟩ := Option.map_eq_some_iff.mp hentry
  cases hentry
  have hmem : e ∈ holdingRegisters := (List.mem_filter.mp (List.mem_mergeSort.mp he)).1
  refine ⟨⟨e.2, hmem, rfl⟩, ?_⟩
  rcases readBatches_told hraw hvalue with hnone | htold
  · cases hnone
  · exact htold.append_right.append_left

/-- What a request answers of a register was told by a block read. -/
theorem holdingRequest_told {request : HoldingRequest} {tr : List Ev} {reads : List HoldingRead}
    (h : request.run.Run tr (.ok (.registers reads))) : ∀ read ∈ reads, Told tr read.address read.raw := by
  cases request with
  | put name body =>
    obtain ⟨w, t, u, rfl, -, hret⟩ := (run_bind_ok _ _ _ _).mp h
    cases hret.2
  | multi startName body =>
    obtain ⟨w, t, u, rfl, -, hret⟩ := (run_bind_ok _ _ _ _).mp h
    cases hret.2
  | get name =>
    obtain ⟨read, t, u, rfl, hget, hret⟩ := (run_bind_ok _ _ _ _).mp h
    cases hret.2
    intro read' hread'
    obtain rfl := List.mem_singleton.mp hread'
    exact (apiHoldingGet_told hget).2.2.append_right
  | list =>
    obtain ⟨all, t, u, rfl, hlist, hret⟩ := (run_bind_ok _ _ _ _).mp h
    cases hret.2
    intro read hread
    obtain ⟨⟨name, read⟩, he, rfl⟩ := List.mem_map.mp hread
    exact (apiHoldingList_told hlist (Dict.mem_entries.mp he)).2.append_right

/-! ## What a PUT has seen -/

/-- The last thing a read-back that succeeds does is to see the value. -/
theorem readBack_seen {d : Dongle} {reg tries : Nat} {raw : ℤ} {tr : List Ev}
    (h : (readBack d reg raw tries).Run tr (.ok true)) :
    ∃ t, ∃ reply : Reply (.readHoldOne reg), tr = t ++ [⟨.transact d (.readHoldOne reg), .ok (some reply)⟩] ∧
      reply.1.isError = false ∧ (reply.1.values.headD 0 : ℤ) = raw := by
  induction tries generalizing tr with
  | zero => cases h.2
  | succ tries ih =>
    obtain ⟨res, t, u, rfl, hres, hu⟩ := (run_bind_ok _ _ _ _).mp h
    by_cases hconfirms : res.confirms raw
    · rw [if_pos hconfirms] at hu
      obtain ⟨rfl, -⟩ := (run_pure _ _ _).mp hu
      obtain ⟨frame, t₁, u₁, rfl, hframe, hret⟩ := (run_bind_ok _ _ _ _).mp hres
      obtain ⟨rfl, hresult⟩ := (run_pure _ _ _).mp hret
      obtain rfl := Except.ok.inj hresult
      rcases run_transact.mp hframe with ⟨e, -, -, he⟩ | ⟨b, -, rfl⟩
      · cases he
      · cases hread : readResult reg frame with
        | error msg =>
          rw [hread] at hconfirms
          cases hconfirms
        | ok told =>
          rw [hread] at hconfirms
          have htold : Except.map (readResult reg) (.ok frame : Except PyErr _) = .ok (.ok (told.1, told.2)) :=
            congrArg Except.ok hread
          obtain ⟨reply, hreply, herror, hvalue⟩ := readResult_ok htold
          obtain rfl := Except.ok.inj hreply
          have hraw : (told.1 : ℤ) = raw := by simpa [ReadResult.confirms] using hconfirms
          exact ⟨[], reply, by simp, herror, by rw [← hraw, hvalue]⟩
    · rw [if_neg hconfirms] at hu
      obtain ⟨slept, v, rfl, hv⟩ := hu
      obtain ⟨t', reply, rfl, hreply⟩ := ih hv
      exact ⟨t ++ ⟨.sleep 0.5, slept⟩ :: t', reply, by simp, hreply⟩

theorem apiHoldingPut_seen {name : String} {body : HoldingUpdate} {tr : List Ev} {w : HoldingWritten}
    (h : (apiHoldingPut name body).Run tr (.ok w)) :
    holdingByName name = some w.address ∧
      (∃ info, holdingRegister w.address = some info ∧ requestedRaw name info body = .ok w.raw) ∧
      ∃ t d, ∃ reply : Reply (.readHoldOne w.address),
        tr = t ++ [⟨.transact d (.readHoldOne w.address), .ok (some reply)⟩] ∧ reply.1.isError = false ∧
          (reply.1.values.headD 0 : ℤ) = w.raw := by
  unfold apiHoldingPut at h
  cases hreg : holdingByName name with
  | none =>
    rw [hreg] at h
    cases ((run_ofExcept _ _ _).mp h).2
  | some reg =>
    rw [hreg] at h
    obtain ⟨model, t₁, u₁, rfl, -, h₁⟩ := (run_bind_ok _ _ _ _).mp h
    split at h₁
    · cases ((run_ofExcept _ _ _).mp h₁).2
    · obtain ⟨info, t₂, u₂, rfl, hinfo, h₂⟩ := (run_bind_ok _ _ _ _).mp h₁
      obtain ⟨raw, t₃, u₃, rfl, hraw, h₃⟩ := (run_bind_ok _ _ _ _).mp h₂
      obtain ⟨dongle, t₄, u₄, rfl, -, h₄⟩ := (run_bind_ok _ _ _ _).mp h₃
      obtain ⟨res, t₅, u₅, rfl, -, h₅⟩ := (run_bind_ok _ _ _ _).mp h₄
      cases res with
      | error msg => cases ((run_ofExcept _ _ _).mp h₅).2
      | ok msg =>
        obtain ⟨verified, t₆, u₆, rfl, hback, h₆⟩ := (run_bind_ok _ _ _ _).mp h₅
        cases verified with
        | false =>
          rw [if_neg Bool.false_ne_true] at h₆
          cases ((run_ofExcept _ _ _).mp h₆).2
        | true =>
          obtain ⟨rfl, hw⟩ := (run_pure _ _ _).mp h₆
          cases hw
          obtain ⟨t, reply, rfl, herror, hvalue⟩ := readBack_seen hback
          have hrow : holdingRegister reg = some info := by
            have hinfo := ((run_ofExcept _ _ _).mp hinfo).2
            unfold registerInfo at hinfo
            cases hrow : holdingRegister reg with
            | none =>
              rw [hrow] at hinfo
              cases hinfo
            | some row =>
              rw [hrow] at hinfo
              exact congrArg some (Except.ok.inj hinfo).symm
          refine ⟨rfl, ⟨info, hrow, ((run_ofExcept _ _ _).mp hraw).2.symm⟩, t₁ ++ (t₂ ++ (t₃ ++ (t₄ ++ (t₅ ++ t)))), dongle, reply, ?_,
            herror, hvalue⟩
          simp

/-! ## All requests -/

section
variable {pol : Policy} {w w' : World} {reg : Nat}

/-- Steps that do not set a register leave it. -/
theorem regs_unset {tr : List Ev} (hs : Steps (World.step pol) w tr w') (h : ∀ ev ∈ tr, ev.1.setsReg reg = none) :
    w'.regs reg = w.regs reg := by
  induction tr generalizing w with
  | nil => rw [show w' = w from hs]
  | cons ev tr ih =>
    obtain ⟨m, hm, ht⟩ := hs
    obtain ⟨applied, -, rfl⟩ := step_iff.mp hm
    have hunwritten : ev.1.writes (.reg reg) = false := by
      show (ev.1.setsReg reg).isSome = false
      rw [h ev List.mem_cons_self]
      rfl
    rw [ih ht fun ev' hev' => h ev' (List.mem_cons_of_mem ev hev'), after_unwritten_reg hunwritten]

/-- A read between no writes tells the register. -/
theorem told_between {tr : List Ev} (hs : Steps (World.step pol) w tr w') (h : ∀ ev ∈ tr, ev.1.setsReg reg = none)
    {value : Nat} (htold : Told tr reg value) : value = (w.regs reg).toNat := by
  obtain ⟨d, start, count, reply, hev, herror, hstart, hvalue⟩ := htold
  obtain ⟨t, u, rfl⟩ := List.append_of_mem hev
  obtain ⟨m, hm, m', hstep, -⟩ := steps_append.mp hs
  have hm := regs_unset hm fun ev hev => h ev (List.mem_append_left _ hev)
  obtain ⟨-, -, hvalues⟩ := hstep
  rw [hvalues reply rfl herror, List.getElem?_map] at hvalue
  obtain ⟨i, hi, hvalue⟩ := Option.map_eq_some_iff.mp hvalue
  obtain ⟨_, hi⟩ := List.getElem?_eq_some_iff.mp hi
  rw [List.getElem_range] at hi
  rw [← hvalue, ← hi, Nat.add_sub_cancel' hstart, hm]

end

/-- Once a PUT has returned and until its register is written again, every request that reads the register
answers the value of the PUT, which is the one that was asked for to the resolution of the register. -/
theorem holding_read_your_write {ι : Type} [DecidableEq ι] {pol : Policy} {requests : ι → HoldingRequest} {w w' : World}
    {tr : List (ι × Ev)} {out : ι → Except PyErr HoldingResponse}
    (hrun : PoolRun (World.step pol) w (fun i => (requests i).run) tr w' out) {i : ι} {name : String}
    {body : HoldingUpdate} (hi : requests i = .put name body) {put : HoldingWritten} (hput : out i = .ok (.written put)) :
    (∃ info, holdingRegister put.address = some info ∧
      ∀ v, body.AsksFor info v → RoundsTo info.scale v (put.raw * info.scale)) ∧
    ∃ before ev after, tr = before ++ (i, ev) :: after ∧ only i after = [] ∧
      ∀ during rest j reads, after = during ++ rest → only j before = [] → only j rest = [] →
        (∀ x ∈ during, x.2.1.setsReg put.address = none) → out j = .ok (.registers reads) →
        ∀ read ∈ reads, read.address = put.address → (read.raw : ℤ) = put.raw := by
  obtain ⟨hruns, hsteps⟩ := (poolRun_iff _ _ _ _ _ _).mp hrun
  have hrequest := hruns i
  rw [hi, hput] at hrequest
  obtain ⟨written, t, u, honly, hrunPut, hret⟩ := (run_bind_ok _ _ _ _).mp hrequest
  obtain ⟨rfl, hwritten⟩ := (run_pure _ _ _).mp hret
  cases hwritten
  obtain ⟨hname, ⟨info, hrow, hraw⟩, t', d, reply, rfl, herror, hseen⟩ := apiHoldingPut_seen hrunPut
  refine ⟨⟨info, hrow, fun v hv => ?_⟩, ?_⟩
  · rw [(accepted_raw hrow hraw).2.2.2 v hv]
    exact roundsTo_roundHalfEven (scale_pos hrow) v
  · rw [List.append_nil] at honly
    obtain ⟨before, after, rfl, -, hafter⟩ := exists_of_only_eq honly
    refine ⟨before, _, after, rfl, hafter, fun during rest j reads hsplit hbefore hrest hunset hout => ?_⟩
    subst hsplit
    intro read hread haddress
    have hij : i ≠ j := by
      rintro rfl
      rw [hput] at hout
      cases hout
    have hj := hruns j
    rw [hout, only_append, hbefore, List.nil_append, only_cons, if_neg hij, only_append, hrest, List.append_nil] at hj
    have htold := holdingRequest_told hj read hread
    -- the state that the read-back has seen
    rw [List.map_append, List.map_cons, List.map_append] at hsteps
    obtain ⟨m, -, seen, ⟨hseenState, -, hvalues⟩, hafterSteps⟩ := steps_append.mp hsteps
    rw [hseenState] at hafterSteps
    obtain ⟨later, hduring, -⟩ := steps_append.mp hafterSteps
    have hreg : (m.regs put.address).toNat = reply.1.values.headD 0 := by
      rw [List.headD_eq_head?_getD, hvalues reply rfl herror]
      rfl
    have hunset' : ∀ ev ∈ during.map Prod.snd, ev.1.setsReg put.address = none := by
      intro ev hev
      obtain ⟨x, hx, rfl⟩ := List.mem_map.mp hev
      exact hunset x hx
    have htold' : Told (during.map Prod.snd) put.address read.raw := by
      obtain ⟨d, start, count, reply, hev, hrest⟩ := haddress ▸ htold
      exact ⟨d, start, count, reply, List.mem_map.mpr ⟨_, mem_only.mp hev, rfl⟩, hrest⟩
    rw [told_between hduring hunset' htold', hreg, hseen]

/-- A PUT, and a GET of the same register. -/
def putThenGet : Bool → HoldingRequest
  | false => .put "charge_power_percent" { raw := some 40 }
  | true => .get "charge_power_percent"

def putThenGetRun :=
  execPool World.answer (List.replicate 8 false ++ List.replicate 8 true) idleWorld fun i => (putThenGet i).run

def HoldingResponse.put? : HoldingResponse → Option HoldingWritten
  | .written put => some put
  | _ => none

def HoldingResponse.reads : HoldingResponse → List HoldingRead
  | .registers reads => reads
  | _ => []

/-- The GET after the PUT answers its value. -/
theorem putThenGet_answer : ∃ (w' : World) (out : Bool → Except PyErr HoldingResponse) (put : HoldingWritten)
    (read : HoldingRead), PoolRun (World.step .reliable) idleWorld (fun i => (putThenGet i).run) putThenGetRun.1 w' out ∧
      out false = .ok (.written put) ∧ out true = .ok (.registers [read]) ∧ put.raw = 40 ∧ (read.raw : ℤ) = 40 := by
  have hput : (putThenGetRun.2.2 false).returns (fun response =>
      decide (response.put?.map (fun put => (put.address, put.raw)) = some (64, 40))) = true := by
    decide +kernel
  have hget : (putThenGetRun.2.2 true).returns (fun response =>
      decide (response.reads.map (fun read => read.address) = [64])) = true := by
    decide +kernel
  -- all of the PUT comes first, and the GET writes nothing
  have horder : (putThenGetRun.1.map Prod.fst).Pairwise fun a b => a = true → b = true := by
    decide +kernel
  have hunset : (putThenGetRun.1.all fun x => !x.1 || (x.2.1.setsReg 64).isNone) = true := by
    decide +kernel
  obtain ⟨written, hwritten, hput⟩ := Prog.returns_iff.mp hput
  obtain ⟨answer, hanswer, hget⟩ := Prog.returns_iff.mp hget
  have hrun : PoolRun (World.step .reliable) idleWorld (fun i => (putThenGet i).run) putThenGetRun.1 putThenGetRun.2.1
      fun i => if i then .ok answer else .ok written := by
    refine execPool_spec (World.step .reliable) _ World.answer_step _ _ _ _ fun i => ?_
    cases i with
    | false => exact hwritten ▸ ⟨rfl, rfl⟩
    | true => exact hanswer ▸ ⟨rfl, rfl⟩
  cases written with
  | block w => cases of_decide_eq_true hput
  | registers reads => cases of_decide_eq_true hput
  | written put =>
  cases answer with
  | block w => cases of_decide_eq_true hget
  | written w => cases of_decide_eq_true hget
  | registers reads =>
    obtain ⟨haddress, hraw⟩ := Prod.mk.inj (Option.some.inj (of_decide_eq_true hput))
    obtain ⟨read, rfl, hreadAddress⟩ := List.map_eq_singleton_iff.mp (of_decide_eq_true hget)
    have hread : read.address = put.address := hreadAddress.trans haddress.symm
    obtain ⟨-, before, ev, after, htr, hafter, hanswers⟩ := holding_read_your_write hrun (i := false) rfl rfl
    refine ⟨_, _, put, read, hrun, rfl, rfl, hraw, ?_⟩
    rw [← hraw]
    refine hanswers after [] true [read] (List.append_nil _).symm ?_ rfl (fun x hx => ?_) rfl read
      List.mem_cons_self hread
    · rw [htr, List.map_append, List.map_cons, List.pairwise_append] at horder
      refine List.eq_nil_iff_forall_not_mem.mpr fun ev' hev' => ?_
      have hlater := horder.2.2 true (List.mem_map.mpr ⟨_, mem_only.mp hev', rfl⟩) false List.mem_cons_self rfl
      cases hlater
    · have htrue : x.1 = true := by
        by_contra hfalse
        have hmem : x.2 ∈ only false after := mem_only.mpr (by rwa [← Bool.eq_false_iff.mpr hfalse])
        rw [hafter] at hmem
        exact List.not_mem_nil hmem
      have h := List.all_eq_true.mp hunset x (htr ▸ List.mem_append_right _ (List.mem_cons_of_mem _ hx))
      rw [haddress]
      simpa [htrue] using h

end LuxMon
