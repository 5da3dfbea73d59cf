import LuxMon.Effects.Ensures
import LuxMon.Protocol.Requests
import LuxMon.Python.Json

/-!
# Dongle transactions and the other effects of the program

The code above the connection layer is written as effect programs (`Py`).  Its
effects are the dongle transactions, the statements on the settings and log
tables, the clocks, sleeping and sending a notification; every one that can raise
is answered by an `Except`.  A transaction is answered by an exception, by no
frame, or by a frame that the request's match predicate accepts (`Reply`).

The read and write primitives that the automation engine, the quick charge and
the API share are at the end, each with the lemma that says what it asks for and
what it returns.
-/

namespace LuxMon

open Python Effects

/-- What `get_shared_connection` is called with. -/
structure Dongle where
  host : String
  port : ℤ
  datalogSerial : String
  inverterSerial : String
  deriving DecidableEq

/-- The transactions that the program starts. -/
inductive Request
  | readHoldOne (register : Nat)
  | readHold (start count : Nat)
  | readInput (start count : Nat)
  | writeSingle (register : Nat) (value : ℤ)
  | writeMulti (start : Nat) (values : List ℤ)
  deriving DecidableEq

namespace Request

/-- The packet of a request. -/
def encode (d : Dongle) : Request → Except PyErr Bytes
  | .readHoldOne r => buildReadRequest d.datalogSerial d.inverterSerial modbusReadHold r 1
  | .readHold s n => buildReadRequest d.datalogSerial d.inverterSerial modbusReadHold s n
  | .readInput s n => buildReadRequest d.datalogSerial d.inverterSerial modbusReadInput s n
  | .writeSingle r v => buildWriteRequest d.datalogSerial d.inverterSerial r v
  | .writeMulti s vs => buildWriteMultiRequest d.datalogSerial d.inverterSerial s vs

/-- The match predicate that goes with a request; each accepts every error frame. -/
def accepts (req : Request) (f : LuxFrame) : Bool :=
  if f.isError then true
  else match req with
    | .readHoldOne r => f.isReadHold && f.register == r && !f.values.isEmpty
    | .readHold s _ => f.isReadHold && f.register == s
    | .readInput s _ => f.isReadInput && f.register == s
    | .writeSingle r _ => f.deviceFunction == modbusWriteSingle && f.register == r
    | .writeMulti s _ => f.deviceFunction == modbusWriteMulti && f.register == s

/-- The request can change holding registers. -/
@[simp] def isWrite : Request → Bool
  | .writeSingle _ _ => true
  | .writeMulti _ _ => true
  | _ => false

end Request

/-- A frame that the match predicate of a request accepts. -/
abbrev Reply (req : Request) := { f : LuxFrame // req.accepts f = true }

/-- Wall-clock time in the configured timezone, as far as the conditions read it. -/
structure LocalTime where
  hour : Nat
  minute : Nat
  weekday : String
  month : String

/-- One row of the automation log table. -/
structure LogRow where
  ruleId : String
  ruleName : Json
  registerName : Json
  raw : Option ℤ
  scaled : Option PyFloat
  dryRun : Bool
  success : Bool
  message : String

/-- The effects.  `getSetting` and `getDocument` are the same SELECT: a document
is a row whose text is read by `json.loads` (`none` inside: no JSON). -/
inductive Op
  | transact (d : Dongle) (req : Request)
  | getSetting (name : String)
  | setSetting (name value : String)
  | getDocument (name : String)
  | setDocument (name : String) (value : Json)
  | insertLog (row : LogRow)
  | getenv (name : String)
  | time
  | utcNow
  | nowInTz (tz : String)
  | sleep (seconds : ℚ)
  | notify (name message : Json)

@[reducible] def Op.Answer : Op → Type
  | .transact _ req => Except PyErr (Option (Reply req))
  | .getSetting _ => Except PyErr (Option String)
  | .setSetting _ _ => Except PyErr Unit
  | .getDocument _ => Except PyErr (Option (Option Json))
  | .setDocument _ _ => Except PyErr Unit
  | .insertLog _ => Except PyErr Unit
  | .getenv _ => Option String
  | .time => ℚ
  | .utcNow => String
  | .nowInTz _ => LocalTime
  | .sleep _ => Unit
  | .notify _ _ => Except PyErr Unit

/-- The effect can change registers. -/
@[simp] def Op.writesRegs : Op → Bool
  | .transact _ req => req.isWrite
  | _ => false

/-- A single-register read of `r`. -/
def Op.readsReg (r : Nat) : Op → Bool
  | .transact _ (.readHoldOne r') => r' == r
  | _ => false

/-- A single-register write of `r`. -/
def Op.writesReg (r : Nat) : Op → Bool
  | .transact _ (.writeSingle r' _) => r' == r
  | _ => false

/-- No transaction. -/
@[simp] def Op.quiet : Op → Bool
  | .transact _ _ => false
  | _ => true

/-- No transaction but single-register reads and writes of `r`. -/
@[simp] def Op.within (r : Nat) : Op → Bool
  | .transact _ (.readHoldOne r') => r' == r
  | .transact _ (.writeSingle r' _) => r' == r
  | .transact _ _ => false
  | _ => true

theorem Op.within_transact {r : Nat} {d : Dongle} {req : Request}
    (h : (Op.transact d req).within r = true) :
    req = .readHoldOne r ∨ ∃ v, req = .writeSingle r v := by
  cases req <;> simp_all

theorem Op.writesRegs_of_readsReg {r : Nat} {op : Op} (h : op.readsReg r = true) :
    op.writesRegs = false := by
  cases op with
  | transact d req => cases req <;> first | rfl | cases h
  | _ => rfl

/-- The effect can change a document. -/
@[simp] def Op.storesDocument : Op → Bool
  | .setDocument _ _ => true
  | _ => false

/-- The effect can change a setting. -/
@[simp] def Op.storesSetting : Op → Bool
  | .setSetting _ _ => true
  | _ => false

/-- Programs of the code above the connection layer. -/
abbrev Py (α : Type) := Prog Op Op.Answer PyErr α

abbrev Ev := Event Op Op.Answer

/-- The transaction got a frame that is no error. -/
def answered {req : Request} (a : Except PyErr (Option (Reply req))) : Bool :=
  match a with
  | .ok (some f) => !f.1.isError
  | _ => false

/-- The operation failed: a transaction without an answer, a statement that raised. -/
def failed : Ev → Bool
  | ⟨.transact _ _, a⟩ => !answered a
  | ⟨.getSetting _, a⟩ => !a.isOk
  | ⟨.setSetting _ _, a⟩ => !a.isOk
  | ⟨.getDocument _, a⟩ => !a.isOk
  | ⟨.setDocument _ _, a⟩ => !a.isOk
  | ⟨.insertLog _, a⟩ => !a.isOk
  | ⟨.notify _ _, a⟩ => !a.isOk
  | _ => false

/-- A transaction raised. -/
def raised : Ev → Bool
  | ⟨.transact _ _, .error _⟩ => true
  | _ => false

/-- A single-register write of `r` was sent. -/
def sends (r : Nat) (tr : List Ev) : Bool := tr.any fun ev => ev.1.writesReg r

@[simp] theorem sends_append (r : Nat) (t u : List Ev) : sends r (t ++ u) = (sends r t || sends r u) :=
  List.any_append

/-- `get_shared_connection(…).transact(request, match)`. -/
def transact (d : Dongle) (req : Request) : Py (Option (Reply req)) := do
  let _packet ← Prog.ofExcept (req.encode d)
  let answer : Except PyErr (Option (Reply req)) ← Prog.perform (Op.transact d req)
  Prog.ofExcept answer

/-! ## The read and write primitives -/

/-- `(True, value, msg)` is `.ok (value, msg)`, `(False, None, msg)` is `.error msg`. -/
abbrev ReadResult := Except String (Nat × String)

/-- `(True, msg)` is `.ok msg`, `(False, msg)` is `.error msg`. -/
abbrev WriteResult := Except String String

def errorMessage (f : LuxFrame) : String := s!"Modbus error response: code {f.errorCode}"

/-- What `_read_holding_register` makes of the frame it gets (the predicate has
made sure that `values[0]` exists). -/
def readResult (register : Nat) : Option (Reply (.readHoldOne register)) → ReadResult
  | none => .error "No valid read response received"
  | some f =>
    if f.1.isError then .error (errorMessage f.1)
    else .ok (f.1.values.headD 0, s!"Read back {register} = {f.1.values.headD 0}")

def readHoldingRegister (d : Dongle) (register : Nat) : Py ReadResult := do
  let frame ← transact d (.readHoldOne register)
  return readResult register frame

/-- What `_write_holding_register` makes of the frame it gets; an echo of another
value counts as success. -/
def writeResult (register : Nat) (value : ℤ) :
    Option (Reply (.writeSingle register value)) → WriteResult
  | none => .error "No valid write response received"
  | some f =>
    if f.1.isError then .error (errorMessage f.1)
    else if f.1.values.head?.map Nat.cast = some value then
      .ok s!"Wrote register {register} = {value}"
    else .ok s!"Write accepted (echo value {f.1.values})"

def writeHoldingRegister (d : Dongle) (register : Nat) (value : ℤ) : Py WriteResult := do
  let frame ← transact d (.writeSingle register value)
  return writeResult register value frame

/-- What `_write_holding_registers` makes of the frame it gets. -/
def writeMultiResult (start : Nat) (values : List ℤ) :
    Option (Reply (.writeMulti start values)) → WriteResult
  | none => .error "No valid write response received"
  | some f =>
    if f.1.isError then .error (errorMessage f.1)
    else if f.1.writeCount = values.length then
      .ok s!"Wrote {values.length} registers starting at {start}"
    else .ok s!"Write accepted (echo count {f.1.writeCount})"

def writeHoldingRegisters (d : Dongle) (start : Nat) (values : List ℤ) : Py WriteResult := do
  let frame ← transact d (.writeMulti start values)
  return writeMultiResult start values frame

/-- The read reported the raw value `raw`. -/
def ReadResult.confirms (r : ReadResult) (raw : ℤ) : Bool :=
  match r with
  | .ok (v, _) => (v : ℤ) == raw
  | .error _ => false

/-- The read-back loop: `tries` times read the register, stop as soon as it holds `raw`. -/
def readBack (d : Dongle) (register : Nat) (raw : ℤ) : (tries : Nat) → Py Bool
  | 0 => return false
  | tries + 1 => do
    let res ← readHoldingRegister d register
    if res.confirms raw then return true
    Prog.perform (Op.sleep 0.5)
    readBack d register raw tries

/-! ## What the primitives ask for and return -/

section
variable {d : Dongle} {tr : List Ev} {P : Op → Prop}

theorem transact_eq {req : Request} {b : Bytes} (h : req.encode d = .ok b) :
    transact d req = .ask (.transact d req) Prog.ofExcept := by
  unfold transact
  rw [h]
  rfl

theorem transact_asks {req : Request} (h : P (.transact d req)) : (transact d req).Asks P :=
  Prog.asks_bind (Prog.asks_ofExcept _) fun _ => ⟨h, fun _ => Prog.asks_ofExcept _⟩

theorem readHoldingRegister_asks {r : Nat} (h : P (.transact d (.readHoldOne r))) :
    (readHoldingRegister d r).Asks P :=
  Prog.asks_bind (transact_asks h) fun _ => trivial

theorem writeHoldingRegister_asks {r : Nat} {v : ℤ} (h : P (.transact d (.writeSingle r v))) :
    (writeHoldingRegister d r v).Asks P :=
  Prog.asks_bind (transact_asks h) fun _ => trivial

theorem readBack_asks {r : Nat} {raw : ℤ} (h : P (.transact d (.readHoldOne r))) (hs : P (.sleep 0.5))
    (n : Nat) : (readBack d r raw n).Asks P := by
  induction n with
  | zero => exact trivial
  | succ n ih =>
    refine Prog.asks_bind (readHoldingRegister_asks h) fun res => ?_
    split
    · exact trivial
    · exact ⟨hs, fun _ => ih⟩

/-- Nothing is sent for a request that cannot be encoded; else there is one transaction. -/
theorem run_transact {req : Request} {out : Except PyErr (Option (Reply req))} :
    (transact d req).Run tr out ↔
      (∃ e, req.encode d = .error e ∧ tr = [] ∧ out = .error e) ∨
      ∃ b, req.encode d = .ok b ∧ tr = [⟨.transact d req, out⟩] := by
  unfold transact
  cases he : req.encode d with
  | error e =>
    simp only [Prog.ofExcept_error_bind, Prog.run_raise]
    constructor
    · rintro ⟨rfl, rfl⟩
      exact Or.inl ⟨e, rfl, rfl, rfl⟩
    · rintro (⟨e', h, rfl, rfl⟩ | ⟨b, h, -⟩)
      · cases h
        exact ⟨rfl, rfl⟩
      · cases h
  | ok b =>
    simp only [Prog.ofExcept_ok_bind, Prog.perform_bind, Prog.run_ask, Prog.run_ofExcept]
    constructor
    · rintro ⟨a, t, rfl, rfl, rfl⟩
      exact Or.inr ⟨b, rfl, rfl⟩
    · rintro (⟨e, h, -⟩ | ⟨-, -, rfl⟩)
      · cases h
      · exact ⟨out, [], rfl, rfl, rfl⟩

/-- The caller was told of success: `(True, …)`, or a dict with `"ok": True`. -/
def succeeded {α : Type} : Except PyErr (Except String α) → Bool
  | .ok (.ok _) => true
  | _ => false

variable {S : Type} {step : S → Ev → S → Prop} {s : S}

theorem transact_ensures (req : Request) :
    Ensures step s (transact d req) fun tr out s' =>
      ((∃ e, req.encode d = .error e ∧ out = .error e) ∧ tr = [] ∧ s' = s) ∨
      ((∃ b, req.encode d = .ok b) ∧ tr = [⟨.transact d req, out⟩] ∧
        step s ⟨.transact d req, out⟩ s') := by
  intro tr out s' hr hs
  rcases run_transact.mp hr with ⟨e, he, rfl, rfl⟩ | ⟨b, hb, rfl⟩
  · exact Or.inl ⟨⟨e, he, rfl⟩, rfl, hs⟩
  · exact Or.inr ⟨⟨b, hb⟩, rfl, steps_single.mp hs⟩

theorem encode_readHoldOne {r : Nat} (hr : r ≤ 0xFFFF) :
    ∃ b, (Request.readHoldOne r).encode d = .ok b :=
  buildReadRequest_ok _ _ _ (by omega) (by omega)

theorem encode_writeSingle_iff {r : Nat} {v : ℤ} (hr : r ≤ 0xFFFF) :
    (∃ b, (Request.writeSingle r v).encode d = .ok b) ↔ 0 ≤ v ∧ v ≤ 0xFFFF := by
  show (∃ b, buildWriteRequest _ _ (r : ℤ) v = .ok b) ↔ _
  rw [buildWriteRequest_ok_iff]
  constructor
  · exact fun h => h.2
  · exact fun h => ⟨by omega, h⟩

/-- A successful read tells the first value of a frame that is no error. -/
theorem readResult_ok {r v : Nat} {msg : String}
    {a : Except PyErr (Option (Reply (.readHoldOne r)))}
    (h : a.map (readResult r) = .ok (.ok (v, msg))) :
    ∃ f, a = .ok (some f) ∧ f.1.isError = false ∧ v = f.1.values.headD 0 := by
  match a, h with
  | .ok (some f), h =>
    simp only [Except.map, readResult, Except.ok.injEq] at h
    split at h
    · cases h
    · next hf =>
      simp only [Except.ok.injEq, Prod.mk.injEq] at h
      exact ⟨f, rfl, by simpa using hf, h.1.symm⟩

/-- A read is one transaction; the caller is told of success exactly when it was answered. -/
theorem readHoldingRegister_ensures {r : Nat} (hr : r ≤ 0xFFFF) :
    Ensures step s (readHoldingRegister d r) fun tr out s' =>
      ∃ a : Except PyErr (Option (Reply (.readHoldOne r))),
        tr = [⟨.transact d (.readHoldOne r), a⟩] ∧ out = a.map (readResult r) ∧
        succeeded out = answered a ∧ step s ⟨.transact d (.readHoldOne r), a⟩ s' := by
  obtain ⟨b, hb⟩ := encode_readHoldOne (d := d) hr
  refine (transact_ensures _).bind (fun t a m h => ?_) (fun t x m h => ?_)
  · rcases h with ⟨⟨e, he, -⟩, -⟩ | ⟨-, rfl, hstep⟩
    · rw [hb] at he
      cases he
    · rw [ensures_pure]
      refine ⟨.ok a, rfl, rfl, ?_, hstep⟩
      match a with
      | none => rfl
      | some f => cases hf : f.1.isError <;> simp [readResult, succeeded, answered, hf]
  · rcases h with ⟨⟨e, he, -⟩, -⟩ | ⟨-, rfl, hstep⟩
    · rw [hb] at he
      cases he
    · exact ⟨.error x, rfl, rfl, rfl, hstep⟩

/-- A write is one transaction, or raises before one when the value is no 16-bit number. -/
theorem writeHoldingRegister_ensures {r : Nat} {v : ℤ} (hr : r ≤ 0xFFFF) :
    Ensures step s (writeHoldingRegister d r v) fun tr out s' =>
      (¬ (0 ≤ v ∧ v ≤ 0xFFFF) ∧ tr = [] ∧ s' = s ∧ ∃ e, out = .error e) ∨
      ((0 ≤ v ∧ v ≤ 0xFFFF) ∧ ∃ a : Except PyErr (Option (Reply (.writeSingle r v))),
        tr = [⟨.transact d (.writeSingle r v), a⟩] ∧ out = a.map (writeResult r v) ∧
        succeeded out = answered a ∧ step s ⟨.transact d (.writeSingle r v), a⟩ s') := by
  refine (transact_ensures _).bind (fun t a m h => ?_) (fun t x m h => ?_)
  · rcases h with ⟨⟨e, -, he⟩, -⟩ | ⟨hb, rfl, hstep⟩
    · cases he
    · rw [ensures_pure]
      refine Or.inr ⟨(encode_writeSingle_iff hr).mp hb, .ok a, rfl, rfl, ?_, hstep⟩
      match a with
      | none => rfl
      | some f =>
        cases hf : f.1.isError with
        | true => simp [writeResult, succeeded, answered, hf]
        | false =>
          simp only [writeResult, hf, answered, Bool.not_false]
          split
          · simp at *
          · split <;> rfl
  · rcases h with ⟨⟨e, he, -⟩, rfl, rfl⟩ | ⟨hb, rfl, hstep⟩
    · refine Or.inl ⟨fun hv => ?_, rfl, rfl, x, rfl⟩
      obtain ⟨b, hb⟩ := (encode_writeSingle_iff (d := d) hr).mpr hv
      rw [hb] at he
      cases he
    · exact Or.inr ⟨(encode_writeSingle_iff hr).mp hb, .error x, rfl, rfl, rfl, hstep⟩

/-! ## Exceptions -/

/-- A request that can be encoded raises only what its transaction raises. -/
theorem transact_raisesOn {req : Request} (h : ∃ b, req.encode d = .ok b) :
    (transact d req).RaisesOn raised := by
  obtain ⟨b, hb⟩ := h
  rw [transact_eq hb]
  rintro tr out ⟨a, t, rfl, ht⟩
  obtain ⟨rfl, rfl⟩ := (Prog.run_ofExcept _ _ _).mp ht
  cases out <;> rfl

theorem readHoldingRegister_raisesOn {r : Nat} (hr : r ≤ 0xFFFF) :
    (readHoldingRegister d r).RaisesOn raised :=
  Prog.raisesOn_bind (transact_raisesOn (encode_readHoldOne hr)) fun _ => Prog.raisesOn_pure _

theorem writeHoldingRegister_raisesOn {r : Nat} {v : ℤ} (hr : r ≤ 0xFFFF) (hv : 0 ≤ v ∧ v ≤ 0xFFFF) :
    (writeHoldingRegister d r v).RaisesOn raised :=
  Prog.raisesOn_bind (transact_raisesOn ((encode_writeSingle_iff hr).mpr hv)) fun _ =>
    Prog.raisesOn_pure _

theorem readBack_raisesOn {r : Nat} {raw : ℤ} (hr : r ≤ 0xFFFF) (n : Nat) :
    (readBack d r raw n).RaisesOn raised := by
  induction n with
  | zero => exact Prog.raisesOn_pure _
  | succ n ih =>
    refine Prog.raisesOn_bind (readHoldingRegister_raisesOn hr) fun res => ?_
    split
    · exact Prog.raisesOn_pure _
    · exact Prog.raisesOn_ask (fun _ => rfl) fun _ => ih

end

end LuxMon
