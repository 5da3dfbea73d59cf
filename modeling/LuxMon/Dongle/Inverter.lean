import LuxMon.Dongle.Transaction

/-!
# The inverter behind the dongle, and the database

The environment of the effect programs: the holding registers of the inverter and
the settings table.  A `Policy` says how it may misbehave.  Reads that are
answered tell the register; a write transaction may be echoed or not and applied
or not, as far as the policy allows; a failed statement changes nothing.

    a read-back loop that succeeds has seen the register           (readBack_spec)
    a step that writes no register changes none                    (step_keeps_regs)
    a step that stores no document changes none                    (step_keeps_documents)
    a step that stores no setting changes none                     (step_keeps_settings)
-/

namespace LuxMon

open Python Effects

/-- How the dongle and the database may behave. -/
structure Policy where
  /-- a read may stay unanswered (no frame, an error frame or an exception) -/
  readFails : Prop
  /-- a statement on the database may raise -/
  dbFails : Prop
  /-- `write n echoed applied`: so may the `n`-th write transaction turn out -/
  write : Nat → Bool → Bool → Prop

structure World where
  regs : Nat → UInt16
  /-- write transactions so far -/
  writes : Nat
  settings : String → Option String
  documents : String → Option (Option Json)
  environ : String → Option String

namespace World

/-- Contiguous registers set to the given values. -/
def setRegs (w : World) (start : Nat) (values : List ℤ) : World :=
  { w with regs := fun r =>
      if start ≤ r ∧ r < start + values.length then (values.getD (r - start) 0).toNat.toUInt16
      else w.regs r }

/-- One write transaction. -/
def writeStep (pol : Policy) (w : World) (start : Nat) (values : List ℤ) (echoed : Bool)
    (w' : World) : Prop :=
  ∃ applied, pol.write w.writes echoed applied ∧
    w' = { (if applied then w.setRegs start values else w) with writes := w.writes + 1 }

def transactStep (pol : Policy) (w : World) (w' : World) :
    (req : Request) → Except PyErr (Option (Reply req)) → Prop
  | .readHoldOne r, a => w' = w ∧ (answered a = false → pol.readFails) ∧
      ∀ f, a = .ok (some f) → f.1.isError = false → f.1.values.head? = some (w.regs r).toNat
  | .readHold s n, a => w' = w ∧ (answered a = false → pol.readFails) ∧
      ∀ f, a = .ok (some f) → f.1.isError = false →
        f.1.values = (List.range n).map fun i => (w.regs (s + i)).toNat
  | .readInput _ _, a => w' = w ∧ (answered a = false → pol.readFails)
  | .writeSingle r v, a => writeStep pol w r [v] (answered a) w'
  | .writeMulti s vs, a => writeStep pol w s vs (answered a) w'

/-- A SELECT answers the row; a failing statement raises. -/
def selects {α : Type} (pol : Policy) (a : Except PyErr α) (row : α) : Prop :=
  a = .ok row ∨ (pol.dbFails ∧ ∃ e, a = .error e)

/-- A statement takes effect (`after`) or raises and changes nothing (`before`). -/
def stores (pol : Policy) (a : Except PyErr Unit) (before after w' : World) : Prop :=
  (a = .ok () ∧ w' = after) ∨ (pol.dbFails ∧ (∃ e, a = .error e) ∧ w' = before)

/-- What the environment may answer in `w`, and the state afterwards. -/
def step (pol : Policy) (w : World) (ev : Ev) (w' : World) : Prop :=
  match ev with
  | ⟨.transact _ req, a⟩ => transactStep pol w w' req a
  | ⟨.getSetting n, a⟩ => w' = w ∧ selects pol a (w.settings n)
  | ⟨.setSetting n v, a⟩ =>
    stores pol a w { w with settings := Function.update w.settings n (some v) } w'
  | ⟨.getDocument n, a⟩ => w' = w ∧ selects pol a (w.documents n)
  | ⟨.setDocument n j, a⟩ =>
    stores pol a w { w with documents := Function.update w.documents n (some (some j)) } w'
  | ⟨.insertLog _, a⟩ => stores pol a w w w'
  | ⟨.getenv n, a⟩ => w' = w ∧ a = w.environ n
  | ⟨.time, _⟩ => w' = w
  | ⟨.utcNow, _⟩ => w' = w
  | ⟨.nowInTz _, _⟩ => w' = w
  | ⟨.sleep _, _⟩ => w' = w
  | ⟨.notify _ _, _⟩ => w' = w

/-- A step that the other policy allows as well is a step under it. -/
theorem step_mono {pol pol' : Policy} {w w' : World} {ev : Ev}
    (hread : pol.readFails → pol'.readFails) (hdb : pol.dbFails → pol'.dbFails)
    (hwrite : ev.1.writesRegs = true → ∀ echoed applied,
      pol.write w.writes echoed applied → pol'.write w.writes echoed applied)
    (h : step pol w ev w') : step pol' w ev w' := by
  have hselects : ∀ {α : Type} {a : Except PyErr α} {row : α}, selects pol a row → selects pol' a row :=
    fun h => h.imp id fun ⟨hd, he⟩ => ⟨hdb hd, he⟩
  have hstores : ∀ {a : Except PyErr Unit} {before after w' : World},
      stores pol a before after w' → stores pol' a before after w' :=
    fun h => h.imp id fun ⟨hd, he⟩ => ⟨hdb hd, he⟩
  obtain ⟨op, a⟩ := ev
  cases op with
  | transact d req =>
    cases req with
    | writeSingle r v =>
      obtain ⟨applied, hp, hw⟩ := h
      exact ⟨applied, hwrite rfl _ _ hp, hw⟩
    | writeMulti s vs =>
      obtain ⟨applied, hp, hw⟩ := h
      exact ⟨applied, hwrite rfl _ _ hp, hw⟩
    | readHoldOne r => exact ⟨h.1, fun ha => hread (h.2.1 ha), h.2.2⟩
    | readHold s n => exact ⟨h.1, fun ha => hread (h.2.1 ha), h.2.2⟩
    | readInput s n => exact ⟨h.1, fun ha => hread (h.2 ha)⟩
  | getSetting n => exact ⟨h.1, hselects h.2⟩
  | setSetting n v => exact hstores h
  | getDocument n => exact ⟨h.1, hselects h.2⟩
  | setDocument n j => exact hstores h
  | insertLog row => exact hstores h
  | getenv n => exact h
  | time => exact h
  | utcNow => exact h
  | nowInTz tz => exact h
  | sleep s => exact h
  | notify n m => exact h

/-! ## Frames -/

/-- A step changes nothing, or it writes registers, or it stores one row. -/
theorem step_cases {pol : Policy} {w w' : World} {ev : Ev} (h : step pol w ev w') :
    w' = w ∨ (ev.1.writesRegs = true ∧ ∃ regs, w' = { w with regs := regs, writes := w.writes + 1 }) ∨
      (ev.1.storesSetting = true ∧ ∃ settings, w' = { w with settings := settings }) ∨
      (ev.1.storesDocument = true ∧ ∃ documents, w' = { w with documents := documents }) := by
  have hwrite : ∀ {start values echoed}, writeStep pol w start values echoed w' →
      ∃ regs, w' = { w with regs := regs, writes := w.writes + 1 } := by
    rintro start values echoed ⟨applied, -, rfl⟩
    cases applied <;> exact ⟨_, rfl⟩
  obtain ⟨op, a⟩ := ev
  cases op with
  | transact d req =>
    cases req with
    | writeSingle r v => exact Or.inr (Or.inl ⟨rfl, hwrite h⟩)
    | writeMulti s vs => exact Or.inr (Or.inl ⟨rfl, hwrite h⟩)
    | readHoldOne r => exact Or.inl h.1
    | readHold s n => exact Or.inl h.1
    | readInput s n => exact Or.inl h.1
  | setSetting n v =>
    rcases h with ⟨-, rfl⟩ | ⟨-, -, rfl⟩
    · exact Or.inr (Or.inr (Or.inl ⟨rfl, _, rfl⟩))
    · exact Or.inl rfl
  | setDocument n j =>
    rcases h with ⟨-, rfl⟩ | ⟨-, -, rfl⟩
    · exact Or.inr (Or.inr (Or.inr ⟨rfl, _, rfl⟩))
    · exact Or.inl rfl
  | insertLog row => rcases h with ⟨-, rfl⟩ | ⟨-, -, rfl⟩ <;> exact Or.inl rfl
  | getSetting n => exact Or.inl h.1
  | getDocument n => exact Or.inl h.1
  | getenv n => exact Or.inl h.1
  | time => exact Or.inl h
  | utcNow => exact Or.inl h
  | nowInTz tz => exact Or.inl h
  | sleep s => exact Or.inl h
  | notify n m => exact Or.inl h

section
variable {pol : Policy} {w w' : World} {ev : Ev}

theorem step_keeps_regs (h : step pol w ev w') (hop : ev.1.writesRegs = false) :
    w'.regs = w.regs ∧ w'.writes = w.writes := by
  rcases step_cases h with rfl | ⟨hw, -⟩ | ⟨-, _, rfl⟩ | ⟨-, _, rfl⟩
  · exact ⟨rfl, rfl⟩
  · cases hop.symm.trans hw
  · exact ⟨rfl, rfl⟩
  · exact ⟨rfl, rfl⟩

theorem step_keeps_documents (h : step pol w ev w') (hop : ev.1.storesDocument = false) :
    w'.documents = w.documents := by
  rcases step_cases h with rfl | ⟨-, _, rfl⟩ | ⟨-, _, rfl⟩ | ⟨hs, -⟩
  · rfl
  · rfl
  · rfl
  · cases hop.symm.trans hs

theorem step_keeps_settings (h : step pol w ev w') (hop : ev.1.storesSetting = false) : w'.settings = w.settings := by
  rcases step_cases h with rfl | ⟨-, _, rfl⟩ | ⟨hs, -⟩ | ⟨-, _, rfl⟩
  · rfl
  · rfl
  · cases hop.symm.trans hs
  · rfl

theorem step_keeps_environ (h : step pol w ev w') : w'.environ = w.environ := by
  rcases step_cases h with rfl | ⟨-, _, rfl⟩ | ⟨-, _, rfl⟩ | ⟨-, _, rfl⟩ <;> rfl

end

end World

open World

variable {α : Type} {pol : Policy} {w w' : World} {p : Py α}

/-! ## The primitives against the inverter -/

/-- A single-register write sets its register or changes nothing. -/
theorem writeStep_regs {r : Nat} {v : ℤ} {echoed : Bool} (h : writeStep pol w r [v] echoed w') :
    w'.documents = w.documents ∧ w'.writes = w.writes + 1 ∧
      (∀ q, q ≠ r → w'.regs q = w.regs q) ∧
      ∃ applied, pol.write w.writes echoed applied ∧
        w'.regs r = if applied then v.toNat.toUInt16 else w.regs r := by
  obtain ⟨applied, hp, rfl⟩ := h
  cases applied with
  | false => exact ⟨rfl, rfl, fun q _ => rfl, false, hp, rfl⟩
  | true =>
    refine ⟨rfl, rfl, fun q hq => ?_, true, hp, ?_⟩
    · simp only [setRegs, List.length_singleton, if_true]
      rw [if_neg (by omega)]
    · simp [setRegs]

theorem readHoldingRegister_spec {d : Dongle} {r : Nat} (hr : r ≤ 0xFFFF) :
    Ensures (step pol) w (readHoldingRegister d r) fun tr out w' =>
      w' = w ∧ (∀ v msg, out = .ok (.ok (v, msg)) → v = (w.regs r).toNat) ∧
      ∃ a : Except PyErr (Option (Reply (.readHoldOne r))),
        tr = [⟨.transact d (.readHoldOne r), a⟩] ∧ succeeded out = answered a ∧
        (answered a = false → pol.readFails) := by
  refine (readHoldingRegister_ensures hr).mono ?_
  rintro tr out w' ⟨a, rfl, rfl, hok, hw, hfails, hval⟩
  refine ⟨hw, fun v msg h => ?_, a, rfl, hok, hfails⟩
  obtain ⟨f, rfl, hf, rfl⟩ := readResult_ok h
  rw [List.headD_eq_head?_getD, hval f rfl hf]
  rfl

theorem writeHoldingRegister_spec {d : Dongle} {r : Nat} {v : ℤ} (hr : r ≤ 0xFFFF) :
    Ensures (step pol) w (writeHoldingRegister d r v) fun tr out w' =>
      (¬ (0 ≤ v ∧ v ≤ 0xFFFF) ∧ tr = [] ∧ w' = w ∧ ∃ e, out = .error e) ∨
      ((0 ≤ v ∧ v ≤ 0xFFFF) ∧ ∃ a : Except PyErr (Option (Reply (.writeSingle r v))),
        tr = [⟨.transact d (.writeSingle r v), a⟩] ∧ succeeded out = answered a ∧
        writeStep pol w r [v] (answered a) w') := by
  refine (writeHoldingRegister_ensures hr).mono ?_
  rintro tr out w' (h | ⟨hv, a, rfl, rfl, hok, hstep⟩)
  · exact Or.inl h
  · exact Or.inr ⟨hv, a, rfl, hok, hstep⟩

/-- A block write that reports success was echoed. -/
theorem writeHoldingRegisters_spec {d : Dongle} (start : Nat) (values : List ℤ) :
    Ensures (step pol) w (writeHoldingRegisters d start values) fun _ out w' =>
      succeeded out = true → writeStep pol w start values true w' := by
  refine (transact_ensures _).bind (fun t a m h => ?_) fun t x m h => by rintro ⟨⟩
  refine (ensures_pure _).mpr fun hok => ?_
  rcases h with ⟨⟨e, -, he⟩, -⟩ | ⟨-, -, hstep⟩
  · cases he
  · match a, hok with
    | some f, hok =>
      cases hf : f.1.isError with
      | true => simp [writeMultiResult, succeeded, hf] at hok
      | false => simpa [step, transactStep, answered, hf] using hstep

/-- The read-back loop changes nothing, and when it succeeds the register holds the value. -/
theorem readBack_spec {d : Dongle} {r : Nat} {raw : ℤ} (hr : r ≤ 0xFFFF) (n : Nat) :
    Ensures (step pol) w (readBack d r raw n) fun _ out w' =>
      w' = w ∧ (out = .ok true → ((w.regs r).toNat : ℤ) = raw) := by
  induction n generalizing w with
  | zero => simp [readBack]
  | succ n ih =>
    unfold readBack
    refine (readHoldingRegister_spec hr).bind ?_ fun t x m h => ⟨h.1, fun h => by cases h⟩
    rintro t res m ⟨rfl, hval, -⟩
    split
    · next hc =>
      refine (ensures_pure _).mpr ⟨rfl, fun _ => ?_⟩
      match res, hval, hc with
      | .ok (v, msg), hval, hc =>
        rw [← hval v msg rfl]
        simpa [ReadResult.confirms] using hc
    · rw [Prog.perform_bind, ensures_ask]
      rintro _ _ rfl
      exact ih

end LuxMon
