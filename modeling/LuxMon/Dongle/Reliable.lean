import LuxMon.Effects.Parallel
import LuxMon.Dongle.Inverter

/-!
# The reliable dongle

Every transaction is answered, every write is echoed and applied, every statement
succeeds.  A register then has the value of the last write to it, and a document
is the one saved last (`regs_last`, `document_last`), whoever wrote them.
-/

namespace LuxMon

open Python Effects World

def Policy.reliable : Policy where
  readFails := False
  dbFails := False
  write := fun _ echoed applied => echoed = true ∧ applied = true

/-- The value that an effect writes to register `r`. -/
@[simp] def Op.setsReg (r : Nat) : Op → Option UInt16
  | .transact _ (.writeSingle r' v) => if r' = r then some v.toNat.toUInt16 else none
  | .transact _ (.writeMulti s vs) =>
    if s ≤ r ∧ r < s + vs.length then some (vs.getD (r - s) 0).toNat.toUInt16 else none
  | _ => none

/-- What an effect leaves in the row of document `name`. -/
@[simp] def Op.setsDocument (name : String) : Op → Option (Option (Option Json))
  | .setDocument n j => if n = name then some (some (some j)) else none
  | _ => none

def setsReg (r : Nat) (ev : Ev) : Option UInt16 := ev.1.setsReg r

def setsDocument (name : String) (ev : Ev) : Option (Option (Option Json)) := ev.1.setsDocument name

@[simp] theorem setsReg_mk (r : Nat) (op : Op) (a : Op.Answer op) :
    setsReg r ⟨op, a⟩ = op.setsReg r := rfl

@[simp] theorem setsDocument_mk (name : String) (op : Op) (a : Op.Answer op) :
    setsDocument name ⟨op, a⟩ = op.setsDocument name := rfl

theorem writeStep_reliable {w w' : World} {start : Nat} {values : List ℤ} {echoed : Bool}
    (h : writeStep .reliable w start values echoed w') :
    echoed = true ∧ w' = { w.setRegs start values with writes := w.writes + 1 } := by
  obtain ⟨applied, ⟨he, rfl⟩, rfl⟩ := h
  exact ⟨he, rfl⟩

theorem stores_reliable {a : Except PyErr Unit} {before after w' : World}
    (h : stores .reliable a before after w') : a = .ok () ∧ w' = after := by
  rcases h with h | ⟨⟨⟩, -⟩
  exact h

theorem setsReg_eq_none {r : Nat} {ev : Ev} (h : ev.1.writesRegs = false) :
    setsReg r ev = none := by
  obtain ⟨op, a⟩ := ev
  cases op with
  | transact d req => cases req <;> simp_all
  | _ => rfl

theorem step_setsReg (r : Nat) (w : World) (ev : Ev) (w' : World)
    (h : World.step .reliable w ev w') : w'.regs r = (setsReg r ev).getD (w.regs r) := by
  by_cases hw : ev.1.writesRegs = false
  · rw [setsReg_eq_none hw, (step_keeps_regs h hw).1]
    rfl
  · obtain ⟨op, a⟩ := ev
    cases op with
    | transact d req =>
      cases req with
      | writeSingle q v =>
        obtain ⟨-, rfl⟩ := writeStep_reliable h
        simp only [setRegs, setsReg_mk, Op.setsReg, List.length_singleton]
        by_cases hq : q = r
        · simp [hq]
        · rw [if_neg (by omega), if_neg hq]
          rfl
      | writeMulti q vs =>
        obtain ⟨-, rfl⟩ := writeStep_reliable h
        simp only [setRegs, setsReg_mk, Op.setsReg]
        split <;> rfl
      | readHoldOne q => exact absurd rfl hw
      | readHold q n => exact absurd rfl hw
      | readInput q n => exact absurd rfl hw
    | _ => exact absurd rfl hw

theorem setsDocument_eq_none {name : String} {ev : Ev} (h : ev.1.storesDocument = false) :
    setsDocument name ev = none := by
  obtain ⟨op, a⟩ := ev
  cases op with
  | setDocument n j => simp at h
  | _ => rfl

theorem step_setsDocument (name : String) (w : World) (ev : Ev) (w' : World)
    (h : World.step .reliable w ev w') :
    w'.documents name = (setsDocument name ev).getD (w.documents name) := by
  by_cases hs : ev.1.storesDocument = false
  · rw [setsDocument_eq_none hs, step_keeps_documents h hs]
    rfl
  · obtain ⟨op, a⟩ := ev
    cases op with
    | setDocument n j =>
      obtain ⟨-, rfl⟩ := stores_reliable h
      simp only [setsDocument_mk, Op.setsDocument, Function.update_apply]
      by_cases hn : n = name
      · simp [hn]
      · rw [if_neg (Ne.symm hn), if_neg hn]
        rfl
    | _ => exact absurd rfl hs

section
variable {w w' : World} {tr : List Ev}

/-- A register has the value that was written to it last. -/
theorem regs_last (r : Nat) (hs : Steps (World.step .reliable) w tr w') :
    w'.regs r = (tr.filterMap (setsReg r)).getLast?.getD (w.regs r) :=
  hs.last_set (fun x => x.regs r) (setsReg r) (step_setsReg r)

/-- A document is the one that was stored last. -/
theorem document_last (name : String) (hs : Steps (World.step .reliable) w tr w') :
    w'.documents name = (tr.filterMap (setsDocument name)).getLast?.getD (w.documents name) :=
  hs.last_set (fun x => x.documents name) (setsDocument name) (step_setsDocument name)

end

/-! ## Reading and writing when nothing fails -/

section
variable {d : Dongle} {w : World}

theorem readHoldingRegister_reliable {r : ℕ} (hr : r ≤ 0xFFFF) :
    Ensures (step .reliable) w (readHoldingRegister d r) fun tr out w' =>
      w' = w ∧ (∃ msg, out = .ok (.ok ((w.regs r).toNat, msg))) ∧ ∀ ev ∈ tr, ev.1 ≠ .time := by
  refine (readHoldingRegister_spec hr).mono ?_
  rintro tr out w' ⟨rfl, hval, a, rfl, hok, hfails⟩
  refine ⟨rfl, ?_, by simp⟩
  have hans : succeeded out = true := by
    rw [hok]
    by_contra h
    exact (hfails (by simpa using h)).elim
  match out, hans with
  | .ok (.ok (v, msg)), _ => exact ⟨msg, by rw [hval v msg rfl]⟩

theorem writeHoldingRegister_reliable {r : ℕ} (hr : r ≤ 0xFFFF) {v : ℤ} (hv : 0 ≤ v ∧ v ≤ 0xFFFF) :
    Ensures (step .reliable) w (writeHoldingRegister d r v) fun tr out w' =>
      (∃ msg, out = .ok (.ok msg)) ∧ w'.documents = w.documents ∧ w'.regs r = v.toNat.toUInt16 ∧
        (∀ q, q ≠ r → w'.regs q = w.regs q) ∧ ∀ ev ∈ tr, ev.1 ≠ .time := by
  refine (writeHoldingRegister_spec hr).mono ?_
  rintro tr out w' (⟨hno, -⟩ | ⟨-, a, rfl, hok, hw⟩)
  · exact absurd hv hno
  · obtain ⟨hdoc, -, hother, applied, ⟨hans, rfl⟩, hreg⟩ := writeStep_regs hw
    rw [hans] at hok
    match out, hok with
    | .ok (.ok msg), _ => exact ⟨⟨msg, rfl⟩, hdoc, hreg, hother, by simp⟩

/-- The register holds the value, so the first read confirms it. -/
theorem readBack_reliable {r : ℕ} (hr : r ≤ 0xFFFF) {raw : ℤ} (hraw : ((w.regs r).toNat : ℤ) = raw) (n : ℕ) :
    Ensures (step .reliable) w (readBack d r raw (n + 1)) fun tr out w' =>
      w' = w ∧ out = .ok true ∧ ∀ ev ∈ tr, ev.1 ≠ .time := by
  unfold readBack
  refine (readHoldingRegister_reliable hr).bind ?_ ?_
  · rintro t res m ⟨rfl, ⟨msg, hres⟩, ht⟩
    cases hres
    rw [if_pos (by simpa [ReadResult.confirms] using hraw)]
    refine (ensures_pure _).mpr ⟨rfl, rfl, ?_⟩
    rwa [List.append_nil]
  · rintro t x m ⟨-, ⟨msg, h⟩, -⟩
    cases h

end

/-! ## The reliable dongle as a function -/

/-- The frame that answers a request. -/
def World.frame (w : World) (req : Request) : LuxFrame :=
  let base : LuxFrame := { protocol := 1, tcpFunction := tcpFuncTranslatedData, datalogSerial := "", raw := [] }
  match req with
  | .readHoldOne r =>
    { base with deviceFunction := modbusReadHold, register := r, values := [(w.regs r).toNat] }
  | .readHold s n =>
    { base with deviceFunction := modbusReadHold, register := s,
                values := (List.range n).map fun i => (w.regs (s + i)).toNat }
  | .readInput s n =>
    { base with deviceFunction := modbusReadInput, register := s, values := List.replicate n 0 }
  | .writeSingle r v =>
    { base with deviceFunction := modbusWriteSingle, register := r, values := [v.toNat] }
  | .writeMulti s vs =>
    { base with deviceFunction := modbusWriteMulti, register := s, writeCount := vs.length }

theorem World.frame_isError (w : World) (req : Request) : (w.frame req).isError = false := by
  cases req <;> rfl

theorem World.frame_accepts (w : World) (req : Request) : req.accepts (w.frame req) = true := by
  cases req <;>
    simp [Request.accepts, World.frame, LuxFrame.isReadHold, LuxFrame.isReadInput]

/-- The answer of the reliable dongle and database, and the state afterwards. -/
def World.answer (w : World) : (op : Op) → Op.Answer op × World
  | .transact _ req =>
    (.ok (some ⟨w.frame req, w.frame_accepts req⟩),
      match req with
      | .writeSingle r v => { w.setRegs r [v] with writes := w.writes + 1 }
      | .writeMulti s vs => { w.setRegs s vs with writes := w.writes + 1 }
      | _ => w)
  | .getSetting n => (.ok (w.settings n), w)
  | .setSetting n v => (.ok (), { w with settings := Function.update w.settings n (some v) })
  | .getDocument n => (.ok (w.documents n), w)
  | .setDocument n j => (.ok (), { w with documents := Function.update w.documents n (some (some j)) })
  | .insertLog _ => (.ok (), w)
  | .getenv n => (w.environ n, w)
  | .time => (0, w)
  | .utcNow => ("", w)
  | .nowInTz _ => ({ hour := 0, minute := 0, weekday := "Mon", month := "Jan" }, w)
  | .sleep _ => ((), w)
  | .notify _ _ => (.ok (), w)

theorem World.answer_step (w : World) (op : Op) :
    World.step .reliable w ⟨op, (w.answer op).1⟩ (w.answer op).2 := by
  cases op with
  | transact d req =>
    have he := w.frame_isError req
    cases req with
    | readHoldOne r => exact ⟨rfl, fun h => by simp [answered, World.answer, he] at h,
        fun f hf _ => by cases hf; rfl⟩
    | readHold s n => exact ⟨rfl, fun h => by simp [answered, World.answer, he] at h,
        fun f hf _ => by cases hf; rfl⟩
    | readInput s n => exact ⟨rfl, fun h => by simp [answered, World.answer, he] at h⟩
    | writeSingle r v => exact ⟨true, ⟨by simp [answered, World.answer, he], rfl⟩, rfl⟩
    | writeMulti s vs => exact ⟨true, ⟨by simp [answered, World.answer, he], rfl⟩, rfl⟩
  | getSetting n => exact ⟨rfl, Or.inl rfl⟩
  | setSetting n v => exact Or.inl ⟨rfl, rfl⟩
  | getDocument n => exact ⟨rfl, Or.inl rfl⟩
  | setDocument n j => exact Or.inl ⟨rfl, rfl⟩
  | insertLog row => exact Or.inl ⟨rfl, rfl⟩
  | getenv n => exact ⟨rfl, rfl⟩
  | time => rfl
  | utcNow => rfl
  | nowInTz tz => rfl
  | sleep s => rfl
  | notify n m => rfl

/-- Registers all 0, the dongle configured in the database. -/
def idleWorld : World where
  regs := fun _ => 0
  writes := 0
  settings := fun n => [("dongle_host", "10.0.0.2"), ("dongle_port", "8000"),
    ("datalog_serial", "BA00000000"), ("inverter_serial", "5100000000")].lookup n
  documents := fun _ => none
  environ := fun _ => none

def idleDongle : Dongle :=
  { host := "10.0.0.2", port := 8000, datalogSerial := "BA00000000", inverterSerial := "5100000000" }

end LuxMon
