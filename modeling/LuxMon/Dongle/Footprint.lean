import LuxMon.Dongle.Reliable
import LuxMon.Effects.Serial

/-!
# What an effect touches

The state of the inverter and the database is a collection of cells: holding
registers, settings and documents.  A step is a function of the state once it is
known whether the effect took place (`step_iff`); it depends on the cells that the
effect reads and changes those that it writes.

    effects none of which writes what the other touches change places     (step_commute)
-/

namespace LuxMon

open Python Effects World

/-- One place where something is stored. -/
inductive Cell
  | reg (r : Nat)
  | setting (name : String)
  | document (name : String)
  deriving DecidableEq

/-- What an effect leaves in the row of setting `name`. -/
@[simp] def Op.setsSetting (name : String) : Op → Option (Option String)
  | .setSetting n v => if n = name then some (some v) else none
  | _ => none

def Op.writes (op : Op) : Cell → Bool
  | .reg r => (op.setsReg r).isSome
  | .setting n => (op.setsSetting n).isSome
  | .document n => (op.setsDocument n).isSome

def Op.reads : Op → Cell → Bool
  | .transact _ (.readHoldOne r), c => c == .reg r
  | .transact _ (.readHold s n), .reg r => s ≤ r && r < s + n
  | .getSetting n, c => c == .setting n
  | .getDocument n, c => c == .document n
  | _, _ => false

/-- One of the two writes a cell that the other reads or writes. -/
def Op.Conflicts (a b : Op) : Prop :=
  ∃ c, (a.writes c = true ∧ (b.reads c = true ∨ b.writes c = true)) ∨
    (a.reads c = true ∧ b.writes c = true)

/-- What may become of a write does not depend on how many came before. -/
def Policy.Memoryless (pol : Policy) : Prop := ∀ m n, pol.write m = pol.write n

namespace World

/-- The state after an effect that took place or, refused or lost, did not. -/
def after (w : World) (op : Op) (applied : Bool) : World where
  regs r := if applied then (op.setsReg r).getD (w.regs r) else w.regs r
  writes := w.writes + if op.writesRegs then 1 else 0
  settings n := if applied then (op.setsSetting n).getD (w.settings n) else w.settings n
  documents n := if applied then (op.setsDocument n).getD (w.documents n) else w.documents n
  environ := w.environ

/-- In `w` the effect may be answered so. -/
def Admits (pol : Policy) (w : World) : (op : Op) → Op.Answer op → (applied : Bool) → Prop
  | .transact _ (.readHoldOne r), a, applied => applied = false ∧ (answered a = false → pol.readFails) ∧
      ∀ f, a = .ok (some f) → f.1.isError = false → f.1.values.head? = some (w.regs r).toNat
  | .transact _ (.readHold s n), a, applied => applied = false ∧ (answered a = false → pol.readFails) ∧
      ∀ f, a = .ok (some f) → f.1.isError = false →
        f.1.values = (List.range n).map fun i => (w.regs (s + i)).toNat
  | .transact _ (.readInput _ _), a, applied => applied = false ∧ (answered a = false → pol.readFails)
  | .transact _ (.writeSingle _ _), a, applied => pol.write w.writes (answered a) applied
  | .transact _ (.writeMulti _ _), a, applied => pol.write w.writes (answered a) applied
  | .getSetting n, a, applied => applied = false ∧ selects pol a (w.settings n)
  | .getDocument n, a, applied => applied = false ∧ selects pol a (w.documents n)
  | .setSetting _ _, a, applied | .setDocument _ _, a, applied | .insertLog _, a, applied =>
    (a = .ok () ∧ applied = true) ∨ (pol.dbFails ∧ (∃ e, a = .error e) ∧ applied = false)
  | .getenv n, a, applied => applied = false ∧ a = w.environ n
  | .time, _, applied => applied = false
  | .utcNow, _, applied => applied = false
  | .nowInTz _, _, applied => applied = false
  | .sleep _, _, applied => applied = false
  | .notify _ _, _, applied => applied = false

@[ext] theorem ext {w w' : World} (hregs : ∀ r, w.regs r = w'.regs r) (hwrites : w.writes = w'.writes)
    (hsettings : ∀ n, w.settings n = w'.settings n) (hdocuments : ∀ n, w.documents n = w'.documents n)
    (henviron : w.environ = w'.environ) : w = w' := by
  cases w
  cases w'
  obtain rfl := funext hregs
  obtain rfl := funext hsettings
  obtain rfl := funext hdocuments
  cases hwrites
  cases henviron
  rfl

section
variable {pol : Policy} {w w' : World}

/-- An effect that sets nothing leaves everything. -/
theorem after_silent {op : Op} {applied : Bool} (h : applied = true → ∀ c, op.writes c = false)
    (hop : op.writesRegs = false) : w.after op applied = w := by
  have hnone : ∀ {α : Type} {o : Option α}, o.isSome = false → o = none := fun h => by simpa using h
  have hwrites : (w.after op applied).writes = w.writes := by
    unfold after
    rw [hop]
    rfl
  cases applied with
  | false => exact World.ext (fun r => rfl) hwrites (fun n => rfl) (fun n => rfl) rfl
  | true =>
    refine World.ext (fun r => ?_) hwrites (fun n => ?_) (fun n => ?_) rfl
    · simp only [after, if_true, hnone (h rfl (.reg r)), Option.getD_none]
    · simp only [after, if_true, hnone (h rfl (.setting n)), Option.getD_none]
    · simp only [after, if_true, hnone (h rfl (.document n)), Option.getD_none]

theorem after_lost {op : Op} (hop : op.writesRegs = false) : w.after op false = w :=
  after_silent (fun h => by cases h) hop

theorem after_write {d : Dongle} {start : Nat} {values : List ℤ} {applied : Bool} :
    w.after (.transact d (.writeMulti start values)) applied =
      { (if applied then w.setRegs start values else w) with writes := w.writes + 1 } := by
  cases applied with
  | false => rfl
  | true =>
    refine World.ext (fun r => ?_) rfl (fun n => rfl) (fun n => rfl) rfl
    simp only [after, setRegs, Op.setsReg, if_true]
    split <;> rfl

theorem after_writeSingle {d : Dongle} {r : Nat} {v : ℤ} {applied : Bool} :
    w.after (.transact d (.writeSingle r v)) applied = w.after (.transact d (.writeMulti r [v])) applied := by
  refine World.ext (fun q => ?_) rfl (fun n => rfl) (fun n => rfl) rfl
  simp only [after, Op.setsReg, List.length_singleton]
  by_cases hq : r = q
  · subst hq
    simp
  · have hout : ¬ (r ≤ q ∧ q < r + 1) := by omega
    rw [if_neg hq, if_neg hout]

theorem after_setSetting {n v : String} :
    w.after (.setSetting n v) true = { w with settings := Function.update w.settings n (some v) } := by
  refine World.ext (fun q => rfl) rfl (fun m => ?_) (fun m => rfl) rfl
  by_cases hm : n = m
  · subst hm
    simp [after]
  · simp [after, hm, Function.update_of_ne (Ne.symm hm)]

theorem after_setDocument {n : String} {j : Json} :
    w.after (.setDocument n j) true =
      { w with documents := Function.update w.documents n (some (some j)) } := by
  refine World.ext (fun q => rfl) rfl (fun m => rfl) (fun m => ?_) rfl
  by_cases hm : n = m
  · subst hm
    simp [after]
  · simp [after, hm, Function.update_of_ne (Ne.symm hm)]

end

/-- A step is an admissible answer, and the state that follows from it. -/
theorem step_iff {pol : Policy} {w w' : World} {op : Op} {a : Op.Answer op} :
    step pol w ⟨op, a⟩ w' ↔ ∃ applied, w.Admits pol op a applied ∧ w' = w.after op applied := by
  -- an effect that only looks
  have hlook : ∀ {P : Prop} {op : Op}, op.writesRegs = false →
      ((w' = w ∧ P) ↔ ∃ applied, (applied = false ∧ P) ∧ w' = w.after op applied) := by
    intro P op hop
    constructor
    · rintro ⟨rfl, hP⟩
      exact ⟨false, ⟨rfl, hP⟩, (after_lost hop).symm⟩
    · rintro ⟨_, ⟨rfl, hP⟩, rfl⟩
      exact ⟨after_lost hop, hP⟩
  -- a statement that stores
  have hstore : ∀ {op : Op} {a : Except PyErr Unit} {stored : World}, op.writesRegs = false →
      w.after op true = stored → (stores pol a w stored w' ↔
        ∃ applied, ((a = .ok () ∧ applied = true) ∨
          (pol.dbFails ∧ (∃ e, a = .error e) ∧ applied = false)) ∧ w' = w.after op applied) := by
    rintro op a stored hop rfl
    constructor
    · rintro (⟨ha, rfl⟩ | ⟨hdb, he, rfl⟩)
      · exact ⟨true, Or.inl ⟨ha, rfl⟩, rfl⟩
      · exact ⟨false, Or.inr ⟨hdb, he, rfl⟩, (after_lost hop).symm⟩
    · rintro ⟨applied, ⟨ha, rfl⟩ | ⟨hdb, he, rfl⟩, rfl⟩
      · exact Or.inl ⟨ha, rfl⟩
      · exact Or.inr ⟨hdb, he, after_lost hop⟩
  have hidle : ∀ {op : Op}, op.writesRegs = false →
      (w' = w ↔ ∃ applied, applied = false ∧ w' = w.after op applied) := by
    intro op hop
    simpa using hlook (P := True) hop
  cases op with
  | transact d req =>
    cases req with
    | readHoldOne r => exact hlook rfl
    | readHold s n => exact hlook rfl
    | readInput s n => exact hlook rfl
    | writeSingle r v =>
      refine exists_congr fun applied => and_congr_right fun _ => ?_
      rw [after_writeSingle, after_write]
    | writeMulti s vs =>
      refine exists_congr fun applied => and_congr_right fun _ => ?_
      rw [after_write]
  | getSetting n => exact hlook rfl
  | getDocument n => exact hlook rfl
  | setSetting n v => exact hstore rfl after_setSetting
  | setDocument n j => exact hstore rfl after_setDocument
  | insertLog row => exact hstore rfl (after_silent (fun _ c => by cases c <;> rfl) rfl)
  | getenv n => exact hlook rfl
  | time => exact hidle rfl
  | utcNow => exact hidle rfl
  | nowInTz tz => exact hidle rfl
  | sleep s => exact hidle rfl
  | notify n m => exact hidle rfl

/-- What is admissible depends on the cells that the effect reads. -/
theorem Admits.congr {pol : Policy} (hpol : pol.Memoryless) {w w' : World} {op : Op} {a : Op.Answer op}
    {applied : Bool} (hregs : ∀ r, op.reads (.reg r) = true → w'.regs r = w.regs r)
    (hsettings : ∀ n, op.reads (.setting n) = true → w'.settings n = w.settings n)
    (hdocuments : ∀ n, op.reads (.document n) = true → w'.documents n = w.documents n)
    (henviron : w'.environ = w.environ) (h : w.Admits pol op a applied) : w'.Admits pol op a applied := by
  cases op with
  | transact d req =>
    cases req with
    | readHoldOne r =>
      refine ⟨h.1, h.2.1, fun f hf hok => ?_⟩
      rw [hregs r (by simp [Op.reads])]
      exact h.2.2 f hf hok
    | readHold s n =>
      refine ⟨h.1, h.2.1, fun f hf hok => (h.2.2 f hf hok).trans (List.map_congr_left fun i hi => ?_)⟩
      rw [hregs (s + i) (by simpa [Op.reads] using hi)]
    | readInput s n => exact h
    | writeSingle r v =>
      show pol.write _ _ _
      rw [hpol w'.writes w.writes]
      exact h
    | writeMulti s vs =>
      show pol.write _ _ _
      rw [hpol w'.writes w.writes]
      exact h
  | getSetting n => exact ⟨h.1, by rw [hsettings n (by simp [Op.reads])]; exact h.2⟩
  | getDocument n => exact ⟨h.1, by rw [hdocuments n (by simp [Op.reads])]; exact h.2⟩
  | getenv n => exact ⟨h.1, by rw [henviron]; exact h.2⟩
  | _ => exact h

section
variable {pol : Policy} {w w' m : World} {a b : Op}

theorem after_unwritten_reg {applied : Bool} {r : Nat} (h : a.writes (.reg r) = false) :
    (w.after a applied).regs r = w.regs r := by
  have hnone : a.setsReg r = none := by simpa [Op.writes] using h
  simp only [after, hnone, Option.getD_none, ite_self]

theorem after_unwritten_setting {applied : Bool} {n : String} (h : a.writes (.setting n) = false) :
    (w.after a applied).settings n = w.settings n := by
  have hnone : a.setsSetting n = none := by simpa [Op.writes] using h
  simp only [after, hnone, Option.getD_none, ite_self]

theorem after_unwritten_document {applied : Bool} {n : String} (h : a.writes (.document n) = false) :
    (w.after a applied).documents n = w.documents n := by
  have hnone : a.setsDocument n = none := by simpa [Op.writes] using h
  simp only [after, hnone, Option.getD_none, ite_self]

/-- An effect is as admissible after one that writes nothing it reads, and the other way round. -/
theorem admits_after (hpol : pol.Memoryless) {x : Op.Answer a} {applied applied' : Bool}
    (hfree : ∀ c, a.reads c = true → b.writes c = false) :
    (w.after b applied').Admits pol a x applied ↔ w.Admits pol a x applied := by
  have hreg : ∀ r, a.reads (.reg r) = true → (w.after b applied').regs r = w.regs r := fun r h =>
    after_unwritten_reg (hfree (.reg r) h)
  have hsetting : ∀ n, a.reads (.setting n) = true → (w.after b applied').settings n = w.settings n := fun n h =>
    after_unwritten_setting (hfree (.setting n) h)
  have hdocument : ∀ n, a.reads (.document n) = true → (w.after b applied').documents n = w.documents n := fun n h =>
    after_unwritten_document (hfree (.document n) h)
  constructor
  · exact Admits.congr hpol (fun r h => (hreg r h).symm) (fun n h => (hsetting n h).symm)
      (fun n h => (hdocument n h).symm) rfl
  · exact Admits.congr hpol hreg hsetting hdocument rfl

/-- Effects that write different cells may take place in either order. -/
theorem after_comm {applied applied' : Bool} (hfree : ∀ c, a.writes c = true → b.writes c = false) :
    (w.after a applied).after b applied' = (w.after b applied').after a applied := by
  -- one cell, set by at most one of the two
  have hcell : ∀ {α : Type} (o o' : Option α) (v : α), (o.isSome = true → o'.isSome = false) →
      (if applied' then o'.getD (if applied then o.getD v else v) else if applied then o.getD v else v) =
      if applied then o.getD (if applied' then o'.getD v else v) else if applied' then o'.getD v else v := by
    intro α o o' v h
    cases o with
    | none => cases applied <;> rfl
    | some x =>
      obtain rfl : o' = none := by simpa using h rfl
      cases applied' <;> rfl
  refine World.ext (fun r => hcell _ _ _ (hfree (.reg r))) ?_ (fun n => hcell _ _ _ (hfree (.setting n)))
    (fun n => hcell _ _ _ (hfree (.document n))) rfl
  show w.writes + _ + _ = w.writes + _ + _
  omega

end

/-- Effects without a conflict may be taken in the other order. -/
theorem step_commute {pol : Policy} (hpol : pol.Memoryless) :
    Commute (step pol) fun a b : Ev => a.1.Conflicts b.1 := by
  rintro w m w' ⟨a, x⟩ ⟨b, y⟩ hfree ha hb
  obtain ⟨applied, hx, rfl⟩ := step_iff.mp ha
  obtain ⟨applied', hy, rfl⟩ := step_iff.mp hb
  have hno : ∀ c, a.writes c = true → b.reads c = false ∧ b.writes c = false := fun c hc => by
    by_contra h
    refine hfree ⟨c, Or.inl ⟨hc, ?_⟩⟩
    by_cases hr : b.reads c = true
    · exact Or.inl hr
    · exact Or.inr (by simpa [hr] using h)
  have hread : ∀ c, b.reads c = true → a.writes c = false := fun c hc => by
    cases hw : a.writes c with
    | false => rfl
    | true => exact absurd (hno c hw).1 (by rw [hc]; simp)
  have hread' : ∀ c, a.reads c = true → b.writes c = false := fun c hc => by
    cases hw : b.writes c with
    | false => rfl
    | true => exact absurd ⟨c, Or.inr ⟨hc, hw⟩⟩ hfree
  refine ⟨w.after b applied', step_iff.mpr ⟨applied', (admits_after hpol hread).mp hy, rfl⟩,
    step_iff.mpr ⟨applied, (admits_after hpol hread').mpr hx, ?_⟩⟩
  exact after_comm fun c hc => (hno c hc).2

end World

end LuxMon
