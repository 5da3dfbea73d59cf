import LuxMon.Dongle.Reliable

/-!
# The dongle that drops writes

A write may be echoed and never reach the inverter, or reach it without an echo.
Which writes are applied is a function of their number, so that a result can say
which of them it depends on.
-/

namespace LuxMon

open Python Effects World

/-- `applies n` says whether the `n`-th write reaches the inverter, whatever is echoed.
Reads may stay unanswered, statements may fail. -/
def Policy.silent (applies : Nat → Bool) : Policy where
  readFails := True
  dbFails := True
  write := fun n _ applied => applied = applies n

/-- The reliable dongle, but only the writes that `applies` selects reach the inverter. -/
def World.silentAnswer (applies : Nat → Bool) (w : World) (op : Op) : Op.Answer op × World :=
  if op.writesRegs && !applies w.writes then ((w.answer op).1, { w with writes := w.writes + 1 })
  else w.answer op

theorem World.silentAnswer_step (applies : Nat → Bool) (w : World) (op : Op) :
    step (.silent applies) w ⟨op, (w.silentAnswer applies op).1⟩ (w.silentAnswer applies op).2 := by
  unfold World.silentAnswer
  split
  · next h =>
    simp only [Bool.and_eq_true, Bool.not_eq_true'] at h
    obtain ⟨hwrites, happ⟩ := h
    cases op with
    | transact d req =>
      cases req with
      | writeSingle r v => exact ⟨false, happ.symm, rfl⟩
      | writeMulti s vs => exact ⟨false, happ.symm, rfl⟩
      | readHoldOne r => cases hwrites
      | readHold s n => cases hwrites
      | readInput s n => cases hwrites
    | _ => cases hwrites
  · next h =>
    refine step_mono False.elim False.elim (fun hwrites echoed applied hw => ?_) (w.answer_step op)
    have hwrites : op.writesRegs = true := hwrites
    have happ : applies w.writes = true := by
      by_contra hno
      exact h (by rw [hwrites, Bool.eq_false_of_not_eq_true hno]; rfl)
    exact hw.2.trans happ.symm

end LuxMon
