import LuxMon.Api.Holding
import LuxMon.Dongle.Reliable
import LuxMon.QuickCharge.Spec

/-!
# Two requests at the same time

A transaction, a state load and a state save are atomic, nothing longer is.
Against the reliable dongle, the outcome of two interleaved operations depends on
who wrote each cell last.

    the other bits survive ↔ the other write did not fall between read and write   (setEnableBit_keeps_bits_iff)
    start and stop agree ↔ one of them wrote last wherever it matters              (start_stop_agree_iff)
-/

namespace LuxMon

open Python Effects Prog World ParTrace

/-! ## What a successful operation has done -/

section
variable {d : Dongle}

/-- The read-back only reads the register and sleeps. -/
theorem readBack_asks_back {raw : ℤ} (n : Nat) : (readBack d qcEnableReg raw n).Asks fun op =>
    op.readsReg qcEnableReg = true ∨ op = .sleep 0.5 :=
  readBack_asks (Or.inl (by simp [Op.readsReg])) (Or.inr rfl) n

/-- A successful `setEnableBit` has read the register, written it with bit 0
changed, and read it back. -/
theorem setEnableBit_shape (enable : Bool) :
    Ensures anyStep () (setEnableBit d enable) fun tr out _ => ∀ msg new, out = .ok (.ok (msg, new)) →
      ∃ (f : Reply (.readHoldOne qcEnableReg)) (g : Op.Answer (.transact d (.writeSingle qcEnableReg new)))
        (backs : List Ev),
        f.1.isError = false ∧ new = withEnableBit (f.1.values.headD 0) enable ∧
        tr = ⟨.transact d (.readHoldOne qcEnableReg), .ok (some f)⟩ ::
          ⟨.transact d (.writeSingle qcEnableReg new), g⟩ :: backs ∧
        ∀ ev ∈ backs, ev.1.readsReg qcEnableReg = true ∨ ev.1 = .sleep 0.5 := by
  have hreg : qcEnableReg ≤ 0xFFFF := by decide
  unfold setEnableBit
  refine (readHoldingRegister_ensures hreg).bind ?_ fun t x m h => by rintro _ _ ⟨⟩
  rintro t res m ⟨a, rfl, ha, -⟩
  match res with
  | .error msg => exact (ensures_pure _).mpr fun _ _ h => by cases h
  | .ok (cur, rmsg) =>
    obtain ⟨f, rfl, hf, rfl⟩ := readResult_ok ha.symm
    refine (writeHoldingRegister_ensures hreg).bind ?_ fun t x m h => by rintro _ _ ⟨⟩
    rintro t wres m (⟨-, -, -, e, he⟩ | ⟨-, g, rfl, -⟩)
    · cases he
    · match wres with
      | .error msg => exact (ensures_pure _).mpr fun _ _ h => by cases h
      | .ok msg =>
        refine (Ensures.of_asks (readBack_asks_back 4)).bind ?_ fun t x m h => by rintro _ _ ⟨⟩
        intro t verified m hback
        split
        · refine (ensures_pure _).mpr fun msg new h => ?_
          simp only [Except.ok.injEq, Prod.mk.injEq] at h
          obtain ⟨-, rfl⟩ := h
          exact ⟨f, g, t, hf, rfl, by simp, hback⟩
        · exact (ensures_pure _).mpr fun _ _ h => by cases h

end

/-! ## The enable bitfield -/

/-- The transactions on the bitfield that decide the race. -/
inductive EnableStep
  | read
  | write
  | other
  deriving DecidableEq

/-- `setEnableBit` is on the left, the other request on the right. -/
def enableStep : Side × Ev → Option EnableStep
  | (.left, ev) =>
    if ev.1.readsReg qcEnableReg then some .read
    else if ev.1.writesReg qcEnableReg then some .write
    else none
  | (.right, ev) => if (setsReg qcEnableReg ev).isSome then some .other else none

/-- The other write falls between the read and the write of `setEnableBit`. -/
def Overtaken (tr : ParTrace Op Op.Answer) : Prop :=
  [.read, .other, .write] <+: tr.filterMap enableStep

instance (tr : ParTrace Op Op.Answer) : Decidable (Overtaken tr) := by
  unfold Overtaken
  infer_instance

/-- As long as only one side writes a register, it has that side's last value. -/
theorem regs_last_side {dl dr : Side} (hne : dl ≠ dr) {r : Nat} {w w' : World}
    {tr : ParTrace Op Op.Answer} (hright : ∀ ev ∈ side dr tr, setsReg r ev = none)
    (hs : Steps (World.step .reliable) w (tr.map Prod.snd) w') :
    w'.regs r = ((side dl tr).filterMap (setsReg r)).getLast?.getD (w.regs r) := by
  rw [regs_last r hs, List.filterMap_map,
    filterMap_of_side hne (setsReg r ∘ Prod.snd) tr (fun ev hev => hright ev hev)]
  rfl

section
variable {d : Dongle} {enable : Bool} {w w' : World} {v : UInt16}

theorem filterMap_setsReg_back {backs : List Ev} (r : Nat)
    (h : ∀ ev ∈ backs, ev.1.readsReg qcEnableReg = true ∨ ev.1 = .sleep 0.5) :
    backs.filterMap (setsReg r) = [] := by
  refine List.filterMap_eq_nil_iff.mpr fun ev hev => setsReg_eq_none ?_
  rcases h ev hev with h | h
  · exact Op.writesRegs_of_readsReg h
  · rw [h]
    rfl

/-- The first read of the left side tells the value at the beginning when the
right side does not write. -/
theorem head_of_read {f : Reply (.readHoldOne qcEnableReg)} {rest : List Ev}
    {tr : ParTrace Op Op.Answer} (hf : f.1.isError = false)
    (hleft : side .left tr = ⟨.transact d (.readHoldOne qcEnableReg), .ok (some f)⟩ :: rest)
    (hright : ∀ ev ∈ side .right tr, setsReg qcEnableReg ev = none)
    (hs : Steps (World.step .reliable) w (tr.map Prod.snd) w') :
    f.1.values.headD 0 = (w.regs qcEnableReg).toNat := by
  obtain ⟨t, u, rfl, ht, -⟩ := exists_of_side_eq (show side .left tr = [] ++ _ :: rest from hleft)
  rw [List.map_append, List.map_cons, steps_append] at hs
  obtain ⟨m, hst, m', hread, -⟩ := hs
  have hm : m.regs qcEnableReg = w.regs qcEnableReg := by
    rw [regs_last_side (show Side.left ≠ .right by decide) (fun ev hev => hright ev (by simp [hev])) hst, ht]
    rfl
  rw [List.headD_eq_head?_getD, hread.2.2 f rfl hf, hm]
  rfl

/-- The register after a trace in which only `setEnableBit` wrote. -/
theorem regs_of_left (rest : List Ev) {backs : List Ev} {n : Nat}
    {g : Op.Answer (.transact d (.writeSingle qcEnableReg n))} {tr : ParTrace Op Op.Answer}
    (hleft : side .left tr = rest ++ ⟨.transact d (.writeSingle qcEnableReg n), g⟩ :: backs)
    (hbacks : ∀ ev ∈ backs, ev.1.readsReg qcEnableReg = true ∨ ev.1 = .sleep 0.5)
    (hright : ∀ ev ∈ side .right tr, setsReg qcEnableReg ev = none)
    (hs : Steps (World.step .reliable) w (tr.map Prod.snd) w') :
    w'.regs qcEnableReg = (n : ℤ).toNat.toUInt16 := by
  rw [regs_last_side (show Side.left ≠ .right by decide) hright hs, hleft, List.filterMap_append,
    List.filterMap_cons_some (b := (n : ℤ).toNat.toUInt16) (by simp),
    filterMap_setsReg_back _ hbacks]
  simp

end

/-- With one write of the right side, its place among the steps of the left side decides. -/
theorem overtaken_iff {t u : ParTrace Op Op.Answer} {ev : Ev} {v : UInt16}
    (ht : ∀ e ∈ side .right t, setsReg qcEnableReg e = none) (hev : setsReg qcEnableReg ev = some v)
    (hu : ∀ e ∈ side .right u, setsReg qcEnableReg e = none) :
    Overtaken (t ++ (.right, ev) :: u) ↔ [.read, .other, .write] <+:
      ((side .left t).filterMap fun e => enableStep (.left, e)) ++
        .other :: ((side .left u).filterMap fun e => enableStep (.left, e)) := by
  have hne : Side.left ≠ Side.right := by decide
  unfold Overtaken
  rw [List.filterMap_append, List.filterMap_cons_some (b := .other) (by simp [enableStep, hev]),
    filterMap_of_side hne enableStep t fun e he => by simp [enableStep, ht e he],
    filterMap_of_side hne enableStep u fun e he => by simp [enableStep, hu e he]]

theorem setEnableBit_keeps_bits_iff {β : Type} (d : Dongle) (enable : Bool) (q : Py β) (v : UInt16)
    (w w' : World) (tr : ParTrace Op Op.Answer) (msg : String) (new : Nat) (b : Except PyErr β)
    (hrun : ParRun (World.step .reliable) w (setEnableBit d enable) q tr w' (.ok (.ok (msg, new))) b)
    (hq : (side .right tr).filterMap (setsReg qcEnableReg) = [v]) :
    (∀ i, (w'.regs qcEnableReg).toNat.testBit (i + 1) = v.toNat.testBit (i + 1)) ↔
      (Overtaken tr →
        ∀ i, (w.regs qcEnableReg).toNat.testBit (i + 1) = v.toNat.testBit (i + 1)) := by
  obtain ⟨hl, -, hs⟩ := (parRun_iff _ _ _ _ _ _ _ _).mp hrun
  obtain ⟨f, g, backs, hf, hnew, hleft, hbacks⟩ :=
    setEnableBit_shape enable _ _ () hl (steps_anyStep _) msg new rfl
  obtain ⟨r₁, ev, r₂, hright, hr₁, hev, hr₂⟩ := List.filterMap_eq_cons_iff.mp hq
  rw [List.filterMap_eq_nil_iff] at hr₂
  obtain ⟨t, u, rfl, rfl, rfl⟩ := exists_of_side_eq hright
  rw [List.map_append, List.map_cons, steps_append] at hs
  obtain ⟨m, hst, m', hstep, hsu⟩ := hs
  have hm' : m'.regs qcEnableReg = v := by rw [step_setsReg _ _ _ _ hstep, hev]; rfl
  have hbits : ∀ x : UInt16, f.1.values.headD 0 = x.toNat →
      w'.regs qcEnableReg = (new : ℤ).toNat.toUInt16 → ∀ i,
      (w'.regs qcEnableReg).toNat.testBit (i + 1) = x.toNat.testBit (i + 1) := fun x hx hw i => by
    rw [hw, hnew, hx, toUInt16_withEnableBit, withEnableBit_succ]
  have hne : Side.left ≠ Side.right := by decide
  have hov := overtaken_iff hr₁ hev hr₂
  rw [side_append, side_cons, if_neg (by simp)] at hleft
  -- where the other write falls among the transactions of `setEnableBit`
  match hlt : side .left t, hleft with
  | [], hleft =>
    have hval := head_of_read hf hleft hr₂ hsu
    rw [hm'] at hval
    have hfinal := hbits v hval (regs_of_left [_] hleft hbacks hr₂ hsu)
    have hno : ¬ Overtaken (t ++ (.right, ev) :: u) := by
      rw [hov, hlt]
      simp
    exact ⟨fun _ h => absurd h hno, fun _ => hfinal⟩
  | [x], hleft =>
    simp only [List.cons_append, List.nil_append, List.cons.injEq] at hleft
    obtain ⟨rfl, hlu⟩ := hleft
    have hval := head_of_read hf hlt hr₁ hst
    have hfinal := hbits _ hval (regs_of_left [] hlu hbacks hr₂ hsu)
    have hyes : Overtaken (t ++ (.right, ev) :: u) := by
      rw [hov, hlt, hlu]
      simp [enableStep, Op.readsReg, Op.writesReg]
    simp only [hyes, forall_const, hfinal]
  | x :: y :: rest, hleft =>
    simp only [List.cons_append, List.cons.injEq] at hleft
    obtain ⟨rfl, rfl, hback⟩ := hleft
    have hno : ¬ Overtaken (t ++ (.right, ev) :: u) := by
      rw [hov, hlt]
      simp [enableStep, Op.readsReg, Op.writesReg]
    have hfinal : w'.regs qcEnableReg = v := by
      rw [regs_last_side hne hr₂ hsu, filterMap_setsReg_back, hm']
      · rfl
      · exact fun e he => hbacks e (by rw [← hback]; exact List.mem_append_right _ he)
    exact ⟨fun _ h => absurd h hno, fun _ i => by rw [hfinal]⟩

/-- `setEnableBit` against a PUT that sets bit 2 of the same register. -/
def racePut (sched : List Side) :=
  execPar World.answer sched idleWorld (setEnableBit idleDongle true)
    (apiHoldingPut "function_enable_5" { raw := some 4 })

theorem racePut_parRun (sched : List Side)
    (hl : (racePut sched).2.2.1.returns Except.isOk = true)
    (hr : (racePut sched).2.2.2.returns (fun _ => true) = true) :
    ∃ msg new put, ParRun (World.step .reliable) idleWorld (setEnableBit idleDongle true)
      (apiHoldingPut "function_enable_5" { raw := some 4 }) (racePut sched).1 (racePut sched).2.1
      (.ok (.ok (msg, new))) (.ok put) := by
  obtain ⟨a, ha, hok⟩ := Prog.returns_iff.mp hl
  obtain ⟨put, hput, -⟩ := Prog.returns_iff.mp hr
  match a, hok with
  | .ok (msg, new), _ =>
    exact ⟨msg, new, put, execPar_spec _ _ World.answer_step sched _ _ _ _ _ ha hput⟩

/-- A PUT between the read and the write is undone, and both report success. -/
theorem setEnableBit_loses_put :
    ∃ tr w' msg new put,
      ParRun (World.step .reliable) idleWorld (setEnableBit idleDongle true)
        (apiHoldingPut "function_enable_5" { raw := some 4 }) tr w' (.ok (.ok (msg, new))) (.ok put) ∧
      (side .right tr).filterMap (setsReg qcEnableReg) = [4] ∧
      ¬ ∀ i, (w'.regs qcEnableReg).toNat.testBit (i + 1) = (4 : UInt16).toNat.testBit (i + 1) := by
  let sched := [Side.left] ++ List.replicate 8 .right ++ [.left, .left]
  obtain ⟨msg, new, put, h⟩ := racePut_parRun sched (by decide +kernel) (by decide +kernel)
  exact ⟨_, _, msg, new, put, h, by decide +kernel, fun hb => absurd (hb 1) (by decide +kernel)⟩

/-- After a PUT that came first its bit 2 is there. -/
theorem setEnableBit_after_put :
    ((racePut (List.replicate 8 .right ++ List.replicate 3 .left)).2.1.regs
      qcEnableReg).toNat.testBit 2 = true := by
  obtain ⟨msg, new, put, h⟩ := racePut_parRun (List.replicate 8 .right ++ List.replicate 3 .left)
    (by decide +kernel) (by decide +kernel)
  have hbits := (setEnableBit_keeps_bits_iff _ _ _ 4 _ _ _ _ _ _ h (by decide +kernel)).mpr fun hov =>
    absurd hov (by decide +kernel)
  exact (hbits 1).trans (by decide +kernel)

end LuxMon
