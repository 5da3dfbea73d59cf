import LuxMon.QuickCharge.Manager

/-!
# What the quick-charge operations do to the inverter and the database

One lemma per function, under any policy: which registers and documents it can
change, and what holds when it reports success.
-/

namespace LuxMon

open Python Effects Prog World

variable {d : Dongle} {pol : Policy} {w w' : World}

/-! ## The statements on the database -/

section
variable {S : Type} {step : S → Ev → S → Prop} {s : S}

theorem logQc_ensures (name : String) (raw scaled : Option ℤ) (success : Bool) (msg : String) :
    Ensures step s (logQc name raw scaled success msg) fun tr out s' =>
      ∃ row a, tr = [⟨.insertLog row, a⟩] ∧ out = a ∧ step s ⟨.insertLog row, a⟩ s' := by
  unfold logQc
  rw [perform_bind, ensures_ask]
  intro a m h
  exact (ensures_ofExcept _).mpr ⟨_, a, rfl, rfl, h⟩

theorem saveState_ensures (state : QuickChargeState) :
    Ensures step s (saveState state) fun tr out s' =>
      ∃ a, tr = [⟨.setDocument qcStateKey state.toDict, a⟩] ∧ out = a ∧
        step s ⟨.setDocument qcStateKey state.toDict, a⟩ s' := by
  unfold saveState
  rw [perform_bind, ensures_ask]
  intro a m h
  exact (ensures_ofExcept _).mpr ⟨a, rfl, rfl, h⟩

theorem loadState_ensures :
    Ensures step s loadState fun tr out s' =>
      ∃ a, tr = [⟨.getDocument qcStateKey, a⟩] ∧ out = (a >>= decodeState) ∧
        step s ⟨.getDocument qcStateKey, a⟩ s' := by
  unfold loadState
  rw [perform_bind, ensures_ask]
  intro a m h
  exact (ensures_ofExcept _).mpr ⟨a, rfl, rfl, h⟩

theorem requestedMinutes_asks (minutes : Option ℤ) :
    (requestedMinutes minutes).Asks fun op => op = .getSetting qcMinutesKey := by
  cases minutes with
  | some n => trivial
  | none =>
    refine asks_bind ⟨rfl, fun _ => asks_ofExcept _⟩ fun row => ?_
    generalize minutesOfSetting row = asked
    exact asks_ofExcept asked

end

theorem logQc_spec (name : String) (raw scaled : Option ℤ) (success : Bool) (msg : String) :
    Ensures (World.step pol) w (logQc name raw scaled success msg) fun tr out w' =>
      w' = w ∧ ∃ row a, tr = [⟨.insertLog row, a⟩] ∧ out = a := by
  refine (logQc_ensures name raw scaled success msg).mono ?_
  rintro tr out w' ⟨row, a, rfl, rfl, ⟨-, rfl⟩ | ⟨-, -, rfl⟩⟩ <;> exact ⟨rfl, row, _, rfl, rfl⟩

theorem saveState_spec (state : QuickChargeState) :
    Ensures (World.step pol) w (saveState state) fun _ _ w' => w'.regs = w.regs := by
  refine (saveState_ensures state).mono ?_
  rintro tr out w' ⟨a, -, -, ⟨-, rfl⟩ | ⟨-, -, rfl⟩⟩ <;> rfl

theorem requestedMinutes_spec (minutes : Option ℤ) :
    Ensures (World.step pol) w (requestedMinutes minutes) fun tr _ w' =>
      w' = w ∧ ∀ ev ∈ tr, ev.1 = .getSetting qcMinutesKey :=
  (Ensures.frame (requestedMinutes_asks minutes) (· = w)
    (by rintro ⟨op, a⟩ x y rfl rfl h; exact h.1) rfl).and (.of_asks (requestedMinutes_asks minutes))

/-- The minutes that a start is asked for. -/
def World.minutesAsked (w : World) (minutes : Option ℤ) : Except PyErr ℤ :=
  match minutes with
  | some m => .ok m
  | none => minutesOfSetting (w.settings qcMinutesKey)

theorem requestedMinutes_ok (minutes : Option ℤ) :
    Ensures (World.step pol) w (requestedMinutes minutes) fun _ out _ =>
      ∀ n, out = .ok n → w.minutesAsked minutes = .ok n := by
  cases minutes with
  | some m => exact (ensures_pure _).mpr fun n h => h
  | none =>
    unfold requestedMinutes getSetting minutesAsked
    rw [bind_assoc, perform_bind, ensures_ask]
    rintro a m ⟨-, hrow⟩
    rcases hrow with rfl | ⟨-, e, rfl⟩
    · rw [ofExcept_ok_bind]
      generalize minutesOfSetting (w.settings qcMinutesKey) = asked
      exact (ensures_ofExcept asked).mpr fun n h => h
    · exact (ensures_raise _).mpr fun n h => by cases h

/-! ## The enable bit -/

theorem withEnableBit_lt {cur : Nat} (h : cur < 65536) (enable : Bool) :
    withEnableBit cur enable < 65536 := by
  unfold withEnableBit
  split
  · exact Nat.or_lt_two_pow (n := 16) h (by norm_num)
  · rw [Nat.shiftLeft_eq, Nat.shiftRight_eq_div_pow]
    omega

theorem withEnableBit_zero (cur : Nat) (enable : Bool) :
    (withEnableBit cur enable).testBit 0 = enable := by
  unfold withEnableBit
  cases enable <;> simp

/-- The other bits are preserved. -/
theorem withEnableBit_succ (cur : Nat) (enable : Bool) (i : Nat) :
    (withEnableBit cur enable).testBit (i + 1) = cur.testBit (i + 1) := by
  have h1 : (1 : Nat).testBit (i + 1) = false := by simp [Nat.testBit_succ]
  unfold withEnableBit
  cases enable <;>
    simp [Nat.testBit_or, Nat.testBit_shiftLeft, Nat.testBit_shiftRight, Nat.add_comm 1, h1]

theorem toUInt16_withEnableBit (v : UInt16) (enable : Bool) :
    ((withEnableBit v.toNat enable : ℤ).toNat.toUInt16).toNat = withEnableBit v.toNat enable := by
  have := withEnableBit_lt v.toNat_lt enable
  simp only [Int.toNat_natCast, Nat.toUInt16_eq, UInt16.toNat_ofNat']
  omega

/-- What `setEnableBit` leaves behind: register 233 as it was or with bit 0 as
asked, and with bit 0 as asked if it reports success. -/
structure EnableBitDone (w : World) (enable : Bool) (out : Except PyErr (Except String (String × Nat)))
    (w' : World) : Prop where
  documents : w'.documents = w.documents
  others : ∀ q, q ≠ qcEnableReg → w'.regs q = w.regs q
  enableReg : w'.regs qcEnableReg = w.regs qcEnableReg ∨
    (w'.regs qcEnableReg).toNat = withEnableBit (w.regs qcEnableReg).toNat enable
  success : succeeded out = true → w'.writes = w.writes + 1 ∧
    (w'.regs qcEnableReg).toNat = withEnableBit (w.regs qcEnableReg).toNat enable

theorem EnableBitDone.refl {enable : Bool} {out : Except PyErr (Except String (String × Nat))}
    (h : succeeded out = false) : EnableBitDone w enable out w :=
  ⟨rfl, fun _ _ => rfl, Or.inl rfl, fun h' => by rw [h] at h'; cases h'⟩

/-- After the write transaction only the read-back can decide on success. -/
theorem EnableBitDone.of_write {enable echoed : Bool}
    {out : Except PyErr (Except String (String × Nat))}
    (h : writeStep pol w qcEnableReg [(withEnableBit (w.regs qcEnableReg).toNat enable : ℤ)] echoed w')
    (hok : succeeded out = true → ((w'.regs qcEnableReg).toNat : ℤ) =
      withEnableBit (w.regs qcEnableReg).toNat enable) : EnableBitDone w enable out w' := by
  obtain ⟨hdoc, hwrites, hother, applied, -, hreg⟩ := writeStep_regs h
  refine ⟨hdoc, hother, ?_, fun hs => ⟨hwrites, by exact_mod_cast hok hs⟩⟩
  cases applied with
  | false => exact Or.inl hreg
  | true => exact Or.inr (by rw [hreg]; exact toUInt16_withEnableBit _ _)

theorem setEnableBit_spec (enable : Bool) :
    Ensures (step pol) w (setEnableBit d enable) fun _ out w' => EnableBitDone w enable out w' := by
  have hreg : qcEnableReg ≤ 0xFFFF := by decide
  unfold setEnableBit
  refine (readHoldingRegister_spec hreg).bind ?_ fun t x m h => ?_
  · rintro t res m ⟨rfl, hval, -⟩
    match res, hval with
    | .error msg, _ => exact (ensures_pure _).mpr (.refl rfl)
    | .ok (cur, rmsg), hval =>
      obtain rfl := hval cur rmsg rfl
      refine (writeHoldingRegister_spec hreg).bind ?_ fun t x m' h => ?_
      · rintro t wres m' (⟨-, -, -, e, he⟩ | ⟨-, a, -, -, hw⟩)
        · cases he
        · match wres with
          | .error msg => exact (ensures_pure _).mpr (.of_write hw fun h => by cases h)
          | .ok msg =>
            refine (readBack_spec hreg 4).bind ?_ fun t x m'' h => ?_
            · rintro t verified m'' ⟨rfl, hback⟩
              split
              · next hv => exact (ensures_pure _).mpr (.of_write hw fun _ => hback (by rw [hv]))
              · exact (ensures_pure _).mpr (.of_write hw fun h => by cases h)
            · obtain ⟨rfl, -⟩ := h
              exact .of_write hw fun h => by cases h
      · rcases h with ⟨-, -, rfl, -⟩ | ⟨-, a, -, -, hw⟩
        · exact .refl rfl
        · exact .of_write hw fun h => by cases h
  · obtain ⟨rfl, -⟩ := h
    exact .refl rfl

end LuxMon
