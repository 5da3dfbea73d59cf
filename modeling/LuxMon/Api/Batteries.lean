import LuxMon.Api.Views

/-!
# Battery blocks

Each battery has a block of 30 registers, and its serial number is read from 14
registers from offset 19 on: the last three of them are the first three of the next
block.

    the record depends on its own block only ↔ the battery is not listed   (own_block_iff)
-/

namespace LuxMon

open Python

/-- The register at an offset of battery `batt`'s block. -/
def blockRegister (batt off : ℕ) : ℕ := BATTERY_START + (batt - 1) * BATTERY_BLOCK_SIZE + off

/-- The two maps agree on the 30 registers of battery `batt`. -/
def SameBlock (raw raw' : Dict ℕ ℕ) (batt : ℕ) : Prop :=
  ∀ off < BATTERY_BLOCK_SIZE, raw'.get? (blockRegister batt off) = raw.get? (blockRegister batt off)

/-- A register of the block is not zero. -/
def Present (raw : Dict ℕ ℕ) (batt : ℕ) : Prop :=
  ∃ off < BATTERY_BLOCK_SIZE, (raw.get? (blockRegister batt off)).getD 0 ≠ 0

/-- What the answer lists for battery `batt`. -/
def batteryAnswer (raw : Dict ℕ ℕ) (batt : ℕ) : Option Battery :=
  ((List.range BATTERY_COUNT).filterMap fun i => battery raw (i + 1)).find? fun b => b.index = batt

/-! ## Presence and the fields -/

theorem any_iff_present (raw : Dict ℕ ℕ) (batt : ℕ) :
    ((List.range BATTERY_BLOCK_SIZE).any fun off =>
      (raw.get? (BATTERY_START + (batt - 1) * BATTERY_BLOCK_SIZE + off)).getD 0 != 0) = true ↔
      Present raw batt := by
  simp only [List.any_eq_true, List.mem_range, bne_iff_ne]
  rfl

theorem battery_isSome_iff (raw : Dict ℕ ℕ) (batt : ℕ) : (battery raw batt).isSome = true ↔ Present raw batt := by
  rw [← any_iff_present]
  unfold battery
  dsimp only
  split
  · next h => simp [h]
  · next h => simp [h]

theorem battery_index {raw : Dict ℕ ℕ} {batt : ℕ} {b : Battery} (h : battery raw batt = some b) :
    b.index = batt ∧ b.serial = decodeBatterySerial raw batt := by
  unfold battery at h
  dsimp only at h
  split at h
  · cases h
    exact ⟨rfl, rfl⟩
  · cases h

theorem SameBlock.present {raw raw' : Dict ℕ ℕ} {batt : ℕ} (h : SameBlock raw raw' batt) :
    Present raw' batt ↔ Present raw batt := by
  constructor
  · rintro ⟨off, hlt, hne⟩
    exact ⟨off, hlt, by rwa [← h off hlt]⟩
  · rintro ⟨off, hlt, hne⟩
    exact ⟨off, hlt, by rwa [h off hlt]⟩

/-- Everything but the serial is read from the block. -/
theorem SameBlock.fields {raw raw' : Dict ℕ ℕ} {batt : ℕ} (h : SameBlock raw raw' batt) :
    battery raw' batt =
      (battery raw batt).map fun b => { b with serial := decodeBatterySerial raw' batt } := by
  have hget : ∀ off, off < BATTERY_BLOCK_SIZE →
      raw'.get? (BATTERY_START + (batt - 1) * BATTERY_BLOCK_SIZE + off) =
        raw.get? (BATTERY_START + (batt - 1) * BATTERY_BLOCK_SIZE + off) := h
  have hany := any_iff_present raw batt
  have hany' := any_iff_present raw' batt
  rw [h.present] at hany'
  unfold battery
  dsimp only
  by_cases hp : Present raw batt
  · rw [if_pos (hany.mpr hp), if_pos (hany'.mpr hp), hget 3 (by decide), hget 5 (by decide),
      hget 6 (by decide), hget 8 (by decide), hget 9 (by decide), hget 10 (by decide), hget 11 (by decide),
      hget 12 (by decide), hget 13 (by decide), hget 14 (by decide), hget 15 (by decide),
      hget 18 (by decide)]
    rfl
  · rw [if_neg (mt hany.mp hp), if_neg (mt hany'.mp hp)]
    rfl

/-- The list of the answer has the battery's record, and no other with its index. -/
theorem batteryAnswer_eq (raw : Dict ℕ ℕ) {batt : ℕ} (hb : 1 ≤ batt ∧ batt ≤ BATTERY_COUNT) :
    batteryAnswer raw batt = battery raw batt := by
  have hfind : ∀ is : List ℕ, ((is.filterMap fun i => battery raw (i + 1)).find? fun b => b.index = batt) =
      if batt - 1 ∈ is then battery raw batt else none := by
    intro is
    induction is with
    | nil => rfl
    | cons i is ih =>
      by_cases hi : batt - 1 = i
      · subst hi
        rw [if_pos List.mem_cons_self]
        have hnext : batt - 1 + 1 = batt := by omega
        cases hbat : battery raw batt with
        | none =>
          rw [List.filterMap_cons_none (by rw [hnext, hbat]), ih, hbat]
          simp
        | some b =>
          rw [List.filterMap_cons_some (by rw [hnext, hbat]), List.find?_cons_of_pos]
          simp [(battery_index hbat).1]
      · have hmem : batt - 1 ∈ i :: is ↔ batt - 1 ∈ is := by simp [hi]
        simp only [hmem]
        rw [← ih, List.filterMap_cons]
        cases hbat : battery raw (i + 1) with
        | none => rfl
        | some b =>
          have := (battery_index hbat).1
          exact List.find?_cons_of_neg (by simp; omega)
  unfold batteryAnswer
  rw [hfind, if_pos]
  rw [List.mem_range]
  omega

/-! ## The serial -/

/-- Text that ends with a character that is not stripped keeps it. -/
theorem strip_ends (cs : List Char) {c : Char} (hnul : c ≠ Char.ofNat 0) (hspace : isSpace c = false) :
    ∃ ds, ((((cs ++ [c]).reverse.dropWhile (· = Char.ofNat 0)).reverse.dropWhile isSpace).reverse.dropWhile
      isSpace).reverse = ds ++ [c] := by
  have hfirst : ((cs ++ [c]).reverse.dropWhile (· = Char.ofNat 0)).reverse = cs ++ [c] := by
    rw [List.reverse_append, List.reverse_singleton, List.singleton_append,
      List.dropWhile_cons_of_neg (by simpa using hnul), List.reverse_cons, List.reverse_reverse]
  have hleft : ∃ ds, (cs ++ [c]).dropWhile isSpace = ds ++ [c] := by
    clear hfirst
    induction cs with
    | nil => exact ⟨[], by simp [hspace]⟩
    | cons d cs ih =>
      rw [List.cons_append, List.dropWhile_cons]
      split
      · exact ih
      · exact ⟨d :: cs, rfl⟩
  obtain ⟨ds, hds⟩ := hleft
  refine ⟨ds, ?_⟩
  rw [hfirst, hds, List.reverse_append, List.reverse_singleton, List.singleton_append,
    List.dropWhile_cons_of_neg (by simp [hspace]), List.reverse_cons, List.reverse_reverse]

/-- The characters of one register, high byte first. -/
def charPair (raw : ℕ) : List Char := [Char.ofNat (raw >>> 8 &&& 0xFF), Char.ofNat (raw &&& 0xFF)]

/-- The last register of the serial decides its end. -/
theorem decodeBatterySerial_ends {raw : Dict ℕ ℕ} {batt v : ℕ} {c : Char}
    (hv : raw.get? (blockRegister batt 32) = some v) (hc : Char.ofNat (v &&& 0xFF) = c)
    (hnul : c ≠ Char.ofNat 0) (hspace : isSpace c = false) :
    ∃ ds, (decodeBatterySerial raw batt).toList = ds ++ [c] := by
  let chars := (List.range 13).flatMap fun i => charPair ((raw.get? (blockRegister batt (19 + i))).getD 0)
  have hchars : ((List.range 14).flatMap fun i => charPair ((raw.get? (blockRegister batt (19 + i))).getD 0)) =
      (chars ++ [Char.ofNat (v >>> 8 &&& 0xFF)]) ++ [c] := by
    rw [List.range_succ, List.flatMap_append, List.flatMap_singleton, hv]
    simp [charPair, hc, chars]
  obtain ⟨ds, hds⟩ := strip_ends (chars ++ [Char.ofNat (v >>> 8 &&& 0xFF)]) hnul hspace
  refine ⟨ds, ?_⟩
  rw [← hds, ← hchars]
  unfold decodeBatterySerial
  rw [String.toList_ofList]
  rfl

/-- The serial is a function of the 14 registers from offset 19 on. -/
theorem decodeBatterySerial_congr {raw raw' : Dict ℕ ℕ} {batt : ℕ}
    (h : ∀ i < 14, raw'.get? (blockRegister batt (19 + i)) = raw.get? (blockRegister batt (19 + i))) :
    decodeBatterySerial raw' batt = decodeBatterySerial raw batt := by
  have hchars : ((List.range 14).flatMap fun i => charPair ((raw'.get? (blockRegister batt (19 + i))).getD 0)) =
      (List.range 14).flatMap fun i => charPair ((raw.get? (blockRegister batt (19 + i))).getD 0) := by
    rw [List.flatMap_def, List.flatMap_def]
    refine congrArg List.flatten (List.map_congr_left fun i hi => ?_)
    rw [h i (List.mem_range.mp hi)]
  have heq : ∀ r, decodeBatterySerial r batt = String.ofList (((((List.range 14).flatMap fun i =>
      charPair ((r.get? (blockRegister batt (19 + i))).getD 0)).reverse.dropWhile
        (· = Char.ofNat 0)).reverse.dropWhile isSpace).reverse.dropWhile isSpace).reverse := fun _ => rfl
  rw [heq raw', heq raw, hchars]

/-- Another text in the three registers behind the block, all of one character. -/
def withTail (raw : Dict ℕ ℕ) (batt v : ℕ) : Dict ℕ ℕ :=
  ((raw.set (blockRegister batt 30) v).set (blockRegister batt 31) v).set (blockRegister batt 32) v

theorem withTail_sameBlock (raw : Dict ℕ ℕ) (batt v : ℕ) : SameBlock raw (withTail raw batt v) batt := by
  intro off hoff
  have hlt : off < 30 := hoff
  have hne : ∀ k, 30 ≤ k → blockRegister batt off ≠ blockRegister batt k := by
    intro k hk h
    unfold blockRegister at h
    omega
  unfold withTail
  rw [Dict.get?_set, Dict.get?_set, Dict.get?_set, if_neg (hne 32 (by decide)), if_neg (hne 31 (by decide)),
    if_neg (hne 30 le_rfl)]

theorem withTail_serial (raw : Dict ℕ ℕ) (batt v : ℕ) {c : Char} (hc : Char.ofNat (v &&& 0xFF) = c)
    (hnul : c ≠ Char.ofNat 0) (hspace : isSpace c = false) :
    ∃ ds, (decodeBatterySerial (withTail raw batt v) batt).toList = ds ++ [c] := by
  refine decodeBatterySerial_ends ?_ hc hnul hspace
  unfold withTail
  rw [Dict.get?_set, if_pos rfl]

/-! ## Two maps that agree on a block -/

/-- The record of a battery is a function of its own block exactly when the battery is not listed.
Whether it is listed and all fields but the serial always are; the serial is one of the block and
the three registers behind it. -/
theorem own_block_iff (raw : Dict ℕ ℕ) (batt : ℕ) (hb : 1 ≤ batt ∧ batt ≤ 8) :
    ((∀ raw', SameBlock raw raw' batt → batteryAnswer raw' batt = batteryAnswer raw batt) ↔
      ¬ Present raw batt) ∧
    (∀ raw', SameBlock raw raw' batt → batteryAnswer raw' batt =
      (batteryAnswer raw batt).map fun b => { b with serial := decodeBatterySerial raw' batt }) ∧
    ∀ raw', SameBlock raw raw' batt →
      (∀ off, BATTERY_BLOCK_SIZE ≤ off → off < BATTERY_BLOCK_SIZE + 3 →
        raw'.get? (blockRegister batt off) = raw.get? (blockRegister batt off)) →
      batteryAnswer raw' batt = batteryAnswer raw batt := by
  have hanswer : ∀ r, batteryAnswer r batt = battery r batt := fun r => batteryAnswer_eq r hb
  simp only [hanswer]
  refine ⟨⟨fun hsame hp => ?_, fun hno raw' h => ?_⟩, fun raw' h => h.fields, fun raw' h htail => ?_⟩
  · -- two texts that end differently
    obtain ⟨ds, hds⟩ := withTail_serial raw batt 0x4141 (c := 'A') (by decide) (by decide) (by decide)
    obtain ⟨es, hes⟩ := withTail_serial raw batt 0x4242 (c := 'B') (by decide) (by decide) (by decide)
    have hA := hsame _ (withTail_sameBlock raw batt 0x4141)
    have hB := hsame _ (withTail_sameBlock raw batt 0x4242)
    obtain ⟨b, hbat⟩ := Option.isSome_iff_exists.mp ((battery_isSome_iff raw batt).mpr hp)
    rw [hbat] at hA hB
    have hserial : decodeBatterySerial (withTail raw batt 0x4141) batt =
        decodeBatterySerial (withTail raw batt 0x4242) batt :=
      (battery_index hA).2.symm.trans (battery_index hB).2
    rw [hserial, hes] at hds
    have := (List.append_inj' hds rfl).2
    cases this
  · have hno' : ¬ Present raw' batt := mt h.present.mp hno
    rw [← battery_isSome_iff, Bool.not_eq_true, Option.isSome_eq_false_iff, Option.isNone_iff_eq_none] at hno hno'
    rw [hno, hno']
  · have hserial : decodeBatterySerial raw' batt = decodeBatterySerial raw batt := by
      refine decodeBatterySerial_congr fun i hi => ?_
      by_cases hown : 19 + i < BATTERY_BLOCK_SIZE
      · exact h _ hown
      · exact htail _ (by omega) (by unfold BATTERY_BLOCK_SIZE; omega)
    rw [h.fields, hserial]
    cases hbat : battery raw batt with
    | none => rfl
    | some b =>
      rw [Option.map_some, ← (battery_index hbat).2]

/-- An absent battery stays absent, whatever its neighbours are. -/
theorem own_block_absent : batteryAnswer (Dict.empty.set 5030 0x4142) 1 = batteryAnswer Dict.empty 1 := by
  refine (own_block_iff Dict.empty 1 (by decide)).1.mpr ?_ _ ?_
  · rintro ⟨off, -, h⟩
    exact h rfl
  · intro off hoff
    have hlt : off < 30 := hoff
    rw [Dict.get?_set, if_neg (by unfold blockRegister BATTERY_START BATTERY_BLOCK_SIZE; omega)]

/-- Battery 1 has a capacity, and nothing else is known. -/
def oneBattery : Dict ℕ ℕ := Dict.empty.set 5003 100

/-- The same, and the first register of battery 2 holds 0x4142. -/
def twoBatteries : Dict ℕ ℕ := oneBattery.set 5030 0x4142

/-- The register of battery 2 becomes a part of the serial number of battery 1. -/
theorem twoBatteries_leak :
    SameBlock oneBattery twoBatteries 1 ∧ batteryAnswer twoBatteries 1 ≠ batteryAnswer oneBattery 1 := by
  constructor
  · intro off hoff
    have hlt : off < 30 := hoff
    unfold twoBatteries
    rw [Dict.get?_set, if_neg (by unfold blockRegister BATTERY_START BATTERY_BLOCK_SIZE; omega)]
  · intro h
    have hserial := congrArg (fun b => b.map fun b => b.serial.toList.length) h
    revert hserial
    decide +kernel

end LuxMon
