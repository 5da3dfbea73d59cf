import LuxMon.Protocol.Frame
import LuxMon.Storage.Locality
import LuxMon.Storage.OneValue

/-!
# The registers of the received frames

Every input frame is merged into one long-lived dict, `_latest_input_raw`, which the
writer loop decodes.  The batches of the drivers are aligned with the pairs of the maps:
a batch has both words of a quantity or none.

    a register has the value of the last frame that carries it         (get?_received)
    the two words of a quantity come from one frame                    (words_of_one_frame)
-/

namespace LuxMon

open Python

/-! ## Algorithm -/

/-- What the collector has received, `_latest_input_raw` and `_latest_hold_raw`. -/
structure LatestRaw where
  input : Dict Nat Nat := .empty
  hold : Dict Nat Nat := .empty

/-- The loop over the values of a frame. -/
def storeValues (raw : Dict Nat Nat) (frame : LuxFrame) : Dict Nat Nat :=
  raw.sets (frame.values.zipIdx.map fun x => (frame.register + x.2, x.1))

/-- `_handle_frame`. -/
def handleFrame (latest : LatestRaw) (frame : LuxFrame) : LatestRaw :=
  if !frame.isTranslatedData then latest
  else if frame.isReadInput then { latest with input := storeValues latest.input frame }
  else if frame.isReadHold then { latest with hold := storeValues latest.hold frame }
  else latest

/-- After a run of frames. -/
def received (run : List LuxFrame) : LatestRaw := run.foldl handleFrame {}

/-- `BATTERY_BATCHES`. -/
def BATTERY_BATCHES : List (Nat × Nat) := [(5000, 40), (5040, 40), (5080, 40), (5120, 40), (5160, 40), (5200, 40)]

/-- `BATCHES`: the first register and the number of registers of each request. -/
def DriverFamily.batches : DriverFamily → List (Nat × Nat)
  | .sna => [(0, 40), (40, 40), (80, 40)] ++ BATTERY_BATCHES
  | .kpv => [(0, 40), (40, 40), (80, 40), (120, 40), (160, 40), (200, 40)] ++ BATTERY_BATCHES

namespace LuxFrame

/-- A frame that goes into the input registers. -/
def isInput (f : LuxFrame) : Bool := f.isTranslatedData && f.isReadInput

/-- What an input frame has for a register. -/
def inputAt (f : LuxFrame) (n : Nat) : Option Nat :=
  if f.isInput ∧ f.register ≤ n then f.values[n - f.register]? else none

/-- The frame has the registers of the batch. -/
def Carries (f : LuxFrame) (batch : Nat × Nat) : Prop := f.register = batch.1 ∧ f.values.length = batch.2

end LuxFrame

/-! ## What a run leaves in the registers -/

theorem lookup_values (values : List Nat) (start n : Nat) :
    (values.zipIdx.map fun x => (start + x.2, x.1)).reverse.lookup n =
      if start ≤ n then values[n - start]? else none := by
  induction values using List.reverseRecOn with
  | nil => simp
  | append_singleton values value ih =>
    rw [List.zipIdx_append, List.map_append, List.reverse_append, List.zipIdx_singleton, List.map_singleton,
      List.reverse_singleton, List.singleton_append, lookup_cons_ite, ih, Nat.zero_add]
    by_cases hn : n = start + values.length
    · subst hn
      simp
    · rw [if_neg hn]
      split_ifs with hstart
      · rcases Nat.lt_or_ge (n - start) values.length with h | h
        · rw [List.getElem?_append_left h]
        · have hlen : (values ++ [value]).length ≤ n - start := by
            rw [List.length_append, List.length_singleton]
            omega
          rw [List.getElem?_eq_none h, List.getElem?_eq_none hlen]
      · rfl

/-- One frame: what it carries is new, the rest stays. -/
theorem get?_handleFrame (latest : LatestRaw) (f : LuxFrame) (n : Nat) :
    (handleFrame latest f).input.get? n = (f.inputAt n).or (latest.input.get? n) := by
  unfold handleFrame LuxFrame.inputAt LuxFrame.isInput
  by_cases hdata : f.isTranslatedData
  · by_cases hinput : f.isReadInput
    · simp only [hdata, hinput]
      show (storeValues latest.input f).get? n = _
      unfold storeValues
      rw [Dict.get?_sets, lookup_values]
      simp
    · simp only [hdata, hinput]
      cases f.isReadHold <;> rfl
  · simp only [hdata]
    rfl

/-- Of the frame `f` and those after it, `f` is the last to carry the register. -/
def LastToCarry (f : LuxFrame) (after : List LuxFrame) (n value : Nat) : Prop :=
  f.inputAt n = some value ∧ ∀ g ∈ after, g.inputAt n = none

theorem get?_untouched {after : List LuxFrame} {n : Nat} (h : ∀ g ∈ after, g.inputAt n = none) (latest : LatestRaw) :
    (after.foldl handleFrame latest).input.get? n = latest.input.get? n := by
  induction after generalizing latest with
  | nil => rfl
  | cons g after ih =>
    rw [List.foldl_cons, ih (fun g' hg' => h g' (List.mem_cons_of_mem g hg')), get?_handleFrame,
      h g List.mem_cons_self, Option.none_or]

/-- A register has the value of the last frame that carries it. -/
theorem get?_received {run : List LuxFrame} {n value : Nat} : (received run).input.get? n = some value ↔
    ∃ before f after, run = before ++ f :: after ∧ LastToCarry f after n value := by
  constructor
  · intro h
    induction run using List.reverseRecOn with
    | nil => cases h
    | append_singleton run f ih =>
      unfold received at h
      rw [List.foldl_append, List.foldl_cons, List.foldl_nil, get?_handleFrame] at h
      cases hf : f.inputAt n with
      | some v =>
        rw [hf, Option.some_or] at h
        exact ⟨run, f, [], rfl, hf.trans h, fun g hg => (List.not_mem_nil hg).elim⟩
      | none =>
        rw [hf, Option.none_or] at h
        obtain ⟨before, g, after, rfl, hg, hafter⟩ := ih h
        refine ⟨before, g, after ++ [f], by rw [List.append_assoc, List.cons_append], hg, fun g' hg' => ?_⟩
        rcases List.mem_append.mp hg' with hg' | hg'
        · exact hafter g' hg'
        · rw [List.mem_singleton.mp hg', hf]
  · rintro ⟨before, f, after, rfl, hf, hafter⟩
    unfold received
    rw [List.foldl_append, List.foldl_cons, get?_untouched hafter, get?_handleFrame, hf, Option.some_or]

/-! ## Pairs and batches -/

/-- The register is one of the batch. -/
def InBatch (batch : Nat × Nat) (n : Nat) : Prop := batch.1 ≤ n ∧ n < batch.1 + batch.2

instance (batch : Nat × Nat) (n : Nat) : Decidable (InBatch batch n) := inferInstanceAs (Decidable (_ ∧ _))

theorem inputAt_ne_none {f : LuxFrame} {batch : Nat × Nat} (hinput : f.isInput) (hf : f.Carries batch) (n : Nat) :
    f.inputAt n ≠ none ↔ InBatch batch n := by
  unfold LuxFrame.inputAt InBatch
  rw [← hf.1, ← hf.2]
  by_cases hstart : f.register ≤ n
  · rw [if_pos ⟨hinput, hstart⟩, ne_eq, List.getElem?_eq_none_iff]
    omega
  · rw [if_neg fun h => hstart h.2]
    simp [hstart]

/-- The entries of the maps that are pairs. -/
def pairEntries : List (Nat × RegisterDef) :=
  (baseInputRegisters ++ batteryBlocks ++ kpvExtra).filter fun e => e.2.pairHigh.isSome

/-- The batches of all the drivers. -/
def allBatches : List (Nat × Nat) := DriverFamily.sna.batches ++ DriverFamily.kpv.batches

section
variable {family : DriverFamily} {n high : Nat} {r : RegisterDef}

theorem pair_entry (hr : family.inputRegisters.get? n = some r) (hhigh : r.pairHigh = some high) :
    (n, r) ∈ pairEntries :=
  List.mem_filter.mpr ⟨inputRegisters_mem hr, by rw [hhigh]; rfl⟩

/-- No other register has the name of a pair. -/
theorem pair_alone (hr : family.inputRegisters.get? n = some r) (hhigh : r.pairHigh = some high) :
    r.Alone family.inputRegisters n := by
  have hplain : (pairEntries.all fun p => p.2.name != "soh" && !namesBattery p.2.name) = true := by
    decide +kernel
  have hall : (pairEntries.all fun p =>
      (baseInputRegisters ++ kpvExtra).all fun e => e.2.name != p.2.name || e.1 == p.1) = true := by
    decide +kernel
  have hmem := pair_entry hr hhigh
  have h := Bool.and_eq_true_iff.mp (List.all_eq_true.mp hplain _ hmem)
  exact alone_of_entries (bne_iff_ne.mp h.1) (Bool.not_eq_true' _ ▸ h.2) (List.all_eq_true.mp hall _ hmem)

/-- A batch has both words of a pair or none. -/
theorem pair_aligned (hr : family.inputRegisters.get? n = some r) (hhigh : r.pairHigh = some high)
    {polled : DriverFamily} {batch : Nat × Nat} (hbatch : batch ∈ polled.batches) :
    InBatch batch n ↔ InBatch batch high := by
  have hall : (pairEntries.all fun p => allBatches.all fun b =>
      decide (InBatch b p.1 ↔ ∀ h ∈ p.2.pairHigh, InBatch b h)) = true := by
    decide +kernel
  have hmem : batch ∈ allBatches := by
    cases polled with
    | sna => exact List.mem_append_left _ hbatch
    | kpv => exact List.mem_append_right _ hbatch
  have h := of_decide_eq_true (List.all_eq_true.mp (List.all_eq_true.mp hall _ (pair_entry hr hhigh)) _ hmem)
  simpa [hhigh] using h

/-- A pair is not clamped. -/
theorem pair_unlimited (hr : family.inputRegisters.get? n = some r) (hhigh : r.pairHigh = some high) (info : Info) :
    info.clamped r.name = info := by
  have hall : (pairEntries.all fun p => (SANITY_LIMITS.lookup p.2.name).isNone) = true := by
    decide +kernel
  have h := Option.isNone_iff_eq_none.mp (List.all_eq_true.mp hall _ (pair_entry hr hhigh))
  unfold Info.clamped
  rw [h]

/-- The entry of a pair in what the writer loop decodes. -/
theorem decode_pair (hr : family.inputRegisters.get? n = some r) (hhigh : r.pairHigh = some high) (raw : Dict Nat Nat) :
    (family.decode raw).get? r.name = r.entry n raw := by
  have hclamped : ∀ info : Info, info.clamped r.name = info := pair_unlimited hr hhigh
  unfold DriverFamily.decode
  rw [get?_clampValues, get?_decodeRegisters (pair_alone hr hhigh) hr]
  cases r.entry n raw with
  | none => rfl
  | some info => exact congrArg some (hclamped info)

end

/-! ## Whole runs -/

/-- Every input frame of the run answers a request of the drivers. -/
def Polled (run : List LuxFrame) : Prop :=
  ∀ f ∈ run, f.isInput → ∃ family : DriverFamily, ∃ batch ∈ family.batches, f.Carries batch

/-- The two words of a decoded quantity come from one frame, the last one that has either. -/
theorem words_of_one_frame (family : DriverFamily) {run : List LuxFrame} (hpolled : Polled run) {n high : Nat}
    {r : RegisterDef} (hr : family.inputRegisters.get? n = some r) (hhigh : r.pairHigh = some high) {info : Info}
    (hinfo : (family.decode (received run).input).get? r.name = some info) :
    ∃ before f after low highValue, run = before ++ f :: after ∧ LastToCarry f after n low ∧
      LastToCarry f after high highValue ∧ info = r.info low highValue := by
  -- every frame of the run has both words or none
  have hboth : ∀ g ∈ run, g.inputAt n = none ↔ g.inputAt high = none := by
    intro g hg
    by_cases hinput : g.isInput
    · obtain ⟨polled, batch, hbatch, hcarries⟩ := hpolled g hg hinput
      have haligned := pair_aligned hr hhigh hbatch
      rw [← inputAt_ne_none hinput hcarries, ← inputAt_ne_none hinput hcarries] at haligned
      exact not_iff_not.mp haligned
    · have hnone : ∀ m, g.inputAt m = none := fun m => if_neg fun h => hinput h.1
      rw [hnone, hnone]
  rw [decode_pair hr hhigh] at hinfo
  unfold RegisterDef.entry at hinfo
  obtain ⟨low, hlow, hinfo⟩ := Option.bind_eq_some_iff.mp hinfo
  rw [hhigh] at hinfo
  obtain ⟨highValue, hvalue, rfl⟩ := Option.map_eq_some_iff.mp hinfo
  obtain ⟨before, f, after, rfl, hf, hafter⟩ := get?_received.mp hlow
  have hafterHigh : ∀ g ∈ after, g.inputAt high = none := fun g hg =>
    (hboth g (List.mem_append_right _ (List.mem_cons_of_mem f hg))).mp (hafter g hg)
  -- the frame with the low word has the high word too, and it is the one in the dict
  have hsome : f.inputAt high ≠ none := fun h => by
    rw [(hboth f (List.mem_append_right _ List.mem_cons_self)).mpr h] at hf
    cases hf
  obtain ⟨v, hv⟩ := Option.ne_none_iff_exists'.mp hsome
  have hreceived := get?_received.mpr ⟨before, f, after, rfl, hv, hafterHigh⟩
  obtain rfl : v = highValue := Option.some.inj (hreceived.symm.trans hvalue)
  exact ⟨before, f, after, low, v, rfl, ⟨hf, hafter⟩, ⟨hv, hafterHigh⟩, rfl⟩

/-- The answer to the second request, with every register at the same value. -/
def secondBatch (value : Nat) : LuxFrame :=
  { protocol := 2, tcpFunction := tcpFuncTranslatedData, datalogSerial := "", raw := [],
    deviceFunction := modbusReadInput, register := 40, values := List.replicate 40 value }

/-- Two polls, and the total energy of the first string in the second one. -/
theorem pv1_energy_of_one_frame : ∃ before f after low highValue,
    [secondBatch 3, secondBatch 5] = before ++ f :: after ∧ LastToCarry f after 40 low ∧
      LastToCarry f after 41 highValue ∧
      RegisterDef.info { name := "pv1_energy_total", unit := "kWh", scale := 0.1, pairHigh := some 41 } 5 5 =
        RegisterDef.info { name := "pv1_energy_total", unit := "kWh", scale := 0.1, pairHigh := some 41 } low highValue := by
  have hr : DriverFamily.sna.inputRegisters.get? 40 =
      some { name := "pv1_energy_total", unit := "kWh", scale := 0.1, pairHigh := some 41 } := sna_base (by decide) rfl
  have hpolled : Polled [secondBatch 3, secondBatch 5] := by
    intro f hf _
    refine ⟨.sna, (40, 40), by decide, ?_⟩
    rcases List.mem_cons.mp hf with rfl | hf
    · exact ⟨rfl, rfl⟩
    · rw [List.mem_singleton.mp hf]
      exact ⟨rfl, rfl⟩
  refine words_of_one_frame .sna hpolled hr rfl ?_
  rw [decode_pair hr rfl]
  rfl

end LuxMon
