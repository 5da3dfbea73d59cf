import LuxMon.Api.AlertsLive
import LuxMon.Storage.Frames
import LuxMon.Storage.Limits
import LuxMon.Storage.Visible

/-!
# From the received frames to the API

The whole way of a word: into the dict of received registers, decoded and clamped by
the writer loop, stored as a row, fetched by a reader that runs beside other writers
and readers, and shown in the configured unit.

    no two registers of a map have one name                       (inputRegisters_distinct)
    a snapshot decodes to the readings of its frames              (decode_readings)
    a reader shows nothing, or every reading                      (shown_readings)

Register 170 is left out: its row and the derived one have the same name.
-/

namespace LuxMon

open Python Effects

/-! ## What a snapshot should show -/

/-- The word of a register in the last input frame that has it. -/
def lastWord (frames : List LuxFrame) (n : Nat) : Option Nat := frames.reverse.findSome? fun f => f.inputAt n

/-- A value within the limits of its name. -/
def limited (name : String) (q : ℚ) : ℚ :=
  match SANITY_LIMITS.lookup name with
  | none => q
  | some limit => if name ∈ SIGNED_FIELDS then min q limit else max 0 (min q limit)

namespace RegisterDef

/-- What a register reads after these frames; a pair needs both words. -/
def reading (r : RegisterDef) (n : Nat) (frames : List LuxFrame) : Option ℚ :=
  (lastWord frames n).bind fun low =>
    match r.pairHigh with
    | none => some (limited r.name (r.decode low))
    | some high => (lastWord frames high).map fun highWord => limited r.name (r.decode low highWord)

/-- A reading as it is shown. -/
def shown (r : RegisterDef) (fahrenheit : Bool) (q : ℚ) : Info :=
  if fahrenheit ∧ r.name ∈ TEMP_KEYS then { value := .float (toFahrenheit (.fin q)), unit := "°F" }
  else { value := .float (.fin q), unit := r.unit }

end RegisterDef

/-- The quantity is told by the register: one of the map, or the state of health. -/
def DriverFamily.Tells (family : DriverFamily) (n : Nat) (r : RegisterDef) : Prop :=
  family.inputRegisters.get? n = some r ∨ (n = 5 ∧ r = SOH_REGISTER)

/-- The snapshot shows what these frames read, and no other register. -/
structure LiveSnapshot.Reads (snap : LiveSnapshot) (family : DriverFamily) (frames : List LuxFrame)
    (fahrenheit : Bool) : Prop where
  registers : ∀ n r, family.Tells n r → n ≠ 170 →
    snap.registers.get? r.name = (r.reading n frames).map (r.shown fahrenheit)
  others : ∀ name, (∀ n r, family.Tells n r → r.name ≠ name) → name ∉ storedComputed → name ∉ labelNames →
    snap.registers.get? name = none

/-! ## The names of the maps -/

/-- The digit of a battery name. -/
theorem batteryBlock_digit {i : Nat} (hi : i < BATTERY_COUNT) {e : Nat × RegisterDef} (he : e ∈ batteryBlock (i + 1)) :
    e.2.name.toList[8]? = some (Nat.digitChar (i + 1)) := by
  obtain ⟨suffix, hname⟩ := batteryBlock_name he
  have hlist : e.2.name.toList = "battery_".toList ++ (Nat.toDigits 10 (i + 1) ++ suffix.toList) := by
    rw [hname]
    show ("battery_" ++ (i + 1).repr ++ suffix).toList = _
    rw [String.toList_append, String.toList_append, Nat.toList_repr, List.append_assoc]
  have hdigits : Nat.toDigits 10 (i + 1) = [Nat.digitChar (i + 1)] := by
    have hall : ∀ i < BATTERY_COUNT, Nat.toDigits 10 (i + 1) = [Nat.digitChar (i + 1)] := by
      decide
    exact hall i hi
  rw [hlist, hdigits, List.getElem?_append_right (by decide)]
  rfl

theorem batteryBlocks_unique {e e' : Nat × RegisterDef} (he : e ∈ batteryBlocks) (he' : e' ∈ batteryBlocks)
    (hname : e.2.name = e'.2.name) : e.1 = e'.1 := by
  have hblocks : ∀ i < BATTERY_COUNT, ((batteryBlock (i + 1)).map fun e => e.2.name).Nodup := by
    decide +kernel
  have hdigit : ∀ i < BATTERY_COUNT, ∀ i' < BATTERY_COUNT, Nat.digitChar (i + 1) = Nat.digitChar (i' + 1) → i = i' := by
    decide
  obtain ⟨i, hi, hblock⟩ := List.mem_flatMap.mp he
  obtain ⟨i', hi', hblock'⟩ := List.mem_flatMap.mp he'
  rw [List.mem_range] at hi hi'
  have hchar := batteryBlock_digit hi hblock
  rw [hname, batteryBlock_digit hi' hblock'] at hchar
  obtain rfl := hdigit _ hi' _ hi (Option.some.inj hchar)
  exact congrArg Prod.fst (List.inj_on_of_nodup_map (hblocks _ hi) hblock hblock' hname)

theorem plainRegisters_names : ∀ e ∈ baseInputRegisters ++ kpvExtra, namesBattery e.2.name = false := by
  have hall : ((baseInputRegisters ++ kpvExtra).all fun e => !namesBattery e.2.name) = true := by
    decide +kernel
  exact fun e he => Bool.not_eq_true' _ ▸ List.all_eq_true.mp hall e he

/-- No two registers of a map have one name. -/
theorem inputRegisters_distinct (family : DriverFamily) : DistinctNames family.inputRegisters := by
  have hplain : ((baseInputRegisters ++ kpvExtra).map fun e => e.2.name).Nodup := by
    decide +kernel
  have hsoh : "soh" ∉ (baseInputRegisters ++ kpvExtra).map fun e => e.2.name := by
    decide +kernel
  have hbattery : ∀ {n r}, family.inputRegisters.get? n = some r → namesBattery r.name = true → (n, r) ∈ batteryBlocks := by
    intro n r hr hnames
    rcases List.mem_append.mp (inputRegisters_mem hr) with h | h
    · rcases List.mem_append.mp h with h | h
      · rw [plainRegisters_names _ (List.mem_append_left _ h)] at hnames
        cases hnames
      · exact h
    · rw [plainRegisters_names _ (List.mem_append_right _ h)] at hnames
      cases hnames
  refine ⟨fun {n n' r r'} hr hr' hname => ?_, fun {n r} hr h => ?_⟩
  · cases hnames : namesBattery r.name with
    | true => exact batteryBlocks_unique (hbattery hr hnames) (hbattery hr' (hname ▸ hnames)) hname
    | false =>
      exact congrArg Prod.fst (List.inj_on_of_nodup_map hplain (plainRegisters_mem hr hnames)
        (plainRegisters_mem hr' (hname ▸ hnames)) hname)
  · exact hsoh (h ▸ List.mem_map_of_mem (plainRegisters_mem hr (h ▸ by decide)))

/-- No register has the name of a label. -/
theorem tells_label {family : DriverFamily} {n : Nat} {r : RegisterDef} (hr : family.Tells n r) : r.name ∉ labelNames := by
  have hlabels : ∀ name ∈ labelNames, namesBattery name = false := by
    decide +kernel
  have hall : ((baseInputRegisters ++ kpvExtra).all fun e => !labelNames.contains e.2.name) = true := by
    decide +kernel
  rcases hr with hr | ⟨-, rfl⟩
  · intro h
    have hnot := List.all_eq_true.mp hall _ (plainRegisters_mem hr (hlabels _ h))
    simp [h] at hnot
  · decide

/-- Of the registers only 170 has a name that is stored as derived. -/
theorem tells_derived {family : DriverFamily} {n : Nat} {r : RegisterDef} (hr : family.Tells n r) (hn : n ≠ 170) :
    r.name ∉ storedComputed := by
  have hsub : ∀ name ∈ storedComputed, name ∈ computedNames := by
    decide
  rcases hr with hr | ⟨-, rfl⟩
  · exact fun h => hn (derived_registers hr (hsub _ h))
  · decide

/-! ## From the frames to the decoded snapshot -/

/-- The dict has the word of the last frame that carries the register. -/
theorem received_lastWord (frames : List LuxFrame) (n : Nat) : (received frames).input.get? n = lastWord frames n := by
  induction frames using List.reverseRecOn with
  | nil => rfl
  | append_singleton frames f ih =>
    unfold received lastWord at *
    rw [List.foldl_append, List.foldl_cons, List.foldl_nil, get?_handleFrame, ih, List.reverse_append,
      List.reverse_singleton, List.singleton_append, List.findSome?_cons]
    cases f.inputAt n <;> rfl

theorem limited_eq {name : String} {limit : ℤ} (h : SANITY_LIMITS.lookup name = some limit) (q : ℚ) : limited name q =
    if q < 0 ∧ name ∉ SIGNED_FIELDS then 0 else if (limit : ℚ) < q then (limit : ℚ) else q := by
  have hlimit : (0 : ℚ) ≤ limit := by
    obtain ⟨front, back, htable, -⟩ := List.lookup_eq_some_iff.mp h
    have hmem : (name, limit) ∈ SANITY_LIMITS := htable ▸ List.mem_append_right _ List.mem_cons_self
    exact_mod_cast (limits_small _ hmem).1
  unfold limited
  rw [h]
  dsimp only
  split_ifs with hsigned hneg hover hneg hover
  · exact absurd hsigned hneg.2
  · exact min_eq_right hover.le
  · exact min_eq_left (not_lt.mp hover)
  · rw [min_eq_left (hneg.1.le.trans hlimit), max_eq_left hneg.1.le]
  · rw [min_eq_right hover.le, max_eq_right hlimit]
  · have hnonneg : 0 ≤ q := not_lt.mp fun h => hneg ⟨h, hsigned⟩
    rw [min_eq_left (not_lt.mp hover), max_eq_right hnonneg]

/-- Clamping puts the value within the limits of its name. -/
theorem clamped_limited {info : Info} {q : ℚ} (name : String) (hq : info.value.toFloat = .ok (.fin q)) :
    (info.clamped name).value.toFloat = .ok (.fin (limited name q)) ∧ (info.clamped name).unit = info.unit := by
  unfold Info.clamped
  cases hlimit : SANITY_LIMITS.lookup name with
  | none =>
    refine ⟨?_, rfl⟩
    unfold limited
    rw [hlimit]
    exact hq
  | some limit =>
    refine ⟨?_, rfl⟩
    obtain ⟨front, back, htable, -⟩ := List.lookup_eq_some_iff.mp hlimit
    have hmem : (name, limit) ∈ SANITY_LIMITS := htable ▸ List.mem_append_right _ List.mem_cons_self
    show (clampValue name limit info.value).toFloat = _
    rw [clampValue_eq hq, limited_eq hlimit]
    split_ifs
    · rfl
    · exact Json.floatOfInt_small (limits_small _ hmem).2
    · exact hq

/-- The value of an entry is a float of the database, with the unit of the entry. -/
def Info.IsReading (info : Info) (q : ℚ) (unit : String) : Prop :=
  info.value.toFloat = .ok (.fin q) ∧ info.unit = unit

/-- A snapshot decodes to the readings of its frames. -/
theorem decode_readings (family : DriverFamily) (frames : List LuxFrame) {n : Nat} {r : RegisterDef}
    (hr : family.Tells n r) :
    (r.reading n frames = none → (family.decode (received frames).input).get? r.name = none) ∧
      ∀ q, r.reading n frames = some q →
        ∃ info, (family.decode (received frames).input).get? r.name = some info ∧ info.IsReading q r.unit := by
  have hentry : (decodeRegisters family.inputRegisters (received frames).input).get? r.name =
      r.entry n (received frames).input := by
    rcases hr with hr | ⟨rfl, rfl⟩
    · exact get?_decodeRegisters ((inputRegisters_distinct family).alone hr) hr _
    · refine (get?_soh (inputRegisters_distinct family) _).trans ?_
      unfold RegisterDef.entry
      cases (received frames).input.get? 5 <;> rfl
  have hclamped : ∀ low highWord, ((r.info low highWord).clamped r.name).IsReading (limited r.name (r.decode low highWord))
      r.unit := fun low highWord => clamped_limited r.name rfl
  unfold DriverFamily.decode RegisterDef.reading
  rw [get?_clampValues, hentry]
  unfold RegisterDef.entry
  rw [received_lastWord]
  cases lastWord frames n with
  | none => exact ⟨fun _ => rfl, fun q hq => by cases hq⟩
  | some low =>
    cases r.pairHigh with
    | none =>
      refine ⟨fun h => (by cases h), fun q hq => ⟨_, rfl, ?_⟩⟩
      obtain rfl := Option.some.inj hq
      exact hclamped low 0
    | some high =>
      simp only [Option.bind_some, received_lastWord]
      cases lastWord frames high with
      | none => exact ⟨fun _ => rfl, fun q hq => by cases hq⟩
      | some highWord =>
        refine ⟨fun h => (by cases h), fun q hq => ⟨_, rfl, ?_⟩⟩
        obtain rfl := Option.some.inj hq
        exact hclamped low highWord

/-- No other name is decoded. -/
theorem decode_others {family : DriverFamily} {name : String} (h : ∀ n r, family.Tells n r → r.name ≠ name)
    (raw : Dict Nat Nat) : (family.decode raw).get? name = none := by
  refine lookup_of_not_mem fun hmem => ?_
  rcases mem_decodeRegisters ((clampValues_keys _ name).mp hmem) with ⟨x, -, r, hr, hname⟩ | rfl
  · exact h x.1 r (Or.inl hr) hname
  · exact h 5 SOH_REGISTER (Or.inr ⟨rfl, rfl⟩) rfl

/-! ## From the rows to what is shown -/

/-- The SELECT asks for the rows of this name. -/
def AsksFor (names : Option (List String)) (name : String) : Prop := ∀ asked ∈ names, name ∈ asked

theorem wanted_iff {names : Option (List String)} {row : RegisterRow} : wanted names row = true ↔ AsksFor names row.name := by
  unfold wanted AsksFor
  cases names <;> simp

/-- The rows of a name that is not derived, in whatever order they are fetched. -/
theorem get?_rowRegisters {decoded : Decoded} {rows fetched : List RegisterRow} {names : Option (List String)}
    (hrows : snapshotRows decoded = .ok rows) (hperm : fetched.Perm (rows.filter (wanted names))) {name : String}
    (hname : name ∉ storedComputed) (hasked : AsksFor names name) :
    (decoded.get? name = none → (rowRegisters fetched).get? name = none) ∧
      ∀ info, decoded.get? name = some info → ∃ x, info.value.toFloat = .ok x ∧
        (rowRegisters fetched).get? name = some { value := .float x, unit := info.unit } := by
  obtain ⟨decodedRows, hdecoded, hrows⟩ := bind_eq_ok.mp hrows
  obtain ⟨computed, -, hrows⟩ := bind_eq_ok.mp hrows
  cases hrows
  -- a row of the name is that of its decoded entry
  have hrow : ∀ row ∈ fetched, row.name = name → ∃ info, decoded.get? name = some info ∧
      info.value.toFloat = .ok row.value ∧ row.unit = info.unit := by
    rintro row hrow rfl
    rcases List.mem_append.mp (List.mem_filter.mp (hperm.mem_iff.mp hrow)).1 with hrow | hrow
    · obtain ⟨e, he, hrow⟩ := mapM_mem hdecoded hrow
      obtain ⟨x, hx, hrow⟩ := bind_eq_ok.mp hrow
      cases hrow
      exact ⟨e.2, Dict.mem_entries.mp he, hx, rfl⟩
    · obtain ⟨key, hkey, hrow⟩ := List.mem_filterMap.mp hrow
      obtain ⟨x, -, rfl⟩ := Option.map_eq_some_iff.mp hrow
      exact absurd hkey hname
  unfold rowRegisters
  rw [Dict.get?_ofList]
  refine ⟨fun hnone => lookup_of_not_mem fun hmem => ?_, fun info hinfo => ?_⟩
  · rw [List.map_reverse, List.mem_reverse, List.map_map] at hmem
    obtain ⟨row, hmem, hrowName⟩ := List.mem_map.mp hmem
    obtain ⟨info, hsome, -⟩ := hrow row hmem hrowName
    rw [hnone] at hsome
    cases hsome
  · have hkey : name ∈ decodedRows.map RegisterRow.name :=
      (registerRows_spec hdecoded).1 ▸ Dict.mem_keys_iff.mpr ⟨info, hinfo⟩
    obtain ⟨row, hmem, hrowName⟩ := List.mem_map.mp hkey
    have hfetched : row ∈ fetched := hperm.mem_iff.mpr
      (List.mem_filter.mpr ⟨List.mem_append_left _ hmem, wanted_iff.mpr (hrowName ▸ hasked)⟩)
    obtain ⟨info', hsome, hx, hunit⟩ := hrow row hfetched hrowName
    obtain rfl := Option.some.inj (hinfo.symm.trans hsome)
    refine ⟨row.value, hx, lookup_of_unique ?_ fun shown hshown => ?_⟩
    · rw [List.mem_reverse, ← hunit, ← hrowName]
      exact List.mem_map_of_mem hfetched
    · obtain ⟨row', hmem', hentry⟩ := List.mem_map.mp (List.mem_reverse.mp hshown)
      obtain ⟨hrowName', rfl⟩ := Prod.mk.inj hentry
      obtain ⟨info', hsome', hx', hunit'⟩ := hrow row' hmem' hrowName'
      obtain rfl := Option.some.inj (hinfo.symm.trans hsome')
      rw [Except.ok.inj (hx.symm.trans hx'), hunit']

/-- An entry as the API converts it; the values are floats. -/
theorem get?_apiConvertTemperatures (unit : Option String) (registers : Decoded) (name : String) :
    (apiConvertTemperatures unit registers).get? name =
      if unit.getD "celsius" = "fahrenheit" ∧ name ∈ TEMP_KEYS then (registers.get? name).map Info.fahrenheit
      else registers.get? name := by
  unfold apiConvertTemperatures
  by_cases hunit : unit.getD "celsius" = "fahrenheit"
  · rw [if_pos hunit, showFahrenheit_foldl (by decide)]
    simp only [hunit, true_and]
  · rw [if_neg hunit, if_neg fun h => hunit h.1]

/-! ## What a reader shows -/

/-- All rows of a decoded snapshot, shown: its readings. -/
theorem showsRows_reads {family : DriverFamily} {frames : List LuxFrame} {snap : LiveSnapshot}
    {rows fetched : List RegisterRow} (hrows : snapshotRows (family.decode (received frames).input) = .ok rows)
    (hperm : fetched.Perm (rows.filter (wanted none))) (h : snap.ShowsRows fetched) :
    ∃ fahrenheit, snap.Reads family frames fahrenheit := by
  have hasked : ∀ name, AsksFor none name := fun _ _ h => nomatch h
  obtain ⟨unit, hlabels⟩ := h
  refine ⟨decide (unit.getD "celsius" = "fahrenheit"), fun n r hr hn => ?_, fun name hothers hstored hname => ?_⟩
  · rw [addLabels_get? hlabels (tells_label hr), get?_apiConvertTemperatures]
    have hreading := decode_readings family frames hr
    have hrow := get?_rowRegisters hrows hperm (tells_derived hr hn) (hasked _)
    cases hread : r.reading n frames with
    | none =>
      rw [hrow.1 (hreading.1 hread)]
      exact ite_self _
    | some q =>
      obtain ⟨info, hinfo, hq, hunit⟩ := hreading.2 q hread
      obtain ⟨x, hx, hfetched⟩ := hrow.2 info hinfo
      obtain rfl := Except.ok.inj (hq.symm.trans hx)
      rw [hfetched, hunit]
      unfold RegisterDef.shown
      simp only [decide_eq_true_eq, Option.map_some]
      split <;> rfl
  · rw [addLabels_get? hlabels hname, get?_apiConvertTemperatures,
      (get?_rowRegisters hrows hperm hstored (hasked _)).1 (decode_others hothers _)]
    exact ite_self _

/-- Whatever other writers and readers do in between, a reader that shows the snapshot of a writer shows
nothing at all, or every register as it was last received. -/
theorem shown_readings {ι : Type} [DecidableEq ι] {parties : ι → Party} {t t' : Tables} {tr : List (ι × TableEvent)}
    {out : ι → Except PyErr (List LiveSnapshot)} (hrun : PoolRun Tables.step t (fun i => (parties i).run) tr t' out)
    {i : ι} {shown : List LiveSnapshot} (hout : out i = .ok shown) {snap : LiveSnapshot} (hsnap : snap ∈ shown)
    {j : ι} {intervalSec : ℚ} {family : DriverFamily} {frames : List LuxFrame} {raw : Dict Nat Nat}
    (hj : parties j = .writer intervalSec (family.decode (received frames).input) raw)
    (hheader : HeaderOf tr j snap.snapshotId) :
    snap.registers = .empty ∨ ∃ fahrenheit, snap.Reads family frames fahrenheit := by
  obtain ⟨hruns, hsteps⟩ := (poolRun_iff _ _ _ _ _ _).mp hrun
  obtain ⟨t₁, fetched, t₂, honly, hshows⟩ := (parties i).run_shown (hout ▸ hruns i) snap hsnap
  obtain ⟨tr₁, tr₂, rfl, -, -⟩ := exists_of_only_eq honly
  rw [List.map_append, List.map_cons] at hsteps
  obtain ⟨m, hm, m', ⟨hans, -⟩, -⟩ := steps_append.mp hsteps
  have hperm : fetched.Perm ((m.registersOf snap.snapshotId).filter (wanted none)) := hans fetched rfl
  rcases rows_before hrun hheader hj rfl hm with ⟨-, hnone⟩ | ⟨-, hrows⟩
  · rw [hnone, List.filter_nil, List.perm_nil] at hperm
    subst hperm
    exact Or.inl (ShowsRows.nil hshows)
  · exact Or.inr (showsRows_reads hrows hperm hshows)

/-! ## A write, and a request after it -/

/-- A battery at 51.2 V. -/
def batteryFrame : LuxFrame :=
  { protocol := 2, tcpFunction := tcpFuncTranslatedData, datalogSerial := "", raw := [],
    deviceFunction := modbusReadInput, register := 4, values := [512] }

def batteryReading : Decoded :=
  clampValues (.ofList [("battery_voltage", { value := .float (.fin (timesDouble (512 : ℤ) 0.1)), unit := "V" })])

theorem batteryFrame_decoded : DriverFamily.sna.decode (received [batteryFrame]).input = batteryReading := by
  have h4 : snaInputRegisters.get? 4 = some { name := "battery_voltage", unit := "V", scale := 0.1 } :=
    sna_base (by decide) rfl
  have hentries : (received [batteryFrame]).input.entries = [(4, 512)] := rfl
  refine congrArg clampValues ((decodeRegisters_simple (fun _ =>
    { name := "battery_voltage", unit := "V", scale := 0.1 }) ?_ rfl).trans (by rw [hentries]; rfl))
  rw [hentries]
  intro x hx
  obtain rfl := List.mem_singleton.mp hx
  exact ⟨h4, rfl⟩

def writeAndStatus : Bool → Party
  | false => .writer 5 batteryReading (.ofList [(4, 512)])
  | true => .status

/-- All is written before the request. -/
def writtenRun :=
  execPool (Tables.answer "2024-06-01 12:00:00" noSettings) (List.replicate 8 false ++ List.replicate 4 true)
    Tables.empty fun i => (writeAndStatus i).run

theorem writtenRun_readings : ∃ t' out snap,
    PoolRun Tables.step .empty (fun i => (writeAndStatus i).run) writtenRun.1 t' out ∧ out true = .ok [snap] ∧
      (snap.registers = .empty ∨ ∃ fahrenheit, snap.Reads .sna [batteryFrame] fahrenheit) := by
  have hwriter : (writtenRun.2.2 false).returns (fun _ => true) = true := by
    decide +kernel
  have hreader : (writtenRun.2.2 true).returns (fun shown => decide (shown.map (·.snapshotId) = [1])) = true := by
    decide +kernel
  have hheader : HeaderOf writtenRun.1 false 1 := by
    unfold HeaderOf
    decide +kernel
  obtain ⟨written, hwritten, -⟩ := Prog.returns_iff.mp hwriter
  obtain ⟨shown, hshown, hids⟩ := Prog.returns_iff.mp hreader
  obtain ⟨snap, rfl, hid⟩ := List.map_eq_singleton_iff.mp (of_decide_eq_true hids)
  have hrun : PoolRun Tables.step .empty (fun i => (writeAndStatus i).run) writtenRun.1 writtenRun.2.1
      fun i => if i then .ok [snap] else .ok written := by
    refine execPool_spec Tables.step _ (answer_step _ _) _ _ _ _ fun i => ?_
    cases i with
    | false => exact hwritten ▸ ⟨rfl, rfl⟩
    | true => exact hshown ▸ ⟨rfl, rfl⟩
  have hwriter : writeAndStatus false = .writer 5 (DriverFamily.sna.decode (received [batteryFrame]).input)
      (.ofList [(4, 512)]) := by
    rw [batteryFrame_decoded]
    rfl
  exact ⟨_, _, snap, hrun, rfl, shown_readings hrun (i := true) rfl List.mem_cons_self hwriter (hid ▸ hheader)⟩

end LuxMon
