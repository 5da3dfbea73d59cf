import LuxMon.Api.Readings
import LuxMon.Mqtt.Discovery
import LuxMon.Mqtt.Payload

/-!
# What Home Assistant shows

The registers that were received only grow, so a sensor that had a value when it was
announced has one in every later state; of the derived values only the net powers come
and go.  The unit of a config is that of the moment when it was announced.

    a config is published once, and no sensor of a state lacks one     (entities_announced)
    every state has a number for each sensor that was announced        (entities_answered)
-/

namespace LuxMon

open Python Signals

/-! ## The values of more and more frames -/

theorem lastWord_isSome {frames : List LuxFrame} {n : Nat} :
    (lastWord frames n).isSome = true ↔ ∃ f ∈ frames, (f.inputAt n).isSome = true := by
  unfold lastWord
  rw [List.isSome_findSome?, List.any_reverse, List.any_eq_true]

theorem lastWord_mono {frames frames' : List LuxFrame} (h : frames <+: frames') {n : Nat}
    (hword : (lastWord frames n).isSome = true) : (lastWord frames' n).isSome = true := by
  obtain ⟨f, hf, hat⟩ := lastWord_isSome.mp hword
  exact lastWord_isSome.mpr ⟨f, h.subset hf, hat⟩

theorem RegisterDef.reading_mono {frames frames' : List LuxFrame} (h : frames <+: frames') {r : RegisterDef} {n : Nat}
    (hreading : (r.reading n frames).isSome = true) : (r.reading n frames').isSome = true := by
  unfold RegisterDef.reading at hreading ⊢
  cases hlow : lastWord frames n with
  | none =>
    rw [hlow] at hreading
    cases hreading
  | some low =>
    obtain ⟨low', hlow'⟩ := Option.isSome_iff_exists.mp (lastWord_mono h (hlow ▸ rfl : (lastWord frames n).isSome = true))
    rw [hlow] at hreading
    rw [hlow']
    cases hpair : r.pairHigh with
    | none => rfl
    | some high =>
      rw [hpair, Option.bind_some, Option.isSome_map] at hreading
      rw [Option.bind_some, Option.isSome_map]
      exact lastWord_mono h hreading

section
variable (family : DriverFamily)

/-- What the writer decodes after these frames. -/
def decodedOf (frames : List LuxFrame) : Decoded := family.decode (received frames).input

theorem decodedOf_numeric (frames : List LuxFrame) : (decodedOf family frames).Numeric := fun _ _ =>
  decode_numeric family _

theorem mem_decodedOf {frames : List LuxFrame} {k : String} :
    k ∈ (decodedOf family frames).keys ↔ ∃ n r, family.Tells n r ∧ r.name = k ∧ (r.reading n frames).isSome = true := by
  constructor
  · intro hk
    obtain ⟨info, hinfo⟩ := Dict.mem_keys_iff.mp hk
    by_contra hnone
    have hothers : ∃ n r, family.Tells n r ∧ r.name = k := by
      by_contra hno
      rw [decodedOf, decode_others (fun n r hr hname => hno ⟨n, r, hr, hname⟩)] at hinfo
      cases hinfo
    obtain ⟨n, r, hr, rfl⟩ := hothers
    cases hreading : r.reading n frames with
    | none =>
      rw [decodedOf, (decode_readings family frames hr).1 hreading] at hinfo
      cases hinfo
    | some q => exact hnone ⟨n, r, hr, rfl, hreading ▸ rfl⟩
  · rintro ⟨n, r, hr, rfl, hreading⟩
    obtain ⟨q, hq⟩ := Option.isSome_iff_exists.mp hreading
    obtain ⟨info, hinfo, -⟩ := (decode_readings family frames hr).2 q hq
    exact Dict.mem_keys_iff.mpr ⟨info, hinfo⟩

theorem decodedOf_mono {frames frames' : List LuxFrame} (h : frames <+: frames') :
    ∀ k ∈ (decodedOf family frames).keys, k ∈ (decodedOf family frames').keys := by
  intro k hk
  obtain ⟨n, r, hr, hname, hreading⟩ := (mem_decodedOf family).mp hk
  exact (mem_decodedOf family).mpr ⟨n, r, hr, hname, RegisterDef.reading_mono h hreading⟩

/-- The state has a value for the name. -/
def Available (frames : List LuxFrame) (k : String) : Prop :=
  k ∈ (decodedOf family frames).keys ∨ Derives (decodedOf family frames) k

/-- The name is derived while a power flows. -/
def ComesAndGoes (k : String) : Prop := ∃ power power', (k, Need.flow power power') ∈ derivedNames

theorem available_mono {frames frames' : List LuxFrame} (h : frames <+: frames') {k : String} (hk : ¬ ComesAndGoes k)
    (havailable : Available family frames k) : Available family frames' k := by
  refine havailable.imp (decodedOf_mono family h k) ?_
  rintro ⟨⟨k, need⟩, he, rfl, hmet⟩
  refine ⟨(k, need), he, rfl, ?_⟩
  cases need with
  | nothing => trivial
  | one names =>
    obtain ⟨name, hname, hdecoded⟩ := hmet
    exact ⟨name, hname, decodedOf_mono family h name hdecoded⟩
  | flow power power' => exact absurd ⟨power, power', he⟩ hk

/-! ## The state after these frames -/

/-- Converted temperatures change nothing that is derived. -/
theorem derives_shown {decoded shown : Decoded} {temperatureUnit : String}
    (h : ∀ k, quantity shown k = (quantity decoded k).map (inUnit temperatureUnit k)) (k : String) :
    (k ∈ shown.keys ↔ k ∈ decoded.keys) ∧ (Derives shown k ↔ Derives decoded k) := by
  have hkeys : ∀ k, k ∈ shown.keys ↔ k ∈ decoded.keys := by
    intro k
    rw [← quantity_isSome, ← quantity_isSome, h k, Option.isSome_map]
  have hpowers : ∀ e ∈ derivedNames, ∀ power ∈ e.2.powers, power ∉ TEMP_KEYS ++ ["outside_temperature"] := by
    decide
  have hflows : ∀ power, power ∉ TEMP_KEYS ++ ["outside_temperature"] → (Flows shown power ↔ Flows decoded power) := by
    intro power hpower
    have hunit : inUnit temperatureUnit power = id := by
      funext q
      exact if_neg fun h => hpower h.2
    unfold Flows
    rw [h power, hunit, Option.map_id, id]
  refine ⟨hkeys k, exists_congr fun e => and_congr_right fun he => and_congr_right fun _ => ?_⟩
  cases hneed : e.2 with
  | nothing => exact Iff.rfl
  | one names => exact exists_congr fun name => and_congr_right fun _ => hkeys name
  | flow power power' =>
    have hpowers := hpowers e he
    rw [hneed] at hpowers
    exact or_congr (hflows power (hpowers power List.mem_cons_self))
      (hflows power' (hpowers power' (List.mem_cons_of_mem _ List.mem_cons_self)))

theorem quantity_reading (frames : List LuxFrame) {n : Nat} {r : RegisterDef} (hr : family.Tells n r) :
    quantity (decodedOf family frames) r.name = r.reading n frames := by
  obtain ⟨hnone, hsome⟩ := decode_readings family frames hr
  cases hreading : r.reading n frames with
  | none => rw [quantity, decodedOf, hnone hreading, Option.map_none]
  | some q =>
    obtain ⟨info, hinfo, hq, -⟩ := hsome q hreading
    rw [quantity, decodedOf, hinfo, Option.map_some, Info.number, hq]

/-- No register but 170 has the name of a derived value, of the label or of the outside temperature. -/
theorem tells_name {n : Nat} {r : RegisterDef} (hr : family.Tells n r) (hn : n ≠ 170) :
    r.name ∉ computedNames ∧ r.name ≠ "state_label" ∧ r.name ≠ "outside_temperature" := by
  have hnames : ((baseInputRegisters ++ kpvExtra).all fun e => e.2.name != "outside_temperature") = true := by
    decide +kernel
  refine ⟨fun h => ?_, fun h => tells_label hr (h ▸ by decide), fun h => ?_⟩
  · rcases hr with hr | ⟨-, rfl⟩
    · exact hn (derived_registers hr h)
    · exact absurd h (by decide)
  · rcases hr with hr | ⟨-, rfl⟩
    · have hname := List.all_eq_true.mp hnames _ (plainRegisters_mem hr (h ▸ by decide))
      simp [h] at hname
    · exact absurd h (by decide)

/-- What a state shows. -/
structure StateShows (frames : List LuxFrame) (temperatureUnit : String) (payload : Dict String Json) : Prop where
  finite : ∀ k value, k ≠ "state_label" → payload.get? k = some value → ∃ q, value = .float (.fin q)
  present : ∀ k, k ∉ ["state_label", "pv1_current", "pv2_current"] → (k ∈ payload.keys ↔ Available family frames k)
  registers : ∀ n r, family.Tells n r → n ≠ 170 → payload.get? r.name =
    (r.reading n frames).map fun q => (r.shown (temperatureUnit = "fahrenheit") q).value
  flows : ∀ k power power', (k, Need.flow power power') ∈ derivedNames → (k ∈ payload.keys ↔
    ∃ q, 0 < q ∧ (payload.get? power = some (.float (.fin q)) ∨ payload.get? power' = some (.float (.fin q))))

theorem not_decoded {k : String} (h : ComesAndGoes k) (frames : List LuxFrame) : k ∉ (decodedOf family frames).keys := by
  obtain ⟨power, power', he⟩ := h
  have hnames : ∀ e ∈ derivedNames, e.2.powers ≠ [] → e.1 ∈ computedNames ∧ e.1 ≠ "load_power" ∧ e.1 ≠ "soh" := by
    decide
  obtain ⟨hcomputed, hload, hsoh⟩ := hnames _ he (List.cons_ne_nil _ _)
  intro hk
  obtain ⟨n, r, hr | ⟨-, rfl⟩, rfl, -⟩ := (mem_decodedOf family).mp hk
  · obtain rfl := derived_registers hr hcomputed
    rw [register_170] at hr
    obtain rfl := Option.some.inj hr
    exact hload rfl
  · exact hsoh rfl

theorem flow_iff {decoded : Decoded} {payload : Dict String Json} (h : StateOf decoded payload) {k power power' : String}
    (he : (k, Need.flow power power') ∈ derivedNames) (hk : k ∉ decoded.keys) : k ∈ payload.keys ↔
      ∃ q, 0 < q ∧ (payload.get? power = some (.float (.fin q)) ∨ payload.get? power' = some (.float (.fin q))) := by
  have hplain : ∀ e ∈ derivedNames, e.1 ∉ ["state_label", "pv1_current", "pv2_current"] ∧
      ∀ power ∈ e.2.powers, power ≠ "state_label" ∧ power ∉ computedNames := by
    decide
  obtain ⟨hname, hpowers⟩ := hplain _ he
  have hflows : ∀ name ∈ [power, power'],
      (Flows decoded name ↔ ∃ q, 0 < q ∧ payload.get? name = some (.float (.fin q))) := by
    intro name hmem
    rw [h.decoded name (hpowers name hmem).1 (hpowers name hmem).2]
    refine exists_congr fun q => ⟨fun ⟨hq, hpos⟩ => ⟨hpos, by rw [hq]; rfl⟩, fun ⟨hpos, hq⟩ => ⟨?_, hpos⟩⟩
    obtain ⟨q', hq', heq⟩ := Option.map_eq_some_iff.mp hq
    cases heq
    exact hq'
  have hderives : Derives decoded k ↔ Flows decoded power ∨ Flows decoded power' := by
    have hnodup : (derivedNames.map Prod.fst).Nodup := by
      decide
    constructor
    · rintro ⟨e, he', hname', hmet⟩
      obtain rfl := List.inj_on_of_nodup_map hnodup he he' hname'
      exact hmet
    · exact fun hmet => ⟨_, he, rfl, hmet⟩
  rw [h.present k hname, hderives, hflows power List.mem_cons_self,
    hflows power' (List.mem_cons_of_mem _ List.mem_cons_self), or_iff_right hk, ← exists_or]
  exact exists_congr fun q => and_or_left.symm

theorem state_shows (frames : List LuxFrame) (temperatureUnit : String) :
    ∃ shown payload, convertTemperatures temperatureUnit (decodedOf family frames) = .ok shown ∧
      mqttPayload shown = .ok payload ∧ StateShows family frames temperatureUnit payload := by
  obtain ⟨shown, hshown, hnumeric, hquantity⟩ :=
    convertTemperatures_numeric temperatureUnit (decodedOf_numeric family frames)
  obtain ⟨payload, hpayload, hstate⟩ := mqttPayload_state hnumeric
  refine ⟨shown, payload, hshown, hpayload, hstate.finite, fun k hk => ?_, fun n r hr hn => ?_, fun k power power' he =>
    flow_iff hstate he fun hk => not_decoded family ⟨power, power', he⟩ frames ((derives_shown hquantity k).1.mp hk)⟩
  · obtain ⟨hkeys, hderives⟩ := derives_shown hquantity k
    exact (hstate.present k hk).trans (or_congr hkeys hderives)
  · obtain ⟨hderived, hlabel, houtside⟩ := tells_name family hr hn
    rw [hstate.decoded r.name hlabel hderived, hquantity, quantity_reading family frames hr, Option.map_map]
    refine congrArg (Option.map · (r.reading n frames)) (funext fun q => ?_)
    unfold RegisterDef.shown inUnit
    by_cases hunit : temperatureUnit = "fahrenheit" ∧ r.name ∈ TEMP_KEYS
    · simp only [Function.comp_apply]
      rw [if_pos ⟨hunit.1, List.mem_append_left _ hunit.2⟩, if_pos ⟨decide_eq_true hunit.1, hunit.2⟩]
      rfl
    · have hnot : ¬ (temperatureUnit = "fahrenheit" ∧ r.name ∈ TEMP_KEYS ++ ["outside_temperature"]) := by
        rintro ⟨h, hmem⟩
        exact (List.mem_append.mp hmem).elim (fun hmem => hunit ⟨h, hmem⟩) fun hmem =>
          houtside (List.mem_singleton.mp hmem)
      simp only [Function.comp_apply]
      rw [if_neg hnot, if_neg fun h => hunit ⟨of_decide_eq_true h.1, h.2⟩]

/-! ## Steps -/

variable (order : List (String × SettingType))

/-- The collector has received these frames, and what it is about to announce is from some of them. -/
structure Follows (frames : List LuxFrame) (m : MqttCollector) : Prop where
  latest : m.latest = received frames
  announcing : ∀ shown, m.announcing = some shown → ∃ frames' temperatureUnit, frames' <+: frames ∧
    convertTemperatures temperatureUnit (decodedOf family frames') = .ok shown

/-- What a write publishes first, if it writes. -/
theorem publish_spec {frames : List LuxFrame} {m : MqttCollector} (h : Follows family frames m) (settings : Option Settings) :
    (4 ∉ m.latest.input.keys ∨ m.outputs.client = false) ∧ m.publish family order settings = (m, []) ∨
      ∃ shown payload, convertTemperatures m.outputs.cfg.temperatureUnit (decodedOf family frames) = .ok shown ∧
        StateShows family frames m.outputs.cfg.temperatureUnit payload ∧
        m.publish family order settings = ({ m with announcing := some shown },
          .state (stateTopic m.outputs.cfg) payload :: publishSettingsState order m.outputs.cfg settings) := by
  by_cases hskip : 4 ∉ m.latest.input.keys ∨ m.outputs.client = false
  · exact Or.inl ⟨hskip, if_pos hskip⟩
  · obtain ⟨shown, payload, hshown, hpayload, hshows⟩ := state_shows family frames m.outputs.cfg.temperatureUnit
    refine Or.inr ⟨shown, payload, hshown, hshows, ?_⟩
    unfold MqttCollector.publish
    have hlatest : family.decode m.latest.input = decodedOf family frames := by
      rw [h.latest]
      rfl
    rw [if_neg hskip, hlatest, hshown, ok_bind, hpayload]
    rfl

theorem step_publish (m : MqttCollector) (settings : Option Settings) :
    mqttStep family order m (.publish settings) = m.publish family order settings := rfl

theorem publish_outputs (m : MqttCollector) (settings : Option Settings) :
    (m.publish family order settings).1.outputs = m.outputs := by
  unfold MqttCollector.publish
  split
  · rfl
  · dsimp only
    split <;> rfl

/-- After an announcement nothing is left to announce. -/
theorem announce_keeps (m : MqttCollector) :
    (m.announce order).1.latest = m.latest ∧ (m.announce order).1.announcing = none := by
  unfold MqttCollector.announce
  cases hshown : m.announcing with
  | none => exact ⟨rfl, hshown⟩
  | some shown =>
    dsimp only
    cases buildComputed shown with
    | error e => exact ⟨rfl, rfl⟩
    | ok computed =>
      dsimp only
      split <;> exact ⟨rfl, rfl⟩

theorem Follows.frame {frames : List LuxFrame} {m : MqttCollector} (h : Follows family frames m) (f : LuxFrame) :
    Follows family (frames ++ [f]) { m with latest := handleFrame m.latest f } where
  latest := by
    unfold received
    rw [List.foldl_append, h.latest]
    rfl
  announcing shown hshown := by
    obtain ⟨frames', temperatureUnit, hprefix, hconvert⟩ := h.announcing shown hshown
    exact ⟨frames', temperatureUnit, hprefix.trans (List.prefix_append _ _), hconvert⟩

theorem Follows.publish {frames : List LuxFrame} {m : MqttCollector} (h : Follows family frames m)
    (settings : Option Settings) : Follows family frames (m.publish family order settings).1 := by
  rcases publish_spec family order h settings with ⟨-, hskip⟩ | ⟨shown, payload, hshown, -, hpublish⟩
  · rw [hskip]
    exact h
  · rw [hpublish]
    refine ⟨h.latest, fun shown' hshown' => ?_⟩
    obtain rfl := Option.some.inj hshown'
    exact ⟨frames, _, List.prefix_rfl, hshown⟩

theorem Follows.announce {frames : List LuxFrame} {m : MqttCollector} (h : Follows family frames m) :
    Follows family frames (m.announce order).1 := by
  obtain ⟨hlatest, hnone⟩ := announce_keeps order m
  refine ⟨hlatest.trans h.latest, fun shown hshown => ?_⟩
  rw [hnone] at hshown
  cases hshown

theorem framesOf_concat (turns : List MqttTurn) (t : MqttTurn) : framesOf (turns ++ [t]) = framesOf turns ++ t.frames := by
  unfold framesOf
  rw [List.flatMap_append, List.flatMap_singleton]

/-- By induction on the turns, the last one first. -/
theorem follows_run (cfg : MqttConfig) (client : Bool) (turns : List MqttTurn) :
    Follows family (framesOf turns) (Machine.after (mqttStep family order) (.start cfg client) turns) := by
  induction turns using List.reverseRecOn with
  | nil => exact ⟨rfl, fun shown hshown => by cases hshown⟩
  | append_singleton turns t ih =>
    rw [framesOf_concat, Machine.after_append]
    have hquiet := List.append_nil (framesOf turns)
    cases t with
    | frame f => exact ih.frame family f
    | setUnit unit => exact hquiet.symm ▸ ⟨ih.latest, ih.announcing⟩
    | rebuild cfg client => exact hquiet.symm ▸ ⟨ih.latest, fun shown hshown => by cases hshown⟩
    | publish settings => exact hquiet.symm ▸ ih.publish family order settings
    | announce => exact hquiet.symm ▸ ih.announce family order

theorem settingsState_ids (cfg : MqttConfig) (settings : Option Settings) :
    (publishSettingsState order cfg settings).filterMap Publication.uniqueId = [] := by
  refine List.filterMap_eq_nil_iff.mpr fun p hp => ?_
  unfold publishSettingsState at hp
  cases settings with
  | none => cases hp
  | some settings =>
    obtain ⟨e, -, hp⟩ := List.mem_filterMap.mp hp
    obtain ⟨value, -, rfl⟩ := Option.map_eq_some_iff.mp hp
    rfl

theorem settingsState_setting (cfg : MqttConfig) (settings : Option Settings) (topic : String) (payload : Dict String Json) :
    .state topic payload ∉ publishSettingsState order cfg settings := by
  intro hp
  unfold publishSettingsState at hp
  cases settings with
  | none => cases hp
  | some settings =>
    obtain ⟨e, -, hp⟩ := List.mem_filterMap.mp hp
    obtain ⟨value, -, h⟩ := Option.map_eq_some_iff.mp hp
    cases h

theorem offered_id {cfg : MqttConfig} {decoded : Decoded} {computed : Dict String PyFloat} {d : Discovery}
    (hd : d ∈ offered cfg order decoded computed) : d.publication.uniqueId = some d.uniq := by
  rcases List.mem_append.mp hd with hd | hd
  · obtain ⟨s, -, rfl⟩ := List.mem_map.mp hd
    rfl
  · obtain ⟨e, -, rfl⟩ := List.mem_map.mp hd
    rfl

/-- The keys of the sensors. -/
def sensorKeys : List String := (sensorTable "celsius").map SensorInfo.key

theorem mem_sensorKeys {unit : String} {s : SensorInfo} (hs : s ∈ sensorTable unit) : s.key ∈ sensorKeys := by
  have hkeys : (sensorTable unit).map SensorInfo.key = sensorKeys := rfl
  exact hkeys ▸ List.mem_map_of_mem hs

theorem sensorKeys_plain : ∀ k ∈ sensorKeys, k ∉ ["state_label", "pv1_current", "pv2_current"] := by
  decide

theorem passed_ids {m : MqttCollector} {decoded : Decoded} {computed : Dict String PyFloat} :
    ((passNew Discovery.uniq m.outputs.announced (offered m.outputs.cfg order decoded computed)).2.map
      Discovery.publication).filterMap Publication.uniqueId =
        (passNew Discovery.uniq m.outputs.announced (offered m.outputs.cfg order decoded computed)).2.map Discovery.uniq := by
  rw [List.filterMap_map, ← List.filterMap_eq_map]
  exact List.filterMap_congr fun d hd => offered_id order (passNew_subset _ d hd)

/-- The sensors that are offered have a value. -/
theorem offered_available {frames : List LuxFrame} {temperatureUnit : String} {shown : Decoded}
    (hshown : convertTemperatures temperatureUnit (decodedOf family frames) = .ok shown) :
    ∃ computed, buildComputed shown = .ok computed ∧ ∀ unit, ∀ s ∈ sensorTable unit,
      (hasKey shown computed s.key = true ↔ Available family frames s.key) := by
  obtain ⟨shown', hshown', hnumeric, hquantity⟩ := convertTemperatures_numeric temperatureUnit (decodedOf_numeric family frames)
  obtain rfl := Except.ok.inj (hshown'.symm.trans hshown)
  obtain ⟨computed, hcomputed, -, hderives⟩ := mem_computed hnumeric
  refine ⟨computed, hcomputed, fun unit s hs => ?_⟩
  obtain ⟨hkeys, hderived⟩ := derives_shown hquantity s.key
  have hplain := sensorKeys_plain _ (mem_sensorKeys hs)
  simp only [List.mem_cons, List.not_mem_nil, or_false, not_or] at hplain
  unfold hasKey
  rw [Bool.or_eq_true, List.contains_iff_mem, List.contains_iff_mem, hkeys, hderives _ hplain.2.1 hplain.2.2, hderived]
  rfl

/-! ## Between two rebuilds -/

/-- Since the outputs were built, `pubs` was published, and only the temperature unit was set. -/
structure Since (built : MqttOutputs) (frames : List LuxFrame) (m : MqttCollector)
    (pubs : List Publication) : Prop extends Follows family frames m where
  client : m.outputs.client = built.client
  cfg : ∃ unit, m.outputs.cfg = { built.cfg with temperatureUnit := unit }
  ids : ∀ id, id ∈ m.outputs.announced ↔ id ∈ pubs.filterMap Publication.uniqueId
  once : (pubs.filterMap Publication.uniqueId).Nodup
  sensors : ∀ topic config, .sensor topic config ∈ pubs → ∃ unit, ∃ s ∈ sensorTable unit,
    config = sensorConfig { built.cfg with temperatureUnit := unit } s ∧ ∃ frames', frames' <+: frames ∧
      Available family frames' s.key
  numbers : ∀ topic config, .number topic config ∈ pubs → ∃ name, config.uniqueId = numberId built.cfg name

/-- An announcement publishes what is offered and new. -/
theorem announce_spec {frames : List LuxFrame} {m : MqttCollector} (h : Follows family frames m) :
    ((m.announce order).2 = [] ∧ (m.announce order).1.outputs = m.outputs) ∨
      ∃ shown computed frames' temperatureUnit, m.announcing = some shown ∧ frames' <+: frames ∧
        convertTemperatures temperatureUnit (decodedOf family frames') = .ok shown ∧ buildComputed shown = .ok computed ∧
        m.announce order =
          ({ m with outputs := { m.outputs with announced := (passNew Discovery.uniq m.outputs.announced
              (offered m.outputs.cfg order shown computed)).1 }, announcing := none },
            (passNew Discovery.uniq m.outputs.announced (offered m.outputs.cfg order shown computed)).2.map
              Discovery.publication) := by
  unfold MqttCollector.announce
  cases hshown : m.announcing with
  | none => exact Or.inl ⟨rfl, rfl⟩
  | some shown =>
    obtain ⟨frames', temperatureUnit, hprefix, hconvert⟩ := h.announcing shown hshown
    obtain ⟨computed, hcomputed, -⟩ := offered_available family hconvert
    dsimp only
    rw [hcomputed]
    dsimp only
    split
    · exact Or.inr ⟨shown, computed, frames', temperatureUnit, rfl, hprefix, hconvert, hcomputed, rfl⟩
    · exact Or.inl ⟨rfl, rfl⟩

/-- An announced sensor has a value in what was received, and its config is the one for the unit in force. -/
theorem announced_sensor {frames : List LuxFrame} {m : MqttCollector} (h : Follows family frames m) {topic : String}
    {config : SensorConfig} (hp : .sensor topic config ∈ (m.announce order).2) :
    ∃ s ∈ sensorTable m.outputs.cfg.temperatureUnit, config = sensorConfig m.outputs.cfg s ∧
      ∃ frames', frames' <+: frames ∧ Available family frames' s.key := by
  rcases announce_spec family order h with ⟨hout, -⟩ |
    ⟨shown, computed, frames', temperatureUnit, -, hprefix, hconvert, hcomputed, hannounce⟩
  · rw [hout] at hp
    cases hp
  · obtain ⟨computed', hcomputed', havailable⟩ := offered_available family hconvert
    obtain rfl := Except.ok.inj (hcomputed'.symm.trans hcomputed)
    rw [hannounce] at hp
    obtain ⟨d, hd, hpublication⟩ := List.mem_map.mp hp
    rcases List.mem_append.mp (passNew_subset _ d hd) with hd | hd
    · obtain ⟨s, hs, rfl⟩ := List.mem_map.mp hd
      obtain ⟨hs, hkey⟩ := List.mem_filter.mp hs
      cases hpublication
      exact ⟨s, hs, rfl, frames', hprefix, (havailable _ s hs).mp hkey⟩
    · obtain ⟨e, -, rfl⟩ := List.mem_map.mp hd
      cases hpublication

variable {built : MqttOutputs} {frames : List LuxFrame} {m : MqttCollector}
  {pubs : List Publication}

theorem Since.frame (h : Since family built frames m pubs) (f : LuxFrame) :
    Since family built (frames ++ [f]) { m with latest := handleFrame m.latest f } pubs where
  toFollows := h.toFollows.frame family f
  client := h.client
  cfg := h.cfg
  ids := h.ids
  once := h.once
  sensors topic config hp := by
    obtain ⟨unit, s, hs, hconfig, frames', hprefix, havailable⟩ := h.sensors topic config hp
    exact ⟨unit, s, hs, hconfig, frames', hprefix.trans (List.prefix_append _ _), havailable⟩
  numbers := h.numbers

theorem Since.setUnit (h : Since family built frames m pubs) (unit : String) :
    Since family built frames
      { m with outputs := { m.outputs with cfg := { m.outputs.cfg with temperatureUnit := unit } } } pubs where
  latest := h.latest
  announcing := h.announcing
  client := h.client
  cfg := by
    obtain ⟨_, hcfg⟩ := h.cfg
    exact ⟨unit, by rw [hcfg]⟩
  ids := h.ids
  once := h.once
  sensors := h.sensors
  numbers := h.numbers

theorem Since.publish (h : Since family built frames m pubs) (settings : Option Settings) :
    Since family built frames (m.publish family order settings).1 (pubs ++ (m.publish family order settings).2) := by
  rcases publish_spec family order h.toFollows settings with ⟨-, hskip⟩ | ⟨shown, payload, hshown, -, hpublish⟩
  · rw [hskip, List.append_nil]
    exact h
  · have hids : (pubs ++ .state (stateTopic m.outputs.cfg) payload ::
        publishSettingsState order m.outputs.cfg settings).filterMap Publication.uniqueId =
          pubs.filterMap Publication.uniqueId := by
      rw [List.filterMap_append, List.filterMap_cons_none rfl, settingsState_ids, List.append_nil]
    -- no config is among them
    have hold : ∀ p ∈ pubs ++ .state (stateTopic m.outputs.cfg) payload ::
        publishSettingsState order m.outputs.cfg settings, p.uniqueId ≠ none → p ∈ pubs := by
      intro p hp hid
      rcases List.mem_append.mp hp with hp | hp
      · exact hp
      · rcases List.mem_cons.mp hp with rfl | hp
        · exact absurd rfl hid
        · exact absurd (List.filterMap_eq_nil_iff.mp (settingsState_ids order m.outputs.cfg settings) _ hp) hid
    have hfollows := h.toFollows.publish family order settings
    rw [hpublish] at hfollows ⊢
    exact ⟨hfollows, h.client, h.cfg, hids ▸ h.ids, hids ▸ h.once,
      fun topic config hp => h.sensors topic config (hold _ hp (Option.some_ne_none _)),
      fun topic config hp => h.numbers topic config (hold _ hp (Option.some_ne_none _))⟩

theorem Since.announce (h : Since family built frames m pubs) :
    Since family built frames (m.announce order).1 (pubs ++ (m.announce order).2) := by
  have hfollows := h.toFollows.announce family order
  have hsensor := fun topic config => @announced_sensor family order _ _ h.toFollows topic config
  rcases announce_spec family order h.toFollows with ⟨hout, hsame⟩ |
    ⟨shown, computed, frames', temperatureUnit, -, -, -, -, hannounce⟩
  · rw [hout, List.append_nil]
    exact ⟨hfollows, hsame ▸ h.client, hsame ▸ h.cfg, hsame ▸ h.ids, h.once, h.sensors, h.numbers⟩
  · have hids := @passed_ids order m shown computed
    obtain ⟨unit, hcfg⟩ := h.cfg
    rw [hannounce] at hfollows hsensor ⊢
    refine ⟨hfollows, h.client, h.cfg, fun id => ?_, ?_, fun topic config hp => ?_, fun topic config hp => ?_⟩
    · rw [List.filterMap_append, hids, List.mem_append, ← h.ids]
      exact mem_seen Discovery.uniq
    · rw [List.filterMap_append, hids]
      refine List.nodup_append.mpr ⟨h.once, passNew_nodup _ _ _, ?_⟩
      rintro id hold _ hnew rfl
      exact ((mem_passed Discovery.uniq).mp hnew).1 ((h.ids id).mpr hold)
    · rcases List.mem_append.mp hp with hp | hp
      · exact h.sensors topic config hp
      · obtain ⟨s, hs, rfl, havailable⟩ := hsensor topic config hp
        rw [hcfg] at hs ⊢
        exact ⟨unit, s, hs, rfl, havailable⟩
    · rcases List.mem_append.mp hp with hp | hp
      · exact h.numbers topic config hp
      · obtain ⟨d, hd, hpublication⟩ := List.mem_map.mp hp
        rcases List.mem_append.mp (passNew_subset _ d hd) with hd | hd
        · obtain ⟨s, -, rfl⟩ := List.mem_map.mp hd
          cases hpublication
        · obtain ⟨e, -, rfl⟩ := List.mem_map.mp hd
          cases hpublication
          exact ⟨e.1, by rw [hcfg]; rfl⟩

theorem publications_concat (m₀ : MqttCollector) (turns : List MqttTurn) (t : MqttTurn) :
    publications family order m₀ (turns ++ [t]) = publications family order m₀ turns ++
      (mqttStep family order (Machine.after (mqttStep family order) m₀ turns) t).2 := by
  unfold publications
  rw [Machine.outputs_append, List.flatten_append]
  exact congrArg _ (List.append_nil _)

/-- By induction on the turns, the last one first. -/
theorem since_run (m₀ : MqttCollector) {frames₀ : List LuxFrame} (hfollows : Follows family frames₀ m₀)
    (hnew : m₀.outputs.announced = []) {turns : List MqttTurn} (hturns : ∀ t ∈ turns, ¬ t.Rebuilds) :
    Since family m₀.outputs (frames₀ ++ framesOf turns) (Machine.after (mqttStep family order) m₀ turns)
      (publications family order m₀ turns) := by
  induction turns using List.reverseRecOn with
  | nil =>
    have hframes : frames₀ ++ framesOf [] = frames₀ := List.append_nil frames₀
    exact ⟨hframes.symm ▸ hfollows, rfl, ⟨_, rfl⟩, fun id => by simp [hnew, publications], List.nodup_nil,
      fun topic config hp => (by cases hp), fun topic config hp => by cases hp⟩
  | append_singleton turns t ih =>
    have h := ih fun u hu => hturns u (List.mem_append_left _ hu)
    have hrebuilds := hturns t (List.mem_append_right _ List.mem_cons_self)
    rw [publications_concat, Machine.after_append, framesOf_concat, ← List.append_assoc]
    have hquiet := List.append_nil (frames₀ ++ framesOf turns)
    cases t with
    | frame f => exact (List.append_nil (publications family order m₀ turns)).symm ▸ h.frame family f
    | setUnit unit =>
      exact (List.append_nil (publications family order m₀ turns)).symm ▸ hquiet.symm ▸
        h.setUnit family unit
    | rebuild cfg client => exact absurd trivial hrebuilds
    | publish settings => exact hquiet.symm ▸ h.publish family order settings
    | announce => exact hquiet.symm ▸ h.announce family order

theorem framesOf_append (turns turns' : List MqttTurn) : framesOf (turns ++ turns') = framesOf turns ++ framesOf turns' :=
  List.flatMap_append

/-! ## What is announced, and what is answered -/

/-- The outputs have just been built. -/
def JustBuilt (pre : List MqttTurn) : Prop := ∀ t ∈ pre.getLast?, t.Rebuilds

variable {cfg : MqttConfig} {client : Bool} {pre life : List MqttTurn} {m₀ : MqttCollector}

theorem justBuilt_announced (hbuilt : JustBuilt pre)
    (h₀ : Machine.after (mqttStep family order) (.start cfg client) pre = m₀) : m₀.outputs.announced = [] := by
  subst h₀
  induction pre using List.reverseRecOn with
  | nil => rfl
  | append_singleton pre t ih =>
    have ht : t.Rebuilds := hbuilt t (by rw [List.getLast?_concat]; rfl)
    rw [Machine.after_append]
    cases t with
    | rebuild cfg client => rfl
    | _ => exact absurd ht id

theorem since_life (hbuilt : JustBuilt pre) (hlife : ∀ t ∈ life, ¬ t.Rebuilds)
    (h₀ : Machine.after (mqttStep family order) (.start cfg client) pre = m₀)
    (h : Machine.after (mqttStep family order) m₀ life = m) :
    Since family m₀.outputs (framesOf (pre ++ life)) m (publications family order m₀ life) := by
  subst h
  rw [framesOf_append]
  exact since_run family order m₀ (h₀ ▸ follows_run family order cfg client pre) (justBuilt_announced family order hbuilt h₀)
    hlife

/-- What is published is published by a turn. -/
theorem mem_publications {turns : List MqttTurn} {p : Publication} (hp : p ∈ publications family order m₀ turns) :
    ∃ before t after, turns = before ++ t :: after ∧
      p ∈ (mqttStep family order (Machine.after (mqttStep family order) m₀ before) t).2 := by
  induction turns using List.reverseRecOn with
  | nil => cases hp
  | append_singleton turns t ih =>
    rw [publications_concat] at hp
    rcases List.mem_append.mp hp with hp | hp
    · obtain ⟨before, t', after, rfl, ht⟩ := ih hp
      exact ⟨before, t', after ++ [t], by simp, ht⟩
    · exact ⟨turns, t, [], rfl, hp⟩

/-- Only an announcement publishes the config of a sensor: the one for its own unit. -/
theorem announced_config (hbuilt : JustBuilt pre) (hlife : ∀ t ∈ life, ¬ t.Rebuilds)
    (h₀ : Machine.after (mqttStep family order) (.start cfg client) pre = m₀) {topic : String} {config : SensorConfig}
    (hp : .sensor topic config ∈ publications family order m₀ life) : ∃ before after built, life = before ++ .announce :: after ∧
      (Machine.after (mqttStep family order) m₀ before).outputs.cfg = built ∧
      ∃ s ∈ sensorTable built.temperatureUnit, config = sensorConfig built s ∧ ∃ frames', frames' <+: framesOf (pre ++ before) ∧
        Available family frames' s.key := by
  obtain ⟨before, t, after, rfl, ht⟩ := mem_publications family order hp
  have hsince := since_life family order hbuilt (fun u hu => hlife u (List.mem_append_left _ hu)) h₀ rfl
  generalize hm : Machine.after (mqttStep family order) m₀ before = m at ht hsince
  cases t with
  | frame f => cases ht
  | setUnit unit => cases ht
  | rebuild cfg client => cases ht
  | publish settings =>
    rcases publish_spec family order hsince.toFollows settings with ⟨-, hskip⟩ | ⟨shown, payload, -, -, hpublish⟩
    · rw [mqttStep, hskip] at ht
      cases ht
    · rw [mqttStep, hpublish] at ht
      rcases List.mem_cons.mp ht with ht | ht
      · cases ht
      · exact absurd (List.filterMap_eq_nil_iff.mp (settingsState_ids order m.outputs.cfg settings) _ ht)
          (Option.some_ne_none _)
  | announce =>
    obtain ⟨s, hs, hconfig, havailable⟩ := announced_sensor family order hsince.toFollows ht
    exact ⟨before, after, m.outputs.cfg, rfl, by rw [hm], s, hs, hconfig, havailable⟩

/-- Whatever was received and set: a state shows what the registers read, the net powers while
a power flows, and a number for every other sensor that was announced since the outputs were built,
each with the config for the unit at its announcement. -/
theorem entities_answered (hbuilt : JustBuilt pre) (hlife : ∀ t ∈ life, ¬ t.Rebuilds)
    (h₀ : Machine.after (mqttStep family order) (.start cfg client) pre = m₀)
    (h : Machine.after (mqttStep family order) m₀ life = m) (hclient : m₀.outputs.client = true)
    (hreceived : (lastWord (framesOf (pre ++ life)) 4).isSome = true) (settings : Option Settings) :
    ∃ payload, (mqttStep family order m (.publish settings)).2 =
        .state (stateTopic m.outputs.cfg) payload :: publishSettingsState order m.outputs.cfg settings ∧
      StateShows family (framesOf (pre ++ life)) m.outputs.cfg.temperatureUnit payload ∧
      ∀ topic config, .sensor topic config ∈ publications family order m₀ life →
        ∃ before after announcing, life = before ++ .announce :: after ∧
          (Machine.after (mqttStep family order) m₀ before).outputs.cfg = announcing ∧
          m.outputs.cfg = { announcing with temperatureUnit := m.outputs.cfg.temperatureUnit } ∧
          ∃ s ∈ sensorTable announcing.temperatureUnit, config = sensorConfig announcing s ∧
            (¬ ComesAndGoes s.key → ∃ q, payload.get? s.key = some (.float (.fin q))) := by
  have hsince := since_life family order hbuilt hlife h₀ h
  rcases publish_spec family order hsince.toFollows settings with ⟨hskip, -⟩ | ⟨shown, payload, -, hshows, hpublish⟩
  · have h4 : 4 ∈ m.latest.input.keys := by
      rw [hsince.latest, Dict.mem_keys_iff, ← Option.isSome_iff_exists, received_lastWord]
      exact hreceived
    rcases hskip with hskip | hskip
    · exact absurd h4 hskip
    · rw [hsince.client, hclient] at hskip
      cases hskip
  · refine ⟨payload, congrArg Prod.snd hpublish, hshows, fun topic config hp => ?_⟩
    obtain ⟨before, after, _, rfl, rfl, s, hs, rfl, frames', hprefix, havailable⟩ :=
      announced_config family order hbuilt hlife h₀ hp
    obtain ⟨_, hcfg⟩ := hsince.cfg
    obtain ⟨_, hthen⟩ := (since_life family order hbuilt (fun t ht => hlife t (List.mem_append_left _ ht)) h₀ rfl).cfg
    refine ⟨before, after, _, rfl, rfl, by rw [hcfg, hthen], s, hs, rfl, fun hstays => ?_⟩
    have hgrown : frames' <+: framesOf (pre ++ (before ++ .announce :: after)) := by
      rw [← List.append_assoc, framesOf_append]
      exact hprefix.trans (List.prefix_append _ _)
    have hplain := sensorKeys_plain _ (mem_sensorKeys hs)
    obtain ⟨value, hvalue⟩ := Dict.mem_keys_iff.mp
      ((hshows.present s.key hplain).mpr (available_mono family hgrown hstays havailable))
    obtain ⟨q, rfl⟩ := hshows.finite s.key value (fun h => hplain (h ▸ List.mem_cons_self)) hvalue
    exact ⟨q, hvalue⟩

/-- The thread of the writer is elsewhere. -/
def MqttTurn.Beside : MqttTurn → Prop
  | .frame _ | .setUnit _ => True
  | _ => False

theorem sensorId_inj {cfg : MqttConfig} {k k' : String} (h : sensorId cfg k = sensorId cfg k') : k = k' := by
  have hlist := congrArg String.toList h
  simp only [sensorId, String.toList_append, List.append_cancel_left_eq] at hlist
  exact String.toList_inj.mp hlist

/-- No sensor has the `uniq` of a number. -/
theorem sensorId_ne_numberId {cfg : MqttConfig} {k name : String} (hk : k ∈ sensorKeys) : sensorId cfg k ≠ numberId cfg name := by
  have hset : ∀ k ∈ sensorKeys, k.toList.take 4 ≠ "set_".toList := by
    decide
  intro h
  have hlist := congrArg String.toList h
  simp only [sensorId, numberId, String.toList_append, List.append_assoc, List.append_cancel_left_eq] at hlist
  have hkey : k.toList = "set_".toList ++ name.toList := (List.cons.inj hlist).2
  exact hset k hk (by rw [hkey, List.take_left' (by decide)])

theorem beside_keeps {m : MqttCollector} {between : List MqttTurn} (h : ∀ t ∈ between, t.Beside) :
    (Machine.after (mqttStep family order) m between).announcing = m.announcing := by
  induction between generalizing m with
  | nil => rfl
  | cons t between ih =>
    have ht := h t List.mem_cons_self
    rw [Machine.after_cons, ih fun u hu => h u (List.mem_cons_of_mem t hu)]
    cases t with
    | frame f => rfl
    | setUnit unit => rfl
    | _ => exact absurd ht id

/-- A state that is published is that of the snapshot to be announced. -/
theorem published_state {frames : List LuxFrame} {m : MqttCollector} (h : Follows family frames m)
    {settings : Option Settings} {topic : String} {payload : Dict String Json}
    (hstate : .state topic payload ∈ (m.publish family order settings).2) : topic = stateTopic m.outputs.cfg ∧
      ∃ shown, convertTemperatures m.outputs.cfg.temperatureUnit (decodedOf family frames) = .ok shown ∧
        StateShows family frames m.outputs.cfg.temperatureUnit payload ∧
        (m.publish family order settings).1 = { m with announcing := some shown } := by
  rcases publish_spec family order h settings with ⟨-, hskip⟩ | ⟨shown, payload', hshown, hshows, hpublish⟩
  · rw [hskip] at hstate
    cases hstate
  · rw [hpublish] at hstate ⊢
    rcases List.mem_cons.mp hstate with hstate | hstate
    · cases hstate
      exact ⟨rfl, shown, hshown, hshows, rfl⟩
    · exact absurd hstate (settingsState_setting order _ settings _ _)

/-- After an announcement every sensor with a value is announced. -/
theorem announced_available {frames : List LuxFrame} {m : MqttCollector} {shown : Decoded} {temperatureUnit : String}
    (hannouncing : m.announcing = some shown)
    (hshown : convertTemperatures temperatureUnit (decodedOf family frames) = .ok shown)
    (hdiscovery : m.outputs.cfg.mqttHaDiscovery = true) {k : String} (hk : k ∈ sensorKeys)
    (havailable : Available family frames k) : sensorId m.outputs.cfg k ∈ (m.announce order).1.outputs.announced := by
  obtain ⟨computed, hcomputed, hoffered⟩ := offered_available family hshown
  obtain ⟨s, hs, rfl⟩ := List.mem_map.mp (show k ∈ (sensorTable m.outputs.cfg.temperatureUnit).map SensorInfo.key from hk)
  have hmem : sensorId m.outputs.cfg s.key ∈ (offered m.outputs.cfg order shown computed).map Discovery.uniq := by
    refine List.mem_map.mpr ⟨sensorDiscovery m.outputs.cfg s, List.mem_append_left _ (List.mem_map_of_mem ?_), rfl⟩
    exact List.mem_filter.mpr ⟨hs, (hoffered _ s hs).mpr havailable⟩
  have hannounce : (m.announce order).1.outputs.announced =
      (passNew Discovery.uniq m.outputs.announced (offered m.outputs.cfg order shown computed)).1 := by
    unfold MqttCollector.announce
    rw [hannouncing]
    dsimp only
    rw [hcomputed]
    dsimp only
    rw [if_pos hdiscovery]
  rw [hannounce, mem_seen, mem_passed]
  by_cases hold : sensorId m.outputs.cfg s.key ∈ m.outputs.announced
  · exact Or.inl hold
  · exact Or.inr ⟨hold, hmem⟩

/-- A config is published once since the outputs were built, and after an announcement every
sensor that the state before it shows has one. -/
theorem entities_announced (hbuilt : JustBuilt pre) (hlife : ∀ t ∈ life, ¬ t.Rebuilds)
    (h₀ : Machine.after (mqttStep family order) (.start cfg client) pre = m₀) :
    ((publications family order m₀ life).filterMap Publication.uniqueId).Nodup ∧
      ∀ before between after settings, life = before ++ .publish settings :: between ++ .announce :: after →
        (∀ t ∈ between, t.Beside) → m₀.outputs.cfg.mqttHaDiscovery = true → ∀ topic payload,
          .state topic payload ∈ (mqttStep family order (Machine.after (mqttStep family order) m₀ before)
            (.publish settings)).2 →
          ∀ k ∈ sensorKeys, k ∈ payload.keys → ∃ topic' config,
            .sensor topic' config ∈ publications family order m₀ (before ++ .publish settings :: between ++ [.announce]) ∧
              config.uniqueId = sensorId m₀.outputs.cfg k ∧ config.stateTopic = topic ∧
                config.valueTemplate = valueTemplate k := by
  refine ⟨(since_life family order hbuilt hlife h₀ rfl).once, ?_⟩
  rintro before between after settings rfl hbeside hdiscovery topic payload hstate k hk hpresent
  have hquiet : ∀ turns, turns <+: before ++ .publish settings :: between ++ [.announce] → ∀ t ∈ turns, ¬ t.Rebuilds := by
    intro turns hprefix t ht
    refine hlife t ?_
    have hmem := hprefix.subset ht
    simp only [List.mem_append, List.mem_cons] at hmem ⊢
    tauto
  have hsince := since_life family order hbuilt (hquiet before (by simp)) h₀ rfl
  have hlast := since_life family order hbuilt (hquiet _ List.prefix_rfl) h₀ rfl
  have hmid := since_life family order hbuilt (hquiet (before ++ .publish settings :: between) (List.prefix_append _ _)) h₀ rfl
  -- the sensor has a value in the state, so it is offered
  obtain ⟨rfl, shown, hshown, hshows, hpublished⟩ := published_state family order hsince.toFollows hstate
  have havailable := (hshows.present k (sensorKeys_plain k hk)).mp hpresent
  have hannouncing : (Machine.after (mqttStep family order) m₀ (before ++ .publish settings :: between)).announcing = some shown := by
    rw [Machine.after_append, Machine.after_cons, beside_keeps family order hbeside]
    exact congrArg MqttCollector.announcing hpublished
  obtain ⟨unit, hcfg⟩ := hmid.cfg
  have hid := announced_available family order hannouncing hshown (by rw [hcfg]; exact hdiscovery) hk havailable
  -- its id is that of a config, which is none of a number
  rw [hcfg] at hid
  have hlastIds := (hlast.ids (sensorId m₀.outputs.cfg k)).mp (by rw [Machine.after_append]; exact hid)
  obtain ⟨p, hp, hpid⟩ := List.mem_filterMap.mp hlastIds
  cases p with
  | state topic payload => cases hpid
  | setting topic text => cases hpid
  | number topic config =>
    obtain ⟨name, hname⟩ := hlast.numbers topic config hp
    exact absurd ((Option.some.inj hpid).symm.trans hname) (sensorId_ne_numberId hk)
  | sensor topic config =>
    obtain ⟨unit', s, -, rfl, -⟩ := hlast.sensors topic config hp
    obtain rfl : s.key = k := sensorId_inj
      (show sensorId m₀.outputs.cfg s.key = sensorId m₀.outputs.cfg k from Option.some.inj hpid)
    obtain ⟨unit₁, hcfg₁⟩ := hsince.cfg
    exact ⟨topic, _, hp, rfl, by rw [hcfg₁]; rfl, rfl⟩

end

/-! ## The battery voltage -/

/-- A battery at 51.2 V is read, published and announced. -/
def voltageRun : List MqttTurn := [.frame batteryFrame, .publish none, .announce]

def voltageStart : MqttCollector := .start {} true

theorem voltage_tells : DriverFamily.sna.Tells 4 { name := "battery_voltage", unit := "V", scale := 0.1 } :=
  Or.inl (sna_base (by decide) rfl)

theorem voltage_reading : RegisterDef.reading { name := "battery_voltage", unit := "V", scale := 0.1 } 4 [batteryFrame] =
    some (nearest 51.2) := by
  decide +kernel

theorem voltage_present {temperatureUnit : String} {payload : Dict String Json}
    (h : StateShows .sna [batteryFrame] temperatureUnit payload) :
    payload.get? "battery_voltage" = some (.float (.fin (nearest 51.2))) := by
  refine (h.registers 4 _ voltage_tells (by decide)).trans ?_
  rw [voltage_reading, Option.map_some, RegisterDef.shown, if_neg (fun h => absurd h.2 (by decide))]

theorem voltage_justBuilt : JustBuilt [] := fun t ht => by cases ht

theorem voltageRun_life : ∀ t ∈ voltageRun, ¬ t.Rebuilds := by
  simp [voltageRun, MqttTurn.Rebuilds]

/-- The next state has it, and a value for every sensor that is announced. -/
theorem voltage_answered : ∃ payload, (mqttStep .sna controllableSettings
      (Machine.after (mqttStep .sna controllableSettings) voltageStart voltageRun) (.publish none)).2 =
        [.state (stateTopic (Machine.after (mqttStep .sna controllableSettings) voltageStart voltageRun).outputs.cfg) payload] ∧
      payload.get? "battery_voltage" = some (.float (.fin (nearest 51.2))) ∧
      ∀ topic config, .sensor topic config ∈ publications .sna controllableSettings voltageStart voltageRun →
        ∃ s ∈ sensorTable "celsius", config = sensorConfig {} s ∧
          (¬ ComesAndGoes s.key → ∃ q, payload.get? s.key = some (.float (.fin q))) := by
  have h₀ : Machine.after (mqttStep .sna controllableSettings) (.start {} true) [] = voltageStart := rfl
  obtain ⟨payload, hout, hshows, hsensors⟩ := entities_answered .sna controllableSettings voltage_justBuilt voltageRun_life h₀
    rfl rfl (by decide +kernel) none
  refine ⟨payload, hout, voltage_present hshows, fun topic config hp => ?_⟩
  obtain ⟨before, after, announcing, hsplit, hcfg, -, s, hs, hconfig, hanswered⟩ := hsensors topic config hp
  obtain rfl : before = [.frame batteryFrame, .publish none] := by
    rcases before with _ | ⟨t₁, _ | ⟨t₂, _ | ⟨t₃, before⟩⟩⟩
    all_goals simp only [voltageRun, List.nil_append, List.cons_append, List.cons.injEq] at hsplit
    · cases hsplit.1
    · cases hsplit.2.1
    · rw [← hsplit.1, ← hsplit.2.1]
    · exact absurd hsplit.2.2.2 (by simp)
  obtain rfl : announcing = {} := by
    have hframe : (mqttStep .sna controllableSettings voltageStart (.frame batteryFrame)).1.outputs.cfg = {} := rfl
    rw [← hcfg, Machine.after_cons, Machine.after_cons, Machine.after_nil, step_publish, publish_outputs]
    exact hframe
  exact ⟨s, hs, hconfig, hanswered⟩

/-- Its config has been published. -/
theorem voltage_announced : ∃ topic config,
    .sensor topic config ∈ publications .sna controllableSettings voltageStart voltageRun ∧
      config.uniqueId = "luxmon_solar_battery_voltage" ∧ config.valueTemplate = valueTemplate "battery_voltage" := by
  have h₀ : Machine.after (mqttStep .sna controllableSettings) (.start {} true) [] = voltageStart := rfl
  have hfollows : Follows .sna [batteryFrame]
      (Machine.after (mqttStep .sna controllableSettings) voltageStart [.frame batteryFrame]) :=
    follows_run .sna controllableSettings {} true [.frame batteryFrame]
  obtain ⟨payload, hstate, hshows⟩ : ∃ payload, Publication.state (stateTopic {}) payload ∈
      (mqttStep .sna controllableSettings (Machine.after (mqttStep .sna controllableSettings) voltageStart
        [.frame batteryFrame]) (.publish none)).2 ∧ StateShows .sna [batteryFrame] "celsius" payload := by
    rcases publish_spec .sna controllableSettings hfollows none with ⟨hskip, -⟩ | ⟨shown, payload, -, hshows, hpublish⟩
    · exact absurd hskip (by decide +kernel)
    · have hcfg : (Machine.after (mqttStep .sna controllableSettings) voltageStart [.frame batteryFrame]).outputs.cfg = {} :=
        rfl
      refine ⟨payload, ?_, hshows⟩
      have hout := congrArg Prod.snd hpublish
      rw [hcfg] at hout
      exact Eq.mpr (congrArg (Publication.state (stateTopic {}) payload ∈ ·) hout) List.mem_cons_self
  obtain ⟨topic, config, hmem, hid, -, htemplate⟩ := (entities_announced .sna controllableSettings voltage_justBuilt
    voltageRun_life h₀).2 [.frame batteryFrame] [] [] none rfl (fun t ht => by cases ht) rfl _ payload hstate
    "battery_voltage" (by decide) (Dict.mem_keys_iff.mpr ⟨_, voltage_present hshows⟩)
  exact ⟨topic, config, hmem, hid, htemplate⟩

end LuxMon
