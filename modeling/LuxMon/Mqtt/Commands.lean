import LuxMon.Config.MqttNumbers
import LuxMon.Mqtt.Discovery
import Mathlib.Data.List.DropRight

/-!
# The numbers of Home Assistant

A number entity sends what it is set to on the command topic of its config, and shows
what is published on the state topic.  Every controllable setting is announced as a
number, also those that are a choice, a checkbox or a text.

    a value that was accepted is accepted again, as it is      (validate_echoed)
    which numbers are accepted, and what becomes of them       (number_entities)
-/

namespace LuxMon

open Python

/-! ## Accepted values -/

/-- Nothing is left to strip. -/
theorem stripWhile_stripWhile (p : Char → Bool) (cs : List Char) : stripWhile p (stripWhile p cs) = stripWhile p cs := by
  have hright : ∀ ds : List Char, (ds.reverse.dropWhile p).reverse = ds.rdropWhile p := fun _ => rfl
  have hfirst : (stripWhile p cs).dropWhile p = stripWhile p cs := by
    unfold stripWhile
    rw [hright, List.dropWhile_eq_self_iff]
    intro hpos hp
    have hprefix := List.rdropWhile_prefix p (l := cs.dropWhile p)
    have hdrop := List.dropWhile_eq_self_iff.mp (List.dropWhile_idempotent p cs) (hpos.trans_le hprefix.length_le)
    exact hdrop (by rwa [← hprefix.getElem hpos])
  unfold stripWhile at hfirst ⊢
  rw [hfirst, hright, hright, List.rdropWhile_idempotent]

theorem payloadText_payloadText (payload : String) : payloadText (payloadText payload) = payloadText payload := by
  unfold payloadText strip
  rw [String.toList_ofList, stripWhile_stripWhile]

/-- A text without white space is left as it is. -/
theorem payloadText_eq {text : String} (h : ∀ c ∈ text.toList, isSpaceChar c = false) : payloadText text = text := by
  unfold payloadText strip
  rw [stripWhile_eq_self h, String.ofList_toList]

theorem payloadText_textFrom (raw : String) (x : PyFloat) : payloadText (x.textFrom raw) = x.textFrom raw := by
  rcases textFrom_cases raw x with htext | ⟨-, htext⟩
  · rw [htext]
    cases x with
    | nan => decide +kernel
    | negInf => decide +kernel
    | posInf => decide +kernel
    | fin q =>
      refine payloadText_eq fun c hc => ?_
      rcases repr_plain q c hc with hdigit | hsign
      · obtain ⟨hlow, hhigh⟩ := toNat_of_isDigit hdigit
        unfold isSpaceChar
        rw [isNumberSpace_of_isDigit hdigit]
        simp
        omega
      · have hone : c = '.' ∨ c = 'e' ∨ c = '+' ∨ c = '-' := by simpa using hsign
        rcases hone with rfl | rfl | rfl | rfl <;> decide
  · rw [htext]
    decide +kernel

/-- The value is accepted as it is. -/
def Echoed (name value : String) (type : SettingType) : Prop :=
  payloadText value = value ∧ validateAndConvert name value type = .ok (.ok value)

theorem ranged_number {mn mx step : Option ℚ} (h : (SettingType.number mn mx step).ranged = true) :
    ∃ a b, mn = some a ∧ mx = some b ∧ (step.any fun s => s.den = 1) = false := by
  simp only [SettingType.ranged, Bool.and_eq_true, Option.isSome_iff_exists, Bool.not_eq_true'] at h
  obtain ⟨⟨⟨a, rfl⟩, b, rfl⟩, hstep⟩ := h
  exact ⟨a, b, rfl, rfl, hstep⟩

/-- A number in range is accepted as its text. -/
theorem validate_inRange (name : String) {raw : String} {a b : ℚ} {step : Option ℚ} {x : PyFloat}
    (hstep : (step.any fun s => s.den = 1) = false) (hread : floatOfString raw = .ok x) (hlow : x.lt (.fin a) = false)
    (hhigh : (PyFloat.fin b).lt x = false) :
    validateAndConvert name raw (.number (some a) (some b) step) = .ok (.ok (x.textFrom raw)) := by
  unfold validateAndConvert
  rw [hread]
  simp only [Option.any_some, hlow, hhigh, numberText, hstep, Bool.false_eq_true, if_false]
  rfl

theorem validate_select {name raw value : String} {options : List String} :
    validateAndConvert name raw (.select options) = .ok (.ok value) ↔ raw ∈ options ∧ value = raw := by
  unfold validateAndConvert
  dsimp only
  by_cases h : raw ∈ options
  · rw [if_pos h, Except.ok.injEq, Except.ok.injEq, eq_comm]
    exact (and_iff_right h).symm
  · rw [if_neg h]
    exact ⟨fun heq => (by cases heq), fun hmem => absurd hmem.1 h⟩

theorem validate_checkbox {name raw value : String} : validateAndConvert name raw .checkbox = .ok (.ok value) ↔
    raw.toLower ∈ ["true", "false", "1", "0", "on", "off"] ∧
      value = if raw.toLower ∈ ["true", "1", "on"] then "true" else "false" := by
  unfold validateAndConvert
  dsimp only
  by_cases h : raw.toLower ∈ ["true", "false", "1", "0", "on", "off"]
  · rw [if_neg (not_not.mpr h), Except.ok.injEq, Except.ok.injEq, eq_comm]
    exact (and_iff_right h).symm
  · rw [if_pos h]
    exact ⟨fun heq => (by cases heq), fun hmem => absurd hmem.1 h⟩

/-- What was accepted is accepted again, as it is. -/
theorem validate_echoed {name payload value : String} {type : SettingType}
    (htype : controllableSettings.lookup name = some type)
    (h : validateAndConvert name (payloadText payload) type = .ok (.ok value)) : Echoed name value type := by
  cases type with
  | number mn mx step =>
    have hranged := controllable_ranged htype
    obtain ⟨x, hread, hvalue, hx⟩ := validate_number hranged h
    obtain ⟨a, b, rfl, rfl, hstep⟩ := ranged_number hranged
    have hbounds : x.lt (.fin a) = false ∧ (PyFloat.fin b).lt x = false := by
      rcases hx with rfl | ⟨q, rfl, hlow, hhigh⟩
      · exact ⟨rfl, rfl⟩
      · exact ⟨decide_eq_false (not_lt.mpr (hlow a rfl)), decide_eq_false (not_lt.mpr (hhigh b rfl))⟩
    have hagain := validate_inRange name hstep (floatOfString_textFrom hread) hbounds.1 hbounds.2
    rw [textFrom_textFrom] at hagain
    rw [hvalue]
    exact ⟨payloadText_textFrom _ x, hagain⟩
  | select options =>
    obtain ⟨hmem, rfl⟩ := validate_select.mp h
    exact ⟨payloadText_payloadText payload, validate_select.mpr ⟨hmem, rfl⟩⟩
  | checkbox =>
    obtain ⟨-, rfl⟩ := validate_checkbox.mp h
    split
    · exact ⟨by decide +kernel, validate_checkbox.mpr ⟨by decide +kernel, by decide +kernel⟩⟩
    · exact ⟨by decide +kernel, validate_checkbox.mpr ⟨by decide +kernel, by decide +kernel⟩⟩
  | text =>
    obtain rfl : payloadText payload = value := by
      cases h
      rfl
    exact ⟨payloadText_payloadText payload, rfl⟩

/-! ## Accepted numbers -/

def SettingType.options : SettingType → List String
  | .select options => options
  | _ => []

/-- The texts that denote a number and are accepted, for each type; the bounds are those of the config. -/
def SettingType.TakesNumber (raw : String) (q : ℚ) : SettingType → Prop
  | .number mn mx step =>
    let bounds := (SettingType.number mn mx step).bounds
    bounds.1 ≤ q ∧ q ≤ bounds.2.1
  | .select _ => False
  | .checkbox => raw.toLower ∈ ["true", "false", "1", "0", "on", "off"]
  | .text => True

/-- No choice is a number. -/
theorem choices_no_numbers {name : String} {options : List String}
    (h : controllableSettings.lookup name = some (.select options)) {raw : String} (hraw : raw ∈ options) (x : PyFloat) :
    floatOfString raw ≠ .ok x := by
  have hall : ∀ e ∈ controllableSettings, ∀ option ∈ e.2.options, (floatOfString option).toOption = none := by
    decide +kernel
  obtain ⟨before, after, hsplit, -⟩ := List.lookup_eq_some_iff.mp h
  intro hread
  have hnone := hall (name, .select options) (by rw [hsplit]; exact List.mem_append_right _ List.mem_cons_self) raw hraw
  rw [hread] at hnone
  cases hnone

theorem accepts_number {name raw : String} {type : SettingType} (htype : controllableSettings.lookup name = some type)
    {q : ℚ} (hread : floatOfString raw = .ok (.fin q)) :
    (∃ value, validateAndConvert name raw type = .ok (.ok value)) ↔ type.TakesNumber raw q := by
  cases type with
  | number mn mx step =>
    have hranged := controllable_ranged htype
    constructor
    · rintro ⟨value, h⟩
      obtain ⟨x, hx, -, hrange⟩ := validate_number hranged h
      obtain rfl := Except.ok.inj (hx.symm.trans hread)
      obtain ⟨q', hq, hlow, hhigh⟩ := hrange.resolve_left PyFloat.noConfusion
      obtain rfl := PyFloat.fin.inj hq
      obtain ⟨a, b, rfl, rfl, -⟩ := ranged_number hranged
      exact ⟨hlow a rfl, hhigh b rfl⟩
    · intro h
      obtain ⟨a, b, rfl, rfl, hstep⟩ := ranged_number hranged
      exact ⟨_, validate_inRange name hstep hread (decide_eq_false (not_lt.mpr h.1)) (decide_eq_false (not_lt.mpr h.2))⟩
  | select options => exact iff_of_false (fun ⟨value, h⟩ => choices_no_numbers htype (validate_select.mp h).1 _ hread) id
  | checkbox => exact ⟨fun ⟨value, h⟩ => (validate_checkbox.mp h).1, fun h => ⟨_, validate_checkbox.mpr ⟨h, rfl⟩⟩⟩
  | text => exact iff_of_true ⟨raw, rfl⟩ trivial

/-! ## Topics -/

theorem lastLevel_append (front : String) {name : String} (h : '/' ∉ name.toList) : lastLevel (front ++ "/" ++ name) = name := by
  have hname : ∀ c ∈ name.toList.reverse, (decide (c ≠ '/')) = true := fun c hc =>
    decide_eq_true fun heq => h (heq ▸ List.mem_reverse.mp hc)
  unfold lastLevel
  rw [String.toList_append, String.toList_append, List.reverse_append, List.reverse_append, List.takeWhile_append_of_pos hname]
  have hslash : "/".toList.reverse = ['/'] := rfl
  rw [hslash, List.singleton_append, List.takeWhile_cons_of_neg (by decide), List.append_nil, List.reverse_reverse,
    String.ofList_toList]

theorem lastLevel_commandTopic (cfg : MqttConfig) {e : String × SettingType} (h : e ∈ controllableSettings) :
    lastLevel (commandTopic cfg e.1) = e.1 := by
  have hnames : ∀ e ∈ controllableSettings, '/' ∉ e.1.toList := by
    decide +kernel
  have htopic : commandTopic cfg e.1 = (cfg.mqttTopicPrefix ++ "/" ++ cfg.mqttDeviceId ++ "/set") ++ "/" ++ e.1 := by
    have hset : "/set/" = "/set" ++ "/" := by
      decide
    unfold commandTopic
    rw [hset, ← String.append_assoc]
  rw [htopic, lastLevel_append _ (hnames e h)]

theorem controllable_lookup {e : String × SettingType} (h : e ∈ controllableSettings) :
    controllableSettings.lookup e.1 = some e.2 :=
  (Dict.mem_entries (d := ⟨controllableSettings, by decide⟩)).mp h

/-- What is published on the state topic of a number. -/
theorem mem_settingsState {order : List (String × SettingType)} (hperm : order.Perm controllableSettings) (cfg : MqttConfig)
    {e : String × SettingType} (h : e ∈ controllableSettings) (settings : Settings) (text : String) :
    .setting (settingTopic cfg e.1) text ∈ publishSettingsState order cfg (some settings) ↔ settings e.1 = some text := by
  unfold publishSettingsState
  dsimp only
  rw [List.mem_filterMap]
  constructor
  · rintro ⟨e', -, hvalue⟩
    obtain ⟨value, hstored, heq⟩ := Option.map_eq_some_iff.mp hvalue
    obtain ⟨htopic, rfl⟩ := Publication.setting.inj heq
    have hname : e'.1 = e.1 := (String.append_right_inj _).mp htopic
    exact hname ▸ hstored
  · exact fun hvalue => ⟨e, hperm.mem_iff.mpr h, by rw [hvalue]; rfl⟩

/-! ## Runs of requests -/

/-- A request with what becomes of its write. -/
def settingStep (s : KeptSettings) (x : WriteOutcome × SettingRequest) : KeptSettings × SettingReply := x.2.handle x.1 s

/-- Nothing is stored under the name. -/
def Spares (name : String) (x : WriteOutcome × SettingRequest) : Prop :=
  x.1.stores = true → ∀ value, x.2.asked ≠ some (name, value)

/-- A request leaves a row alone, or stores there what it asks for. -/
theorem handle_rows (o : WriteOutcome) (r : SettingRequest) (s : KeptSettings) (name : String) :
    (r.handle o s).1.rows name =
      (if o.stores then r.asked.bind fun a => if a.1 = name then some a.2 else none else none).or (s.rows name) := by
  by_cases hwrites : o = .refused ∨ r.asked = none
  · have hnone : (if o.stores then r.asked.bind fun a => if a.1 = name then some a.2 else none else none) = none := by
      rcases hwrites with rfl | hasked
      · rfl
      · rw [hasked, Option.bind_none, ite_self]
    rw [(handle_without_write hwrites s).1, hnone, Option.none_or]
  · obtain ⟨ho, hasked⟩ := not_or.mp hwrites
    obtain ⟨⟨asked, value⟩, hasked⟩ := Option.ne_none_iff_exists'.mp hasked
    rw [(handle_with_write ho hasked s).1, hasked]
    cases hstores : o.stores with
    | false => rw [set_keeps hstores, if_neg Bool.false_ne_true, Option.none_or]
    | true =>
      rw [if_pos rfl, Option.bind_some]
      by_cases hname : asked = name
      · subst hname
        rw [set_stores hstores, if_pos rfl, Option.some_or]
      · rw [if_neg hname, Option.none_or]
        unfold set_ insertSetting
        rw [hstores, if_pos rfl]
        exact Function.update_of_ne (Ne.symm hname) _ _

theorem handle_spares {name : String} {x : WriteOutcome × SettingRequest} (h : Spares name x) (s : KeptSettings) :
    (settingStep s x).1.rows name = s.rows name := by
  obtain ⟨o, r⟩ := x
  have hnone : (if o.stores then r.asked.bind fun a => if a.1 = name then some a.2 else none else none) = none := by
    cases hstores : o.stores with
    | false => rfl
    | true =>
      rw [if_pos rfl, Option.bind_eq_none_iff]
      rintro ⟨asked, value⟩ hasked
      have hne : asked ≠ name := fun hname => h hstores value (hname ▸ hasked)
      exact if_neg hne
  exact (handle_rows o r s name).trans (by rw [hnone, Option.none_or])

theorem run_spares {name : String} {turns : List (WriteOutcome × SettingRequest)} (h : ∀ x ∈ turns, Spares name x)
    (s : KeptSettings) : (Machine.after settingStep s turns).rows name = s.rows name := by
  induction turns generalizing s with
  | nil => rfl
  | cons x turns ih =>
    rw [Machine.after_cons, ih fun y hy => h y (List.mem_cons_of_mem x hy)]
    exact handle_spares (h x List.mem_cons_self) s

section
variable (cfg : MqttConfig) (order : List (String × SettingType))

/-- The number shows this value, and sending it again changes nothing. -/
structure NumberConfig.Holds (config : NumberConfig) (name value : String) (s : KeptSettings) : Prop where
  shown : ∀ text, .setting config.stateTopic text ∈ publishSettingsState order cfg (some (stored s.rows)) ↔ text = value
  again : ∀ o, o ≠ .refused → (onSet o config.commandTopic value s).2 = .ack name value ∧
    (onSet o config.commandTopic value s).1.rows = s.rows

/-- What Home Assistant sends to a number, and what it is shown. -/
structure NumberConfig.Serves (config : NumberConfig) (name : String) (type : SettingType) : Prop where
  range : ∀ mn mx step, type = .number mn mx step → mn = some config.min ∧ mx = some config.max
  accepts : ∀ o payload q s, o ≠ .refused → floatOfString (payloadText payload) = .ok (.fin q) →
    ((∃ value, (onSet o config.commandTopic payload s).2 = .ack name value) ↔ type.TakesNumber (payloadText payload) q)
  holds : ∀ s before o payload value after, o.stores = true → (∀ x ∈ after, Spares name x) →
    (onSet o config.commandTopic payload (Machine.after settingStep s before)).2 = .ack name value →
      config.Holds cfg order name value
        (Machine.after settingStep s (before ++ (o, .message config.commandTopic payload) :: after))

variable {cfg order}

theorem onSet_command {o : WriteOutcome} (ho : o ≠ .refused) {e : String × SettingType} (h : e ∈ controllableSettings)
    {payload value : String} (hvalid : validateAndConvert e.1 (payloadText payload) e.2 = .ok (.ok value)) (s : KeptSettings) :
    onSet o (commandTopic cfg e.1) payload s =
      ({ s with rows := set_ o e.1 value s.rows, config := setAttr s.config e.1 value }, .ack e.1 value) := by
  have hlevel := lastLevel_commandTopic cfg h
  have htype : controllableSettings.lookup (lastLevel (commandTopic cfg e.1)) = some e.2 :=
    hlevel.symm ▸ controllable_lookup h
  rw [onSet_eq ho htype (hlevel.symm ▸ hvalid), hlevel]

theorem onSet_acks {o : WriteOutcome} (ho : o ≠ .refused) {e : String × SettingType} (h : e ∈ controllableSettings)
    (payload value : String) (s : KeptSettings) : (onSet o (commandTopic cfg e.1) payload s).2 = .ack e.1 value ↔
      validateAndConvert e.1 (payloadText payload) e.2 = .ok (.ok value) := by
  refine ⟨fun hack => ?_, fun hvalid => congrArg Prod.snd (onSet_command ho h hvalid s)⟩
  have hlevel := lastLevel_commandTopic cfg h
  exact hlevel ▸ (onSet_acked (hlevel.symm ▸ controllable_lookup h) hack).2

theorem numberConfig_commandTopic (name : String) (type : SettingType) :
    (numberConfig cfg name type).commandTopic = commandTopic cfg name := rfl

theorem holds_of_row (hperm : order.Perm controllableSettings) {e : String × SettingType} (he : e ∈ controllableSettings)
    {value : String} (hechoed : Echoed e.1 value e.2) {s : KeptSettings} (hrow : s.rows e.1 = some value) :
    (numberConfig cfg e.1 e.2).Holds cfg order e.1 value s := by
  obtain ⟨htext, hagain⟩ := hechoed
  have hvalid : validateAndConvert e.1 (payloadText value) e.2 = .ok (.ok value) := by
    rw [htext]
    exact hagain
  refine ⟨fun text => (mem_settingsState hperm cfg he _ text).trans ?_, fun o ho => ?_⟩
  · unfold stored
    rw [hrow, Option.some_or, Option.some_inj, eq_comm]
  · rw [numberConfig_commandTopic, onSet_command ho he hvalid]
    refine ⟨rfl, ?_⟩
    cases hstores : o.stores with
    | false => exact set_keeps hstores e.1 value s.rows
    | true => exact (if_pos hstores).trans (Function.update_eq_self_iff.mpr hrow.symm)

/-- The last value that a number was set to is the one that it shows. -/
theorem number_entities (hperm : order.Perm controllableSettings) :
    ∀ e ∈ controllableSettings, (numberConfig cfg e.1 e.2).Serves cfg order e.1 e.2 := by
  intro e he
  have hlookup := controllable_lookup he
  refine ⟨fun mn mx step htype => ?_, fun o payload q s ho hread => ?_, fun s before o payload value after hstores hspares hack => ?_⟩
  · obtain ⟨a, b, rfl, rfl, -⟩ := ranged_number (htype ▸ controllable_ranged hlookup)
    unfold numberConfig
    rw [htype]
    exact ⟨rfl, rfl⟩
  · rw [← accepts_number hlookup hread]
    exact exists_congr fun value => onSet_acks ho he payload value s
  · have ho : o ≠ .refused := by
      rintro rfl
      cases hstores
    have hvalid := (onSet_acks ho he payload value _).mp hack
    refine holds_of_row hperm he (validate_echoed hlookup hvalid) ?_
    rw [Machine.after_append, Machine.after_cons, run_spares hspares]
    unfold settingStep SettingRequest.handle
    rw [numberConfig_commandTopic]
    dsimp only
    rw [onSet_command ho he hvalid]
    exact set_stores hstores _ _ _

end

/-! ## A threshold -/

def socLow : String × SettingType := ("alerts_soc_low", .number (some 0) (some 100) none)

theorem socLow_mem : socLow ∈ controllableSettings :=
  (Dict.mem_entries (d := ⟨controllableSettings, by decide⟩)).mpr rfl

/-- It is set to 15 and shows it. -/
theorem socLow_holds : (numberConfig {} socLow.1 socLow.2).Holds {} controllableSettings socLow.1 "15.0"
    (Machine.after settingStep defaultKept [(.stored, .message (numberConfig {} socLow.1 socLow.2).commandTopic " 15")]) := by
  have hvalid : validateAndConvert socLow.1 (payloadText " 15") socLow.2 = .ok (.ok "15.0") := by
    decide +kernel
  exact (number_entities (List.Perm.refl _) socLow socLow_mem).holds defaultKept [] .stored " 15" "15.0" [] rfl
    (fun x hx => by cases hx) ((onSet_acks (by decide) socLow_mem " 15" "15.0" defaultKept).mpr hvalid)

end LuxMon
