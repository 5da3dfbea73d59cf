import LuxMon.Alerts.Thresholds
import LuxMon.Python.Double

/-!
# Numbers over MQTT

A number that a message sets goes through the range check, `str`, the attribute of the
running configuration, the row and its cast.  `Alerts` and `Notifiers` read attributes of
any type, through `_cfg_float` and `_cfg_int`.

    an acknowledged number is the one that is used, now and after a reload ↔ it is a
      number, is stored, is not a threshold of zero and no SMTP port but 587   (mqtt_number_iff)
-/

namespace LuxMon

open Python

/-! ## Attributes of any type -/

/-- `bool(value)`. -/
def Value.truthy : Value → Bool
  | .text s => s != ""
  | .bool b => b
  | .int n => n != 0
  | .float x => x.truthy

/-- `float(value)`. -/
def Value.toFloat : Value → Except PyErr PyFloat
  | .text s => floatOfString s
  | .bool b => .ok (.fin (if b then 1 else 0))
  | .int n => Json.floatOfInt n
  | .float x => .ok x

/-- `int(value)`. -/
def Value.toInt : Value → Except PyErr ℤ
  | .text s => intOfString s
  | .bool b => .ok (if b then 1 else 0)
  | .int n => .ok n
  | .float x => x.toInt

/-- `except (TypeError, ValueError): return default`. -/
def orDefault {α : Type} (default : α) : Except PyErr α → Except PyErr α
  | .error .typeError => .ok default
  | .error (.valueError _) => .ok default
  | r => r

/-- `getattr(self.cfg, name, default) or default`. -/
def attrOr (attr : Option Value) (default : Value) : Value :=
  match attr with
  | some v => if v.truthy then v else default
  | none => default

/-- `_cfg_float` of an attribute. -/
def cfgFloatOf (attr : Option Value) (default : ℚ) : Except PyErr PyFloat :=
  orDefault (.fin default) (attrOr attr (.float (.fin default))).toFloat

/-- `_cfg_int` of an attribute. -/
def cfgIntOf (attr : Option Value) (default : ℤ) : Except PyErr ℤ :=
  orDefault default (attrOr attr (.int default)).toInt

/-- On a float it is what the rules are modelled with. -/
theorem cfgFloatOf_float (x : PyFloat) (default : ℚ) :
    cfgFloatOf (some (.float x)) default = .ok (cfgFloat x (.fin default)) := by
  unfold cfgFloatOf attrOr cfgFloat Value.truthy
  dsimp only
  by_cases hx : x.truthy = true
  · rw [if_pos hx, if_pos hx]
    rfl
  · rw [if_neg hx, if_neg hx]
    rfl

/-- On an integer it is what `_send_email` is modelled with. -/
theorem cfgIntOf_int (n default : ℤ) : cfgIntOf (some (.int n)) default = .ok (if n = 0 then default else n) := by
  unfold cfgIntOf attrOr Value.truthy
  by_cases hn : n = 0
  · subst hn
    rfl
  · have htruthy : (n != 0) = true := by simpa using hn
    rw [if_neg hn]
    dsimp only
    rw [if_pos htruthy]
    rfl

/-! ## Who reads a number -/

/-- The readers of numbers that can be set by a message. -/
inductive Consumer
  | threshold (t : Threshold)
  | smtpPort

/-- The setting. -/
def Consumer.key : Consumer → String
  | .threshold t => t.key
  | .smtpPort => "alerts_email_smtp_port"

/-- From this attribute it takes exactly `x`. -/
def Consumer.Uses (attr : Option Value) (x : ℚ) : Consumer → Prop
  | .threshold t => cfgFloatOf attr t.default = .ok (.fin x)
  | .smtpPort => ∃ n : ℤ, cfgIntOf attr 587 = .ok n ∧ (n : ℚ) = x

/-- The attributes of `OutputConfig` that settings drive. -/
def outputAttributes (cfg : Config) : String → Option Value := fun name =>
  if name ∈ outputKeys.map Prod.fst then some (cfg name) else none

/-- The attributes after a reload that finds these rows. -/
def reloaded (rows : Rows) (config : String → Option Value) : String → Option Value :=
  outputAttributes (loadDbOutputSettings ⟨true, fun _ => rows, fun _ => true⟩ fun name => (config name).getD (.text ""))

/-- The text denotes `x`, in the range of the setting, and every consumer uses `x`: with the
running configuration and after a reload of it. -/
structure Means (name raw : String) (mn mx : Option ℚ) (s : KeptSettings) (x : ℚ) : Prop where
  denoted : floatOfString raw = .ok (.fin x)
  low : ∀ a ∈ mn, a ≤ x
  high : ∀ b ∈ mx, x ≤ b
  running : ∀ c : Consumer, c.key = name → c.Uses (s.config name) x
  loaded : ∀ c : Consumer, c.key = name → c.Uses (reloaded s.rows s.config name) x

/-! ## What the handler does with a number -/

/-- `msg.payload.decode(...).strip()`. -/
def payloadText (payload : String) : String := String.ofList (strip payload.toList)

/-- Both bounds, and a step that is not whole. -/
def SettingType.ranged : SettingType → Bool
  | .number mn mx step => mn.isSome && mx.isSome && !step.any fun s => s.den = 1
  | _ => true

theorem controllable_ranged {name : String} {type : SettingType} (h : controllableSettings.lookup name = some type) :
    type.ranged = true := by
  have hall : ∀ e ∈ controllableSettings, e.2.ranged = true := by decide +kernel
  obtain ⟨before, after, hsplit, -⟩ := List.lookup_eq_some_iff.mp h
  exact hall (name, type) (by rw [hsplit]; exact List.mem_append_right _ List.mem_cons_self)

/-- A value that passes both bounds is a number between them, or NaN. -/
theorem passes_range {x : PyFloat} {a b : ℚ} (hlow : ¬ x.lt (.fin a) = true) (hhigh : ¬ (PyFloat.fin b).lt x = true) :
    x = .nan ∨ ∃ q, x = .fin q ∧ a ≤ q ∧ q ≤ b := by
  cases x with
  | nan => exact .inl rfl
  | negInf => exact absurd rfl hlow
  | posInf => exact absurd rfl hhigh
  | fin q =>
    refine .inr ⟨q, rfl, ?_, ?_⟩
    · simpa [PyFloat.lt] using hlow
    · simpa [PyFloat.lt] using hhigh

/-- A number that the handler accepts: it is in range or NaN, and stored as its text. -/
theorem validate_number {name raw value : String} {mn mx step : Option ℚ}
    (hranged : (SettingType.number mn mx step).ranged = true)
    (h : validateAndConvert name raw (.number mn mx step) = .ok (.ok value)) :
    ∃ x, floatOfString raw = .ok x ∧ value = x.textFrom raw ∧
      (x = .nan ∨ ∃ q, x = .fin q ∧ (∀ a ∈ mn, a ≤ q) ∧ ∀ b ∈ mx, q ≤ b) := by
  simp only [SettingType.ranged, Bool.and_eq_true, Option.isSome_iff_exists, Bool.not_eq_true'] at hranged
  obtain ⟨⟨⟨a, rfl⟩, b, rfl⟩, hstep⟩ := hranged
  unfold validateAndConvert at h
  cases hx : floatOfString raw with
  | error e =>
    rw [hx] at h
    cases h
  | ok x =>
    rw [hx] at h
    simp only [Option.any_some] at h
    by_cases hlow : x.lt (.fin a) = true
    · rw [if_pos hlow] at h
      cases h
    rw [if_neg hlow] at h
    by_cases hhigh : (PyFloat.fin b).lt x = true
    · rw [if_pos hhigh] at h
      cases h
    rw [if_neg hhigh, numberText, hstep] at h
    cases h
    refine ⟨x, rfl, rfl, ?_⟩
    rcases passes_range hlow hhigh with rfl | ⟨q, rfl, ha, hb⟩
    · exact .inl rfl
    · refine .inr ⟨q, rfl, ?_, ?_⟩
      · rintro _ ⟨⟩
        exact ha
      · rintro _ ⟨⟩
        exact hb

/-- What is acknowledged was accepted, and a connection was there. -/
theorem onSet_acked {o : WriteOutcome} {topic payload name value : String} {s : KeptSettings} {type : SettingType}
    (htype : controllableSettings.lookup (lastLevel topic) = some type)
    (h : (onSet o topic payload s).2 = .ack name value) :
    o ≠ .refused ∧ validateAndConvert (lastLevel topic) (payloadText payload) type = .ok (.ok value) := by
  unfold onSet at h
  rw [show String.ofList (strip payload.toList) = payloadText payload from rfl] at h
  dsimp only at h
  rw [htype] at h
  dsimp only at h
  cases hvalid : validateAndConvert (lastLevel topic) (payloadText payload) type with
  | error e =>
    rw [hvalid] at h
    cases h
  | ok converted =>
    rw [hvalid] at h
    cases converted with
    | error error => cases h
    | ok v =>
      dsimp only at h
      cases o with
      | refused => cases h
      | failed =>
        cases h
        exact ⟨by decide, rfl⟩
      | stored =>
        cases h
        exact ⟨by decide, rfl⟩
      | unconfirmed =>
        cases h
        exact ⟨by decide, rfl⟩

theorem onSet_eq {o : WriteOutcome} {topic payload value : String} {type : SettingType} (ho : o ≠ .refused)
    (htype : controllableSettings.lookup (lastLevel topic) = some type)
    (hvalid : validateAndConvert (lastLevel topic) (payloadText payload) type = .ok (.ok value)) (s : KeptSettings) :
    onSet o topic payload s =
      ({ s with rows := set_ o (lastLevel topic) value s.rows, config := setAttr s.config (lastLevel topic) value },
        .ack (lastLevel topic) value) := by
  unfold onSet
  rw [show String.ofList (strip payload.toList) = payloadText payload from rfl]
  dsimp only
  rw [htype]
  dsimp only
  rw [hvalid]
  dsimp only
  rw [connect_ok ho]

/-! ## What the consumers make of it -/

section
variable {text : String} {x : ℚ}

theorem attrOr_text (hne : text ≠ "") (default : Value) : attrOr (some (.text text)) default = .text text :=
  if_pos (bne_iff_ne.mpr hne)

/-- A threshold in the running configuration is read as it was sent. -/
theorem cfgFloatOf_text (hne : text ≠ "") (hread : floatOfString text = .ok (.fin x)) (default : ℚ) :
    cfgFloatOf (some (.text text)) default = .ok (.fin x) := by
  unfold cfgFloatOf
  rw [attrOr_text hne, Value.toFloat, hread]
  rfl

/-- A port is not: its text has a point. -/
theorem cfgIntOf_text (hne : text ≠ "") (hint : ∃ e, intOfString text = .error (.valueError e)) (default : ℤ) :
    cfgIntOf (some (.text text)) default = .ok default := by
  obtain ⟨e, he⟩ := hint
  unfold cfgIntOf
  rw [attrOr_text hne, Value.toInt, he]
  rfl

end

/-- What a consumer reads of a row is what its cast makes of it. -/
def Consumer.cast : Consumer → Cast
  | .threshold _ => .float
  | .smtpPort => .int

theorem Consumer.key_mem (c : Consumer) : (c.key, c.cast) ∈ outputKeys := by
  cases c with
  | threshold t => exact t.key_mem_outputKeys
  | smtpPort => decide

theorem Consumer.attribute (c : Consumer) (cfg : Config) : outputAttributes cfg c.key = some (cfg c.key) :=
  if_pos (List.mem_map.mpr ⟨_, c.key_mem, rfl⟩)

theorem Consumer.reloaded_eq (c : Consumer) (rows : Rows) (config : String → Option Value) :
    reloaded rows config c.key = some (override c.cast (stored rows c.key) ((config c.key).getD (.text ""))) := by
  unfold reloaded loadDbOutputSettings
  rw [c.attribute, if_pos rfl, loadKeys_of_mem _ outputKeys_nodup c.key_mem]
  rfl

/-- A consumer takes `x` from its text in the attribute. -/
def Consumer.Takes (x : ℚ) : Consumer → Prop
  | .threshold _ => x ≠ 0
  | .smtpPort => x = 587

theorem Threshold.default_ne_zero (t : Threshold) : t.default ≠ 0 := by
  cases t <;> norm_num [Threshold.default]

theorem uses_default_iff (x : ℚ) : (∃ n : ℤ, Except.ok (ε := PyErr) (587 : ℤ) = .ok n ∧ (n : ℚ) = x) ↔ x = 587 := by
  constructor
  · rintro ⟨n, hn, rfl⟩
    cases hn
    rfl
  · rintro rfl
    exact ⟨587, rfl, rfl⟩

/-- The text of a number as it is stored: `float` reads the number, `int` reads nothing. -/
structure NumberText (text : String) (x : ℚ) : Prop where
  ne_empty : text ≠ ""
  float : floatOfString text = .ok (.fin x)
  int : ∃ e, intOfString text = .error (.valueError e)

theorem numberText_textFrom {raw : String} {x : ℚ} (hread : floatOfString raw = .ok (.fin x)) :
    NumberText ((PyFloat.fin x).textFrom raw) x :=
  ⟨textFrom_ne_empty _ _, floatOfString_textFrom hread, intOfString_textFrom _ _⟩

section
variable {c : Consumer} {text : String} {x : ℚ}

/-- From the text in the attribute a consumer takes the number, but for the port. -/
theorem Consumer.uses_text (htext : NumberText text x) (h : c.Takes x) : c.Uses (some (.text text)) x := by
  cases c with
  | threshold t => exact cfgFloatOf_text htext.ne_empty htext.float _
  | smtpPort => exact ⟨587, cfgIntOf_text htext.ne_empty htext.int _, h.symm⟩

/-- After a reload of the text, zero is lost and so is every port. -/
theorem Consumer.uses_loaded_iff (c : Consumer) (htext : NumberText text x) :
    c.Uses (some (override c.cast (some text) (.text text))) x ↔ c.Takes x := by
  unfold override
  dsimp only
  rw [if_neg htext.ne_empty]
  cases c with
  | threshold t =>
    simp only [Consumer.cast, Cast.apply, htext.float, Consumer.Uses, Consumer.Takes, Except.toOption,
      Option.map_some, Option.getD_some, cfgFloatOf_float]
    unfold cfgFloat PyFloat.truthy
    by_cases hzero : x = 0
    · have hne : PyFloat.fin t.default ≠ .fin x := by
        rw [hzero]
        exact fun h => t.default_ne_zero (PyFloat.fin.inj h)
      simp [hzero, t.default_ne_zero]
    · simp [hzero]
  | smtpPort =>
    obtain ⟨e, he⟩ := htext.int
    simp only [Consumer.cast, Cast.apply, he, Consumer.Uses, Consumer.Takes, Except.toOption,
      Option.map_none, Option.getD_none, cfgIntOf_text htext.ne_empty htext.int]
    exact uses_default_iff x

end

/-- From a row with an integer other than zero, it is that integer. -/
theorem Consumer.uses_row {c : Consumer} {text : String} {n : ℤ} (hne : text ≠ "") (hn : n ≠ 0)
    (hfloat : floatOfString text = .ok (.fin n)) (hint : intOfString text = .ok n) {current : Value} {x : ℚ}
    (h : c.Uses (some (override c.cast (some text) current)) x) : x = n := by
  unfold override at h
  dsimp only at h
  rw [if_neg hne] at h
  cases c with
  | threshold t =>
    simp only [Consumer.cast, Cast.apply, hfloat, Consumer.Uses, Except.toOption, Option.map_some, Option.getD_some,
      cfgFloatOf_float, Except.ok.injEq] at h
    have htruthy : (PyFloat.fin n).truthy = true := by simpa [PyFloat.truthy] using hn
    rw [cfgFloat, if_pos htruthy] at h
    exact (PyFloat.fin.inj h).symm
  | smtpPort =>
    simp only [Consumer.cast, Cast.apply, hint, Consumer.Uses, Except.toOption, Option.map_some, Option.getD_some,
      cfgIntOf_int, if_neg hn, Except.ok.injEq] at h
    obtain ⟨m, rfl, rfl⟩ := h
    rfl

/-! ## Every acknowledged number -/

section
variable {o : WriteOutcome} {topic payload value : String} {mn mx step : Option ℚ} {s : KeptSettings}

theorem stores_of_written (ho : o ≠ .refused) (hfailed : o ≠ .failed) : o.stores = true := by
  cases o with
  | refused => exact absurd rfl ho
  | failed => exact absurd rfl hfailed
  | stored => rfl
  | unconfirmed => rfl

/-- The text in the attribute of a consumer is what was set. -/
theorem setAttr_consumer (c : Consumer) (cfg : Config) (value : String) :
    setAttr (outputAttributes cfg) c.key value c.key = some (.text value) := by
  unfold setAttr
  rw [c.attribute]
  exact Function.update_self ..

/-- What is kept after a message with the text of a number. -/
def keptNumber (o : WriteOutcome) (name value : String) (rows : Rows) (envFile : Option String) (cfg : Config) :
    KeptSettings :=
  ⟨set_ o name value rows, envFile, setAttr (outputAttributes cfg) name value⟩

/-- A number that is stored, and that its consumers take, means itself. -/
theorem means_of_takes {x : ℚ} (hstores : o.stores = true) {name raw : String} (hread : floatOfString raw = .ok (.fin x))
    (hlow : ∀ a ∈ mn, a ≤ x) (hhigh : ∀ b ∈ mx, x ≤ b) (htakes : ∀ c : Consumer, c.key = name → c.Takes x)
    (rows : Rows) (envFile : Option String) (cfg : Config) :
    Means name raw mn mx (keptNumber o name ((PyFloat.fin x).textFrom raw) rows envFile cfg) x where
  denoted := hread
  low := hlow
  high := hhigh
  running := by
    rintro c rfl
    show c.Uses (setAttr (outputAttributes cfg) c.key _ c.key) x
    rw [setAttr_consumer]
    exact c.uses_text (numberText_textFrom hread) (htakes c rfl)
  loaded := by
    rintro c rfl
    show c.Uses (reloaded (set_ o c.key _ rows) (setAttr (outputAttributes cfg) c.key _) c.key) x
    rw [c.reloaded_eq, setAttr_consumer, stored, set_stores hstores]
    exact (c.uses_loaded_iff (numberText_textFrom hread)).mpr (htakes c rfl)

/-- After a statement that failed the row decides, whatever it is. -/
theorem not_means_of_failed (c : Consumer) (raw value : String) (cfg : Config) :
    ¬ ∀ rows, ∃ x, Means c.key raw mn mx (keptNumber .failed c.key value rows none cfg) x := by
  intro hmeans
  have hrow : ∀ (text : String) {n : ℤ}, text ≠ "" → n ≠ 0 → floatOfString text = .ok (.fin n) →
      intOfString text = .ok n → floatOfString raw = .ok (.fin n) := by
    intro text n hne hn hfloat hint
    obtain ⟨x, hx⟩ := hmeans fun _ => some text
    have huses := hx.loaded c rfl
    rw [c.reloaded_eq] at huses
    have hvalue : x = n := c.uses_row hne hn hfloat hint huses
    rw [← hvalue]
    exact hx.denoted
  have hone : floatOfString raw = .ok (.fin (1 : ℤ)) :=
    hrow "1" (by decide) (by decide) (by decide +kernel) (by decide +kernel)
  have htwo : floatOfString raw = .ok (.fin (2 : ℤ)) :=
    hrow "2" (by decide) (by decide) (by decide +kernel) (by decide +kernel)
  rw [hone] at htwo
  exact absurd htwo (by decide)

/-- Its consumers take a number that is used as it was sent, whatever was stored before. -/
theorem takes_of_means {name raw : String} {y : PyFloat} (ho : o ≠ .refused) (hread : floatOfString raw = .ok y)
    (hmeans : ∀ rows envFile cfg, ∃ x, Means name raw mn mx (keptNumber o name (y.textFrom raw) rows envFile cfg) x) :
    ∃ x, floatOfString raw = .ok (.fin x) ∧ ∀ c : Consumer, c.key = name → o ≠ .failed ∧ c.Takes x := by
  obtain ⟨x, hx⟩ := hmeans (fun _ => none) none fun _ => .text ""
  have hdenoted := hx.denoted
  rw [hread, Except.ok.injEq] at hdenoted
  subst hdenoted
  refine ⟨x, hread, ?_⟩
  rintro c rfl
  have hfailed : o ≠ .failed := by
    rintro rfl
    exact not_means_of_failed c _ _ _ fun rows => hmeans rows none fun _ => .text ""
  refine ⟨hfailed, ?_⟩
  have huses := hx.loaded c rfl
  unfold keptNumber at huses
  rw [c.reloaded_eq] at huses
  dsimp only at huses
  rw [setAttr_consumer, stored, set_stores (stores_of_written ho hfailed)] at huses
  exact (c.uses_loaded_iff (numberText_textFrom hread)).mp huses

/-- An acknowledged number is used as it was sent exactly when it is stored and all its consumers take it. -/
theorem mqtt_number_iff (htype : controllableSettings.lookup (lastLevel topic) = some (.number mn mx step))
    (hack : (onSet o topic payload s).2 = .ack (lastLevel topic) value) :
    (∀ rows envFile cfg, ∃ x, Means (lastLevel topic) (payloadText payload) mn mx
        (onSet o topic payload ⟨rows, envFile, outputAttributes cfg⟩).1 x) ↔
      ∃ x, floatOfString (payloadText payload) = .ok (.fin x) ∧
        ∀ c : Consumer, c.key = lastLevel topic → o ≠ .failed ∧ c.Takes x := by
  obtain ⟨ho, hvalid⟩ := onSet_acked htype hack
  obtain ⟨y, hread, hvalue, hy⟩ := validate_number (controllable_ranged htype) hvalid
  have hkept : ∀ rows envFile cfg, (onSet o topic payload ⟨rows, envFile, outputAttributes cfg⟩).1 =
      keptNumber o (lastLevel topic) (y.textFrom (payloadText payload)) rows envFile cfg := fun _ _ _ => by
    rw [onSet_eq ho htype hvalid, ← hvalue]
    rfl
  simp only [hkept]
  constructor
  · exact takes_of_means ho hread
  · rintro ⟨x, hx, htakes⟩ rows envFile cfg
    rw [hread, Except.ok.injEq] at hx
    subst hx
    obtain ⟨q, hq, hlow, hhigh⟩ := hy.resolve_left PyFloat.noConfusion
    obtain rfl := PyFloat.fin.inj hq
    by_cases hconsumer : ∃ c : Consumer, c.key = lastLevel topic
    · obtain ⟨c, hc⟩ := hconsumer
      exact ⟨x, means_of_takes (stores_of_written ho (htakes c hc).1) hread hlow hhigh (fun c hc => (htakes c hc).2)
        rows envFile cfg⟩
    · have hnone : ∀ c : Consumer, c.key ≠ lastLevel topic := fun c hc => hconsumer ⟨c, hc⟩
      exact ⟨x, hread, hlow, hhigh, fun c hc => absurd hc (hnone c), fun c hc => absurd hc (hnone c)⟩

end

/-- A collector with its defaults. -/
def defaultKept : KeptSettings := ⟨fun _ => none, none, outputAttributes fun name => .text name⟩

theorem low_threshold_means : ∃ x, Means "alerts_soc_low" "15" (some 0) (some 100)
    (onSet .stored "luxmon/set/alerts_soc_low" " 15" defaultKept).1 x := by
  have hname : lastLevel "luxmon/set/alerts_soc_low" = "alerts_soc_low" := by decide +kernel
  have htext : payloadText " 15" = "15" := by decide +kernel
  have htype : controllableSettings.lookup (lastLevel "luxmon/set/alerts_soc_low") =
      some (.number (some 0) (some 100) none) := by
    rw [hname]
    rfl
  have hvalid : validateAndConvert (lastLevel "luxmon/set/alerts_soc_low") (payloadText " 15")
      (.number (some 0) (some 100) none) = .ok (.ok "15.0") := by decide +kernel
  have hset := onSet_eq (o := .stored) (by decide) htype hvalid defaultKept
  have hmeans := (mqtt_number_iff htype (congrArg Prod.snd hset)).mpr ⟨15, by decide +kernel, fun c hc => ⟨by decide, ?_⟩⟩ (fun _ => none) none
    fun name => .text name
  · rwa [hname, htext] at hmeans
  cases c with
  | threshold t => exact (by norm_num : (15 : ℚ) ≠ 0)
  | smtpPort => exact absurd hc (by decide +kernel)

/-- Port 465 is acknowledged and stored; 587 is used, now and after a reload. -/
theorem smtp_port_lost :
    (onSet .stored "luxmon/set/alerts_email_smtp_port" "465" defaultKept).2 = .ack "alerts_email_smtp_port" "465.0" ∧
      floatOfString "465" = .ok (.fin 465) ∧
      cfgIntOf ((onSet .stored "luxmon/set/alerts_email_smtp_port" "465" defaultKept).1.config "alerts_email_smtp_port")
        587 = .ok 587 ∧
      ¬ ∃ x, Means "alerts_email_smtp_port" "465" (some 1) (some 65535)
        (onSet .stored "luxmon/set/alerts_email_smtp_port" "465" defaultKept).1 x := by
  have hname : lastLevel "luxmon/set/alerts_email_smtp_port" = "alerts_email_smtp_port" := by decide +kernel
  have htype : controllableSettings.lookup (lastLevel "luxmon/set/alerts_email_smtp_port") =
      some (.number (some 1) (some 65535) none) := by
    rw [hname]
    rfl
  have hvalid : validateAndConvert (lastLevel "luxmon/set/alerts_email_smtp_port") (payloadText "465")
      (.number (some 1) (some 65535) none) = .ok (.ok "465.0") := by decide +kernel
  have hset := onSet_eq (o := .stored) (by decide) htype hvalid defaultKept
  rw [hname] at hset
  have hread : floatOfString "465" = .ok (.fin 465) := by decide +kernel
  have hused : cfgIntOf
      ((onSet .stored "luxmon/set/alerts_email_smtp_port" "465" defaultKept).1.config "alerts_email_smtp_port") 587 =
        .ok 587 := by
    decide +kernel
  refine ⟨by rw [hset], hread, hused, ?_⟩
  rintro ⟨x, hx⟩
  have hdenoted := hx.denoted
  rw [hread] at hdenoted
  cases hdenoted
  obtain ⟨n, hn, hport⟩ := hx.running .smtpPort rfl
  rw [hused] at hn
  cases hn
  exact absurd hport (by norm_num)

end LuxMon
