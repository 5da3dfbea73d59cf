import LuxMon.Automation.DryRunTest
import LuxMon.Effects.Serial

/-!
# Concurrent configuration requests

The three settings of the automations are read and written one at a time.  A
request that writes back what it has read (delete, disable, test) undoes what
others wrote in between.

    the accesses of an interleaving agree with an order of the requests →
      that serial order leaves the same three settings         (config_requests_serialisable)
-/

namespace LuxMon

open Python Effects Prog World

/-! ## Accesses to the configuration -/

/-- The rows of the automation configuration. -/
structure ConfigRows where
  enabled : Option String
  dryRun : Option String
  automations : Option (Option Json)

def World.configRows (w : World) : ConfigRows where
  enabled := w.settings SETTING_ENABLED
  dryRun := w.settings SETTING_DRY_RUN
  automations := w.documents SETTING_AUTOMATIONS

/-- A read, with the row it found, or a write of one of the three settings. -/
inductive ConfigOp
  | readEnabled (row : Option String)
  | writeEnabled (value : String)
  | readDryRun (row : Option String)
  | writeDryRun (value : String)
  | readAutomations (row : Option (Option Json))
  | writeAutomations (value : Json)

namespace ConfigOp

def setting : ConfigOp → String
  | readEnabled _ | writeEnabled _ => SETTING_ENABLED
  | readDryRun _ | writeDryRun _ => SETTING_DRY_RUN
  | readAutomations _ | writeAutomations _ => SETTING_AUTOMATIONS

def isWrite : ConfigOp → Bool
  | writeEnabled _ | writeDryRun _ | writeAutomations _ => true
  | _ => false

def Step (r : ConfigRows) : ConfigOp → ConfigRows → Prop
  | readEnabled row, r' => r' = r ∧ row = r.enabled
  | writeEnabled value, r' => r' = { r with enabled := some value }
  | readDryRun row, r' => r' = r ∧ row = r.dryRun
  | writeDryRun value, r' => r' = { r with dryRun := some value }
  | readAutomations row, r' => r' = r ∧ row = r.automations
  | writeAutomations value, r' => r' = { r with automations := some (some value) }

/-- The same setting, and one of the two writes it. -/
def Conflicts (a b : ConfigOp) : Prop := a.setting = b.setting ∧ (a.isWrite = true ∨ b.isWrite = true)

theorem commute : Commute Step Conflicts := by
  intro s m s' a b hfree ha hb
  have hother : SETTING_ENABLED ≠ SETTING_DRY_RUN ∧ SETTING_ENABLED ≠ SETTING_AUTOMATIONS ∧
      SETTING_DRY_RUN ≠ SETTING_AUTOMATIONS := by decide
  cases a <;> cases b <;> simp_all [Step, Conflicts, setting, isWrite]

end ConfigOp

/-- What an event does to the configuration. -/
def configOp : Ev → Option ConfigOp
  | ⟨.getSetting name, .ok row⟩ =>
    if name = SETTING_ENABLED then some (.readEnabled row)
    else if name = SETTING_DRY_RUN then some (.readDryRun row) else none
  | ⟨.setSetting name value, .ok _⟩ =>
    if name = SETTING_ENABLED then some (.writeEnabled value)
    else if name = SETTING_DRY_RUN then some (.writeDryRun value) else none
  | ⟨.getDocument name, .ok row⟩ => if name = SETTING_AUTOMATIONS then some (.readAutomations row) else none
  | ⟨.setDocument name value, .ok _⟩ =>
    if name = SETTING_AUTOMATIONS then some (.writeAutomations value) else none
  | _ => none

theorem step_configRows {w w' : World} {ev : Ev} (h : step .goodDb w ev w') (hnone : ev.1.storesRow = false) :
    w'.configRows = w.configRows := by
  obtain ⟨hsetting, hdocument⟩ := Bool.or_eq_false_iff.mp hnone
  unfold World.configRows
  rw [step_keeps_settings h hsetting, step_keeps_documents h hdocument]

/-- Statements that succeed do to the rows what their accesses say. -/
theorem step_configOp {w w' : World} {ev : Ev} (h : step .goodDb w ev w') :
    (configOp ev).elim (w'.configRows = w.configRows) fun op => op.Step w.configRows w'.configRows := by
  have hkept : ∀ {v : World} {ev : Ev}, step .goodDb w ev v → ev.1.storesRow = false →
      v.configRows = w.configRows := fun h hnone => step_configRows h hnone
  obtain ⟨op, a⟩ := ev
  cases op with
  | getSetting name =>
    obtain ⟨rfl, hrow⟩ := h
    obtain rfl := selects_goodDb hrow
    unfold configOp
    simp only
    split_ifs with henabled hdry
    · exact ⟨rfl, by rw [henabled]; rfl⟩
    · exact ⟨rfl, by rw [hdry]; rfl⟩
    · trivial
  | setSetting name value =>
    have hdone := stores_goodDb h
    obtain ⟨rfl, -⟩ := h.resolve_right fun h => h.1
    subst hdone
    unfold configOp
    simp only
    split_ifs with henabled hdry
    · subst henabled
      show World.configRows _ = _
      simp [World.configRows, SETTING_ENABLED, SETTING_DRY_RUN]
    · subst hdry
      show World.configRows _ = _
      simp [World.configRows, SETTING_ENABLED, SETTING_DRY_RUN]
    · show World.configRows _ = _
      simp [World.configRows, Ne.symm henabled, Ne.symm hdry]
  | getDocument name =>
    obtain ⟨rfl, hrow⟩ := h
    obtain rfl := selects_goodDb hrow
    unfold configOp
    simp only
    split_ifs with hname
    · exact ⟨rfl, by rw [hname]; rfl⟩
    · trivial
  | setDocument name value =>
    have hdone := stores_goodDb h
    obtain ⟨rfl, -⟩ := h.resolve_right fun h => h.1
    subst hdone
    unfold configOp
    simp only
    split_ifs with hname
    · show World.configRows _ = _
      simp [World.configRows, hname]
    · show World.configRows _ = _
      simp [World.configRows, Ne.symm hname]
  | _ => exact hkept h rfl

/-! ## The accesses that count -/

/-- An event, and what it does if that counts; a write always does. -/
def counted (reads : Ev → Bool) (ev : Ev) : Ev × Option ConfigOp :=
  (ev, if reads ev || ev.1.storesRow then configOp ev else none)

/-- Only the first of these reads counts. -/
def countFirst (reads : Ev → Bool) : List Ev → List (Ev × Option ConfigOp)
  | [] => []
  | ev :: tr =>
    if reads ev then counted reads ev :: tr.map (counted fun _ => false)
    else counted (fun _ => false) ev :: countFirst reads tr

def readsDryRun : Ev → Bool
  | ⟨.getSetting name, _⟩ => name == SETTING_DRY_RUN
  | _ => false

def readsDocument : Ev → Bool
  | ⟨.getDocument _, _⟩ => true
  | _ => false

/-- The writes of a request and the reads that they depend on: the configuration that a delete or
disable writes back, or the automations that it does not find its own among, and the switch that a
test restores. -/
def ConfigRequest.counted : ConfigRequest → List Ev → List (Ev × Option ConfigOp)
  | .delete _, tr | .disable _ _, tr =>
    (tr.take 3).map (LuxMon.counted fun ev => tr.any (fun ev => ev.1.storesRow) || readsDocument ev) ++
      (tr.drop 3).map (LuxMon.counted fun _ => false)
  | .test _, tr => countFirst readsDryRun tr
  | _, tr => tr.map (LuxMon.counted fun _ => false)

/-- What counts is done, what does not changes nothing. -/
def Faithful (x : Ev × Option ConfigOp) : Prop :=
  x.2 = configOp x.1 ∨ x.2 = none ∧ x.1.1.storesRow = false

theorem counted_faithful (reads : Ev → Bool) (ev : Ev) : Faithful (counted reads ev) := by
  unfold counted Faithful
  split
  · exact Or.inl rfl
  · next h =>
    rw [Bool.or_eq_true, not_or] at h
    exact Or.inr ⟨rfl, by simpa using h.2⟩

theorem counted_map (reads : Ev → Bool) (tr : List Ev) :
    (tr.map (counted reads)).map Prod.fst = tr ∧ ∀ x ∈ tr.map (counted reads), Faithful x := by
  refine ⟨by rw [List.map_map]; exact List.map_id tr, fun x hx => ?_⟩
  obtain ⟨ev, -, rfl⟩ := List.mem_map.mp hx
  exact counted_faithful reads ev

theorem countFirst_spec (reads : Ev → Bool) (tr : List Ev) :
    (countFirst reads tr).map Prod.fst = tr ∧ ∀ x ∈ countFirst reads tr, Faithful x := by
  induction tr with
  | nil => exact ⟨rfl, fun _ h => (List.not_mem_nil h).elim⟩
  | cons ev tr ih =>
    unfold countFirst
    split
    · obtain ⟨hfst, hall⟩ := counted_map (fun _ => false) tr
      refine ⟨by rw [List.map_cons, hfst]; rfl, fun x hx => ?_⟩
      rcases List.mem_cons.mp hx with rfl | hx
      · exact counted_faithful _ _
      · exact hall x hx
    · refine ⟨by rw [List.map_cons, ih.1]; rfl, fun x hx => ?_⟩
      rcases List.mem_cons.mp hx with rfl | hx
      · exact counted_faithful _ _
      · exact ih.2 x hx

theorem ConfigRequest.counted_spec (r : ConfigRequest) (tr : List Ev) :
    (r.counted tr).map Prod.fst = tr ∧ ∀ x ∈ r.counted tr, Faithful x := by
  have hsplit : ∀ reads : Ev → Bool,
      ((tr.take 3).map (LuxMon.counted reads) ++ (tr.drop 3).map (LuxMon.counted fun _ => false)).map Prod.fst = tr ∧
        ∀ x ∈ (tr.take 3).map (LuxMon.counted reads) ++ (tr.drop 3).map (LuxMon.counted fun _ => false),
          Faithful x := fun reads => by
    obtain ⟨hfst, hall⟩ := counted_map reads (tr.take 3)
    obtain ⟨hfst', hall'⟩ := counted_map (fun _ => false) (tr.drop 3)
    refine ⟨by rw [List.map_append, hfst, hfst', List.take_append_drop], fun x hx => ?_⟩
    exact (List.mem_append.mp hx).elim (hall x) (hall' x)
  cases r with
  | delete id => exact hsplit _
  | disable id minutes => exact hsplit _
  | test snapshot => exact countFirst_spec _ tr
  | save body => exact counted_map _ tr
  | enable b => exact counted_map _ tr
  | dryRun b => exact counted_map _ tr

theorem path_of_steps {l : List (Ev × Option ConfigOp)} (hfaithful : ∀ x ∈ l, Faithful x) {w w' : World}
    (hs : Steps (step .goodDb) w (l.map Prod.fst) w') :
    Path ConfigOp.Step w.configRows (l.filterMap Prod.snd) w'.configRows := by
  induction l generalizing w with
  | nil =>
    cases hs
    rfl
  | cons x l ih =>
    obtain ⟨m, hm, hs⟩ := hs
    have hrest := ih (fun y hy => hfaithful y (List.mem_cons_of_mem _ hy)) hs
    have hstep := step_configOp hm
    obtain ⟨ev, op⟩ := x
    cases op with
    | none =>
      have hsame : m.configRows = w.configRows := by
        rcases hfaithful _ List.mem_cons_self with hop | ⟨-, hnone⟩
        · have hop : none = configOp ev := hop
          rw [← hop] at hstep
          exact hstep
        · exact step_configRows hm hnone
      rw [List.filterMap_cons_none rfl, ← hsame]
      exact hrest
    | some op =>
      rw [List.filterMap_cons_some (show Prod.snd (ev, some op) = some op from rfl)]
      rcases hfaithful _ List.mem_cons_self with hop | ⟨hop, -⟩
      · have hop : some op = configOp ev := hop
        rw [← hop] at hstep
        exact ⟨_, hstep, hrest⟩
      · cases hop

/-! ## What a request comes to -/

/-- What `load_dict` makes of the rows. -/
def ConfigRows.config (r : ConfigRows) : AutomationConfig where
  enabled := isTrue (r.enabled.getD "false")
  globalDryRun := isTrue (r.dryRun.getD "true")
  automations := (loadedAutomations (.ok r.automations)).map Automation.toDict

/-- The rows after `save_dict`. -/
def ConfigRows.save (data : AutomationConfig) (r : ConfigRows) : ConfigRows where
  enabled := some (boolText data.enabled)
  dryRun := some (boolText data.globalDryRun)
  automations :=
    match data.automations.mapM Automation.fromDict with
    | .ok automations => some (some (.arr (automations.map Automation.toDict)))
    | .error _ => r.automations

/-- A test comes to its evaluation: there is a snapshot and the serials are configured. -/
def ConfigRequest.ready (w : World) : ConfigRequest → Bool
  | .test (some _) =>
    match (exec World.answer w resolveDongle).2.1 with
    | .ok dongle => dongle.datalogSerial != "" && dongle.inverterSerial != ""
    | .error _ => false
  | _ => false

/-- What a request alone makes of the rows, at the time that it reads. -/
def ConfigRequest.effect (ready : Bool) (now : ℚ) (r : ConfigRows) : ConfigRequest → ConfigRows
  | .save body => r.save body
  | .delete id =>
    let automations := r.config.automations.filter fun a => !hasId id a
    if automations.length = r.config.automations.length then r
    else r.save { r.config with automations := automations }
  | .disable id minutes =>
    if r.config.automations.any (hasId id) then
      match disabledUntil now minutes with
      | .ok until_ => r.save { r.config with
          automations := disableFirst id (.float until_) r.config.automations }
      | .error _ => r
    else r
  | .enable b => { r with enabled := some (boolText b) }
  | .dryRun b => { r with dryRun := some (boolText b) }
  | .test _ => if ready then { r with dryRun := some (r.dryRun.getD "true") } else r

/-- The statement succeeded; the settings that no request writes and the environment are as in `w`. -/
def Answered (w : World) : Ev → Prop
  | ⟨.getSetting name, a⟩ => (∃ row, a = .ok row) ∧
      (name ≠ SETTING_ENABLED → name ≠ SETTING_DRY_RUN → a = .ok (w.settings name))
  | ⟨.setSetting _ _, a⟩ => a = .ok ()
  | ⟨.getDocument _, a⟩ => ∃ row, a = .ok row
  | ⟨.setDocument _ _, a⟩ => a = .ok ()
  | ⟨.getenv name, a⟩ => a = w.environ name
  | _ => True

/-- The accesses that count. -/
def opsOf (l : List (Ev × Option ConfigOp)) : List ConfigOp := l.filterMap Prod.snd

theorem opsOf_append (l l' : List (Ev × Option ConfigOp)) : opsOf (l ++ l') = opsOf l ++ opsOf l' :=
  List.filterMap_append ..

/-- The writes of a trace. -/
def writesOf (tr : List Ev) : List ConfigOp := opsOf (tr.map (counted fun _ => false))

theorem writesOf_append (t u : List Ev) : writesOf (t ++ u) = writesOf t ++ writesOf u := by
  unfold writesOf
  rw [List.map_append, opsOf_append]

theorem writesOf_none {tr : List Ev} (h : ∀ ev ∈ tr, ev.1.storesRow = false) : writesOf tr = [] := by
  refine List.filterMap_eq_nil_iff.mpr fun x hx => ?_
  obtain ⟨ev, hev, rfl⟩ := List.mem_map.mp hx
  unfold counted
  simp only [h ev hev]
  rfl

section
variable (value : String) (tr : List Ev)

@[simp] theorem writesOf_setEnabled :
    writesOf (⟨.setSetting SETTING_ENABLED value, .ok ()⟩ :: tr) = .writeEnabled value :: writesOf tr := rfl

@[simp] theorem writesOf_setDryRun :
    writesOf (⟨.setSetting SETTING_DRY_RUN value, .ok ()⟩ :: tr) = .writeDryRun value :: writesOf tr := rfl

@[simp] theorem writesOf_setAutomations (document : Json) :
    writesOf (⟨.setDocument SETTING_AUTOMATIONS document, .ok ()⟩ :: tr) =
      .writeAutomations document :: writesOf tr := rfl

end

/-- What `save_dict` writes. -/
def AutomationConfig.writes (data : AutomationConfig) : List ConfigOp :=
  [.writeEnabled (boolText data.enabled), .writeDryRun (boolText data.globalDryRun)] ++
    match data.automations.mapM Automation.fromDict with
    | .ok automations => [.writeAutomations (.arr (automations.map Automation.toDict))]
    | .error _ => []

theorem path_writes {data : AutomationConfig} {r r' : ConfigRows}
    (h : Path ConfigOp.Step r data.writes r') : r' = r.save data := by
  unfold AutomationConfig.writes at h
  unfold ConfigRows.save
  obtain ⟨r₁, rfl, r₂, rfl, h⟩ := h
  cases hparse : data.automations.mapM Automation.fromDict with
  | error x =>
    rw [hparse] at h
    cases h
    rfl
  | ok as =>
    rw [hparse] at h
    obtain ⟨r₃, rfl, rfl⟩ := h
    rfl

theorem saveDict_writes {w : World} {data : AutomationConfig} {tr : List Ev} {out : Except PyErr Unit}
    (h : (saveDict data).Run tr out) (hans : ∀ ev ∈ tr, Answered w ev) :
    writesOf tr = data.writes ∧ tr.any (fun ev => ev.1.storesRow) = true := by
  obtain ⟨a, t, rfl, b, t', rfl, hrun⟩ := h
  obtain rfl : a = .ok () := hans _ List.mem_cons_self
  obtain rfl : b = .ok () := hans ⟨.setSetting SETTING_DRY_RUN _, b⟩ (by simp)
  refine ⟨?_, rfl⟩
  unfold AutomationConfig.writes
  rw [writesOf_setEnabled, writesOf_setDryRun]
  cases hparse : data.automations.mapM Automation.fromDict with
  | error x =>
    rw [hparse] at hrun
    obtain ⟨rfl, -⟩ := hrun
    rfl
  | ok as =>
    rw [hparse] at hrun
    obtain ⟨c, t, rfl, rfl, -⟩ := hrun
    obtain rfl : c = .ok () := hans ⟨.setDocument SETTING_AUTOMATIONS _, c⟩ (by simp)
    rfl

/-- A request that saves writes what it saves. -/
theorem save_writes {w : World} {data : AutomationConfig} {tr : List Ev} {out : Except PyErr AutomationConfig}
    (h : (saveDict data >>= fun _ => loadDict).Run tr out) (hans : ∀ ev ∈ tr, Answered w ev) :
    writesOf tr = data.writes ∧ tr.any (fun ev => ev.1.storesRow) = true := by
  rcases (run_bind _ _ _ _).mp h with ⟨a, t, u, rfl, hsave, hload⟩ | ⟨x, -, hsave⟩
  · obtain ⟨hwrites, hany⟩ := saveDict_writes hsave fun ev hev => hans ev (List.mem_append_left _ hev)
    rw [writesOf_append, hwrites, writesOf_none (loadDict_storesNone.of_run hload), List.append_nil, List.any_append,
      hany]
    exact ⟨rfl, rfl⟩
  · exact saveDict_writes hsave hans

/-- The time that a request reads. -/
def clockOf (tr : List Ev) : ℚ :=
  (tr.findSome? fun
    | ⟨.time, now⟩ => some now
    | _ => none).getD 0

theorem answered_row {w : World} {name : String} {a : Except PyErr (Option String)}
    (h : Answered w ⟨.getSetting name, a⟩) : ∃ row, a = .ok row := h.1

/-- A request that starts with `load_dict`: the reads that count have found the rows as they are. -/
theorem loaded_path {w : World} {f : AutomationConfig → Py AutomationConfig} {tr : List Ev}
    {out : Except PyErr AutomationConfig} {r r' : ConfigRows} (h : (loadDict >>= f).Run tr out)
    (hans : ∀ ev ∈ tr, Answered w ev)
    (hpath : Path ConfigOp.Step r (opsOf ((tr.take 3).map
      (LuxMon.counted fun ev => tr.any (fun ev => ev.1.storesRow) || readsDocument ev) ++
        (tr.drop 3).map (LuxMon.counted fun _ => false))) r') :
    ∃ data loads rest, tr = loads ++ rest ∧ clockOf tr = clockOf rest ∧ (f data).Run rest out ∧
      data.automations = r.config.automations ∧
      (rest.any (fun ev => ev.1.storesRow) = true → data = r.config) ∧
      Path ConfigOp.Step r (writesOf rest) r' := by
  obtain ⟨x, t, rfl, y, t', rfl, z, rest, rfl, hrun⟩ := h
  obtain ⟨enabled, rfl⟩ := answered_row (hans _ List.mem_cons_self)
  obtain ⟨dryRun, rfl⟩ := answered_row (hans ⟨.getSetting SETTING_DRY_RUN, y⟩ (by simp))
  obtain ⟨automations, rfl⟩ : ∃ row, z = .ok row := hans ⟨.getDocument SETTING_AUTOMATIONS, z⟩ (by simp)
  refine ⟨_, [⟨.getSetting SETTING_ENABLED, .ok enabled⟩, ⟨.getSetting SETTING_DRY_RUN, .ok dryRun⟩,
    ⟨.getDocument SETTING_AUTOMATIONS, .ok automations⟩], rest, rfl, rfl, hrun, ?_⟩
  rw [opsOf_append] at hpath
  obtain ⟨m, hreads, hwrites⟩ := path_append.mp hpath
  cases hstores : rest.any fun ev => ev.1.storesRow with
  | false =>
    have hreads : Path ConfigOp.Step r (opsOf ([⟨.getSetting SETTING_ENABLED, .ok enabled⟩,
        ⟨.getSetting SETTING_DRY_RUN, .ok dryRun⟩, ⟨.getDocument SETTING_AUTOMATIONS, .ok automations⟩].map
          (LuxMon.counted fun ev => rest.any (fun ev => ev.1.storesRow) || readsDocument ev))) m := hreads
    rw [hstores] at hreads
    obtain ⟨m', ⟨rfl, rfl⟩, rfl⟩ := hreads
    exact ⟨rfl, fun h => (Bool.false_ne_true h).elim, hwrites⟩
  | true =>
    have hreads : Path ConfigOp.Step r (opsOf ([⟨.getSetting SETTING_ENABLED, .ok enabled⟩,
        ⟨.getSetting SETTING_DRY_RUN, .ok dryRun⟩, ⟨.getDocument SETTING_AUTOMATIONS, .ok automations⟩].map
          (LuxMon.counted fun ev => rest.any (fun ev => ev.1.storesRow) || readsDocument ev))) m := hreads
    rw [hstores] at hreads
    obtain ⟨m', ⟨rfl, rfl⟩, m'', ⟨rfl, rfl⟩, m, ⟨rfl, rfl⟩, rfl⟩ := hreads
    refine ⟨rfl, fun _ => ?_, hwrites⟩
    unfold ConfigRows.config
    rw [settingOrDefault_ok, settingOrDefault_ok]

theorem delete_effect {w : World} {id : String} {tr : List Ev} {out : Except PyErr AutomationConfig}
    {r r' : ConfigRows} {ready : Bool} (h : (apiAutomationDelete id).Run tr out) (hans : ∀ ev ∈ tr, Answered w ev)
    (hpath : Path ConfigOp.Step r (opsOf ((ConfigRequest.delete id).counted tr)) r') :
    r' = ConfigRequest.effect ready (clockOf tr) r (.delete id) := by
  obtain ⟨data, loads, rest, rfl, -, hrun, hautomations, hdata, hwrites⟩ := loaded_path h hans hpath
  have hrest : ∀ ev ∈ rest, Answered w ev := fun ev hev => hans ev (List.mem_append_right _ hev)
  unfold ConfigRequest.effect
  simp only at hrun ⊢
  rw [← hautomations]
  split at hrun
  · next hlength =>
    obtain ⟨rfl, -⟩ := (run_ofExcept _ _ _).mp hrun
    rw [if_pos hlength]
    exact hwrites
  · next hlength =>
    obtain ⟨hsaved, hany⟩ := save_writes hrun hrest
    rw [hsaved] at hwrites
    rw [if_neg hlength, ← hdata hany]
    exact path_writes hwrites

theorem disable_effect {w : World} {id : String} {minutes : ℤ} {tr : List Ev}
    {out : Except PyErr AutomationConfig} {r r' : ConfigRows} {ready : Bool}
    (h : (apiAutomationDisable id minutes).Run tr out) (hans : ∀ ev ∈ tr, Answered w ev)
    (hpath : Path ConfigOp.Step r (opsOf ((ConfigRequest.disable id minutes).counted tr)) r') :
    (∃ now : ℚ, ⟨.time, now⟩ ∈ tr ∧ clockOf tr = now) ∧
      r' = ConfigRequest.effect ready (clockOf tr) r (.disable id minutes) := by
  obtain ⟨data, loads, rest, rfl, hclock, hrun, hautomations, hdata, hwrites⟩ := loaded_path h hans hpath
  obtain ⟨now, rest, rfl, hrun⟩ := hrun
  have hrest : ∀ ev ∈ rest, Answered w ev := fun ev hev =>
    hans ev (List.mem_append_right _ (List.mem_cons_of_mem _ hev))
  have hnow : clockOf (loads ++ ⟨.time, now⟩ :: rest) = now := hclock
  refine ⟨⟨now, List.mem_append_right _ List.mem_cons_self, hnow⟩, ?_⟩
  rw [hnow]
  have hwrites : Path ConfigOp.Step r (writesOf rest) r' := hwrites
  have hrun : (if data.automations.any (hasId id) then do
      let until_ ← Prog.ofExcept (disabledUntil now minutes)
      saveDict { data with automations := disableFirst id (.float until_) data.automations }
      loadDict
    else Prog.ofExcept (httpError 404 "Automation not found") : Py AutomationConfig).Run rest out := hrun
  unfold ConfigRequest.effect
  simp only
  rw [← hautomations]
  split at hrun
  · next hfound =>
    rw [if_pos hfound]
    cases hun : disabledUntil now minutes with
    | error x =>
      rw [hun] at hrun
      obtain ⟨rfl, -⟩ := hrun
      exact hwrites
    | ok until_ =>
      rw [hun] at hrun
      obtain ⟨hsaved, hany⟩ := save_writes hrun hrest
      rw [hsaved] at hwrites
      simp only
      rw [← hdata hany]
      exact path_writes hwrites
  · next hfound =>
    obtain ⟨rfl, -⟩ := (run_ofExcept _ _ _).mp hrun
    rw [if_neg hfound]
    exact hwrites

/-! ## A test -/

theorem answered_lookup {w : World} {ev : Ev} (hev : ev.1.resolves = true) (h : Answered w ev) :
    w.answer ev.1 = (ev.2, w) := by
  obtain ⟨op, a⟩ := ev
  cases op with
  | getSetting name =>
    have hname : name ≠ SETTING_ENABLED ∧ name ≠ SETTING_DRY_RUN := by
      simpa [Op.resolves] using hev
    obtain rfl := h.2 hname.1 hname.2
    rfl
  | getenv name =>
    obtain rfl : a = w.environ name := h
    rfl
  | _ => cases hev

/-- Lookups come to the same every time. -/
theorem lookups_exec {α : Type} {w : World} {p : Py α} (hp : p.Asks fun op => op.resolves = true)
    {tr : List Ev} {out : Except PyErr α} (h : p.Run tr out) (hans : ∀ ev ∈ tr, Answered w ev) :
    out = (exec World.answer w p).2.1 := by
  induction p generalizing tr with
  | ret a => exact h.2
  | raise x => exact h.2
  | ask op k ih =>
    obtain ⟨a, t, rfl, h⟩ := h
    have hop := answered_lookup (show (⟨op, a⟩ : Ev).1.resolves = true from hp.1) (hans _ List.mem_cons_self)
    have hrest := ih a (hp.2 a) h fun ev hev => hans ev (List.mem_cons_of_mem _ hev)
    have hexec : exec World.answer w (.ask op k) =
        (⟨op, (w.answer op).1⟩ :: (exec World.answer (w.answer op).2 (k (w.answer op).1)).1,
          (exec World.answer (w.answer op).2 (k (w.answer op).1)).2) := rfl
    rw [hexec, hop]
    exact hrest

theorem countFirst_append (reads : Ev → Bool) {t u : List Ev} (h : ∀ ev ∈ t, reads ev = false) :
    opsOf (countFirst reads (t ++ u)) = writesOf t ++ opsOf (countFirst reads u) := by
  induction t with
  | nil => rfl
  | cons ev t ih =>
    have hrest := ih fun ev hev => h ev (List.mem_cons_of_mem _ hev)
    have hev : countFirst reads (ev :: t ++ u) = LuxMon.counted (fun _ => false) ev :: countFirst reads (t ++ u) := by
      rw [List.cons_append, countFirst, h ev List.mem_cons_self]
      rfl
    rw [hev, ← List.singleton_append, opsOf_append, hrest, ← List.append_assoc]
    exact congrArg (· ++ _) (writesOf_append [ev] t).symm

theorem readsDryRun_of_resolves {ev : Ev} (h : ev.1.resolves = true) : readsDryRun ev = false := by
  obtain ⟨op, a⟩ := ev
  cases op with
  | getSetting name =>
    have hname : name ≠ SETTING_ENABLED ∧ name ≠ SETTING_DRY_RUN := by
      simpa [Op.resolves] using h
    exact beq_false_of_ne hname.2
  | _ => rfl

theorem lookups_path {tr : List Ev} {r r' : ConfigRows} (h : ∀ ev ∈ tr, ev.1.resolves = true)
    (hpath : Path ConfigOp.Step r (opsOf (countFirst readsDryRun tr)) r') : r' = r := by
  have hops := @countFirst_append readsDryRun tr [] fun ev hev => readsDryRun_of_resolves (h ev hev)
  rw [List.append_nil, writesOf_none (storesNone_of_resolves h)] at hops
  rw [hops] at hpath
  exact hpath

/-- A test that comes to its evaluation stores the switch that it read, or its default. -/
theorem testEvents_path {w : World} {t : TestEvents} {r r' : ConfigRows} (h : t.Valid)
    (hans : ∀ ev ∈ t.trace, Answered w ev)
    (hpath : Path ConfigOp.Step r (opsOf (countFirst readsDryRun t.trace)) r') :
    r' = { r with dryRun := some (r.dryRun.getD "true") } := by
  obtain ⟨lookups, o, a, z, x, y, evaluation, u, reload⟩ := t
  have htrace : TestEvents.trace ⟨lookups, o, a, z, x, y, evaluation, u, reload⟩ =
      lookups ++ ⟨.getSetting SETTING_DRY_RUN, o⟩ :: ([⟨.setSetting SETTING_DRY_RUN "true", a⟩,
        ⟨.getSetting "timezone", z⟩, ⟨.getSetting SETTING_ENABLED, x⟩, ⟨.getSetting SETTING_DRY_RUN, y⟩] ++
        (evaluation ++ ⟨.setSetting SETTING_DRY_RUN (settingOrDefault o "true"), u⟩ :: reload)) := by
    simp [TestEvents.trace, TestEvents.before, TestEvents.after]
  obtain ⟨row, rfl⟩ : ∃ row, o = .ok row :=
    answered_row (hans ⟨.getSetting SETTING_DRY_RUN, o⟩ (by simp [htrace]))
  obtain rfl : a = .ok () := hans ⟨.setSetting SETTING_DRY_RUN "true", a⟩ (by simp [htrace])
  obtain rfl : u = .ok () := 
    hans ⟨.setSetting SETTING_DRY_RUN (settingOrDefault (.ok row) "true"), u⟩ (by simp [htrace])
  have hops : opsOf (countFirst readsDryRun (TestEvents.trace
      ⟨lookups, .ok row, .ok (), z, x, y, evaluation, .ok (), reload⟩)) =
      [.readDryRun row, .writeDryRun "true", .writeDryRun (settingOrDefault (.ok row) "true")] := by
    rw [htrace, countFirst_append readsDryRun fun ev hev => readsDryRun_of_resolves (h.lookups ev hev),
      writesOf_none (storesNone_of_resolves h.lookups)]
    have hlast : writesOf (evaluation ++ ⟨.setSetting SETTING_DRY_RUN (settingOrDefault (.ok row) "true"), .ok ()⟩ ::
        reload) = [.writeDryRun (settingOrDefault (.ok row) "true")] := by
      rw [writesOf_append, writesOf_none h.evaluationStores, writesOf_setDryRun, writesOf_none h.reloadStores]
      rfl
    exact congrArg (fun l => [ConfigOp.readDryRun row, .writeDryRun "true"] ++ l) hlast
  rw [hops] at hpath
  obtain ⟨m, ⟨rfl, rfl⟩, m', rfl, m'', rfl, rfl⟩ := hpath
  rw [settingOrDefault_ok]

theorem test_effect {w : World} {snapshot : Option Snapshot} {tr : List Ev} {out : Except PyErr AutomationConfig}
    {r r' : ConfigRows} {now : ℚ} (h : (apiAutomationTest snapshot).Run tr out) (hans : ∀ ev ∈ tr, Answered w ev)
    (hpath : Path ConfigOp.Step r (opsOf (countFirst readsDryRun tr)) r') :
    r' = ConfigRequest.effect ((ConfigRequest.test snapshot).ready w) now r (.test snapshot) := by
  cases snapshot with
  | none =>
    have h : (Prog.ofExcept (httpError 503 "No snapshot available yet") : Py AutomationConfig).Run tr out := h
    obtain ⟨rfl, -⟩ := (run_ofExcept _ _ _).mp h
    exact hpath
  | some snapshot =>
    unfold ConfigRequest.effect ConfigRequest.ready
    simp only
    rcases (run_bind _ _ _ _).mp h with ⟨d, t, u, rfl, hd, hrest⟩ | ⟨x, -, hd⟩
    · have hlookups := resolveDongle_resolves.of_run hd
      rw [← lookups_exec resolveDongle_resolves hd fun ev hev => hans ev (List.mem_append_left _ hev)]
      simp only
      split at hrest
      · next hserial =>
        obtain ⟨rfl, -⟩ := (run_ofExcept _ _ _).mp hrest
        rw [List.append_nil] at hpath
        rw [if_neg (by rcases hserial with h | h <;> simp [h])]
        exact lookups_path hlookups hpath
      · next hserial =>
        obtain ⟨t', ht', hvalid⟩ := testWith_run hlookups hrest
        rw [ht'] at hpath hans
        rw [if_pos (by simpa using hserial)]
        exact testEvents_path hvalid hans hpath
    · rw [← lookups_exec resolveDongle_resolves hd hans]
      exact lookups_path (resolveDongle_resolves.of_run hd) hpath

/-- A request makes of the rows what its accesses that count make of them. -/
theorem counted_effect {w : World} {q : ConfigRequest} {tr : List Ev} {out : Except PyErr AutomationConfig}
    {r r' : ConfigRows} (h : q.run.Run tr out) (hans : ∀ ev ∈ tr, Answered w ev)
    (hpath : Path ConfigOp.Step r (opsOf (q.counted tr)) r') :
    r' = ConfigRequest.effect (q.ready w) (clockOf tr) r q := by
  cases q with
  | save body =>
    have hpath : Path ConfigOp.Step r (writesOf tr) r' := hpath
    rw [(save_writes h hans).1] at hpath
    exact path_writes hpath
  | delete id => exact delete_effect h hans hpath
  | disable id minutes => exact (disable_effect h hans hpath).2
  | enable b =>
    obtain ⟨a, t, rfl, hload⟩ := h
    obtain rfl : a = .ok () := hans _ List.mem_cons_self
    have hpath : Path ConfigOp.Step r (writesOf (⟨.setSetting SETTING_ENABLED (boolText b), .ok ()⟩ :: t)) r' := hpath
    rw [writesOf_setEnabled, writesOf_none (loadDict_storesNone.of_run hload)] at hpath
    exact path_single.mp hpath
  | dryRun b =>
    obtain ⟨a, t, rfl, hload⟩ := h
    obtain rfl : a = .ok () := hans _ List.mem_cons_self
    have hpath : Path ConfigOp.Step r (writesOf (⟨.setSetting SETTING_DRY_RUN (boolText b), .ok ()⟩ :: t)) r' := hpath
    rw [writesOf_setDryRun, writesOf_none (loadDict_storesNone.of_run hload)] at hpath
    exact path_single.mp hpath
  | test snapshot => exact test_effect h hans hpath

/-! ## Requests against a database that works -/

/-- No setting but the two switches is written. -/
def Op.configures : Op → Bool
  | .setSetting name _ => name == SETTING_ENABLED || name == SETTING_DRY_RUN
  | _ => true

theorem configures_of_storesNone {op : Op} (h : op.storesRow = false) : op.configures = true := by
  cases op <;> first | rfl | cases h

theorem setSetting_configures {name : String} (value : String) (h : (Op.setSetting name value).configures = true) :
    (setSetting name value).Asks fun op => op.configures = true :=
  ⟨h, fun _ => trivial⟩

theorem saveDict_configures (data : AutomationConfig) : (saveDict data).Asks fun op => op.configures = true :=
  asks_bind (setSetting_configures _ rfl) fun _ => asks_bind (setSetting_configures _ rfl) fun _ =>
    asks_bind (asks_ofExcept _) fun _ => ⟨rfl, fun _ => trivial⟩

theorem loadDict_configures : loadDict.Asks fun op => op.configures = true :=
  loadDict_storesNone.mono fun _ => configures_of_storesNone

theorem withFinally_asks {α : Type} {P : Op → Prop} {p : Py α} {f : Py Unit} (hp : p.Asks P) (hf : f.Asks P) :
    (withFinally p f).Asks P :=
  asks_bind (asks_tryCatch hp fun _ => asks_bind hf fun _ => trivial) fun _ => asks_bind hf fun _ => trivial

theorem testWith_configures (d : Dongle) (snapshot : Snapshot) :
    (testWith d snapshot).Asks fun op => op.configures = true := by
  refine asks_bind ⟨rfl, fun _ => trivial⟩ fun original => asks_bind (setSetting_configures _ rfl) fun _ =>
    asks_bind (withFinally_asks ?_ (setSetting_configures _ rfl)) fun _ => loadDict_configures
  exact testEvaluation_storesNone.mono fun _ => configures_of_storesNone

theorem run_configures (q : ConfigRequest) : q.run.Asks fun op => op.configures = true := by
  cases q with
  | save body => exact asks_bind (saveDict_configures body) fun _ => loadDict_configures
  | delete id =>
    refine asks_bind loadDict_configures fun data => ?_
    dsimp only
    split
    · exact asks_ofExcept _
    · exact asks_bind (saveDict_configures _) fun _ => loadDict_configures
  | disable id minutes =>
    refine asks_bind loadDict_configures fun data => asks_bind ⟨rfl, fun _ => trivial⟩ fun now => ?_
    split
    · exact asks_bind (asks_ofExcept _) fun _ => asks_bind (saveDict_configures _) fun _ => loadDict_configures
    · exact asks_ofExcept _
  | enable b => exact asks_bind (setSetting_configures _ rfl) fun _ => loadDict_configures
  | dryRun b => exact asks_bind (setSetting_configures _ rfl) fun _ => loadDict_configures
  | test snapshot =>
    cases snapshot with
    | none => trivial
    | some snapshot =>
      refine asks_bind (resolveDongle_resolves.mono fun op hop => ?_) fun d => ?_
      · cases op <;> first | rfl | cases hop
      · split
        · exact asks_ofExcept _
        · exact testWith_configures d snapshot

/-- The settings that no request writes and the environment are as in `w`. -/
def SameElsewhere (w m : World) : Prop :=
  (∀ name, name ≠ SETTING_ENABLED → name ≠ SETTING_DRY_RUN → m.settings name = w.settings name) ∧
    m.environ = w.environ

theorem sameElsewhere_refl (w : World) : SameElsewhere w w := ⟨fun _ _ _ => rfl, rfl⟩

theorem answered_step {w m m' : World} {ev : Ev} (hop : ev.1.configures = true) (hm : SameElsewhere w m)
    (h : step .goodDb m ev m') : Answered w ev ∧ SameElsewhere w m' := by
  have henviron : m'.environ = w.environ := (step_keeps_environ h).trans hm.2
  have hsame : ev.1.storesSetting = false → SameElsewhere w m' := fun hnone =>
    ⟨by rw [step_keeps_settings h hnone]; exact hm.1, henviron⟩
  obtain ⟨op, a⟩ := ev
  cases op with
  | getSetting name =>
    obtain rfl := selects_goodDb h.2
    exact ⟨⟨⟨_, rfl⟩, fun henabled hdry => congrArg _ (hm.1 name henabled hdry)⟩, hsame rfl⟩
  | setSetting name value =>
    obtain ⟨ha, rfl⟩ := h.resolve_right fun h => h.1
    refine ⟨ha, fun other henabled hdry => ?_, henviron⟩
    have hname : other ≠ name := by
      rintro rfl
      simp [Op.configures, henabled, hdry] at hop
    show Function.update _ _ _ _ = _
    rw [Function.update_of_ne hname]
    exact hm.1 other henabled hdry
  | getDocument name => exact ⟨⟨_, selects_goodDb h.2⟩, hsame rfl⟩
  | setDocument name value => exact ⟨(h.resolve_right fun h => h.1).1, hsame rfl⟩
  | getenv name => exact ⟨h.2.trans (congrFun hm.2 name), hsame rfl⟩
  | _ => exact ⟨trivial, hsame rfl⟩

theorem answered_steps {w m m' : World} {tr : List Ev} (hops : ∀ ev ∈ tr, ev.1.configures = true)
    (hm : SameElsewhere w m) (h : Steps (step .goodDb) m tr m') :
    (∀ ev ∈ tr, Answered w ev) ∧ SameElsewhere w m' := by
  induction tr generalizing m with
  | nil =>
    cases h
    exact ⟨fun _ h => (List.not_mem_nil h).elim, hm⟩
  | cons ev tr ih =>
    obtain ⟨n, hn, h⟩ := h
    obtain ⟨hev, hsame⟩ := answered_step (hops ev List.mem_cons_self) hm hn
    obtain ⟨hall, hend⟩ := ih (fun e he => hops e (List.mem_cons_of_mem _ he)) hsame h
    refine ⟨fun e he => ?_, hend⟩
    rcases List.mem_cons.mp he with rfl | he
    · exact hev
    · exact hall e he

/-! ## Serial runs -/

/-- The requests one after the other. -/
def SerialRun : World → List ConfigRequest → World → Prop
  | w, [], w' => w' = w
  | w, q :: qs, w' => ∃ tr out m, q.run.Run tr out ∧ Steps (step .goodDb) w tr m ∧ SerialRun m qs w'

theorem ready_congr {w m : World} (h : SameElsewhere w m) (q : ConfigRequest) : q.ready m = q.ready w := by
  cases q with
  | test snapshot =>
    cases snapshot with
    | none => rfl
    | some snapshot =>
      obtain ⟨hr, hs⟩ := exec_spec (step .goodDb) World.answer World.answer_goodDb resolveDongle m
      have hops : ∀ ev ∈ (exec World.answer m resolveDongle).1, ev.1.configures = true := fun ev hev =>
        configures_of_storesNone (storesNone_of_resolves (resolveDongle_resolves.of_run hr) ev hev)
      have hsame := lookups_exec resolveDongle_resolves hr (answered_steps hops h hs).1
      unfold ConfigRequest.ready
      simp only
      rw [hsame]
  | _ => rfl

/-- A request run alone has its effect, at the time that it reads. -/
theorem run_effect {w w' : World} {q : ConfigRequest} {tr : List Ev} {out : Except PyErr AutomationConfig}
    (h : q.run.Run tr out) (hs : Steps (step .goodDb) w tr w') :
    w'.configRows = ConfigRequest.effect (q.ready w) (clockOf tr) w.configRows q := by
  obtain ⟨hfst, hfaithful⟩ := q.counted_spec tr
  refine counted_effect h (answered_steps ((run_configures q).of_run h) (sameElsewhere_refl w) hs).1 ?_
  exact path_of_steps hfaithful (by rwa [hfst])

/-- The working database, at a fixed time. -/
def World.answerAt (now : ℚ) (w : World) : (op : Op) → Op.Answer op × World
  | .time => (now, w)
  | op => w.answer op

/-- The step is one of the working database; the clock shows `now`. -/
def stepAt (now : ℚ) (w : World) (ev : Ev) (w' : World) : Prop :=
  step .goodDb w ev w' ∧ ∀ t, ev = ⟨.time, t⟩ → t = now

theorem answerAt_step (now : ℚ) (w : World) (op : Op) :
    stepAt now w ⟨op, (w.answerAt now op).1⟩ (w.answerAt now op).2 := by
  cases op with
  | time =>
    refine ⟨rfl, fun t ht => ?_⟩
    cases ht
    rfl
  | _ => exact ⟨World.answer_goodDb w _, fun t ht => by cases ht⟩

theorem steps_of_stepAt {now : ℚ} {w w' : World} {tr : List Ev} (h : Steps (stepAt now) w tr w') :
    Steps (step .goodDb) w tr w' ∧ ∀ t, ⟨.time, t⟩ ∈ tr → t = now := by
  induction tr generalizing w with
  | nil => exact ⟨h, fun _ h => (List.not_mem_nil h).elim⟩
  | cons ev tr ih =>
    obtain ⟨m, ⟨hm, hev⟩, h⟩ := h
    obtain ⟨hs, hall⟩ := ih h
    refine ⟨⟨m, hm, hs⟩, fun t ht => ?_⟩
    rcases List.mem_cons.mp ht with ht | ht
    · exact hev t ht.symm
    · exact hall t ht

/-- From every state a request can run, at any time. -/
theorem run_exists (q : ConfigRequest) (now : ℚ) (w : World) : ∃ tr out w', q.run.Run tr out ∧
    Steps (step .goodDb) w tr w' ∧ w'.configRows = ConfigRequest.effect (q.ready w) now w.configRows q := by
  obtain ⟨hr, hs⟩ := exec_spec (stepAt now) (World.answerAt now) (answerAt_step now) q.run w
  obtain ⟨hs, hclock⟩ := steps_of_stepAt hs
  refine ⟨_, _, _, hr, hs, ?_⟩
  rw [run_effect hr hs]
  cases q with
  | disable id minutes =>
    -- only this request looks at the time that it reads
    obtain ⟨hfst, hfaithful⟩ := ConfigRequest.counted_spec (.disable id minutes)
      (exec (World.answerAt now) w (ConfigRequest.disable id minutes).run).1
    have hans := (answered_steps ((run_configures _).of_run hr) (sameElsewhere_refl w) hs).1
    obtain ⟨⟨t, ht, hnow⟩, -⟩ := @disable_effect _ _ _ _ _ _ _ false hr hans
      (path_of_steps hfaithful (by rw [hfst]; exact hs))
    rw [hnow, hclock t ht]
  | _ => rfl

/-! ## Dry-run in serial runs -/

/-- The request was not asked to change dry-run. -/
def ConfigRequest.keepsDryRun : ConfigRequest → Bool
  | .save _ | .dryRun _ => false
  | _ => true

/-- Dry-run as it is read. -/
def ConfigRows.dry (r : ConfigRows) : Bool := isTrue (r.dryRun.getD "true")

theorem ConfigRows.save_dry (data : AutomationConfig) (r : ConfigRows) : (r.save data).dry = data.globalDryRun := by
  unfold dry save
  rw [Option.getD_some, isTrue_boolText]

theorem ConfigRows.config_dry (r : ConfigRows) : r.config.globalDryRun = r.dry := by
  simp only [config, dry]

theorem effect_dry {ready : Bool} {now : ℚ} {r : ConfigRows} {q : ConfigRequest}
    (hq : q = .dryRun true ∨ q.keepsDryRun = true ∧ r.dry = true) :
    (ConfigRequest.effect ready now r q).dry = true := by
  rcases hq with rfl | ⟨hkeeps, hdry⟩
  · exact isTrue_boolText true
  · have hsaved : ∀ automations, (r.save { r.config with automations := automations }).dry = true := fun automations => by
      rw [ConfigRows.save_dry]
      dsimp only
      rw [ConfigRows.config_dry]
      exact hdry
    unfold ConfigRequest.effect
    cases q with
    | delete id =>
      simp only
      split
      · exact hdry
      · exact hsaved _
    | disable id minutes =>
      simp only
      split
      · split
        · exact hsaved _
        · exact hdry
      · exact hdry
    | enable b => exact hdry
    | test snapshot =>
      simp only
      split <;> exact hdry
    | save body => cases hkeeps
    | dryRun b => cases hkeeps

/-- A serial run that switches dry-run on, or starts with it on, ends with it on. -/
theorem serial_dry {w w' : World} {qs : List ConfigRequest} (h : SerialRun w qs w')
    (hqs : ∀ q ∈ qs, q = .dryRun true ∨ q.keepsDryRun = true)
    (hon : .dryRun true ∈ qs ∨ w.configRows.dry = true) : w'.configRows.dry = true := by
  induction qs generalizing w with
  | nil =>
    cases h
    exact hon.resolve_left List.not_mem_nil
  | cons q qs ih =>
    obtain ⟨tr, out, m, hrun, hs, h⟩ := h
    refine ih h (fun q hq => hqs q (List.mem_cons_of_mem _ hq)) ?_
    rw [run_effect hrun hs]
    rcases hqs q List.mem_cons_self with rfl | hkeeps
    · exact Or.inr (effect_dry (Or.inl rfl))
    · rcases hon with hmem | hdry
      · rcases List.mem_cons.mp hmem with rfl | hmem
        · cases hkeeps
        · exact Or.inl hmem
      · exact Or.inr (effect_dry (Or.inr ⟨hkeeps, hdry⟩))

/-! ## Interleaved requests -/

section
variable {ι : Type} [DecidableEq ι]

/-- The accesses of an interleaving that count, each with its request. -/
def accesses (requests : ι → ConfigRequest) (tr : List (ι × Ev)) : List (ι × ConfigOp) :=
  (weave tr fun i => (requests i).counted (only i tr)).filterMap fun x => x.2.2.map (x.1, ·)

theorem accesses_only (requests : ι → ConfigRequest) (tr : List (ι × Ev)) (i : ι) :
    only i (accesses requests tr) = opsOf ((requests i).counted (only i tr)) := by
  have hspec := weave_spec Prod.fst fun i => ((requests i).counted_spec (only i tr)).1
  unfold accesses opsOf
  rw [only_filterMap, hspec.2]

theorem accesses_path (requests : ι → ConfigRequest) {tr : List (ι × Ev)} {w w' : World}
    (hs : Steps (step .goodDb) w (tr.map Prod.snd) w') :
    Path ConfigOp.Step w.configRows ((accesses requests tr).map Prod.snd) w'.configRows := by
  have hspec := weave_spec Prod.fst fun i => ((requests i).counted_spec (only i tr)).1
  have hops : (accesses requests tr).map Prod.snd =
      (((weave tr fun i => (requests i).counted (only i tr)).map Prod.snd).filterMap Prod.snd) := by
    unfold accesses
    rw [List.map_filterMap, List.filterMap_map]
    refine List.filterMap_congr fun x _ => ?_
    cases hx : x.2.2 <;> simp [hx]
  have hevents : ((weave tr fun i => (requests i).counted (only i tr)).map Prod.snd).map Prod.fst =
      tr.map Prod.snd := by
    have h := congrArg (List.map Prod.snd) hspec.1
    rw [List.map_map] at h
    rw [List.map_map]
    exact h
  rw [hops]
  refine path_of_steps (fun x hx => ?_) (by rwa [hevents])
  obtain ⟨⟨i, x⟩, hix, rfl⟩ := List.mem_map.mp hx
  have hmem := mem_only.mpr hix
  rw [hspec.2] at hmem
  exact ((requests i).counted_spec _).2 x hmem

/-- Requests whose accesses lead from the rows one after the other can run one after the other. -/
theorem serial_of_path (requests : ι → ConfigRequest) {tr : List (ι × Ev)} {w m : World}
    {out : ι → Except PyErr AutomationConfig} (hruns : ∀ i, (requests i).run.Run (only i tr) (out i))
    (hans : ∀ i, ∀ ev ∈ only i tr, Answered w ev) (order : List ι) (hm : SameElsewhere w m) {r' : ConfigRows}
    (h : Path ConfigOp.Step m.configRows (order.flatMap fun i => opsOf ((requests i).counted (only i tr))) r') :
    ∃ w', SerialRun m (order.map requests) w' ∧ w'.configRows = r' := by
  induction order generalizing m with
  | nil => exact ⟨m, rfl, h.symm⟩
  | cons i order ih =>
    obtain ⟨r, hi, hrest⟩ := path_append.mp h
    have heffect := counted_effect (hruns i) (hans i) hi
    obtain ⟨t, o, n, hrun, hs, hn⟩ := run_exists (requests i) (clockOf (only i tr)) m
    have hsame := (answered_steps ((run_configures (requests i)).of_run hrun) hm hs).2
    have hrows : n.configRows = r := by
      rw [hn, ready_congr hm, heffect]
    rw [← hrows] at hrest
    obtain ⟨w', hserial, hw'⟩ := ih hsame hrest
    exact ⟨w', ⟨t, o, n, hrun, hs, hserial⟩, hw'⟩

/-- An interleaving whose accesses agree with an order of the requests leaves the rows of that serial
order, and requests that were not asked to change dry-run do not undo a request that switched it on. -/
theorem config_requests_serialisable (requests : ι → ConfigRequest) {w w' : World} {tr : List (ι × Ev)}
    {out : ι → Except PyErr AutomationConfig}
    (hrun : PoolRun (step .goodDb) w (fun i => (requests i).run) tr w' out) {order : List ι} (hnodup : order.Nodup)
    (hall : ∀ i, i ∈ order) (horder : InOrder ConfigOp.Conflicts order (accesses requests tr)) :
    (∃ w'', SerialRun w (order.map requests) w'' ∧ w''.configRows = w'.configRows) ∧
      ∀ i, requests i = .dryRun true → (∀ j, requests j = .dryRun true ∨ (requests j).keepsDryRun = true) →
        w'.configRows.dry = true := by
  obtain ⟨hruns, hs⟩ := (poolRun_iff _ _ _ _ _ _).mp hrun
  have hops : ∀ ev ∈ tr.map Prod.snd, ev.1.configures = true := by
    intro ev hev
    obtain ⟨⟨i, ev⟩, hi, rfl⟩ := List.mem_map.mp hev
    exact (run_configures (requests i)).of_run (hruns i) ev (mem_only.mpr hi)
  obtain ⟨hans, -⟩ := answered_steps hops (sameElsewhere_refl w) hs
  have hpath := path_serial ConfigOp.commute hnodup (fun x _ => hall x.1) horder (accesses_path requests hs)
  simp only [accesses_only] at hpath
  obtain ⟨w'', hserial, hrows⟩ := serial_of_path requests hruns
    (fun i ev hev => hans ev (List.mem_map.mpr ⟨(i, ev), mem_only.mp hev, rfl⟩)) order (sameElsewhere_refl w) hpath
  refine ⟨⟨w'', hserial, hrows⟩, fun i hi hkeeps => ?_⟩
  rw [← hrows]
  refine serial_dry hserial (fun q hq => ?_) (Or.inl (List.mem_map.mpr ⟨i, hall i, hi⟩))
  obtain ⟨j, -, rfl⟩ := List.mem_map.mp hq
  exact hkeeps j

end

instance (a b : ConfigOp) : Decidable (a.Conflicts b) :=
  inferInstanceAs (Decidable (a.setting = b.setting ∧ (a.isWrite = true ∨ b.isWrite = true)))

instance (order : List Bool) (tr : List (Bool × ConfigOp)) : Decidable (InOrder ConfigOp.Conflicts order tr) :=
  inferInstanceAs (Decidable (List.Pairwise
    (fun x y => x.1 ≠ y.1 → ConfigOp.Conflicts x.2 y.2 → [x.1, y.1].Sublist order) tr))

/-- An automation is deleted while dry-run is switched on. -/
def deleteAndSwitch : Bool → ConfigRequest
  | true => .delete "r1"
  | false => .dryRun true

/-- The delete request takes `n` effects, then the other request runs, then the delete request goes on. -/
def deleteRun (n : Nat) :=
  execPool World.answer (List.replicate n true ++ List.replicate 4 false ++ List.replicate 9 true)
    (mondayWorld "false") fun i => (deleteAndSwitch i).run

theorem deleteRun_runs (n : Nat) (h : ∀ i, ((deleteRun n).2.2 i).returns (fun _ => true) = true) :
    ∃ out, PoolRun (step .goodDb) (mondayWorld "false") (fun i => (deleteAndSwitch i).run)
      (deleteRun n).1 (deleteRun n).2.1 out := by
  unfold deleteRun at h ⊢
  exact execPool_returns (step .goodDb) World.answer World.answer_goodDb _ _ _ h

/-- The switch comes before the delete request reads it. -/
theorem config_requests_serialisable_early : (deleteRun 1).2.1.configRows.dry = true := by
  obtain ⟨out, hrun⟩ := deleteRun_runs 1 (by decide +kernel)
  have horder : InOrder ConfigOp.Conflicts [false, true] (accesses deleteAndSwitch (deleteRun 1).1) := by
    decide +kernel
  exact (config_requests_serialisable deleteAndSwitch hrun (by decide) (by decide) horder).2 false rfl
    (by rintro (_ | _) <;> simp [deleteAndSwitch, ConfigRequest.keepsDryRun])

/-- After it the delete request switches dry-run off again, as in no serial order. -/
theorem delete_undoes_dry_run :
    (deleteRun 3).2.1.configRows.dry = false ∧
      ¬ ∀ (requests : Bool → ConfigRequest) (w w' : World) (tr : List (Bool × Ev))
        (out : Bool → Except PyErr AutomationConfig),
        PoolRun (step .goodDb) w (fun i => (requests i).run) tr w' out →
        ∃ order : List Bool, order.Nodup ∧ (∀ i, i ∈ order) ∧
          ∃ w'', SerialRun w (order.map requests) w'' ∧ w''.configRows = w'.configRows := by
  have hundone : (deleteRun 3).2.1.configRows.dry = false := by
    decide +kernel
  refine ⟨hundone, fun h => ?_⟩
  obtain ⟨out, hrun⟩ := deleteRun_runs 3 (by decide +kernel)
  obtain ⟨order, -, hall, w'', hserial, hrows⟩ := h _ _ _ _ _ hrun
  have hdry := serial_dry hserial (fun q hq => by
    obtain ⟨i, -, rfl⟩ := List.mem_map.mp hq
    cases i
    · exact Or.inl rfl
    · exact Or.inr rfl) (Or.inl (List.mem_map.mpr ⟨false, hall false, rfl⟩))
  rw [hrows, hundone] at hdry
  cases hdry

end LuxMon
