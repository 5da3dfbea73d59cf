import LuxMon.Automation.Endpoints

/-!
# What is stored is read back

A stored automation goes through `from_dict` and `to_dict` on every request that
changes the list: nothing may be lost on the way.

    what a save stored is a fixed point of load and save     (storage_round_trip)
-/

namespace LuxMon

open Python Effects Prog World

/-- `save(load())`. -/
def resave : Py Unit := do
  let automations ← load
  save automations

section
variable {w : World} {as : List Automation}

/-- The automations of the stored document. -/
theorem load_goodDb (w : World) : Ensures (step .goodDb) w load fun _ out w' =>
    w' = w ∧ out = .ok (loadedAutomations (.ok (w.documents SETTING_AUTOMATIONS))) := by
  rintro tr out w' ⟨x, t₁, rfl, rfl, rfl⟩ ⟨w₁, ⟨rfl, hx⟩, rfl⟩
  obtain rfl := selects_goodDb hx
  exact ⟨rfl, rfl⟩

theorem save_goodDb (as : List Automation) (w : World) :
    Ensures (step .goodDb) w (save as) fun _ out w' => out = .ok () ∧ w' = w.storeAutomations as := by
  rintro tr out w' ⟨x, t₁, rfl, rfl, rfl⟩ ⟨w₁, h₁, rfl⟩
  exact ⟨rfl, stores_goodDb h₁⟩

/-- The document written by `save` is stored. -/
theorem storeAutomations_of_stored
    (h : w.documents SETTING_AUTOMATIONS = some (some (.arr (as.map Automation.toDict)))) :
    w.storeAutomations as = w := by
  have hdocuments : Function.update w.documents SETTING_AUTOMATIONS
      (some (some (.arr (as.map Automation.toDict)))) = w.documents := by
    rw [← h, Function.update_eq_self]
  show { w with documents := _ } = w
  rw [hdocuments]

/-- The switches are stored. -/
theorem storeSwitches_of_stored {enabled dryRun : String} (henabled : w.settings SETTING_ENABLED = some enabled)
    (hdryRun : w.settings SETTING_DRY_RUN = some dryRun) : w.storeSwitches enabled dryRun = w := by
  have hsettings : Function.update (Function.update w.settings SETTING_ENABLED (some enabled)) SETTING_DRY_RUN
      (some dryRun) = w.settings := by
    rw [← henabled, Function.update_eq_self, ← hdryRun, Function.update_eq_self]
  show { w with settings := _ } = w
  rw [hsettings]

theorem resave_stored (h : w.documents SETTING_AUTOMATIONS = some (some (.arr (as.map Automation.toDict)))) :
    Ensures (step .goodDb) w resave fun _ out w' => out = .ok () ∧ w' = w := by
  refine (load_goodDb w).bind ?_ ?_
  · rintro t loaded m ⟨rfl, hloaded⟩
    rw [h, loadedAutomations_stored] at hloaded
    obtain rfl := Except.ok.inj hloaded
    refine (save_goodDb loaded m).mono fun _ out w' hsaved => ⟨hsaved.1, ?_⟩
    rw [hsaved.2, storeAutomations_of_stored h]
  · rintro t x m ⟨-, hloaded⟩
    cases hloaded

/-- The configuration that `load_dict` returned is saved without a change. -/
theorem saveDict_stored {enabled dryRun : Bool} (henabled : w.settings SETTING_ENABLED = some (boolText enabled))
    (hdryRun : w.settings SETTING_DRY_RUN = some (boolText dryRun))
    (h : w.documents SETTING_AUTOMATIONS = some (some (.arr (as.map Automation.toDict)))) :
    Ensures (step .goodDb) w (saveDict ⟨enabled, dryRun, as.map Automation.toDict⟩) fun _ out w' =>
      out = .ok () ∧ w' = w := by
  refine (saveDict_goodDb _ w).mono ?_
  rintro t out w' (⟨bs, hparse, rfl, rfl⟩ | ⟨x, hparse, -, -⟩)
  · rw [mapM_toDict Automation.fromDict_toDict] at hparse
    obtain rfl := Except.ok.inj hparse
    refine ⟨rfl, ?_⟩
    rw [storeSwitches_of_stored henabled hdryRun, storeAutomations_of_stored h]
  · rw [mapM_toDict Automation.fromDict_toDict] at hparse
    cases hparse

end

/-- Reading back is the inverse of writing, and what an accepted save stored stays as it is
when it is loaded and saved again: by the engine, or with the configuration returned. -/
theorem storage_round_trip :
    (∀ a : Automation, Automation.fromDict a.toDict = .ok a) ∧
      ∀ body w, Ensures (step .goodDb) w (apiAutomationRulesSave body) fun _ out w' =>
        ∀ config, out = .ok config →
          (∃ as, body.automations.mapM Automation.fromDict = .ok as ∧
            w'.documents SETTING_AUTOMATIONS = some (some (.arr (as.map Automation.toDict)))) ∧
          Ensures (step .goodDb) w' resave (fun _ out' w'' => out' = .ok () ∧ w'' = w') ∧
          Ensures (step .goodDb) w' (saveDict config) (fun _ out' w'' => out' = .ok () ∧ w'' = w') := by
  refine ⟨Automation.fromDict_toDict, fun body w => (apiAutomationRulesSave_goodDb body w).mono ?_⟩
  rintro t out w' (⟨as, hparse, rfl, rfl⟩ | ⟨x, -, rfl, -⟩) config hout
  · have hstored := storeAutomations_documents (w.storeSwitches (boolText body.enabled) (boolText body.globalDryRun)) as
    obtain rfl := Except.ok.inj hout
    rw [automationConfig_saved]
    refine ⟨⟨as, hparse, hstored⟩, resave_stored hstored, saveDict_stored ?_ ?_ hstored⟩
    · rw [storeAutomations_settings, storeSwitches_enabled]
    · rw [storeAutomations_settings, storeSwitches_dryRun]
  · cases hout

end LuxMon
