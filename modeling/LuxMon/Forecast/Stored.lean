import LuxMon.Forecast.Refresh

/-!
# The stored forecast

What any number of refreshes leaves in the table, and `/api/forecast`, which reads a
window of it.

    each stored row is one made of a fetched weather, its prediction untouched and its
      correction a ratio between 0 and 3, and the last one stored for its hour   (refreshes_stored)
    the past is fetched only when no stored row is of the past                   (backfill_when_empty)
    the window shows the last stored rows, each hour once, in order              (forecast_window)
-/

namespace LuxMon.Forecast

open Python Effects

/-! ## Where rows come from -/

/-- A row before correction, made of a weather that these events fetched. -/
inductive Assembled (tr : List ForecastEvent) (cfg : ForecastConfig) (row : ForecastDraft) : Prop
  | live (w : Weather) (irradiance : Option (List ℚ)) (rows : List ForecastDraft)
      (hfetched : ⟨.fetchOpenMeteo cfg, some w⟩ ∈ tr)
      (hsun : ⟨.planeOfArray cfg (upTo cfg.hours w.times), irradiance⟩ ∈ tr)
      (hrows : assembleRows cfg irradiance (upTo cfg.hours w.times)
        (upTo cfg.hours (orNones w.times.length w.cloudCover)) (upTo cfg.hours (orNones w.times.length w.shortwave))
        cfg.provider = .ok rows)
      (hrow : row ∈ rows)
  | past (startDay endDay : ℤ) (w : Weather) (irradiance : Option (List ℚ)) (rows : List ForecastDraft)
      (hfetched : ⟨.fetchOpenMeteoArchive cfg startDay endDay, some w⟩ ∈ tr)
      (hsun : ⟨.planeOfArray cfg w.times, irradiance⟩ ∈ tr)
      (hrows : assembleRows cfg irradiance w.times (orNones w.times.length w.cloudCover)
        (orNones w.times.length w.shortwave) "open-meteo-archive" = .ok rows)
      (hrow : row ∈ rows)

/-- The row as it is stored: as assembled, or with a correction by a ratio between 0 and 3. -/
def Corrects (row stored : ForecastDraft) : Prop :=
  stored = row ∨ ∃ ratio : ℚ, 0 ≤ ratio ∧ ratio ≤ 3 ∧
    stored = { row with correctedWatts := some (row.predictedWatts.mulBy ratio).round1 }

/-- A row made of the weather, for some settings that these events read. -/
def Made (tr : List ForecastEvent) (stored : ForecastDraft) : Prop :=
  ∃ settings cfg row, ⟨.readDbSettings, some settings⟩ ∈ tr ∧ forecastConfig settings = .ok cfg ∧
    Assembled tr cfg row ∧ Corrects row stored

theorem Assembled.mono {tr tr' : List ForecastEvent} {cfg : ForecastConfig} {row : ForecastDraft}
    (h : Assembled tr cfg row) (hsub : tr ⊆ tr') : Assembled tr' cfg row := by
  cases h with
  | live w irradiance rows hfetched hsun hrows hrow =>
    exact .live w irradiance rows (hsub hfetched) (hsub hsun) hrows hrow
  | past startDay endDay w irradiance rows hfetched hsun hrows hrow =>
    exact .past startDay endDay w irradiance rows (hsub hfetched) (hsub hsun) hrows hrow

theorem Made.mono {tr tr' : List ForecastEvent} {stored : ForecastDraft} (h : Made tr stored) (hsub : tr ⊆ tr') :
    Made tr' stored := by
  obtain ⟨settings, cfg, row, hread, hcfg, hrow, hcorrects⟩ := h
  exact ⟨settings, cfg, row, hsub hread, hcfg, hrow.mono hsub, hcorrects⟩

/-- The row that a statement is to store. -/
def ForecastOp.upserted : ForecastOp → Option ForecastDraft
  | .upsert row => some row
  | _ => none

/-- Every row that these events store satisfies `P`. -/
def Stores (P : ForecastDraft → Prop) (tr : List ForecastEvent) : Prop :=
  ∀ ev ∈ tr, ∀ row, ev.1.upserted = some row → P row

section
variable {P Q : ForecastDraft → Prop} {t u : List ForecastEvent}

theorem Stores.append (ht : Stores P t) (hu : Stores P u) : Stores P (t ++ u) := fun ev hev =>
  (List.mem_append.mp hev).elim (ht ev) (hu ev)

theorem Stores.mono (h : Stores P t) (hP : ∀ row, P row → Q row) : Stores Q t :=
  fun ev hev row hrow => hP row (h ev hev row hrow)

theorem stores_of_none (h : ∀ ev ∈ t, ev.1.upserted = none) : Stores P t := by
  intro ev hev row hrow
  rw [h ev hev] at hrow
  cases hrow

end

section
variable {t : ForecastTable}

theorem asks_upsertRows (rows : List ForecastDraft) :
    (upsertRows rows).Asks fun op => ∃ row ∈ rows, op = .upsert row := by
  induction rows with
  | nil => trivial
  | cons row rows ih =>
    refine Prog.asks_bind ((Prog.asks_perform _).mpr ⟨row, List.mem_cons_self, rfl⟩) fun r => ?_
    refine Prog.asks_bind (Prog.asks_ofExcept _) fun _ => ih.mono ?_
    rintro op ⟨row', hrow', rfl⟩
    exact ⟨row', List.mem_cons_of_mem _ hrow', rfl⟩

theorem asks_storeInflux (rows : List ForecastDraft) : (storeInflux rows).Asks fun op => op = .storeInflux rows :=
  Prog.asks_tryCatch ⟨rfl, fun _ => Prog.asks_ofExcept _⟩ fun _ => trivial

/-- What `store_forecast` asks for. -/
def ForecastOp.Storing (rows : List ForecastDraft) (op : ForecastOp) : Prop :=
  op = .ensureTable ∨ op = .storeInflux rows ∨ ∃ row ∈ rows, op = .upsert row

theorem asks_storeForecast (influx : Bool) (rows : List ForecastDraft) :
    (storeForecast influx rows).Asks (ForecastOp.Storing rows) := by
  unfold storeForecast
  split_ifs
  · trivial
  · refine Prog.asks_bind ((Prog.asks_perform _).mpr (Or.inl rfl)) fun r => ?_
    refine Prog.asks_bind (Prog.asks_ofExcept _) fun _ => ?_
    refine Prog.asks_bind ((asks_upsertRows rows).mono fun op h => Or.inr (Or.inr h)) fun _ => ?_
    exact Prog.asks_bind ((asks_storeInflux rows).mono fun op h => Or.inr (Or.inl h)) fun _ => trivial
  · refine Prog.asks_bind ((Prog.asks_perform _).mpr (Or.inl rfl)) fun r => ?_
    refine Prog.asks_bind (Prog.asks_ofExcept _) fun _ => ?_
    exact Prog.asks_bind ((asks_upsertRows rows).mono fun op h => Or.inr (Or.inr h)) fun _ => trivial

/-- The weather of the past is asked for. -/
def ForecastOp.fetchesArchive : ForecastOp → Bool
  | .fetchOpenMeteoArchive _ _ _ => true
  | _ => false

/-- The weather of the past is asked for only right after no row of the past was counted. -/
def Guarded (tr : List ForecastEvent) : Prop :=
  ∀ pre ev post, tr = pre ++ ev :: post → ev.1.fetchesArchive = true →
    ∃ before today, pre = before ++ [⟨.countArchive, .ok 0⟩, ⟨.utcToday, today⟩]

theorem Guarded.append {t u : List ForecastEvent} (ht : Guarded t) (hu : Guarded u) : Guarded (t ++ u) := by
  intro pre ev post hsplit hev
  rcases List.append_eq_append_iff.mp hsplit with ⟨c, rfl, hu'⟩ | ⟨c, hpre, hpost⟩
  · obtain ⟨before, today, rfl⟩ := hu c ev post hu' hev
    exact ⟨t ++ before, today, by rw [List.append_assoc]⟩
  · cases c with
    | nil =>
      rw [List.append_nil] at hpre
      subst hpre
      obtain ⟨before, today, h⟩ := hu [] ev post hpost.symm hev
      exact absurd h (by simp)
    | cons x c =>
      obtain ⟨rfl, -⟩ := List.cons.inj hpost
      exact ht pre ev c hpre hev

theorem guarded_of_none {t : List ForecastEvent} (h : ∀ ev ∈ t, ev.1.fetchesArchive = false) : Guarded t := by
  rintro pre ev post rfl hev
  rw [h ev (by simp)] at hev
  cases hev

/-- Nothing is stored, and no weather of the past asked for. -/
def ForecastOp.Quiet (op : ForecastOp) : Prop := op.upserted = none ∧ op.fetchesArchive = false

def Quiet (tr : List ForecastEvent) : Prop := ∀ ev ∈ tr, ev.1.Quiet

theorem Quiet.nil : Quiet [] := fun _ hev => (List.not_mem_nil hev).elim

theorem Quiet.cons {ev : ForecastEvent} {tr : List ForecastEvent} (hev : ev.1.Quiet) (h : Quiet tr) : Quiet (ev :: tr) :=
  List.forall_mem_cons.mpr ⟨hev, h⟩

theorem Quiet.guarded {tr : List ForecastEvent} (h : Quiet tr) : Guarded tr := guarded_of_none fun ev hev => (h ev hev).2

theorem Quiet.stores {P : ForecastDraft → Prop} {tr : List ForecastEvent} (h : Quiet tr) : Stores P tr :=
  stores_of_none fun ev hev => (h ev hev).1

theorem assemble_run {cfg : ForecastConfig} {times : List ℤ} {cloud shortwave : List (Option ℚ)} {source : String}
    {tr : List ForecastEvent} {out : Except PyErr (List ForecastDraft)}
    (h : (assemble cfg times cloud shortwave source).Run tr out) :
    ∃ irradiance, tr = [⟨.planeOfArray cfg times, irradiance⟩] ∧
      out = assembleRows cfg irradiance times cloud shortwave source := by
  obtain ⟨irradiance, t, rfl, hrest⟩ := h
  obtain ⟨rfl, rfl⟩ := (Prog.run_ofExcept _ _ _).mp hrest
  exact ⟨irradiance, rfl, rfl⟩

theorem buildForecast_run {cfg : ForecastConfig} {tr : List ForecastEvent}
    {out : Except PyErr (Option (List ForecastDraft))} (h : (buildForecast cfg).Run tr out) :
    Quiet tr ∧ ∀ rows, out = .ok (some rows) → ∀ row ∈ rows, Assembled tr cfg row := by
  obtain ⟨weather, t, rfl, hrest⟩ := h
  have hquiet : ForecastOp.Quiet (.fetchOpenMeteo cfg) := ⟨rfl, rfl⟩
  cases weather with
  | none =>
    obtain ⟨rfl, rfl⟩ := hrest
    exact ⟨Quiet.nil.cons hquiet, fun rows hrows => by cases hrows⟩
  | some w =>
    change Prog.Run (if w.times.isEmpty then _ else _) _ _ at hrest
    split_ifs at hrest
    · obtain ⟨rfl, rfl⟩ := hrest
      exact ⟨Quiet.nil.cons hquiet, fun rows hrows => by cases hrows⟩
    · rcases (Prog.run_bind _ _ _ _).mp hrest with ⟨rows, t₁, t₂, rfl, hrows, hret⟩ | ⟨e, rfl, hraise⟩
      · obtain ⟨irradiance, rfl, heq⟩ := assemble_run hrows
        obtain ⟨rfl, rfl⟩ := hret
        refine ⟨.cons hquiet (Quiet.nil.cons ⟨rfl, rfl⟩), fun rows' hrows' row hrow => ?_⟩
        cases hrows'
        exact .live w irradiance rows (by simp) (by simp) heq.symm hrow
      · obtain ⟨irradiance, rfl, -⟩ := assemble_run hraise
        exact ⟨.cons hquiet (Quiet.nil.cons ⟨rfl, rfl⟩), fun rows hrows => by cases hrows⟩

theorem storeForecast_run {influx : Bool} {rows : List ForecastDraft} {tr : List ForecastEvent} {out : Except PyErr ℕ}
    (h : (storeForecast influx rows).Run tr out) :
    Stores (· ∈ rows) tr ∧ ∀ ev ∈ tr, ev.1.fetchesArchive = false := by
  have hasks := (asks_storeForecast influx rows).of_run h
  constructor
  · intro ev hev row hrow
    rcases hasks ev hev with hop | hop | ⟨row', hrow', hop⟩
    · rw [hop] at hrow
      cases hrow
    · rw [hop] at hrow
      cases hrow
    · rw [hop] at hrow
      cases hrow
      exact hrow'
  · intro ev hev
    rcases hasks ev hev with hop | hop | ⟨row', -, hop⟩ <;> rw [hop] <;> rfl

/-- A row made of the weather of these events, with these settings. -/
def MadeWith (cfg : ForecastConfig) (tr : List ForecastEvent) (stored : ForecastDraft) : Prop :=
  ∃ row, Assembled tr cfg row ∧ Corrects row stored

theorem storePast_run {influx : Bool} {cfg : ForecastConfig} {w : Weather} {tr : List ForecastEvent}
    {out : Except PyErr ℕ} (h : (storePast influx cfg w).Run tr out) :
    (∀ ev ∈ tr, ev.1.fetchesArchive = false) ∧ Stores (fun row => ∃ irradiance rows,
      ⟨.planeOfArray cfg w.times, irradiance⟩ ∈ tr ∧ assembleRows cfg irradiance w.times
        (orNones w.times.length w.cloudCover) (orNones w.times.length w.shortwave) "open-meteo-archive" = .ok rows ∧
      row ∈ rows) tr := by
  unfold storePast at h
  split_ifs at h
  · obtain ⟨rfl, rfl⟩ := h
    exact ⟨by simp, Quiet.nil.stores⟩
  · rcases (Prog.run_bind _ _ _ _).mp h with ⟨rows, t₁, t₂, rfl, hrows, hstore⟩ | ⟨e, rfl, hraise⟩
    · obtain ⟨irradiance, rfl, heq⟩ := assemble_run hrows
      obtain ⟨hstores, hfetch⟩ := storeForecast_run hstore
      refine ⟨List.forall_mem_cons.mpr ⟨rfl, hfetch⟩, ?_⟩
      exact .append (Quiet.nil.cons ⟨rfl, rfl⟩).stores
        (hstores.mono fun row hrow => ⟨irradiance, rows, by simp, heq.symm, hrow⟩)
    · obtain ⟨irradiance, rfl, -⟩ := assemble_run hraise
      exact ⟨by simp [ForecastOp.fetchesArchive], (Quiet.nil.cons ⟨rfl, rfl⟩).stores⟩

theorem backfillHistorical_run {influx : Bool} {cfg : ForecastConfig} {tr : List ForecastEvent} {out : Except PyErr ℕ}
    (h : (backfillHistorical influx cfg).Run tr out) :
    Stores (MadeWith cfg tr) tr ∧ ∃ today rest, tr = ⟨.utcToday, today⟩ :: rest ∧
      ∀ ev ∈ rest.tail, ev.1.fetchesArchive = false := by
  obtain ⟨today, t, rfl, hrest⟩ := h
  change Prog.Run (Prog.ofExcept (minusDays today 1) >>= _) _ _ at hrest
  cases hend : minusDays today 1 with
  | error e =>
    rw [hend] at hrest
    obtain ⟨rfl, rfl⟩ := hrest
    exact ⟨Quiet.stores (Quiet.nil.cons ⟨rfl, rfl⟩), today, [], rfl, by simp⟩
  | ok endDay =>
    rw [hend] at hrest
    change Prog.Run (Prog.ofExcept (minusDays endDay (cfg.biasLookbackDays - 1)) >>= _) _ _ at hrest
    cases hstart : minusDays endDay (cfg.biasLookbackDays - 1) with
    | error e =>
      rw [hstart] at hrest
      obtain ⟨rfl, rfl⟩ := hrest
      exact ⟨Quiet.stores (Quiet.nil.cons ⟨rfl, rfl⟩), today, [], rfl, by simp⟩
    | ok startDay =>
      rw [hstart] at hrest
      obtain ⟨weather, t, rfl, hrest⟩ := hrest
      have hhead : Stores (MadeWith cfg []) [⟨.utcToday, today⟩, ⟨.fetchOpenMeteoArchive cfg startDay endDay, weather⟩] :=
        stores_of_none (by simp [ForecastOp.upserted])
      cases weather with
      | none =>
        obtain ⟨rfl, rfl⟩ := hrest
        exact ⟨stores_of_none (by simp [ForecastOp.upserted]), today, _, rfl, by simp⟩
      | some w =>
        obtain ⟨hfetch, hstores⟩ := storePast_run hrest
        refine ⟨?_, today, _, rfl, hfetch⟩
        refine Stores.append (t := [_, _]) (stores_of_none (by simp [ForecastOp.upserted])) (hstores.mono ?_)
        rintro row ⟨irradiance, rows, hsun, hrows, hrow⟩
        exact ⟨row, .past startDay endDay w irradiance rows (by simp) (by simp [hsun]) hrows hrow, Or.inl rfl⟩

theorem MadeWith.mono {cfg : ForecastConfig} {t u : List ForecastEvent} {row : ForecastDraft} (h : MadeWith cfg t row)
    (hsub : t ⊆ u) : MadeWith cfg u row := by
  obtain ⟨draft, hdraft, hcorrects⟩ := h
  exact ⟨draft, hdraft.mono hsub, hcorrects⟩

/-- The backfill stores rows of the past, and asks for them only when none was counted. -/
theorem backfill_run {influx : Bool} {cfg : ForecastConfig} {tr : List ForecastEvent} {out : Except PyErr Unit}
    (h : (backfill influx cfg).Run tr out) : Guarded tr ∧ Stores (MadeWith cfg tr) tr := by
  unfold backfill at h
  split_ifs at h
  · obtain ⟨(count : Except PyErr ℕ), t, rfl, hrest⟩ := h
    have hcount : Quiet [⟨.countArchive, count⟩] := Quiet.nil.cons ⟨rfl, rfl⟩
    cases count with
    | error e =>
      obtain ⟨rfl, rfl⟩ := hrest
      exact ⟨hcount.guarded, hcount.stores⟩
    | ok n =>
      change Prog.Run (if !decide (0 < n) then _ else _) _ _ at hrest
      split_ifs at hrest with hn
      · obtain rfl : n = 0 := by simpa using hn
        -- whether it returns or raises, the backfill has run
        have hrun : ∃ out', (backfillHistorical influx cfg).Run t out' := by
          rcases (Prog.run_tryCatch _ _ _ _).mp hrest with ⟨_, -, hok⟩ | ⟨e, t₁, t₂, rfl, herr, hret⟩
          · obtain ⟨k, t₁, t₂, rfl, hrun, rfl, -⟩ := (Prog.run_bind_ok _ _ _ _).mp hok
            exact ⟨_, by rwa [List.append_nil]⟩
          · obtain ⟨rfl, -⟩ := hret
            rcases (Prog.run_bind _ _ _ _).mp herr with ⟨_, _, _, -, -, -, hno⟩ | ⟨e', -, hrun⟩
            · cases hno
            · exact ⟨_, by rwa [List.append_nil]⟩
        obtain ⟨out', hrun⟩ := hrun
        obtain ⟨hstores, today, rest, rfl, hfetch⟩ := backfillHistorical_run hrun
        refine ⟨?_, .append (t := [_]) hcount.stores (hstores.mono fun row hrow => hrow.mono (List.subset_cons_self _ _))⟩
        intro pre ev post hsplit hev
        rcases pre with _ | ⟨x, _ | ⟨y, _ | ⟨z, pre⟩⟩⟩
        · obtain ⟨rfl, -⟩ := List.cons.inj hsplit
          cases hev
        · obtain ⟨rfl, -⟩ := List.cons.inj (List.cons.inj hsplit).2
          cases hev
        · obtain ⟨rfl, hnext⟩ := List.cons.inj hsplit
          obtain ⟨rfl, -⟩ := List.cons.inj hnext
          exact ⟨[], today, rfl⟩
        · obtain ⟨-, rfl⟩ := List.cons.inj (List.cons.inj hsplit).2
          rw [hfetch ev (by simp)] at hev
          cases hev
      · obtain ⟨rfl, rfl⟩ := hrest
        exact ⟨hcount.guarded, hcount.stores⟩
  · obtain ⟨rfl, rfl⟩ := h
    exact ⟨Quiet.nil.guarded, Quiet.nil.stores⟩

theorem asks_biasMap (cfg : ForecastConfig) : (biasMap cfg).Asks ForecastOp.Quiet := by
  unfold biasMap
  refine Prog.asks_bind ((Prog.asks_perform _).mpr ⟨rfl, rfl⟩) fun r => ?_
  refine Prog.asks_bind (Prog.asks_ofExcept _) fun clock => ?_
  refine Prog.asks_bind ((Prog.asks_perform _).mpr ⟨rfl, rfl⟩) fun r => ?_
  refine Prog.asks_bind (Prog.asks_ofExcept _) fun registers => ?_
  refine Prog.asks_bind ((Prog.asks_perform _).mpr ⟨rfl, rfl⟩) fun r => ?_
  exact Prog.asks_bind (Prog.asks_ofExcept _) fun forecast => trivial

theorem biasRatio_bounds {minSamples : ℤ} {actual predicted : List ℚ} {q : ℚ}
    (h : biasRatio minSamples actual predicted = some q) : 0 ≤ q ∧ q ≤ 3 := by
  unfold biasRatio at h
  simp only at h
  split_ifs at h
  cases h
  exact ⟨le_max_left _ _, max_le (by norm_num) (min_le_left _ _)⟩

/-- A bias map as it is returned has ratios between 0 and 3. -/
theorem biasMap_run {cfg : ForecastConfig} {tr : List ForecastEvent} {ratio : BiasKey → Option ℚ}
    (h : (biasMap cfg).Run tr (.ok (some ratio))) (key : BiasKey) (q : ℚ) (hq : ratio key = some q) : 0 ≤ q ∧ q ≤ 3 := by
  unfold biasMap at h
  obtain ⟨clock, t, u, -, -, h⟩ := (Prog.run_bind_ok _ _ _ _).mp h
  obtain ⟨_, t, u, -, -, h⟩ := (Prog.run_bind_ok _ _ _ _).mp h
  obtain ⟨_, t, u, -, -, h⟩ := (Prog.run_bind_ok _ _ _ _).mp h
  obtain ⟨registers, t, u, -, -, h⟩ := (Prog.run_bind_ok _ _ _ _).mp h
  obtain ⟨_, t, u, -, -, h⟩ := (Prog.run_bind_ok _ _ _ _).mp h
  obtain ⟨forecast, t, u, -, -, -, h⟩ := (Prog.run_bind_ok _ _ _ _).mp h
  have hratio := Except.ok.inj h
  unfold biasRatios at hratio
  simp only at hratio
  split_ifs at hratio
  cases hratio
  exact biasRatio_bounds hq

theorem corrects_correctRow {ratio : BiasKey → Option ℚ} (hratio : ∀ key q, ratio key = some q → 0 ≤ q ∧ q ≤ 3)
    (row : ForecastDraft) : Corrects row (correctRow ratio row) := by
  right
  unfold correctRow
  cases h : ratio (hourOfDay (hourOf row.ts), cloudBucket row.cloudCover) with
  | none =>
    refine ⟨1, by norm_num, by norm_num, ?_⟩
    have hone : row.predictedWatts.mulBy 1 = row.predictedWatts := by
      cases row.predictedWatts <;> simp [PyFloat.mulBy]
    rw [hone]
  | some q =>
    obtain ⟨hlow, hhigh⟩ := hratio _ q h
    exact ⟨q, hlow, hhigh, rfl⟩

theorem calibrate_run {cfg : ForecastConfig} {rows : List ForecastDraft} {tr : List ForecastEvent}
    {out : Except PyErr (List ForecastDraft)} (h : (calibrate cfg rows).Run tr out) :
    Quiet tr ∧ ∀ rows', out = .ok rows' → ∀ stored ∈ rows', ∃ row ∈ rows, Corrects row stored := by
  unfold calibrate at h
  have hsame : ∀ rows', (Except.ok rows : Except PyErr _) = .ok rows' → ∀ stored ∈ rows', ∃ row ∈ rows, Corrects row stored := by
    rintro rows' heq stored hstored
    cases heq
    exact ⟨stored, hstored, Or.inl rfl⟩
  split_ifs at h
  · have hasks : ∀ {t out}, (biasMap cfg).Run t out → Quiet t := fun hrun => (asks_biasMap cfg).of_run hrun
    rcases (Prog.run_tryCatch _ _ _ _).mp h with ⟨rows', rfl, hok⟩ | ⟨e, t, u, rfl, herr, rfl, rfl⟩
    · obtain ⟨ratios, t, u, rfl, hmap, hret⟩ := (Prog.run_bind_ok _ _ _ _).mp hok
      cases ratios with
      | none =>
        obtain ⟨rfl, hret⟩ := hret
        rw [List.append_nil]
        exact ⟨hasks hmap, hret ▸ hsame⟩
      | some ratio =>
        obtain ⟨rfl, hret⟩ := hret
        rw [List.append_nil]
        refine ⟨hasks hmap, fun rows'' heq stored hstored => ?_⟩
        rw [← Except.ok.inj heq, Except.ok.inj hret] at hstored
        obtain ⟨row, hrow, rfl⟩ := List.mem_map.mp hstored
        exact ⟨row, hrow, corrects_correctRow (biasMap_run hmap) row⟩
    · rw [List.append_nil]
      refine ⟨?_, hsame⟩
      rcases (Prog.run_bind _ _ _ _).mp herr with ⟨ratios, t₁, t₂, rfl, hmap, hret⟩ | ⟨e', -, hmap⟩
      · cases ratios with
        | none => cases hret.2
        | some ratio => cases hret.2
      · exact hasks hmap
  · obtain ⟨rfl, rfl⟩ := h
    exact ⟨Quiet.nil, hsame⟩

theorem refresh_run {influx : Bool} {settings : Settings} {tr : List ForecastEvent} {out : Except PyErr (Option ℕ)}
    (h : (refresh influx settings).Run tr out) :
    Guarded tr ∧ Stores (fun row => ∃ cfg, forecastConfig settings = .ok cfg ∧ MadeWith cfg tr row) tr := by
  unfold refresh at h
  cases hcfg : forecastConfig settings with
  | error e =>
    rw [hcfg] at h
    obtain ⟨rfl, rfl⟩ := h
    exact ⟨Quiet.nil.guarded, Quiet.nil.stores⟩
  | ok cfg =>
    rw [hcfg] at h
    change Prog.Run (if !cfg.enabled then _ else _) _ _ at h
    suffices hmade : Guarded tr ∧ Stores (MadeWith cfg tr) tr from
      ⟨hmade.1, hmade.2.mono fun row hrow => ⟨cfg, rfl, hrow⟩⟩
    split_ifs at h
    · obtain ⟨rfl, rfl⟩ := h
      exact ⟨Quiet.nil.guarded, Quiet.nil.stores⟩
    rcases (Prog.run_bind _ _ _ _).mp h with ⟨_, t₁, u₁, rfl, hback, h⟩ | ⟨e, rfl, hraise⟩
    swap
    · exact backfill_run hraise
    obtain ⟨hguarded, hpast⟩ := backfill_run hback
    suffices hlive : Guarded u₁ ∧ Stores (MadeWith cfg u₁) u₁ from
      ⟨hguarded.append hlive.1, .append (hpast.mono fun _ hrow => hrow.mono (List.subset_append_left _ _))
        (hlive.2.mono fun _ hrow => hrow.mono (List.subset_append_right _ _))⟩
    rcases (Prog.run_bind _ _ _ _).mp h with ⟨rows, t₂, u₂, rfl, hbuild, h⟩ | ⟨e, rfl, hraise⟩
    swap
    · exact ⟨(buildForecast_run hraise).1.guarded, (buildForecast_run hraise).1.stores⟩
    obtain ⟨hquiet, hassembled⟩ := buildForecast_run hbuild
    have hdone : Guarded (t₂ ++ []) ∧ Stores (MadeWith cfg (t₂ ++ [])) (t₂ ++ []) := by
      rw [List.append_nil]
      exact ⟨hquiet.guarded, hquiet.stores⟩
    cases rows with
    | none =>
      obtain ⟨rfl, rfl⟩ := h
      exact hdone
    | some rows =>
      change Prog.Run (if rows.isEmpty then _ else _) _ _ at h
      split_ifs at h
      · obtain ⟨rfl, rfl⟩ := h
        exact hdone
      rcases (Prog.run_bind _ _ _ _).mp h with ⟨rows', t₃, u₃, rfl, hcal, h⟩ | ⟨e, rfl, hraise⟩
      swap
      · have hquiet' := (calibrate_run hraise).1
        exact ⟨hquiet.guarded.append hquiet'.guarded, hquiet.stores.append hquiet'.stores⟩
      obtain ⟨hquiet', hcorrects⟩ := calibrate_run hcal
      -- a refused row ends the refresh, and what was stored before it stays
      have hstore : ∃ out', (storeForecast influx rows').Run u₃ out' := by
        rcases (Prog.run_bind _ _ _ _).mp h with ⟨k, t₄, u₄, rfl, hrun, rfl, -⟩ | ⟨e, -, hrun⟩
        · exact ⟨_, by rwa [List.append_nil]⟩
        · exact ⟨_, hrun⟩
      obtain ⟨out', hstore⟩ := hstore
      obtain ⟨hstores, hfetch⟩ := storeForecast_run hstore
      refine ⟨hquiet.guarded.append (hquiet'.guarded.append (guarded_of_none hfetch)),
        hquiet.stores.append (hquiet'.stores.append (hstores.mono fun stored hstored => ?_))⟩
      obtain ⟨row, hrow, hcorrect⟩ := hcorrects rows' rfl stored hstored
      exact ⟨row, (hassembled rows rfl row hrow).mono (List.subset_append_left _ _), hcorrect⟩

theorem refreshWhenDue_run {influx : Bool} {last : ℚ} {tr : List ForecastEvent} {out : Except PyErr ℚ}
    (h : (refreshWhenDue influx last).Run tr out) : Guarded tr ∧ Stores (Made tr) tr := by
  obtain ⟨settings, tr, rfl, h⟩ := h
  have hread : ForecastOp.Quiet .readDbSettings := ⟨rfl, rfl⟩
  have hdone : ∀ {t}, Quiet t → Guarded (⟨.readDbSettings, settings⟩ :: t) ∧
      Stores (Made (⟨.readDbSettings, settings⟩ :: t)) (⟨.readDbSettings, settings⟩ :: t) := fun ht =>
    ⟨(ht.cons hread).guarded, (ht.cons hread).stores⟩
  cases settings with
  | none =>
    obtain ⟨rfl, rfl⟩ := h
    exact hdone Quiet.nil
  | some settings =>
    change Prog.Run (Prog.ofExcept (forecastConfig settings) >>= _) _ _ at h
    cases hcfg : forecastConfig settings with
    | error e =>
      rw [hcfg] at h
      obtain ⟨rfl, rfl⟩ := h
      exact hdone Quiet.nil
    | ok cfg =>
      rw [hcfg] at h
      change Prog.Run (if !cfg.enabled then _ else _) _ _ at h
      split_ifs at h
      · obtain ⟨rfl, rfl⟩ := h
        exact hdone Quiet.nil
      obtain ⟨(now : ℚ), tr, rfl, h⟩ := h
      change Prog.Run (if now - last < cfg.interval then _ else _) _ _ at h
      split_ifs at h
      · obtain ⟨rfl, rfl⟩ := h
        exact hdone (Quiet.nil.cons ⟨rfl, rfl⟩)
      obtain ⟨(conn : Except PyErr Unit), tr, rfl, h⟩ := h
      have hhead : Quiet [⟨.readDbSettings, some settings⟩, ⟨.time, now⟩, ⟨.connect, conn⟩] :=
        .cons hread (.cons ⟨rfl, rfl⟩ (Quiet.nil.cons ⟨rfl, rfl⟩))
      cases conn with
      | error e =>
        obtain ⟨rfl, rfl⟩ := h
        exact ⟨hhead.guarded, hhead.stores⟩
      | ok _ =>
        change Prog.Run (refresh influx settings >>= _) _ _ at h
        have hrun : ∃ out'', (refresh influx settings).Run tr out'' := by
          rcases (Prog.run_bind _ _ _ _).mp h with ⟨_, t, u, rfl, hrun, rfl, -⟩ | ⟨e, -, hrun⟩
          · exact ⟨_, by rwa [List.append_nil]⟩
          · exact ⟨_, hrun⟩
        obtain ⟨out'', hrun⟩ := hrun
        obtain ⟨hguarded, hstores⟩ := refresh_run hrun
        refine ⟨hhead.guarded.append hguarded, .append (t := [_, _, _]) hhead.stores (hstores.mono ?_)⟩
        rintro stored ⟨cfg', hcfg', row, hrow, hcorrects⟩
        exact ⟨settings, cfg', row, by simp, hcfg', hrow.mono (List.subset_append_right [_, _, _] tr), hcorrects⟩

/-- A round. -/
theorem maybeRefreshForecast_run {influx : Bool} {last : ℚ} {tr : List ForecastEvent} {out : Except PyErr ℚ}
    (h : (maybeRefreshForecast influx last).Run tr out) : Guarded tr ∧ Stores (Made tr) tr := by
  rcases (Prog.run_tryCatch _ _ _ _).mp h with ⟨_, -, hok⟩ | ⟨e, t, u, rfl, herr, rfl, -⟩
  · exact refreshWhenDue_run hok
  · rw [List.append_nil]
    exact refreshWhenDue_run herr

/-- Every row that the rounds store was made of a weather that they fetched. -/
theorem refreshRounds_run {influx : Bool} {n : ℕ} {last : ℚ} {tr : List ForecastEvent} {out : Except PyErr ℚ}
    (h : (refreshRounds influx n last).Run tr out) : Guarded tr ∧ Stores (Made tr) tr := by
  induction n generalizing last tr with
  | zero =>
    obtain ⟨rfl, rfl⟩ := h
    exact ⟨Quiet.nil.guarded, Quiet.nil.stores⟩
  | succ n ih =>
    rcases (Prog.run_bind _ _ _ _).mp h with ⟨last', t, u, rfl, hround, hrest⟩ | ⟨e, rfl, hraise⟩
    · obtain ⟨hguarded, hstores⟩ := maybeRefreshForecast_run hround
      obtain ⟨hguarded', hstores'⟩ := ih hrest
      exact ⟨hguarded.append hguarded', .append (hstores.mono fun _ hrow => hrow.mono (List.subset_append_left t u))
        (hstores'.mono fun _ hrow => hrow.mono (List.subset_append_right t u))⟩
    · exact maybeRefreshForecast_run hraise

end

/-! ## The stored forecast -/

section
variable {influx : Bool} {n : ℕ} {last : ℚ} {tr : List ForecastEvent} {out : Except PyErr ℚ} {t t' : ForecastTable}

theorem storedFor_upserted {ts : ℤ} {ev : ForecastEvent} {stored : StoredForecast} (h : storedFor ts ev = some stored) :
    ∃ row, ev.1.upserted = some row ∧ row.ts = ts ∧ row.stored? = some stored := by
  obtain ⟨op, r⟩ := ev
  cases op with
  | upsert row =>
    unfold storedFor at h
    simp only at h
    split_ifs at h with hts
    exact ⟨row, rfl, hts.1, h⟩
  | _ => cases h

/-- Through any rounds, whatever fails, an hour holds what was stored last for it, and everything stored is a row made
of a weather that was fetched: its prediction as it was assembled, whatever was stored before, and its correction that
prediction times a ratio between 0 and 3. -/
theorem refreshes_stored (h : (refreshRounds influx n last).Run tr out) (hs : Steps ForecastTable.step t tr t') (ts : ℤ) :
    t'.get? ts = (tr.filterMap (storedFor ts)).getLast?.or (t.get? ts) ∧
      ∀ stored ∈ tr.filterMap (storedFor ts), ∃ row, Made tr row ∧ row.ts = ts ∧ row.stored? = some stored := by
  refine ⟨ForecastTable.get?_steps hs ts, fun stored hstored => ?_⟩
  obtain ⟨ev, hev, hfor⟩ := List.mem_filterMap.mp hstored
  obtain ⟨row, hrow, hts, hcolumns⟩ := storedFor_upserted hfor
  exact ⟨row, (refreshRounds_run h).2 ev hev row hrow, hts, hcolumns⟩

/-- When the past is asked for, no hour holds a row of the past: each one that was stored has been overwritten. -/
theorem backfill_when_empty (h : (refreshRounds influx n last).Run tr out) (hs : Steps ForecastTable.step t tr t')
    {pre post : List ForecastEvent} {ev : ForecastEvent} (hsplit : tr = pre ++ ev :: post)
    (hev : ev.1.fetchesArchive = true) (ts : ℤ) (stored : StoredForecast)
    (hlast : (pre.filterMap (storedFor ts)).getLast?.or (t.get? ts) = some stored) : stored.isArchive = false := by
  obtain ⟨before, today, rfl⟩ := (refreshRounds_run h).1 pre ev post hsplit hev
  subst hsplit
  obtain ⟨m, hbefore, -⟩ := steps_append.mp hs
  obtain ⟨m₀, hbefore, m₁, ⟨hcount, -⟩, -⟩ := steps_append.mp hbefore
  have hzero : m₀.archiveCount = 0 := (hcount 0 rfl).symm
  have hnone : [⟨.countArchive, .ok 0⟩, ⟨.utcToday, today⟩].filterMap (storedFor ts) = [] := rfl
  rw [List.filterMap_append, hnone, List.append_nil, ← ForecastTable.get?_steps hbefore ts] at hlast
  have hall := List.countP_eq_zero.mp hzero (ts, stored) (Dict.mem_entries.mpr hlast)
  simpa using hall

/-! ## The window -/

/-- The rows of `/api/forecast`, where `now` is what `NOW()` says. -/
def apiForecast (now : ℤ) (hours : ℕ) (t : ForecastTable) : List (ℤ × StoredForecast) :=
  (t.entries.filter fun e => now ≤ e.1 ∧ e.1 < now + hours * 3600).mergeSort fun a b => a.1 ≤ b.1

/-- The hours of a weather are whole. -/
def HourlyWeather (tr : List ForecastEvent) : Prop :=
  (∀ cfg w, ⟨.fetchOpenMeteo cfg, some w⟩ ∈ tr → ∀ ts ∈ w.times, (3600 : ℤ) ∣ ts) ∧
    ∀ cfg startDay endDay w, ⟨.fetchOpenMeteoArchive cfg startDay endDay, some w⟩ ∈ tr → ∀ ts ∈ w.times, (3600 : ℤ) ∣ ts

theorem assembleRows_times {cfg : ForecastConfig} {irradiance : Option (List ℚ)} {times : List ℤ}
    {cloud shortwave : List (Option ℚ)} {source : String} {rows : List ForecastDraft} {row : ForecastDraft}
    (h : assembleRows cfg irradiance times cloud shortwave source = .ok rows) (hrow : row ∈ rows) : row.ts ∈ times := by
  obtain ⟨x, hx, hrow⟩ := mapM_mem h hrow
  unfold assembleRow at hrow
  obtain ⟨base, -, hrow⟩ := bind_eq_ok.mp hrow
  cases hrow
  exact List.fst_mem_of_mem_zipIdx hx

theorem Made.hourly {row : ForecastDraft} (hhourly : HourlyWeather tr) (h : Made tr row) : (3600 : ℤ) ∣ row.ts := by
  obtain ⟨settings, cfg, draft, -, -, hdraft, hcorrects⟩ := h
  have hts : row.ts = draft.ts := by
    rcases hcorrects with rfl | ⟨ratio, -, -, rfl⟩ <;> rfl
  rw [hts]
  cases hdraft with
  | live w irradiance rows hfetched hsun hrows hrow =>
    exact hhourly.1 cfg w hfetched _ (List.mem_of_mem_take (assembleRows_times hrows hrow))
  | past startDay endDay w irradiance rows hfetched hsun hrows hrow =>
    exact hhourly.2 cfg startDay endDay w hfetched _ (assembleRows_times hrows hrow)

/-- Different whole hours in a window of `n` hours are at most `n`. -/
theorem hours_le {n : ℕ} {now : ℤ} {hours : List ℤ} (hnodup : hours.Nodup)
    (hin : ∀ ts ∈ hours, (3600 : ℤ) ∣ ts ∧ now ≤ ts ∧ ts < now + n * 3600) : hours.length ≤ n := by
  have hinj : Set.InjOn hourOf (hours.toFinset : Set ℤ) := by
    intro a ha b hb hab
    have hdvd : (3600 : ℤ) ∣ a := (hin a (by simpa using ha)).1
    have hdvd' : (3600 : ℤ) ∣ b := (hin b (by simpa using hb)).1
    unfold hourOf at hab
    omega
  have hsub : hours.toFinset.image hourOf ⊆ Finset.Ico (hourOf (now + 3599)) (hourOf (now + 3599) + n) := by
    intro k hk
    obtain ⟨ts, hts, rfl⟩ := Finset.mem_image.mp hk
    obtain ⟨hdvd, hlow, hhigh⟩ := hin ts (by simpa using hts)
    rw [Finset.mem_Ico]
    unfold hourOf
    omega
  calc hours.length = hours.toFinset.card := (List.toFinset_card_of_nodup hnodup).symm
    _ = (hours.toFinset.image hourOf).card := (Finset.card_image_of_injOn hinj).symm
    _ ≤ (Finset.Ico (hourOf (now + 3599)) (hourOf (now + 3599) + n)).card := Finset.card_le_card hsub
    _ = n := by simp

theorem mem_apiForecast {now : ℤ} {hours : ℕ} {t : ForecastTable} {ts : ℤ} {stored : StoredForecast} :
    (ts, stored) ∈ apiForecast now hours t ↔ (now ≤ ts ∧ ts < now + hours * 3600) ∧ t.get? ts = some stored := by
  unfold apiForecast
  rw [List.mem_mergeSort, List.mem_filter, Dict.mem_entries, decide_eq_true_iff, and_comm]

theorem apiForecast_nodup (now : ℤ) (hours : ℕ) (t : ForecastTable) :
    ((apiForecast now hours t).map Prod.fst).Nodup := by
  have hperm := List.mergeSort_perm (t.entries.filter fun e => now ≤ e.1 ∧ e.1 < now + hours * 3600)
    fun a b => decide (a.1 ≤ b.1)
  exact (hperm.map Prod.fst).nodup_iff.mpr (t.nodup.sublist (List.filter_sublist.map _))

theorem apiForecast_sorted (now : ℤ) (hours : ℕ) (t : ForecastTable) :
    ((apiForecast now hours t).map Prod.fst).Pairwise (· < ·) := by
  have hsorted : ((apiForecast now hours t).map Prod.fst).Pairwise (· ≤ ·) := by
    rw [List.pairwise_map]
    have hmerge := @List.pairwise_mergeSort _ (fun a b : ℤ × StoredForecast => decide (a.1 ≤ b.1))
      (fun a b c hab hbc => by simp only [decide_eq_true_iff] at *; omega)
      (fun a b => by simp only [Bool.or_eq_true, decide_eq_true_iff]; omega)
      (t.entries.filter fun e => now ≤ e.1 ∧ e.1 < now + hours * 3600)
    exact hmerge.imp fun hab => of_decide_eq_true hab
  exact (hsorted.and (apiForecast_nodup now hours t)).imp fun ⟨hle, hne⟩ => lt_of_le_of_ne hle hne

/-- From an empty table on, through any rounds: the window shows, in order of time and each hour once, exactly the rows
that were stored last for its hours; of whole hours there are at most as many as it has. -/
theorem forecast_window (h : (refreshRounds influx n last).Run tr out)
    (hs : Steps ForecastTable.step .empty tr t') (now : ℤ) (hours : ℕ) :
    ((apiForecast now hours t').map Prod.fst).Pairwise (· < ·) ∧
      (∀ ts stored, (ts, stored) ∈ apiForecast now hours t' ↔
        (now ≤ ts ∧ ts < now + hours * 3600) ∧ (tr.filterMap (storedFor ts)).getLast? = some stored) ∧
      (HourlyWeather tr → (apiForecast now hours t').length ≤ hours) := by
  have hlast : ∀ ts, t'.get? ts = (tr.filterMap (storedFor ts)).getLast? := fun ts => by
    rw [(ForecastTable.get?_steps hs ts), Dict.get?_empty, Option.or_none]
  refine ⟨apiForecast_sorted now hours t', fun ts stored => by rw [mem_apiForecast, hlast], fun hhourly => ?_⟩
  rw [← List.length_map (f := Prod.fst)]
  refine @hours_le hours now _ (apiForecast_nodup now hours t') fun ts hts => ?_
  obtain ⟨⟨_, stored⟩, hmem, rfl⟩ := List.mem_map.mp hts
  obtain ⟨hwindow, hget⟩ := mem_apiForecast.mp hmem
  refine ⟨?_, hwindow⟩
  rw [hlast] at hget
  obtain ⟨ev, hev, hfor⟩ := List.mem_filterMap.mp (List.mem_of_getLast? hget)
  obtain ⟨row, hrow, rfl, -⟩ := storedFor_upserted hfor
  exact ((refreshRounds_run h).2 ev hev row hrow).hourly hhourly

end

/-- An inverter of 1.56 kWp, a clear hour of the past and a cloudy one to come. -/
def oneHourAnswer (t : ForecastTable) : (op : ForecastOp) → op.Answer
  | .readDbSettings => some fun name => if name = "forecast_enabled" then some "true" else none
  | .time => (100000 : ℚ)
  | .connect => Except.ok ()
  | .countArchive => Except.ok t.archiveCount
  | .utcToday => (739000 : ℤ)
  | .fetchOpenMeteoArchive _ _ _ => some ⟨[0], [some 0], [none]⟩
  | .fetchOpenMeteo _ => some ⟨[86400], [some 100], [none]⟩
  | .planeOfArray _ _ => some [1000]
  | .biasClock _ => Except.ok ⟨0, 0, id⟩
  | .selectPower _ => Except.ok []
  | .selectForecast => Except.ok (t.entries.map fun e => ⟨e.1, e.2.predictedWatts, e.2.cloudCover⟩)
  | .ensureTable => Except.ok ()
  | .upsert row => if row.stored?.isSome then Executed.ok () else Executed.failed .dbError
  | .storeInflux _ => Except.ok ()

def oneHourRound := Prog.exec (fun t op => (oneHourAnswer t op, t.after ⟨op, oneHourAnswer t op⟩)) Dict.empty
  (refreshRounds false 1 0)

theorem oneHourRound_run : (refreshRounds false 1 0).Run oneHourRound.1 oneHourRound.2.1 ∧
    Steps ForecastTable.step .empty oneHourRound.1 oneHourRound.2.2 := by
  refine Prog.exec_spec _ _ (fun t op => ⟨?_, rfl⟩) _ _
  cases op with
  | upsert row => exact Executed.done_of_guard
  | countArchive =>
    intro n hn
    cases hn
    rfl
  | selectForecast =>
    intro rows hrows
    cases hrows
    exact List.Perm.refl _
  | _ => trivial

theorem refreshes_stored_oneHour :
    oneHourRound.2.2.get? 0 = (oneHourRound.1.filterMap (storedFor 0)).getLast?.or (Dict.empty.get? 0) ∧
      (oneHourRound.1.filterMap (storedFor 0)).length = 1 ∧
      ∀ stored ∈ oneHourRound.1.filterMap (storedFor 0),
        ∃ row, Made oneHourRound.1 row ∧ row.ts = 0 ∧ row.stored? = some stored := by
  obtain ⟨hlast, hmade⟩ := refreshes_stored oneHourRound_run.1 oneHourRound_run.2 0
  exact ⟨hlast, by decide +kernel, hmade⟩

/-- The sixth event asks for the past. -/
theorem backfill_when_empty_oneHour : (oneHourRound.1[5]?.map fun ev => ev.1.fetchesArchive) = some true ∧
    ∀ ts stored, ((oneHourRound.1.take 5).filterMap (storedFor ts)).getLast?.or (Dict.empty.get? ts) = some stored →
      stored.isArchive = false := by
  have hlength : 5 < oneHourRound.1.length := by decide +kernel
  have hsplit : oneHourRound.1 = oneHourRound.1.take 5 ++ oneHourRound.1.get ⟨5, hlength⟩ :: oneHourRound.1.drop 6 := by
    rw [List.get_eq_getElem, ← List.drop_eq_getElem_cons, List.take_append_drop]
  have hpast : ∀ h, (oneHourRound.1.get ⟨5, h⟩).1.fetchesArchive = true := by decide +kernel
  exact ⟨by decide +kernel, backfill_when_empty oneHourRound_run.1 oneHourRound_run.2 hsplit (hpast hlength)⟩

/-- From 80000 on, for two days. -/
theorem forecast_window_oneHour :
    (86400, ⟨1287 / 5, none, some 100, "open-meteo"⟩) ∈ apiForecast 80000 48 oneHourRound.2.2 ∧
      ((apiForecast 80000 48 oneHourRound.2.2).map Prod.fst).Pairwise (· < ·) := by
  obtain ⟨hsorted, hshown, -⟩ := forecast_window oneHourRound_run.1 oneHourRound_run.2 80000 48
  exact ⟨(hshown _ _).mpr ⟨by norm_num, by decide +kernel⟩, hsorted⟩

end LuxMon.Forecast
