import LuxMon.Forecast.Bias
import LuxMon.Config.Settings
import LuxMon.Effects.Ensures
import LuxMon.Storage.Database

/-!
# Forecast refreshes

`_maybe_refresh_forecast`: when it is time, the weather is fetched, made into rows by the clear-sky
model, corrected by the bias map and stored, one row an hour.  Before that the past is filled in as
long as no row of it is stored.  Every call may fail; a refresh that does is tried again in the
next round.

    an hour holds the row that was stored last for it     (ForecastTable.get?_steps)
-/

namespace LuxMon.Forecast

open Python Effects

/-! ## Configuration -/

structure ForecastConfig where
  enabled : Bool
  latitude : PyFloat
  longitude : PyFloat
  arrayKwp : PyFloat
  arrayAzimuth : PyFloat
  arrayTilt : PyFloat
  bifacialGain : PyFloat
  provider : String
  hours : ℤ
  refreshMin : ℤ
  biasEnabled : Bool
  biasLookbackDays : ℤ
  biasMinSamples : ℤ

/-- `_f`. -/
def floatSetting (settings : Settings) (name : String) (default : ℚ) : PyFloat :=
  match (settings name).map floatOfString with
  | some (.ok x) => x
  | _ => .fin default

/-- `_i`: it catches no overflow. -/
def intSetting (settings : Settings) (name : String) (default : ℤ) : Except PyErr ℤ :=
  match (settings name).map fun raw => floatOfString raw >>= PyFloat.toInt with
  | some (.ok n) => .ok n
  | some (.error .overflowError) => .error .overflowError
  | _ => .ok default

/-- `_b`. -/
def boolSetting (settings : Settings) (name : String) (default : Bool) : Bool :=
  let raw := (settings name).getD (if default then "True" else "False")
  ["1", "true", "yes", "on"].contains (String.ofList (strip raw.toList)).toLower

/-- `config_from_settings`. -/
def forecastConfig (settings : Settings) : Except PyErr ForecastConfig := do
  let hours ← intSetting settings "forecast_hours" 48
  let refreshMin ← intSetting settings "forecast_refresh_min" 120
  let biasLookbackDays ← intSetting settings "forecast_bias_lookback_days" 7
  let biasMinSamples ← intSetting settings "forecast_bias_min_samples" 3
  return {
    enabled := boolSetting settings "forecast_enabled" false
    latitude := floatSetting settings "forecast_latitude" 30.0591
    longitude := floatSetting settings "forecast_longitude" (-95.9324)
    arrayKwp := floatSetting settings "array_kwp" 1.56
    arrayAzimuth := floatSetting settings "array_azimuth" 180
    arrayTilt := floatSetting settings "array_tilt" 21
    bifacialGain := floatSetting settings "array_bifacial_gain" 0.10
    provider := String.ofList (strip ((settings "forecast_provider").getD "open-meteo").toList)
    hours := hours
    refreshMin := refreshMin
    biasEnabled := boolSetting settings "forecast_bias_enabled" true
    biasLookbackDays := biasLookbackDays
    biasMinSamples := biasMinSamples }

/-! ## Assembly -/

/-- What Open-Meteo returns: the hours in seconds, with per cent and W/m². -/
structure Weather where
  times : List ℤ
  cloudCover : List (Option ℚ)
  shortwave : List (Option ℚ)

/-- A row before it is stored. -/
structure ForecastDraft where
  ts : ℤ
  predictedWatts : PyFloat
  correctedWatts : Option PyFloat := none
  cloudCover : Option ℚ
  source : String

/-- `a * b`. -/
def floatMul (a b : PyFloat) : PyFloat :=
  match a, b with
  | a, .fin s => a.mulBy s
  | .fin s, b => b.mulBy s
  | .nan, _ => .nan
  | _, .nan => .nan
  | a, b => if a = b then .posInf else .negInf

/-- The watts of `_clear_sky_pv` from the irradiance on the array, where pvlib gives it. -/
def clearSkyPv (cfg : ForecastConfig) (irradiance : Option (List ℚ)) : Option (List PyFloat) :=
  irradiance.map fun poa => poa.map fun g => (PyFloat.fin 0).max ((cfg.arrayKwp.mulBy (g / 1000)).mulBy 1000)

/-- `_cloud_factor`. -/
def cloudFactor : Option ℚ → ℚ
  | none => 1
  | some cloudCover => 1 - 0.85 * (max 0 (min 100 cloudCover) / 100)

/-- What a clear sky is scaled by. -/
def skyFactor (cc sw : Option ℚ) : ℚ :=
  match sw with
  | some sw => if 0 < sw then min 1 (max 0 (sw / 1000)) else cloudFactor cc
  | none => cloudFactor cc

/-- The watts of a row; without pvlib they are those of the radiation. -/
def predictedWatts (cfg : ForecastConfig) (base : Option PyFloat) (cc sw : Option ℚ) : PyFloat :=
  let watts := match base with
    | some base => base.mulBy (skyFactor cc sw)
    | none => (cfg.arrayKwp.mulBy (sw.getD 0 / 1000)).mulBy 1000
  (floatMul watts ((PyFloat.fin 1).add cfg.bifacialGain)).round1

/-- `clear_sky[i]`, where there is a clear sky. -/
def baseWatts (clearSky : Option (List PyFloat)) (i : ℕ) : Except PyErr (Option PyFloat) :=
  match clearSky with
  | none => .ok none
  | some watts =>
    match watts[i]? with
    | some base => .ok (some base)
    | none => .error .indexError

/-- The turn of the loop in `_assemble_rows`. -/
def assembleRow (cfg : ForecastConfig) (clearSky : Option (List PyFloat)) (cloud shortwave : List (Option ℚ))
    (source : String) (t : ℤ × ℕ) : Except PyErr ForecastDraft := do
  let cc := cloud[t.2]?.join
  let sw := shortwave[t.2]?.join
  let base ← baseWatts clearSky t.2
  return { ts := t.1, predictedWatts := predictedWatts cfg base cc sw, cloudCover := cc, source := source }

/-- `_assemble_rows`, with what pvlib says of its hours. -/
def assembleRows (cfg : ForecastConfig) (irradiance : Option (List ℚ)) (times : List ℤ)
    (cloud shortwave : List (Option ℚ)) (source : String) : Except PyErr (List ForecastDraft) :=
  times.zipIdx.mapM (assembleRow cfg (clearSkyPv cfg irradiance) cloud shortwave source)

/-- `l or [None] * n`. -/
def orNones (n : ℕ) (l : List (Option ℚ)) : List (Option ℚ) := if l.isEmpty then List.replicate n none else l

/-- `l[:n]`. -/
def upTo {α : Type} (n : ℤ) (l : List α) : List α := l.take (if 0 ≤ n then n else l.length + n).toNat

/-! ## Correction -/

/-- The turn of the loop in `_apply_correction`. -/
def correctRow (biasMap : BiasKey → Option ℚ) (r : ForecastDraft) : ForecastDraft :=
  let ratio := biasMap (hourOfDay (hourOf r.ts), cloudBucket r.cloudCover)
  let corrected := match ratio with
    | some ratio => r.predictedWatts.mulBy ratio
    | none => r.predictedWatts
  { r with correctedWatts := some corrected.round1 }

/-- `_apply_correction`. -/
def applyCorrection (biasMap : BiasKey → Option ℚ) (rows : List ForecastDraft) : List ForecastDraft :=
  rows.map (correctRow biasMap)

/-! ## The refresh -/

/-- What a refresh does to the database and around it. -/
inductive ForecastOp
  /-- `_read_db_settings`; the empty dict is none -/
  | readDbSettings
  /-- `time.time()` -/
  | time
  | connect
  /-- the query of `_has_archive_history` -/
  | countArchive
  /-- `datetime.now(timezone.utc).date()`, in days -/
  | utcToday
  | fetchOpenMeteoArchive (cfg : ForecastConfig) (startDay endDay : ℤ)
  | fetchOpenMeteo (cfg : ForecastConfig)
  /-- what pvlib makes of the hours -/
  | planeOfArray (cfg : ForecastConfig) (times : List ℤ)
  /-- the begin of the window of `_compute_bias_map` -/
  | biasClock (lookbackDays : ℤ)
  /-- the power rows of that window -/
  | selectPower (clock : BiasClock)
  /-- the forecast rows, which are read for the cloud cover and once more for the watts -/
  | selectForecast
  | ensureTable
  | upsert (row : ForecastDraft)
  | storeInflux (rows : List ForecastDraft)

def ForecastOp.Answer : ForecastOp → Type
  | .readDbSettings => Option Settings
  | .time => ℚ
  | .connect => Except PyErr Unit
  | .countArchive => Except PyErr ℕ
  | .utcToday => ℤ
  | .fetchOpenMeteoArchive _ _ _ => Option Weather
  | .fetchOpenMeteo _ => Option Weather
  | .planeOfArray _ _ => Option (List ℚ)
  | .biasClock _ => Except PyErr BiasClock
  | .selectPower _ => Except PyErr (List PowerRow)
  | .selectForecast => Except PyErr (List ForecastRow)
  | .ensureTable => Except PyErr Unit
  | .upsert _ => Executed Unit
  | .storeInflux _ => Except PyErr Unit

abbrev ForecastEvent := Event ForecastOp ForecastOp.Answer

abbrev Forecasting (α : Type) := Prog ForecastOp ForecastOp.Answer PyErr α

/-- The rows, one statement each. -/
def upsertRows : List ForecastDraft → Forecasting Unit
  | [] => return ()
  | row :: rows => do
    let r : Executed Unit ← Prog.perform (ForecastOp.upsert row)
    Prog.ofExcept r.toExcept
    upsertRows rows

/-- `_store_influxdb`, whose failure is logged only. -/
def storeInflux (rows : List ForecastDraft) : Forecasting Unit :=
  Prog.tryCatch (do
    let r : Except PyErr Unit ← Prog.perform (ForecastOp.storeInflux rows)
    Prog.ofExcept r) fun _ => return ()

/-- `store_forecast`. -/
def storeForecast (influx : Bool) (rows : List ForecastDraft) : Forecasting ℕ := do
  if rows.isEmpty then return 0
  let r : Except PyErr Unit ← Prog.perform ForecastOp.ensureTable
  Prog.ofExcept r
  upsertRows rows
  if influx then storeInflux rows
  return rows.length

/-- `_assemble_rows`, asking pvlib. -/
def assemble (cfg : ForecastConfig) (times : List ℤ) (cloud shortwave : List (Option ℚ)) (source : String) :
    Forecasting (List ForecastDraft) := do
  let irradiance : Option (List ℚ) ← Prog.perform (ForecastOp.planeOfArray cfg times)
  Prog.ofExcept (assembleRows cfg irradiance times cloud shortwave source)

/-- `build_forecast`. -/
def buildForecast (cfg : ForecastConfig) : Forecasting (Option (List ForecastDraft)) := do
  let weather : Option Weather ← Prog.perform (ForecastOp.fetchOpenMeteo cfg)
  match weather with
  | none => return none
  | some w =>
    if w.times.isEmpty then return none
    let rows ← assemble cfg (upTo cfg.hours w.times) (upTo cfg.hours (orNones w.times.length w.cloudCover))
      (upTo cfg.hours (orNones w.times.length w.shortwave)) cfg.provider
    return some rows

/-- `date - timedelta(days=n)`, by ordinals; 3652059 is the last. -/
def minusDays (day n : ℤ) : Except PyErr ℤ :=
  if 1 ≤ day - n ∧ day - n ≤ 3652059 then .ok (day - n) else .error .overflowError

/-- The rows of the past, made and stored. -/
def storePast (influx : Bool) (cfg : ForecastConfig) (w : Weather) : Forecasting ℕ := do
  if w.times.isEmpty then return 0
  let rows ← assemble cfg w.times (orNones w.times.length w.cloudCover) (orNones w.times.length w.shortwave)
    "open-meteo-archive"
  storeForecast influx rows

/-- `backfill_historical`. -/
def backfillHistorical (influx : Bool) (cfg : ForecastConfig) : Forecasting ℕ := do
  let today : ℤ ← Prog.perform ForecastOp.utcToday
  let endDay ← Prog.ofExcept (minusDays today 1)
  let startDay ← Prog.ofExcept (minusDays endDay (cfg.biasLookbackDays - 1))
  let weather : Option Weather ← Prog.perform (ForecastOp.fetchOpenMeteoArchive cfg startDay endDay)
  match weather with
  | none => return 0
  | some w => storePast influx cfg w

/-- `_has_archive_history`. -/
def hasArchiveHistory : Forecasting Bool := do
  let r : Except PyErr ℕ ← Prog.perform ForecastOp.countArchive
  let count ← Prog.ofExcept r
  return decide (0 < count)

/-- The backfill of `refresh`, whose failure is logged only. -/
def backfill (influx : Bool) (cfg : ForecastConfig) : Forecasting Unit := do
  if cfg.biasEnabled then
    let has ← hasArchiveHistory
    if !has then
      Prog.tryCatch (do
        let _ ← backfillHistorical influx cfg
        return ()) fun _ => return ()

/-- A bias map; an empty one is none. -/
def biasRatios (clock : BiasClock) (registers : List PowerRow) (forecast : List ForecastRow) (minSamples : ℤ) :
    Option (BiasKey → Option ℚ) :=
  let ratio := computeBiasMap clock registers forecast minSamples
  if (fetchActualHourly clock registers forecast).any fun x => (ratio x.1).isSome then some ratio else none

/-- `_compute_bias_map`, asking the database. -/
def biasMap (cfg : ForecastConfig) : Forecasting (Option (BiasKey → Option ℚ)) := do
  let r : Except PyErr BiasClock ← Prog.perform (ForecastOp.biasClock cfg.biasLookbackDays)
  let clock ← Prog.ofExcept r
  let r : Except PyErr (List PowerRow) ← Prog.perform (ForecastOp.selectPower clock)
  let registers ← Prog.ofExcept r
  let r : Except PyErr (List ForecastRow) ← Prog.perform ForecastOp.selectForecast
  let forecast ← Prog.ofExcept r
  return biasRatios clock registers forecast cfg.biasMinSamples

/-- The calibration of `refresh`, whose failure is logged only. -/
def calibrate (cfg : ForecastConfig) (rows : List ForecastDraft) : Forecasting (List ForecastDraft) := do
  if cfg.biasEnabled then
    Prog.tryCatch (do
      let ratios ← biasMap cfg
      match ratios with
      | some ratio => return applyCorrection ratio rows
      | none => return rows) fun _ => return rows
  else return rows

/-- `refresh`. -/
def refresh (influx : Bool) (settings : Settings) : Forecasting (Option ℕ) := do
  let cfg ← Prog.ofExcept (forecastConfig settings)
  if !cfg.enabled then return none
  backfill influx cfg
  let rows ← buildForecast cfg
  match rows with
  | none => return none
  | some rows =>
    if rows.isEmpty then return none
    let rows ← calibrate cfg rows
    let written ← storeForecast influx rows
    return some written

/-- Seconds between refreshes. -/
def ForecastConfig.interval (cfg : ForecastConfig) : ℚ := max 60 (cfg.refreshMin * 60)

/-- The `try` of `_maybe_refresh_forecast`: the new `_last_forecast_refresh`. -/
def refreshWhenDue (influx : Bool) (last : ℚ) : Forecasting ℚ := do
  let settings : Option Settings ← Prog.perform ForecastOp.readDbSettings
  match settings with
  | none => return last
  | some settings =>
    let cfg ← Prog.ofExcept (forecastConfig settings)
    if !cfg.enabled then return last
    let now : ℚ ← Prog.perform ForecastOp.time
    if now - last < cfg.interval then return last
    let r : Except PyErr Unit ← Prog.perform ForecastOp.connect
    Prog.ofExcept r
    let written ← refresh influx settings
    return if written.isSome then now else last

/-- `_maybe_refresh_forecast`. -/
def maybeRefreshForecast (influx : Bool) (last : ℚ) : Forecasting ℚ :=
  Prog.tryCatch (refreshWhenDue influx last) fun _ => return last

/-- That many rounds of the writer loop. -/
def refreshRounds (influx : Bool) : ℕ → ℚ → Forecasting ℚ
  | 0, last => return last
  | n + 1, last => do
    let last ← maybeRefreshForecast influx last
    refreshRounds influx n last

/-! ## The table -/

/-- A row of `solar_forecast`; its hour is the key. -/
structure StoredForecast where
  predictedWatts : ℚ
  correctedWatts : Option ℚ
  cloudCover : Option ℚ
  source : String
  deriving DecidableEq

abbrev ForecastTable := Dict ℤ StoredForecast

/-- What the columns take: numbers that are finite, and `VARCHAR(32)`. -/
def ForecastDraft.stored? (row : ForecastDraft) : Option StoredForecast :=
  if 32 < row.source.length then none
  else
    match row.predictedWatts, row.correctedWatts with
    | .fin predicted, none => some ⟨predicted, none, row.cloudCover, row.source⟩
    | .fin predicted, some (.fin corrected) => some ⟨predicted, some corrected, row.cloudCover, row.source⟩
    | _, _ => none

/-- `source = 'open-meteo-archive'`; the collation makes no difference between capital and small letters. -/
def StoredForecast.isArchive (row : StoredForecast) : Bool := row.source.toLower = "open-meteo-archive"

/-- What a statement stores for an hour. -/
def storedFor (ts : ℤ) : ForecastEvent → Option StoredForecast
  | ⟨.upsert row, r⟩ => if row.ts = ts ∧ r.done?.isSome then row.stored? else none
  | _ => none

namespace ForecastTable

/-- `INSERT … ON DUPLICATE KEY UPDATE`. -/
def after (t : ForecastTable) : ForecastEvent → ForecastTable
  | ⟨.upsert row, r⟩ =>
    match row.stored? with
    | some stored => if r.done?.isSome then t.set row.ts stored else t
    | none => t
  | _ => t

def archiveCount (t : ForecastTable) : ℕ := t.entries.countP fun e => e.2.isArchive

/-- What the database may answer. -/
def Answers (t : ForecastTable) : ForecastEvent → Prop
  | ⟨.countArchive, r⟩ => ∀ n, r = .ok n → n = t.archiveCount
  | ⟨.selectForecast, r⟩ => ∀ rows, r = .ok rows →
      rows.Perm (t.entries.map fun e => ⟨e.1, e.2.predictedWatts, e.2.cloudCover⟩)
  | ⟨.upsert row, r⟩ => r.done?.isSome → row.stored?.isSome
  | _ => True

def step (t : ForecastTable) (ev : ForecastEvent) (t' : ForecastTable) : Prop := t.Answers ev ∧ t' = t.after ev

end ForecastTable

section
variable {t t' : ForecastTable} {tr : List ForecastEvent}

theorem ForecastTable.get?_after (t : ForecastTable) (ev : ForecastEvent) (ts : ℤ) :
    (t.after ev).get? ts = (storedFor ts ev).or (t.get? ts) := by
  obtain ⟨op, r⟩ := ev
  cases op with
  | upsert row =>
    unfold ForecastTable.after storedFor
    simp only
    cases hstored : row.stored? with
    | none => simp
    | some stored =>
      by_cases hdone : r.done?.isSome
      · simp only [hdone, and_true, if_true]
        rw [Dict.get?_set]
        by_cases hts : row.ts = ts
        · simp [hts]
        · simp [hts, Ne.symm hts]
      · simp [hdone]
  | _ => rfl

/-- The last row stored for an hour is there. -/
theorem ForecastTable.get?_steps (h : Steps ForecastTable.step t tr t') (ts : ℤ) :
    t'.get? ts = (tr.filterMap (storedFor ts)).getLast?.or (t.get? ts) := by
  induction tr generalizing t with
  | nil =>
    cases h
    rfl
  | cons ev tr ih =>
    obtain ⟨m, ⟨-, rfl⟩, ht⟩ := h
    rw [ih ht, ForecastTable.get?_after]
    cases hev : storedFor ts ev with
    | none => rw [List.filterMap_cons_none hev, Option.none_or]
    | some stored =>
      rw [List.filterMap_cons_some hev, List.getLast?_cons]
      cases (tr.filterMap (storedFor ts)).getLast? <;> rfl

end

end LuxMon.Forecast
