import Mathlib.Tactic
import Mathlib.Data.List.Dedup

/-!
# Forecast bias

`_compute_bias_map`: hourly averages of the PV power in local time, and the stored
forecast in UTC, each put into buckets by hour of day and cloud cover; the two lists of
a bucket are cut to one length and their means divided.

    whatever the watts, the ratio compares the hours that both series have ↔ the first
      hours of both lists are these hours, or there are too few   (bias_like_with_like_iff)
-/

namespace LuxMon

/-! ## The two series -/

/-- A row of `lux_registers` as far as the query reads it; times are in seconds. -/
structure PowerRow where
  name : String
  ts : ℤ
  value : ℚ

/-- A row of `lux_solar_forecast`. -/
structure ForecastRow where
  ts : ℤ
  predictedWatts : ℚ
  cloudCover : Option ℚ

/-- `since_local`, `since_utc`, and `CONVERT_TZ(ts, 'SYSTEM', '+00:00')`. -/
structure BiasClock where
  sinceLocal : ℚ
  sinceUtc : ℚ
  toUtc : ℤ → ℤ

/-- Hour of day and cloud bucket. -/
abbrev BiasKey := ℤ × ℤ

/-- The hour in UTC, counted through. -/
def hourOf (ts : ℤ) : ℤ := ts / 3600

def hourOfDay (hour : ℤ) : ℤ := hour % 24

/-- `_cloud_bucket`. -/
def cloudBucket : Option ℚ → ℤ
  | none => -1
  | some cloudCover =>
    let cc := max 0 (min 100 cloudCover)
    if cc ≤ 20 then 0 else if cc ≤ 60 then 1 else 2

/-- `AVG`. -/
def mean (xs : List ℚ) : ℚ := xs.sum / xs.length

variable (k : BiasClock) (registers : List PowerRow) (forecast : List ForecastRow)

def PowerRow.hour (r : PowerRow) : ℤ := hourOf (k.toUtc r.ts)

def ForecastRow.hour (r : ForecastRow) : ℤ := hourOf r.ts

/-- `WHERE r.name = 'pv_power_total' AND r.ts >= since`. -/
def powerRows : List PowerRow := registers.filter fun r => r.name = "pv_power_total" ∧ k.sinceLocal ≤ r.ts

/-- `GROUP BY hour_ts, hour_of_day ORDER BY hour_ts`. -/
def actualHours : List ℤ := ((powerRows k registers).map (PowerRow.hour k)).dedup.insertionSort (· ≤ ·)

/-- `AVG(r.value)` of an hour. -/
def avgWatts (hour : ℤ) : ℚ := mean (((powerRows k registers).filter fun r => r.hour k = hour).map PowerRow.value)

/-- `fc_rows.get(hour_ts)`; the rows are those since the local time. -/
def cloudCoverAt (hour : ℤ) : Option ℚ :=
  ((forecast.filter fun r => k.sinceLocal ≤ r.ts).reverse.find? fun r => r.hour = hour).bind ForecastRow.cloudCover

def actualKey (hour : ℤ) : BiasKey := (hourOfDay hour, cloudBucket (cloudCoverAt k forecast hour))

def ForecastRow.key (r : ForecastRow) : BiasKey := (hourOfDay r.hour, cloudBucket r.cloudCover)

/-- `WHERE ts >= since`, in the order in which the rows come. -/
def forecastRows : List ForecastRow := forecast.filter fun r => k.sinceUtc ≤ r.ts

/-- `_fetch_actual_hourly`: what is appended, each with its bucket. -/
def fetchActualHourly : List (BiasKey × ℚ) :=
  (actualHours k registers).map fun hour => (actualKey k forecast hour, avgWatts k registers hour)

/-- `_fetch_forecast_hourly`. -/
def fetchForecastHourly : List (BiasKey × ℚ) := (forecastRows k forecast).map fun r => (r.key, r.predictedWatts)

/-- `buckets[key]`. -/
def bucket (appended : List (BiasKey × ℚ)) (key : BiasKey) : List ℚ :=
  (appended.filter fun x => x.1 = key).map Prod.snd

/-! ## The ratio -/

/-- The entry of `bias_map` for the two lists of a key; a key that only one series has gets none. -/
def biasRatio (minSamples : ℤ) (actualVals forecastVals : List ℚ) : Option ℚ :=
  if actualVals = [] ∨ forecastVals = [] then none
  else
    let n := min actualVals.length forecastVals.length
    if n < minSamples then none
    else
      let actualAvg := (actualVals.take n).sum / n
      let forecastAvg := (forecastVals.take n).sum / n
      if forecastAvg ≤ 0 then none else some (max 0 (min 3 (actualAvg / forecastAvg)))

/-- `_compute_bias_map`. -/
def computeBiasMap (minSamples : ℤ) (key : BiasKey) : Option ℚ :=
  biasRatio minSamples (bucket (fetchActualHourly k registers forecast) key) (bucket (fetchForecastHourly k forecast) key)

/-! ## Like with like -/

/-- The forecast hours of a key since the window began. -/
def forecastHours (key : BiasKey) : List ℤ :=
  ((forecastRows k forecast).filter fun r => r.key = key).map ForecastRow.hour

/-- Those of them that have an actual average. -/
def sharedHours (key : BiasKey) : List ℤ := (forecastHours k forecast key).filter fun hour => hour ∈ actualHours k registers

/-- The actual hours that are put into the bucket of a key. -/
def bucketHours (key : BiasKey) : List ℤ := (actualHours k registers).filter fun hour => actualKey k forecast hour = key

/-- What is predicted for an hour. -/
def predictedAt (hour : ℤ) : ℚ :=
  (((forecastRows k forecast).find? fun r => r.hour = hour).map ForecastRow.predictedWatts).getD 0

/-- Mean by mean over these hours, clamped; none with too few of them or without a prediction. -/
def meanRatio (minSamples : ℤ) (hours : List ℤ) (actual predicted : ℤ → ℚ) : Option ℚ :=
  if hours.length < minSamples ∨ mean (hours.map predicted) ≤ 0 then none
  else some (max 0 (min 3 (mean (hours.map actual) / mean (hours.map predicted))))

/-- The ratio over the hours that both series have. -/
def sharedRatio (minSamples : ℤ) (key : BiasKey) : Option ℚ :=
  meanRatio minSamples (sharedHours k registers forecast key) (avgWatts k registers) (predictedAt k forecast)

/-- Both lists too short, or both begin with exactly the shared hours and stop there. -/
def Aligned (minSamples : ℤ) (actual predicted shared : List ℤ) : Prop :=
  let n := min actual.length predicted.length
  (n < minSamples ∧ shared.length < minSamples) ∨
    ((∀ hour, hour ∈ actual.take n ↔ hour ∈ shared) ∧ ∀ hour, hour ∈ predicted.take n ↔ hour ∈ shared)

/-! ## Means over hours -/

section
variable {minSamples : ℤ} {actual predicted shared : List ℤ}

/-- What an hour contributes to a mean. -/
theorem mean_indicator {hours : List ℤ} (hnodup : hours.Nodup) (hour : ℤ) :
    mean (hours.map fun h => if h = hour then 1 else 0) = if hour ∈ hours then 1 / (hours.length : ℚ) else 0 := by
  have hsum : (hours.map fun h => if h = hour then (1 : ℚ) else 0).sum = if hour ∈ hours then 1 else 0 := by
    induction hours with
    | nil => simp
    | cons h hours ih =>
      obtain ⟨hnew, hrest⟩ := List.nodup_cons.mp hnodup
      rw [List.map_cons, List.sum_cons, ih hrest]
      by_cases heq : h = hour
      · subst heq
        simp [hnew]
      · simp [heq, Ne.symm heq]
  rw [mean, hsum, List.length_map]
  split_ifs <;> simp

theorem mean_ones {hours : List ℤ} (h : hours ≠ []) : mean (hours.map fun _ => 1) = 1 := by
  have hlength : (hours.length : ℚ) ≠ 0 := by exact_mod_cast List.length_eq_zero_iff.not.mpr h
  rw [mean, List.length_map, List.map_const', List.sum_replicate, nsmul_eq_mul, mul_one, div_self hlength]

theorem mean_add (hours : List ℤ) (f g : ℤ → ℚ) :
    mean (hours.map fun h => f h + g h) = mean (hours.map f) + mean (hours.map g) := by
  simp only [mean, List.length_map, List.sum_map_add, add_div]

/-- The same hours in any order have the same mean. -/
theorem mean_of_same {hours hours' : List ℤ} (hnodup : hours.Nodup) (hnodup' : hours'.Nodup)
    (hsame : ∀ h, h ∈ hours ↔ h ∈ hours') (f : ℤ → ℚ) : mean (hours.map f) = mean (hours'.map f) := by
  have hperm := (List.perm_ext_iff_of_nodup hnodup hnodup').mpr hsame
  rw [mean, mean, (hperm.map f).sum_eq, List.length_map, List.length_map, hperm.length_eq]

/-- Equal contributions of every hour: the same hours. -/
theorem same_of_contributions {hours hours' : List ℤ}
    (heq : ∀ h, (if h ∈ hours then 1 / (hours.length : ℚ) else 0) = if h ∈ hours' then 1 / (hours'.length : ℚ) else 0) :
    ∀ h, h ∈ hours ↔ h ∈ hours' := by
  intro h
  have hpos : ∀ {l : List ℤ} {x : ℤ}, x ∈ l → (1 / (l.length : ℚ)) ≠ 0 := by
    intro l x hx
    have : (l.length : ℚ) ≠ 0 := by exact_mod_cast (List.length_pos_of_mem hx).ne'
    positivity
  have hh := heq h
  constructor
  · intro hmem
    by_contra hno
    rw [if_pos hmem, if_neg hno] at hh
    exact hpos hmem hh
  · intro hmem
    by_contra hno
    rw [if_neg hno, if_pos hmem] at hh
    exact hpos hmem hh.symm

/-- The ratio of the two lists, by the means of what they begin with. -/
theorem biasRatio_eq (hactual : actual ≠ []) (hpredicted : predicted ≠ []) (f g : ℤ → ℚ) {n : ℕ}
    (hn : n = min actual.length predicted.length) : biasRatio minSamples (actual.map f) (predicted.map g) =
      if n < minSamples ∨ mean ((predicted.take n).map g) ≤ 0 then none
      else some (max 0 (min 3 (mean ((actual.take n).map f) / mean ((predicted.take n).map g)))) := by
  have hmeans : ∀ {hours : List ℤ} (v : ℤ → ℚ), n ≤ hours.length →
      ((hours.map v).take n).sum / n = mean ((hours.take n).map v) := by
    intro hours v hle
    rw [mean, List.length_map, List.length_take, min_eq_left hle, List.map_take]
  unfold biasRatio
  rw [if_neg (by simp [hactual, hpredicted]), List.length_map, List.length_map, ← hn]
  dsimp only
  rw [hmeans f (by omega), hmeans g (by omega)]
  by_cases hfew : (n : ℤ) < minSamples
  · rw [if_pos hfew, if_pos (Or.inl hfew)]
  · rw [if_neg hfew]
    exact if_congr (by simp [hfew]) rfl rfl

theorem clamp_eq {q : ℚ} (hlow : 0 ≤ q) (hhigh : q ≤ 3) : max 0 (min 3 q) = q := by
  rw [min_eq_right hhigh, max_eq_right hlow]

theorem contribution_bounds (hours : List ℤ) (h : ℤ) :
    0 ≤ (if h ∈ hours then 1 / (hours.length : ℚ) else 0) ∧ (if h ∈ hours then 1 / (hours.length : ℚ) else 0) ≤ 1 := by
  split_ifs with hmem
  · have hlength : (1 : ℚ) ≤ hours.length := by exact_mod_cast List.length_pos_of_mem hmem
    exact ⟨by positivity, by rw [div_le_one (by linarith)]; exact hlength⟩
  · norm_num

theorem biasRatio_none {f g : ℤ → ℚ}
    (h : (min actual.length predicted.length : ℕ) < minSamples ∨ actual = [] ∨ predicted = []) :
    biasRatio minSamples (actual.map f) (predicted.map g) = none := by
  by_cases hempty : actual = [] ∨ predicted = []
  · exact if_pos (by simpa using hempty)
  · obtain ⟨hactual, hpredicted⟩ := not_or.mp hempty
    rw [biasRatio_eq hactual hpredicted f g rfl, if_pos (Or.inl (h.resolve_right hempty))]

theorem meanRatio_none_of_empty {f g : ℤ → ℚ} : meanRatio minSamples [] f g = none :=
  if_pos (Or.inr (by simp [mean]))

/-- With one watt everywhere, no ratio means too few hours. -/
theorem few_of_none (h : meanRatio minSamples shared (fun _ => 1) (fun _ => 1) = none) :
    (shared.length : ℤ) < minSamples ∨ shared = [] := by
  by_contra hno
  obtain ⟨henough, hne⟩ := not_or.mp hno
  rw [meanRatio, mean_ones hne, if_neg (by norm_num; exact not_lt.mp henough)] at h
  cases h

/-- A mean ratio comes of enough hours. -/
theorem enough_of_some {f g : ℤ → ℚ} {q : ℚ} (h : meanRatio minSamples shared f g = some q) :
    ¬ (shared.length : ℤ) < minSamples ∧ shared ≠ [] := by
  constructor
  · intro hshort
    rw [meanRatio, if_pos (Or.inl hshort)] at h
    cases h
  · rintro rfl
    rw [meanRatio_none_of_empty] at h
    cases h

/-- Two hours' lists with equal ratios for all watts have the same hours. -/
theorem same_of_ratios {hours hours' : List ℤ} (hnodup : hours.Nodup) (hnodup' : hours'.Nodup) (hne : hours ≠ [])
    (hne' : hours' ≠ []) {first first' : List ℤ} (hfirst : first.Nodup) (hfirst' : first'.Nodup) (hnone : first ≠ [])
    (hnone' : first' ≠ [])
    (heq : ∀ f g : ℤ → ℚ, 0 < mean (hours'.map g) → 0 < mean (first'.map g) →
      max 0 (min 3 (mean (first.map f) / mean (first'.map g))) =
        max 0 (min 3 (mean (hours.map f) / mean (hours'.map g)))) :
    (∀ h, h ∈ first ↔ h ∈ hours) ∧ ∀ h, h ∈ first' ↔ h ∈ hours' := by
  constructor
  · refine same_of_contributions fun h => ?_
    have hh := heq (fun x => if x = h then 1 else 0) (fun _ => 1) (by rw [mean_ones hne']; norm_num)
      (by rw [mean_ones hnone']; norm_num)
    rw [mean_ones hne', mean_ones hnone', div_one, div_one, mean_indicator hfirst, mean_indicator hnodup] at hh
    obtain ⟨hlow, hhigh⟩ := contribution_bounds first h
    obtain ⟨hlow', hhigh'⟩ := contribution_bounds hours h
    rwa [clamp_eq hlow (by linarith), clamp_eq hlow' (by linarith)] at hh
  · refine same_of_contributions fun h => ?_
    have hsum : ∀ {l : List ℤ}, l.Nodup → l ≠ [] → mean (l.map fun x => 1 + if x = h then (1 : ℚ) else 0) =
        1 + if h ∈ l then 1 / (l.length : ℚ) else 0 := fun hl hl' => by
      rw [mean_add, mean_ones hl', mean_indicator hl]
    obtain ⟨hlow, hhigh⟩ := contribution_bounds first' h
    obtain ⟨hlow', hhigh'⟩ := contribution_bounds hours' h
    have hh := heq (fun _ => 1) (fun x => 1 + if x = h then 1 else 0) (by rw [hsum hnodup' hne']; linarith)
      (by rw [hsum hfirst' hnone']; linarith)
    rw [mean_ones hne, mean_ones hnone, hsum hfirst' hnone', hsum hnodup' hne'] at hh
    have hclamp : ∀ {c : ℚ}, 0 ≤ c → max 0 (min 3 (1 / (1 + c))) = 1 / (1 + c) := by
      intro c hc
      refine clamp_eq (by positivity) ?_
      rw [div_le_iff₀ (by linarith)]
      linarith
    rw [hclamp hlow, hclamp hlow', div_eq_div_iff (by linarith) (by linarith)] at hh
    linarith

section
variable {n : ℕ} (hn : min actual.length predicted.length = n)
include hn

theorem eq_zero_of_empty (hempty : actual = [] ∨ predicted = []) : n = 0 := by
  rcases hempty with rfl | rfl
  · rw [← hn, List.length_nil, Nat.zero_min]
  · rw [← hn, List.length_nil, Nat.min_zero]

/-- With one watt everywhere, and with too few of the first hours, too few hours are shared. -/
theorem few_shared (hfew : (n : ℤ) < minSamples)
    (hones : biasRatio minSamples (actual.map fun _ => 1) (predicted.map fun _ => 1) =
      meanRatio minSamples shared (fun _ => 1) fun _ => 1) : (shared.length : ℤ) < minSamples := by
  rw [biasRatio_none (Or.inl (by rw [hn]; exact hfew))] at hones
  rcases few_of_none hones.symm with hshort | rfl
  · exact hshort
  · exact lt_of_le_of_lt (Int.natCast_nonneg n) hfew

/-- Enough of the first hours, in lists that are not empty, are the shared ones if all ratios agree. -/
theorem same_of_biasRatio (hactual : actual.Nodup) (hpredicted : predicted.Nodup) (hshared : shared.Nodup)
    (hne : actual ≠ []) (hne' : predicted ≠ []) (henough : ¬ (n : ℤ) < minSamples)
    (heq : ∀ f g : ℤ → ℚ, biasRatio minSamples (actual.map f) (predicted.map g) = meanRatio minSamples shared f g) :
    (∀ h, h ∈ actual.take n ↔ h ∈ shared) ∧ ∀ h, h ∈ predicted.take n ↔ h ∈ shared := by
  have hpos : 0 < n := by
    rw [← hn]
    exact lt_min (List.length_pos_iff.mpr hne) (List.length_pos_iff.mpr hne')
  have hfirst : actual.take n ≠ [] := by simp [hne, hpos.ne']
  have hfirst' : predicted.take n ≠ [] := by simp [hne', hpos.ne']
  have hones := heq (fun _ => 1) fun _ => 1
  rw [biasRatio_eq hne hne' _ _ hn.symm, mean_ones hfirst', if_neg (not_or.mpr ⟨henough, by norm_num⟩)] at hones
  obtain ⟨hlong, hsome⟩ := enough_of_some hones.symm
  refine same_of_ratios hshared hshared hsome hsome (hactual.sublist (List.take_sublist n _))
    (hpredicted.sublist (List.take_sublist n _)) hfirst hfirst' fun f g hg hg' => ?_
  have hfg := heq f g
  rw [biasRatio_eq hne hne' f g hn.symm, if_neg (not_or.mpr ⟨henough, not_le.mpr hg'⟩), meanRatio,
    if_neg (not_or.mpr ⟨hlong, not_le.mpr hg⟩)] at hfg
  exact Option.some.inj hfg

/-- With the shared hours as the first ones of both lists, the ratio is that of the shared hours. -/
theorem biasRatio_of_same (hactual : actual.Nodup) (hpredicted : predicted.Nodup) (hshared : shared.Nodup)
    (hsame : ∀ h, h ∈ actual.take n ↔ h ∈ shared) (hsame' : ∀ h, h ∈ predicted.take n ↔ h ∈ shared) (f g : ℤ → ℚ) :
    biasRatio minSamples (actual.map f) (predicted.map g) = meanRatio minSamples shared f g := by
  by_cases hempty : actual = [] ∨ predicted = []
  · obtain rfl := eq_zero_of_empty hn hempty
    have hnone : shared = [] := List.eq_nil_iff_forall_not_mem.mpr fun h hh => by simpa using (hsame h).mpr hh
    rw [biasRatio_none (Or.inr hempty), hnone, meanRatio_none_of_empty]
  · obtain ⟨hne, hne'⟩ := not_or.mp hempty
    have hfirst := hactual.sublist (List.take_sublist n actual)
    have hlength := ((List.perm_ext_iff_of_nodup hfirst hshared).mpr hsame).length_eq
    rw [List.length_take, ← hn, Nat.min_eq_left (min_le_left _ _), hn] at hlength
    rw [biasRatio_eq hne hne' f g hn.symm, meanRatio, mean_of_same hfirst hshared hsame,
      mean_of_same (hpredicted.sublist (List.take_sublist n predicted)) hshared hsame', hlength]

end

/-- Whatever the watts, the ratio is that of the shared hours exactly when the lists are aligned. -/
theorem biasRatio_iff (hactual : actual.Nodup) (hpredicted : predicted.Nodup) (hshared : shared.Nodup) :
    (∀ f g : ℤ → ℚ, biasRatio minSamples (actual.map f) (predicted.map g) = meanRatio minSamples shared f g) ↔
      Aligned minSamples actual predicted shared := by
  unfold Aligned
  generalize hn : min actual.length predicted.length = n
  dsimp only
  constructor
  · intro heq
    by_cases hfew : (n : ℤ) < minSamples
    · exact Or.inl ⟨hfew, few_shared hn hfew (heq _ _)⟩
    · right
      by_cases hempty : actual = [] ∨ predicted = []
      · -- nothing to compare, so nothing may be shared
        obtain rfl := eq_zero_of_empty hn hempty
        have hones := heq (fun _ => 1) fun _ => 1
        rw [biasRatio_none (Or.inr hempty)] at hones
        rcases few_of_none hones.symm with hshort | rfl
        · exact absurd (lt_of_le_of_lt (Int.natCast_nonneg shared.length) hshort) hfew
        · simp
      · obtain ⟨hne, hne'⟩ := not_or.mp hempty
        exact same_of_biasRatio hn hactual hpredicted hshared hne hne' hfew heq
  · rintro (⟨hfew, hfew'⟩ | ⟨hsame, hsame'⟩) f g
    · rw [biasRatio_none (Or.inl (by rw [hn]; exact hfew)), meanRatio, if_pos (Or.inl hfew')]
    · exact biasRatio_of_same hn hactual hpredicted hshared hsame hsame' f g

end

/-! ## The tables -/

/-- The same times and clouds, with any watts. -/
structure SameTimes (registers registers' : List PowerRow) (forecast forecast' : List ForecastRow) : Prop where
  registers : registers'.map (fun r => (r.name, r.ts)) = registers.map fun r => (r.name, r.ts)
  forecast : forecast'.map (fun r => (r.ts, r.cloudCover)) = forecast.map fun r => (r.ts, r.cloudCover)

/-- Whatever the watts, the ratio of the key compares the hours that both series have. -/
def LikeWithLike (minSamples : ℤ) (key : BiasKey) : Prop :=
  ∀ registers' forecast', SameTimes registers registers' forecast forecast' →
    computeBiasMap k registers' forecast' minSamples key = sharedRatio k registers' forecast' minSamples key

section
variable {k registers forecast}

theorem filter_map_congr {α β : Type} {f : α → β} {p : α → Bool} {q : β → Bool} (h : ∀ a, p a = q (f a)) {as bs : List α}
    (heq : as.map f = bs.map f) : (as.filter p).map f = (bs.filter p).map f := by
  have hfilter : ∀ cs : List α, (cs.filter p).map f = (cs.map f).filter q := fun cs => by
    rw [List.filter_map]
    congr 2
    exact funext h
  rw [hfilter, hfilter, heq]

theorem bucket_actual (key : BiasKey) : bucket (fetchActualHourly k registers forecast) key =
    (bucketHours k registers forecast key).map (avgWatts k registers) := by
  unfold bucket fetchActualHourly bucketHours
  rw [List.filter_map, List.map_map]
  rfl

theorem predictedAt_hour (hnodup : (forecast.map ForecastRow.hour).Nodup) {r : ForecastRow}
    (hr : r ∈ forecastRows k forecast) : predictedAt k forecast r.hour = r.predictedWatts := by
  have hmem : ∀ r' ∈ forecastRows k forecast, r' ∈ forecast := fun r' h => (List.mem_filter.mp h).1
  unfold predictedAt
  cases hfind : (forecastRows k forecast).find? fun r' => r'.hour = r.hour with
  | none =>
    have := List.find?_eq_none.mp hfind r hr
    simp at this
  | some r' =>
    have hhour : r'.hour = r.hour := by simpa using List.find?_some hfind
    have hsame := List.inj_on_of_nodup_map hnodup (hmem r' (List.mem_of_find?_eq_some hfind)) (hmem r hr) hhour
    rw [hsame]
    rfl

theorem bucket_forecast (hnodup : (forecast.map ForecastRow.hour).Nodup) (key : BiasKey) :
    bucket (fetchForecastHourly k forecast) key = (forecastHours k forecast key).map (predictedAt k forecast) := by
  unfold bucket fetchForecastHourly forecastHours
  rw [List.filter_map, List.map_map, List.map_map]
  refine List.map_congr_left fun r hr => ?_
  exact (predictedAt_hour hnodup (List.mem_filter.mp hr).1).symm

theorem actualHours_nodup : (actualHours k registers).Nodup :=
  (List.perm_insertionSort _ _).nodup_iff.mpr (List.nodup_dedup _)

theorem forecastHours_nodup (hnodup : (forecast.map ForecastRow.hour).Nodup) (key : BiasKey) :
    (forecastHours k forecast key).Nodup :=
  hnodup.sublist ((List.filter_sublist.trans List.filter_sublist).map _)

namespace SameTimes

variable {registers' : List PowerRow} {forecast' : List ForecastRow}

theorem powerRows (h : SameTimes registers registers' forecast forecast') :
    (powerRows k registers').map (PowerRow.hour k) = (powerRows k registers).map (PowerRow.hour k) := by
  have hrows := filter_map_congr (q := fun x => decide (x.1 = "pv_power_total" ∧ k.sinceLocal ≤ x.2)) (fun _ => rfl)
    h.registers
  have hhours := congrArg (List.map fun x : String × ℤ => hourOf (k.toUtc x.2)) hrows
  rw [List.map_map, List.map_map] at hhours
  exact hhours

theorem actualHours (h : SameTimes registers registers' forecast forecast') :
    actualHours k registers' = actualHours k registers := by
  unfold LuxMon.actualHours
  rw [h.powerRows]

theorem cloudCoverAt (h : SameTimes registers registers' forecast forecast') (hour : ℤ) :
    cloudCoverAt k forecast' hour = cloudCoverAt k forecast hour := by
  have hrows := filter_map_congr (q := fun x => decide (k.sinceLocal ≤ x.1)) (fun _ => rfl) h.forecast
  have hcover : ∀ rows : List ForecastRow,
      (((rows.filter fun r => k.sinceLocal ≤ r.ts).reverse.find? fun r => r.hour = hour).bind ForecastRow.cloudCover) =
        (((rows.filter fun r => k.sinceLocal ≤ r.ts).map fun r => (r.ts, r.cloudCover)).reverse.find? fun x =>
          hourOf x.1 = hour).bind Prod.snd := by
    intro rows
    rw [← List.map_reverse, List.find?_map, Option.bind_map]
    rfl
  unfold LuxMon.cloudCoverAt
  rw [hcover, hcover, hrows]

theorem bucketHours (h : SameTimes registers registers' forecast forecast') (key : BiasKey) :
    bucketHours k registers' forecast' key = bucketHours k registers forecast key := by
  unfold LuxMon.bucketHours actualKey
  simp only [h.actualHours, h.cloudCoverAt]

theorem forecastHours (h : SameTimes registers registers' forecast forecast') (key : BiasKey) :
    forecastHours k forecast' key = forecastHours k forecast key := by
  have hrows := filter_map_congr (q := fun x => decide (k.sinceUtc ≤ x.1)) (fun _ => rfl) h.forecast
  have hkeyed : ∀ rows : List ForecastRow, ((rows.filter fun r => r.key = key).map ForecastRow.hour) =
      ((rows.map fun r => (r.ts, r.cloudCover)).filter fun x =>
        (hourOfDay (hourOf x.1), cloudBucket x.2) = key).map fun x => hourOf x.1 := by
    intro rows
    rw [List.filter_map, List.map_map]
    rfl
  unfold LuxMon.forecastHours forecastRows
  rw [hkeyed, hkeyed, hrows]

theorem sharedHours (h : SameTimes registers registers' forecast forecast') (key : BiasKey) :
    sharedHours k registers' forecast' key = sharedHours k registers forecast key := by
  unfold LuxMon.sharedHours
  rw [h.forecastHours, h.actualHours]

end SameTimes

theorem SameTimes.hours {registers' : List PowerRow} {forecast' : List ForecastRow}
    (h : SameTimes registers registers' forecast forecast') :
    forecast'.map ForecastRow.hour = forecast.map ForecastRow.hour := by
  have hhours := congrArg (List.map fun x : ℤ × Option ℚ => hourOf x.1) h.forecast
  rw [List.map_map, List.map_map] at hhours
  exact hhours

/-- What `_compute_bias_map` makes of the watts of its hours. -/
theorem computeBiasMap_eq (hnodup : (forecast.map ForecastRow.hour).Nodup) (minSamples : ℤ) (key : BiasKey) :
    computeBiasMap k registers forecast minSamples key =
      biasRatio minSamples ((bucketHours k registers forecast key).map (avgWatts k registers))
        ((forecastHours k forecast key).map (predictedAt k forecast)) := by
  unfold computeBiasMap
  rw [bucket_actual, bucket_forecast hnodup]

/-! ## Tables with given watts -/

variable (k) in
/-- Every row of an hour has the hour's watts. -/
def withPower (f : ℤ → ℚ) (registers : List PowerRow) : List PowerRow :=
  registers.map fun r => { r with value := f (r.hour k) }

def withForecast (g : ℤ → ℚ) (forecast : List ForecastRow) : List ForecastRow :=
  forecast.map fun r => { r with predictedWatts := g r.hour }

theorem sameTimes_with (f g : ℤ → ℚ) :
    SameTimes registers (withPower k f registers) forecast (withForecast g forecast) where
  registers := by
    rw [withPower, List.map_map]
    rfl
  forecast := by
    rw [withForecast, List.map_map]
    rfl

theorem avgWatts_with (f : ℤ → ℚ) {hour : ℤ} (h : hour ∈ actualHours k registers) :
    avgWatts k (withPower k f registers) hour = f hour := by
  have hsome : (powerRows k registers).filter (fun r => r.hour k = hour) ≠ [] := by
    rw [actualHours, (List.perm_insertionSort _ _).mem_iff, List.mem_dedup] at h
    obtain ⟨r, hr, hhour⟩ := List.mem_map.mp h
    exact List.ne_nil_of_mem (List.mem_filter.mpr ⟨hr, decide_eq_true hhour⟩)
  have hvalues : ((powerRows k (withPower k f registers)).filter fun r => r.hour k = hour).map PowerRow.value =
      ((powerRows k registers).filter fun r => r.hour k = hour).map fun _ => f hour := by
    unfold powerRows withPower
    rw [List.filter_map, List.filter_map, List.map_map]
    refine List.map_congr_left fun r hr => ?_
    have hhour : r.hour k = hour := of_decide_eq_true (List.mem_filter.mp hr).2
    show f (r.hour k) = f hour
    rw [hhour]
  have hlength : (((powerRows k registers).filter fun r => r.hour k = hour).length : ℚ) ≠ 0 := by
    exact_mod_cast (List.length_pos_iff.mpr hsome).ne'
  rw [avgWatts, hvalues, mean, List.length_map, List.map_const', List.sum_replicate, nsmul_eq_mul,
    mul_div_cancel_left₀ _ hlength]

theorem predictedAt_with (hnodup : (forecast.map ForecastRow.hour).Nodup) (g : ℤ → ℚ) {key : BiasKey} {hour : ℤ}
    (h : hour ∈ forecastHours k forecast key) : predictedAt k (withForecast g forecast) hour = g hour := by
  obtain ⟨r, hr, rfl⟩ := List.mem_map.mp h
  have hsame : SameTimes [] (withPower k (fun _ => 0) []) forecast (withForecast g forecast) := sameTimes_with _ g
  have hrow : ({ r with predictedWatts := g r.hour } : ForecastRow) ∈ forecastRows k (withForecast g forecast) := by
    have hr' := List.mem_filter.mp (List.mem_filter.mp hr).1
    exact List.mem_filter.mpr ⟨List.mem_map.mpr ⟨r, hr'.1, rfl⟩, hr'.2⟩
  exact predictedAt_hour (by rw [hsame.hours]; exact hnodup) hrow

theorem shared_mem {key : BiasKey} {hour : ℤ} (h : hour ∈ sharedHours k registers forecast key) :
    hour ∈ forecastHours k forecast key ∧ hour ∈ actualHours k registers := by
  simpa using List.mem_filter.mp h

/-- The ratio compares like with like exactly when the two lists of the key are aligned. -/
theorem bias_like_with_like_iff (hnodup : (forecast.map ForecastRow.hour).Nodup) (minSamples : ℤ) (key : BiasKey) :
    LikeWithLike k registers forecast minSamples key ↔
      Aligned minSamples (bucketHours k registers forecast key) (forecastHours k forecast key)
        (sharedHours k registers forecast key) := by
  have hshared : (sharedHours k registers forecast key).Nodup := (forecastHours_nodup hnodup key).filter _
  have hbucket : (bucketHours k registers forecast key).Nodup := actualHours_nodup.filter _
  rw [← biasRatio_iff hbucket (forecastHours_nodup hnodup key) hshared]
  constructor
  · intro h f g
    have hsame : SameTimes registers (withPower k f registers) forecast (withForecast g forecast) := sameTimes_with f g
    have hfg := h _ _ hsame
    have hnodup' : ((withForecast g forecast).map ForecastRow.hour).Nodup := by rwa [hsame.hours]
    rw [computeBiasMap_eq hnodup', sharedRatio, hsame.bucketHours, hsame.forecastHours, hsame.sharedHours] at hfg
    have hactual : (bucketHours k registers forecast key).map (avgWatts k (withPower k f registers)) =
        (bucketHours k registers forecast key).map f :=
      List.map_congr_left fun hour hhour => avgWatts_with f (List.mem_filter.mp hhour).1
    have hpredicted : (forecastHours k forecast key).map (predictedAt k (withForecast g forecast)) =
        (forecastHours k forecast key).map g :=
      List.map_congr_left fun hour hhour => predictedAt_with hnodup g hhour
    have hactual' : (sharedHours k registers forecast key).map (avgWatts k (withPower k f registers)) =
        (sharedHours k registers forecast key).map f :=
      List.map_congr_left fun hour hhour => avgWatts_with f (shared_mem hhour).2
    have hpredicted' : (sharedHours k registers forecast key).map (predictedAt k (withForecast g forecast)) =
        (sharedHours k registers forecast key).map g :=
      List.map_congr_left fun hour hhour => predictedAt_with hnodup g (shared_mem hhour).1
    rw [hactual, hpredicted, meanRatio, hactual', hpredicted'] at hfg
    exact hfg
  · intro h registers' forecast' hsame
    have hnodup' : (forecast'.map ForecastRow.hour).Nodup := by rwa [hsame.hours]
    rw [computeBiasMap_eq hnodup', sharedRatio, hsame.bucketHours, hsame.forecastHours, hsame.sharedHours]
    exact h _ _

end

/-! ## A window that begins within an hour -/

/-- Five hours behind UTC, and the window begins at half past the hour. -/
def halfPast : BiasClock := ⟨86400 + 37800, 86400 + 55800, fun t => t + 18000⟩

/-- Minutes of power in the begun hour, and at the same hour of the next day. -/
def twoAfternoons : List PowerRow :=
  [⟨"pv_power_total", 86400 + 38700, 100⟩, ⟨"pv_power_total", 2 * 86400 + 36600, 200⟩]

/-- Both hours are predicted. -/
def twoPredictions : List ForecastRow := [⟨86400 + 54000, 200, some 10⟩, ⟨2 * 86400 + 54000, 200, some 10⟩]

/-- The same window, begun on the hour. -/
def onTheHour : BiasClock := { halfPast with sinceLocal := 86400 + 36000, sinceUtc := 86400 + 54000 }

theorem whole_hours_alike : LikeWithLike onTheHour twoAfternoons twoPredictions 1 (15, 0) := by
  refine (bias_like_with_like_iff (by decide +kernel) 1 (15, 0)).mpr (Or.inr ?_)
  have hactual : (bucketHours onTheHour twoAfternoons twoPredictions (15, 0)).take
      (min (bucketHours onTheHour twoAfternoons twoPredictions (15, 0)).length
        (forecastHours onTheHour twoPredictions (15, 0)).length) =
      sharedHours onTheHour twoAfternoons twoPredictions (15, 0) := by
    decide +kernel
  have hpredicted : (forecastHours onTheHour twoPredictions (15, 0)).take
      (min (bucketHours onTheHour twoAfternoons twoPredictions (15, 0)).length
        (forecastHours onTheHour twoPredictions (15, 0)).length) =
      sharedHours onTheHour twoAfternoons twoPredictions (15, 0) := by
    decide +kernel
  rw [hactual, hpredicted]
  exact ⟨fun _ => Iff.rfl, fun _ => Iff.rfl⟩

/-- With one sample the power of the first day is divided by the prediction for the second. -/
theorem begun_hour_mistaken :
    (twoPredictions.map ForecastRow.hour).Nodup ∧
      computeBiasMap halfPast twoAfternoons twoPredictions 1 (15, 0) = some (1 / 2) ∧
      sharedRatio halfPast twoAfternoons twoPredictions 1 (15, 0) = some 1 ∧
      ¬ LikeWithLike halfPast twoAfternoons twoPredictions 1 (15, 0) := by
  have hcode : computeBiasMap halfPast twoAfternoons twoPredictions 1 (15, 0) = some (1 / 2) := by decide +kernel
  have hshared : sharedRatio halfPast twoAfternoons twoPredictions 1 (15, 0) = some 1 := by decide +kernel
  refine ⟨by decide +kernel, hcode, hshared, fun h => ?_⟩
  have heq := h _ _ ⟨rfl, rfl⟩
  rw [hcode, hshared] at heq
  exact absurd heq (by decide +kernel)

end LuxMon
