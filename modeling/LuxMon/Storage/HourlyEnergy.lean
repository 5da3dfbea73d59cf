import LuxMon.Storage.Database
import LuxMon.Effects.History

/-!
# Hourly energy

Every write of a snapshot adds power times interval to the four rows of its local hour.
What is added does not depend on whether a row is there: an upsert counts NULL as 0.

    an upsert adds its values to the rows that it selects            (energy_upsertHourly)
    the rows hold the integral of the powers that were written       (hourly_energy_integrates)
-/

namespace LuxMon

open Python Effects

/-! ## What the rows should hold -/

/-- The categories of the rollup. -/
inductive EnergyCategory
  | battery
  | grid
  | load
  | pv
  deriving DecidableEq

/-- A power of a snapshot; one that is missing counts as 0. -/
def power (decoded : Decoded) (key : String) : ℚ :=
  match saValue decoded key with
  | .ok (some (.fin q)) => q
  | _ => 0

def pvPower (decoded : Decoded) : ℚ := power decoded "pv1_power" + power decoded "pv2_power" + power decoded "pv3_power"

/-- The power balance. -/
def loadPower (decoded : Decoded) : ℚ :=
  max 0 (pvPower decoded + power decoded "discharge_power" + power decoded "grid_import_power" -
    (power decoded "charge_power" + power decoded "grid_export_power"))

namespace EnergyCategory

def name : EnergyCategory → String
  | battery => "Battery power"
  | grid => "Grid power"
  | load => "Load power"
  | pv => "PV power"

/-- What flows in and out, in watts. -/
def flow (decoded : Decoded) : EnergyCategory → ℚ × ℚ
  | battery => (power decoded "charge_power", power decoded "discharge_power")
  | grid => (power decoded "grid_import_power", power decoded "grid_export_power")
  | load => (loadPower decoded, 0)
  | pv => (pvPower decoded, 0)

end EnergyCategory

/-- NULL counts as 0. -/
def amount : Option PyFloat → ℚ
  | some (.fin q) => q
  | _ => 0

/-- The two columns of a row. -/
def EnergyRow.amounts (row : EnergyRow) : ℚ × ℚ := (amount row.valueIn, amount row.valueOut)

/-- The sums of the two columns over the rows with some hours and names. -/
def Tables.energy (t : Tables) (keys : String × String → Bool) : ℚ × ℚ :=
  ((t.hourlyEnergy.entries.filter fun e => keys e.1).map fun e => e.2.amounts).sum

/-! ## Sums over the rows -/

theorem sum_filter {ι M : Type} [AddCommMonoid M] (p : ι → Bool) (g : ι → M) (l : List ι) :
    ((l.filter p).map g).sum = (l.map fun i => if p i then g i else 0).sum := by
  rw [List.sum_map_ite]
  simp

/-! ## One upsert -/

/-- The database stores no other value. -/
def EnergyRow.Finite (row : EnergyRow) : Prop := (row.valueIn.toList ++ row.valueOut.toList).all finite

def Tables.EnergyFinite (t : Tables) : Prop := ∀ key row, t.hourlyEnergy.get? key = some row → row.Finite

theorem finite_option {x y : Option PyFloat} : (x.toList ++ y.toList).all finite ↔
    (∀ v ∈ x, ∃ q, v = .fin q) ∧ ∀ v ∈ y, ∃ q, v = .fin q := by
  have hfinite : ∀ v : PyFloat, finite v = true ↔ ∃ q, v = .fin q := by
    intro v
    cases v <;> simp [finite]
  simp [List.all_append, hfinite]

theorem coalesceAdd_fin {x y : Option PyFloat} (hx : ∀ v ∈ x, ∃ q, v = .fin q) (hy : ∀ v ∈ y, ∃ q, v = .fin q) :
    Tables.coalesceAdd x y = .fin (amount x + amount y) := by
  have hgetD : ∀ {z : Option PyFloat}, (∀ v ∈ z, ∃ q, v = .fin q) → z.getD (.fin 0) = .fin (amount z) := by
    intro z hz
    cases z with
    | none => rfl
    | some v =>
      obtain ⟨q, rfl⟩ := hz v rfl
      rfl
  unfold Tables.coalesceAdd
  rw [hgetD hx, hgetD hy]
  rfl

/-- The row that an upsert leaves. -/
def EnergyRow.upserted (old : Option EnergyRow) (valueIn valueOut : Option PyFloat) : EnergyRow :=
  match old with
  | none => { valueIn := valueIn, valueOut := valueOut }
  | some row =>
    { valueIn := some (Tables.coalesceAdd row.valueIn valueIn), valueOut := some (Tables.coalesceAdd row.valueOut valueOut) }

theorem upserted_spec {old : Option EnergyRow} {valueIn valueOut : Option PyFloat} (hold : ∀ row ∈ old, row.Finite)
    (hvalues : (valueIn.toList ++ valueOut.toList).all finite) :
    (EnergyRow.upserted old valueIn valueOut).Finite ∧
      (EnergyRow.upserted old valueIn valueOut).amounts =
        old.elim 0 EnergyRow.amounts + (amount valueIn, amount valueOut) := by
  cases old with
  | none => exact ⟨hvalues, (zero_add _).symm⟩
  | some row =>
    obtain ⟨hin, hout⟩ := finite_option.mp hvalues
    obtain ⟨hrowIn, hrowOut⟩ := finite_option.mp (hold row rfl)
    unfold EnergyRow.upserted
    simp only [coalesceAdd_fin hrowIn hin, coalesceAdd_fin hrowOut hout]
    exact ⟨rfl, rfl⟩

section
variable {t t' : Tables} {ev : TableEvent} {tr : List TableEvent} (keys : String × String → Bool)

/-- An upsert adds its values to the rows that it selects. -/
theorem energy_upsertHourly (ht : t.EnergyFinite) (hour name : String) {valueIn valueOut : Option PyFloat}
    (hvalues : (valueIn.toList ++ valueOut.toList).all finite) :
    (t.upsertHourly hour name valueIn valueOut).energy keys =
        t.energy keys + (if keys (hour, name) then (amount valueIn, amount valueOut) else 0) ∧
      (t.upsertHourly hour name valueIn valueOut).EnergyFinite := by
  obtain ⟨hfinite, hamounts⟩ := upserted_spec (fun row hrow => ht (hour, name) row hrow) hvalues
  constructor
  · have hsum := Dict.sum_set (fun e : (String × String) × EnergyRow => if keys e.1 then e.2.amounts else 0) t.hourlyEnergy
      (hour, name) (EnergyRow.upserted (t.hourlyEnergy.get? (hour, name)) valueIn valueOut)
    have helim : (t.hourlyEnergy.get? (hour, name)).elim 0 (fun row => if keys (hour, name) then row.amounts else 0) =
        if keys (hour, name) then (t.hourlyEnergy.get? (hour, name)).elim 0 EnergyRow.amounts else 0 := by
      cases t.hourlyEnergy.get? (hour, name) with
      | none => exact (ite_self 0).symm
      | some row => rfl
    dsimp only at hsum
    rw [helim, hamounts] at hsum
    unfold Tables.energy
    rw [sum_filter, sum_filter]
    refine add_right_cancel (hsum.trans ?_)
    split_ifs
    · abel
    · abel
  · exact Dict.set_all ht hfinite

/-- What a statement adds to the rows with some keys. -/
def added : TableEvent → ℚ × ℚ
  | ⟨.upsertHourly hour name valueIn valueOut, r⟩ =>
    if r.done?.isSome ∧ keys (hour, name) then (amount valueIn, amount valueOut) else 0
  | _ => 0

theorem energy_step (ht : t.EnergyFinite) (h : Tables.step t ev t') :
    t'.energy keys = t.energy keys + added keys ev ∧ t'.EnergyFinite := by
  obtain ⟨op, r⟩ := ev
  obtain ⟨hans, rfl⟩ := h
  have hsame : ∀ {t' : Tables}, t'.hourlyEnergy = t.hourlyEnergy →
      t'.energy keys = t.energy keys + 0 ∧ t'.EnergyFinite := by
    intro t' h
    unfold Tables.energy Tables.EnergyFinite
    rw [h, add_zero]
    exact ⟨rfl, ht⟩
  cases op with
  | insertSnapshot raw =>
    refine hsame ?_
    unfold Tables.after Tables.insertSnapshot
    simp only
    cases r.done? with
    | none => rfl
    | some x => simp only; split_ifs <;> rfl
  | insertRegisters id rows =>
    refine hsame ?_
    unfold Tables.after Tables.insertRegisters
    simp only
    split_ifs <;> rfl
  | upsertHourly hour name valueIn valueOut =>
    unfold Tables.after added
    simp only
    by_cases hdone : r.done?.isSome
    · simp only [hdone, if_true, true_and]
      exact energy_upsertHourly keys ht hour name (hans hdone)
    · simp only [hdone]
      exact hsame rfl
  | _ => exact hsame rfl

theorem energy_after (ht : t.EnergyFinite) (h : Steps Tables.step t tr t') :
    t'.energy keys = t.energy keys + (tr.map (added keys)).sum ∧ t'.EnergyFinite := by
  induction tr generalizing t with
  | nil =>
    cases h
    exact ⟨(add_zero _).symm, ht⟩
  | cons ev tr ih =>
    obtain ⟨m, hm, hrest⟩ := h
    obtain ⟨hev, hm⟩ := energy_step keys ht hm
    obtain ⟨htr, ht'⟩ := ih hm hrest
    exact ⟨by rw [htr, hev, List.map_cons, List.sum_cons, add_assoc], ht'⟩

end

/-! ## One write -/

theorem power_eq {decoded : Decoded} {key : String} {q : ℚ} (h : saValueOrZero decoded key = .ok (.fin q)) :
    power decoded key = q := by
  obtain ⟨value, hvalue, h⟩ := bind_eq_ok.mp h
  have h : orZero value = .fin q := Except.ok.inj h
  unfold power
  rw [hvalue]
  cases value with
  | none =>
    cases h
    rfl
  | some x =>
    by_cases hx : x = .fin 0
    · subst hx
      cases h
      rfl
    · have hsome : orZero (some x) = x := by simp [orZero, orNum, PyFloat.truthy, hx]
      obtain rfl := hsome.symm.trans h
      rfl

theorem mulBy_fin {x : PyFloat} {s p : ℚ} (h : x.mulBy s = .fin p) : ∃ q, x = .fin q ∧ p = q * s := by
  cases x with
  | fin q =>
    cases h
    exact ⟨q, rfl, rfl⟩
  | nan => cases h
  | posInf =>
    unfold PyFloat.mulBy at h
    split_ifs at h
  | negInf =>
    unfold PyFloat.mulBy at h
    split_ifs at h

theorem add_fin {x y : PyFloat} {p : ℚ} (h : x.add y = .fin p) : ∃ q r, x = .fin q ∧ y = .fin r ∧ p = q + r := by
  cases x <;> cases y <;> cases h
  exact ⟨_, _, rfl, rfl, rfl⟩

theorem run_upsertHourly {hour name : String} {valueIn valueOut : Option PyFloat} {tr : List TableEvent}
    (h : (upsertHourly hour name valueIn valueOut).Run tr (.ok ())) :
    tr = [⟨.upsertHourly hour name valueIn valueOut, (Executed.ok () : Executed Unit)⟩] := by
  obtain ⟨(r : Executed Unit), u, rfl, hrest⟩ := h
  obtain ⟨rfl, hr⟩ := (Prog.run_ofExcept _ _ _).mp hrest
  obtain rfl := Executed.eq_ok_of_toExcept hr.symm
  rfl

/-- The powers as the code reads them. -/
structure PowersRead (decoded : Decoded) where
  charge : PyFloat
  discharge : PyFloat
  gridIn : PyFloat
  gridOut : PyFloat
  pv1 : PyFloat
  pv2 : PyFloat
  pv3 : PyFloat
  charge_ok : saValueOrZero decoded "charge_power" = .ok charge
  discharge_ok : saValueOrZero decoded "discharge_power" = .ok discharge
  gridIn_ok : saValueOrZero decoded "grid_import_power" = .ok gridIn
  gridOut_ok : saValueOrZero decoded "grid_export_power" = .ok gridOut
  pv1_ok : saValueOrZero decoded "pv1_power" = .ok pv1
  pv2_ok : saValueOrZero decoded "pv2_power" = .ok pv2
  pv3_ok : saValueOrZero decoded "pv3_power" = .ok pv3

namespace PowersRead

variable {decoded : Decoded} (p : PowersRead decoded)

def pv : PyFloat := (p.pv1.add p.pv2).add p.pv3

def load : PyFloat := (PyFloat.fin 0).max (((p.pv.add p.discharge).add p.gridIn).sub (p.charge.add p.gridOut))

/-- The upserts, in the order of the code. -/
def upserts (s : ℚ) : List (String × Option PyFloat × Option PyFloat) := [
  ("Battery power", p.charge.mulBy s, p.discharge.mulBy s),
  ("Grid power", p.gridIn.mulBy s, p.gridOut.mulBy s),
  ("Load power", p.load.mulBy s, none),
  ("PV power", p.pv.mulBy s, none)]

end PowersRead

/-- The statement of an upsert, carried out. -/
def upsertEvent (hour : String) (u : String × Option PyFloat × Option PyFloat) : TableEvent :=
  ⟨.upsertHourly hour u.1 u.2.1 u.2.2, (Executed.ok () : Executed Unit)⟩

theorem run_updateHourlyEnergy {intervalSec : ℚ} {decoded : Decoded} {tr : List TableEvent}
    (h : (updateHourlyEnergy intervalSec decoded).Run tr (.ok ())) : ∃ (hour : String) (p : PowersRead decoded),
    tr = ⟨.strftimeHour, hour⟩ :: (p.upserts (intervalSec / 3600)).map (upsertEvent hour) := by
  obtain ⟨(hour : String), u, rfl, h⟩ := h
  have hread : ∀ {β : Type} {x : Except PyErr PyFloat} {f : PyFloat → Sql β} {tr : List TableEvent} {b : β},
      (Prog.ofExcept x >>= f).Run tr (.ok b) → ∃ v, x = .ok v ∧ (f v).Run tr (.ok b) := by
    intro β x f tr b h
    obtain ⟨v, t, u, rfl, hrun, hf⟩ := (Prog.run_bind_ok _ _ _ _).mp h
    obtain ⟨rfl, hx⟩ := (Prog.run_ofExcept _ _ _).mp hrun
    exact ⟨v, hx.symm, hf⟩
  have hupsert : ∀ {name : String} {valueIn valueOut : Option PyFloat} {f : Unit → Sql Unit} {tr : List TableEvent},
      (upsertHourly hour name valueIn valueOut >>= f).Run tr (.ok ()) →
      ∃ rest, tr = upsertEvent hour (name, valueIn, valueOut) :: rest ∧ (f ()).Run rest (.ok ()) := by
    intro name valueIn valueOut f tr h
    obtain ⟨⟨⟩, t, rest, rfl, hrun, hf⟩ := (Prog.run_bind_ok _ _ _ _).mp h
    exact ⟨rest, by rw [run_upsertHourly hrun]; rfl, hf⟩
  obtain ⟨charge, hcharge, h₁⟩ := hread h
  obtain ⟨discharge, hdischarge, h₂⟩ := hread h₁
  obtain ⟨rest, rfl, h₃⟩ := hupsert h₂
  obtain ⟨gridIn, hgridIn, h₄⟩ := hread h₃
  obtain ⟨gridOut, hgridOut, h₅⟩ := hread h₄
  obtain ⟨rest, rfl, h₆⟩ := hupsert h₅
  obtain ⟨pv1, hpv1, h₇⟩ := hread h₆
  obtain ⟨pv2, hpv2, h₈⟩ := hread h₇
  obtain ⟨pv3, hpv3, h₉⟩ := hread h₈
  obtain ⟨rest, rfl, h₁₀⟩ := hupsert h₉
  refine ⟨hour, ⟨charge, discharge, gridIn, gridOut, pv1, pv2, pv3, hcharge, hdischarge, hgridIn, hgridOut, hpv1, hpv2,
    hpv3⟩, ?_⟩
  rw [run_upsertHourly h₁₀]
  rfl

namespace EnergyCategory

def all : List EnergyCategory := [battery, grid, load, pv]

/-- The energy of a snapshot, in watt hours: power times interval. -/
def energy (intervalSec : ℚ) (decoded : Decoded) (c : EnergyCategory) : ℚ × ℚ :=
  ((c.flow decoded).1 * (intervalSec / 3600), (c.flow decoded).2 * (intervalSec / 3600))

end EnergyCategory

namespace PowersRead

variable {decoded : Decoded} (p : PowersRead decoded)

/-- The values that are stored are finite, so all powers are. -/
theorem finite_powers {s : ℚ} (h : ∀ u ∈ p.upserts s, (u.2.1.toList ++ u.2.2.toList).all finite) :
    p.charge = .fin (power decoded "charge_power") ∧ p.discharge = .fin (power decoded "discharge_power") ∧
      p.gridIn = .fin (power decoded "grid_import_power") ∧ p.gridOut = .fin (power decoded "grid_export_power") ∧
      p.pv1 = .fin (power decoded "pv1_power") ∧ p.pv2 = .fin (power decoded "pv2_power") ∧
      p.pv3 = .fin (power decoded "pv3_power") := by
  have hfactor : ∀ {x : PyFloat}, (∃ q, x.mulBy s = .fin q) → ∃ q, x = .fin q := by
    rintro x ⟨q, hq⟩
    obtain ⟨q, hq, -⟩ := mulBy_fin hq
    exact ⟨q, hq⟩
  have hvalue : ∀ {key : String} {x : PyFloat}, saValueOrZero decoded key = .ok x → (∃ q, x = .fin q) →
      x = .fin (power decoded key) := by
    rintro key x hx ⟨q, rfl⟩
    rw [power_eq hx]
  have hbattery := finite_option.mp (h _ (show ("Battery power", _, _) ∈ p.upserts s from List.mem_cons_self))
  have hgrid := finite_option.mp (h _ (show ("Grid power", _, _) ∈ p.upserts s from
    List.mem_cons_of_mem _ List.mem_cons_self))
  have hpv := finite_option.mp (h _ (show ("PV power", _, _) ∈ p.upserts s from
    List.mem_cons_of_mem _ (List.mem_cons_of_mem _ (List.mem_cons_of_mem _ List.mem_cons_self))))
  obtain ⟨q, hq⟩ := hfactor (hpv.1 _ rfl)
  obtain ⟨q₁₂, q₃, h₁₂, h₃, -⟩ := add_fin hq
  obtain ⟨q₁, q₂, h₁, h₂, -⟩ := add_fin h₁₂
  exact ⟨hvalue p.charge_ok (hfactor (hbattery.1 _ rfl)), hvalue p.discharge_ok (hfactor (hbattery.2 _ rfl)),
    hvalue p.gridIn_ok (hfactor (hgrid.1 _ rfl)), hvalue p.gridOut_ok (hfactor (hgrid.2 _ rfl)),
    hvalue p.pv1_ok ⟨q₁, h₁⟩, hvalue p.pv2_ok ⟨q₂, h₂⟩, hvalue p.pv3_ok ⟨q₃, h₃⟩⟩

theorem pv_load {s : ℚ} (h : ∀ u ∈ p.upserts s, (u.2.1.toList ++ u.2.2.toList).all finite) :
    p.pv = .fin (pvPower decoded) ∧ p.load = .fin (loadPower decoded) := by
  obtain ⟨hcharge, hdischarge, hgridIn, hgridOut, hpv1, hpv2, hpv3⟩ := p.finite_powers h
  have hpv : p.pv = .fin (pvPower decoded) := by
    unfold pv
    rw [hpv1, hpv2, hpv3]
    rfl
  refine ⟨hpv, ?_⟩
  unfold load
  rw [hpv, hcharge, hdischarge, hgridIn, hgridOut]
  have hmax : ∀ q : ℚ, (PyFloat.fin 0).max (.fin q) = .fin (max 0 q) := by
    intro q
    unfold PyFloat.max PyFloat.lt
    by_cases hq : 0 < q
    · rw [if_pos (decide_eq_true hq), max_eq_right hq.le]
    · rw [if_neg (by simpa using hq), max_eq_left (not_lt.mp hq)]
  refine Eq.trans ?_ (hmax _)
  show (PyFloat.fin 0).max (.fin (_ + -(_ + _))) = _
  rw [← sub_eq_add_neg]

/-- The upserts of a write add the energy of the four categories. -/
theorem upserts_energy {intervalSec : ℚ}
    (h : ∀ u ∈ p.upserts (intervalSec / 3600), (u.2.1.toList ++ u.2.2.toList).all finite) :
    (p.upserts (intervalSec / 3600)).map (fun u => (u.1, (amount u.2.1, amount u.2.2))) =
      EnergyCategory.all.map fun c => (c.name, c.energy intervalSec decoded) := by
  obtain ⟨hcharge, hdischarge, hgridIn, hgridOut, -⟩ := p.finite_powers h
  obtain ⟨hpv, hload⟩ := p.pv_load h
  unfold upserts
  rw [hcharge, hdischarge, hgridIn, hgridOut, hpv, hload]
  simp [EnergyCategory.all, EnergyCategory.name, EnergyCategory.energy, EnergyCategory.flow, PyFloat.mulBy, amount]

end PowersRead

/-! ## The load power -/

/-- The derived load power is the one of the rollup. -/
theorem get?_load_power {decoded : Decoded} {computed : Dict String PyFloat} (h : buildComputed decoded = .ok computed)
    (p : PowersRead decoded) : computed.get? "load_power" = some p.load := by
  have hread : ∀ {key : String} {value : Option PyFloat} {x : PyFloat}, saValue decoded key = .ok value →
      saValueOrZero decoded key = .ok x → orZero value = x := by
    intro key value x hvalue hx
    unfold saValueOrZero at hx
    rw [hvalue] at hx
    exact Except.ok.inj hx
  unfold buildComputed at h
  simp only [bind_eq_ok] at h
  obtain ⟨pv1, hpv1, pv2, hpv2, pv3, hpv3, gridExport, hexport, gridImport, himport, charge, hcharge, discharge, hdischarge,
    epsR, -, es₁, hes₁, es₂, hes₂, energy1, -, energy2, -, energy3, -, chargeTotal, -, dischargeTotal, -, importTotal, -,
    exportTotal, -, h⟩ := h
  obtain rfl := Except.ok.inj h
  rw [hread hpv1 p.pv1_ok, hread hpv2 p.pv2_ok, hread hpv3 p.pv3_ok, hread hexport p.gridOut_ok,
    hread himport p.gridIn_ok, hread hcharge p.charge_ok, hread hdischarge p.discharge_ok]
  -- no name that follows is the same
  have hsome : ∀ {key : String} {value : Option PyFloat}, "load_power" ≠ key →
      "load_power" ∉ (assignSome key value).map Prod.fst := fun hne hmem => hne (assignSome_names hmem)
  have hif : ∀ {cond : Bool} {key : String} {value : PyFloat}, "load_power" ≠ key →
      "load_power" ∉ (assignIf cond key value).map Prod.fst := fun hne hmem => hne (assignIf_names hmem)
  have hcurrent : ∀ {cKey vKey pKey : String} {es : List (String × PyFloat)}, pvCurrent decoded cKey vKey pKey = .ok es →
      "load_power" ≠ cKey → "load_power" ∉ es.map Prod.fst := fun hes hne hmem => hne (pvCurrent_names hes hmem)
  rw [Dict.get?_ofList_append (hsome (by decide)), Dict.get?_ofList_append (hsome (by decide)),
    Dict.get?_ofList_append (hsome (by decide)), Dict.get?_ofList_append (hsome (by decide)),
    Dict.get?_ofList_append (hif (by decide)), Dict.get?_ofList_append (hcurrent hes₂ (by decide)),
    Dict.get?_ofList_append (hcurrent hes₁ (by decide)), Dict.get?_ofList_append (hsome (by decide)), Dict.get?_ofList,
    List.reverse_append, List.reverse_singleton, List.singleton_append, lookup_cons_ite, if_pos rfl]
  rfl

/-! ## A successful write -/

theorem run_insertSnapshot_ok {raw : Dict Nat Nat} {tr : List TableEvent} {id : Nat}
    (h : (insertSnapshot raw).Run tr (.ok id)) :
    ∃ ts, tr = [⟨.insertSnapshot raw, (Executed.ok (id, ts) : Executed (Nat × Nat))⟩] := by
  obtain ⟨(r : Executed (Nat × Nat)), u, rfl, hrest⟩ := h
  have hrest : (Prog.ofExcept r.toExcept >>= fun x => (pure x.1 : Sql Nat)).Run u (.ok id) := hrest
  obtain ⟨x, t₁, t₂, rfl, hx, hret⟩ := (Prog.run_bind_ok _ _ _ _).mp hrest
  obtain ⟨rfl, hr⟩ := (Prog.run_ofExcept _ _ _).mp hx
  obtain ⟨rfl, hid⟩ := (Prog.run_pure _ _ _).mp hret
  cases hid
  obtain rfl := Executed.eq_ok_of_toExcept hr.symm
  exact ⟨x.2, rfl⟩

theorem run_insertRows_ok {id : Nat} {rows : List RegisterRow} (hrows : rows ≠ []) {tr : List TableEvent}
    (h : (insertRows id rows).Run tr (.ok ())) :
    tr = [⟨.insertRegisters id rows, (Executed.ok () : Executed Unit)⟩] := by
  unfold insertRows at h
  rw [if_neg (by simpa using hrows)] at h
  obtain ⟨(r : Executed Unit), u, rfl, hrest⟩ := h
  obtain ⟨rfl, hr⟩ := (Prog.run_ofExcept _ _ _).mp hrest
  obtain rfl := Executed.eq_ok_of_toExcept hr.symm
  rfl

/-- The statements of a write that succeeds, and the row with its load power. -/
theorem run_insertAll {intervalSec : ℚ} {decoded : Decoded} {raw : Dict Nat Nat} {tr : List TableEvent}
    (h : (insertAll intervalSec decoded raw).Run tr (.ok ())) :
    ∃ (id ts : Nat) (rows : List RegisterRow) (hour : String) (p : PowersRead decoded),
      tr = ⟨.insertSnapshot raw, (Executed.ok (id, ts) : Executed (Nat × Nat))⟩ ::
        ⟨.insertRegisters id rows, (Executed.ok () : Executed Unit)⟩ :: ⟨.strftimeHour, hour⟩ ::
          (p.upserts (intervalSec / 3600)).map (upsertEvent hour) ∧
      ∃ computed, buildComputed decoded = .ok computed ∧ computed.get? "load_power" = some p.load ∧
        ⟨"load_power", p.load, "W"⟩ ∈ rows := by
  obtain ⟨id, t₁, u₁, rfl, hid, h₁⟩ := (Prog.run_bind_ok _ _ _ _).mp h
  obtain ⟨ts, rfl⟩ := run_insertSnapshot_ok hid
  obtain ⟨rows, t₂, u₂, rfl, hrun, h₂⟩ := (Prog.run_bind_ok _ _ _ _).mp h₁
  obtain ⟨rfl, hrows⟩ := (Prog.run_ofExcept _ _ _).mp hrun
  obtain ⟨⟨⟩, t₃, u₃, rfl, hinsert, h₃⟩ := (Prog.run_bind_ok _ _ _ _).mp h₂
  obtain ⟨hour, p, rfl⟩ := run_updateHourlyEnergy h₃
  obtain ⟨decodedRows, -, hmerge⟩ := bind_eq_ok.mp hrows.symm
  obtain ⟨computed, hcomputed, hmerge⟩ := bind_eq_ok.mp hmerge
  have hload := get?_load_power hcomputed p
  have hmem : (⟨"load_power", p.load, "W"⟩ : RegisterRow) ∈ rows := by
    rw [← Except.ok.inj hmerge]
    refine List.mem_append_right _ (List.mem_filterMap.mpr ⟨"load_power", by decide, ?_⟩)
    unfold computedRow
    rw [hload]
    rfl
  rw [run_insertRows_ok (List.ne_nil_of_mem hmem) hinsert]
  exact ⟨id, ts, rows, hour, p, rfl, computed, hcomputed, hload, hmem⟩

/-- The local hour that is read. -/
def readHour : TableEvent → Option String
  | ⟨.strftimeHour, hour⟩ => some hour
  | _ => none

/-- A snapshot write without an exception, whose statements are those behind `_ensure_mariadb`. -/
structure StoredWrite where
  intervalSec : ℚ
  decoded : Decoded
  rawRegisters : Dict Nat Nat
  before : Tables
  after : Tables
  statements : List TableEvent
  run : (insertAll intervalSec decoded rawRegisters).Run statements (.ok ())
  steps : Steps Tables.step before statements after
  id : Nat
  hour : String
  id_new : id ∈ statements.filterMap newSnapshot
  hour_read : hour ∈ statements.filterMap readHour

theorem upsertEvents_none {β : Type} {f : TableEvent → Option β} {hour : String}
    {us : List (String × Option PyFloat × Option PyFloat)} (h : ∀ u, f (upsertEvent hour u) = none) :
    (us.map (upsertEvent hour)).filterMap f = [] :=
  List.filterMap_eq_nil_iff.mpr fun ev hev => by
    obtain ⟨u, -, rfl⟩ := List.mem_map.mp hev
    exact h u

namespace StoredWrite

variable (w : StoredWrite)

theorem statements_eq : ∃ (ts : Nat) (rows : List RegisterRow) (p : PowersRead w.decoded),
    w.statements = ⟨.insertSnapshot w.rawRegisters, (Executed.ok (w.id, ts) : Executed (Nat × Nat))⟩ ::
      ⟨.insertRegisters w.id rows, (Executed.ok () : Executed Unit)⟩ :: ⟨.strftimeHour, w.hour⟩ ::
        (p.upserts (w.intervalSec / 3600)).map (upsertEvent w.hour) ∧
    (∀ u ∈ p.upserts (w.intervalSec / 3600), (u.2.1.toList ++ u.2.2.toList).all finite) ∧
    ∃ computed, buildComputed w.decoded = .ok computed ∧ computed.get? "load_power" = some p.load ∧
      ⟨"load_power", p.load, "W"⟩ ∈ rows := by
  obtain ⟨id, ts, rows, hour, p, hstatements, hload⟩ := run_insertAll w.run
  have hid : w.id = id := by
    have hmem := w.id_new
    rw [hstatements] at hmem
    have hrest : ((p.upserts (w.intervalSec / 3600)).map (upsertEvent hour)).filterMap newSnapshot = [] :=
      upsertEvents_none fun _ => rfl
    have hmem : w.id ∈ id :: ((p.upserts (w.intervalSec / 3600)).map (upsertEvent hour)).filterMap newSnapshot := hmem
    rw [hrest] at hmem
    exact List.mem_singleton.mp hmem
  have hhour : w.hour = hour := by
    have hmem := w.hour_read
    rw [hstatements] at hmem
    have hrest : ((p.upserts (w.intervalSec / 3600)).map (upsertEvent hour)).filterMap readHour = [] :=
      upsertEvents_none fun _ => rfl
    have hmem : w.hour ∈ hour :: ((p.upserts (w.intervalSec / 3600)).map (upsertEvent hour)).filterMap readHour := hmem
    rw [hrest] at hmem
    exact List.mem_singleton.mp hmem
  subst hid hhour
  refine ⟨ts, rows, p, hstatements, fun u hu => ?_, hload⟩
  -- the database has accepted the values
  have haccepts : ∀ ev ∈ w.statements, ∀ hour u, ev = upsertEvent hour u →
      (u.2.1.toList ++ u.2.2.toList).all finite := by
    refine w.steps.events ?_
    rintro a ev b ⟨hans, -⟩ hour u rfl
    exact hans rfl
  refine haccepts (upsertEvent w.hour u) ?_ w.hour u rfl
  rw [hstatements]
  exact List.mem_cons_of_mem _ (List.mem_cons_of_mem _ (List.mem_cons_of_mem _ (List.mem_map.mpr ⟨u, hu, rfl⟩)))

/-- A write adds the energy of the four categories to the rows of its hour. -/
theorem energy_after (hfinite : w.before.EnergyFinite) (keys : String × String → Bool) :
    w.after.energy keys = w.before.energy keys + (EnergyCategory.all.map fun c =>
        if keys (w.hour, c.name) then c.energy w.intervalSec w.decoded else 0).sum ∧
      w.after.EnergyFinite := by
  obtain ⟨ts, rows, p, hstatements, haccepted, -⟩ := w.statements_eq
  obtain ⟨henergy, hafter⟩ := LuxMon.energy_after keys hfinite w.steps
  refine ⟨?_, hafter⟩
  rw [henergy, hstatements]
  have hadded : (((p.upserts (w.intervalSec / 3600)).map (upsertEvent w.hour)).map (added keys)) =
      EnergyCategory.all.map fun c => if keys (w.hour, c.name) then c.energy w.intervalSec w.decoded else 0 := by
    have h := congrArg (List.map fun x : String × (ℚ × ℚ) => if keys (w.hour, x.1) then x.2 else 0)
      (p.upserts_energy haccepted)
    rw [List.map_map, List.map_map] at h
    rw [List.map_map]
    refine Eq.trans (List.map_congr_left fun u _ => ?_) h
    simp [upsertEvent, added, Executed.done?]
  rw [List.map_cons, List.map_cons, List.map_cons, List.sum_cons, List.sum_cons, List.sum_cons, hadded]
  show _ + (0 + (0 + (0 + _))) = _
  rw [zero_add, zero_add, zero_add]

/-- The load power is stored with the snapshot. -/
theorem load_stored : ∃ computed, buildComputed w.decoded = .ok computed ∧
    computed.get? "load_power" = some (.fin (loadPower w.decoded)) ∧
      ⟨"load_power", .fin (loadPower w.decoded), "W"⟩ ∈ w.after.registersOf w.id := by
  obtain ⟨ts, rows, p, hstatements, haccepted, computed, hcomputed, hload, hrow⟩ := w.statements_eq
  rw [(p.pv_load haccepted).2] at hload hrow
  refine ⟨computed, hcomputed, hload, ?_⟩
  rw [registersOf_after w.steps]
  refine List.mem_append_right _ (List.mem_flatten.mpr ⟨rows, List.mem_filterMap.mpr
    ⟨⟨.insertRegisters w.id rows, (Executed.ok () : Executed Unit)⟩, ?_, if_pos ⟨rfl, rfl⟩⟩, hrow⟩)
  rw [hstatements]
  exact List.mem_cons_of_mem _ List.mem_cons_self

end StoredWrite

/-! ## Whole runs -/

/-- The rows of a category, over all hours. -/
def EnergyCategory.rows (c : EnergyCategory) (key : String × String) : Bool := decide (key.2 = c.name)

/-- The row of a category in one hour. -/
def EnergyCategory.row (c : EnergyCategory) (hour : String) (key : String × String) : Bool := decide (key = (hour, c.name))

theorem sum_all_if (c : EnergyCategory) (g : EnergyCategory → ℚ × ℚ) :
    (EnergyCategory.all.map fun c' => if c'.name = c.name then g c' else 0).sum = g c := by
  cases c <;> simp [EnergyCategory.all, EnergyCategory.name]

theorem sum_row {es : List ((String × String) × EnergyRow)} (hnodup : (es.map Prod.fst).Nodup) {key : String × String}
    {row : EnergyRow} (hmem : (key, row) ∈ es) :
    ((es.filter fun e => decide (e.1 = key)).map fun e => e.2.amounts).sum = row.amounts := by
  induction es with
  | nil => cases hmem
  | cons e es ih =>
    obtain ⟨hnot, hnodup⟩ := List.nodup_cons.mp hnodup
    rcases List.mem_cons.mp hmem with rfl | hmem
    · have hrest : (es.filter fun e => decide (e.1 = key)) = [] := List.filter_eq_nil_iff.mpr fun e he heq =>
        hnot (List.mem_map.mpr ⟨e, he, of_decide_eq_true heq⟩)
      have hfilter : ((key, row) :: es).filter (fun e => decide (e.1 = key)) = [(key, row)] := by
        rw [List.filter_cons_of_pos (by simp), hrest]
      rw [hfilter]
      exact List.sum_singleton
    · have hne : e.1 ≠ key := fun heq => hnot (List.mem_map.mpr ⟨(key, row), hmem, heq.symm⟩)
      rw [List.filter_cons_of_neg (by simpa using hne)]
      exact ih hnodup hmem

/-- The sum over a row is what the row holds. -/
theorem energy_row {t : Tables} {hour : String} {c : EnergyCategory} {row : EnergyRow}
    (h : t.hourlyEnergy.get? (hour, c.name) = some row) : t.energy (c.row hour) = row.amounts :=
  sum_row t.hourlyEnergy.nodup (Dict.mem_entries.mpr h)

/-- One snapshot write after the other, nothing else being written to the rows in between. -/
abbrev WriteRun (t : Tables) (ws : List StoredWrite) : Prop :=
  Runs (fun _ : StoredWrite => True) StoredWrite.before StoredWrite.after t ws

section
variable {t : Tables} {ws : List StoredWrite}

theorem energy_run (hfinite : t.EnergyFinite) (hrun : WriteRun t ws) (keys : String × String → Bool) :
    (finalState StoredWrite.after t ws).energy keys = t.energy keys + (ws.map fun w =>
      (EnergyCategory.all.map fun c => if keys (w.hour, c.name) then c.energy w.intervalSec w.decoded else 0).sum).sum := by
  induction ws generalizing t with
  | nil => exact (add_zero _).symm
  | cons w ws ih =>
    obtain ⟨rfl, -, hrest⟩ := hrun
    obtain ⟨henergy, hafter⟩ := w.energy_after hfinite keys
    show (finalState StoredWrite.after w.after ws).energy keys = _
    rw [ih hafter hrest, henergy, List.map_cons, List.sum_cons, add_assoc]

theorem registers_run (hrun : WriteRun t ws) {id : Nat} {row : RegisterRow} (h : row ∈ t.registersOf id) :
    row ∈ (finalState StoredWrite.after t ws).registersOf id := by
  induction ws generalizing t with
  | nil => exact h
  | cons w ws ih =>
    obtain ⟨rfl, -, hrest⟩ := hrun
    refine ih hrest ?_
    rw [registersOf_after w.steps]
    exact List.mem_append_left _ h

theorem load_run (hrun : WriteRun t ws) {w : StoredWrite} (hw : w ∈ ws) :
    ∃ computed, buildComputed w.decoded = .ok computed ∧
      computed.get? "load_power" = some (.fin (loadPower w.decoded)) ∧
        ⟨"load_power", .fin (loadPower w.decoded), "W"⟩ ∈ (finalState StoredWrite.after t ws).registersOf w.id := by
  induction ws generalizing t with
  | nil => cases hw
  | cons w' ws ih =>
    obtain ⟨-, -, hrest⟩ := hrun
    rcases List.mem_cons.mp hw with rfl | hw
    · obtain ⟨computed, hcomputed, hload, hrow⟩ := w.load_stored
      exact ⟨computed, hcomputed, hload, registers_run hrest hrow⟩
    · exact ih hrest hw

/-- The rows hold what they held before, and the integral of the powers of the snapshots. -/
structure Integrates (t : Tables) (ws : List StoredWrite) (t' : Tables) : Prop where
  total : ∀ c : EnergyCategory,
    t'.energy c.rows = t.energy c.rows + (ws.map fun w => c.energy w.intervalSec w.decoded).sum
  hourly : ∀ (hour : String) (c : EnergyCategory) (row : EnergyRow), t'.hourlyEnergy.get? (hour, c.name) = some row →
    row.amounts = t.energy (c.row hour) +
      ((ws.filter fun w => w.hour = hour).map fun w => c.energy w.intervalSec w.decoded).sum
  /-- the load power is the one that is stored with the snapshot -/
  load : ∀ w ∈ ws, ∃ computed, buildComputed w.decoded = .ok computed ∧
    computed.get? "load_power" = some (.fin (loadPower w.decoded)) ∧
      ⟨"load_power", .fin (loadPower w.decoded), "W"⟩ ∈ t'.registersOf w.id

/-- The rows hold the integral of the powers that were written. -/
theorem hourly_energy_integrates (hfinite : t.EnergyFinite) (hrun : WriteRun t ws) :
    Integrates t ws (finalState StoredWrite.after t ws) := by
  refine ⟨fun c => ?_, fun hour c row hrow => ?_, fun w hw => load_run hrun hw⟩
  · rw [energy_run hfinite hrun]
    congr 2
    refine List.map_congr_left fun w _ => ?_
    have hsum := sum_all_if c fun c' => c'.energy w.intervalSec w.decoded
    simpa [EnergyCategory.rows] using hsum
  · rw [← energy_row hrow, energy_run hfinite hrun, sum_filter]
    congr 2
    refine List.map_congr_left fun w _ => ?_
    by_cases hw : w.hour = hour
    · have hsum := sum_all_if c fun c' => c'.energy w.intervalSec w.decoded
      simpa [EnergyCategory.row, hw] using hsum
    · simp [EnergyCategory.row, hw]

end

/-- Four seconds of sun into a house without a battery. -/
def sunnyMoment : Decoded := .ofList [
  ("pv1_power", { value := .float (.fin 3000), unit := "W" }),
  ("grid_export_power", { value := .float (.fin 1200), unit := "W" })]

/-- The write of the moment in an hour. -/
def sunnyRun (hour : String) (before : Tables) : List TableEvent × Except PyErr Unit × Tables :=
  Prog.exec (Tables.answer hour noSettings) before (insertAll 4 sunnyMoment .empty)

theorem ok_of_isOk {out : Except PyErr Unit} (h : out.isOk = true) : out = .ok () := by
  cases out with
  | ok a => rfl
  | error e => cases h

def sunnyWrite (hour : String) (before : Tables) (id : Nat) (hok : (sunnyRun hour before).2.1.isOk = true)
    (hid : id ∈ (sunnyRun hour before).1.filterMap newSnapshot)
    (hhour : hour ∈ (sunnyRun hour before).1.filterMap readHour) : StoredWrite where
  intervalSec := 4
  decoded := sunnyMoment
  rawRegisters := .empty
  before := before
  after := (sunnyRun hour before).2.2
  statements := (sunnyRun hour before).1
  run := ok_of_isOk hok ▸ (Prog.exec_spec Tables.step (Tables.answer hour noSettings) (answer_step _ _) _ _).1
  steps := (Prog.exec_spec Tables.step (Tables.answer hour noSettings) (answer_step _ _) _ _).2
  id := id
  hour := hour
  id_new := hid
  hour_read := hhour

/-- Two writes in an hour, and one in the next. -/
def noonWrite : StoredWrite :=
  sunnyWrite "2024-06-01 12:00:00" .empty 1 (by decide +kernel) (by decide +kernel) (by decide +kernel)

def secondWrite : StoredWrite :=
  sunnyWrite "2024-06-01 12:00:00" noonWrite.after 2 (by decide +kernel) (by decide +kernel) (by decide +kernel)

def nextHourWrite : StoredWrite :=
  sunnyWrite "2024-06-01 13:00:00" secondWrite.after 3 (by decide +kernel) (by decide +kernel) (by decide +kernel)

theorem noon_integrates : Integrates .empty [noonWrite, secondWrite, nextHourWrite] nextHourWrite.after :=
  hourly_energy_integrates (fun _ _ h => by cases h)
    ⟨rfl, trivial, rfl, trivial, rfl, trivial, trivial⟩

end LuxMon
