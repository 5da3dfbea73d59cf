import LuxMon.Storage.Decode

/-!
# What a decoded value depends on

In a register map with distinct names every entry of `decode_registers` comes from one
register, or from the two of a pair, whatever else was read and in whatever order.

    the entry of a name is what its registers give            (get?_decodeRegisters)
    decoding is local and does not see the order               (decodes_locally)
    clamping looks at one entry at a time                      (get?_clampValues)
-/

namespace LuxMon

open Python

/-- No name twice, and none that is taken by the packed field of register 5. -/
structure DistinctNames (registerMap : Dict Nat RegisterDef) : Prop where
  unique : ∀ {n n' r r'}, registerMap.get? n = some r → registerMap.get? n' = some r' → r.name = r'.name → n = n'
  notSoh : ∀ {n r}, registerMap.get? n = some r → r.name ≠ "soh"

theorem distinctNames_of_nodup {registerMap : Dict Nat RegisterDef}
    (hnodup : (registerMap.entries.map fun e => e.2.name).Nodup) (hsoh : ∀ e ∈ registerMap.entries, e.2.name ≠ "soh") :
    DistinctNames registerMap where
  unique := fun hr hr' hname =>
    congrArg Prod.fst (List.inj_on_of_nodup_map hnodup (Dict.mem_entries.mpr hr) (Dict.mem_entries.mpr hr') hname)
  notSoh := fun hr => hsoh _ (Dict.mem_entries.mpr hr)

/-- The registers that an entry is decoded from: the register of its definition, and that of the high word. -/
def RegisterDef.sources (r : RegisterDef) (n : Nat) : List Nat := n :: r.pairHigh.toList

/-- What these registers give. -/
def RegisterDef.entry (r : RegisterDef) (n : Nat) (raw : Dict Nat Nat) : Option Info :=
  (raw.get? n).bind fun value =>
    match r.pairHigh with
    | none => some (r.info value)
    | some high => (raw.get? high).map fun highValue => r.info value highValue

/-! ## The passes -/

/-- The value of a key that stands for one value only. -/
theorem lookup_of_unique {es : List (String × Info)} {name : String} {info : Info} (hmem : (name, info) ∈ es)
    (hunique : ∀ info', (name, info') ∈ es → info' = info) : es.lookup name = some info := by
  cases h : es.lookup name with
  | none =>
    have := List.lookup_eq_none_iff.mp h _ hmem
    simp at this
  | some info' =>
    obtain ⟨front, back, hes, -⟩ := List.lookup_eq_some_iff.mp h
    rw [hunique info' (hes ▸ List.mem_append_right _ List.mem_cons_self)]

/-- A pass assigns to a name what its register gives. -/
theorem lookup_pass {f : Nat × Nat → Option (String × Info)} {name : String} {n : Nat}
    (hname : ∀ x e, f x = some e → e.1 = name → x.1 = n) (hnamed : ∀ v e, f (n, v) = some e → e.1 = name)
    (raw : Dict Nat Nat) :
    (raw.entries.filterMap f).reverse.lookup name = (raw.get? n).bind fun v => (f (n, v)).map Prod.snd := by
  have hentry : ∀ info, (name, info) ∈ (raw.entries.filterMap f).reverse →
      ∃ v, raw.get? n = some v ∧ f (n, v) = some (name, info) := by
    intro info hinfo
    obtain ⟨⟨m, v⟩, hx, hf⟩ := List.mem_filterMap.mp (List.mem_reverse.mp hinfo)
    obtain rfl : m = n := hname _ _ hf rfl
    exact ⟨v, Dict.mem_entries.mp hx, hf⟩
  cases hresult : (raw.get? n).bind fun v => (f (n, v)).map Prod.snd with
  | none =>
    refine List.lookup_eq_none_iff.mpr fun e he => ?_
    by_contra heq
    have hkey : name = e.1 := by simpa using heq
    obtain ⟨v, hv, hf⟩ := hentry e.2 (by rw [hkey]; exact he)
    rw [hv, Option.bind_some, hf] at hresult
    cases hresult
  | some info =>
    obtain ⟨v, hv, hf⟩ := Option.bind_eq_some_iff.mp hresult
    obtain ⟨e, he, rfl⟩ := Option.map_eq_some_iff.mp hf
    have hkey := hnamed v e he
    refine lookup_of_unique ?_ fun info' hinfo' => ?_
    · rw [← hkey]
      exact List.mem_reverse.mpr (List.mem_filterMap.mpr ⟨(n, v), Dict.mem_entries.mpr hv, he⟩)
    · obtain ⟨v', hv', hf'⟩ := hentry info' hinfo'
      obtain rfl := Option.some.inj (hv.symm.trans hv')
      rw [hf'] at he
      rw [← Option.some.inj he]

/-- No other register has the name, nor has the packed field of register 5. -/
structure RegisterDef.Alone (registerMap : Dict Nat RegisterDef) (n : Nat) (r : RegisterDef) : Prop where
  unique : ∀ {n' r'}, registerMap.get? n' = some r' → r'.name = r.name → n' = n
  notSoh : r.name ≠ "soh"

theorem DistinctNames.alone {registerMap : Dict Nat RegisterDef} (hnames : DistinctNames registerMap) {n : Nat}
    {r : RegisterDef} (hr : registerMap.get? n = some r) : r.Alone registerMap n :=
  ⟨fun hr' hname => hnames.unique hr' hr hname, hnames.notSoh hr⟩

/-- Of the maps of the drivers only the entries have to be looked at that are none of a battery. -/
theorem alone_of_entries {family : DriverFamily} {n : Nat} {r : RegisterDef} (hsoh : r.name ≠ "soh")
    (hplain : namesBattery r.name = false)
    (hall : ((baseInputRegisters ++ kpvExtra).all fun e => e.2.name != r.name || e.1 == n) = true) :
    r.Alone family.inputRegisters n := by
  refine ⟨fun {n' r'} hr' hname => ?_, hsoh⟩
  have he := List.all_eq_true.mp hall _ (plainRegisters_mem hr' (hname ▸ hplain))
  simpa [hname] using he

section
variable {registerMap : Dict Nat RegisterDef} {n : Nat} {r : RegisterDef}

/-- A pass that names its entries as the map does assigns to a name what its register gives. -/
theorem lookup_named_pass (halone : r.Alone registerMap n) {f : Nat × Nat → Option (String × Info)}
    (hf : ∀ {x name}, name ∈ (f x).map Prod.fst → ∃ r, registerMap.get? x.1 = some r ∧ r.name = name)
    (hr : registerMap.get? n = some r) (raw : Dict Nat Nat) :
    (raw.entries.filterMap f).reverse.lookup r.name = (raw.get? n).bind fun v => (f (n, v)).map Prod.snd := by
  refine lookup_pass (fun x e he hname => ?_) (fun v e he => ?_) raw
  · have hmem : e.1 ∈ (f x).map Prod.fst := by rw [he]; rfl
    obtain ⟨r', hr', hname'⟩ := hf hmem
    exact halone.unique hr' (hname'.trans hname)
  · have hmem : e.1 ∈ (f (n, v)).map Prod.fst := by rw [he]; rfl
    obtain ⟨r', hr', hname'⟩ := hf hmem
    obtain rfl := Option.some.inj (hr'.symm.trans hr)
    exact hname'.symm

/-- The entry of a register's name. -/
theorem get?_decodeRegisters (halone : r.Alone registerMap n) (hr : registerMap.get? n = some r) (raw : Dict Nat Nat) :
    (decodeRegisters registerMap raw).get? r.name = r.entry n raw := by
  have hpasses : ((Dict.ofList (raw.entries.filterMap (decodeSimple registerMap))).sets
      (raw.entries.filterMap (decodePair registerMap raw))).get? r.name = r.entry n raw := by
    rw [Dict.get?_sets, Dict.get?_ofList, lookup_named_pass halone decodeSimple_name hr,
      lookup_named_pass halone decodePair_name hr]
    unfold RegisterDef.entry decodeSimple decodePair
    simp only [hr, Option.bind_some]
    cases raw.get? n with
    | none => rfl
    | some value =>
      cases hhigh : r.pairHigh with
      | none => simp
      | some high => cases hvalue : raw.get? high <;> simp [hvalue]
  unfold decodeRegisters
  cases raw.get? 5 with
  | none => exact hpasses
  | some value =>
    dsimp only
    rw [Dict.get?_set, if_neg halone.notSoh]
    exact hpasses

variable (hnames : DistinctNames registerMap)
include hnames

/-- Register 5 alone gives the state of health. -/
theorem get?_soh (raw : Dict Nat Nat) : (decodeRegisters registerMap raw).get? "soh" =
    (raw.get? 5).map fun value => { value := .float (.fin (SOH_REGISTER.decode value)), unit := "%" } := by
  have hpasses : ((Dict.ofList (raw.entries.filterMap (decodeSimple registerMap))).sets
      (raw.entries.filterMap (decodePair registerMap raw))).get? "soh" = none := by
    by_contra hsome
    obtain ⟨info, hinfo⟩ := Option.ne_none_iff_exists'.mp hsome
    have hfalse : ∀ {f : Nat × Nat → Option (String × Info)},
        (∀ {x name}, name ∈ (f x).map Prod.fst → ∃ r, registerMap.get? x.1 = some r ∧ r.name = name) →
        "soh" ∉ (raw.entries.filterMap f).map Prod.fst := by
      intro f hf hmem
      obtain ⟨x, -, hx⟩ := mem_filterMap_names.mp hmem
      obtain ⟨r, hr, hname⟩ := hf hx
      exact hnames.notSoh hr hname
    rcases Dict.mem_keys_sets.mp (Dict.mem_keys_iff.mpr ⟨info, hinfo⟩) with h | h
    · rcases Dict.mem_keys_sets.mp h with h | h
      · exact List.not_mem_nil h
      · exact hfalse decodeSimple_name h
    · exact hfalse decodePair_name h
  unfold decodeRegisters
  cases raw.get? 5 with
  | none => exact hpasses
  | some value =>
    dsimp only
    rw [Dict.get?_set, if_pos rfl]
    rfl

end

/-! ## Locality -/

theorem entry_congr {r : RegisterDef} {n : Nat} {raw raw' : Dict Nat Nat}
    (h : ∀ source ∈ r.sources n, raw.get? source = raw'.get? source) : r.entry n raw = r.entry n raw' := by
  unfold RegisterDef.entry
  rw [h n List.mem_cons_self]
  cases hhigh : r.pairHigh with
  | none => rfl
  | some high =>
    have hmem : high ∈ r.sources n := List.mem_cons_of_mem _ (by rw [hhigh]; exact List.mem_singleton_self _)
    simp only [h high hmem]

theorem entry_isSome {r : RegisterDef} {n : Nat} {raw : Dict Nat Nat} :
    (∃ info, r.entry n raw = some info) ↔ ∀ source ∈ r.sources n, source ∈ raw.keys := by
  unfold RegisterDef.entry RegisterDef.sources
  simp only [Dict.mem_keys_iff]
  cases hhigh : r.pairHigh with
  | none => cases hn : raw.get? n <;> simp [hn]
  | some high => cases hn : raw.get? n <;> cases hvalue : raw.get? high <;> simp [hn, hvalue]

/-- Decoding with a map is local and does not see the order of the registers. -/
structure DecodesLocally (registerMap : Dict Nat RegisterDef) : Prop where
  /-- The same contents decode to the same. -/
  order : ∀ raw raw' : Dict Nat Nat, (∀ n, raw.get? n = raw'.get? n) →
    ∀ name, (decodeRegisters registerMap raw).get? name = (decodeRegisters registerMap raw').get? name
  /-- A name is there iff its registers are. -/
  present : ∀ (raw : Dict Nat Nat) (name : String), name ∈ (decodeRegisters registerMap raw).keys ↔
    (∃ n r, registerMap.get? n = some r ∧ r.name = name ∧ ∀ source ∈ r.sources n, source ∈ raw.keys) ∨
      (name = "soh" ∧ 5 ∈ raw.keys)
  /-- No other register changes its entry. -/
  frame : ∀ (raw raw' : Dict Nat Nat) (n : Nat) (r : RegisterDef), registerMap.get? n = some r →
    (∀ source ∈ r.sources n, raw.get? source = raw'.get? source) →
    (decodeRegisters registerMap raw).get? r.name = (decodeRegisters registerMap raw').get? r.name
  soh : ∀ raw raw' : Dict Nat Nat, raw.get? 5 = raw'.get? 5 →
    (decodeRegisters registerMap raw).get? "soh" = (decodeRegisters registerMap raw').get? "soh"

section
variable {registerMap : Dict Nat RegisterDef} (hnames : DistinctNames registerMap)
include hnames

/-- The entry of a register depends on its sources only. -/
theorem decodeRegisters_frame {raw raw' : Dict Nat Nat} {n : Nat} {r : RegisterDef} (hr : registerMap.get? n = some r)
    (h : ∀ source ∈ r.sources n, raw.get? source = raw'.get? source) :
    (decodeRegisters registerMap raw).get? r.name = (decodeRegisters registerMap raw').get? r.name := by
  rw [get?_decodeRegisters (hnames.alone hr) hr, get?_decodeRegisters (hnames.alone hr) hr, entry_congr h]

theorem decodeRegisters_soh {raw raw' : Dict Nat Nat} (h : raw.get? 5 = raw'.get? 5) :
    (decodeRegisters registerMap raw).get? "soh" = (decodeRegisters registerMap raw').get? "soh" := by
  rw [get?_soh hnames, get?_soh hnames, h]

/-- The decoded names are those of the registers whose sources were read. -/
theorem mem_decodeRegisters_iff {raw : Dict Nat Nat} {name : String} : name ∈ (decodeRegisters registerMap raw).keys ↔
    (∃ n r, registerMap.get? n = some r ∧ r.name = name ∧ ∀ source ∈ r.sources n, source ∈ raw.keys) ∨
      (name = "soh" ∧ 5 ∈ raw.keys) := by
  constructor
  · intro h
    obtain ⟨info, hinfo⟩ := Dict.mem_keys_iff.mp h
    rcases mem_decodeRegisters h with ⟨x, -, r, hr, rfl⟩ | rfl
    · rw [get?_decodeRegisters (hnames.alone hr) hr] at hinfo
      exact Or.inl ⟨x.1, r, hr, rfl, entry_isSome.mp ⟨info, hinfo⟩⟩
    · rw [get?_soh hnames] at hinfo
      obtain ⟨value, hvalue, -⟩ := Option.map_eq_some_iff.mp hinfo
      exact Or.inr ⟨rfl, Dict.mem_keys_iff.mpr ⟨value, hvalue⟩⟩
  · rintro (⟨n, r, hr, rfl, hsources⟩ | ⟨rfl, hfive⟩)
    · obtain ⟨info, hinfo⟩ := entry_isSome.mpr hsources
      exact Dict.mem_keys_iff.mpr ⟨info, by rw [get?_decodeRegisters (hnames.alone hr) hr, hinfo]⟩
    · obtain ⟨value, hvalue⟩ := Dict.mem_keys_iff.mp hfive
      exact Dict.mem_keys_iff.mpr ⟨_, by rw [get?_soh hnames, hvalue]; rfl⟩

/-- Dicts with the same contents decode to the same, in whatever order they are. -/
theorem decodeRegisters_order {raw raw' : Dict Nat Nat} (h : ∀ n, raw.get? n = raw'.get? n) (name : String) :
    (decodeRegisters registerMap raw).get? name = (decodeRegisters registerMap raw').get? name := by
  have hkeys : ∀ n, n ∈ raw.keys ↔ n ∈ raw'.keys := fun n => by
    rw [Dict.mem_keys_iff, Dict.mem_keys_iff, h]
  by_cases hname : name ∈ (decodeRegisters registerMap raw).keys
  · rcases (mem_decodeRegisters_iff hnames).mp hname with ⟨n, r, hr, rfl, -⟩ | ⟨rfl, -⟩
    · exact decodeRegisters_frame hnames hr fun source _ => h source
    · exact decodeRegisters_soh hnames (h 5)
  · have hname' : name ∉ (decodeRegisters registerMap raw').keys := by
      rw [mem_decodeRegisters_iff hnames] at hname ⊢
      simpa only [hkeys] using hname
    have hnone : ∀ {d : Decoded}, name ∉ d.keys → d.get? name = none := fun hd => lookup_of_not_mem hd
    rw [hnone hname, hnone hname']

end

theorem decodes_locally {registerMap : Dict Nat RegisterDef} (hnames : DistinctNames registerMap) :
    DecodesLocally registerMap where
  order := fun _ _ h => decodeRegisters_order hnames h
  present := fun _ _ => mem_decodeRegisters_iff hnames
  frame := fun _ _ _ _ hr h => decodeRegisters_frame hnames hr h
  soh := fun _ _ h => decodeRegisters_soh hnames h

/-! ## Clamping -/

/-- The entry of a name after the clamping. -/
def Info.clamped (name : String) (info : Info) : Info :=
  match SANITY_LIMITS.lookup name with
  | some limit => { info with value := clampValue name limit info.value }
  | none => info

theorem get?_clampEntry (decoded : Decoded) (l : String × ℤ) (name : String) : (clampEntry decoded l).get? name =
    if name = l.1 then (decoded.get? name).map fun info => { info with value := clampValue name l.2 info.value }
    else decoded.get? name := by
  unfold clampEntry
  split_ifs with hname
  · subst hname
    cases hinfo : decoded.get? l.1 with
    | none => exact hinfo
    | some info => rw [Dict.get?_set, if_pos rfl]; rfl
  · cases decoded.get? l.1 with
    | none => rfl
    | some info => rw [Dict.get?_set, if_neg hname]

theorem get?_clampValues (decoded : Decoded) (name : String) :
    (clampValues decoded).get? name = (decoded.get? name).map (Info.clamped name) := by
  have hnodup : (SANITY_LIMITS.map Prod.fst).Nodup := by decide
  unfold clampValues Info.clamped
  generalize SANITY_LIMITS = limits at hnodup
  induction limits generalizing decoded with
  | nil =>
    show decoded.get? name = (decoded.get? name).map fun info => info
    rw [Option.map_id']
  | cons l limits ih =>
    obtain ⟨hnot, hnodup⟩ := List.nodup_cons.mp hnodup
    rw [List.foldl_cons, ih _ hnodup, get?_clampEntry, lookup_cons_ite]
    by_cases hname : name = l.1
    · -- no later limit is for the name
      subst hname
      rw [if_pos rfl, if_pos rfl, lookup_of_not_mem hnot]
      show Option.map (fun info => info) _ = _
      rw [Option.map_id']
    · rw [if_neg hname, if_neg hname]

/-- The packed register 5, and a counter of two registers. -/
def smallMap : Dict Nat RegisterDef := .ofList [
  (5, { name := "soc", unit := "%", bitmask := some 0xFF }),
  (40, { name := "pv1_energy_total", unit := "kWh", scale := 0.1, pairHigh := some 41 })]

theorem smallMap_decodes_locally : DecodesLocally smallMap :=
  decodes_locally (distinctNames_of_nodup (by decide) (by decide))

end LuxMon
