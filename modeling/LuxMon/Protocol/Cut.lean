import LuxMon.Protocol.FindFrames

/-!
# A stream that is cut

Well-formed frames with any payload, of which only the first bytes have arrived.
`find_frames` steps into the payload of the frame that is cut; what looks like a
frame there is returned as one.

    find_frames of the part is a prefix of find_frames of the whole ↔
      the cut frame holds no whole frame where the scan comes to          (findFrames_cut_iff)
-/

namespace LuxMon

open Python Framing

/-- What has arrived of the frame in which the cut falls. -/
def cutFrame (fs : List WireFrame) (cut : ℕ) : Bytes :=
  let part := (wire fs).take cut
  part.drop (wire (completed WireFrame.bytes fs part.length)).length

/-- The frames of the part are a prefix of the frames of the whole. -/
def CutStable (fs : List WireFrame) (cut : ℕ) : Prop :=
  ∃ found later, findFrames ((wire fs).take cut) = .ok found ∧
    findFrames (wire fs) = .ok (found ++ later)

/-- A unit of the scan is parsed exactly when it has a whole header. -/
theorem frameOf_isSome_iff {u : Bytes} (h : luxFormat.Complete u) :
    (frameOf u).isSome ↔ headerSize ≤ u.length := by
  have hpair := (complete_iff.mp h).1
  constructor
  · intro hsome
    obtain ⟨f, hf⟩ := Option.isSome_iff_exists.mp hsome
    exact (frameOf_raw hpair hf).2
  · intro hlong
    exact ((isFrame_iff_of_complete h).mpr hlong).frameOf_isSome

theorem filterMap_frameOf_eq_nil_iff {p : Bytes} {us : List Bytes} (h : Scan luxFormat p us) :
    us.filterMap frameOf = [] ↔
      ∀ rest, Comes luxFormat p rest → Declares rest → declared rest < headerSize := by
  rw [List.filterMap_eq_nil_iff]
  constructor
  · intro hnone rest hcomes hdecl
    have hsize : luxFormat.size rest = some (declared rest) := frameSize_eq_some.mpr ⟨hdecl, rfl⟩
    have hunit : rest.take (declared rest) ∈ us := h.mem_iff.mpr ⟨rest, _, hcomes, hsize, rfl⟩
    by_contra hlong
    have hlen : (rest.take (declared rest)).length = declared rest := by
      rw [List.length_take]
      have := hdecl.2.2
      omega
    have hsome := (frameOf_isSome_iff (h.complete _ hunit)).mpr (by omega)
    rw [hnone _ hunit] at hsome
    cases hsome
  · intro hshort u hu
    obtain ⟨rest, n, hcomes, hsize, rfl⟩ := h.mem_iff.mp hu
    obtain ⟨hdecl, rfl⟩ := frameSize_eq_some.mp hsize
    have hlt := hshort rest hcomes hdecl
    by_contra hne
    have hsome : (frameOf (rest.take (declared rest))).isSome :=
      Option.isSome_iff_ne_none.mpr hne
    have hlong := (frameOf_isSome_iff (h.complete _ hu)).mp hsome
    rw [List.length_take] at hlong
    omega

/-- What the scan finds in a cut frame is shorter than the frame. -/
theorem length_le_of_mem_scan {p : Bytes} {us : List Bytes} (h : Scan luxFormat p us) {u : Bytes}
    (hu : u ∈ us) : u.length ≤ p.length := by
  obtain ⟨found, rfl, hfound, -⟩ := h.placed
  obtain ⟨e, he, rfl⟩ := List.mem_map.mp hu
  have := (hfound e he).2
  omega

/-- A cut leaves complete frames, a part of the next one, and what comes later. -/
theorem cut_split (fs : List WireFrame) (cut : ℕ) :
    ∃ done rest r, fs = done ++ rest ∧ (wire fs).take cut = wire done ++ cutFrame fs cut ∧
      cutFrame fs cut ++ r = wire rest ∧ Open WireFrame.bytes rest (cutFrame fs cut) := by
  have h : (wire fs).take cut ++ (wire fs).drop cut = wire fs := List.take_append_drop cut (wire fs)
  obtain ⟨rest, p, hfs, hpart, hpr, hopen⟩ := split_stream h
  have hcut : cutFrame fs cut = p := by
    unfold cutFrame
    dsimp only
    generalize completed WireFrame.bytes fs ((wire fs).take cut).length = done at hpart ⊢
    rw [hpart]
    exact List.drop_left
  rw [hcut]
  exact ⟨_, rest, _, hfs, hpart, hpr, hopen⟩

/-- Which cuts `find_frames` survives: those where the scan of what has arrived of the cut
frame comes to no pair with a declared total of 18 bytes or more that has arrived. -/
theorem findFrames_cut_iff (fs : List WireFrame) (cut : ℕ) :
    CutStable fs cut ↔
      ∀ rest, Comes luxFormat (cutFrame fs cut) rest → Declares rest → declared rest < headerSize := by
  obtain ⟨done, rest, r, hfs, hpart, hpr, hopen⟩ := cut_split fs cut
  obtain ⟨us, hscan⟩ := Scan.exists luxFormat (cutFrame fs cut)
  rw [← filterMap_frameOf_eq_nil_iff hscan]
  unfold CutStable
  rw [hpart, findFrames_wire hscan, findFrames_wire_nil]
  constructor
  · rintro ⟨found, later, hfound, hwhole⟩
    obtain rfl := Except.ok.inj hfound
    have hrest : (rest.map fun f => f.parsed) = us.filterMap frameOf ++ later := by
      have := Except.ok.inj hwhole
      rw [hfs, List.map_append, List.append_assoc] at this
      exact List.append_cancel_left this
    by_contra hne
    -- the first frame found in the cut frame would be the cut frame itself, which is longer
    obtain ⟨g, gs, hgs⟩ := List.exists_cons_of_ne_nil hne
    rw [hgs] at hrest
    cases rest with
    | nil => cases hrest
    | cons f rest =>
      have hfg : f.parsed = g := (List.cons.inj hrest).1
      obtain ⟨u, hu, hug⟩ := List.mem_filterMap.mp (hgs ▸ List.mem_cons_self : g ∈ us.filterMap frameOf)
      have hraw := (frameOf_raw (complete_iff.mp (hscan.complete u hu)).1 hug).1
      rw [← hfg, f.parsed_raw] at hraw
      have hle := length_le_of_mem_scan hscan hu
      have hlt : (cutFrame fs cut).length < f.bytes.length := hopen f rfl
      rw [hraw] at hlt
      omega
  · intro hnone
    refine ⟨done.map fun f => f.parsed, rest.map fun f => f.parsed, ?_, ?_⟩
    · rw [hnone, List.append_nil]
    · rw [hfs, List.map_append]

/-! ## A payload that holds a frame -/

/-- A read response for registers 0 to 8 whose values spell a frame of 18 bytes. -/
def nestedFrame : WireFrame where
  bytes := [0xA1, 0x1A, 5, 0, 49, 0, 1, 0xC2] ++ List.replicate 10 0x41 ++ [35, 0, 1, 4] ++
    List.replicate 10 0x31 ++ [0, 0, 18] ++
    ([0xA1, 0x1A, 5, 0, 12, 0, 1, 0xC1] ++ List.replicate 10 0x41) ++ [0x0C, 0x21]
  isFrame := by decide

/-- With the last byte still to come, the frame inside the payload is returned instead. -/
theorem nestedFrame_unstable : ¬ CutStable [nestedFrame] 54 := by
  have hpart : (findFrames ((wire [nestedFrame]).take 54)).map (·.map fun f => f.raw.length) =
      .ok [18] := by decide +kernel
  have hwhole : (findFrames (wire [nestedFrame])).map (·.map fun f => f.raw.length) = .ok [55] := by
    decide +kernel
  rintro ⟨found, later, hfound, hall⟩
  rw [hfound] at hpart
  rw [hall] at hwhole
  have h1 : found.map (fun f => f.raw.length) = [18] := Except.ok.inj hpart
  have h2 : (found ++ later).map (fun f => f.raw.length) = [55] := Except.ok.inj hwhole
  rw [List.map_append, h1] at h2
  simp at h2

end LuxMon
