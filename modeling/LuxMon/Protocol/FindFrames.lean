import LuxMon.Framing.Stream
import LuxMon.Protocol.Wire

/-!
# What find_frames finds

Every frame that `find_frames` returns is a slice of the buffer with the shape of
a frame, and no well-formed frame between noise is missed.

    the found frames are disjoint slices; frames between noise are all found   (findFrames_exact)
-/

namespace LuxMon

open Python Framing

/-! ## Noise between the frames -/

/-- The pair A1 1A occurs. -/
def hasPair : Bytes → Bool
  | a :: b :: rest => (a == 0xA1 && b == 0x1A) || hasPair (b :: rest)
  | _ => false

/-- Bytes in which no frame can begin. -/
structure Noise where
  bytes : Bytes
  noPair : hasPair bytes = false

theorem hasPair_tail {b : UInt8} {bs : Bytes} (h : hasPair (b :: bs) = false) : hasPair bs = false := by
  cases bs with
  | nil => rfl
  | cons c bs =>
    rw [hasPair, Bool.or_eq_false_iff] at h
    exact h.2

theorem hasPair_suffix {bs g : Bytes} (h : bs <:+ g) (hg : hasPair g = false) : hasPair bs = false := by
  induction g with
  | nil => rwa [List.suffix_nil.mp h]
  | cons b g ih =>
    rcases List.suffix_cons_iff.mp h with rfl | h
    · exact hg
    · exact ih h (hasPair_tail hg)

theorem hasPair_append_left {bs more : Bytes} (h : hasPair (bs ++ more) = false) :
    hasPair bs = false := by
  induction bs with
  | nil => rfl
  | cons b bs ih =>
    have htail := ih (hasPair_tail h)
    cases bs with
    | nil => rfl
    | cons c bs =>
      rw [List.cons_append, List.cons_append, hasPair, Bool.or_eq_false_iff] at h
      rw [hasPair, Bool.or_eq_false_iff]
      exact ⟨h.1, htail⟩

/-- No frame begins where the pair is not in front. -/
theorem size_none_of_noPair {b : UInt8} {bs rest : Bytes} (h : hasPair (b :: bs) = false)
    (hrest : rest.head? ≠ some 0x1A) : luxFormat.size (b :: (bs ++ rest)) = none := by
  refine frameSize_eq_none.mpr fun hdecl => ?_
  have hpair : (b :: (bs ++ rest)).take 2 = [0xA1, 0x1A] := hdecl.1
  cases bs with
  | nil =>
    rw [List.nil_append] at hpair
    cases rest with
    | nil => simp at hpair
    | cons c rest =>
      have hc : c = 0x1A := by
        have := List.cons.inj hpair
        simpa using this.2
      exact hrest (by rw [hc]; rfl)
  | cons c bs =>
    have hbc : b = 0xA1 ∧ c = 0x1A := by simpa using hpair
    rw [hasPair, hbc.1, hbc.2] at h
    simp at h

/-- Noise in front of a buffer is skipped. -/
theorem scan_noise {g rest : Bytes} {us : List Bytes} (hg : hasPair g = false)
    (hrest : rest.head? ≠ some 0x1A) (h : Scan luxFormat rest us) : Scan luxFormat (g ++ rest) us := by
  exact Scan.silent_append (fun b bs hsuffix => size_none_of_noPair (hasPair_suffix hsuffix hg) hrest) h

theorem scan_noise_end {g : Bytes} (hg : hasPair g = false) : Scan luxFormat g [] := by
  have h : Scan luxFormat (g ++ []) [] := scan_noise hg (by simp) .done
  rwa [List.append_nil] at h

theorem WireFrame.head_append (f : WireFrame) (rest : Bytes) :
    (f.bytes ++ rest).head? = some 0xA1 := by
  have h := f.isFrame.starts
  cases hb : f.bytes with
  | nil => rw [hb] at h; cases h
  | cons b bs =>
    rw [hb] at h
    have hb1 : b = 0xA1 := by
      have h2 : (b :: bs).take 2 = b :: bs.take 1 := rfl
      rw [h2] at h
      exact (List.cons.inj h).1
    rw [hb1]
    rfl

/-- The beginning of a frame with the pair at its start only: it is no frame yet, and none
begins inside it. -/
theorem scan_part {f : WireFrame} (hpair : hasPair f.bytes.tail = false) {p : Bytes}
    (hp : p <+: f.bytes) (hlt : p.length < f.bytes.length) : Scan luxFormat p [] := by
  obtain ⟨q, hq⟩ := hp
  cases p with
  | nil => exact .done
  | cons b bs =>
    have hsize : luxFormat.size (b :: bs) = none := by
      refine frameSize_eq_none.mpr fun ⟨_, h6, hle⟩ => ?_
      have hdecl : declared f.bytes = declared (b :: bs) := by
        rw [← hq]
        exact declared_append h6
      have := f.isFrame.length_eq
      omega
    have hnoise : hasPair bs = false := by
      rw [← hq, List.cons_append, List.tail_cons] at hpair
      exact hasPair_append_left hpair
    exact .skip hsize (scan_noise_end hnoise)

/-- Well-formed frames, each behind some noise, and noise at the end. -/
def interleave (parts : List (Noise × WireFrame)) (last : Noise) : Bytes :=
  (parts.flatMap fun p => p.1.bytes ++ p.2.bytes) ++ last.bytes

theorem scan_interleave (parts : List (Noise × WireFrame)) (last : Noise) :
    Scan luxFormat (interleave parts last) (parts.map fun p => p.2.bytes) := by
  induction parts with
  | nil => exact scan_noise_end last.noPair
  | cons p parts ih =>
    have hscan := Scan.unit_append p.2.isFrame.complete ih
    have hhead : (p.2.bytes ++ interleave parts last).head? ≠ some 0x1A := by
      rw [p.2.head_append]
      decide
    have := scan_noise p.1.noPair hhead hscan
    unfold interleave at this ⊢
    rw [List.flatMap_cons, List.append_assoc, List.append_assoc]
    exact this

/-! ## Soundness and completeness -/

/-- The parses of scanned units, each at the position of its unit. -/
theorem placed_parses {data : Bytes} {found : List (ℕ × Bytes)} (hfound : Placed data found)
    (hunits : ∀ e ∈ found, luxFormat.Complete e.2) :
    ∃ parses : List (ℕ × LuxFrame),
      parses.map Prod.snd = (found.map Prod.snd).filterMap frameOf ∧
      Placed data (parses.map fun e => (e.1, e.2.raw)) ∧ ∀ e ∈ parses, IsFrame e.2.raw := by
  have key : ∃ parses : List (ℕ × LuxFrame),
      parses.map Prod.snd = (found.map Prod.snd).filterMap frameOf ∧
      (parses.map fun e => (e.1, e.2.raw)).Sublist found ∧ ∀ e ∈ parses, IsFrame e.2.raw := by
    clear hfound
    induction found with
    | nil => exact ⟨[], rfl, List.Sublist.refl _, by simp⟩
    | cons e found ih =>
      obtain ⟨parses, hmap, hsub, hframes⟩ := ih fun u hu => hunits u (List.mem_cons_of_mem e hu)
      have hcomplete := hunits e List.mem_cons_self
      cases hf : frameOf e.2 with
      | none =>
        refine ⟨parses, ?_, hsub.cons e, hframes⟩
        rw [List.map_cons, List.filterMap_cons_none hf]
        exact hmap
      | some f =>
        obtain ⟨hraw, hlong⟩ := frameOf_raw (complete_iff.mp hcomplete).1 hf
        refine ⟨(e.1, f) :: parses, ?_, ?_, fun u hu => ?_⟩
        · rw [List.map_cons, List.map_cons, List.filterMap_cons_some hf, hmap]
        · rw [List.map_cons]
          show ((e.1, f.raw) :: _).Sublist (e :: found)
          rw [hraw]
          exact hsub.cons_cons e
        · rcases List.mem_cons.mp hu with rfl | hu
          · show IsFrame f.raw
            rw [hraw]
            exact (isFrame_iff_of_complete hcomplete).mpr hlong
          · exact hframes u hu
  obtain ⟨parses, hmap, hsub, hframes⟩ := key
  exact ⟨parses, hmap, hfound.sublist hsub, hframes⟩

/-- Whatever the buffer, the scan ends with frames that are disjoint slices of it, in
increasing position and each in the shape of a frame; and well-formed frames
between noise are all found, in order. -/
theorem findFrames_exact :
    (∀ data : Bytes, ∃ found : List (ℕ × LuxFrame),
      (∀ turns, data.length ≤ turns → scanFrames turns data = .ok (found.map Prod.snd)) ∧
      findFrames data = .ok (found.map Prod.snd) ∧
      Placed data (found.map fun e => (e.1, e.2.raw)) ∧ ∀ e ∈ found, IsFrame e.2.raw) ∧
    ∀ (parts : List (Noise × WireFrame)) (last : Noise),
      findFrames (interleave parts last) = .ok (parts.map fun p => p.2.parsed) := by
  constructor
  · intro data
    obtain ⟨us, hscan⟩ := Scan.exists luxFormat data
    obtain ⟨found, rfl, hplaced⟩ := hscan.placed
    have hunits : ∀ e ∈ found, luxFormat.Complete e.2 := fun e he =>
      hscan.complete e.2 (List.mem_map_of_mem he)
    obtain ⟨parses, hmap, hp, hframes⟩ := placed_parses hplaced hunits
    refine ⟨parses, fun turns hturns => ?_, ?_, hp, hframes⟩
    · rw [scanFrames_scan hscan turns hturns, hmap]
    · rw [findFrames_scan hscan, hmap]
  · intro parts last
    rw [findFrames_scan (scan_interleave parts last), List.filterMap_map]
    have : (frameOf ∘ fun p : Noise × WireFrame => p.2.bytes) = fun p => some p.2.parsed := by
      funext p
      exact p.2.frameOf_eq
    rw [this, List.filterMap_eq_map']

/-! ## Frames one after the other -/

/-- The bytes of well-formed frames one after the other. -/
def wire (fs : List WireFrame) : Bytes := concat WireFrame.bytes fs

theorem findFrames_wire {fs : List WireFrame} {p : Bytes} {us : List Bytes}
    (hp : Scan luxFormat p us) :
    findFrames (wire fs ++ p) = .ok ((fs.map fun f => f.parsed) ++ us.filterMap frameOf) := by
  have hfs : ∀ f ∈ fs, luxFormat.Complete (WireFrame.bytes f) := fun f _ => f.isFrame.complete
  unfold wire
  rw [findFrames_scan (scan_received hfs hp), List.filterMap_append, List.filterMap_map]
  have : frameOf ∘ WireFrame.bytes = fun f => some f.parsed := by
    funext f
    exact f.frameOf_eq
  rw [this, List.filterMap_eq_map']

theorem findFrames_wire_nil (fs : List WireFrame) :
    findFrames (wire fs) = .ok (fs.map fun f => f.parsed) := by
  have h : findFrames (wire fs ++ []) = .ok ((fs.map fun f => f.parsed) ++ [].filterMap frameOf) :=
    findFrames_wire Scan.done
  rwa [List.append_nil, List.filterMap_nil, List.append_nil] at h

theorem findFrames_frame (f : WireFrame) : findFrames f.bytes = .ok [f.parsed] := by
  have h := findFrames_wire_nil [f]
  rwa [show wire [f] = f.bytes from List.append_nil f.bytes] at h

end LuxMon
