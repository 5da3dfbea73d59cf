import LuxMon.Framing.Scan
import LuxMon.Protocol.Frame

/-!
# Frames of the EG4 battery protocol

`_split_frames` walks over what was received: a frame begins with A5 5A and a length byte, which
counts what follows it.  Where no complete frame begins one byte is passed over.

    the loop ends, and its frames are disjoint slices; frames between garbage are all found   (splitFrames_exact)
-/

namespace LuxMon.Eg4A5

open Python Framing

/-! ## Algorithm -/

def MAGIC : Bytes := [0xA5, 0x5A]

/-- The loop of `_split_frames`, from `i` on; none when it has not ended after the turns. -/
def splitLoop (data : Bytes) : Nat → Nat → List Bytes → Option (List Bytes)
  | 0, _, _ => none
  | turns + 1, i, frames =>
    if h : i + 2 < data.length then
      if slice data i (i + 2) = MAGIC then
        let length := data[i + 2].toNat
        let stop := i + 3 + length
        if stop ≤ data.length then splitLoop data turns stop (frames ++ [slice data i stop])
        else splitLoop data turns (i + 1) frames
      else splitLoop data turns (i + 1) frames
    else some frames

/-- `_split_frames`: every turn but the last moves on. -/
def splitFrames (data : Bytes) : Option (List Bytes) := splitLoop data (data.length + 1) 0 []

/-! ## The format -/

/-- The length of the frame in front. -/
def frameSize : Bytes → Option Nat
  | 0xA5 :: 0x5A :: length :: rest => if length.toNat ≤ rest.length then some (3 + length.toNat) else none
  | _ => none

/-- A5 5A, the length, and as many bytes. -/
structure IsFrame (u : Bytes) : Prop where
  starts : u.take 2 = MAGIC
  length_eq : ∃ length, u[2]? = some length ∧ u.length = 3 + length.toNat

theorem frameSize_eq_some {bs : Bytes} {n : Nat} : frameSize bs = some n ↔
    ∃ length rest, bs = 0xA5 :: 0x5A :: length :: rest ∧ length.toNat ≤ rest.length ∧ 3 + length.toNat = n := by
  constructor
  · intro h
    unfold frameSize at h
    split at h
    · split_ifs at h with hle
      exact ⟨_, _, rfl, hle, Option.some.inj h⟩
    · cases h
  · rintro ⟨length, rest, rfl, hle, rfl⟩
    exact if_pos hle

def a5Format : Format UInt8 where
  size := frameSize
  size_pos h := by
    obtain ⟨length, rest, -, -, rfl⟩ := frameSize_eq_some.mp h
    omega
  size_le h := by
    obtain ⟨length, rest, rfl, hle, rfl⟩ := frameSize_eq_some.mp h
    simp only [List.length_cons]
    omega
  size_take h := by
    obtain ⟨length, rest, rfl, hle, rfl⟩ := frameSize_eq_some.mp h
    refine frameSize_eq_some.mpr ⟨length, rest.take length.toNat, ?_, ?_, rfl⟩
    · rw [Nat.add_comm]
      rfl
    · rw [List.length_take]
      omega
  size_append more h := by
    obtain ⟨length, rest, rfl, hle, rfl⟩ := frameSize_eq_some.mp h
    refine frameSize_eq_some.mpr ⟨length, rest ++ more, rfl, ?_, rfl⟩
    rw [List.length_append]
    omega

theorem complete_iff {u : Bytes} : a5Format.Complete u ↔ IsFrame u := by
  refine Iff.trans frameSize_eq_some ?_
  constructor
  · rintro ⟨length, rest, rfl, -, hlen⟩
    exact ⟨rfl, length, rfl, hlen.symm⟩
  · rintro ⟨hstarts, length, hlength, hlen⟩
    match u with
    | [] | [_] | [_, _] => cases hlength
    | a :: b :: c :: rest =>
      obtain ⟨rfl, rfl⟩ : a = 0xA5 ∧ b = 0x5A := by simpa [MAGIC] using hstarts
      obtain rfl : c = length := Option.some.inj hlength
      refine ⟨c, rest, rfl, ?_, hlen.symm⟩
      simp only [List.length_cons] at hlen
      omega

theorem three_le_size {bs : Bytes} {n : Nat} (h : a5Format.size bs = some n) : 3 ≤ n := by
  obtain ⟨length, rest, -, -, rfl⟩ := frameSize_eq_some.mp h
  omega

/-- Too little is left for a frame. -/
theorem scan_short {bs : Bytes} {us : List Bytes} (h : Scan a5Format bs us) (hshort : bs.length < 3) : us = [] := by
  induction h with
  | done => rfl
  | skip _ _ ih => exact ih (by rw [List.length_cons] at hshort; omega)
  | unit hsize _ _ =>
    have hthree := three_le_size hsize
    have hle := a5Format.size_le hsize
    omega

/-! ## The loop is the scan -/

section
variable {data : Bytes} {i : Nat}

theorem slice_eq (data : Bytes) (i n : Nat) : slice data i (i + n) = (data.drop i).take n := by
  unfold slice
  rw [List.drop_take, Nat.add_sub_cancel_left]

theorem drop_three (h : i + 2 < data.length) :
    data.drop i = data[i] :: data[i + 1] :: data[i + 2] :: data.drop (i + 3) := by
  rw [List.drop_eq_getElem_cons (by omega), List.drop_eq_getElem_cons (by omega), List.drop_eq_getElem_cons (by omega)]

/-- The tests of one turn ask for a complete frame at `i`. -/
theorem size_drop (h : i + 2 < data.length) : a5Format.size (data.drop i) =
    if slice data i (i + 2) = MAGIC ∧ i + 3 + data[i + 2].toNat ≤ data.length then some (3 + data[i + 2].toNat)
    else none := by
  have hrest : (data.drop (i + 3)).length = data.length - (i + 3) := List.length_drop
  rw [slice_eq]
  split_ifs with hframe
  · obtain ⟨hmagic, hle⟩ := hframe
    rw [drop_three h] at hmagic ⊢
    injection hmagic with ha hmagic
    injection hmagic with hb _
    rw [ha, hb]
    exact if_pos (by omega)
  · cases hsize : a5Format.size (data.drop i) with
    | none => rfl
    | some n =>
      obtain ⟨length, rest, hdrop, hle, -⟩ := frameSize_eq_some.mp hsize
      refine absurd ⟨by rw [hdrop]; rfl, ?_⟩ hframe
      rw [drop_three h] at hdrop
      injection hdrop with _ hdrop
      injection hdrop with _ hdrop
      injection hdrop with hlength hdrop
      rw [← hlength, ← hdrop, hrest] at hle
      omega

/-- One turn. -/
theorem splitLoop_turn (h : i + 2 < data.length) (turns : Nat) (frames : List Bytes) :
    splitLoop data (turns + 1) i frames = match a5Format.size (data.drop i) with
      | some n => splitLoop data turns (i + n) (frames ++ [(data.drop i).take n])
      | none => splitLoop data turns (i + 1) frames := by
  rw [size_drop h, splitLoop, dif_pos h]
  by_cases hmagic : slice data i (i + 2) = MAGIC
  · by_cases hle : i + 3 + data[i + 2].toNat ≤ data.length
    · simp only [if_pos hmagic, if_pos hle, if_pos (And.intro hmagic hle)]
      rw [Nat.add_assoc, slice_eq]
    · simp only [if_pos hmagic, if_neg hle, if_neg fun h : _ ∧ _ => hle h.2]
  · simp only [if_neg hmagic, if_neg fun h : _ ∧ _ => hmagic h.1]

theorem splitLoop_end (h : ¬ i + 2 < data.length) (turns : Nat) (frames : List Bytes) :
    splitLoop data (turns + 1) i frames = some frames := dif_neg h

/-- By induction on the scan of what is left: a turn finds its next frame, or passes over a byte. -/
theorem splitLoop_scan {rest : Bytes} {us : List Bytes} (h : Scan a5Format rest us) :
    ∀ {i : Nat}, data.drop i = rest → i ≤ data.length → ∀ (frames : List Bytes) (turns : Nat),
      data.length - i < turns → splitLoop data turns i frames = some (frames ++ us) := by
  induction h with
  | done =>
    intro i hrest hi frames turns hturns
    obtain ⟨turns, rfl⟩ := Nat.exists_eq_add_of_lt hturns
    have hlen := List.drop_eq_nil_iff.mp hrest
    rw [List.append_nil]
    exact splitLoop_end (by omega) _ frames
  | @skip b bs us hsize hscan ih =>
    intro i hrest hi frames turns hturns
    obtain ⟨k, rfl⟩ := Nat.exists_eq_add_of_lt hturns
    have hlen := congrArg List.length hrest
    rw [List.length_drop, List.length_cons] at hlen
    by_cases hmore : i + 2 < data.length
    · rw [splitLoop_turn hmore, hrest, hsize]
      refine ih ?_ (by omega) frames _ (by omega)
      rw [← List.drop_drop, hrest]
      rfl
    · have hnil : us = [] := scan_short hscan (by omega)
      rw [hnil, List.append_nil]
      exact splitLoop_end hmore _ frames
  | @unit bs n us hsize hscan ih =>
    intro i hrest hi frames turns hturns
    obtain ⟨k, rfl⟩ := Nat.exists_eq_add_of_lt hturns
    have hlen := congrArg List.length hrest
    rw [List.length_drop] at hlen
    have hthree := three_le_size hsize
    have hle := a5Format.size_le hsize
    rw [splitLoop_turn (by omega), hrest, hsize]
    have hdrop : data.drop (i + n) = bs.drop n := by rw [← List.drop_drop, hrest]
    refine (ih hdrop (by omega) (frames ++ [bs.take n]) _ (by omega)).trans ?_
    rw [List.append_assoc]
    rfl

end

theorem splitFrames_scan {data : Bytes} {us : List Bytes} (h : Scan a5Format data us) :
    ∀ turns, data.length < turns → splitLoop data turns 0 [] = some us :=
  fun turns hturns => splitLoop_scan h rfl (Nat.zero_le _) [] turns hturns

/-! ## Frames between garbage -/

/-- Bytes without the pair A5 5A.  The pair cannot lie across the join with a frame either, which begins with A5. -/
structure Garbage where
  bytes : Bytes
  noPair : ¬ MAGIC <:+: bytes

/-- Any length byte, and a payload of that length. -/
structure Frame where
  length : UInt8
  payload : Bytes
  length_eq : payload.length = length.toNat

def Frame.bytes (f : Frame) : Bytes := 0xA5 :: 0x5A :: f.length :: f.payload

theorem Frame.complete (f : Frame) : a5Format.Complete f.bytes := by
  refine complete_iff.mpr ⟨rfl, f.length, rfl, ?_⟩
  simp only [Frame.bytes, List.length_cons, f.length_eq]
  omega

/-- Frames, each behind some garbage, and garbage at the end. -/
def interleave (parts : List (Garbage × Frame)) (last : Garbage) : Bytes :=
  (parts.flatMap fun p => p.1.bytes ++ p.2.bytes) ++ last.bytes

/-- No frame begins in garbage. -/
theorem Garbage.silent (g : Garbage) {rest : Bytes} (hrest : rest.head? ≠ some 0x5A) :
    Scan.Silent a5Format g.bytes rest := by
  intro b bs hsuffix
  cases hsize : a5Format.size (b :: (bs ++ rest)) with
  | none => rfl
  | some n =>
    obtain ⟨length, more, heq, -, -⟩ := frameSize_eq_some.mp hsize
    injection heq with hb heq
    cases bs with
    | nil =>
      rw [List.nil_append] at heq
      exact absurd (by rw [heq]; rfl) hrest
    | cons c bs =>
      injection heq with hc _
      refine absurd ?_ g.noPair
      rw [hb, hc] at hsuffix
      exact List.IsInfix.trans ⟨[], bs, rfl⟩ hsuffix.isInfix

theorem scan_interleave (parts : List (Garbage × Frame)) (last : Garbage) :
    Scan a5Format (interleave parts last) (parts.map fun p => p.2.bytes) := by
  induction parts with
  | nil =>
    have hsilent : Scan.Silent a5Format last.bytes [] := last.silent (by decide)
    have hscan := Scan.silent_append hsilent .done
    rwa [List.append_nil] at hscan
  | cons p parts ih =>
    have hframe := Scan.unit_append p.2.complete ih
    have hhead : (p.2.bytes ++ interleave parts last).head? ≠ some 0x5A := by
      show some (0xA5 : UInt8) ≠ some 0x5A
      decide
    have hscan := Scan.silent_append (p.1.silent hhead) hframe
    unfold interleave at hscan ⊢
    rw [List.flatMap_cons, List.append_assoc, List.append_assoc]
    exact hscan

/-- Whatever is received, the loop ends with frames that are disjoint slices of it, one after the other; and
frames between garbage are found, no more and no fewer. -/
theorem splitFrames_exact :
    (∀ data : Bytes, ∃ found : List (ℕ × Bytes),
      (∀ turns, data.length < turns → splitLoop data turns 0 [] = some (found.map Prod.snd)) ∧
      splitFrames data = some (found.map Prod.snd) ∧ Placed data found ∧ ∀ e ∈ found, IsFrame e.2) ∧
    ∀ (parts : List (Garbage × Frame)) (last : Garbage),
      splitFrames (interleave parts last) = some (parts.map fun p => p.2.bytes) := by
  constructor
  · intro data
    obtain ⟨us, hscan⟩ := Scan.exists a5Format data
    obtain ⟨found, rfl, hplaced⟩ := hscan.placed
    refine ⟨found, splitFrames_scan hscan, splitFrames_scan hscan _ (Nat.lt_succ_self _), hplaced, ?_⟩
    intro e he
    exact complete_iff.mp (hscan.complete e.2 (List.mem_map_of_mem he))
  · intro parts last
    exact splitFrames_scan (scan_interleave parts last) _ (Nat.lt_succ_self _)

end LuxMon.Eg4A5
