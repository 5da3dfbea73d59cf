import LuxMon.Rs485.Eg4A5
import LuxMon.Rs485.JkTruncated
import LuxMon.Signals.Leftmost

/-!
# The EG4 battery over A5/5A

`Eg4A5BmsDevice.read` listens for a while, splits what it heard into frames and keeps
what the last status frame and the last cells frame said; each poll that hears any frame
answers all of it.

    a poll never raises; its answer is what the last frames of the two kinds said,
      however long ago, and nothing when the poll heard no frame         (polls_answer)
    the cell figures are those of the leftmost lowest and highest cell of the last
      cells frame                                                     (report_cells)
-/

namespace LuxMon.Eg4A5

open Python Framing Signals

/-! ## Algorithm -/

/-- `CMD_STATUS` and `CMD_CELLS`. -/
def CMD_STATUS : Nat × Nat := (0x82, 0x10)
def CMD_CELLS : Nat × Nat := (0x82, 0x11)

/-- `_u16_be`; it does what `_get_u16` of the JK driver does. -/
def u16Be : Bytes → Nat → Except PyErr Nat := JkBms.getU16

/-- `_s16_be`. -/
def s16Be (data : Bytes) (offset : Nat) : Except PyErr ℤ := do
  let val ← u16Be data offset
  return if 0x8000 ≤ val then (val : ℤ) - 0x10000 else val

/-- `round(x, n)`. -/
def decimals (n : Nat) (x : ℚ) : ℚ := roundHalfEven (x * 10 ^ n) / 10 ^ n

/-- The fields that are passed on as they are, with their offsets. -/
def statusWords : List (String × Nat) := [
  ("temperature_pcb", 5), ("field_7_8", 7), ("field_9_10", 9), ("field_11_12", 11), ("field_13_14", 13),
  ("field_15_16", 15), ("avg_cell_voltage", 17), ("field_19_20", 19), ("status_word", 21), ("protection_word", 23),
  ("field_25_26", 25), ("error_word", 27), ("field_29_30", 29), ("field_31_32", 31), ("field_33_34", 33)]

/-- One of these fields. -/
def statusWord (payload : Bytes) (w : String × Nat) : Except PyErr (String × ℚ) := do
  let value ← u16Be payload w.2
  return (w.1, (value : ℚ))

/-- `_parse_status`. -/
def parseStatus (payload : Bytes) : Except PyErr (Option (List (String × ℚ))) := do
  if payload.length < 35 then return none
  let voltageRaw ← u16Be payload 1
  let currentRaw ← s16Be payload 3
  let voltage := decimals 2 (voltageRaw * 0.01)
  let current := decimals 2 (currentRaw * 0.01)
  let words ← statusWords.mapM (statusWord payload)
  return some ([("voltage_raw", (voltageRaw : ℚ)), ("current_raw", (currentRaw : ℚ)), ("voltage", voltage),
    ("current", current), ("power", decimals 2 (voltage * current))] ++ words)

/-- What the loop over the cells leaves in the result. -/
def cellEntries (cellVoltages : List Nat) : List (String × ℚ) :=
  let low := scanBest (· < ·) 10000 cellVoltages
  let high := scanBest (· > ·) 0 cellVoltages
  [("cell_count", 16)] ++
    (cellVoltages.zipIdx 1).map (fun c => (JkBms.cellKey c.2, decimals 3 (c.1 * 0.001))) ++
    [("cell_min_voltage", decimals 3 (low.1 * 0.001)), ("cell_max_voltage", decimals 3 (high.1 * 0.001)),
      ("cell_avg_voltage", decimals 3 (cellVoltages.sum / 16 * 0.001)),
      ("cell_delta_voltage", decimals 3 (((high.1 : ℤ) - low.1 : ℤ) * 0.001)),
      ("cell_min_index", low.2), ("cell_max_index", high.2)]

/-- `_parse_cells`. -/
def parseCells (payload : Bytes) : Except PyErr (Option (List (String × ℚ))) := do
  if payload.length < 33 then return none
  let cellVoltages ← (List.range 16).mapM fun i => u16Be payload (1 + i * 2)
  return some (cellEntries cellVoltages)

/-- The fields of the answer that are no cell voltages, with their units. -/
def resultUnits : List (String × String) := [
  ("voltage", "V"), ("current", "A"), ("power", "W"), ("temperature_pcb", "°C"), ("avg_cell_voltage", "mV"),
  ("field_25_26", ""), ("error_word", ""), ("cell_count", ""), ("cell_min_voltage", "V"), ("cell_max_voltage", "V"),
  ("cell_avg_voltage", "V"), ("cell_delta_voltage", "V"), ("cell_min_index", ""), ("cell_max_index", ""),
  ("status_word", ""), ("protection_word", ""), ("field_7_8", ""), ("field_9_10", ""), ("field_11_12", ""),
  ("field_13_14", ""), ("field_15_16", ""), ("field_19_20", ""), ("field_29_30", ""), ("field_31_32", ""),
  ("field_33_34", "")]

/-- `_build_result`. -/
def buildResult (latest : Dict String ℚ) : Decoded :=
  .ofList ((resultUnits ++ (List.range' 1 16).map fun i => (JkBms.cellKey i, "V")).filterMap fun u =>
    (latest.get? u.1).map fun value => (u.1, JkBms.entry value u.2))

/-- The turn of the loop over the frames. -/
def handle (latest : Dict String ℚ) (frame : Bytes) : Except PyErr (Dict String ℚ) := do
  if frame.length < 5 then return latest
  let command := (← byteAt frame 3, ← byteAt frame 4)
  let payload := frame.drop 5
  if command = CMD_STATUS then
    let parsed ← parseStatus payload
    return latest.sets (parsed.getD [])
  else if command = CMD_CELLS then
    let parsed ← parseCells payload
    return latest.sets (parsed.getD [])
  else return latest

/-- The chunks that are kept of what the port returns until the deadline: once something is known,
the first empty one ends the listening. -/
def listen (known : Bool) (reads : List Bytes) : List Bytes :=
  if known then reads.takeWhile (· ≠ []) else reads.filter (· ≠ [])

/-- `read`, with what the port returns until the deadline: what is kept, and the answer.
The splitting always ends. -/
def read (latest : Dict String ℚ) (reads : List Bytes) : Except PyErr (Dict String ℚ × Decoded) := do
  let chunks := listen (!latest.entries.isEmpty) reads
  if chunks.isEmpty then return (latest, .empty)
  let frames := (splitFrames chunks.flatten).getD []
  if frames.isEmpty then return (latest, .empty)
  let latest ← frames.foldlM handle latest
  if latest.entries.isEmpty then return (latest, .empty)
  return (latest, buildResult latest)

/-- Polls one after the other. -/
def polls (latest : Dict String ℚ) : List (List Bytes) → Except PyErr (List Decoded)
  | [] => .ok []
  | reads :: rest => do
    let polled ← read latest reads
    let answers ← polls polled.1 rest
    return polled.2 :: answers

/-! ## What the frames say -/

/-- What a frame tells of the battery's status. -/
def toldStatus (frame : Bytes) : Option (List (String × ℚ)) :=
  if 5 ≤ frame.length ∧ (byteAt frame 3, byteAt frame 4) = (.ok CMD_STATUS.1, .ok CMD_STATUS.2) then
    (parseStatus (frame.drop 5)).toOption.join
  else none

/-- What a frame tells of its cells. -/
def toldCells (frame : Bytes) : Option (List (String × ℚ)) :=
  if 5 ≤ frame.length ∧ (byteAt frame 3, byteAt frame 4) = (.ok CMD_CELLS.1, .ok CMD_CELLS.2) then
    (parseCells (frame.drop 5)).toOption.join
  else none

/-- What the last of the frames that tells something told. -/
def lastTold (told : Bytes → Option (List (String × ℚ))) (frames : List Bytes) : List (String × ℚ) :=
  (frames.filterMap told).getLast?.getD []

/-- Some frame has said something. -/
def known (frames : List Bytes) : Bool := frames.any fun frame => (toldStatus frame).isSome || (toldCells frame).isSome

/-- The answer that these frames come to. -/
def report (frames : List Bytes) : Decoded :=
  buildResult (.ofList (lastTold toldCells frames ++ lastTold toldStatus frames))

/-- The frames in what each poll listens to, after earlier frames. -/
def Heard : List Bytes → List (List Bytes) → List (List Bytes) → Prop
  | _, [], heard => heard = []
  | earlier, reads :: rest, heard => ∃ frames later, heard = frames :: later ∧
      Scan a5Format (listen (known earlier) reads).flatten frames ∧ Heard (earlier ++ frames) rest later

/-- The answers of polls that hear these frames. -/
def answersTo : List Bytes → List (List Bytes) → List Decoded
  | _, [] => []
  | earlier, frames :: later =>
    (if frames = [] then .empty else report (earlier ++ frames)) :: answersTo (earlier ++ frames) later

theorem lastTold_concat (told : Bytes → Option (List (String × ℚ))) (frames : List Bytes) (frame : Bytes) :
    lastTold told (frames ++ [frame]) = (told frame).getD (lastTold told frames) := by
  unfold lastTold
  rw [List.filterMap_append]
  cases htold : told frame with
  | none => simp [htold]
  | some es => simp [htold]

/-! ## Keys of the two kinds -/

def statusKeys : List String := ["voltage_raw", "current_raw", "voltage", "current", "power"] ++ statusWords.map Prod.fst

def cellKeys : List String :=
  ["cell_count"] ++ (List.range' 1 16).map JkBms.cellKey ++
    ["cell_min_voltage", "cell_max_voltage", "cell_avg_voltage", "cell_delta_voltage", "cell_min_index", "cell_max_index"]

theorem keys_apart : ∀ k ∈ statusKeys, k ∉ cellKeys := by
  decide +kernel

theorem cellEntries_keys {cellVoltages : List Nat} (h : cellVoltages.length = 16) :
    (cellEntries cellVoltages).map Prod.fst = cellKeys := by
  have hindex : (cellVoltages.zipIdx 1).map Prod.snd = List.range' 1 16 := by
    rw [List.zipIdx_map_snd, h]
  unfold cellEntries cellKeys
  rw [List.map_append, List.map_append, List.map_map, ← hindex, List.map_map]
  rfl

/-- A long enough payload is parsed, and always to the same keys. -/
theorem parseStatus_spec (payload : Bytes) : ∃ parsed, parseStatus payload = .ok parsed ∧
    ∀ es, parsed = some es → es.map Prod.fst = statusKeys := by
  unfold parseStatus
  by_cases hshort : payload.length < 35
  · rw [if_pos hshort]
    exact ⟨none, rfl, fun es h => by cases h⟩
  · obtain ⟨voltageRaw, hvoltage⟩ := JkBms.getU16_ok (show 1 + 2 ≤ payload.length by omega)
    obtain ⟨currentRaw, hcurrent⟩ := JkBms.getU16_ok (show 3 + 2 ≤ payload.length by omega)
    have hword : ∀ w ∈ statusWords, ∃ e, statusWord payload w = .ok e := by
      intro w hw
      have hoffset : w.2 ≤ 33 := by
        revert w
        decide
      obtain ⟨v, hv⟩ := JkBms.getU16_ok (show w.2 + 2 ≤ payload.length by omega)
      exact ⟨(w.1, v), by unfold statusWord u16Be; rw [hv]; rfl⟩
    obtain ⟨words, hwords⟩ := mapM_exists_ok hword
    have hkeys : words.map Prod.fst = statusWords.map Prod.fst := by
      refine mapM_map hwords fun w e he => ?_
      obtain ⟨v, -, he⟩ := bind_eq_ok.mp he
      cases he
      rfl
    rw [if_neg hshort]
    unfold s16Be u16Be
    rw [hvoltage, hcurrent, hwords]
    refine ⟨_, rfl, fun es h => ?_⟩
    cases h
    rw [List.map_append, hkeys]
    rfl

theorem parseCells_spec (payload : Bytes) : ∃ parsed, parseCells payload = .ok parsed ∧
    ∀ es, parsed = some es → es.map Prod.fst = cellKeys := by
  unfold parseCells
  by_cases hshort : payload.length < 33
  · rw [if_pos hshort]
    exact ⟨none, rfl, fun es h => by cases h⟩
  · have hcell : ∀ i ∈ List.range 16, ∃ v, u16Be payload (1 + i * 2) = .ok v := by
      intro i hi
      rw [List.mem_range] at hi
      exact JkBms.getU16_ok (by omega)
    obtain ⟨cells, hcells⟩ := mapM_exists_ok hcell
    rw [if_neg hshort, hcells]
    refine ⟨_, rfl, fun es h => ?_⟩
    cases h
    refine cellEntries_keys ?_
    have hlen := congrArg List.length (mapM_map (g := fun _ => ()) (k := fun _ => ()) hcells fun _ _ _ => rfl)
    simpa using hlen

/-! ## One frame -/

/-- What is kept after some frames. -/
def Keeps (frames : List Bytes) (latest : Dict String ℚ) : Prop :=
  ∀ k, latest.get? k =
    (if k ∈ cellKeys then lastTold toldCells frames else lastTold toldStatus frames).reverse.lookup k

theorem lookup_reverse_none {k : String} {es : List (String × ℚ)} (h : k ∉ es.map Prod.fst) : es.reverse.lookup k = none :=
  lookup_of_not_mem (by simpa using h)

theorem lookup_reverse_some {k : String} {es : List (String × ℚ)} (h : k ∈ es.map Prod.fst) :
    (es.reverse.lookup k).isSome := by
  obtain ⟨e, he, rfl⟩ := List.mem_map.mp h
  exact List.lookup_isSome_iff.mpr ⟨e, List.mem_reverse.mpr he, by simp⟩

/-- Each kind of frame has its keys. -/
def HasKeys (told : Bytes → Option (List (String × ℚ))) (keys : List String) : Prop :=
  ∀ frame es, told frame = some es → es.map Prod.fst = keys

theorem toldStatus_keys : HasKeys toldStatus statusKeys := by
  intro frame es h
  obtain ⟨parsed, hparsed, hkeys⟩ := parseStatus_spec (frame.drop 5)
  unfold toldStatus at h
  split_ifs at h
  rw [hparsed] at h
  exact hkeys es h

theorem toldCells_keys : HasKeys toldCells cellKeys := by
  intro frame es h
  obtain ⟨parsed, hparsed, hkeys⟩ := parseCells_spec (frame.drop 5)
  unfold toldCells at h
  split_ifs at h
  rw [hparsed] at h
  exact hkeys es h

section
variable {told : Bytes → Option (List (String × ℚ))} {keys : List String} (hkeys : HasKeys told keys)
include hkeys

/-- Other keys are not told. -/
theorem told_other {frame : Bytes} {k : String} (h : k ∉ keys) : ((told frame).getD []).reverse.lookup k = none := by
  cases htold : told frame with
  | none => rfl
  | some es => exact lookup_reverse_none (show k ∉ es.map Prod.fst by rwa [hkeys frame es htold])

theorem lastTold_other {frames : List Bytes} {k : String} (h : k ∉ keys) : (lastTold told frames).reverse.lookup k = none := by
  unfold lastTold
  cases hlast : (frames.filterMap told).getLast? with
  | none => rfl
  | some es =>
    obtain ⟨frame, -, hes⟩ := List.mem_filterMap.mp (List.mem_of_getLast? hlast)
    exact lookup_reverse_none (show k ∉ es.map Prod.fst by rwa [hkeys frame es hes])

/-- A new frame of the kind replaces what was told before. -/
theorem told_replaces (frames : List Bytes) (frame : Bytes) (k : String) :
    (((told frame).getD []).reverse.lookup k).or ((lastTold told frames).reverse.lookup k) =
      (lastTold told (frames ++ [frame])).reverse.lookup k := by
  rw [lastTold_concat]
  by_cases hk : k ∈ keys
  · cases htold : told frame with
    | none => rfl
    | some es =>
      have hsome := lookup_reverse_some (show k ∈ es.map Prod.fst by rwa [hkeys frame es htold])
      exact Option.or_of_isSome hsome
  · rw [told_other hkeys hk, lastTold_other hkeys hk, Option.none_or, ← lastTold_concat, lastTold_other hkeys hk]

end

/-- A frame never raises; what it tells is assigned. -/
theorem handle_eq (latest : Dict String ℚ) (frame : Bytes) :
    handle latest frame = .ok (latest.sets ((toldStatus frame).getD [] ++ (toldCells frame).getD [])) := by
  unfold handle toldStatus toldCells
  by_cases hshort : frame.length < 5
  · rw [if_pos hshort, if_neg fun h => absurd h.1 (by omega), if_neg fun h => absurd h.1 (by omega)]
    rfl
  · obtain ⟨command, hcommand⟩ : ∃ v, byteAt frame 3 = .ok v := ⟨_, byteAt_ok (by omega)⟩
    obtain ⟨sub, hsub⟩ : ∃ v, byteAt frame 4 = .ok v := ⟨_, byteAt_ok (by omega)⟩
    obtain ⟨status, hstatus, -⟩ := parseStatus_spec (frame.drop 5)
    obtain ⟨cells, hcells, -⟩ := parseCells_spec (frame.drop 5)
    have hlong : 5 ≤ frame.length := by omega
    have hpair : ∀ c : Nat × Nat, ((Except.ok command, Except.ok sub) : Except PyErr Nat × Except PyErr Nat) =
        (.ok c.1, .ok c.2) ↔ (command, sub) = c := by
      rintro ⟨a, b⟩
      simp
    rw [if_neg hshort, hcommand, hsub, ok_bind, ok_bind]
    simp only [hpair, hlong, true_and, hstatus, hcells, ok_bind]
    by_cases hs : (command, sub) = CMD_STATUS
    · have hc : (command, sub) ≠ CMD_CELLS := by
        rw [hs]
        decide
      rw [if_pos hs, if_pos hs, if_neg hc, Option.getD_none, List.append_nil]
      rfl
    · rw [if_neg hs, if_neg hs, Option.getD_none, List.nil_append]
      by_cases hc : (command, sub) = CMD_CELLS
      · rw [if_pos hc, if_pos hc]
        rfl
      · rw [if_neg hc, if_neg hc]
        rfl

/-- One frame more. -/
theorem keeps_handle {frames : List Bytes} {latest : Dict String ℚ} (h : Keeps frames latest) (frame : Bytes) :
    ∃ latest', handle latest frame = .ok latest' ∧ Keeps (frames ++ [frame]) latest' := by
  refine ⟨_, handle_eq latest frame, fun k => ?_⟩
  rw [Dict.get?_sets, h k, List.reverse_append, List.lookup_append]
  split_ifs with hk
  · rw [told_other toldStatus_keys fun hs => keys_apart k hs hk, Option.or_none]
    exact told_replaces toldCells_keys frames frame k
  · rw [told_other toldCells_keys hk, Option.none_or]
    exact told_replaces toldStatus_keys frames frame k

theorem keeps_foldlM {frames : List Bytes} {latest : Dict String ℚ} (h : Keeps frames latest) (more : List Bytes) :
    ∃ latest', more.foldlM handle latest = .ok latest' ∧ Keeps (frames ++ more) latest' := by
  induction more generalizing frames latest with
  | nil => exact ⟨latest, rfl, by rwa [List.append_nil]⟩
  | cons frame more ih =>
    obtain ⟨latest', hhandle, hkeeps⟩ := keeps_handle h frame
    obtain ⟨last, hlast, hkeeps⟩ := ih hkeeps
    refine ⟨last, ?_, by rwa [List.append_assoc] at hkeeps⟩
    rw [List.foldlM_cons, hhandle]
    exact hlast

/-- No frame has told anything. -/
theorem told_of_unknown {frames : List Bytes} (h : known frames = false) :
    lastTold toldStatus frames = [] ∧ lastTold toldCells frames = [] := by
  have hnone : ∀ frame ∈ frames, toldStatus frame = none ∧ toldCells frame = none := fun frame hframe => by
    simpa using List.any_eq_false.mp h frame hframe
  have hlast : ∀ {told : Bytes → Option (List (String × ℚ))}, (∀ frame ∈ frames, told frame = none) →
      lastTold told frames = [] := by
    intro told hall
    unfold lastTold
    rw [List.filterMap_eq_nil_iff.mpr hall]
    rfl
  exact ⟨hlast fun frame hframe => (hnone frame hframe).1, hlast fun frame hframe => (hnone frame hframe).2⟩

/-- A field of the kind that was told. -/
theorem told_of_known {frames : List Bytes} (h : known frames = true) : ∃ k unit, (k, unit) ∈ resultUnits ∧
    ((if k ∈ cellKeys then lastTold toldCells frames else lastTold toldStatus frames).reverse.lookup k).isSome := by
  obtain ⟨frame, hframe, htold⟩ := List.any_eq_true.mp h
  have hkey : ∀ {told : Bytes → Option (List (String × ℚ))} {keys : List String}, HasKeys told keys →
      (told frame).isSome → ∀ k ∈ keys, ((lastTold told frames).reverse.lookup k).isSome := by
    intro told keys hkeys hsome k hk
    obtain ⟨es, hes⟩ := Option.isSome_iff_exists.mp hsome
    have hne : frames.filterMap told ≠ [] := List.ne_nil_of_mem (List.mem_filterMap.mpr ⟨frame, hframe, hes⟩)
    have hlast := List.getLast?_eq_some_getLast hne
    obtain ⟨frame', -, hes'⟩ := List.mem_filterMap.mp (List.getLast_mem hne)
    unfold lastTold
    rw [hlast, Option.getD_some]
    exact lookup_reverse_some (by rwa [hkeys frame' _ hes'])
  rcases Bool.or_eq_true_iff.mp htold with hs | hc
  · refine ⟨"voltage", "V", by decide, ?_⟩
    rw [if_neg (keys_apart _ (by decide))]
    exact hkey toldStatus_keys hs _ (by decide)
  · refine ⟨"cell_count", "", by decide, ?_⟩
    rw [if_pos (by decide)]
    exact hkey toldCells_keys hc _ (by decide)

/-- What was told last, of either kind. -/
theorem keeps_told (frames : List Bytes) : Keeps frames (.ofList (lastTold toldCells frames ++ lastTold toldStatus frames)) := by
  intro k
  rw [Dict.get?_ofList, List.reverse_append, List.lookup_append]
  split_ifs with hk
  · rw [lastTold_other toldStatus_keys fun hs => keys_apart k hs hk, Option.none_or]
  · rw [lastTold_other toldCells_keys hk, Option.or_none]

/-! ## Polls -/

section
variable {frames : List Bytes} {latest : Dict String ℚ} (h : Keeps frames latest)
include h

/-- What is kept is reported. -/
theorem buildResult_keeps : buildResult latest = report frames := by
  have hsame : ∀ k, latest.get? k =
      (Dict.ofList (lastTold toldCells frames ++ lastTold toldStatus frames)).get? k := fun k => by
    rw [h k, keeps_told frames k]
  unfold report buildResult
  simp only [hsame]

/-- Something is kept once a frame has told something. -/
theorem keeps_known : (!latest.entries.isEmpty) = known frames := by
  cases hknown : known frames with
  | false =>
    obtain ⟨hstatus, hcells⟩ := told_of_unknown hknown
    cases hentries : latest.entries with
    | nil => rfl
    | cons e es =>
      have hget : latest.get? e.1 = some e.2 := Dict.mem_entries.mp (by rw [hentries]; exact List.mem_cons_self)
      rw [h e.1, hstatus, hcells, ite_self] at hget
      cases hget
  | true =>
    obtain ⟨k, unit, -, hk⟩ := told_of_known hknown
    rw [← h k] at hk
    cases hentries : latest.entries with
    | nil =>
      unfold Dict.get? at hk
      rw [hentries] at hk
      cases hk
    | cons e es => rfl

/-- One poll. -/
theorem read_spec (reads : List Bytes) : ∃ heard latest', Scan a5Format (listen (known frames) reads).flatten heard ∧
    Keeps (frames ++ heard) latest' ∧
    read latest reads = .ok (latest', if heard = [] then .empty else report (frames ++ heard)) := by
  obtain ⟨heard, hscan⟩ := Scan.exists a5Format (listen (known frames) reads).flatten
  have hsplit : splitFrames (listen (known frames) reads).flatten = some heard :=
    splitFrames_scan hscan _ (Nat.lt_succ_self _)
  unfold read
  rw [keeps_known h]
  by_cases hchunks : (listen (known frames) reads).isEmpty = true
  · have hnil : (listen (known frames) reads).flatten = [] := by rw [List.isEmpty_iff.mp hchunks]; rfl
    rw [if_pos hchunks]
    exact ⟨[], latest, hnil ▸ .done, by rwa [List.append_nil], rfl⟩
  · rw [if_neg hchunks, hsplit, Option.getD_some]
    by_cases hheard : heard = []
    · subst hheard
      exact ⟨[], latest, hscan, by rwa [List.append_nil], rfl⟩
    · obtain ⟨latest', hfold, hkeeps⟩ := keeps_foldlM h heard
      refine ⟨heard, latest', hscan, hkeeps, ?_⟩
      rw [if_neg (by simpa using hheard), if_neg hheard, hfold, ok_bind, ← buildResult_keeps hkeeps]
      split_ifs with hempty
      · -- nothing is known yet, and nothing is reported
        have hnone : ∀ k, latest'.get? k = none := fun k => by
          unfold Dict.get?
          rw [List.isEmpty_iff.mp hempty]
          rfl
        unfold buildResult
        simp only [hnone, Option.map_none, List.filterMap_none]
        rfl
      · rfl

end

theorem keeps_nil : Keeps [] .empty := fun k => by split_ifs <;> rfl

/-- Polls after earlier frames. -/
theorem polls_spec (rs : List (List Bytes)) {frames : List Bytes} {latest : Dict String ℚ} (h : Keeps frames latest) :
    ∃ heard, Heard frames rs heard ∧ polls latest rs = .ok (answersTo frames heard) := by
  induction rs generalizing frames latest with
  | nil => exact ⟨[], rfl, rfl⟩
  | cons reads rs ih =>
    obtain ⟨heard, latest', hscan, hkeeps, hread⟩ := read_spec h reads
    obtain ⟨later, hheard, hpolls⟩ := ih hkeeps
    refine ⟨heard :: later, ⟨heard, later, rfl, hscan, hheard⟩, ?_⟩
    unfold polls answersTo
    rw [hread, ok_bind, hpolls]
    rfl

/-- Whatever the port returns, the polls answer what the last status frame and the last cells frame of all polls so
far told, or nothing at a poll that hears no frame. -/
theorem polls_answer (rs : List (List Bytes)) :
    ∃ heard, Heard [] rs heard ∧ polls .empty rs = .ok (answersTo [] heard) := polls_spec rs keeps_nil

/-! ## The figures of the cells -/

theorem decimals_div {n d : ℕ} (m : ℤ) (hd : (10 : ℚ) ^ n = d) : decimals n (m / d) = m / d := by
  unfold decimals
  have hne : (10 : ℚ) ^ n ≠ 0 := by positivity
  rw [← hd, div_mul_cancel₀ _ hne, roundHalfEven_intCast]

/-- Millivolts as volts. -/
theorem decimals_milli (m : ℤ) : decimals 3 (m * 0.001) = m / 1000 := by
  have hmilli : (m : ℚ) * 0.001 = m / (1000 : ℕ) := by
    push_cast
    ring
  rw [hmilli, decimals_div m (by norm_num)]
  norm_num

/-- The words of a payload, from the second byte on. -/
theorem mapM_words {data tail : Bytes} {offset : ℕ} (cells : List UInt16)
    (h : JkBms.At data offset (cells.flatMap JkBms.be16 ++ tail)) :
    (List.range cells.length).mapM (fun i => u16Be data (offset + i * 2)) = .ok (cells.map UInt16.toNat) := by
  induction cells generalizing offset with
  | nil => rfl
  | cons v cells ih =>
    rw [List.flatMap_cons, List.append_assoc] at h
    have hskip : ∀ i, offset + (i + 1) * 2 = offset + 2 + i * 2 := fun i => by ring
    rw [List.length_cons, List.range_succ_eq_map, List.mapM_cons, List.mapM_map, Nat.zero_mul, Nat.add_zero]
    have hfirst : u16Be data offset = .ok v.toNat := h.be16
    have hrest : (List.range cells.length).mapM ((fun i => u16Be data (offset + i * 2)) ∘ Nat.succ) =
        .ok (cells.map UInt16.toNat) := by
      rw [← ih h.skip]
      congr 1
      funext i
      exact congrArg (u16Be data) (hskip i)
    rw [hfirst, ok_bind, hrest]
    rfl

theorem cellKeys_nodup : cellKeys.Nodup := by
  decide +kernel

def units : List (String × String) := resultUnits ++ (List.range' 1 16).map fun i => (JkBms.cellKey i, "V")

theorem units_nodup : (units.map Prod.fst).Nodup := by
  decide +kernel

theorem reported_keys (latest : Dict String ℚ) (us : List (String × String)) :
    ((us.filterMap fun u => (latest.get? u.1).map fun value => (u.1, JkBms.entry value u.2)).map Prod.fst).Sublist
      (us.map Prod.fst) := by
  induction us with
  | nil => exact List.Sublist.refl _
  | cons u us ih =>
    rw [List.filterMap_cons]
    cases latest.get? u.1 with
    | none => exact ih.cons _
    | some value => exact ih.cons_cons _

/-- Each field of the answer is the kept value under its name. -/
theorem get?_buildResult (latest : Dict String ℚ) {k unit : String} (h : (k, unit) ∈ units) :
    (buildResult latest).get? k = (latest.get? k).map fun value => JkBms.entry value unit := by
  have hentries := Dict.entries_ofList (units_nodup.sublist (reported_keys latest units))
  -- the field of another unit has another name
  have hunit : ∀ u ∈ units, u.1 = k → u.2 = unit := fun u hu hk =>
    congrArg Prod.snd (List.inj_on_of_nodup_map units_nodup hu h hk)
  refine Option.ext fun info => ?_
  rw [← Dict.mem_entries]
  unfold buildResult
  rw [← units, hentries, List.mem_filterMap]
  simp only [Option.map_eq_some_iff, Prod.mk.injEq]
  constructor
  · rintro ⟨u, hu, value, hvalue, rfl, rfl⟩
    exact ⟨value, hvalue, by rw [hunit u hu rfl]⟩
  · rintro ⟨value, hvalue, rfl⟩
    exact ⟨(k, unit), h, value, hvalue, rfl, rfl⟩

/-- A cells frame: sixteen words after the first byte. -/
def cellsFrame (length first : UInt8) (cells : List UInt16) (tail : Bytes) : Bytes :=
  0xA5 :: 0x5A :: length :: 0x82 :: 0x11 :: first :: (cells.flatMap JkBms.be16 ++ tail)

section
variable {cells : List UInt16} (hcells : cells.length = 16)
include hcells

theorem toldCells_cellsFrame (length first : UInt8) (tail : Bytes) :
    toldCells (cellsFrame length first cells tail) = some (cellEntries (cells.map UInt16.toNat)) := by
  have hplace : JkBms.At (first :: (cells.flatMap JkBms.be16 ++ tail)) 1 (cells.flatMap JkBms.be16 ++ tail) :=
    ⟨[first], rfl, rfl⟩
  have hwords := mapM_words cells hplace
  have hbytes : (cells.flatMap JkBms.be16).length = 32 := by
    have htwo : cells.map (fun v => (JkBms.be16 v).length) = List.replicate 16 2 :=
      List.eq_replicate_iff.mpr ⟨by rwa [List.length_map], by simp [JkBms.be16]⟩
    rw [List.length_flatMap, htwo]
    rfl
  have hparse : parseCells (first :: (cells.flatMap JkBms.be16 ++ tail)) =
      .ok (some (cellEntries (cells.map UInt16.toNat))) := by
    unfold parseCells
    rw [if_neg (by simp only [List.length_cons, List.length_append]; omega), ← hcells, hwords]
    rfl
  unfold toldCells cellsFrame
  rw [if_pos ⟨by simp only [List.length_cons]; omega, rfl⟩]
  show (parseCells (first :: (cells.flatMap JkBms.be16 ++ tail))).toOption.join = _
  rw [hparse]
  rfl

/-- What such a frame tells is reported until another one tells something. -/
theorem report_cellsFrame (earlier later : List Bytes) (length first : UInt8) (tail : Bytes)
    (hlater : ∀ frame ∈ later, toldCells frame = none) {k unit : String} {value : ℚ} (hunit : (k, unit) ∈ units)
    (hvalue : (k, value) ∈ cellEntries (cells.map UInt16.toNat)) :
    (report (earlier ++ cellsFrame length first cells tail :: later)).get? k = some (JkBms.entry value unit) := by
  have htold : lastTold toldCells (earlier ++ cellsFrame length first cells tail :: later) =
      cellEntries (cells.map UInt16.toNat) := by
    unfold lastTold
    rw [List.filterMap_append, List.filterMap_cons, toldCells_cellsFrame hcells,
      List.filterMap_eq_nil_iff.mpr hlater, List.getLast?_concat]
    rfl
  have hkeys := cellEntries_keys (show (cells.map UInt16.toNat).length = 16 by rwa [List.length_map])
  have hk : k ∈ cellKeys := hkeys ▸ List.mem_map_of_mem hvalue
  have hnodup := hkeys ▸ cellKeys_nodup
  have hother : (lastTold toldStatus (earlier ++ cellsFrame length first cells tail :: later)).reverse.lookup k = none :=
    lastTold_other toldStatus_keys fun hs => keys_apart k hs hk
  unfold report
  rw [get?_buildResult _ hunit, Dict.get?_ofList, List.reverse_append, List.lookup_append, hother, Option.none_or, htold,
    ← Dict.get?_ofList, Dict.mem_entries.mp (by rwa [Dict.entries_ofList hnodup])]
  rfl

/-- The figures it is reported with: each cell, the lowest and the highest with the first place where they stand, their
distance, and the average. -/
theorem report_cells (earlier later : List Bytes) (length first : UInt8) (tail : Bytes)
    (hlater : ∀ frame ∈ later, toldCells frame = none) :
    ∃ low high, Leftmost (· < ·) 10000 (cells.map UInt16.toNat) low ∧ Leftmost (· > ·) 0 (cells.map UInt16.toNat) high ∧
      let answer := report (earlier ++ cellsFrame length first cells tail :: later)
      (∀ i (hi : i < cells.length), answer.get? (JkBms.cellKey (i + 1)) = some (JkBms.entry (cells[i].toNat / 1000) "V")) ∧
      answer.get? "cell_min_voltage" = some (JkBms.entry (low.1 / 1000) "V") ∧
      answer.get? "cell_max_voltage" = some (JkBms.entry (high.1 / 1000) "V") ∧
      answer.get? "cell_min_index" = some (JkBms.entry low.2 "") ∧
      answer.get? "cell_max_index" = some (JkBms.entry high.2 "") ∧
      answer.get? "cell_delta_voltage" = some (JkBms.entry ((high.1 - low.1) / 1000) "V") ∧
      answer.get? "cell_avg_voltage" =
        some (JkBms.entry (decimals 3 ((cells.map UInt16.toNat).sum / 16000)) "V") := by
  have hreport := @report_cellsFrame cells hcells earlier later length first tail hlater
  set voltages := cells.map UInt16.toNat with hvoltages
  have hmilli : ∀ n : ℕ, decimals 3 ((n : ℚ) * 0.001) = n / 1000 := fun n => decimals_milli n
  have hdelta : ∀ a b : ℕ, decimals 3 (((a : ℤ) - b : ℤ) * 0.001) = ((a : ℚ) - b) / 1000 := fun a b => by
    rw [decimals_milli]
    push_cast
    rfl
  refine ⟨_, _, scanBest_spec (· < ·) 10000 voltages, scanBest_spec (· > ·) 0 voltages, fun i hi => ?_, ?_, ?_, ?_, ?_, ?_,
    ?_⟩
  · refine hreport ?_ ?_
    · refine List.mem_append_right _ (List.mem_map.mpr ⟨i + 1, ?_, rfl⟩)
      rw [List.mem_range'_1]
      omega
    · have hzip : (cells[i].toNat, i + 1) ∈ voltages.zipIdx 1 :=
        List.mk_mem_zipIdx_iff_le_and_getElem?_sub.mpr ⟨by omega, by simp [hvoltages, hi]⟩
      rw [← hmilli]
      exact List.mem_append_left _ (List.mem_append_right _ (List.mem_map.mpr ⟨_, hzip, rfl⟩))
  · refine hreport (by decide) ?_
    rw [← hmilli]
    unfold cellEntries
    simp
  · refine hreport (by decide) ?_
    rw [← hmilli]
    unfold cellEntries
    simp
  · refine hreport (by decide) ?_
    unfold cellEntries
    simp
  · refine hreport (by decide) ?_
    unfold cellEntries
    simp
  · refine hreport (by decide) ?_
    rw [← hdelta]
    unfold cellEntries
    simp
  · refine hreport (by decide) ?_
    have havg : (voltages.sum : ℚ) / 16000 = voltages.sum / 16 * 0.001 := by ring
    rw [havg]
    unfold cellEntries
    simp

end

/-- A pack at 3.2 V with a weak fifth cell and two strong ones. -/
def oneWeakCell : List UInt16 := ((List.replicate 16 3200).set 4 3100 |>.set 7 3250).set 8 3250

/-- Its cells frame, between two frames too short to tell anything. -/
theorem report_cells_weak :
    let answer := report ([[0xA5, 0x5A, 2, 0x82, 0x10]] ++ cellsFrame 35 0 oneWeakCell [] :: [[0xA5, 0x5A, 2, 0x82, 0x11]])
    answer.get? "cell_min_voltage" = some (JkBms.entry (3100 / 1000) "V") ∧
      answer.get? "cell_min_index" = some (JkBms.entry 5 "") ∧
      answer.get? "cell_max_index" = some (JkBms.entry 8 "") := by
  obtain ⟨low, high, hlow, hhigh, hanswer⟩ := report_cells (show oneWeakCell.length = 16 from rfl) [[0xA5, 0x5A, 2, 0x82, 0x10]]
    [[0xA5, 0x5A, 2, 0x82, 0x11]] 35 0 [] (by decide)
  have hweak : Leftmost (· < ·) 10000 (oneWeakCell.map UInt16.toNat) (3100, 5) :=
    Or.inr ⟨List.replicate 4 3200, 3100, [3200, 3200, 3250, 3250] ++ List.replicate 7 3200, by decide⟩
  have hstrong : Leftmost (· > ·) 0 (oneWeakCell.map UInt16.toNat) (3250, 8) :=
    Or.inr ⟨[3200, 3200, 3200, 3200, 3100, 3200, 3200], 3250, 3250 :: List.replicate 7 3200, by decide⟩
  rw [hlow.unique _ hweak, hhigh.unique _ hstrong] at hanswer
  obtain ⟨-, hmin, -, hindex, hmaxIndex, -⟩ := hanswer
  exact ⟨by simpa using hmin, by simpa using hindex, by simpa using hmaxIndex⟩

end LuxMon.Eg4A5
