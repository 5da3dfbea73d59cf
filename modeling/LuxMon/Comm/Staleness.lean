import LuxMon.Comm.Frozen
import LuxMon.Signals.LastRun

/-!
# When the staleness detector closes the socket

The detector counts the repetitions of a response and starts again at each closing, so from a new
connection on it closes at the sixth equal response in a row, at the eleventh, and so on.

    a response closes the socket ↔ it is the last of 5·m + 1 equal ones, 0 < m       (noteResponse_closes_iff)
-/

namespace LuxMon.PersistentDongleConnection

open Signals

/-- A connection that has noted these responses, each over an open socket.  Whatever else is done
with it leaves the detector alone: heartbeats, reconnects and transactions without an answer. -/
inductive Noted : List Bytes → PersistentDongleConnection → Prop
  | new (maxRetries : Nat) : Noted [] { maxRetries := maxRetries }
  | keep {rs : List Bytes} {c c' : PersistentDongleConnection} (h : Noted rs c) (hkeeps : Keeps c c') : Noted rs c'
  | note {rs : List Bytes} {c : PersistentDongleConnection} (h : Noted rs c) (hsock : c.sock = true) (raw : Bytes) :
      Noted (rs ++ [raw]) (c.noteResponse raw)

variable {rs : List Bytes} {c : PersistentDongleConnection}

/-! ## What the connection does -/

theorem connect_keeps (c : PersistentDongleConnection) (dial : Dial) : Keeps c (c.connect dial).1 := by
  unfold connect
  split_ifs <;> exact ⟨rfl, rfl⟩

theorem Noted.connect (h : Noted rs c) (dial : Dial) : Noted rs (c.connect dial).1 := h.keep (connect_keeps c dial)

theorem Noted.heartbeat (h : Noted rs c) (probe : Probe) (due sends : Bool) : Noted rs (c.heartbeat probe due sends) :=
  h.keep (heartbeat_keeps c probe due sends)

/-- `stop` closes the socket. -/
theorem Noted.stop (h : Noted rs c) : Noted rs c.drop := h.keep ⟨rfl, rfl⟩

/-- A transaction notes the response that it returns, if any. -/
theorem Noted.transact (h : Noted rs c) (accepts : LuxFrame → Bool) (net : Nat → Attempt) :
    Noted (rs ++ ((c.transact accepts net).2.toOption.bind id).toList.map LuxFrame.raw) (c.transact accepts net).1 := by
  cases hout : (c.transact accepts net).2 with
  | error e =>
    have hserved : ¬ Served accepts (c.maxRetries + 1) c.sock net := by
      intro hserved
      obtain ⟨out, hok⟩ := (transact_returns_iff accepts c net).mpr hserved
      rw [hout] at hok
      cases hok
    obtain ⟨c', e, hraise, hkeeps⟩ := attempts_not_served accepts hserved
    rw [PersistentDongleConnection.transact, hraise]
    simpa [Except.toOption] using h.keep hkeeps
  | ok answer =>
    have hnotes := transact_notes hout
    cases answer with
    | none => simpa [Except.toOption] using h.keep hnotes
    | some f =>
      obtain ⟨c₁, hsock, hkeeps, hc'⟩ := hnotes
      rw [hc']
      exact (h.keep hkeeps).note hsock f.raw

/-! ## The count and the run -/

/-- The detector remembers the last response, and counts its repetitions modulo the threshold. -/
structure Tracks (rs : List Bytes) (c : PersistentDongleConnection) : Prop where
  sig : c.lastRespSig = rs.getLast?
  threshold : c.staleThreshold = 5
  count : c.staleCount = (runLength rs - 1) % 5

theorem Tracks.note (h : Tracks rs c) (raw : Bytes) : Tracks (rs ++ [raw]) (c.noteResponse raw) := by
  refine ⟨?_, ?_, ?_⟩
  · rw [noteResponse_sig, List.getLast?_concat]
  · rw [noteResponse_threshold, h.threshold]
  · rw [runLength_concat]
    unfold noteResponse
    rw [h.sig, h.threshold, h.count]
    by_cases hsame : rs.getLast? = some raw
    · have hpos := runLength_pos hsame
      rw [if_pos hsame, if_pos hsame]
      split_ifs <;> simp only <;> omega
    · rw [if_neg hsame, if_neg hsame]

theorem Noted.tracks (h : Noted rs c) : Tracks rs c := by
  induction h with
  | new maxRetries => exact ⟨rfl, rfl, rfl⟩
  | keep _ hkeeps ih =>
    exact ⟨hkeeps.lastRespSig.trans ih.sig, hkeeps.staleThreshold.trans ih.threshold, hkeeps.staleCount.trans ih.count⟩
  | note _ _ raw ih => exact ih.note raw

/-- The count is full exactly at a run of 5·m + 1. -/
theorem Tracks.trips_iff (h : Tracks rs c) (raw : Bytes) :
    c.Trips raw ↔ ∃ m, 0 < m ∧ runLength (rs ++ [raw]) - 1 = 5 * m := by
  unfold Trips
  rw [runLength_concat, h.sig, h.threshold, h.count]
  by_cases hsame : rs.getLast? = some raw
  · have hpos := runLength_pos hsame
    rw [if_pos hsame, and_iff_right hsame]
    constructor
    · intro hfull
      exact ⟨runLength rs / 5, by omega, by omega⟩
    · rintro ⟨m, hm, hrun⟩
      omega
  · rw [if_neg hsame]
    refine iff_of_false (fun hfull => hsame hfull.1) ?_
    rintro ⟨m, hm, hrun⟩
    omega

/-- From a new connection on, a response over an open socket closes it exactly if the run of equal responses that
it ends, less one, is a positive multiple of the threshold. -/
theorem noteResponse_closes_iff (h : Noted rs c) (hsock : c.sock = true) (raw : Bytes) :
    (c.noteResponse raw).sock = false ↔ ∃ m, 0 < m ∧ runLength (rs ++ [raw]) - 1 = 5 * m := by
  rw [noteResponse_sock hsock, h.tracks.trips_iff]

/-- A new connection over which one response has come five times. -/
def fiveTimes : PersistentDongleConnection :=
  (List.replicate 5 [0x01]).foldl noteResponse (({} : PersistentDongleConnection).connect .accepted).1

theorem sixth_time_closes : (fiveTimes.noteResponse [0x01]).sock = false := by
  have hopen : Noted [] (({} : PersistentDongleConnection).connect .accepted).1 := (Noted.new 3).connect .accepted
  have hnoted : Noted (List.replicate 5 [0x01]) fiveTimes :=
    ((((hopen.note rfl _).note rfl _).note rfl _).note rfl _).note rfl _
  exact (noteResponse_closes_iff hnoted rfl [0x01]).mpr ⟨1, by decide, by decide⟩

end LuxMon.PersistentDongleConnection
