import LuxMon.Comm.Polling
import LuxMon.Protocol.FindFrames

/-!
# A frozen dongle

The detector compares a response with the one before it, whatever it was asked for.
The poller asks for its batches in turn, so with two batches or more a dongle that
answers each of them with the same frame for ever gives no response twice in a row.

    with one batch the repetitions add up                             (single_batch_closes)
    with more of them each poll starts the count again                (cycling_keeps_open)
    a frozen dongle is noticed ↔ one batch, or the last response before the run
    is the frame of its first poll and makes the count full           (frozen_noticed_iff)
-/

namespace LuxMon

open Python Framing

/-! ## Frames and their bytes -/

theorem findFrames_frameOf {data : Bytes} {frames : List LuxFrame} (h : findFrames data = .ok frames)
    {f : LuxFrame} (hf : f ∈ frames) : frameOf f.raw = some f := by
  obtain ⟨us, hscan⟩ := Scan.exists luxFormat data
  rw [findFrames, scanFrames_scan hscan _ le_rfl, Except.ok.injEq] at h
  subst h
  obtain ⟨u, hu, hparse⟩ := List.mem_filterMap.mp hf
  have hraw := (frameOf_raw (complete_iff.mp (hscan.complete u hu)).1 hparse).1
  rw [hraw, hparse]

theorem firstAccepted_frameOf {accepts : LuxFrame → Bool} {buffer : Bytes} {chunks : List Bytes}
    {f : LuxFrame} (h : firstAccepted accepts buffer chunks = some f) : frameOf f.raw = some f := by
  induction chunks generalizing buffer with
  | nil => cases h
  | cons chunk chunks ih =>
    obtain ⟨frames, hframes⟩ := findFrames_ok (buffer ++ chunk)
    rw [firstAccepted_cons hframes] at h
    rcases Option.or_eq_some_iff.mp h with hfind | ⟨-, hrest⟩
    · exact findFrames_frameOf hframes (List.mem_of_find?_eq_some hfind)
    · exact ih hrest

/-- An answer is what `parse_frame` makes of its bytes. -/
theorem answerOf_frameOf {accepts : LuxFrame → Bool} {n : Nat} {net : Nat → Attempt} {f : LuxFrame}
    (h : answerOf accepts n net = some f) : frameOf f.raw = some f := by
  obtain ⟨k, -, hanswer⟩ := List.exists_of_findSome?_eq_some h
  unfold Attempt.answer at hanswer
  split at hanswer
  · exact firstAccepted_frameOf hanswer
  · cases hanswer

/-! ## The detector -/

namespace PersistentDongleConnection

variable {c : PersistentDongleConnection}

/-- The response fills the count: the detector is about to close the socket. -/
def Trips (c : PersistentDongleConnection) (raw : Bytes) : Prop :=
  c.lastRespSig = some raw ∧ c.staleThreshold ≤ c.staleCount + 1

section
variable {c' : PersistentDongleConnection} (h : Keeps c c')
include h

theorem Keeps.lastRespSig : c'.lastRespSig = c.lastRespSig := congrArg Prod.fst h.detector

theorem Keeps.staleCount : c'.staleCount = c.staleCount := congrArg (fun d => d.2.1) h.detector

theorem Keeps.staleThreshold : c'.staleThreshold = c.staleThreshold :=
  congrArg (fun d => d.2.2) h.detector

theorem Keeps.trips (raw : Bytes) : c'.Trips raw ↔ c.Trips raw := by
  unfold Trips
  rw [h.lastRespSig, h.staleCount, h.staleThreshold]

end

/-- On an open socket, exactly the response that fills the count leaves it closed. -/
theorem noteResponse_sock (hsock : c.sock = true) (raw : Bytes) :
    (c.noteResponse raw).sock = false ↔ c.Trips raw := by
  unfold noteResponse Trips
  by_cases hsig : c.lastRespSig = some raw
  · rw [if_pos hsig, and_iff_right hsig]
    by_cases hfull : c.staleThreshold ≤ c.staleCount + 1
    · rw [if_pos hfull]
      exact iff_of_true rfl hfull
    · rw [if_neg hfull]
      exact iff_of_false (by simp [hsock]) hfull
  · rw [if_neg hsig]
    exact iff_of_false (by simp [hsock]) fun h => hsig h.1

theorem noteResponse_sig (raw : Bytes) : (c.noteResponse raw).lastRespSig = some raw := by
  unfold noteResponse
  by_cases hsig : c.lastRespSig = some raw
  · rw [if_pos hsig]
    split <;> exact hsig
  · rw [if_neg hsig]

theorem noteResponse_threshold (raw : Bytes) :
    (c.noteResponse raw).staleThreshold = c.staleThreshold := by
  unfold noteResponse
  split
  · split <;> rfl
  · rfl

/-- A repetition that does not fill the count is counted. -/
theorem noteResponse_count {raw : Bytes} (hsig : c.lastRespSig = some raw) (h : ¬ c.Trips raw) :
    (c.noteResponse raw).staleCount = c.staleCount + 1 := by
  have hfull : ¬ c.staleThreshold ≤ c.staleCount + 1 := fun hfull => h ⟨hsig, hfull⟩
  unfold noteResponse
  rw [if_pos hsig, if_neg hfull]

theorem heartbeat_keeps (c : PersistentDongleConnection) (probe : Probe) (due sends : Bool) :
    Keeps c (c.heartbeat probe due sends) := by
  unfold heartbeat
  split_ifs <;> exact ⟨rfl, rfl⟩

/-- A transaction that returns has noted its answer, and nothing else. -/
theorem transact_notes {accepts : LuxFrame → Bool} {net : Nat → Attempt} {answer : Option LuxFrame}
    (h : (c.transact accepts net).2 = .ok answer) :
    Notes c (c.transact accepts net).1 answer := by
  have hserved := (transact_returns_iff accepts c net).mp ⟨answer, h⟩
  obtain ⟨c', hreturn, hnotes⟩ := attempts_served accepts hserved
  rw [transact_eq_answer accepts h, transact, hreturn]
  exact hnotes

end PersistentDongleConnection

/-! ## A run of frozen answers -/

namespace TcpActiveTransport

variable (t : TcpActiveTransport)

/-- The poll number `n` is answered with the frame of its batch. -/
def AnsweredFrom (frames : ℕ → LuxFrame) (n : ℕ) : TurnResult → Prop
  | .issued _ _ out => out = .ok (some (frames (n % t.batches.length)))
  | .beat => True
  | _ => False

/-- Nothing but polls and heartbeats, from the poll number `n` on; every poll is answered with
the one frame that belongs to its batch. -/
def FrozenRun (frames : ℕ → LuxFrame) (n : ℕ) (p : Poller) (turns : List ConnectionTurn) : Prop :=
  ∀ pre turn post, turns = pre ++ turn :: post →
    t.AnsweredFrom frames (n + pre.countP ConnectionTurn.isPoll)
      (t.step (Machine.after t.step p pre) turn).2

/-- A poll that is answered and still leaves no socket: the detector has closed it. -/
def Closes (p : Poller) (turn : ConnectionTurn) : Prop :=
  turn.isPoll = true ∧ (∃ packet req f, (t.step p turn).2 = .issued packet req (.ok (some f))) ∧
    (t.step p turn).1.conn.sock = false

/-- Some poll of the run closes the connection. -/
def Noticed (p : Poller) (turns : List ConnectionTurn) : Prop :=
  ∃ pre turn post, turns = pre ++ turn :: post ∧ t.Closes (Machine.after t.step p pre) turn

variable {t} {frames : ℕ → LuxFrame} {n : ℕ} {p : Poller} {turn : ConnectionTurn}
  {turns : List ConnectionTurn}

theorem FrozenRun.tail (h : t.FrozenRun frames n p (turn :: turns)) :
    t.FrozenRun frames (n + [turn].countP ConnectionTurn.isPoll) (t.step p turn).1 turns := by
  intro pre turn' post hsplit
  have hlater := h (turn :: pre) turn' post (by rw [hsplit, List.cons_append])
  rw [← List.singleton_append, List.countP_append, ← Nat.add_assoc] at hlater
  exact hlater

theorem FrozenRun.head (h : t.FrozenRun frames n p (turn :: turns)) :
    t.AnsweredFrom frames n (t.step p turn).2 :=
  h [] turn turns rfl

theorem noticed_cons : t.Noticed p (turn :: turns) ↔
    t.Closes p turn ∨ t.Noticed (t.step p turn).1 turns := by
  constructor
  · rintro ⟨pre, turn', post, hsplit, hcloses⟩
    cases pre with
    | nil =>
      obtain ⟨rfl, rfl⟩ := List.cons.inj hsplit
      exact Or.inl hcloses
    | cons first pre =>
      obtain ⟨rfl, rfl⟩ := List.cons.inj hsplit
      exact Or.inr ⟨pre, turn', post, rfl, hcloses⟩
  · rintro (hcloses | ⟨pre, turn', post, rfl, hcloses⟩)
    · exact ⟨[], turn, turns, rfl, hcloses⟩
    · exact ⟨turn :: pre, turn', post, rfl, hcloses⟩

/-- A poll of the run: the loop goes on with a connection that has noted the frame. -/
theorem poll_frozen (h : t.Looping n p) {net : Nat → Attempt}
    (hanswered : t.AnsweredFrom frames n (t.step p (.poll net)).2) :
    ∃ packet conn, t.step p (.poll net) =
        (t.received p conn (.ok (some (frames (n % t.batches.length)))),
          .issued packet (t.batch n) (.ok (some (frames (n % t.batches.length))))) ∧
      p.conn.Notes conn (some (frames (n % t.batches.length))) ∧
      frameOf (frames (n % t.batches.length)).raw = some (frames (n % t.batches.length)) := by
  obtain ⟨packet, -, hpoll⟩ := poll_looping h net
  have hstep : t.step p (.poll net) = _ := hpoll
  rw [hstep] at hanswered
  have hout : (p.conn.transact (t.batch n).accepts net).2 =
      .ok (some (frames (n % t.batches.length))) := hanswered
  refine ⟨packet, (p.conn.transact (t.batch n).accepts net).1, ?_, ?_, ?_⟩
  · rw [hstep, hout]
  · exact PersistentDongleConnection.transact_notes hout
  · exact answerOf_frameOf (PersistentDongleConnection.transact_eq_answer _ hout).symm

/-- A turn of the run: a poll closes the connection exactly if its frame trips the detector, and
otherwise the frame is what the detector remembers; a heartbeat changes nothing. -/
theorem step_frozen (h : t.Looping n p) (hanswered : t.AnsweredFrom frames n (t.step p turn).2) :
    t.Looping (n + [turn].countP ConnectionTurn.isPoll) (t.step p turn).1 ∧
      ((turn.isPoll = true ∧ p.conn.Notes (t.step p turn).1.conn (some (frames (n % t.batches.length))) ∧
          frameOf (frames (n % t.batches.length)).raw = some (frames (n % t.batches.length)) ∧
          (t.Closes p turn ↔ p.conn.Trips (frames (n % t.batches.length)).raw)) ∨
        (turn.isPoll = false ∧ p.conn.Keeps (t.step p turn).1.conn ∧ ¬ t.Closes p turn)) := by
  cases turn with
  | poll net =>
    obtain ⟨packet, conn, hstep, hnotes, hframe⟩ := poll_frozen h hanswered
    have hcloses : t.Closes p (.poll net) ↔ conn.sock = false := by
      unfold Closes
      rw [hstep]
      exact ⟨fun h => h.2.2, fun h => ⟨rfl, ⟨_, _, _, rfl⟩, h⟩⟩
    obtain ⟨c₁, hsock, hkeeps, hconn⟩ := id hnotes
    have hiff : t.Closes p (.poll net) ↔ p.conn.Trips (frames (n % t.batches.length)).raw := by
      rw [hcloses, hconn, PersistentDongleConnection.noteResponse_sock hsock, hkeeps.trips]
    refine ⟨?_, Or.inl ⟨rfl, ?_, hframe, hiff⟩⟩
    · rw [hstep]
      exact received_looping h conn (some (frames (n % t.batches.length)))
    · rw [hstep]
      exact hnotes
  | call req net => exact hanswered.elim
  | heartbeat probe due sends =>
    refine ⟨⟨h.running, h.batchIdx, h.requests⟩, Or.inr ⟨rfl, ?_, fun hcloses => ?_⟩⟩
    · exact PersistentDongleConnection.heartbeat_keeps p.conn probe due sends
    · exact Bool.false_ne_true hcloses.1

/-- With one batch, once its frame is remembered, as many polls as the count lacks close the
connection. -/
theorem repeated_closes (hone : t.batches.length = 1) (h : t.Looping n p)
    (hfrozen : t.FrozenRun frames n p turns) (hsig : p.conn.lastRespSig = some (frames 0).raw)
    (hpolls : 0 < turns.countP ConnectionTurn.isPoll)
    (hlong : p.conn.staleThreshold ≤ p.conn.staleCount + turns.countP ConnectionTurn.isPoll) :
    t.Noticed p turns := by
  have hbatch : ∀ k, frames (k % t.batches.length) = frames 0 := fun k => by rw [hone, Nat.mod_one]
  induction turns generalizing n p with
  | nil => simp at hpolls
  | cons turn turns ih =>
    obtain ⟨hloop, ⟨hpoll, hnotes, -, hcloses⟩ | ⟨hpoll, hkeeps, -⟩⟩ := step_frozen h hfrozen.head
    · rw [hbatch n] at hnotes hcloses
      rw [List.countP_cons_of_pos hpoll] at hpolls hlong
      rw [noticed_cons, hcloses]
      by_cases htrips : p.conn.Trips (frames 0).raw
      · exact Or.inl htrips
      · have hcount : p.conn.staleCount + 1 < p.conn.staleThreshold := by
          by_contra hfull
          exact htrips ⟨hsig, Nat.le_of_not_lt hfull⟩
        obtain ⟨c₁, -, hkeeps, hconn⟩ := hnotes
        have htrips' : ¬ c₁.Trips (frames 0).raw := by rwa [hkeeps.trips]
        refine Or.inr (ih hloop hfrozen.tail ?_ (by omega) ?_)
        · rw [hconn, PersistentDongleConnection.noteResponse_sig]
        · rw [hconn, PersistentDongleConnection.noteResponse_threshold,
            PersistentDongleConnection.noteResponse_count (hkeeps.lastRespSig.trans hsig) htrips',
            hkeeps.staleThreshold, hkeeps.staleCount]
          omega
    · rw [List.countP_cons_of_neg (by simp [hpoll])] at hpolls hlong
      refine noticed_cons.mpr (Or.inr (ih hloop hfrozen.tail (hkeeps.lastRespSig.trans hsig) hpolls ?_))
      rw [hkeeps.staleThreshold, hkeeps.staleCount]
      exact hlong

/-- With one batch the repetitions add up, whatever the response before the run was. -/
theorem single_batch_closes (hone : t.batches.length = 1) (h : t.Looping n p)
    (hfrozen : t.FrozenRun frames n p turns) (hpos : 0 < p.conn.staleThreshold)
    (hlong : p.conn.staleThreshold + 1 ≤ turns.countP ConnectionTurn.isPoll) :
    t.Noticed p turns := by
  induction turns generalizing n p with
  | nil => simp at hlong
  | cons turn turns ih =>
    obtain ⟨hloop, ⟨hpoll, hnotes, -, hcloses⟩ | ⟨hpoll, hkeeps, -⟩⟩ := step_frozen h hfrozen.head
    · rw [hone, Nat.mod_one] at hnotes
      rw [List.countP_cons_of_pos hpoll] at hlong
      obtain ⟨c₁, -, hkeeps, hconn⟩ := hnotes
      have hthreshold : (t.step p turn).1.conn.staleThreshold = p.conn.staleThreshold := by
        rw [hconn, PersistentDongleConnection.noteResponse_threshold, hkeeps.staleThreshold]
      refine noticed_cons.mpr (Or.inr (repeated_closes hone hloop hfrozen.tail ?_ (by omega) ?_))
      · rw [hconn, PersistentDongleConnection.noteResponse_sig]
      · omega
    · rw [List.countP_cons_of_neg (by simp [hpoll])] at hlong
      refine noticed_cons.mpr (Or.inr (ih hloop hfrozen.tail ?_ ?_))
      · rw [hkeeps.staleThreshold]
        exact hpos
      · rw [hkeeps.staleThreshold]
        exact hlong

/-- With several batches whose frames differ, a poll never repeats the response before it: if the
first poll does not trip the detector, none does. -/
theorem cycling_keeps_open (hmany : t.batches.length ≠ 1)
    (hdistinct : ∀ i < t.batches.length, ∀ j < t.batches.length, i ≠ j → frames i ≠ frames j)
    (h : t.Looping n p) (hfrozen : t.FrozenRun frames n p turns)
    (hfirst : frameOf (frames (n % t.batches.length)).raw = some (frames (n % t.batches.length)) →
      ¬ p.conn.Trips (frames (n % t.batches.length)).raw) :
    ¬ t.Noticed p turns := by
  induction turns generalizing n p with
  | nil =>
    rintro ⟨pre, turn, post, hsplit, -⟩
    simp at hsplit
  | cons turn turns ih =>
    rw [noticed_cons, not_or]
    obtain ⟨hloop, ⟨hpoll, hnotes, hframe, hcloses⟩ | ⟨hpoll, hkeeps, hopen⟩⟩ :=
      step_frozen h hfrozen.head
    · refine ⟨fun hclosed => hfirst hframe (hcloses.mp hclosed), ih hloop hfrozen.tail ?_⟩
      rw [List.countP_cons_of_pos hpoll, List.countP_nil]
      intro hnext htrips
      obtain ⟨c₁, -, -, hconn⟩ := hnotes
      have hraw : (frames (n % t.batches.length)).raw = (frames ((n + 1) % t.batches.length)).raw := by
        have hsig := htrips.1
        rw [hconn, PersistentDongleConnection.noteResponse_sig] at hsig
        exact Option.some.inj hsig
      have hsame : frames (n % t.batches.length) = frames ((n + 1) % t.batches.length) := by
        rw [hraw] at hframe
        exact Option.some.inj (hframe.symm.trans hnext)
      have hpos := t.batches_pos
      have hne : n % t.batches.length ≠ (n + 1) % t.batches.length := by
        intro heq
        rw [Nat.add_mod, Nat.one_mod_eq_one.mpr hmany] at heq
        have hlt := Nat.mod_lt n hpos
        rcases Nat.lt_or_ge (n % t.batches.length + 1) t.batches.length with hsmall | hlast
        · rw [Nat.mod_eq_of_lt hsmall] at heq
          omega
        · rw [show n % t.batches.length + 1 = t.batches.length by omega, Nat.mod_self] at heq
          omega
      exact hdistinct _ (Nat.mod_lt _ hpos) _ (Nat.mod_lt _ hpos) hne hsame
    · refine ⟨hopen, ih hloop hfrozen.tail ?_⟩
      rw [List.countP_cons_of_neg (by simp [hpoll]), List.countP_nil]
      intro hframe htrips
      exact hfirst hframe ((hkeeps.trips _).mp htrips)

/-- If the frame of the first poll trips the detector, the first poll closes the connection. -/
theorem first_poll_closes (h : t.Looping n p) (hfrozen : t.FrozenRun frames n p turns)
    (hpolls : 0 < turns.countP ConnectionTurn.isPoll)
    (htrips : p.conn.Trips (frames (n % t.batches.length)).raw) : t.Noticed p turns := by
  induction turns generalizing n p with
  | nil => simp at hpolls
  | cons turn turns ih =>
    obtain ⟨hloop, ⟨hpoll, -, -, hcloses⟩ | ⟨hpoll, hkeeps, -⟩⟩ := step_frozen h hfrozen.head
    · exact noticed_cons.mpr (Or.inl (hcloses.mpr htrips))
    · rw [List.countP_cons_of_neg (by simp [hpoll])] at hpolls hloop
      refine noticed_cons.mpr (Or.inr (ih hloop ?_ hpolls ?_))
      · have htail := hfrozen.tail
        rwa [List.countP_cons_of_neg (by simp [hpoll])] at htail
      · exact (hkeeps.trips _).mpr htrips

end TcpActiveTransport

/-- A run of the poller that starts before its poll number `n`: over `staleThreshold + 1` rounds of
the batches, each answered with its own frame, some poll closes the connection exactly if there is
only one batch, or the detector was one short of the frame that the run begins with. -/
theorem frozen_noticed_iff (t : TcpActiveTransport) (frames : ℕ → LuxFrame)
    (hdistinct : ∀ i < t.batches.length, ∀ j < t.batches.length, i ≠ j → frames i ≠ frames j)
    (n : ℕ) (p : Poller) (hloop : t.Looping n p) (hpos : 0 < p.conn.staleThreshold)
    (turns : List ConnectionTurn) (hfrozen : t.FrozenRun frames n p turns)
    (hlong : (p.conn.staleThreshold + 1) * t.batches.length ≤ turns.countP ConnectionTurn.isPoll) :
    t.Noticed p turns ↔
      t.batches.length = 1 ∨ p.conn.Trips (frames (n % t.batches.length)).raw := by
  constructor
  · intro hnoticed
    by_contra h
    rw [not_or] at h
    exact TcpActiveTransport.cycling_keeps_open h.1 hdistinct hloop hfrozen (fun _ => h.2) hnoticed
  · rintro (hone | htrips)
    · rw [hone, Nat.mul_one] at hlong
      exact TcpActiveTransport.single_batch_closes hone hloop hfrozen hpos hlong
    · have hpolls : 0 < turns.countP ConnectionTurn.isPoll :=
        Nat.lt_of_lt_of_le (Nat.mul_pos (Nat.succ_pos _) t.batches_pos) hlong
      exact TcpActiveTransport.first_poll_closes hloop hfrozen hpolls htrips

/-! ## Dongles that answer every batch with one frame -/

/-- A dongle that answers at once, with this frame. -/
def answering (f : WireFrame) (_ : Nat) : Attempt := ⟨.timeout, .accepted, true, [.data f.bytes]⟩

namespace TcpActiveTransport

variable (t : TcpActiveTransport)

/-- `k` polls from the number `n` on, each answered with the frame of its batch. -/
def frozenTurns (frames : ℕ → WireFrame) : (k n : ℕ) → List ConnectionTurn
  | 0, _ => []
  | k + 1, n => .poll (answering (frames (n % t.batches.length))) :: frozenTurns frames k (n + 1)

variable {t}

theorem countP_frozenTurns (frames : ℕ → WireFrame) (k n : ℕ) :
    (t.frozenTurns frames k n).countP ConnectionTurn.isPoll = k := by
  induction k generalizing n with
  | zero => rfl
  | succ k ih => rw [frozenTurns, List.countP_cons_of_pos rfl, ih]

theorem transact_answering {accepts : LuxFrame → Bool} {f : WireFrame} (h : accepts f.parsed = true)
    (conn : PersistentDongleConnection) :
    (conn.transact accepts (answering f)).2 = .ok (some f.parsed) := by
  have hlong : headerSize ≤ f.bytes.length := f.isFrame.long
  have hchunks : chunksOf [.data f.bytes] = [f.bytes] := by
    have hne : f.bytes.isEmpty = false :=
      List.isEmpty_eq_false_iff.mpr (List.ne_nil_of_length_pos (Nat.lt_of_lt_of_le (by decide) hlong))
    rw [chunksOf, hne, if_neg Bool.false_ne_true]
    rfl
  have hanswer : (answering f 0).answer accepts = some f.parsed := by
    have hfind : findFrames ([] ++ f.bytes) = .ok [f.parsed] := findFrames_frame f
    show firstAccepted accepts [] (chunksOf [.data f.bytes]) = _
    rw [hchunks, firstAccepted_cons hfind, List.find?_cons_of_pos h, Option.some_or]
  have hserved : Served accepts (conn.maxRetries + 1) conn.sock (answering f) := by
    refine ⟨fun _ => rfl, fun hnone => ?_⟩
    rw [hanswer] at hnone
    cases hnone
  obtain ⟨out, hout⟩ := (PersistentDongleConnection.transact_returns_iff accepts conn _).mpr hserved
  rw [hout, PersistentDongleConnection.transact_eq_answer accepts hout, answerOf_succ, hanswer,
    Option.some_or]

theorem frozenRun_frozenTurns {frames : ℕ → WireFrame}
    (haccepts : ∀ i < t.batches.length, (t.batch i).accepts (frames i).parsed = true)
    {n : ℕ} {p : Poller} (h : t.Looping n p) (k : ℕ) :
    t.FrozenRun (fun i => (frames i).parsed) n p (t.frozenTurns frames k n) := by
  induction k generalizing n p with
  | zero =>
    intro pre turn post hsplit
    simp [frozenTurns] at hsplit
  | succ k ih =>
    have hbatch : t.batch n = t.batch (n % t.batches.length) := by
      unfold batch
      rw [Nat.mod_mod]
    have hframe := haccepts _ (Nat.mod_lt n t.batches_pos)
    rw [← hbatch] at hframe
    obtain ⟨packet, -, hpoll⟩ := poll_looping h (answering (frames (n % t.batches.length)))
    rw [transact_answering hframe] at hpoll
    intro pre turn post hsplit
    cases pre with
    | nil =>
      obtain ⟨rfl, -⟩ := List.cons.inj hsplit
      show t.AnsweredFrom _ n (t.poll p _).2
      rw [hpoll]
      rfl
    | cons first pre =>
      obtain ⟨rfl, hrest⟩ := List.cons.inj hsplit
      rw [List.countP_cons_of_pos rfl, Nat.add_comm _ 1, ← Nat.add_assoc]
      refine ih ?_ pre turn post hrest
      show t.Looping (n + 1) (t.poll p _).1
      rw [hpoll]
      exact received_looping h _ (some (frames (n % t.batches.length)).parsed)

theorem start_conn {conn : PersistentDongleConnection} {p : Poller} (h : t.start conn = .ok p) :
    p.conn = conn := by
  unfold start at h
  rw [t.buildRequests_eq] at h
  cases h
  rfl

end TcpActiveTransport

/-- A read response for one input register. -/
def inputAnswer (register crc0 crc1 : UInt8) : Bytes :=
  [0xA1, 0x1A, 5, 0, 33, 0, 1, 0xC2] ++ List.replicate 10 0x41 ++ [19, 0, 1, 4] ++
    List.replicate 10 0x31 ++ [register, 0, 2, 100, 0] ++ [crc0, crc1]

/-- What the dongle answers to the batches at 0, 40 and 80, again and again. -/
def cachedAnswers : ℕ → WireFrame
  | 0 => ⟨inputAnswer 0 0x82 0x59, by decide⟩
  | 1 => ⟨inputAnswer 40 0xe2 0x5f, by decide⟩
  | _ => ⟨inputAnswer 80 0x42 0x55, by decide⟩

/-- The same dongle polled for its first batch only. -/
def singleBatch : TcpActiveTransport where
  dongle := defaultTransport.dongle
  batches := [(0, 40)]
  nonempty := by decide
  packed := by decide

theorem single_batch_noticed :
    ∃ p, singleBatch.start { sock := true } = .ok p ∧
      singleBatch.Noticed p (singleBatch.frozenTurns cachedAnswers 6 0) := by
  obtain ⟨p, hp, hloop⟩ := singleBatch.start_eq { sock := true }
  have hconn := TcpActiveTransport.start_conn hp
  have hfrozen : singleBatch.FrozenRun (fun i => (cachedAnswers i).parsed) 0 p _ :=
    TcpActiveTransport.frozenRun_frozenTurns (by decide +kernel) hloop 6
  refine ⟨p, hp, (frozen_noticed_iff singleBatch _ ?_ 0 p hloop ?_ _ hfrozen ?_).mpr (Or.inl rfl)⟩
  · intro i hi j hj hij
    have hi : i < 1 := hi
    have hj : j < 1 := hj
    omega
  · rw [hconn]
    decide
  · rw [hconn, TcpActiveTransport.countP_frozenTurns]
    decide

/-- Six rounds over three batches, from a new connection on: no two responses in a row are equal,
and the connection to the frozen dongle stays open. -/
theorem cached_unnoticed :
    ∃ p, defaultTransport.start { sock := true } = .ok p ∧
      defaultTransport.FrozenRun (fun i => (cachedAnswers i).parsed) 0 p
        (defaultTransport.frozenTurns cachedAnswers 18 0) ∧
      (∀ i < defaultTransport.batches.length, ∀ j < defaultTransport.batches.length, i ≠ j →
        (cachedAnswers i).parsed ≠ (cachedAnswers j).parsed) ∧
      (p.conn.staleThreshold + 1) * defaultTransport.batches.length ≤
        (defaultTransport.frozenTurns cachedAnswers 18 0).countP ConnectionTurn.isPoll ∧
      ¬ defaultTransport.Noticed p (defaultTransport.frozenTurns cachedAnswers 18 0) := by
  obtain ⟨p, hp, hloop⟩ := defaultTransport.start_eq { sock := true }
  have hconn := TcpActiveTransport.start_conn hp
  have hfrozen : defaultTransport.FrozenRun (fun i => (cachedAnswers i).parsed) 0 p _ :=
    TcpActiveTransport.frozenRun_frozenTurns (by decide +kernel) hloop 18
  have hdistinct : ∀ i < defaultTransport.batches.length, ∀ j < defaultTransport.batches.length,
      i ≠ j → (cachedAnswers i).parsed ≠ (cachedAnswers j).parsed := by
    have hbytes : ∀ i < defaultTransport.batches.length, ∀ j < defaultTransport.batches.length,
        i ≠ j → (cachedAnswers i).bytes ≠ (cachedAnswers j).bytes := by decide
    intro i hi j hj hij hsame
    refine hbytes i hi j hj hij ?_
    rw [← WireFrame.parsed_raw, ← WireFrame.parsed_raw, hsame]
  refine ⟨p, hp, hfrozen, hdistinct, ?_, ?_⟩
  · rw [hconn, TcpActiveTransport.countP_frozenTurns]
    decide
  · refine TcpActiveTransport.cycling_keeps_open (by decide) hdistinct hloop hfrozen ?_
    rw [hconn]
    rintro - ⟨hsig, -⟩
    cases hsig

end LuxMon
