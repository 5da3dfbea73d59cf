import LuxMon.Comm.Persistent
import LuxMon.Dongle.Transaction
import LuxMon.Effects.Machine

/-!
# The polling loop

The thread of the active transport sends one batch request after the other over the
shared connection.  Other threads use the connection between its transactions: the
lock lets one of them at it at a time.  An exception that leaves `transact` ends the
thread for good.

    a transaction answers as the effect programs are told                       (transact_reply)
    every poll goes on with the next batch ↔ no connect that is needed fails   (polling_survives_iff)
-/

namespace LuxMon

open Python

/-- The connection answers a transaction as the programs above it are told: with an exception,
with nothing, or with a frame that the match predicate of the request accepts. -/
theorem transact_reply (d : Dongle) (req : Request) (conn : PersistentDongleConnection) (net : Nat → Attempt) :
    ∃ answer : Op.Answer (.transact d req),
      (conn.transact req.accepts net).2 = answer.map fun reply => reply.map Subtype.val := by
  cases hout : (conn.transact req.accepts net).2 with
  | error e => exact ⟨.error e, rfl⟩
  | ok frame =>
    cases frame with
    | none => exact ⟨.ok none, rfl⟩
    | some f =>
      have haccepts := PersistentDongleConnection.transact_accepts req.accepts hout f rfl
      exact ⟨.ok (some ⟨f, haccepts⟩), rfl⟩

/-- The constructor replaces missing batches by the default ones, so there is always one;
the batches of the drivers are 16-bit. -/
structure TcpActiveTransport where
  dongle : Dongle
  batches : List (Nat × Nat)
  nonempty : batches ≠ []
  packed : ∀ b ∈ batches, b.1 ≤ 0xFFFF ∧ b.2 ≤ 0xFFFF

/-- `_run` before a turn of its loop, and its transport's counters. -/
structure Poller where
  conn : PersistentDongleConnection
  requests : List Bytes
  batchIdx : Nat := 0
  pollRequests : Nat := 0
  framesReceived : Nat := 0
  running : Bool := true

/-- What happens to the connection, in the order in which the lock is taken. -/
inductive ConnectionTurn
  | poll (net : Nat → Attempt)
  | call (req : Request) (net : Nat → Attempt)
  | heartbeat (probe : Probe) (due sends : Bool)

def ConnectionTurn.isPoll : ConnectionTurn → Bool
  | .poll _ => true
  | _ => false

/-- What came of a turn; `ended` where the polling thread is gone. -/
inductive TurnResult
  | issued (packet : Bytes) (req : Request) (out : Except PyErr (Option LuxFrame))
  | called (req : Request) (out : Except PyErr (Option LuxFrame))
  | beat
  | ended

namespace TcpActiveTransport

variable (t : TcpActiveTransport)

/-- `_build_requests`. -/
def buildRequests : Except PyErr (List Bytes) :=
  t.batches.mapM fun b => (Request.readInput b.1 b.2).encode t.dongle

/-- `_run` up to its loop; the shared connection may have been used before. -/
def start (conn : PersistentDongleConnection) : Except PyErr Poller := do
  let requests ← t.buildRequests
  return { conn := conn, requests := requests }

/-- The end of a turn of the loop, after `transact`. -/
def received (p : Poller) (conn : PersistentDongleConnection) :
    Except PyErr (Option LuxFrame) → Poller
  | .error _ => { p with conn := conn, running := false }
  | .ok none => { p with conn := conn, batchIdx := (p.batchIdx + 1) % t.batches.length }
  | .ok (some frame) =>
    { p with
      conn := conn
      batchIdx := (p.batchIdx + 1) % t.batches.length
      pollRequests := p.pollRequests + 1
      framesReceived := p.framesReceived + if frame.isError then 0 else 1 }

/-- A turn of the loop of `_run`. -/
def poll (p : Poller) (net : Nat → Attempt) : Poller × TurnResult :=
  if p.running then
    match p.requests[p.batchIdx]?, t.batches[p.batchIdx]? with
    | some packet, some (start, count) =>
      let req := Request.readInput start count
      let (conn, out) := p.conn.transact req.accepts net
      (t.received p conn out, .issued packet req out)
    | _, _ => ({ p with running := false }, .ended)
  else (p, .ended)

def step (p : Poller) : ConnectionTurn → Poller × TurnResult
  | .poll net => t.poll p net
  | .call req net =>
    let (conn, out) := p.conn.transact req.accepts net
    ({ p with conn := conn }, .called req out)
  | .heartbeat probe due sends => ({ p with conn := p.conn.heartbeat probe due sends }, .beat)

/-! ## The polls of a run -/

/-- The request of the poll number `n`. -/
def batch (n : Nat) : Request :=
  let b := t.batches.getD (n % t.batches.length) (0, 0)
  .readInput b.1 b.2

/-- The `n`-th poll issues its batch; whatever is called returns nothing or a frame that its
match predicate accepts. -/
def Fine (n : Nat) : TurnResult → Prop
  | .issued packet req out => req = t.batch n ∧ req.encode t.dongle = .ok packet ∧
      ∃ frame, out = .ok frame ∧ ∀ f ∈ frame, req.accepts f = true
  | .called req out => ∃ frame, out = .ok frame ∧ ∀ f ∈ frame, req.accepts f = true
  | .beat => True
  | .ended => False

/-- Every turn of the run is fine. -/
def Survives (p : Poller) (turns : List ConnectionTurn) : Prop :=
  ∀ pre turn post, turns = pre ++ turn :: post →
    t.Fine (pre.countP ConnectionTurn.isPoll) (t.step (Machine.after t.step p pre) turn).2

/-- The dongle accepts each connect that the transaction of the turn needs. -/
def ServedTurn (n : Nat) (conn : PersistentDongleConnection) : ConnectionTurn → Prop
  | .poll net => Served (t.batch n).accepts (conn.maxRetries + 1) conn.sock net
  | .call req net => Served req.accepts (conn.maxRetries + 1) conn.sock net
  | .heartbeat _ _ _ => True

/-- The loop is before its `n`-th poll. -/
structure Looping (n : Nat) (p : Poller) : Prop where
  running : p.running = true
  batchIdx : p.batchIdx = n % t.batches.length
  requests : t.buildRequests = .ok p.requests

theorem batches_pos : 0 < t.batches.length := List.length_pos_of_ne_nil t.nonempty

theorem batch_encode {b : Nat × Nat} (hb : b ∈ t.batches) :
    ∃ packet, (Request.readInput b.1 b.2).encode t.dongle = .ok packet := by
  obtain ⟨hstart, hcount⟩ := t.packed b hb
  exact buildReadRequest_ok _ _ _ (by omega) (by omega)

theorem buildRequests_eq :
    t.buildRequests = .ok (t.batches.map fun b =>
      ((Request.readInput b.1 b.2).encode t.dongle).toOption.getD []) := by
  refine mapM_ok fun b hb => ?_
  obtain ⟨packet, hpacket⟩ := t.batch_encode hb
  rw [hpacket]
  rfl

theorem start_eq (conn : PersistentDongleConnection) :
    ∃ p, t.start conn = .ok p ∧ t.Looping 0 p := by
  unfold start
  rw [t.buildRequests_eq]
  exact ⟨_, rfl, rfl, (Nat.zero_mod _).symm, t.buildRequests_eq⟩

variable {t} {n : Nat} {p : Poller}

/-- In the loop, the poll takes the request and the batch of its number. -/
theorem poll_looping (h : t.Looping n p) (net : Nat → Attempt) :
    ∃ packet, (t.batch n).encode t.dongle = .ok packet ∧
      t.poll p net =
        (t.received p (p.conn.transact (t.batch n).accepts net).1
            (p.conn.transact (t.batch n).accepts net).2,
          .issued packet (t.batch n) (p.conn.transact (t.batch n).accepts net).2) := by
  have hlt : p.batchIdx < t.batches.length := by
    rw [h.batchIdx]
    exact Nat.mod_lt _ t.batches_pos
  obtain ⟨packet, hpacket⟩ := t.batch_encode (List.getElem_mem hlt)
  have hrequests : p.requests[p.batchIdx]? = some packet := by
    have heq := Except.ok.inj (h.requests.symm.trans t.buildRequests_eq)
    rw [heq, List.getElem?_map, List.getElem?_eq_getElem hlt, Option.map_some, hpacket]
    rfl
  have hbatch : t.batch n = .readInput t.batches[p.batchIdx].1 t.batches[p.batchIdx].2 := by
    unfold batch
    rw [← h.batchIdx, List.getD_eq_getElem?_getD, List.getElem?_eq_getElem hlt, Option.getD_some]
  refine ⟨packet, by rw [hbatch, hpacket], ?_⟩
  unfold poll
  rw [if_pos h.running, hrequests, List.getElem?_eq_getElem hlt, hbatch]

theorem received_looping (h : t.Looping n p) (conn : PersistentDongleConnection)
    (frame : Option LuxFrame) : t.Looping (n + 1) (t.received p conn (.ok frame)) := by
  have hnext : (p.batchIdx + 1) % t.batches.length = (n + 1) % t.batches.length := by
    rw [h.batchIdx, Nat.mod_add_mod]
  cases frame with
  | none => exact ⟨h.running, hnext, h.requests⟩
  | some f => exact ⟨h.running, hnext, h.requests⟩

/-- A transaction that returns at all returns nothing or an accepted frame. -/
theorem transact_fine_iff (accepts : LuxFrame → Bool) (conn : PersistentDongleConnection)
    (net : Nat → Attempt) :
    (∃ frame, (conn.transact accepts net).2 = .ok frame ∧ ∀ f ∈ frame, accepts f = true) ↔
      Served accepts (conn.maxRetries + 1) conn.sock net := by
  rw [← PersistentDongleConnection.transact_returns_iff]
  constructor
  · intro ⟨frame, hout, _⟩
    exact ⟨frame, hout⟩
  · intro ⟨frame, hout⟩
    exact ⟨frame, hout, PersistentDongleConnection.transact_accepts accepts hout⟩

theorem step_fine_iff (h : t.Looping n p) (turn : ConnectionTurn) :
    t.Fine n (t.step p turn).2 ↔ t.ServedTurn n p.conn turn := by
  cases turn with
  | poll net =>
    obtain ⟨packet, hpacket, hpoll⟩ := poll_looping h net
    show t.Fine n (t.poll p net).2 ↔ _
    rw [hpoll]
    show _ ∧ _ ∧ _ ↔ _
    rw [and_iff_right rfl, and_iff_right hpacket]
    exact transact_fine_iff _ _ _
  | call req net => exact transact_fine_iff _ _ _
  | heartbeat probe due sends => exact Iff.rfl

theorem step_looping (h : t.Looping n p) {turn : ConnectionTurn}
    (hserved : t.ServedTurn n p.conn turn) :
    t.Looping (n + [turn].countP ConnectionTurn.isPoll) (t.step p turn).1 := by
  cases turn with
  | poll net =>
    obtain ⟨packet, -, hpoll⟩ := poll_looping h net
    obtain ⟨frame, hout, -⟩ := (transact_fine_iff _ _ _).mpr hserved
    show t.Looping (n + 1) (t.poll p net).1
    rw [hpoll, hout]
    exact received_looping h _ frame
  | call req net => exact ⟨h.running, h.batchIdx, h.requests⟩
  | heartbeat probe due sends => exact ⟨h.running, h.batchIdx, h.requests⟩

/-- As long as the dongle accepts the connects, the loop goes on. -/
theorem run_looping (h : t.Looping 0 p) {turns : List ConnectionTurn}
    (hserved : ∀ pre turn post, turns = pre ++ turn :: post →
      t.Looping (pre.countP ConnectionTurn.isPoll) (Machine.after t.step p pre) →
      t.ServedTurn (pre.countP ConnectionTurn.isPoll) (Machine.after t.step p pre).conn turn) :
    ∀ pre post, turns = pre ++ post →
      t.Looping (pre.countP ConnectionTurn.isPoll) (Machine.after t.step p pre) := by
  intro pre
  induction pre using List.reverseRecOn with
  | nil => exact fun _ _ => h
  | append_singleton pre turn ih =>
    intro post hsplit
    rw [List.append_assoc, List.singleton_append] at hsplit
    have hloop := ih _ hsplit
    rw [Machine.after_append, List.countP_append]
    exact step_looping hloop (hserved pre turn post hsplit hloop)

end TcpActiveTransport

theorem polling_survives_iff (t : TcpActiveTransport) (conn : PersistentDongleConnection) :
    ∃ p, t.start conn = .ok p ∧ ∀ turns : List ConnectionTurn,
      t.Survives p turns ↔ ∀ pre turn post, turns = pre ++ turn :: post →
        t.ServedTurn (pre.countP ConnectionTurn.isPoll) (Machine.after t.step p pre).conn turn := by
  obtain ⟨p, hp, hloop⟩ := t.start_eq conn
  refine ⟨p, hp, fun turns => ⟨fun h => ?_, fun h => ?_⟩⟩
  · have hinv := TcpActiveTransport.run_looping hloop fun pre turn post hsplit hpre =>
      (TcpActiveTransport.step_fine_iff hpre turn).mp (h pre turn post hsplit)
    intro pre turn post hsplit
    exact (TcpActiveTransport.step_fine_iff (hinv pre _ hsplit) turn).mp (h pre turn post hsplit)
  · have hinv := TcpActiveTransport.run_looping hloop fun pre turn post hsplit _ =>
      h pre turn post hsplit
    intro pre turn post hsplit
    exact (TcpActiveTransport.step_fine_iff (hinv pre _ hsplit) turn).mpr (h pre turn post hsplit)

/-! ## A dongle that restarts -/

/-- A transport with the default batches. -/
def defaultTransport : TcpActiveTransport where
  dongle := ⟨"192.168.1.100", 8000, "BA12345678", "4512345678"⟩
  batches := [(0, 40), (40, 40), (80, 40)]
  nonempty := by decide
  packed := by decide

/-- The dongle closes the connection instead of answering, then refuses the new one. -/
def restarting : Nat → Attempt
  | 0 => ⟨.timeout, .accepted, true, [.data []]⟩
  | _ => ⟨.timeout, .refused, true, []⟩

/-- The dongle accepts connections again; it just does not answer. -/
def reachable (_ : Nat) : Attempt := ⟨.timeout, .accepted, true, [.timeout]⟩

theorem refused_connect_ends_polling :
    ∃ p packet, defaultTransport.start { sock := true } = .ok p ∧
      Machine.outputs defaultTransport.step p [.poll restarting, .poll reachable] =
        [.issued packet (.readInput 0 40) (.error (connectError .refused)), .ended] ∧
      ¬ ∀ turns, defaultTransport.Survives p turns := by
  refine ⟨_, _, rfl, rfl, fun h => ?_⟩
  exact h [.poll restarting, .poll reachable] [.poll restarting] (.poll reachable) [] rfl

end LuxMon
