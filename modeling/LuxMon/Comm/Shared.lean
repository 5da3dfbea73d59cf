import LuxMon.Comm.Frozen

/-!
# The shared connection of a process

`get_shared_connection` replaces the connection when it is asked for another dongle:
it stops the old one and starts a new one.  But transports and requests in flight
keep the old object, and `transact` connects whenever there is no socket.

    a replaced connection has no socket as long as it is not used again   (step_quiet)
    ... so there is never more than one socket                            (one_socket_of_current)
    a late call on a replaced connection opens a second one               (late_call_opens)
-/

namespace LuxMon

open Python

namespace PersistentDongleConnection

/-- `stop`; the heartbeat thread is asked to end, too. -/
def stop (c : PersistentDongleConnection) : PersistentDongleConnection := c.drop

/-- `start`: the heartbeat thread begins if the connect did not raise. -/
def start (c : PersistentDongleConnection) (dial : Dial) :
    PersistentDongleConnection × Except PyErr Unit :=
  c.connect dial

end PersistentDongleConnection

/-- A connection object with what it was made for. -/
structure ConnectionObject where
  dongle : Dongle
  conn : PersistentDongleConnection := {}

/-- Every connection object that the process has made, in order, and which one `_shared` is. -/
structure DongleProcess where
  objects : List ConnectionObject := []
  shared : Option ℕ := none

/-- The regions that hold a lock.  A heartbeat may still wait for the lock when its connection
is stopped, as `join` has a timeout. -/
inductive LockedStep
  | getShared (d : Dongle) (dial : Dial)
  | transact (i : ℕ) (accepts : LuxFrame → Bool) (net : ℕ → Attempt)
  | heartbeat (i : ℕ) (probe : Probe) (due sends : Bool)
  | stop (i : ℕ)

/-- What the caller gets. -/
inductive LockedResult
  | shared (out : Except PyErr ℕ)
  | transacted (out : Except PyErr (Option LuxFrame))
  | nothing

namespace DongleProcess

/-- An operation on the connection of one object. -/
def onObject (s : DongleProcess) (i : ℕ)
    (f : PersistentDongleConnection → PersistentDongleConnection) : DongleProcess :=
  { s with objects := s.objects.modify i fun o => { o with conn := f o.conn } }

/-- `_shared.stop()`, if there is one. -/
def stopShared (s : DongleProcess) : DongleProcess :=
  match s.shared with
  | some i => s.onObject i PersistentDongleConnection.stop
  | none => s

/-- `_shared` is set before `start` connects. -/
def startShared (s : DongleProcess) (d : Dongle) (dial : Dial) : DongleProcess × Except PyErr ℕ :=
  let object : ConnectionObject := { dongle := d }
  let (conn, out) := object.conn.start dial
  ({ objects := s.objects ++ [{ object with conn := conn }], shared := some s.objects.length },
    out.map fun _ => s.objects.length)

/-- `_shared`, if it was made for this dongle. -/
def sharedFor (s : DongleProcess) (d : Dongle) : Option ℕ :=
  s.shared.filter fun i => decide (s.objects[i]?.map ConnectionObject.dongle = some d)

/-- `get_shared_connection`, under `_shared_lock`. -/
def getSharedConnection (s : DongleProcess) (d : Dongle) (dial : Dial) :
    DongleProcess × Except PyErr ℕ :=
  match s.sharedFor d with
  | some i => (s, .ok i)
  | none => s.stopShared.startShared d dial

def step (s : DongleProcess) : LockedStep → DongleProcess × LockedResult
  | .getShared d dial =>
    let (s, out) := s.getSharedConnection d dial
    (s, .shared out)
  | .transact i accepts net =>
    (s.onObject i fun c => (c.transact accepts net).1,
      match s.objects[i]? with
      | some o => .transacted (o.conn.transact accepts net).2
      | none => .nothing)
  | .heartbeat i probe due sends => (s.onObject i fun c => c.heartbeat probe due sends, .nothing)
  | .stop i => (s.onObject i PersistentDongleConnection.stop, .nothing)

/-- The object number `i` has an open socket. -/
def OpenAt (s : DongleProcess) (i : ℕ) : Prop := ∃ o, s.objects[i]? = some o ∧ o.conn.sock = true

/-- No two objects of the process have an open socket. -/
def OneSocket (s : DongleProcess) : Prop := ∀ i j, s.OpenAt i → s.OpenAt j → i = j

/-- A transaction is on the shared connection, or the dongle does not accept the connect of its
first attempt. -/
def Current (s : DongleProcess) : LockedStep → Prop
  | .transact i _ net => s.shared = some i ∨ (net 0).dial ≠ .accepted
  | _ => True

/-- Every step of the run is current when it is taken. -/
def CurrentRun : DongleProcess → List LockedStep → Prop
  | _, [] => True
  | s, a :: steps => s.Current a ∧ CurrentRun (s.step a).1 steps

/-- The shared connection is the newest one, and no other has a socket. -/
structure Quiet (s : DongleProcess) : Prop where
  bound : ∀ i, s.shared = some i → i < s.objects.length
  closed : ∀ i, s.OpenAt i → s.shared = some i

variable {s : DongleProcess}

theorem Quiet.oneSocket (h : s.Quiet) : s.OneSocket := by
  intro i j hi hj
  exact Option.some.inj ((h.closed i hi).symm.trans (h.closed j hj))

theorem openAt_onObject {i j : ℕ} {f : PersistentDongleConnection → PersistentDongleConnection} :
    (s.onObject i f).OpenAt j ↔
      if i = j then ∃ o, s.objects[j]? = some o ∧ (f o.conn).sock = true else s.OpenAt j := by
  unfold OpenAt onObject
  rw [List.getElem?_modify]
  by_cases hij : i = j
  · rw [if_pos hij]
    cases s.objects[j]? with
    | none => simp
    | some o => simp [hij]
  · rw [if_neg hij]
    cases s.objects[j]? with
    | none => simp
    | some o => simp [hij]

/-- An operation keeps the process quiet, if it is on the shared connection or leaves a closed
connection closed. -/
theorem Quiet.onObject (h : s.Quiet) {i : ℕ}
    {f : PersistentDongleConnection → PersistentDongleConnection}
    (hf : s.shared = some i ∨ ∀ c : PersistentDongleConnection, c.sock = false → (f c).sock = false) :
    (s.onObject i f).Quiet := by
  refine ⟨fun j hj => ?_, fun j hj => ?_⟩
  · show j < (s.objects.modify i _).length
    rw [List.length_modify]
    exact h.bound j hj
  · show s.shared = some j
    rw [openAt_onObject] at hj
    by_cases hij : i = j
    · rw [if_pos hij] at hj
      rcases hf with hshared | hf
      · rw [hshared, hij]
      · obtain ⟨o, ho, hopen⟩ := hj
        refine h.closed j ⟨o, ho, ?_⟩
        by_contra hclosed
        rw [hf o.conn (Bool.eq_false_iff.mpr hclosed)] at hopen
        exact Bool.false_ne_true hopen
    · rw [if_neg hij] at hj
      exact h.closed j hj

end DongleProcess

namespace PersistentDongleConnection

/-- Without a socket and without an accepting dongle, a transaction ends with its first connect. -/
theorem transact_refused {c : PersistentDongleConnection} (accepts : LuxFrame → Bool)
    {net : ℕ → Attempt} (hsock : c.sock = false) (hdial : (net 0).dial ≠ .accepted) :
    (c.transact accepts net).1.sock = false := by
  have hmust : (net 0).mustDial c.sock = true := by
    rw [Attempt.mustDial, hsock]
    rfl
  rw [transact, attempts, attempt_refused accepts hmust hdial]
  rfl

theorem heartbeat_closed {c : PersistentDongleConnection} (hsock : c.sock = false) (probe : Probe)
    (due sends : Bool) : (c.heartbeat probe due sends).sock = false := by
  unfold heartbeat
  rw [hsock, if_neg Bool.false_ne_true]
  exact hsock

end PersistentDongleConnection

namespace DongleProcess

variable {s : DongleProcess}

/-- Once the shared connection is stopped, no socket is open. -/
theorem Quiet.stopShared (h : s.Quiet) (j : ℕ) : ¬ s.stopShared.OpenAt j := by
  intro hj
  unfold DongleProcess.stopShared at hj
  cases hshared : s.shared with
  | none =>
    rw [hshared] at hj
    have hj' := h.closed j hj
    rw [hshared] at hj'
    cases hj'
  | some i =>
    rw [hshared] at hj
    have hopen : (s.onObject i PersistentDongleConnection.stop).OpenAt j := hj
    rw [openAt_onObject] at hopen
    by_cases hij : i = j
    · rw [if_pos hij] at hopen
      obtain ⟨o, -, hsock⟩ := hopen
      cases hsock
    · rw [if_neg hij] at hopen
      have hj' := h.closed j hopen
      rw [hshared] at hj'
      exact hij (Option.some.inj hj')

/-- The old connection is stopped before the new one is started. -/
theorem Quiet.getSharedConnection (h : s.Quiet) (d : Dongle) (dial : Dial) :
    (s.getSharedConnection d dial).1.Quiet := by
  unfold DongleProcess.getSharedConnection
  cases s.sharedFor d with
  | some i => exact h
  | none =>
    have hstopped := h.stopShared
    generalize s.stopShared = stopped at hstopped ⊢
    refine ⟨fun j hj => ?_, fun j hj => ?_⟩
    · obtain rfl := Option.some.inj hj
      show stopped.objects.length < (stopped.objects ++ [_]).length
      rw [List.length_append]
      exact Nat.lt_succ_self _
    · obtain ⟨o, ho, hopen⟩ := hj
      have ho' : (stopped.objects ++ [_])[j]? = some o := ho
      have hlast : stopped.objects.length = j := by
        rcases Nat.lt_trichotomy j stopped.objects.length with hlt | heq | hgt
        · rw [List.getElem?_append_left hlt] at ho'
          exact absurd ⟨o, ho', hopen⟩ (hstopped j)
        · exact heq.symm
        · rw [List.getElem?_eq_none (by simp; omega)] at ho'
          cases ho'
      exact congrArg some hlast

theorem step_quiet (h : s.Quiet) {a : LockedStep} (hcurrent : s.Current a) : (s.step a).1.Quiet := by
  cases a with
  | getShared d dial => exact h.getSharedConnection d dial
  | transact i accepts net =>
    refine Quiet.onObject h (f := fun c => (c.transact accepts net).1) ?_
    rcases hcurrent with hshared | hdial
    · exact Or.inl hshared
    · exact Or.inr fun c hsock => c.transact_refused accepts hsock hdial
  | heartbeat i probe due sends =>
    exact Quiet.onObject h (Or.inr fun c hsock => c.heartbeat_closed hsock probe due sends)
  | stop i => exact Quiet.onObject h (Or.inr fun c _ => rfl)

theorem run_quiet (h : s.Quiet) {steps : List LockedStep} (hrun : s.CurrentRun steps) :
    ∀ pre post, steps = pre ++ post → (Machine.after step s pre).Quiet := by
  induction steps generalizing s with
  | nil =>
    intro pre post hsplit
    obtain ⟨rfl, -⟩ := List.append_eq_nil_iff.mp hsplit.symm
    exact h
  | cons a steps ih =>
    obtain ⟨hcurrent, hrest⟩ := hrun
    intro pre post hsplit
    cases pre with
    | nil => exact h
    | cons b pre =>
      obtain ⟨rfl, hsplit'⟩ := List.cons.inj hsplit
      exact ih (step_quiet h hcurrent) hrest pre post hsplit'

theorem quiet_initial : ({} : DongleProcess).Quiet := by
  refine ⟨fun i hi => ?_, fun i hi => ?_⟩
  · cases hi
  · obtain ⟨o, ho, -⟩ := hi
    cases ho

end DongleProcess

/-- In every interleaving whose transactions are on the connection that is shared at that time, or
find the dongle refusing, no state that is reached has two open sockets. -/
theorem one_socket_of_current (steps : List LockedStep)
    (h : DongleProcess.CurrentRun {} steps) :
    ∀ pre post, steps = pre ++ post →
      (Machine.after DongleProcess.step {} pre).OneSocket :=
  fun pre post hsplit => (DongleProcess.run_quiet DongleProcess.quiet_initial h pre post hsplit).oneSocket

/-! ## A late call -/

/-- A call on another connection than the open shared one: with an accepting dongle and an answer
that does not trip its detector, there are two open sockets afterwards. -/
theorem late_call_opens {s : DongleProcess} {i k : ℕ} {o : ConnectionObject} (hshared : s.OpenAt k)
    (hik : i ≠ k) (ho : s.objects[i]? = some o) (accepts : LuxFrame → Bool) {net : ℕ → Attempt}
    (hdial : (net 0).dial = .accepted) {f : LuxFrame} (hanswer : (net 0).answer accepts = some f)
    (hfresh : ¬ o.conn.Trips f.raw) :
    ¬ (s.step (.transact i accepts net)).1.OneSocket := by
  obtain ⟨c', hattempt, c₁, hsock, hkeeps, hc'⟩ :=
    PersistentDongleConnection.attempt_answered accepts (c := o.conn) (fun _ => hdial) hanswer
  have hconn : (o.conn.transact accepts net).1 = c' := by
    rw [PersistentDongleConnection.transact, PersistentDongleConnection.attempts, hattempt]
  have hopen : c'.sock = true := by
    by_contra hclosed
    rw [Bool.not_eq_true, hc', PersistentDongleConnection.noteResponse_sock hsock, hkeeps.trips] at hclosed
    exact hfresh hclosed
  intro hone
  refine hik (hone i k ?_ ?_)
  · refine DongleProcess.openAt_onObject.mpr ?_
    rw [if_pos rfl]
    exact ⟨o, ho, by rw [hconn]; exact hopen⟩
  · refine DongleProcess.openAt_onObject.mpr ?_
    rw [if_neg hik]
    exact hshared

/-- The dongle of the settings before and after it got another address. -/
def oldAddress : Dongle := ⟨"192.168.1.100", 8000, "BA12345678", "4512345678"⟩

def newAddress : Dongle := { oldAddress with host := "192.168.1.101" }

/-- Nothing listens at the address any more. -/
def refusing (_ : ℕ) : Attempt := ⟨.timeout, .refused, true, []⟩

theorem moved_one_socket :
    (Machine.after DongleProcess.step {}
      [.getShared oldAddress .accepted, .transact 0 (fun _ => true) reachable,
        .getShared newAddress .accepted, .transact 0 (fun _ => true) refusing]).OneSocket := by
  refine one_socket_of_current [.getShared oldAddress .accepted,
    .transact 0 (fun _ => true) reachable, .getShared newAddress .accepted,
    .transact 0 (fun _ => true) refusing] ?_ _ [] (List.append_nil _).symm
  exact ⟨trivial, Or.inl rfl, trivial, Or.inr (by decide), trivial⟩

/-- The polling thread keeps its connection when the settings change: its next poll connects again
next to the new connection. -/
theorem late_poll_two_sockets :
    ¬ ∀ steps : List LockedStep, (Machine.after DongleProcess.step {} steps).OneSocket := by
  intro h
  have hone := h [.getShared oldAddress .accepted, .getShared newAddress .accepted,
    .transact 0 (fun _ => true) reachable]
  exact absurd (hone 0 1 ⟨_, rfl, rfl⟩ ⟨_, rfl, rfl⟩) (by decide)

end LuxMon
