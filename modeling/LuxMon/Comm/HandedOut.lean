import LuxMon.Comm.Shared

/-!
# Which connections are handed out

`get_shared_connection` sets `_shared` before `start` connects.  When the connect is refused the
caller gets the exception, but the next call for the same dongle gets the connection that was never
started: without a socket, and without a heartbeat thread for as long as it is shared.

    every call gets a started connection, and a refused call is tried again, as long as no refused
    call is directly followed by one for its own dongle                            (handsOutLive_iff)
-/

namespace LuxMon

open Python

/-- The process with the connection objects whose heartbeat thread runs. -/
structure HeartbeatProcess where
  process : DongleProcess := {}
  beating : List ℕ := []

/-- The parameters of a call, and what a connect would meet. -/
structure SharedCall where
  dongle : Dongle
  dial : Dial

namespace HeartbeatProcess

/-- `stop` ends the thread of the shared connection. -/
def stopShared (s : HeartbeatProcess) : HeartbeatProcess where
  process := s.process.stopShared
  beating := s.beating.filter fun i => s.process.shared ≠ some i

/-- `start` begins the thread once the connect has not raised. -/
def startShared (s : HeartbeatProcess) (d : Dongle) (dial : Dial) : HeartbeatProcess × Except PyErr ℕ :=
  let (process, out) := s.process.startShared d dial
  match out with
  | .ok i => ({ process := process, beating := i :: s.beating }, .ok i)
  | .error e => ({ s with process := process }, .error e)

/-- `get_shared_connection`. -/
def getSharedConnection (s : HeartbeatProcess) (d : Dongle) (dial : Dial) : HeartbeatProcess × Except PyErr ℕ :=
  match s.process.sharedFor d with
  | some i => (s, .ok i)
  | none => s.stopShared.startShared d dial

def step (s : HeartbeatProcess) (call : SharedCall) : HeartbeatProcess × Except PyErr ℕ :=
  s.getSharedConnection call.dongle call.dial

/-- A call for the dongle makes a connection and starts it. -/
def Starts (s : HeartbeatProcess) (d : Dongle) : Prop := s.process.sharedFor d = none

/-- The process after the calls. -/
def afterCalls (calls : List SharedCall) : HeartbeatProcess := Machine.after step {} calls

variable {s : HeartbeatProcess} {d : Dongle}

theorem startShared_process (s : HeartbeatProcess) (d : Dongle) (dial : Dial) :
    (s.startShared d dial).1.process = (s.process.startShared d dial).1 ∧
      (s.startShared d dial).2 = (s.process.startShared d dial).2 := by
  unfold startShared
  cases h : s.process.startShared d dial with
  | mk process out => cases out <;> exact ⟨rfl, rfl⟩

/-- The calls are those of the process without its threads. -/
theorem getSharedConnection_process (s : HeartbeatProcess) (d : Dongle) (dial : Dial) :
    (s.getSharedConnection d dial).1.process = (s.process.getSharedConnection d dial).1 ∧
      (s.getSharedConnection d dial).2 = (s.process.getSharedConnection d dial).2 := by
  unfold getSharedConnection DongleProcess.getSharedConnection
  cases s.process.sharedFor d with
  | some i => exact ⟨rfl, rfl⟩
  | none => exact startShared_process s.stopShared d dial

/-- What `_shared` was made for. -/
def key (s : HeartbeatProcess) : Option Dongle :=
  s.process.shared.bind fun i => s.process.objects[i]?.map ConnectionObject.dongle

theorem starts_iff : s.Starts d ↔ s.key ≠ some d := by
  unfold Starts key DongleProcess.sharedFor
  cases s.process.shared with
  | none => simp
  | some i => simp [Option.filter_eq_none_iff]

/-- A call that does not start changes nothing. -/
theorem step_kept {call : SharedCall} (h : s.key = some call.dongle) :
    ∃ i, s.process.shared = some i ∧ s.step call = (s, .ok i) := by
  cases hfor : s.process.sharedFor call.dongle with
  | none => exact absurd h (starts_iff.mp hfor)
  | some i =>
    have hshared := (Option.filter_eq_some_iff.mp hfor).1
    refine ⟨i, hshared, ?_⟩
    unfold step getSharedConnection
    rw [hfor]

/-- A call that starts: the new object is shared either way, and its thread runs if the connect is accepted. -/
theorem step_starts {call : SharedCall} (h : s.key ≠ some call.dongle) :
    (s.step call).1.process.shared = some s.process.stopShared.objects.length ∧
      (s.step call).1.key = some call.dongle ∧
      if call.dial = .accepted then
        (s.step call).2 = .ok s.process.stopShared.objects.length ∧
          s.process.stopShared.objects.length ∈ (s.step call).1.beating
      else ∃ e, (s.step call).2 = .error e := by
  have hfor : s.process.sharedFor call.dongle = none := starts_iff.mpr h
  have hstep : s.step call = s.stopShared.startShared call.dongle call.dial := by
    unfold step getSharedConnection
    rw [hfor]
  rw [hstep]
  unfold startShared DongleProcess.startShared PersistentDongleConnection.start PersistentDongleConnection.connect key
  split_ifs with hdial
  · refine ⟨rfl, ?_, rfl, List.mem_cons_self⟩
    simp [Except.map, stopShared]
  · refine ⟨rfl, ?_, _, rfl⟩
    simp [Except.map, stopShared]

/-- What is returned is shared. -/
theorem shared_of_ok {call : SharedCall} {i : ℕ} (h : (s.step call).2 = .ok i) :
    (s.step call).1.process.shared = some i := by
  by_cases hsame : s.key = some call.dongle
  · obtain ⟨j, hshared, hstep⟩ := step_kept hsame
    rw [hstep] at h ⊢
    obtain rfl := Except.ok.inj h
    exact hshared
  · obtain ⟨hshared, -, hout⟩ := step_starts hsame
    split_ifs at hout with hdial
    · obtain rfl := Except.ok.inj (hout.1.symm.trans h)
      exact hshared
    · obtain ⟨e, he⟩ := hout
      rw [he] at h
      cases h

theorem key_afterCalls (calls : List SharedCall) :
    (afterCalls calls).key = calls.getLast?.map SharedCall.dongle := by
  induction calls using List.reverseRecOn with
  | nil => rfl
  | append_singleton calls call ih =>
    rw [List.getLast?_concat]
    unfold afterCalls
    rw [Machine.after_append]
    show ((afterCalls calls).step call).1.key = some call.dongle
    by_cases hsame : (afterCalls calls).key = some call.dongle
    · obtain ⟨i, -, hstep⟩ := step_kept hsame
      rw [hstep]
      exact hsame
    · exact (step_starts hsame).2.1

end HeartbeatProcess

open HeartbeatProcess

/-- Every call that returns hands out a connection whose thread runs, and after a call that raises the next one
tries to start again. -/
def HandsOutLive (calls : List SharedCall) : Prop :=
  ∀ pre call post, calls = pre ++ call :: post →
    (∀ i, ((afterCalls pre).step call).2 = .ok i → i ∈ (afterCalls (pre ++ [call])).beating) ∧
    ∀ e next, ((afterCalls pre).step call).2 = .error e → post.head? = some next →
      (afterCalls (pre ++ [call])).Starts next.dongle

/-- Behind the calls `pre`: the call is the first one or for another dongle than the one before it, and its
dongle does not accept. -/
def Refused (pre : List SharedCall) (call : SharedCall) : Prop :=
  pre.getLast?.map SharedCall.dongle ≠ some call.dongle ∧ call.dial ≠ .accepted

/-- No refused call is directly followed by one for its own dongle. -/
def NeverRepeated (calls : List SharedCall) : Prop :=
  ∀ pre call next post, calls = pre ++ call :: next :: post → Refused pre call → next.dongle ≠ call.dongle

namespace HeartbeatProcess

theorem afterCalls_concat (pre : List SharedCall) (call : SharedCall) :
    afterCalls (pre ++ [call]) = ((afterCalls pre).step call).1 := by
  unfold afterCalls
  rw [Machine.after_append]
  rfl

/-- A call raises exactly if it is refused. -/
theorem raises_iff (pre : List SharedCall) (call : SharedCall) :
    (∃ e, ((afterCalls pre).step call).2 = .error e) ↔ Refused pre call := by
  unfold Refused
  rw [← key_afterCalls]
  by_cases hsame : (afterCalls pre).key = some call.dongle
  · obtain ⟨i, -, hstep⟩ := step_kept hsame
    rw [hstep]
    exact iff_of_false (fun ⟨_, he⟩ => by cases he) fun h => h.1 hsame
  · obtain ⟨-, -, hout⟩ := step_starts hsame
    rw [and_iff_right hsame]
    split_ifs at hout with hdial
    · rw [hout.1]
      exact iff_of_false (fun ⟨_, he⟩ => by cases he) (not_not.mpr hdial)
    · exact iff_of_true hout hdial

theorem starts_afterCalls (pre : List SharedCall) (call : SharedCall) (d : Dongle) :
    (afterCalls (pre ++ [call])).Starts d ↔ d ≠ call.dongle := by
  rw [starts_iff, key_afterCalls, List.getLast?_concat]
  simp [eq_comm]

/-- The shared connection was started. -/
def Alive (s : HeartbeatProcess) : Prop := ∀ i, s.process.shared = some i → i ∈ s.beating

/-- One call: it keeps the shared connection, or starts a new one and is refused or not. -/
theorem alive_step {pre : List SharedCall} {call : SharedCall} (h : (afterCalls pre).Alive ∨
      pre.getLast?.map SharedCall.dongle ≠ some call.dongle) :
    (afterCalls (pre ++ [call])).Alive ∨ Refused pre call := by
  rw [afterCalls_concat]
  by_cases hsame : (afterCalls pre).key = some call.dongle
  · obtain ⟨i, -, hstep⟩ := step_kept hsame
    rw [hstep]
    rw [key_afterCalls] at hsame
    exact Or.inl (h.resolve_right (not_not.mpr hsame))
  · obtain ⟨hshared, -, hout⟩ := step_starts hsame
    rw [key_afterCalls] at hsame
    split_ifs at hout with hdial
    · refine Or.inl fun i hi => ?_
      obtain rfl := Option.some.inj (hshared.symm.trans hi)
      exact hout.2
    · exact Or.inr ⟨hsame, hdial⟩

/-- In a run without such a repetition the shared connection was started, unless the last call was refused. -/
theorem alive_or_refused {calls pre post : List SharedCall} (h : NeverRepeated calls) (hsplit : calls = pre ++ post) :
    (afterCalls pre).Alive ∨ ∃ front last, pre = front ++ [last] ∧ Refused front last := by
  induction pre using List.reverseRecOn generalizing post with
  | nil => exact Or.inl fun i hi => by cases hi
  | append_singleton pre call ih =>
    rw [List.append_assoc, List.singleton_append] at hsplit
    have hstep : (afterCalls (pre ++ [call])).Alive ∨ Refused pre call := by
      refine alive_step ?_
      rcases ih hsplit with halive | ⟨front, last, rfl, hrefused⟩
      · exact Or.inl halive
      · rw [List.append_assoc, List.singleton_append] at hsplit
        have hother := h front last call post hsplit hrefused
        rw [List.getLast?_concat]
        exact Or.inr (by simpa using hother.symm)
    exact hstep.imp_right fun hrefused => ⟨pre, call, rfl, hrefused⟩

end HeartbeatProcess

/-- Over every sequence of calls: each hands out a started connection and each refused one is tried again, exactly
if no refused call is directly followed by one for its own dongle. -/
theorem handsOutLive_iff (calls : List SharedCall) : HandsOutLive calls ↔ NeverRepeated calls := by
  constructor
  · intro h pre call next post hsplit hrefused
    obtain ⟨e, hraises⟩ := (raises_iff pre call).mpr hrefused
    exact (starts_afterCalls pre call next.dongle).mp ((h pre call (next :: post) hsplit).2 e next hraises rfl)
  · intro h pre call post hsplit
    refine ⟨fun i hi => ?_, fun e next hraises hnext => ?_⟩
    · have hsplit' : calls = (pre ++ [call]) ++ post := by rw [hsplit, List.append_assoc, List.singleton_append]
      rcases alive_or_refused h hsplit' with halive | ⟨front, last, heq, hrefused⟩
      · refine halive i ?_
        rw [afterCalls_concat]
        exact shared_of_ok hi
      · obtain ⟨rfl, hlast⟩ := List.append_inj' heq rfl
        obtain rfl := List.singleton_inj.mp hlast
        obtain ⟨e, he⟩ := (raises_iff pre call).mpr hrefused
        rw [he] at hi
        cases hi
    · obtain ⟨later, rfl⟩ : ∃ later, post = next :: later := List.head?_eq_some_iff.mp hnext
      have hrefused : Refused pre call := (raises_iff pre call).mp ⟨e, hraises⟩
      exact (starts_afterCalls pre call next.dongle).mpr (h pre call next later hsplit hrefused)

/-- The dongle is not reachable at first: the second call gets the connection that the first could not start. -/
theorem unstarted_handed_out : ¬ ∀ calls, HandsOutLive calls := by
  intro h
  have hlive := (h [⟨oldAddress, .refused⟩, ⟨oldAddress, .accepted⟩] [⟨oldAddress, .refused⟩]
    ⟨oldAddress, .accepted⟩ [] rfl).1 0 rfl
  exact absurd hlive (by decide)

end LuxMon
