import LuxMon.Protocol.Frame

/-!
# The persistent dongle connection

One socket for all transactions of a process.  What the network does is an input:
an attempt of `transact` comes with the result of the liveness probe, of a connect,
of the send and of each receive before the deadline.  The bytes of the request only
go to `sendall`.

    an attempt raises, is answered, or goes on         (attempt_refused, attempt_answered, attempt_silent)
    transact returns ↔ each connect it needs is accepted                        (transact_returns_iff)
-/

namespace LuxMon

open Python

/-! ## What the network does -/

/-- `recv(1, MSG_PEEK)` with a timeout of 0.2 s; the end of the stream peeks as no bytes. -/
inductive Probe
  | data
  | endOfStream
  | timeout
  | error
  deriving DecidableEq

/-- `connect((host, port))`. -/
inductive Dial
  | accepted
  | refused
  | timedOut
  deriving DecidableEq

/-- `recv(4096)`; no bytes are the end of the stream. -/
inductive Recv
  | data (chunk : Bytes)
  | timeout
  | error

/-- What one attempt of a transaction meets; `receives` ends where the deadline passes. -/
structure Attempt where
  probe : Probe
  dial : Dial
  sends : Bool
  receives : List Recv

/-! ## The connection -/

/-- `sock` says whether `_sock` is a socket. -/
structure PersistentDongleConnection where
  maxRetries : Nat := 3
  sock : Bool := false
  connectCount : Nat := 0
  txCount : Nat := 0
  lastRespSig : Option Bytes := none
  staleCount : Nat := 0
  staleThreshold : Nat := 5

def connectError : Dial → PyErr
  | .timedOut => .osError "timed out"
  | _ => .osError "[Errno 111] Connection refused"

namespace PersistentDongleConnection

/-- `self._sock = None`. -/
def drop (c : PersistentDongleConnection) : PersistentDongleConnection := { c with sock := false }

/-- `self._tx_count += 1`. -/
def countTx (c : PersistentDongleConnection) : PersistentDongleConnection :=
  { c with txCount := c.txCount + 1 }

/-- `_connect`: the old socket is closed before the new one connects. -/
def connect (c : PersistentDongleConnection) (dial : Dial) :
    PersistentDongleConnection × Except PyErr Unit :=
  if dial = .accepted then
    ({ c.drop with sock := true, connectCount := c.connectCount + 1 }, .ok ())
  else (c.drop, .error (connectError dial))

/-- `_ensure_connected`. -/
def ensureConnected (c : PersistentDongleConnection) (probe : Probe) (dial : Dial) :
    PersistentDongleConnection × Except PyErr Unit :=
  if c.sock then
    match probe with
    | .error => c.drop.connect dial
    | _ => (c, .ok ())
  else c.connect dial

/-- `_note_response`: the fifth repetition of a response closes the socket. -/
def noteResponse (c : PersistentDongleConnection) (raw : Bytes) : PersistentDongleConnection :=
  if c.lastRespSig = some raw then
    if c.staleThreshold ≤ c.staleCount + 1 then { c with staleCount := 0, sock := false }
    else { c with staleCount := c.staleCount + 1 }
  else { c with lastRespSig := some raw, staleCount := 0 }

/-- The receive loop of an attempt: every chunk is added to the buffer, and the frames of the
whole buffer are matched again. -/
def receive (accepts : LuxFrame → Bool) (c : PersistentDongleConnection) :
    Bytes → List Recv → PersistentDongleConnection × Except PyErr (Option LuxFrame)
  | _, [] => (c, .ok none)
  | _, .timeout :: _ => (c, .ok none)
  | _, .error :: _ => (c, .error (.osError "[Errno 104] Connection reset by peer"))
  | buffer, .data chunk :: later =>
    if chunk.isEmpty then (c.drop, .ok none)
    else
      match findFrames (buffer ++ chunk) with
      | .error e => (c, .error e)
      | .ok frames =>
        match frames.find? accepts with
        | some frame => (c.noteResponse frame.raw, .ok (some frame))
        | none => receive accepts c (buffer ++ chunk) later

/-- The `try` block of an attempt. -/
def exchange (accepts : LuxFrame → Bool) (c : PersistentDongleConnection) (a : Attempt) :
    PersistentDongleConnection × Except PyErr (Option LuxFrame) :=
  if a.sends then receive accepts c.countTx [] a.receives
  else (c, .error (.osError "[Errno 32] Broken pipe"))

/-- One turn of the retry loop; `.ok none` goes on to the next one.  Connecting is outside the
`try` block. -/
def attempt (accepts : LuxFrame → Bool) (c : PersistentDongleConnection) (a : Attempt) :
    PersistentDongleConnection × Except PyErr (Option LuxFrame) :=
  match c.ensureConnected a.probe a.dial with
  | (c, .error e) => (c, .error e)
  | (c, .ok ()) =>
    if c.sock then
      match c.exchange accepts a with
      | (c, .error (.osError _)) => (c.drop, .ok none)
      | r => r
    else (c, .ok none)

/-- The retry loop with `n` turns left. -/
def attempts (accepts : LuxFrame → Bool) :
    (n : Nat) → (Nat → Attempt) → PersistentDongleConnection →
      PersistentDongleConnection × Except PyErr (Option LuxFrame)
  | 0, _, c => (c, .ok none)
  | n + 1, net, c =>
    match c.attempt accepts (net 0) with
    | (c, .ok none) => attempts accepts n (fun i => net (i + 1)) c
    | r => r

/-- `transact(request, match)`; `net i` is what the attempt number `i` meets. -/
def transact (accepts : LuxFrame → Bool) (c : PersistentDongleConnection) (net : Nat → Attempt) :
    PersistentDongleConnection × Except PyErr (Option LuxFrame) :=
  attempts accepts (c.maxRetries + 1) net c

/-- One turn of `_heartbeat_loop`; `due` after 120 s of silence. -/
def heartbeat (c : PersistentDongleConnection) (probe : Probe) (due sends : Bool) :
    PersistentDongleConnection :=
  if c.sock then
    if probe = .error then c.drop
    else if due then
      if sends then c.countTx else c.drop
    else c
  else c

end PersistentDongleConnection

/-! ## What an attempt receives -/

/-- The chunks before the first receive that gives none. -/
def chunksOf : List Recv → List Bytes
  | .data chunk :: later => if chunk.isEmpty then [] else chunk :: chunksOf later
  | _ => []

/-- The receiving ends with the socket still in use: at the deadline or with a timeout. -/
def endsAlive : List Recv → Bool
  | [] => true
  | .timeout :: _ => true
  | .error :: _ => false
  | .data chunk :: later => !chunk.isEmpty && endsAlive later

/-- The first accepted frame that `find_frames` finds while the chunks come in. -/
def firstAccepted (accepts : LuxFrame → Bool) : Bytes → List Bytes → Option LuxFrame
  | _, [] => none
  | buffer, chunk :: chunks =>
    match (findFrames (buffer ++ chunk)).toOption.bind fun frames => frames.find? accepts with
    | some frame => some frame
    | none => firstAccepted accepts (buffer ++ chunk) chunks

/-- The answer that an attempt gets once it has a socket. -/
def Attempt.answer (accepts : LuxFrame → Bool) (a : Attempt) : Option LuxFrame :=
  if a.sends then firstAccepted accepts [] (chunksOf a.receives) else none

/-- An attempt without an answer keeps its socket. -/
def Attempt.keepsSocket (a : Attempt) : Bool := a.sends && endsAlive a.receives

/-- There is no socket, or the probe finds it dead. -/
def Attempt.mustDial (sock : Bool) (a : Attempt) : Bool := !sock || a.probe == .error

theorem firstAccepted_cons {accepts : LuxFrame → Bool} {buffer chunk : Bytes}
    {frames : List LuxFrame} (h : findFrames (buffer ++ chunk) = .ok frames) (chunks : List Bytes) :
    firstAccepted accepts buffer (chunk :: chunks) =
      (frames.find? accepts).or (firstAccepted accepts (buffer ++ chunk) chunks) := by
  rw [firstAccepted, h]
  simp only [Except.toOption, Option.bind_some]
  cases frames.find? accepts with
  | none => rfl
  | some f => rfl

theorem firstAccepted_accepts {accepts : LuxFrame → Bool} {buffer : Bytes} {chunks : List Bytes}
    {f : LuxFrame} (h : firstAccepted accepts buffer chunks = some f) : accepts f = true := by
  induction chunks generalizing buffer with
  | nil => cases h
  | cons chunk chunks ih =>
    obtain ⟨frames, hframes⟩ := findFrames_ok (buffer ++ chunk)
    rw [firstAccepted_cons hframes] at h
    rcases Option.or_eq_some_iff.mp h with hfind | ⟨-, hrest⟩
    · exact List.find?_some hfind
    · exact ih hrest

namespace PersistentDongleConnection

section
variable (accepts : LuxFrame → Bool) (c : PersistentDongleConnection)

/-- The receive loop returns the first accepted frame. -/
theorem receive_answered {buffer : Bytes} {rs : List Recv} {f : LuxFrame}
    (h : firstAccepted accepts buffer (chunksOf rs) = some f) :
    receive accepts c buffer rs = (c.noteResponse f.raw, .ok (some f)) := by
  induction rs generalizing buffer with
  | nil => cases h
  | cons r rs ih =>
    cases r with
    | timeout => cases h
    | error => cases h
    | data chunk =>
      obtain ⟨frames, hframes⟩ := findFrames_ok (buffer ++ chunk)
      cases hchunk : chunk.isEmpty with
      | true =>
        rw [chunksOf, if_pos hchunk] at h
        cases h
      | false =>
        rw [chunksOf, hchunk, if_neg Bool.false_ne_true, firstAccepted_cons hframes] at h
        rw [receive, hchunk, if_neg Bool.false_ne_true, hframes]
        cases hfind : frames.find? accepts with
        | some g =>
          rw [hfind, Option.some_or, Option.some.injEq] at h
          simp only [hfind, h]
        | none =>
          rw [hfind, Option.none_or] at h
          simp only [hfind]
          exact ih h

/-- Without an accepted frame the loop ends; only the socket may be lost. -/
theorem receive_silent {buffer : Bytes} {rs : List Recv}
    (h : firstAccepted accepts buffer (chunksOf rs) = none) :
    (receive accepts c buffer rs = (c, .ok none) ∧ endsAlive rs = true) ∨
      (receive accepts c buffer rs = (c.drop, .ok none) ∧ endsAlive rs = false) ∨
      ∃ msg, receive accepts c buffer rs = (c, .error (.osError msg)) ∧ endsAlive rs = false := by
  induction rs generalizing buffer with
  | nil => exact Or.inl ⟨rfl, rfl⟩
  | cons r rs ih =>
    cases r with
    | timeout => exact Or.inl ⟨rfl, rfl⟩
    | error => exact Or.inr (Or.inr ⟨_, rfl, rfl⟩)
    | data chunk =>
      obtain ⟨frames, hframes⟩ := findFrames_ok (buffer ++ chunk)
      rw [receive, endsAlive]
      cases hchunk : chunk.isEmpty with
      | true => exact Or.inr (Or.inl ⟨rfl, rfl⟩)
      | false =>
        rw [chunksOf, hchunk, if_neg Bool.false_ne_true, firstAccepted_cons hframes] at h
        rw [if_neg Bool.false_ne_true, hframes, Bool.not_false, Bool.true_and]
        cases hfind : frames.find? accepts with
        | some g =>
          rw [hfind, Option.some_or] at h
          cases h
        | none =>
          rw [hfind, Option.none_or] at h
          simp only [hfind]
          exact ih h

theorem noteResponse_maxRetries (raw : Bytes) : (c.noteResponse raw).maxRetries = c.maxRetries := by
  unfold noteResponse
  split
  · split <;> rfl
  · rfl

end

/-- What the staleness detector goes by. -/
def detector (c : PersistentDongleConnection) : Option Bytes × Nat × Nat :=
  (c.lastRespSig, c.staleCount, c.staleThreshold)

/-- Neither the number of retries nor the detector has changed. -/
structure Keeps (c c' : PersistentDongleConnection) : Prop where
  maxRetries : c'.maxRetries = c.maxRetries
  detector : c'.detector = c.detector

theorem Keeps.refl (c : PersistentDongleConnection) : Keeps c c := ⟨rfl, rfl⟩

theorem Keeps.trans {c c' c'' : PersistentDongleConnection} (h : Keeps c c') (h' : Keeps c' c'') :
    Keeps c c'' :=
  ⟨h'.maxRetries.trans h.maxRetries, h'.detector.trans h.detector⟩

/-- From `c` to `c'` with this answer: an answer is noted once, over an open socket. -/
def Notes (c c' : PersistentDongleConnection) : Option LuxFrame → Prop
  | none => Keeps c c'
  | some f => ∃ c₁ : PersistentDongleConnection,
      c₁.sock = true ∧ Keeps c c₁ ∧ c' = c₁.noteResponse f.raw

theorem Notes.of_keeps {c c₁ c' : PersistentDongleConnection} (hkeeps : Keeps c c₁)
    {answer : Option LuxFrame} (h : Notes c₁ c' answer) : Notes c c' answer := by
  cases answer with
  | none => exact hkeeps.trans h
  | some f =>
    obtain ⟨c₂, hsock, hkeeps', hc'⟩ := h
    exact ⟨c₂, hsock, hkeeps.trans hkeeps', hc'⟩

theorem Notes.maxRetries {c c' : PersistentDongleConnection} {answer : Option LuxFrame}
    (h : Notes c c' answer) : c'.maxRetries = c.maxRetries := by
  cases answer with
  | none => exact Keeps.maxRetries h
  | some f =>
    obtain ⟨c₁, -, hkeeps, rfl⟩ := h
    rw [noteResponse_maxRetries, hkeeps.maxRetries]

section
variable (accepts : LuxFrame → Bool) {c : PersistentDongleConnection} {a : Attempt}

theorem exchange_answered {f : LuxFrame} (h : a.answer accepts = some f) :
    c.exchange accepts a = (c.countTx.noteResponse f.raw, .ok (some f)) := by
  unfold Attempt.answer at h
  split at h
  · next hsends => rw [exchange, if_pos hsends, receive_answered accepts _ h]
  · cases h

/-- Without an answer the `try` block goes on or raises an `OSError`. -/
theorem exchange_silent (hsock : c.sock = true) (h : a.answer accepts = none) :
    ∃ c' : PersistentDongleConnection, Keeps c c' ∧
      ((c.exchange accepts a = (c', .ok none) ∧ c'.sock = a.keepsSocket) ∨
        ∃ msg, c.exchange accepts a = (c', .error (.osError msg)) ∧ a.keepsSocket = false) := by
  unfold Attempt.answer at h
  unfold exchange Attempt.keepsSocket
  cases hsends : a.sends with
  | false => exact ⟨c, Keeps.refl c, Or.inr ⟨_, rfl, rfl⟩⟩
  | true =>
    rw [if_pos hsends] at h
    rw [if_pos rfl, Bool.true_and]
    rcases receive_silent accepts c.countTx h with
      ⟨hgo, halive⟩ | ⟨hgo, halive⟩ | ⟨msg, hgo, halive⟩
    · exact ⟨c.countTx, ⟨rfl, rfl⟩, Or.inl ⟨hgo, hsock.trans halive.symm⟩⟩
    · exact ⟨c.countTx.drop, ⟨rfl, rfl⟩, Or.inl ⟨hgo, halive.symm⟩⟩
    · exact ⟨c.countTx, ⟨rfl, rfl⟩, Or.inr ⟨msg, hgo, halive⟩⟩

theorem ensureConnected_eq (c : PersistentDongleConnection) (a : Attempt) :
    c.ensureConnected a.probe a.dial =
      if a.mustDial c.sock then c.connect a.dial else (c, .ok ()) := by
  unfold ensureConnected Attempt.mustDial
  cases c.sock with
  | false => rfl
  | true => cases a.probe <;> rfl

/-- Outside the `try` block: a connect that is not accepted ends the transaction. -/
theorem attempt_refused (hdial : a.mustDial c.sock = true) (hrefused : a.dial ≠ .accepted) :
    c.attempt accepts a = (c.drop, .error (connectError a.dial)) := by
  unfold attempt
  rw [ensureConnected_eq, if_pos hdial, connect, if_neg hrefused]

/-- An attempt that gets a socket runs its `try` block. -/
theorem attempt_connected (hdial : a.mustDial c.sock = true → a.dial = .accepted) :
    ∃ c' : PersistentDongleConnection, c'.sock = true ∧ Keeps c c' ∧
      c.attempt accepts a =
        match c'.exchange accepts a with
        | (c, .error (.osError _)) => (c.drop, .ok none)
        | r => r := by
  unfold attempt
  rw [ensureConnected_eq]
  cases hmust : a.mustDial c.sock with
  | true =>
    rw [if_pos rfl, connect, if_pos (hdial hmust)]
    exact ⟨{ c.drop with sock := true, connectCount := c.connectCount + 1 }, rfl, ⟨rfl, rfl⟩, rfl⟩
  | false =>
    have hsock : c.sock = true := by
      rw [Attempt.mustDial, Bool.or_eq_false_iff, Bool.not_eq_false'] at hmust
      exact hmust.1
    rw [if_neg Bool.false_ne_true]
    refine ⟨c, hsock, Keeps.refl c, ?_⟩
    show (if c.sock = true then _ else _) = _
    rw [if_pos hsock]

theorem attempt_answered (hdial : a.mustDial c.sock = true → a.dial = .accepted) {f : LuxFrame}
    (hanswer : a.answer accepts = some f) :
    ∃ c', c.attempt accepts a = (c', .ok (some f)) ∧ Notes c c' (some f) := by
  obtain ⟨c₁, hsock, hkeeps, hattempt⟩ := attempt_connected accepts hdial
  refine ⟨c₁.countTx.noteResponse f.raw, ?_, c₁.countTx, hsock, hkeeps.trans ⟨rfl, rfl⟩, rfl⟩
  rw [hattempt, exchange_answered accepts hanswer]

/-- Without an answer the attempt goes on, whatever else the network does. -/
theorem attempt_silent (hdial : a.mustDial c.sock = true → a.dial = .accepted)
    (hanswer : a.answer accepts = none) :
    ∃ c', c.attempt accepts a = (c', .ok none) ∧ c'.sock = a.keepsSocket ∧ Keeps c c' := by
  obtain ⟨c₁, hsock, hkeeps, hattempt⟩ := attempt_connected accepts hdial
  obtain ⟨c₂, hkeeps', hexchange⟩ := exchange_silent accepts hsock hanswer
  rw [hattempt]
  rcases hexchange with ⟨hgo, hsocket⟩ | ⟨msg, hraise, hsocket⟩
  · refine ⟨c₂, ?_, hsocket, hkeeps.trans hkeeps'⟩
    rw [hgo]
  · refine ⟨c₂.drop, ?_, hsocket.symm, (hkeeps.trans hkeeps').trans ⟨rfl, rfl⟩⟩
    rw [hraise]

end

end PersistentDongleConnection

/-! ## A transaction -/

/-- Each attempt that is reached finds the dongle accepting when it must connect; `sock` says
whether there is a socket before the first of them. -/
def Served (accepts : LuxFrame → Bool) : (n : Nat) → (sock : Bool) → (Nat → Attempt) → Prop
  | 0, _, _ => True
  | n + 1, sock, net =>
    ((net 0).mustDial sock = true → (net 0).dial = .accepted) ∧
      ((net 0).answer accepts = none →
        Served accepts n (net 0).keepsSocket fun i => net (i + 1))

/-- The first answer that one of `n` attempts gets. -/
def answerOf (accepts : LuxFrame → Bool) (n : Nat) (net : Nat → Attempt) : Option LuxFrame :=
  (List.range n).findSome? fun k => (net k).answer accepts

theorem answerOf_succ (accepts : LuxFrame → Bool) (n : Nat) (net : Nat → Attempt) :
    answerOf accepts (n + 1) net =
      ((net 0).answer accepts).or (answerOf accepts n fun i => net (i + 1)) := by
  unfold answerOf
  rw [List.range_succ_eq_map, List.findSome?_cons, List.findSome?_map]
  cases (net 0).answer accepts with
  | none => rfl
  | some f => rfl

theorem answerOf_accepts {accepts : LuxFrame → Bool} {n : Nat} {net : Nat → Attempt} {f : LuxFrame}
    (h : answerOf accepts n net = some f) : accepts f = true := by
  obtain ⟨k, -, hanswer⟩ := List.exists_of_findSome?_eq_some h
  unfold Attempt.answer at hanswer
  split at hanswer
  · exact firstAccepted_accepts hanswer
  · cases hanswer

namespace PersistentDongleConnection

variable (accepts : LuxFrame → Bool)

theorem attempts_served {n : Nat} {c : PersistentDongleConnection} {net : Nat → Attempt}
    (h : Served accepts n c.sock net) :
    ∃ c', c.attempts accepts n net = (c', .ok (answerOf accepts n net)) ∧
      Notes c c' (answerOf accepts n net) := by
  induction n generalizing c net with
  | zero => exact ⟨c, rfl, Keeps.refl c⟩
  | succ n ih =>
    obtain ⟨hdial, hlater⟩ := h
    cases hanswer : (net 0).answer accepts with
    | some f =>
      obtain ⟨c', hattempt, hnotes⟩ := attempt_answered accepts hdial hanswer
      rw [attempts, hattempt, answerOf_succ, hanswer, Option.some_or]
      exact ⟨c', rfl, hnotes⟩
    | none =>
      obtain ⟨c', hattempt, hsock, hkeeps⟩ := attempt_silent accepts hdial hanswer
      obtain ⟨c'', hrest, hnotes⟩ := ih (c := c') (by rw [hsock]; exact hlater hanswer)
      rw [attempts, hattempt, answerOf_succ, hanswer, Option.none_or]
      exact ⟨c'', hrest, hnotes.of_keeps hkeeps⟩

theorem attempts_not_served {n : Nat} {c : PersistentDongleConnection} {net : Nat → Attempt}
    (h : ¬ Served accepts n c.sock net) :
    ∃ c' e, c.attempts accepts n net = (c', .error e) ∧ Keeps c c' := by
  induction n generalizing c net with
  | zero => exact absurd trivial h
  | succ n ih =>
    by_cases hdial : (net 0).mustDial c.sock = true → (net 0).dial = .accepted
    · have hanswer : (net 0).answer accepts = none := by
        by_contra hsome
        exact h ⟨hdial, fun hnone => absurd hnone hsome⟩
      obtain ⟨c', hattempt, hsock, hkeeps⟩ := attempt_silent accepts hdial hanswer
      have hlater : ¬ Served accepts n c'.sock fun i => net (i + 1) := by
        intro hserved
        rw [hsock] at hserved
        exact h ⟨hdial, fun _ => hserved⟩
      obtain ⟨c'', e, hrest, hkeeps'⟩ := ih hlater
      refine ⟨c'', e, ?_, hkeeps.trans hkeeps'⟩
      rw [attempts, hattempt]
      exact hrest
    · rw [Classical.not_imp] at hdial
      refine ⟨c.drop, connectError (net 0).dial, ?_, rfl, rfl⟩
      rw [attempts, attempt_refused accepts hdial.1 hdial.2]

theorem transact_returns_iff (c : PersistentDongleConnection) (net : Nat → Attempt) :
    (∃ out, (c.transact accepts net).2 = .ok out) ↔ Served accepts (c.maxRetries + 1) c.sock net := by
  constructor
  · rintro ⟨out, hout⟩
    by_contra h
    obtain ⟨c', e, hraise, -⟩ := attempts_not_served accepts h
    rw [transact, hraise] at hout
    cases hout
  · intro h
    obtain ⟨c', hreturn, -⟩ := attempts_served accepts h
    exact ⟨_, by rw [transact, hreturn]⟩

theorem transact_maxRetries (c : PersistentDongleConnection) (net : Nat → Attempt) :
    (c.transact accepts net).1.maxRetries = c.maxRetries := by
  by_cases h : Served accepts (c.maxRetries + 1) c.sock net
  · obtain ⟨c', hreturn, hnotes⟩ := attempts_served accepts h
    rw [transact, hreturn]
    exact hnotes.maxRetries
  · obtain ⟨c', e, hraise, hkeeps⟩ := attempts_not_served accepts h
    rw [transact, hraise]
    exact hkeeps.maxRetries

/-- What a transaction returns is the first answer of its attempts. -/
theorem transact_eq_answer {c : PersistentDongleConnection} {net : Nat → Attempt}
    {out : Option LuxFrame} (h : (c.transact accepts net).2 = .ok out) :
    out = answerOf accepts (c.maxRetries + 1) net := by
  have hserved := (transact_returns_iff accepts c net).mp ⟨out, h⟩
  obtain ⟨c', hreturn, -⟩ := attempts_served accepts hserved
  rw [transact, hreturn] at h
  exact (Except.ok.inj h).symm

/-- A returned frame is one that the match predicate takes. -/
theorem transact_accepts {c : PersistentDongleConnection} {net : Nat → Attempt}
    {out : Option LuxFrame} (h : (c.transact accepts net).2 = .ok out) :
    ∀ f ∈ out, accepts f = true := by
  intro f hf
  rw [transact_eq_answer accepts h] at hf
  exact answerOf_accepts hf

end PersistentDongleConnection

end LuxMon
