import LuxMon.Effects.Machine
import LuxMon.Python.SetIterator

/-!
# The WebSocket broadcaster

One task sends every new snapshot to the active clients, in a loop over the set of
them.  It awaits each send, and meanwhile connecting and disconnecting clients change
the same set.

    a client that stays is offered the snapshot or still lies ahead         (step_serving)
    the task goes on and offers every snapshot to all who stay, as long as
    the set has its first size whenever the loop resumes                    (broadcaster_survives)
    it dies ↔ the loop resumes with another size, and then for good         (broadcaster_dies_iff)
-/

namespace LuxMon

open Python

variable {κ : Type} [DecidableEq κ]

/-- The suspended `for` loop: its iterator, the client that the payload is being sent to, the
snapshot, and the clients whose send has failed. -/
structure SendLoop (κ : Type) where
  it : SetIterator
  current : κ
  snapshotId : ℕ
  disconnected : List κ

/-- Where `_ws_broadcaster_task` is suspended; `dead` after an exception. -/
inductive TaskPhase (κ : Type)
  | sleeping
  | fetching
  | sending (loop : SendLoop κ)
  | dead

/-- `_active_ws_clients` and the task.  `stayed` are the clients that have been in the set since
the iteration began, and `offered` those that `send_json` was called on in it. -/
structure Broadcaster (κ : Type) where
  clients : SetTable κ := []
  lastId : Option ℕ := none
  phase : TaskPhase κ := .sleeping
  stayed : List κ := []
  offered : List κ := []

/-- What runs between two awaits.  A fetch that finds nothing or raises is `none`; an insertion
brings the table that it leaves. -/
inductive LoopEvent (κ : Type)
  | wake
  | fetched (snapshotId : Option ℕ)
  | sent (ok : Bool)
  | connected (client : κ) (table : SetTable κ)
  | disconnected (client : κ)

/-- What an event comes to, where it ends an iteration that marked a snapshot or the task. -/
inductive LoopResult (κ : Type)
  | quiet
  | completed (snapshotId : ℕ) (stayed offered : List κ)
  | raised

namespace Broadcaster

/-- `next` of the `for` loop with what its result leads to: the next send, or the discards behind
the loop. -/
def advance (s : Broadcaster κ) (it : SetIterator) (snapshotId : ℕ) (disconnected : List κ) :
    Broadcaster κ × LoopResult κ :=
  match it.next s.clients with
  | .raises => ({ s with phase := .dead }, .raised)
  | .yields it client =>
    ({ s with phase := .sending ⟨it, client, snapshotId, disconnected⟩, offered := s.offered ++ [client] },
      .quiet)
  | .done =>
    ({ s with clients := disconnected.foldl SetTable.discard s.clients, phase := .sleeping },
      .completed snapshotId s.stayed s.offered)

/-- The turns of the event loop. -/
def step (s : Broadcaster κ) : LoopEvent κ → Broadcaster κ × LoopResult κ
  | .wake =>
    match s.phase with
    | .sleeping =>
      if s.clients.elems = [] then ({ s with lastId := none }, .quiet)
      else ({ s with phase := .fetching, stayed := s.clients.elems, offered := [] }, .quiet)
    | _ => (s, .quiet)
  | .fetched snap =>
    match s.phase, snap with
    | .fetching, none => ({ s with phase := .sleeping }, .quiet)
    | .fetching, some id =>
      if s.lastId = some id then ({ s with phase := .sleeping }, .quiet)
      else { s with lastId := some id }.advance (SetIterator.start s.clients) id []
    | _, _ => (s, .quiet)
  | .sent ok =>
    match s.phase with
    | .sending loop =>
      s.advance loop.it loop.snapshotId
        (if ok then loop.disconnected else loop.current :: loop.disconnected)
    | _ => (s, .quiet)
  | .connected client table =>
    if s.clients.Inserts client table then ({ s with clients := table }, .quiet) else (s, .quiet)
  | .disconnected client =>
    ({ s with clients := s.clients.discard client, stayed := s.stayed.filter (· ≠ client) }, .quiet)

/-- No exception, and a snapshot that is marked and done with was offered to all who stayed. -/
def Served : LoopResult κ → Prop
  | .quiet => True
  | .completed _ stayed offered => ∀ client ∈ stayed, client ∈ offered
  | .raised => False

/-- The loop resumes with as many clients as it began with. -/
def SameSize (s : Broadcaster κ) : LoopEvent κ → Prop
  | .sent _ => ∀ loop, s.phase = .sending loop → loop.it.used = s.clients.elems.length
  | _ => True

/-- An insertion during the loop moves no client. -/
def MovesNone (s : Broadcaster κ) : LoopEvent κ → Prop
  | .connected client table => ∀ loop, s.phase = .sending loop → s.clients.Inserts client table →
      s.clients.KeepsSlots table
  | _ => True

/-- A run whose events all meet a condition when they happen. -/
def RunMeets (P : Broadcaster κ → LoopEvent κ → Prop) : Broadcaster κ → List (LoopEvent κ) → Prop
  | _, [] => True
  | s, e :: es => P s e ∧ RunMeets P (s.step e).1 es

/-- In an iteration, those who stay are in the set, and in its loop each of them was offered the
snapshot or lies ahead. -/
structure Serving (s : Broadcaster κ) : Prop where
  fetching : s.phase = .fetching → ∀ client ∈ s.stayed, client ∈ s.clients.elems
  sending : ∀ loop, s.phase = .sending loop →
    ∀ client ∈ s.stayed, client ∈ s.offered ∨ loop.it.Ahead s.clients client

variable {s : Broadcaster κ}

omit [DecidableEq κ] in
/-- Outside an iteration there is nothing to keep. -/
theorem serving_sleeping (h : s.phase = .sleeping) : s.Serving := by
  constructor
  · intro hphase
    rw [h] at hphase
    cases hphase
  · intro loop hphase
    rw [h] at hphase
    cases hphase

/-- `next` keeps what the loop has achieved, unless it raises. -/
theorem advance_serving {it : SetIterator} {snapshotId : ℕ} {disconnected : List κ}
    (hserving : ∀ client ∈ s.stayed, client ∈ s.offered ∨ it.Ahead s.clients client)
    (hsize : it.used = s.clients.elems.length) :
    (s.advance it snapshotId disconnected).1.Serving ∧ Served (s.advance it snapshotId disconnected).2 := by
  unfold advance
  cases hnext : it.next s.clients with
  | raises => exact absurd hsize (SetIterator.next_raises_iff.mp hnext)
  | yields it' next =>
    refine ⟨⟨(fun hphase => by cases hphase), fun loop hphase client hclient => ?_⟩, trivial⟩
    cases hphase
    rcases hserving client hclient with hoffered | hahead
    · exact Or.inl (List.mem_append_left _ hoffered)
    · rcases SetIterator.ahead_next hnext hahead with rfl | hahead
      · exact Or.inl (List.mem_append_right _ List.mem_cons_self)
      · exact Or.inr hahead
  | done =>
    refine ⟨serving_sleeping rfl, fun client hclient => ?_⟩
    rcases hserving client hclient with hoffered | hahead
    · exact hoffered
    · exact absurd hahead (SetIterator.not_ahead_done hnext)

theorem connected_serving (h : s.Serving) {client : κ} {table : SetTable κ}
    (hmoves : s.MovesNone (.connected client table)) : (s.step (.connected client table)).1.Serving := by
  unfold step
  dsimp only
  by_cases hinserts : s.clients.Inserts client table
  · rw [if_pos hinserts]
    refine ⟨fun hphase c hc => ?_, fun loop hphase c hc => ?_⟩
    · exact hinserts.2.mem_iff.mpr (List.mem_cons_of_mem client (h.fetching hphase c hc))
    · rcases h.sending loop hphase c hc with hoffered | hahead
      · exact Or.inl hoffered
      · exact Or.inr (hahead.keepsSlots (hmoves loop hphase hinserts))
  · rw [if_neg hinserts]
    exact h

theorem disconnected_serving (h : s.Serving) (client : κ) : (s.step (.disconnected client)).1.Serving := by
  refine ⟨fun hphase c hc => ?_, fun loop hphase c hc => ?_⟩
  · obtain ⟨hc, hne⟩ := List.mem_filter.mp hc
    exact SetTable.mem_discard.mpr ⟨h.fetching hphase c hc, by simpa using hne⟩
  · obtain ⟨hc, hne⟩ := List.mem_filter.mp hc
    rcases h.sending loop hphase c hc with hoffered | hahead
    · exact Or.inl hoffered
    · exact Or.inr (hahead.discard (by simpa using hne))

/-- What one turn of the event loop keeps. -/
theorem step_serving (h : s.Serving) {e : LoopEvent κ} (hsize : s.SameSize e) (hmoves : s.MovesNone e) :
    (s.step e).1.Serving ∧ Served (s.step e).2 := by
  cases e with
  | wake =>
    unfold step
    dsimp only
    cases hphase : s.phase with
    | sleeping =>
      dsimp only
      split
      · exact ⟨serving_sleeping rfl, trivial⟩
      · exact ⟨⟨fun _ client => id, fun loop hloop => by cases hloop⟩, trivial⟩
    | fetching => exact ⟨h, trivial⟩
    | sending loop => exact ⟨h, trivial⟩
    | dead => exact ⟨h, trivial⟩
  | fetched snap =>
    unfold step
    dsimp only
    cases hphase : s.phase with
    | fetching =>
      cases snap with
      | none => exact ⟨serving_sleeping rfl, trivial⟩
      | some id =>
        dsimp only
        split
        · exact ⟨serving_sleeping rfl, trivial⟩
        · exact advance_serving (s := { s with lastId := some id })
            (fun client hclient => Or.inr (SetIterator.ahead_start (h.fetching hphase client hclient))) rfl
    | sleeping => exact ⟨h, trivial⟩
    | sending loop => exact ⟨h, trivial⟩
    | dead => exact ⟨h, trivial⟩
  | sent ok =>
    unfold step
    dsimp only
    cases hphase : s.phase with
    | sending loop => exact advance_serving (h.sending loop hphase) (hsize loop hphase)
    | sleeping => exact ⟨h, trivial⟩
    | fetching => exact ⟨h, trivial⟩
    | dead => exact ⟨h, trivial⟩
  | connected client table =>
    refine ⟨connected_serving h hmoves, ?_⟩
    unfold step
    dsimp only
    split <;> trivial
  | disconnected client => exact ⟨disconnected_serving h client, trivial⟩

/-- What a run keeps. -/
theorem run_serving (h : s.Serving) {events : List (LoopEvent κ)}
    (hrun : RunMeets (fun s e => s.SameSize e ∧ s.MovesNone e) s events) :
    ∀ r ∈ Machine.outputs step s events, Served r := by
  induction events generalizing s with
  | nil => exact fun r hr => by cases hr
  | cons e events ih =>
    obtain ⟨⟨hsize, hmoves⟩, hrest⟩ := hrun
    obtain ⟨hserving, hserved⟩ := step_serving h hsize hmoves
    intro r hr
    rcases List.mem_cons.mp hr with rfl | hr
    · exact hserved
    · exact ih hserving hrest r hr

/-! ## The end of the task -/

theorem advance_raised_iff (it : SetIterator) (snapshotId : ℕ) (disconnected : List κ) :
    (s.advance it snapshotId disconnected).2 = .raised ↔ it.used ≠ s.clients.elems.length := by
  rw [← SetIterator.next_raises_iff]
  unfold advance
  cases it.next s.clients with
  | raises => exact iff_of_true rfl rfl
  | yields it' next => exact iff_of_false (fun h => by cases h) fun h => by cases h
  | done => exact iff_of_false (fun h => by cases h) fun h => by cases h

/-- A turn raises exactly if the loop resumes with another number of clients. -/
theorem raised_iff (e : LoopEvent κ) : (s.step e).2 = .raised ↔ ¬ s.SameSize e := by
  have hquiet : ∀ {P : Prop}, P → ((LoopResult.quiet : LoopResult κ) = .raised ↔ ¬ P) := fun hp =>
    iff_of_false (fun h => by cases h) fun h => h hp
  cases e with
  | wake =>
    unfold step
    dsimp only
    split
    · split <;> exact hquiet trivial
    · exact hquiet trivial
  | fetched snap =>
    unfold step
    dsimp only
    split
    · exact hquiet trivial
    · split
      · exact hquiet trivial
      · refine iff_of_false (fun h => ?_) fun h => h trivial
        exact (advance_raised_iff _ _ _).mp h rfl
    · exact hquiet trivial
  | sent ok =>
    unfold step SameSize
    dsimp only
    cases hphase : s.phase with
    | sending loop =>
      dsimp only
      rw [advance_raised_iff]
      constructor
      · intro hne h
        exact hne (h loop rfl)
      · intro h heq
        refine h fun loop' hloop => ?_
        cases hloop
        exact heq
    | sleeping => exact hquiet fun loop h => by cases h
    | fetching => exact hquiet fun loop h => by cases h
    | dead => exact hquiet fun loop h => by cases h
  | connected client table =>
    unfold step
    dsimp only
    split <;> exact hquiet trivial
  | disconnected client => exact hquiet trivial

/-- After an exception there are no more iterations. -/
theorem dead_quiet (h : s.phase = .dead) (events : List (LoopEvent κ)) :
    ∀ r ∈ Machine.outputs step s events, r = .quiet := by
  induction events generalizing s with
  | nil => exact fun r hr => by cases hr
  | cons e events ih =>
    have hstep : (s.step e).1.phase = .dead ∧ (s.step e).2 = .quiet := by
      unfold step
      cases e with
      | wake => simp only [h, and_self]
      | fetched snap => simp only [h, and_self]
      | sent ok => simp only [h, and_self]
      | connected client table =>
        dsimp only
        split <;> exact ⟨h, rfl⟩
      | disconnected client => exact ⟨h, rfl⟩
    intro r hr
    rcases List.mem_cons.mp hr with rfl | hr
    · exact hstep.2
    · exact ih hstep.1 r hr

end Broadcaster

/-- In every interleaving in which the loop over the clients resumes with as many clients as it began
with, and no insertion meanwhile moves a client in the set, no turn raises and every snapshot that
is marked and done with was offered to all clients who stayed. -/
theorem broadcaster_survives (events : List (LoopEvent κ))
    (h : Broadcaster.RunMeets (fun s e => s.SameSize e ∧ s.MovesNone e) {} events) :
    ∀ r ∈ Machine.outputs Broadcaster.step {} events, Broadcaster.Served r :=
  Broadcaster.run_serving (Broadcaster.serving_sleeping rfl) h

/-- The task dies in exactly those interleavings in which the loop resumes with another number of
clients than it began with. -/
theorem broadcaster_dies_iff (s : Broadcaster κ) (events : List (LoopEvent κ)) :
    LoopResult.raised ∈ Machine.outputs Broadcaster.step s events ↔
      ¬ Broadcaster.RunMeets Broadcaster.SameSize s events := by
  induction events generalizing s with
  | nil => exact iff_of_false (by simp) fun h => h trivial
  | cons e events ih =>
    rw [Machine.outputs_cons, List.mem_cons, ih, eq_comm, Broadcaster.raised_iff, ← not_and_or]
    exact Iff.rfl

theorem lone_client_served :
    (Machine.outputs Broadcaster.step {} [.connected 0 [some 0], .wake, .fetched (some 7), .sent true]).Forall
      Broadcaster.Served := by
  refine List.forall_iff_forall_mem.mpr
    (broadcaster_survives [.connected 0 [some 0], .wake, .fetched (some 7), .sent true] ?_)
  refine ⟨⟨trivial, fun loop hloop => by cases hloop⟩, ⟨trivial, trivial⟩, ⟨trivial, trivial⟩,
    ⟨fun loop hloop => ?_, trivial⟩, trivial⟩
  cases hloop
  rfl

/-- A second client connects while the first one is being sent the snapshot. -/
theorem newcomer_ends_broadcasts :
    Machine.outputs Broadcaster.step {}
        [.connected 0 [some 0], .wake, .fetched (some 7), .connected 1 [some 0, some 1], .sent true,
          .wake, .fetched (some 8)] =
      [.quiet, .quiet, .quiet, .quiet, .raised, .quiet, .quiet] ∧
    ¬ ∀ events : List (LoopEvent ℕ), ∀ r ∈ Machine.outputs Broadcaster.step {} events,
      Broadcaster.Served r := by
  have hrun : Machine.outputs Broadcaster.step {}
        [.connected 0 [some 0], .wake, .fetched (some 7), .connected 1 [some 0, some 1], .sent true,
          .wake, .fetched (some 8)] =
      [LoopResult.quiet, .quiet, .quiet, .quiet, .raised, .quiet, .quiet] := rfl
  refine ⟨hrun, fun h => ?_⟩
  refine h [.connected 0 [some 0], .wake, .fetched (some 7), .connected 1 [some 0, some 1], .sent true,
    .wake, .fetched (some 8)] .raised ?_
  rw [hrun]
  simp

end LuxMon
