import LuxMon.Comm.Persistent
import LuxMon.Dongle.Transaction
import LuxMon.Effects.Machine
import LuxMon.Protocol.FindFrames

/-!
# Which request a returned frame answers

Requests carry no number: `transact` returns the first frame from the socket that its
match predicate accepts.  Here each arriving frame has a label that says which
request it answers; the code does not see it.

    an attempt returns the first accepted frame that it reads       (firstAccepted_reading)
    transact returns an answer to a request of its own ↔ each accepted frame that is none
      comes behind one that is                                      (transact_correlated_iff)
-/

namespace LuxMon

open Python Framing

/-! ## What arrives -/

/-- The request that a frame answers, as the number of the call and of its attempt. -/
inductive Origin
  | answer (call attempt : Nat)
  | broadcast
  deriving DecidableEq

structure Arrival where
  frame : WireFrame
  origin : Origin

/-- The frame answers a request that the call number `j` sent. -/
def Arrival.Answers (a : Arrival) (j : Nat) : Prop := ∃ k, a.origin = .answer j k

/-- What one attempt reads: the rest of a frame that was begun before, whole frames, and the
beginning of one more. -/
structure Reading where
  tail : Bytes := []
  arrivals : List Arrival := []
  start : Bytes := []

def Reading.frames (r : Reading) : List WireFrame := r.arrivals.map Arrival.frame

def Reading.bytes (r : Reading) : Bytes := r.tail ++ (wire r.frames ++ r.start)

/-- The reading is cut out of frames of the kind `P`. -/
structure Reading.CutFrom (P : WireFrame → Prop) (r : Reading) : Prop where
  arrivals : ∀ f ∈ r.frames, P f
  tail : ∃ f, P f ∧ r.tail <:+ f.bytes.tail
  start : ∃ f, P f ∧ r.start <+: f.bytes ∧ r.start.length < f.bytes.length

/-- The pair A1 1A is at the start of the frame only. -/
def WireFrame.Plain (f : WireFrame) : Prop := hasPair f.bytes.tail = false

instance (f : WireFrame) : Decidable f.Plain := inferInstanceAs (Decidable (_ = _))

/-! ## The frames of a reading -/

theorem hasPair_append_right {more bs : Bytes} (h : hasPair (more ++ bs) = false) :
    hasPair bs = false := by
  induction more with
  | nil => exact h
  | cons b more ih => exact ih (hasPair_tail h)

/-- No frame begins with the second byte of the pair. -/
theorem head_of_frames {fs : List WireFrame} {b r : Bytes} (h : b ++ r = wire fs) :
    b.head? ≠ some 0x1A := by
  cases fs with
  | nil =>
    obtain rfl := (List.append_eq_nil_iff.mp h).1
    simp
  | cons f fs =>
    cases b with
    | nil => simp
    | cons c b =>
      have hhead := f.head_append (wire fs)
      rw [show f.bytes ++ wire fs = wire (f :: fs) from rfl, ← h] at hhead
      rw [List.cons_append, List.head?_cons] at hhead
      rw [List.head?_cons, hhead]
      decide

/-- Behind the rest of a frame, plain frames and the beginning of one more are found. -/
theorem findFrames_received {tail : Bytes} (htail : hasPair tail = false) {fs fs' : List WireFrame}
    (hplain : ∀ f ∈ fs', f.Plain) {p r : Bytes} (h : p ++ r = wire fs')
    (hopen : Open WireFrame.bytes fs' p) :
    findFrames (tail ++ (wire fs ++ p)) = .ok (fs.map fun f => f.parsed) := by
  have hpart : Scan luxFormat p [] := by
    cases fs' with
    | nil =>
      obtain rfl := Open.nil_of_nil h
      exact .done
    | cons f fs' => exact scan_part (hplain f List.mem_cons_self) (hopen.prefix_of h) (hopen f rfl)
  have hall : (wire fs ++ p) ++ r = wire (fs ++ fs') := by
    rw [List.append_assoc, h]
    exact (concat_append fs fs').symm
  have hfs : ∀ f ∈ fs, luxFormat.Complete (WireFrame.bytes f) := fun f _ => f.isFrame.complete
  have hscan := scan_noise htail (head_of_frames hall) (scan_received hfs hpart)
  unfold wire at hscan ⊢
  rw [findFrames_scan hscan, List.append_nil, List.filterMap_map]
  have : frameOf ∘ WireFrame.bytes = fun f => some f.parsed := by
    funext f
    exact f.frameOf_eq
  rw [this, List.filterMap_eq_map']

theorem Reading.CutFrom.noPair {r : Reading} (h : r.CutFrom WireFrame.Plain) :
    hasPair r.tail = false := by
  obtain ⟨f, hf, more, hmore⟩ := h.tail
  have hplain : hasPair f.bytes.tail = false := hf
  rw [← hmore] at hplain
  exact hasPair_append_right hplain

/-- All frames of a reading are found when everything is read. -/
theorem findFrames_reading {r : Reading} (h : r.CutFrom WireFrame.Plain) :
    findFrames r.bytes = .ok (r.frames.map fun f => f.parsed) := by
  obtain ⟨f, hf, ⟨q, hq⟩, hlt⟩ := h.start
  have hwire : r.start ++ q = wire [f] := hq.trans (List.append_nil f.bytes).symm
  have hopen : Open WireFrame.bytes [f] r.start := by
    intro g hg
    obtain rfl : f = g := by simpa using hg
    exact hlt
  exact findFrames_received h.noPair (by simpa using hf) hwire hopen

/-- The beginning of a reading that ends in the rest of a frame holds no frame. -/
theorem findFrames_tail {r : Reading} (h : r.CutFrom WireFrame.Plain) {b : Bytes} (hb : b <+: r.tail) :
    findFrames b = .ok [] := by
  obtain ⟨more, hmore⟩ := hb
  have hnoise : hasPair b = false := by
    have hpair := h.noPair
    rw [← hmore] at hpair
    exact hasPair_append_left hpair
  rw [findFrames_scan (scan_noise_end hnoise)]
  rfl

/-- What is read behind the rest of a frame is whole frames of the reading and the beginning of one
more, the frame that the reading breaks off among them. -/
theorem Reading.CutFrom.split {r : Reading} (h : r.CutFrom WireFrame.Plain) {b rest : Bytes}
    (hsplit : b ++ rest = wire r.frames ++ r.start) :
    ∃ (fs fs' : List WireFrame) (p q : Bytes), b = wire fs ++ p ∧ fs <+: r.frames ∧ (∀ f ∈ fs', f.Plain) ∧
      p ++ q = wire fs' ∧ Open WireFrame.bytes fs' p := by
  obtain ⟨f, hf, ⟨q, hq⟩, hlt⟩ := h.start
  have hlast : wire (r.frames ++ [f]) = wire r.frames ++ f.bytes := by
    unfold wire
    rw [concat_append, concat_cons]
    exact congrArg _ (List.append_nil f.bytes)
  have hwire : b ++ (rest ++ q) = wire (r.frames ++ [f]) := by
    rw [← List.append_assoc, hsplit, List.append_assoc, hq, hlast]
  have hplain : ∀ g ∈ r.frames ++ [f], g.Plain := by
    intro g hg
    rcases List.mem_append.mp hg with hg | hg
    · exact h.arrivals g hg
    · rwa [List.mem_singleton.mp hg]
  obtain ⟨fs', p, hfs, hb, hp, hopen⟩ := split_stream hwire
  generalize completed WireFrame.bytes (r.frames ++ [f]) b.length = fs at hfs hb
  -- the last frame is not complete, so the complete ones are the first arrivals
  have hne : fs' ≠ [] := by
    rintro rfl
    obtain rfl := Open.nil_of_nil hp
    rw [List.append_nil] at hfs hb
    have hwhole : b = wire r.frames ++ f.bytes := by rw [hb, ← hlast, hfs]; rfl
    have hlong := congrArg List.length hsplit
    rw [hwhole, List.length_append, List.length_append, List.length_append] at hlong
    omega
  refine ⟨fs, fs', p, _, hb, ?_, fun g hg => hplain g ?_, hp, hopen⟩
  · obtain ⟨init, g, rfl⟩ := (List.eq_nil_or_concat fs').resolve_left hne
    rw [List.concat_eq_append, ← List.append_assoc] at hfs
    exact ⟨init, (List.append_inj_left' hfs rfl).symm⟩
  · rw [hfs]
    exact List.mem_append_right fs hg

/-- Before that, the first of them are found. -/
theorem findFrames_prefix {r : Reading} (h : r.CutFrom WireFrame.Plain) {b : Bytes}
    (hb : b <+: r.bytes) :
    ∃ fs, findFrames b = .ok fs ∧ fs <+: r.frames.map fun f => f.parsed := by
  obtain ⟨rest, hrest⟩ := hb
  by_cases hlen : b.length ≤ r.tail.length
  · have hpre : b <+: r.tail := List.prefix_of_prefix_length_le ⟨rest, hrest⟩ ⟨_, rfl⟩ hlen
    exact ⟨[], findFrames_tail h hpre, List.nil_prefix⟩
  · obtain ⟨b', rfl⟩ : ∃ b', b = r.tail ++ b' := by
      have hpre : r.tail <+: b :=
        List.prefix_of_prefix_length_le ⟨_, rfl⟩ ⟨rest, hrest⟩ (by omega)
      exact ⟨hpre.choose, hpre.choose_spec.symm⟩
    have hsplit : b' ++ rest = wire r.frames ++ r.start := by
      unfold Reading.bytes at hrest
      rw [List.append_assoc] at hrest
      exact List.append_cancel_left hrest
    obtain ⟨fs, fs', p, q, rfl, hfs, hplain, hp, hopen⟩ := h.split hsplit
    exact ⟨_, findFrames_received h.noPair hplain hp hopen, hfs.map _⟩

/-- However the reading is cut into chunks, the receive loop gets at its first accepted frame. -/
theorem firstAccepted_reading (accepts : LuxFrame → Bool) {r : Reading}
    (h : r.CutFrom WireFrame.Plain) {chunks : List Bytes} (hchunks : chunks.flatten = r.bytes) :
    firstAccepted accepts [] chunks = (r.frames.map fun f => f.parsed).find? accepts := by
  have key : ∀ (chunks : List Bytes) (buffer : Bytes) (fs : List LuxFrame),
      buffer ++ chunks.flatten = r.bytes → findFrames buffer = .ok fs → fs.find? accepts = none →
      firstAccepted accepts buffer chunks = (r.frames.map fun f => f.parsed).find? accepts := by
    intro chunks
    induction chunks with
    | nil =>
      intro buffer fs hbuffer hfound hnone
      rw [List.flatten_nil, List.append_nil] at hbuffer
      rw [hbuffer, findFrames_reading h] at hfound
      rw [Except.ok.inj hfound, hnone]
      rfl
    | cons chunk chunks ih =>
      intro buffer fs hbuffer hfound hnone
      rw [List.flatten_cons, ← List.append_assoc] at hbuffer
      obtain ⟨gs, hgs, more, hmore⟩ := findFrames_prefix h ⟨_, hbuffer⟩
      rw [firstAccepted_cons hgs]
      cases hfind : gs.find? accepts with
      | some f => rw [← hmore, List.find?_append, hfind, Option.some_or, Option.some_or]
      | none => exact ih _ gs hbuffer hgs hfind
  exact key chunks [] [] hchunks (by rfl) rfl

/-! ## The calls -/

/-- A call of `transact`, what the network does in it, and what its attempts read. -/
structure TransactCall where
  request : Request
  net : Nat → Attempt
  reading : Nat → Reading

namespace TransactCall

/-- The frames that the first `n` attempts read behind their sends if they are made, in order. -/
def reads (call : TransactCall) (n : Nat) : List Arrival :=
  (List.range n).flatMap fun k => if (call.net k).sends then (call.reading k).arrivals else []

/-- The match predicate takes the frame. -/
def Takes (call : TransactCall) (a : Arrival) : Prop :=
  call.request.accepts a.frame.parsed = true

instance (call : TransactCall) (a : Arrival) : Decidable (call.Takes a) :=
  inferInstanceAs (Decidable (_ = _))

/-- The attempt number `k` is made, and sends its request. -/
def Sent (call : TransactCall) (k : Nat) : Prop :=
  (call.net k).sends = true ∧ ∀ i < k, (call.net i).answer call.request.accepts = none

end TransactCall

/-- What every attempt of the calls receives is cut out of frames of the kind `P`. -/
def ReadsFrames (P : WireFrame → Prop) (calls : List TransactCall) : Prop :=
  ∀ call ∈ calls, ∀ k, (chunksOf (call.net k).receives).flatten = (call.reading k).bytes ∧
    (call.reading k).CutFrom P

/-- The dongle answers what has been sent, each request at most once and with a frame that the
match predicate of the request takes; a call makes `n` attempts. -/
structure AnswersRequests (n : Nat) (calls : List TransactCall) : Prop where
  asked : ∀ (j : Nat) (call : TransactCall), calls[j]? = some call →
    ∀ k < n, ∀ a ∈ (call.reading k).arrivals, ∀ i m, a.origin = .answer i m →
      (i < j ∨ i = j ∧ m ≤ k) ∧ m < n ∧
        ∃ asker : TransactCall, calls[i]? = some asker ∧ asker.Sent m ∧ asker.Takes a
  once : (((calls.flatMap fun call => call.reads n).map Arrival.origin).filter
    (· ≠ .broadcast)).Nodup

def transactCall (conn : PersistentDongleConnection) (call : TransactCall) :
    PersistentDongleConnection × Except PyErr (Option LuxFrame) :=
  conn.transact call.request.accepts call.net

/-- What the calls return, one after the other on one connection. -/
def results (conn : PersistentDongleConnection) (calls : List TransactCall) :
    List (Except PyErr (Option LuxFrame)) :=
  Machine.outputs transactCall conn calls

theorem answerOf_reads {call : TransactCall} (h : ReadsFrames WireFrame.Plain [call]) (n : Nat) :
    answerOf call.request.accepts n call.net =
      ((call.reads n).map fun a => a.frame.parsed).find? call.request.accepts := by
  unfold answerOf TransactCall.reads
  rw [List.map_flatMap, List.find?_flatMap]
  congr 1
  funext k
  obtain ⟨hflatten, hcut⟩ := h call List.mem_cons_self k
  unfold Attempt.answer
  split
  · rw [firstAccepted_reading _ hcut hflatten, Reading.frames, List.map_map]
    rfl
  · rfl

/-- A call returns the first accepted frame that it reads. -/
theorem results_reads {conn : PersistentDongleConnection} {calls : List TransactCall}
    (h : ReadsFrames WireFrame.Plain calls) {j : Nat} {call : TransactCall}
    (hcall : calls[j]? = some call) {out : Option LuxFrame}
    (hout : (results conn calls)[j]? = some (.ok out)) :
    out = ((call.reads (conn.maxRetries + 1)).map fun a => a.frame.parsed).find?
      call.request.accepts := by
  have hmem : call ∈ calls := List.mem_of_getElem? hcall
  have hmax : (Machine.after transactCall conn (calls.take j)).maxRetries = conn.maxRetries :=
    Machine.after_invariant (fun c => c.maxRetries = conn.maxRetries)
      (fun call _ c hc => (PersistentDongleConnection.transact_maxRetries _ c call.net).trans hc) rfl
  unfold results at hout
  rw [Machine.outputs_getElem?, hcall, Option.map_some] at hout
  have hanswer := PersistentDongleConnection.transact_eq_answer _ (Option.some.inj hout)
  rw [hanswer, hmax]
  exact answerOf_reads (fun c hc => by
    rw [List.mem_singleton.mp hc]
    exact h call hmem) _

/-- What a call returns is the dongle's answer to a request of that call. -/
def Correlated (conn : PersistentDongleConnection) (calls : List TransactCall) : Prop :=
  ∀ (j : Nat) (call : TransactCall) (f : LuxFrame), calls[j]? = some call →
    (results conn calls)[j]? = some (.ok (some f)) →
    ∃ a ∈ call.reads (conn.maxRetries + 1), a.frame.parsed = f ∧ a.Answers j

theorem transact_correlated_iff (conn : PersistentDongleConnection) {calls : List TransactCall}
    (hreads : ReadsFrames WireFrame.Plain calls) {j : Nat} {call : TransactCall} {f : LuxFrame}
    (hcall : calls[j]? = some call) (hreturn : (results conn calls)[j]? = some (.ok (some f))) :
    ∃ pre a post, call.reads (conn.maxRetries + 1) = pre ++ a :: post ∧
      a.frame.parsed = f ∧ call.Takes a ∧ (∀ b ∈ pre, ¬ call.Takes b) ∧
      (a.Answers j ↔ ∀ before b later, call.reads (conn.maxRetries + 1) = before ++ b :: later →
        call.Takes b → ¬ b.Answers j → ∃ o ∈ before, call.Takes o ∧ o.Answers j) := by
  have hfirst := results_reads hreads hcall hreturn
  rw [List.find?_map] at hfirst
  obtain ⟨a, hfind, hparsed⟩ := Option.map_eq_some_iff.mp hfirst.symm
  obtain ⟨htakes, pre, post, hsplit, hnone⟩ := List.find?_eq_some_iff_append.mp hfind
  have hpre : ∀ b ∈ pre, ¬ call.Takes b := by
    intro b hb hbtakes
    have hno := hnone b hb
    rw [Function.comp_apply, Bool.not_eq_true'] at hno
    unfold TransactCall.Takes at hbtakes
    rw [hno] at hbtakes
    cases hbtakes
  refine ⟨pre, a, post, hsplit, hparsed, htakes, hpre, fun hown => ?_, fun h => ?_⟩
  · intro before b later hb hbtakes hforeign
    rw [hsplit] at hb
    -- the foreign frame is not before the first accepted one
    rcases List.append_eq_append_iff.mp hb with ⟨mid, rfl, hmid⟩ | ⟨mid, rfl, hmid⟩
    · cases mid with
      | nil =>
        obtain rfl := (List.cons.inj hmid).1
        exact absurd hown hforeign
      | cons c mid =>
        obtain rfl := (List.cons.inj hmid).1
        exact ⟨a, by simp, htakes, hown⟩
    · cases mid with
      | nil =>
        obtain rfl := (List.cons.inj hmid).1
        exact absurd hown hforeign
      | cons c mid =>
        obtain rfl := (List.cons.inj hmid).1
        exact absurd hbtakes (hpre b (by simp))
  · by_contra hforeign
    obtain ⟨o, ho, hotakes, -⟩ := h pre a post hsplit htakes hforeign
    exact hpre o ho hotakes

/-! ## A late answer, and a frame inside an answer -/

/-- A read response for register 60. -/
def answer60 (value : UInt8) (crc : Bytes) : Bytes :=
  [0xA1, 0x1A, 5, 0, 33, 0, 1, 0xC2] ++ List.replicate 10 0x41 ++ [19, 0, 1, 3] ++
    List.replicate 10 0x31 ++ [60, 0, 2, value, 0] ++ crc

/-- The value of the register before it changed. -/
def oldAnswer : WireFrame := ⟨answer60 100 [0x90, 0x6e], by decide⟩

def newAnswer : WireFrame := ⟨answer60 101 [0x91, 0xfe], by decide⟩

/-- The network is silent but for the attempt number `k`. -/
def silentBut (k : Nat) (chunks : List Bytes) (i : Nat) : Attempt :=
  ⟨.timeout, .accepted, true, if i = k then chunks.map Recv.data else [.timeout]⟩

def readingBut (k : Nat) (arrivals : List Arrival) (i : Nat) : Reading :=
  if i = k then { arrivals := arrivals } else {}

/-- The first call gets an answer when it has asked twice. -/
def slowCall : TransactCall where
  request := .readHoldOne 60
  net := silentBut 1 [oldAnswer.bytes]
  reading := readingBut 1 [⟨oldAnswer, .answer 0 0⟩]

/-- The second one finds the answer to the repeated request of the first before its own. -/
def nextCall : TransactCall where
  request := .readHoldOne 60
  net := silentBut 0 [oldAnswer.bytes ++ newAnswer.bytes]
  reading := readingBut 0 [⟨oldAnswer, .answer 0 1⟩, ⟨newAnswer, .answer 1 0⟩]

/-- A read response for registers 0 to 11 whose values spell an error response. -/
def quotingAnswer : WireFrame where
  bytes := [0xA1, 0x1A, 5, 0, 55, 0, 1, 0xC2] ++ List.replicate 10 0x41 ++ [41, 0, 1, 3] ++
    List.replicate 10 0x31 ++ [0, 0, 24] ++
    ([0xA1, 0x1A, 5, 0, 17, 0, 1, 0xC2] ++ List.replicate 10 0x41 ++ [3, 0, 1, 0x83, 2]) ++
    [0, 0xa2, 0xf7]
  isFrame := by decide

/-- The answer comes in two chunks. -/
def quotedCall : TransactCall where
  request := .readHold 0 12
  net := silentBut 0 [quotingAnswer.bytes.take 58, quotingAnswer.bytes.drop 58]
  reading := readingBut 0 [⟨quotingAnswer, .answer 0 0⟩]

theorem readsFrames_but {P : WireFrame → Prop} {k : Nat} {chunks : List Bytes}
    {arrivals : List Arrival} (hne : ∀ c ∈ chunks, c ≠ [])
    (hchunks : chunks.flatten = wire (arrivals.map Arrival.frame))
    (harrivals : ∀ a ∈ arrivals, P a.frame) (hP : ∃ f, P f) (req : Request) :
    ReadsFrames P [⟨req, silentBut k chunks, readingBut k arrivals⟩] := by
  have hread : ∀ cs : List Bytes, (∀ c ∈ cs, c ≠ []) → chunksOf (cs.map Recv.data) = cs := by
    intro cs
    induction cs with
    | nil => exact fun _ => rfl
    | cons c cs ih =>
      intro hcs
      have hc : c.isEmpty = false := List.isEmpty_eq_false_iff.mpr (hcs c List.mem_cons_self)
      rw [List.map_cons, chunksOf, hc, if_neg Bool.false_ne_true,
        ih fun x hx => hcs x (List.mem_cons_of_mem c hx)]
  obtain ⟨f, hf⟩ := hP
  have hpos : 0 < f.bytes.length := by
    have : headerSize ≤ f.bytes.length := f.isFrame.long
    exact Nat.lt_of_lt_of_le (by decide) this
  have hcut : ∀ as : List Arrival, (∀ a ∈ as, P a.frame) →
      Reading.CutFrom P { arrivals := as } := by
    intro as has
    refine ⟨fun g hg => ?_, ⟨f, hf, List.nil_suffix⟩, ⟨f, hf, List.nil_prefix, hpos⟩⟩
    obtain ⟨a, ha, rfl⟩ := List.mem_map.mp hg
    exact has a ha
  intro call hcall i
  rw [List.mem_singleton.mp hcall]
  by_cases hi : i = k
  · simp only [silentBut, readingBut, hi, if_true]
    refine ⟨?_, hcut arrivals harrivals⟩
    rw [hread chunks hne, hchunks]
    exact (List.append_nil _).symm
  · simp only [silentBut, readingBut, hi, if_false]
    exact ⟨rfl, hcut [] (by simp)⟩

theorem late_reads : ReadsFrames WireFrame.Plain [slowCall, nextCall] := by
  have hplain : ∃ f : WireFrame, f.Plain := ⟨oldAnswer, by decide⟩
  have hslow : ReadsFrames WireFrame.Plain [slowCall] :=
    readsFrames_but (by decide) (by rfl) (by decide) hplain _
  have hnext : ReadsFrames WireFrame.Plain [nextCall] :=
    readsFrames_but (by decide) (by rfl) (by decide) hplain _
  intro call hcall
  rcases List.mem_cons.mp hcall with rfl | hcall
  · exact hslow _ List.mem_cons_self
  · exact hnext _ hcall

theorem late_answers : AnswersRequests 4 [slowCall, nextCall] where
  asked := by
    intro j call hcall k hk a ha i m ho
    match j with
    | 0 =>
      obtain rfl : slowCall = call := Option.some.inj hcall
      by_cases h1 : k = 1
      · rw [h1] at ha
        obtain rfl : a = ⟨oldAnswer, .answer 0 0⟩ := List.mem_singleton.mp ha
        obtain ⟨rfl, rfl⟩ := Origin.answer.inj ho
        refine ⟨Or.inr ⟨rfl, Nat.zero_le k⟩, by decide, slowCall, rfl, ⟨rfl, by simp⟩, ?_⟩
        decide +kernel
      · simp [slowCall, readingBut, h1] at ha
    | 1 =>
      obtain rfl : nextCall = call := Option.some.inj hcall
      by_cases h0 : k = 0
      · rw [h0] at ha
        have ha : a ∈ [⟨oldAnswer, .answer 0 1⟩, ⟨newAnswer, .answer 1 0⟩] := ha
        rcases List.mem_pair.mp ha with rfl | rfl
        · obtain ⟨rfl, rfl⟩ := Origin.answer.inj ho
          refine ⟨Or.inl Nat.one_pos, by decide, slowCall, rfl, ⟨rfl, fun l hl => ?_⟩, ?_⟩
          · obtain rfl : l = 0 := by omega
            rfl
          · decide +kernel
        · obtain ⟨rfl, rfl⟩ := Origin.answer.inj ho
          refine ⟨Or.inr ⟨rfl, Nat.zero_le k⟩, by decide, nextCall, rfl, ⟨rfl, by simp⟩, ?_⟩
          decide +kernel
      · simp [nextCall, readingBut, h0] at ha
    | j + 2 => cases hcall
  once := by decide

/-- A returned frame that no answer to its own call looks like. -/
theorem not_correlated {conn : PersistentDongleConnection} {calls : List TransactCall} {j : Nat}
    {call : TransactCall} (hcall : calls[j]? = some call) (p : LuxFrame → Bool)
    (hreturn : ((results conn calls)[j]?.bind fun out => out.toOption.join).map p = some true)
    (hown : ∀ a ∈ call.reads (conn.maxRetries + 1), a.Answers j → p a.frame.parsed = false) :
    ¬ Correlated conn calls := by
  intro h
  obtain ⟨f, hf, hp⟩ := Option.map_eq_some_iff.mp hreturn
  obtain ⟨out, hout, hjoin⟩ := Option.bind_eq_some_iff.mp hf
  have hok : out = .ok (some f) := by
    match out, hjoin with
    | .ok frame, hjoin => exact congrArg Except.ok hjoin
  obtain ⟨a, ha, rfl, hanswers⟩ := h j call f hcall (hok ▸ hout)
  rw [hown a ha hanswers] at hp
  cases hp

theorem late_not_correlated : ¬ Correlated { sock := true } [slowCall, nextCall] := by
  have hreads : nextCall.reads 4 = [⟨oldAnswer, .answer 0 1⟩, ⟨newAnswer, .answer 1 0⟩] := rfl
  have hcall : [slowCall, nextCall][1]? = some nextCall := rfl
  refine not_correlated hcall (fun f => f.values == [100]) ?_ ?_
  · decide +kernel
  · intro a ha ⟨k, hk⟩
    rcases List.mem_pair.mp (hreads ▸ ha) with rfl | rfl
    · cases hk
    · decide +kernel

theorem quoted_reads : ReadsFrames (fun _ => True) [quotedCall] :=
  readsFrames_but (by decide) (by rfl) (by simp) ⟨quotingAnswer, trivial⟩ _

theorem quoted_answers : AnswersRequests 4 [quotedCall] where
  asked := by
    intro j call hcall k hk a ha i m ho
    match j with
    | 0 =>
      obtain rfl : quotedCall = call := Option.some.inj hcall
      by_cases h0 : k = 0
      · rw [h0] at ha
        obtain rfl : a = ⟨quotingAnswer, .answer 0 0⟩ := List.mem_singleton.mp ha
        obtain ⟨rfl, rfl⟩ := Origin.answer.inj ho
        refine ⟨Or.inr ⟨rfl, Nat.zero_le k⟩, by decide, quotedCall, rfl, ⟨rfl, by simp⟩, ?_⟩
        decide +kernel
      · simp [quotedCall, readingBut, h0] at ha
    | j + 1 => cases hcall
  once := by decide

theorem quoted_not_correlated : ¬ Correlated { sock := true } [quotedCall] := by
  have hreads : quotedCall.reads 4 = [⟨quotingAnswer, .answer 0 0⟩] := rfl
  have hcall : [quotedCall][0]? = some quotedCall := rfl
  refine not_correlated hcall LuxFrame.isError ?_ ?_
  · decide +kernel
  · intro a ha _
    obtain rfl := List.mem_singleton.mp (hreads ▸ ha)
    decide +kernel

/-- A late answer to an earlier call is returned, and so is an error frame that is only part of
an answer. -/
theorem correlation_fails :
    (ReadsFrames WireFrame.Plain [slowCall, nextCall] ∧ AnswersRequests 4 [slowCall, nextCall] ∧
      ¬ Correlated { sock := true } [slowCall, nextCall]) ∧
    ReadsFrames (fun _ => True) [quotedCall] ∧ AnswersRequests 4 [quotedCall] ∧
      ¬ Correlated { sock := true } [quotedCall] :=
  ⟨⟨late_reads, late_answers, late_not_correlated⟩, quoted_reads, quoted_answers, quoted_not_correlated⟩

/-- The stale value: the second call returns the answer to the first one's repeated request. -/
theorem late_answer_first :
    ∃ f, (results { sock := true } [slowCall, nextCall])[1]? = some (.ok (some f)) ∧
      ∃ pre a post, nextCall.reads 4 = pre ++ a :: post ∧ a.frame.parsed = f ∧ nextCall.Takes a ∧
        (∀ b ∈ pre, ¬ nextCall.Takes b) ∧
        (a.Answers 1 ↔ ∀ before b later, nextCall.reads 4 = before ++ b :: later →
          nextCall.Takes b → ¬ b.Answers 1 → ∃ o ∈ before, nextCall.Takes o ∧ o.Answers 1) := by
  have hreturn : (results { sock := true } [slowCall, nextCall])[1]? =
      some (.ok (some oldAnswer.parsed)) := by
    rfl
  exact ⟨_, hreturn, transact_correlated_iff { sock := true } late_reads rfl hreturn⟩

end LuxMon
