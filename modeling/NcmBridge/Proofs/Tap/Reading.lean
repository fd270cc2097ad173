import Mathlib.Data.List.Forall2
import Mathlib.Tactic.Lemma
import NcmBridge.Tap.Device

/-!
# What reads of an interface return

A read looks at the descriptor in rounds, each of which is a poll, and a read if the poll reports something
to read. A round yields a frame, fails, or comes to nothing: then a waiting read goes on to the next round
and a single try is over. Told round by round, the frames that are returned are those that were read from
the descriptor, whatever signals, false alarms and closes come between two calls of the kernel.
-/

namespace NcmBridge

namespace Tap

/-! ### Calls of the kernel -/

/-- A poll or a read, with its outcome. -/
inductive Syscall
  | poll (timeout : Nat) (outcome : Except Errno Readiness)
  | read (len : Nat) (outcome : Except Errno Octets)

namespace Syscall

/-- The call as the kernel notes it. -/
def call : Syscall → KernelCall
  | poll timeout _ => .poll timeout
  | read len _ => .read len

/-- The frame that a call takes from the descriptor. -/
def frame? : Syscall → Option Octets
  | read _ (.ok bytes) => some bytes
  | _ => none

end Syscall

/-- The kernel comes from one state to another by these polls and reads, and they meet these outcomes. -/
inductive Kernel.Meets : Kernel → List Syscall → Kernel → Prop
  | nil (k : Kernel) : Meets k [] k
  | poll {k k₁ k₂ : Kernel} {timeout : Nat} {outcome : Except Errno Readiness} {calls : List Syscall}
      (step : k.poll timeout = (some outcome, k₁)) (rest : Meets k₁ calls k₂) :
      Meets k (.poll timeout outcome :: calls) k₂
  | read {k k₁ k₂ : Kernel} {len : Nat} {outcome : Except Errno Octets} {calls : List Syscall}
      (step : k.read len = (outcome, k₁)) (rest : Meets k₁ calls k₂) :
      Meets k (.read len outcome :: calls) k₂

namespace Kernel

variable {k k₁ k₂ : Kernel} {timeout len : Nat}

/-- A poll is noted, and takes nothing from the frames to come. -/
lemma poll_eq_some {outcome : Except Errno Readiness} (h : k.poll timeout = (some outcome, k₁)) :
    k₁.calls = (k.party, .poll timeout) :: k.calls ∧ k₁.party = k.party ∧ k₁.reads = k.reads := by
  unfold poll at h
  split at h
  · cases h
    exact ⟨rfl, rfl, rfl⟩
  · split at h
    · cases h
      exact ⟨rfl, rfl, rfl⟩
    · split at h
      · cases h
      · split at h <;> (cases h; exact ⟨rfl, rfl, rfl⟩)

lemma poll_eq_none (h : k.poll timeout = (none, k₁)) : k₁ = k := by
  unfold poll at h
  split at h
  · cases h
  · split at h
    · cases h
    · split at h
      · cases h
        rfl
      · split at h <;> cases h

/-- A read is noted, and takes the next of what is to come, cut to the length of the buffer. -/
lemma read_eq {outcome : Except Errno Octets} (h : k.read len = (outcome, k₁)) :
    k₁.calls = (k.party, .read len) :: k.calls ∧ k₁.party = k.party ∧ ∃ taken,
      k.reads = taken ++ k₁.reads ∧
        (taken.filterMap Except.toOption).map (List.take len) = outcome.toOption.toList := by
  unfold read at h
  dsimp only at h
  split at h
  · next hreads =>
    cases h
    exact ⟨rfl, rfl, [], rfl, rfl⟩
  · next item rest hreads =>
    cases h
    refine ⟨rfl, rfl, [item], hreads, ?_⟩
    cases item <;> rfl

lemma Meets.append {calls later : List Syscall} (h : k.Meets calls k₁) (h' : k₁.Meets later k₂) :
    k.Meets (calls ++ later) k₂ := by
  induction h with
  | nil => exact h'
  | poll step _ ih => exact .poll step (ih h')
  | read step _ ih => exact .read step (ih h')

/-- All calls are noted, and no other. -/
lemma Meets.calls_eq {calls : List Syscall} (h : k.Meets calls k₁) :
    k₁.party = k.party ∧ k₁.calls = (calls.map fun c => (k.party, c.call)).reverse ++ k.calls := by
  induction h with
  | nil => exact ⟨rfl, rfl⟩
  | poll step _ ih =>
    obtain ⟨hcalls, hparty, -⟩ := poll_eq_some step
    refine ⟨ih.1.trans hparty, ?_⟩
    simp [ih.2, hcalls, hparty, Syscall.call]
  | read step _ ih =>
    obtain ⟨hcalls, hparty, -⟩ := read_eq step
    refine ⟨ih.1.trans hparty, ?_⟩
    simp [ih.2, hcalls, hparty, Syscall.call]

/-- Reads with buffers of one length take what is to come from the front. -/
lemma Meets.exists_taken {calls : List Syscall} (h : k.Meets calls k₁)
    (hlen : ∀ n outcome, .read n outcome ∈ calls → n = len) : ∃ taken, k.reads = taken ++ k₁.reads ∧
      (taken.filterMap Except.toOption).map (List.take len) = calls.filterMap Syscall.frame? := by
  induction h with
  | nil => exact ⟨[], rfl, rfl⟩
  | poll step _ ih =>
    obtain ⟨taken, hreads, hframes⟩ := ih fun n outcome hmem => hlen n outcome (List.mem_cons_of_mem _ hmem)
    exact ⟨taken, (poll_eq_some step).2.2 ▸ hreads, hframes⟩
  | @read _ _ _ n outcome _ step _ ih =>
    obtain rfl : n = len := hlen n outcome List.mem_cons_self
    obtain ⟨taken, hreads, hframes⟩ := ih fun m o hmem => hlen m o (List.mem_cons_of_mem _ hmem)
    obtain ⟨-, -, first, hfirst, hframe⟩ := read_eq step
    refine ⟨first ++ taken, by rw [hfirst, hreads, List.append_assoc], ?_⟩
    rw [List.filterMap_append, List.map_append, hframe, hframes]
    cases outcome <;> rfl

end Kernel

/-- Each read comes directly after a poll that reported something to read. -/
def ReadsFollowPolls (calls : List Syscall) : Prop :=
  ∀ before len outcome after, calls = before ++ .read len outcome :: after →
    ∃ earlier timeout, before = earlier ++ [.poll timeout (.ok .ready)]

lemma readsFollowPolls_nil : ReadsFollowPolls [] := by
  intro before len outcome after heq
  simp at heq

lemma readsFollowPolls_poll (timeout : Nat) (outcome : Except Errno Readiness) :
    ReadsFollowPolls [.poll timeout outcome] := by
  intro before len outcome' after heq
  cases before with
  | nil => cases heq
  | cons call before =>
    obtain ⟨-, heq⟩ := List.cons.inj heq
    simp at heq

lemma readsFollowPolls_read (timeout len : Nat) (outcome : Except Errno Octets) :
    ReadsFollowPolls [.poll timeout (.ok .ready), .read len outcome] := by
  intro before len' outcome' after heq
  match before with
  | [] => cases heq
  | [call] => exact ⟨[], timeout, congrArg (fun call => [call]) (List.cons.inj heq).1.symm⟩
  | _ :: _ :: before => simp at heq

lemma ReadsFollowPolls.append {calls later : List Syscall} (h : ReadsFollowPolls calls)
    (h' : ReadsFollowPolls later) : ReadsFollowPolls (calls ++ later) := by
  intro before len outcome after heq
  obtain ⟨middle, rfl, hmiddle⟩ | ⟨middle, hcalls, hlater⟩ := List.append_eq_append_iff.1 heq
  · -- the read is one of the later calls
    obtain ⟨earlier, timeout, rfl⟩ := h' middle len outcome after hmiddle
    exact ⟨calls ++ earlier, timeout, (List.append_assoc ..).symm⟩
  · cases middle with
    | nil =>
      obtain ⟨earlier, timeout, hnil⟩ := h' [] len outcome after hlater.symm
      exact absurd hnil.symm (by simp)
    | cons call middle =>
      obtain ⟨rfl, -⟩ := List.cons.inj hlater
      exact h before len outcome middle hcalls

end Tap

namespace TapDevice

open Tap

/-! ### Rounds -/

/-- How a request ends. -/
inductive Ending
  | frame (bytes : Octets)
  | failed (e : Errno)
  /-- There is nothing to read now. -/
  | nothing
  | closed
  /-- The last poll waits for ever. -/
  | waiting

namespace Ending

/-- The frame that was read. -/
def frame? : Ending → Option Octets
  | frame bytes => some bytes
  | _ => none

/-- What is reported of a round that ends a read. -/
def report : Ending → IoResult Octets
  | frame bytes => .ok bytes
  | failed e => .error e.fault
  | _ => .ok []

end Ending

/-- The calls of one look at the descriptor, and how they end the read if they do. A read comes only after
a poll that reports something to read. -/
inductive Round (timeout len : Nat) : List Syscall → Option Ending → Prop
  | timedOut : Round timeout len [.poll timeout (.ok .timedOut)] none
  | closing : Round timeout len [.poll timeout (.ok .closing)] none
  | interrupted : Round timeout len [.poll timeout (.error .interrupted)] none
  | pollFailed {e : Errno} (other : e ≠ .interrupted) :
      Round timeout len [.poll timeout (.error e)] (some (.failed e))
  | falseAlarm {e : Errno} (passing : e = .interrupted ∨ e = .again) :
      Round timeout len [.poll timeout (.ok .ready), .read len (.error e)] none
  | readFailed {e : Errno} (other : ¬(e = .interrupted ∨ e = .again)) :
      Round timeout len [.poll timeout (.ok .ready), .read len (.error e)] (some (.failed e))
  | frame (bytes : Octets) :
      Round timeout len [.poll timeout (.ok .ready), .read len (.ok bytes)] (some (.frame bytes))

section

variable {timeout len : Nat} {d d' : TapDevice} {k k' : Kernel} {calls : List Syscall}

lemma Round.frames_eq {found : Option Ending} (h : Round timeout len calls found) :
    calls.filterMap Syscall.frame? = (found.bind Ending.frame?).toList := by
  cases h <;> rfl

/-- What a look says of its round. -/
def Look.ofRound : Option Ending → Look
  | none => .nothing
  | some ending => .done ending.report

/-- A poll that reports something to read is followed by a read. -/
lemma exists_round_readReady {k₁ : Kernel} (hpoll : k.poll timeout = (some (.ok .ready), k₁)) (len : Nat)
    (d : TapDevice) :
    ∃ calls found, Round timeout len calls found ∧ k.Meets calls (readReady len d k₁).2.2 ∧
      (readReady len d k₁).1 = .ofRound found ∧ (readReady len d k₁).2.1 = d.during k₁ := by
  unfold readReady
  split
  · next bytes k₂ hread =>
    exact ⟨_, _, .frame bytes, .poll hpoll (.read hread (.nil k₂)), rfl, rfl⟩
  · next e k₂ hread =>
    have hmeets : k.Meets [.poll timeout (.ok .ready), .read len (.error e)] k₂ :=
      .poll hpoll (.read hread (.nil k₂))
    by_cases hpass : e = .interrupted ∨ e = .again
    · exact ⟨_, _, .falseAlarm hpass, hmeets, if_pos hpass, rfl⟩
    · exact ⟨_, _, .readFailed hpass, hmeets, if_neg hpass, rfl⟩

/-- A look is one round, unless its poll waits for ever. -/
lemma look_cases {l : Look} (h : look timeout len d k = (l, d', k')) :
    (l = .waiting ∧ d' = d ∧ k' = k) ∨
      ∃ calls found, Round timeout len calls found ∧ k.Meets calls k' ∧
        l = .ofRound found ∧ (d.closed = true → d'.closed = true) := by
  have hduring : ∀ k : Kernel, d.closed = true → (d.during k).closed = true :=
    fun k hclosed => by rw [during, hclosed, Bool.true_or]
  unfold look at h
  split at h
  · next k₁ hpoll =>
    cases h
    exact .inl ⟨rfl, rfl, Kernel.poll_eq_none hpoll⟩
  · next k₁ hpoll =>
    cases h
    exact .inr ⟨_, _, .interrupted, .poll hpoll (.nil _), rfl, hduring k⟩
  · next e k₁ hother hpoll =>
    cases h
    exact .inr ⟨_, _, .pollFailed hother, .poll hpoll (.nil _), rfl, hduring k⟩
  · next k₁ hpoll =>
    cases h
    exact .inr ⟨_, _, .timedOut, .poll hpoll (.nil _), rfl, hduring k⟩
  · next k₁ hpoll =>
    cases h
    exact .inr ⟨_, _, .closing, .poll hpoll (.nil _), rfl, fun _ => rfl⟩
  · next k₁ hpoll =>
    obtain ⟨calls, found, hround, hmeets, hlook, hd⟩ := exists_round_readReady hpoll len (d.during k)
    rw [h] at hmeets hlook hd
    refine .inr ⟨calls, found, hround, hmeets, hlook, fun hclosed => ?_⟩
    rw [show d' = _ from hd, during, hduring k hclosed, Bool.true_or]

lemma look_done {got : IoResult Octets} (h : look timeout len d k = (.done got, d', k')) :
    ∃ calls ending, Round timeout len calls (some ending) ∧ k.Meets calls k' ∧ got = ending.report ∧
      (d.closed = true → d'.closed = true) := by
  obtain ⟨hwaiting, -⟩ | ⟨calls, found, hround, hmeets, hfound, hclosed⟩ := look_cases h
  · cases hwaiting
  · cases found with
    | none => cases hfound
    | some ending => exact ⟨calls, ending, hround, hmeets, Look.done.inj hfound, hclosed⟩

lemma look_nothing (h : look timeout len d k = (.nothing, d', k')) :
    ∃ calls, Round timeout len calls none ∧ k.Meets calls k' ∧ (d.closed = true → d'.closed = true) := by
  obtain ⟨hwaiting, -⟩ | ⟨calls, found, hround, hmeets, hfound, hclosed⟩ := look_cases h
  · cases hwaiting
  · cases found with
    | none => exact ⟨calls, hround, hmeets, hclosed⟩
    | some ending => cases hfound

lemma look_waiting (h : look timeout len d k = (.waiting, d', k')) : d' = d ∧ k' = k := by
  obtain ⟨-, hsame⟩ | ⟨calls, found, -, -, hfound, -⟩ := look_cases h
  · exact hsame
  · cases found <;> cases hfound

end

/-! ### Requests -/

/-- What an interface is asked by the one that reads from it, and by the one that closes it. -/
inductive Request
  /-- Wait for a frame. -/
  | readFrame (len : Nat)
  /-- Give a frame if there is one. -/
  | tryReadFrame (len : Nat)
  | close

/-- The answer to a request. -/
inductive Answer
  | read (got : Option (IoResult Octets))
  | tried (got : IoResult (Option Octets))
  | closed

namespace Request

/-- The length of the buffer for a frame. -/
def len : Request → Nat
  | readFrame len => len
  | tryReadFrame len => len
  | close => 0

/-- The answer to a request that ends in a certain way. -/
def answer : Request → Ending → Answer
  | readFrame _, .waiting => .read none
  | readFrame _, ending => .read (some ending.report)
  | tryReadFrame _, .frame bytes => .tried (.ok (some bytes))
  | tryReadFrame _, .failed e => .tried (.error e.fault)
  | tryReadFrame _, _ => .tried (.ok none)
  | close, _ => .closed

end Request

/-- Meets a request. -/
def ask : Request → TapDevice → Kernel → Answer × TapDevice × Kernel
  | .readFrame len, d, k =>
    let (got, d, k) := d.readFrame len k
    (.read got, d, k)
  | .tryReadFrame len, d, k =>
    let (got, d, k) := d.tryReadFrame len k
    (.tried got, d, k)
  | .close, d, k => (.closed, d.close, k)

/-- Meets requests one after another. -/
def askAll : List Request → TapDevice → Kernel → List Answer × TapDevice × Kernel
  | [], d, k => ([], d, k)
  | request :: requests, d, k =>
    let (answer, d, k) := ask request d k
    let (answers, d, k) := askAll requests d k
    (answer :: answers, d, k)

/-- The calls that a request makes, and how it ends. A waiting read goes on as long as its rounds come to
nothing; a try has one round at most. -/
inductive Course : Request → List Syscall → Ending → Prop
  | close : Course .close [] .nothing
  | closed (len : Nat) : Course (.readFrame len) [] .closed
  | waiting (len : Nat) : Course (.readFrame len) [] .waiting
  | ends {len : Nat} {calls : List Syscall} {ending : Ending}
      (round : Round pollInterval len calls (some ending)) : Course (.readFrame len) calls ending
  | goesOn {len : Nat} {calls later : List Syscall} {ending : Ending}
      (round : Round pollInterval len calls none) (rest : Course (.readFrame len) later ending) :
      Course (.readFrame len) (calls ++ later) ending
  | untried (len : Nat) : Course (.tryReadFrame len) [] .nothing
  | tried {len : Nat} {calls : List Syscall} {found : Option Ending} (round : Round 0 len calls found) :
      Course (.tryReadFrame len) calls (found.getD .nothing)

/-- A request that was met: the calls that it made and how it ended. -/
structure Exchange where
  request : Request
  calls : List Syscall
  ending : Ending

namespace Exchange

/-- The answer that was given. -/
def answer (x : Exchange) : Answer := x.request.answer x.ending

/-- The frame that was given. -/
def frame? (x : Exchange) : Option Octets := x.ending.frame?

end Exchange

/-- What comes of a request in one state of an interface and its kernel. On a closed interface no call is
made, unless a read from before goes on; and only on a closed one a read ends as closed. -/
structure Step (d : TapDevice) (k : Kernel) (x : Exchange) (d' : TapDevice) (k' : Kernel) : Prop where
  course : Course x.request x.calls x.ending
  meets : k.Meets x.calls k'
  stays_closed : d.closed = true → d'.closed = true
  silent : d.closed = true → d.polling = false → x.calls = []
  closed : x.ending = .closed → d'.closed = true

/-- Requests met one after another. -/
inductive Session : TapDevice → Kernel → List Exchange → TapDevice → Kernel → Prop
  | nil (d : TapDevice) (k : Kernel) : Session d k [] d k
  | cons {d d₁ d₂ : TapDevice} {k k₁ k₂ : Kernel} {x : Exchange} {log : List Exchange}
      (asked : ask x.request d k = (x.answer, d₁, k₁)) (step : Step d k x d₁ k₁)
      (rest : Session d₁ k₁ log d₂ k₂) : Session d k (x :: log) d₂ k₂

section

variable {d d' : TapDevice} {k k' : Kernel}

lemma Round.answer_eq {timeout len : Nat} {calls : List Syscall} {ending : Ending}
    (h : Round timeout len calls (some ending)) : ending ≠ .closed ∧
      Request.answer (.readFrame len) ending = .read (some ending.report) ∧
      Request.answer (.tryReadFrame len) ending = .tried (ending.report.map some) := by
  cases h <;> exact ⟨Ending.noConfusion, rfl, rfl⟩

/-- A waiting read takes rounds until one of them ends it, or the interface is closed. -/
lemma exists_step_readFrame (len : Nat) (d : TapDevice) (k : Kernel) : ∃ calls ending,
    Step d k ⟨.readFrame len, calls, ending⟩ (d.readFrame len k).2.1 (d.readFrame len k).2.2 ∧
      Request.answer (.readFrame len) ending = .read (d.readFrame len k).1 := by
  -- round by round: in the first four cases the read ends or waits, in the last the round came to nothing
  fun_induction readFrame len d k with
  | case1 d k h =>
    have hclosed : d.closed = true := (Bool.and_eq_true_iff.1 h).1
    exact ⟨[], .closed, ⟨.closed len, .nil k, id, fun _ _ => rfl, fun _ => hclosed⟩, rfl⟩
  | case2 d k h got d' k' hlook =>
    obtain ⟨calls, ending, hround, hmeets, rfl, hstays⟩ := look_done hlook
    obtain ⟨hopen, hanswer, -⟩ := hround.answer_eq
    exact ⟨calls, ending, ⟨.ends hround, hmeets, hstays,
      fun hclosed hidle => absurd (by simp [hclosed, hidle]) h, fun hclosed => absurd hclosed hopen⟩, hanswer⟩
  | case3 d k h d' k' hlook hc =>
    obtain ⟨-, rfl⟩ := look_waiting hlook
    exact ⟨[], .closed, ⟨.closed len, .nil k', fun _ => hc, fun _ _ => rfl, fun _ => hc⟩, rfl⟩
  | case4 d k h d' k' hlook hc =>
    obtain ⟨rfl, rfl⟩ := look_waiting hlook
    exact ⟨[], .waiting, ⟨.waiting len, .nil k', id, fun _ _ => rfl, Ending.noConfusion⟩, rfl⟩
  | case5 d k h d' k' hlook ih =>
    obtain ⟨calls, hround, hmeets, hstays⟩ := look_nothing hlook
    obtain ⟨later, ending, hstep, hanswer⟩ := ih
    exact ⟨calls ++ later, ending, ⟨.goesOn hround hstep.course, hmeets.append hstep.meets,
      fun hclosed => hstep.stays_closed (hstays hclosed),
      fun hclosed hidle => absurd (by simp [hclosed, hidle]) h, hstep.closed⟩, hanswer⟩

/-- A try takes one round at most. -/
lemma exists_step_tryReadFrame (len : Nat) (d : TapDevice) (k : Kernel) : ∃ calls ending,
    Step d k ⟨.tryReadFrame len, calls, ending⟩ (d.tryReadFrame len k).2.1 (d.tryReadFrame len k).2.2 ∧
      Request.answer (.tryReadFrame len) ending = .tried (d.tryReadFrame len k).1 := by
  unfold tryReadFrame
  split
  · exact ⟨[], .nothing, ⟨.untried len, .nil k, id, fun _ _ => rfl, Ending.noConfusion⟩, rfl⟩
  · next hopen =>
    split
    · next got d' k' hlook =>
      obtain ⟨calls, ending, hround, hmeets, rfl, hstays⟩ := look_done hlook
      obtain ⟨hne, -, hanswer⟩ := hround.answer_eq
      exact ⟨calls, ending, ⟨.tried hround, hmeets, hstays, fun hclosed => absurd hclosed hopen,
        fun hclosed => absurd hclosed hne⟩, hanswer⟩
    · next l d' k' hother hlook =>
      cases l with
      | done got => exact absurd rfl (hother got)
      | nothing =>
        obtain ⟨calls, hround, hmeets, hstays⟩ := look_nothing hlook
        exact ⟨calls, .nothing, ⟨.tried hround, hmeets, hstays, fun hclosed => absurd hclosed hopen,
          Ending.noConfusion⟩, rfl⟩
      | waiting =>
        obtain ⟨rfl, rfl⟩ := look_waiting hlook
        exact ⟨[], .nothing, ⟨.untried len, .nil k', id, fun _ _ => rfl, Ending.noConfusion⟩, rfl⟩

lemma exists_step_ask (request : Request) (d : TapDevice) (k : Kernel) : ∃ calls ending,
    ask request d k = (Request.answer request ending, (ask request d k).2) ∧
      Step d k ⟨request, calls, ending⟩ (ask request d k).2.1 (ask request d k).2.2 := by
  cases request with
  | readFrame len =>
    obtain ⟨calls, ending, hstep, hanswer⟩ := exists_step_readFrame len d k
    exact ⟨calls, ending, Prod.ext hanswer.symm rfl, hstep⟩
  | tryReadFrame len =>
    obtain ⟨calls, ending, hstep, hanswer⟩ := exists_step_tryReadFrame len d k
    exact ⟨calls, ending, Prod.ext hanswer.symm rfl, hstep⟩
  | close => exact ⟨[], .nothing, rfl, .close, .nil k, fun _ => rfl, fun _ _ => rfl, Ending.noConfusion⟩

/-- Whatever is asked, one after another, there is a session of it. -/
lemma exists_session (requests : List Request) (d : TapDevice) (k : Kernel) : ∃ log,
    Session d k log (askAll requests d k).2.1 (askAll requests d k).2.2 ∧
      log.map Exchange.request = requests ∧ log.map Exchange.answer = (askAll requests d k).1 := by
  induction requests generalizing d k with
  | nil => exact ⟨[], .nil d k, rfl, rfl⟩
  | cons request requests ih =>
    obtain ⟨calls, ending, hasked, hstep⟩ := exists_step_ask request d k
    obtain ⟨log, hsession, hrequests, hanswers⟩ := ih (ask request d k).2.1 (ask request d k).2.2
    refine ⟨⟨request, calls, ending⟩ :: log, .cons hasked hstep hsession, ?_, ?_⟩
    · rw [List.map_cons, hrequests]
    · exact congrArg₂ List.cons (congrArg Prod.fst hasked).symm hanswers

end

/-! ### What a session has read -/

section

variable {d d' : TapDevice} {k k' : Kernel} {log : List Exchange} {request : Request}
  {calls : List Syscall} {ending : Ending}

lemma Round.readsFollowPolls {timeout len : Nat} {found : Option Ending}
    (h : Round timeout len calls found) : ReadsFollowPolls calls := by
  cases h with
  | timedOut | closing | interrupted | pollFailed => exact readsFollowPolls_poll _ _
  | falseAlarm | readFailed | frame => exact readsFollowPolls_read _ _ _

lemma Round.eq_len {timeout len n : Nat} {found : Option Ending} {outcome : Except Errno Octets}
    (h : Round timeout len calls found) (hmem : .read n outcome ∈ calls) : n = len := by
  cases h <;> simp_all

lemma Course.readsFollowPolls (h : Course request calls ending) : ReadsFollowPolls calls := by
  induction h with
  | close | closed | waiting | untried => exact readsFollowPolls_nil
  | ends round => exact round.readsFollowPolls
  | goesOn round _ ih => exact round.readsFollowPolls.append ih
  | tried round => exact round.readsFollowPolls

lemma Course.eq_len {n : Nat} {outcome : Except Errno Octets} (h : Course request calls ending)
    (hmem : .read n outcome ∈ calls) : n = request.len := by
  induction h with
  | close | closed | waiting | untried => cases hmem
  | ends round => exact round.eq_len hmem
  | goesOn round _ ih => exact (List.mem_append.1 hmem).elim round.eq_len ih
  | tried round => exact round.eq_len hmem

/-- A request that ends with a frame has read it and no other, and one that ends otherwise has read none. -/
lemma Course.frames_eq (h : Course request calls ending) :
    calls.filterMap Syscall.frame? = ending.frame?.toList := by
  induction h with
  | close | closed | waiting | untried => rfl
  | ends round => exact round.frames_eq
  | goesOn round _ ih => rw [List.filterMap_append, round.frames_eq, ih]; rfl
  | @tried _ _ found round => rw [round.frames_eq]; cases found <;> rfl

lemma Session.meets (h : Session d k log d' k') : k.Meets (log.flatMap Exchange.calls) k' := by
  induction h with
  | nil _ k => exact .nil k
  | cons _ step _ ih => exact step.meets.append ih

lemma Session.readsFollowPolls (h : Session d k log d' k') :
    ReadsFollowPolls (log.flatMap Exchange.calls) := by
  induction h with
  | nil => exact readsFollowPolls_nil
  | cons _ step _ ih => exact step.course.readsFollowPolls.append ih

/-- The frames that were given are those that were read. -/
lemma Session.frames_eq (h : Session d k log d' k') :
    log.filterMap Exchange.frame? = (log.flatMap Exchange.calls).filterMap Syscall.frame? := by
  induction h with
  | nil => rfl
  | @cons _ _ _ _ _ _ x log _ step _ ih =>
    rw [List.flatMap_cons, List.filterMap_append, step.course.frames_eq, ← ih, List.filterMap_cons]
    unfold Exchange.frame?
    cases x.ending.frame? <;> rfl

/-- Each request has its part of what was to come: one frame, cut to the length of the buffer, if it gave
one, and besides that only failed reads. -/
lemma Session.exists_taken (h : Session d k log d' k') : ∃ parts : List (List (Except Errno Octets)),
    k.reads = parts.flatten ++ k'.reads ∧ List.Forall₂ (fun x taken =>
      (taken.filterMap Except.toOption).map (List.take x.request.len) = x.frame?.toList) log parts := by
  induction h with
  | nil => exact ⟨[], rfl, .nil⟩
  | cons _ step _ ih =>
    obtain ⟨taken, hreads, hframes⟩ := step.meets.exists_taken fun n outcome => step.course.eq_len
    obtain ⟨parts, hrest, hparts⟩ := ih
    refine ⟨taken :: parts, ?_, .cons (hframes.trans step.course.frames_eq) hparts⟩
    rw [hreads, hrest, List.flatten_cons, List.append_assoc]

end

/-! ### Closed interfaces -/

/-- Once an interface is closed and no read is under way, every request ends at once. -/
lemma askAll_of_closed {d : TapDevice} (hclosed : d.closed = true) (hidle : d.polling = false) (k : Kernel)
    (requests : List Request) :
    askAll requests d k = (requests.map fun request => request.answer .closed, d, k) := by
  have hask : ∀ request, ask request d k = (request.answer .closed, d, k) := by
    intro request
    cases request with
    | readFrame len => simp [ask, readFrame, hclosed, hidle, Request.answer, Ending.report]
    | tryReadFrame len => simp [ask, tryReadFrame, hclosed, Request.answer]
    | close => simp [ask, close, ← hclosed, Request.answer]
  induction requests with
  | nil => rfl
  | cons request requests ih => simp only [askAll, hask, ih, List.map_cons]

/-- Whatever an interface is asked, and whatever its kernel answers and whenever the interface is closed:
there is a log of the requests with the polls and reads made for each, which are all that the kernel notes.
The frames that were given are those that were read, each once and in order, and what they are read from is
taken from the front. Each read comes directly after a poll that reported something to read. On an interface
that is closed tries give nothing and writes fail, and if no read is under way reads end; none of them makes a
call. -/
theorem frames_given_are_the_frames_read (requests : List Request) (d : TapDevice) (k : Kernel) :
    let answers := (askAll requests d k).1
    let d' := (askAll requests d k).2.1
    let k' := (askAll requests d k).2.2
    (∃ log : List Exchange, Session d k log d' k' ∧
      log.map Exchange.request = requests ∧ log.map Exchange.answer = answers ∧
      k'.calls = ((log.flatMap Exchange.calls).map fun c => (k.party, c.call)).reverse ++ k.calls ∧
      log.filterMap Exchange.frame? = (log.flatMap Exchange.calls).filterMap Syscall.frame? ∧
      (∃ parts : List (List (Except Errno Octets)), k.reads = parts.flatten ++ k'.reads ∧
        List.Forall₂ (fun x taken =>
          (taken.filterMap Except.toOption).map (List.take x.request.len) = x.frame?.toList) log parts) ∧
      ReadsFollowPolls (log.flatMap Exchange.calls)) ∧
    (d'.closed = true →
      (∀ len, d'.tryReadFrame len k' = (.ok none, d', k')) ∧
      (∀ frame, ∃ text, d'.writeFrame frame k' = (.error ⟨.brokenPipe, text⟩, k')) ∧
      (d'.polling = false → ∀ later,
        askAll later d' k' = (later.map fun request => request.answer .closed, d', k'))) := by
  intro answers d' k'
  obtain ⟨log, hsession, hrequests, hanswers⟩ := exists_session requests d k
  refine ⟨⟨log, hsession, hrequests, hanswers, hsession.meets.calls_eq.2, hsession.frames_eq,
    hsession.exists_taken, hsession.readsFollowPolls⟩, ?_⟩
  intro hclosed
  exact ⟨fun len => if_pos hclosed, fun frame => ⟨_, if_pos hclosed⟩,
    fun hidle => askAll_of_closed hclosed hidle k'⟩

/-- A kernel with outcomes of every kind; the interface is closed during the last read. -/
def busyKernel : Kernel :=
  { polls := [.ok .timedOut, .error .interrupted, .ok .ready, .ok .ready, .ok .ready, .error .noMemory,
      .ok .ready]
    reads := [.error .interrupted, .ok [1, 2, 3], .error .again, .error .again, .ok [4]]
    closings := List.replicate 10 false ++ [true] }

/-- Waiting reads, and tries between them. -/
def busyRequests : List Request := [.readFrame 2, .tryReadFrame 9, .tryReadFrame 9, .readFrame 9]

/-- The first read gives the frame that is there, and the last one ends with the interface. What is still to
come then is not read any more. -/
theorem one_frame_given_before_close :
    (askAll busyRequests { name := "tap0" } busyKernel).1 =
      [.read (some (.ok [1, 2])), .tried (.ok none),
        .tried (.error ⟨.outOfMemory, "Cannot allocate memory (os error 12)"⟩), .read (some (.ok []))] ∧
    (askAll busyRequests { name := "tap0" } busyKernel).2.1.closed = true ∧
    (askAll busyRequests { name := "tap0" } busyKernel).2.1.polling = false ∧
    (askAll busyRequests { name := "tap0" } busyKernel).2.2.reads = [.ok [4]] ∧
    (askAll [.readFrame 9] (askAll busyRequests { name := "tap0" } busyKernel).2.1
      (askAll busyRequests { name := "tap0" } busyKernel).2.2).2.2.reads = [.ok [4]] := by
  have hanswers : (askAll busyRequests { name := "tap0" } busyKernel).1 =
      [.read (some (.ok [1, 2])), .tried (.ok none),
        .tried (.error ⟨.outOfMemory, "Cannot allocate memory (os error 12)"⟩), .read (some (.ok []))] := by
    with_unfolding_all rfl
  have hclosed : (askAll busyRequests { name := "tap0" } busyKernel).2.1.closed = true := by
    with_unfolding_all rfl
  have hidle : (askAll busyRequests { name := "tap0" } busyKernel).2.1.polling = false := by
    with_unfolding_all rfl
  have hleft : (askAll busyRequests { name := "tap0" } busyKernel).2.2.reads = [.ok [4]] := by
    with_unfolding_all rfl
  obtain ⟨-, -, hshut⟩ := (frames_given_are_the_frames_read busyRequests { name := "tap0" } busyKernel).2 hclosed
  refine ⟨hanswers, hclosed, hidle, hleft, ?_⟩
  rw [hshut hidle [.readFrame 9]]
  exact hleft

end TapDevice

end NcmBridge
