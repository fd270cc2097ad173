import Mathlib.Data.List.Basic
import Mathlib.Tactic.Lemma
import NcmBridge.Link.BulkQueue
import NcmBridge.Link.Transport

/-!
# What comes in over a link

A reader of a link hands out the bytes of the transfers that succeeded, in parts of any size. At every
moment the bytes handed out and those left in its queue make up the transfers so far, so nothing is lost,
repeated or moved. Transfers that time out or are empty do not show; no bytes mean that the link is
closed, and a failure is that of a transfer.
-/

namespace NcmBridge

/-! ### Transfers -/

namespace TransferOutcome

/-- The bytes that a transfer carries; one that fails carries none. -/
def bytes (o : TransferOutcome) : Octets := o.result.toOption.getD []

/-- The transfer carries no more bytes than there is room for. -/
def Fits (len : Nat) (o : TransferOutcome) : Prop := o.bytes.length ≤ len

instance (len : Nat) (o : TransferOutcome) : Decidable (o.Fits len) := inferInstanceAs (Decidable (_ ≤ _))

/-- The transfer is empty or times out. -/
def Quiet (o : TransferOutcome) : Prop := o.result = .ok [] ∨ o.result = .error .timeout

instance (o : TransferOutcome) : Decidable o.Quiet := inferInstanceAs (Decidable (_ ∨ _))

/-- The transfer is quiet, and the link is not closed before its end. -/
def Idle (o : TransferOutcome) : Prop := o.Quiet ∧ o.closes = false

instance (o : TransferOutcome) : Decidable o.Idle := inferInstanceAs (Decidable (_ ∧ _))

lemma bytes_of_ok {o : TransferOutcome} {a : Octets} (h : o.result = .ok a) : o.bytes = a := by
  rw [bytes, h]
  rfl

lemma bytes_of_error {o : TransferOutcome} {f : UsbFault} (h : o.result = .error f) : o.bytes = [] := by
  rw [bytes, h]
  rfl

end TransferOutcome

/-- The bytes of transfers, one after another. -/
def transferred (outcomes : List TransferOutcome) : Octets := outcomes.flatMap TransferOutcome.bytes

@[simp] lemma transferred_nil : transferred [] = [] := rfl

@[simp] lemma transferred_cons (o : TransferOutcome) (outcomes : List TransferOutcome) :
    transferred (o :: outcomes) = o.bytes ++ transferred outcomes :=
  List.flatMap_cons

@[simp] lemma transferred_append (past later : List TransferOutcome) :
    transferred (past ++ later) = transferred past ++ transferred later :=
  List.flatMap_append

/-- The bytes that a read hands out; a read that fails, or has no outcome yet, hands out none. -/
def yielded : Option (IoResult Octets) → Octets
  | some (.ok bytes) => bytes
  | _ => []

@[simp] lemma yielded_map_take (n : Nat) (got : Option (IoResult Octets)) :
    yielded (got.map (Except.map (List.take n))) = (yielded got).take n := by
  match got with
  | none | some (.error f) => exact List.take_nil.symm
  | some (.ok bytes) => rfl

/-- A failure is that of a transfer that did not time out, or of a link that has nothing more to say. -/
def FailsWith (silence : Silence) (past : List TransferOutcome) (fault : IoFault) : Prop :=
  ∃ f : UsbFault, fault = f.ioFault ∧
    ((f ≠ .timeout ∧ ∃ o ∈ past, o.result = .error f) ∨ silence = .failing f)

lemma FailsWith.cons {silence : Silence} {past : List TransferOutcome} {fault : IoFault}
    (h : FailsWith silence past fault) (o : TransferOutcome) : FailsWith silence (o :: past) fault := by
  obtain ⟨f, hfault, ⟨hf, o', ho', hresult⟩ | hsilence⟩ := h
  · exact ⟨f, hfault, .inl ⟨hf, o', List.mem_cons_of_mem o ho', hresult⟩⟩
  · exact ⟨f, hfault, .inr hsilence⟩

/-- What the outcome of a read says of the transfers that it took, and of the link after it. -/
structure Explains (silence : Silence) (past : List TransferOutcome) (got : Option (IoResult Octets))
    (closed : Bool) : Prop where
  bytes : transferred past = yielded got
  ended : got = some (.ok []) → closed = true
  failed : ∀ fault, got = some (.error fault) → FailsWith silence past fault

lemma Explains.cons {silence : Silence} {past : List TransferOutcome} {got : Option (IoResult Octets)}
    {closed : Bool} (h : Explains silence past got closed) {o : TransferOutcome} (ho : o.bytes = []) :
    Explains silence (o :: past) got closed := by
  refine ⟨?_, h.ended, fun fault hfault => (h.failed fault hfault).cons o⟩
  rw [transferred_cons, ho, List.nil_append, h.bytes]

namespace Receiving

variable {len : Nat} {silence : Silence} {closed : Bool} {outcomes : List TransferOutcome}

/-- A read takes transfers from the front, and its outcome is theirs. -/
lemma explains_run (silence : Silence) (closed : Bool) (hfits : ∀ o ∈ outcomes, o.Fits len) : ∃ past,
    outcomes = past ++ (run len silence closed outcomes).left ∧
      Explains silence past (run len silence closed outcomes).result
        (run len silence closed outcomes).closed := by
  fun_induction run len silence closed outcomes with
  | case1 outcomes => exact ⟨[], rfl, rfl, fun _ => rfl, by simp⟩
  | case2 f hsilence =>
    refine ⟨[], rfl, rfl, by simp, ?_⟩
    rintro fault hfault
    cases hfault
    exact ⟨f, rfl, .inr hsilence⟩
  | case3 => exact ⟨[], rfl, rfl, by simp, by simp⟩
  | case4 => exact ⟨[], rfl, rfl, by simp, by simp⟩
  | case5 o outcomes ho ih =>
    obtain ⟨past, hsplit, hexplains⟩ := ih (List.forall_mem_cons.1 hfits).2
    exact ⟨o :: past, congrArg _ hsplit, hexplains.cons (TransferOutcome.bytes_of_ok ho)⟩
  | case6 o outcomes ho ih =>
    obtain ⟨past, hsplit, hexplains⟩ := ih (List.forall_mem_cons.1 hfits).2
    exact ⟨o :: past, congrArg _ hsplit, hexplains.cons (TransferOutcome.bytes_of_error ho)⟩
  | case7 o outcomes b bytes ho hlong =>
    have hfit : o.bytes.length ≤ len := (List.forall_mem_cons.1 hfits).1
    rw [TransferOutcome.bytes_of_ok ho] at hfit
    exact absurd hlong (Nat.not_lt.2 hfit)
  | case8 o outcomes b bytes ho hlong =>
    refine ⟨[o], rfl, ?_, by simp, by simp⟩
    rw [transferred_cons, TransferOutcome.bytes_of_ok ho, transferred_nil, List.append_nil, yielded]
  | case9 o outcomes f hf ho =>
    refine ⟨[o], rfl, ?_, by simp, ?_⟩
    · rw [transferred_cons, TransferOutcome.bytes_of_error ho, transferred_nil, List.append_nil]
      rfl
    · rintro fault hfault
      cases hfault
      exact ⟨f, rfl, .inl ⟨hf, o, List.mem_singleton_self o, ho⟩⟩

lemma run_closed (len : Nat) (silence : Silence) (outcomes : List TransferOutcome) :
    run len silence true outcomes = ⟨some (.ok []), true, outcomes, 0⟩ := by
  rw [run]

/-- A quiet transfer is followed by the next one. -/
lemma run_of_quiet {o : TransferOutcome} (h : o.Quiet) (outcomes : List TransferOutcome) :
    run len silence false (o :: outcomes) = (run len silence o.closes outcomes).after := by
  rcases h with h | h
  · rw [run, h]
  · rw [run, h]

/-- Any other transfer is the last of the read. -/
lemma exists_run_eq {o : TransferOutcome} (h : ¬o.Quiet) (len : Nat) (silence : Silence) :
    ∃ result, ∀ outcomes, run len silence false (o :: outcomes) = ⟨some result, o.closes, outcomes, 1⟩ := by
  rw [TransferOutcome.Quiet, not_or] at h
  cases hresult : o.result with
  | error f =>
    refine ⟨.error f.ioFault, fun outcomes => ?_⟩
    rw [run, hresult]
    split
    · next heq => cases heq
    · next heq =>
      cases heq
      exact absurd hresult h.2
    · next heq => cases heq
    · next heq =>
      cases heq
      rfl
  | ok bytes =>
    obtain _ | ⟨b, bytes⟩ := bytes
    · exact absurd hresult h.1
    · by_cases hlong : len < (b :: bytes).length
      · exact ⟨_, fun outcomes => by rw [run, hresult]; exact if_pos hlong⟩
      · exact ⟨_, fun outcomes => by rw [run, hresult]; exact if_neg hlong⟩

/-- Idle transfers are passed over as if there were none. -/
lemma run_filter (len : Nat) (silence : Silence) (closed : Bool) (outcomes : List TransferOutcome) :
    let busy := outcomes.filter fun o => ¬o.Idle
    (run len silence closed busy).result = (run len silence closed outcomes).result ∧
      (run len silence closed busy).closed = (run len silence closed outcomes).closed ∧
      (run len silence closed busy).left =
        (run len silence closed outcomes).left.filter fun o => ¬o.Idle := by
  induction outcomes generalizing closed with
  | nil =>
    cases closed with
    | true => exact ⟨rfl, rfl, rfl⟩
    | false => cases silence <;> exact ⟨rfl, rfl, rfl⟩
  | cons o outcomes ih =>
    cases closed with
    | true =>
      simp only [run_closed]
      exact ⟨trivial, trivial, trivial⟩
    | false =>
      by_cases hidle : o.Idle
      · -- the read goes on with the transfers after it, and the link is still open
        simp only [List.filter_cons, hidle, not_true_eq_false, decide_false, Bool.false_eq_true, if_false,
          run_of_quiet hidle.1, hidle.2]
        exact ih false
      · simp only [List.filter_cons, hidle, not_false_eq_true, decide_true, if_true]
        by_cases hquiet : o.Quiet
        · have hcloses : o.closes = true := by
            rw [← Bool.not_eq_false]
            exact fun h => hidle ⟨hquiet, h⟩
          simp only [run_of_quiet hquiet, hcloses, run_closed, after]
          exact ⟨trivial, trivial, trivial⟩
        · obtain ⟨result, hrun⟩ := exists_run_eq hquiet len silence
          simp only [hrun]
          exact ⟨trivial, trivial, trivial⟩

end Receiving

/-! ### Reads of a link -/

namespace BulkQueue

variable {σ : Type} (link : Nat → σ → Option (IoResult Octets) × σ) {q : BulkQueue} {n : Nat} (s : σ)

/-- Reads at most `n` bytes over a link whose reads may have to wait. There is no outcome yet when a
transfer is needed that has none. -/
def readOver (q : BulkQueue) (n : Nat) (s : σ) : Option (IoResult Octets) × BulkQueue × σ :=
  if n ≠ 0 ∧ q.left = [] ∧ (link q.chunkLen s).1 = none then
    (none, q, (link q.chunkLen s).2)
  else
    let (got, q, s) := q.read (fun len s => ((link len s).1.getD (.ok []), (link len s).2)) n s
    (some got, q, s)

lemma readOver_zero (q : BulkQueue) : q.readOver link 0 s = (some (.ok []), q, s) := by
  simp [readOver, read]

lemma readOver_of_ne_nil (hn : n ≠ 0) (hleft : q.left ≠ []) : q.readOver link n s =
    (some (.ok (q.left.take n)), { q with left := q.left.drop n }, s) := by
  simp [readOver, read, take, hn, hleft]

/-- When nothing is left, the outcome is that of the link. -/
lemma readOver_nil (hn : n ≠ 0) (c : Nat) : (mk c []).readOver link n s =
    ((link c s).1.map (Except.map (List.take n)), ⟨c, (yielded (link c s).1).drop n⟩, (link c s).2) := by
  rw [readOver]
  cases hgot : (link c s).1 with
  | none => simp [hn, yielded]
  | some got =>
    cases got with
    | error f => simp [read, hn, hgot, yielded, Except.map]
    | ok bytes => simp [read, refill, take, hn, hgot, yielded, Except.map]

end BulkQueue

/-- A reader of a link, with the bus that the link is on. -/
structure LinkReader where
  queue : BulkQueue
  transport : Transport
  bus : Bus

namespace LinkReader

/-- What a reader and its link can be asked for. -/
inductive Request
  | read (n : Nat)
  | close

/-- A new reader of a link. -/
def ofLink (t : Transport) (b : Bus) : LinkReader := ⟨.ofChunkLen t.ncm.readChunkLen, t, b⟩

/-- Reads at most `n` bytes. -/
def read (r : LinkReader) (n : Nat) : Option (IoResult Octets) × LinkReader :=
  let (got, queue, transport, bus) :=
    r.queue.readOver (fun len s => s.1.readTransfer len s.2) n (r.transport, r.bus)
  (got, ⟨queue, transport, bus⟩)

/-- Meets a request; only a read has an outcome. -/
def ask (r : LinkReader) : Request → Option (IoResult Octets) × LinkReader
  | .read n => r.read n
  | .close => (none, { r with transport := r.transport.close })

/-- Meets requests one after another. -/
def askAll : List Request → LinkReader → List (Option (IoResult Octets)) × LinkReader
  | [], r => ([], r)
  | request :: requests, r =>
    let (got, r) := r.ask request
    let (answers, r) := askAll requests r
    (got :: answers, r)

/-- The bytes that reads handed out, in order. -/
def handedOut (answers : List (Option (IoResult Octets))) : Octets := answers.flatMap yielded

/-- From `r` a reader has come to `r'`: it took the transfers of `past` with buffers of full length, and of
their bytes and those in its queue it handed out `bytes`. -/
structure Goes (r : LinkReader) (past : List TransferOutcome) (bytes : Octets) (r' : LinkReader) : Prop where
  session : r'.transport.session = r.transport.session
  ncm : r'.transport.ncm = r.transport.ncm
  timeout : r'.transport.timeout = r.transport.timeout
  silence : r'.bus.silence = r.bus.silence
  party : r'.bus.party = r.bus.party
  chunkLen : r'.queue.chunkLen = r.queue.chunkLen
  taken : r.queue.left ++ transferred past = bytes ++ r'.queue.left
  device : ∀ d, r.bus.device? r.transport.session.ref = some d →
    ∃ d', r'.bus.device? r.transport.session.ref = some d' ∧ d.transfers = past ++ d'.transfers
  calls : ∃ n, r'.bus.calls = List.replicate n (r.bus.party, r.transport.session.ref,
    .bulkIn r.transport.ncm.bulkIn.address r.queue.chunkLen r.transport.timeout) ++ r.bus.calls

/-- What a read for `n` bytes may answer, and when. -/
structure Answers (r : LinkReader) (n : Nat) (past : List TransferOutcome) (got : Option (IoResult Octets))
    (r' : LinkReader) : Prop where
  length_le : (yielded got).length ≤ n
  zero : n = 0 → got = some (.ok []) ∧ r' = r
  ahead : r.queue.left ≠ [] → n ≠ 0 → got = some (.ok (r.queue.left.take n)) ∧ r'.bus = r.bus
  ended : n ≠ 0 → got = some (.ok []) →
    r.queue.left = [] ∧ r'.queue.left = [] ∧ r'.transport.closed = true
  failed : ∀ fault, got = some (.error fault) →
    r.queue.left = [] ∧ r'.queue.left = [] ∧ FailsWith r.bus.silence past fault

section

variable {r r' r'' : LinkReader} {d : BusDevice} {past later : List TransferOutcome} {bytes more : Octets}

lemma Goes.refl (r : LinkReader) : r.Goes [] [] r where
  session := rfl
  ncm := rfl
  timeout := rfl
  silence := rfl
  party := rfl
  chunkLen := rfl
  taken := List.append_nil _
  device d hd := ⟨d, hd, rfl⟩
  calls := ⟨0, rfl⟩

lemma Goes.trans (h : r.Goes past bytes r') (h' : r'.Goes later more r'') :
    r.Goes (past ++ later) (bytes ++ more) r'' where
  session := h'.session.trans h.session
  ncm := h'.ncm.trans h.ncm
  timeout := h'.timeout.trans h.timeout
  silence := h'.silence.trans h.silence
  party := h'.party.trans h.party
  chunkLen := h'.chunkLen.trans h.chunkLen
  taken := by
    rw [transferred_append, ← List.append_assoc, h.taken, List.append_assoc, h'.taken, List.append_assoc]
  device d hd := by
    obtain ⟨d', hd', hsplit⟩ := h.device d hd
    rw [← h.session] at hd' ⊢
    obtain ⟨d'', hd'', hsplit'⟩ := h'.device d' hd'
    exact ⟨d'', hd'', by rw [hsplit, hsplit', List.append_assoc]⟩
  calls := by
    obtain ⟨n, hcalls⟩ := h.calls
    obtain ⟨m, hcalls'⟩ := h'.calls
    refine ⟨m + n, ?_⟩
    rw [hcalls', hcalls, h.party, h.session, h.ncm, h.chunkLen, h.timeout, ← List.append_assoc,
      List.replicate_append_replicate]

/-- A transfer that had no outcome yet takes no others when it ends. -/
lemma explains_resume (t : Transport) (silence : Silence) :
    Explains silence [] (t.resume silence).1 (t.resume silence).2.closed ∧
      ∃ reading, (t.resume silence).2 = { t with reading } := by
  cases silence with
  | failing f =>
    refine ⟨⟨rfl, by simp [Transport.resume], ?_⟩, false, rfl⟩
    rintro fault hfault
    cases hfault
    exact ⟨f, rfl, .inr rfl⟩
  | hanging => exact ⟨⟨rfl, by simp [Transport.resume], by simp [Transport.resume]⟩, t.reading, rfl⟩
  | idle =>
    rw [Transport.resume]
    split
    · next hclosed => exact ⟨⟨rfl, fun _ => hclosed, by simp⟩, false, rfl⟩
    · exact ⟨⟨rfl, by simp, by simp⟩, t.reading, rfl⟩

/-- A transfer for the queue is explained by the transfers that it took. -/
lemma exists_goes_transfer (hd : r.bus.device? r.transport.session.ref = some d)
    (hfits : ∀ o ∈ d.transfers, o.Fits r.queue.chunkLen) :
    let (got, t, b) := r.transport.readTransfer r.queue.chunkLen r.bus
    ∃ past, Explains r.bus.silence past got t.closed ∧
      ∀ {q bytes}, q.chunkLen = r.queue.chunkLen → r.queue.left ++ transferred past = bytes ++ q.left →
        r.Goes past bytes ⟨q, t, b⟩ := by
  cases hreading : r.transport.reading with
  | true =>
    obtain ⟨hexplains, reading, hresumed⟩ := explains_resume r.transport r.bus.silence
    simp only [Transport.readTransfer, hreading, if_true]
    refine ⟨[], hexplains, fun hchunk htaken => ?_⟩
    rw [hresumed]
    exact ⟨rfl, rfl, rfl, rfl, rfl, hchunk, htaken, fun d hd => ⟨d, hd, rfl⟩, 0, rfl⟩
  | false =>
    obtain ⟨past, hsplit, hexplains⟩ := Receiving.explains_run r.bus.silence
      r.transport.closed hfits
    simp only [Transport.readTransfer, hreading, Bool.false_eq_true, if_false, hd]
    refine ⟨past, hexplains, fun hchunk htaken => ?_⟩
    have href : d.ref = r.transport.session.ref := Bus.ref_of_device? hd
    refine ⟨rfl, rfl, rfl, rfl, rfl, hchunk, htaken, fun d' hd' => ?_, ?_⟩
    · obtain rfl : d = d' := Option.some.inj (hd.symm.trans hd')
      refine ⟨{ d with transfers := _ }, ?_, hsplit⟩
      rw [← href] at hd ⊢
      exact Bus.device?_put_self (d := d) (by rwa [Bus.device?_noteAll])
    · refine ⟨(Receiving.run r.queue.chunkLen r.bus.silence r.transport.closed d.transfers).transfers, ?_⟩
      simp only [Bus.put, Bus.noteAll, List.map_replicate, List.reverse_replicate, href]

/-- A read goes on from the bytes that are left, or else from a transfer. -/
lemma exists_goes_read (hd : r.bus.device? r.transport.session.ref = some d)
    (hfits : ∀ o ∈ d.transfers, o.Fits r.queue.chunkLen) (n : Nat) : ∃ past,
    r.Goes past (yielded (r.read n).1) (r.read n).2 ∧ r.Answers n past (r.read n).1 (r.read n).2 := by
  by_cases hn : n = 0
  · subst hn
    rw [read, BulkQueue.readOver_zero]
    exact ⟨[], .refl r, by simp [yielded], fun _ => ⟨rfl, rfl⟩, fun _ hn => absurd rfl hn,
      fun hn => absurd rfl hn, by simp⟩
  by_cases hleft : r.queue.left = []
  · -- the queue is refilled by one transfer
    obtain ⟨⟨c, left⟩, t, b⟩ := r
    obtain rfl : left = [] := hleft
    have htransfer := exists_goes_transfer hd hfits
    rw [read, BulkQueue.readOver_nil _ _ hn]
    generalize t.readTransfer c b = transfer at htransfer ⊢
    obtain ⟨got, t', b'⟩ := transfer
    obtain ⟨past, hexplains, hgoes⟩ := htransfer
    refine ⟨past, hgoes rfl ?_, ?_, fun h => absurd h hn, fun h => absurd rfl h, ?_, ?_⟩
    · rw [yielded_map_take, List.take_append_drop, hexplains.bytes, List.nil_append]
    · rw [yielded_map_take]
      exact List.length_take_le n _
    · intro _ hnone
      match got with
      | none | some (.error f) => cases hnone
      | some (.ok bytes) =>
        have htake : bytes.take n = [] := by simpa [Except.map] using hnone
        obtain rfl : bytes = [] := (List.take_eq_nil_iff.1 htake).resolve_left hn
        exact ⟨rfl, List.drop_nil, hexplains.ended rfl⟩
    · intro fault hfault
      match got with
      | none | some (.ok bytes) => cases hfault
      | some (.error f) =>
        cases hfault
        exact ⟨rfl, List.drop_nil, hexplains.failed _ rfl⟩
  · rw [read, BulkQueue.readOver_of_ne_nil _ _ hn hleft]
    refine ⟨[], ⟨rfl, rfl, rfl, rfl, rfl, rfl, ?_, fun d hd => ⟨d, hd, rfl⟩, 0, rfl⟩, ?_,
      fun h => absurd h hn, fun _ _ => ⟨rfl, rfl⟩, ?_, by simp⟩
    · simp [yielded]
    · exact List.length_take_le ..
    · intro _ hgot
      simp [hn, hleft] at hgot

/-- Requests take transfers from the front, and what is handed out are their bytes in order. -/
lemma exists_goes_askAll (hd : r.bus.device? r.transport.session.ref = some d)
    (hfits : ∀ o ∈ d.transfers, o.Fits r.queue.chunkLen) (requests : List Request) : ∃ past,
    r.Goes past (handedOut (askAll requests r).1) (askAll requests r).2 := by
  induction requests generalizing r d with
  | nil => exact ⟨[], .refl r⟩
  | cons request requests ih =>
    have hask : ∃ past, r.Goes past (yielded (r.ask request).1) (r.ask request).2 := by
      cases request with
      | read n =>
        obtain ⟨past, hgoes, -⟩ := exists_goes_read hd hfits n
        exact ⟨past, hgoes⟩
      | close =>
        exact ⟨[], rfl, rfl, rfl, rfl, rfl, rfl, List.append_nil _, fun d hd => ⟨d, hd, rfl⟩, 0, rfl⟩
    obtain ⟨past, hgoes⟩ := hask
    obtain ⟨d', hd', hsplit⟩ := hgoes.device d hd
    rw [← hgoes.session] at hd'
    have hfits' : ∀ o ∈ d'.transfers, o.Fits (r.ask request).2.queue.chunkLen := by
      intro o ho
      rw [hgoes.chunkLen]
      exact hfits o (hsplit ▸ List.mem_append_right past ho)
    obtain ⟨later, hlater⟩ := ih hd' hfits'
    exact ⟨past ++ later, hgoes.trans hlater⟩

end

/-! ### Idle transfers -/

/-- The other reader stands where this one does, but no idle transfer is to come. -/
structure Thinned (r r' : LinkReader) : Prop where
  queue : r'.queue = r.queue
  transport : r'.transport = r.transport
  silence : r'.bus.silence = r.bus.silence
  device : ∃ d d', r.bus.device? r.transport.session.ref = some d ∧
    r'.bus.device? r.transport.session.ref = some d' ∧ d'.transfers = d.transfers.filter fun o => ¬o.Idle

section

variable {r r' : LinkReader}

/-- Idle transfers do not change the outcome of a transfer. -/
lemma Thinned.transfer (h : r.Thinned r') (len : Nat) :
    let went := r.transport.readTransfer len r.bus
    let went' := r'.transport.readTransfer len r'.bus
    went'.1 = went.1 ∧ ∀ q, Thinned ⟨q, went.2.1, went.2.2⟩ ⟨q, went'.2.1, went'.2.2⟩ := by
  obtain ⟨-, htransport, hsilence, d, d', hd, hd', hfilter⟩ := h
  rw [htransport]
  cases hreading : r.transport.reading with
  | true =>
    obtain ⟨-, reading, hresumed⟩ := explains_resume r.transport r.bus.silence
    simp only [Transport.readTransfer, hreading, if_true, hsilence, hresumed]
    exact ⟨trivial, fun q => ⟨rfl, rfl, hsilence, d, d', hd, hd', hfilter⟩⟩
  | false =>
    obtain ⟨hresult, hclosed, hleft⟩ :=
      Receiving.run_filter len r.bus.silence r.transport.closed d.transfers
    simp only [Transport.readTransfer, hreading, Bool.false_eq_true, if_false, hd, hd', hfilter, hsilence,
      hresult, hclosed]
    refine ⟨trivial, fun q => ⟨rfl, rfl, hsilence, { d with transfers := _ }, { d' with transfers := _ },
      ?_, ?_, hleft⟩⟩
    · have href := Bus.ref_of_device? hd
      rw [← href] at hd ⊢
      exact Bus.device?_put_self (d := d) (by rwa [Bus.device?_noteAll])
    · have href := Bus.ref_of_device? hd'
      rw [← href] at hd' ⊢
      exact Bus.device?_put_self (d := d') (by rwa [Bus.device?_noteAll])

lemma Thinned.read (h : r.Thinned r') (n : Nat) :
    (r'.read n).1 = (r.read n).1 ∧ (r.read n).2.Thinned (r'.read n).2 := by
  rw [LinkReader.read, LinkReader.read, h.queue]
  by_cases hn : n = 0
  · subst hn
    rw [BulkQueue.readOver_zero, BulkQueue.readOver_zero]
    exact ⟨rfl, rfl, h.transport, h.silence, h.device⟩
  by_cases hleft : r.queue.left = []
  · have htransfer := h.transfer r.queue.chunkLen
    obtain ⟨⟨c, left⟩, t, b⟩ := r
    obtain rfl : left = [] := hleft
    rw [BulkQueue.readOver_nil _ _ hn, BulkQueue.readOver_nil _ _ hn]
    simp only at htransfer ⊢
    generalize t.readTransfer c b = went at htransfer ⊢
    generalize r'.transport.readTransfer c r'.bus = went' at htransfer ⊢
    obtain ⟨hgot, hthinned⟩ := htransfer
    rw [hgot]
    exact ⟨rfl, hthinned _⟩
  · rw [BulkQueue.readOver_of_ne_nil _ _ hn hleft, BulkQueue.readOver_of_ne_nil _ _ hn hleft]
    exact ⟨rfl, rfl, h.transport, h.silence, h.device⟩

lemma Thinned.askAll (h : r.Thinned r') (requests : List Request) :
    (LinkReader.askAll requests r').1 = (LinkReader.askAll requests r).1 := by
  induction requests generalizing r r' with
  | nil => rfl
  | cons request requests ih =>
    have hask : (r'.ask request).1 = (r.ask request).1 ∧ (r.ask request).2.Thinned (r'.ask request).2 := by
      cases request with
      | read n => exact h.read n
      | close => exact ⟨rfl, h.queue, congrArg Transport.close h.transport, h.silence, h.device⟩
    exact congrArg₂ List.cons hask.1 (ih hask.2)

end

/-! ### Sessions of a reader -/

/-- Whatever a reader and its link are asked for, the bytes handed out and those left in the queue are the
bytes of the transfers taken so far, in order, and the next read takes from there: it yields no bytes only
on a closed link and fails only as a transfer does, both with nothing left. Every transfer has room for a
whole packet, and without the idle transfers all reads have the outcomes that they have with them. -/
theorem reader_hands_out_the_transfers {t : Transport} {b : Bus} {d : BusDevice}
    (hd : b.device? t.session.ref = some d) (hlen : 1 ≤ t.ncm.readChunkLen)
    (hfits : ∀ o ∈ d.transfers, o.Fits t.ncm.readChunkLen) (requests : List Request) :
    let answers := (askAll requests (ofLink t b)).1
    let r := (askAll requests (ofLink t b)).2
    (∃ past d', r.bus.device? t.session.ref = some d' ∧ d.transfers = past ++ d'.transfers ∧
      handedOut answers ++ r.queue.left = transferred past) ∧
      (∀ n, ∃ past, r.Goes past (yielded (r.read n).1) (r.read n).2 ∧
        r.Answers n past (r.read n).1 (r.read n).2) ∧
      (∃ k, r.bus.calls = List.replicate k (b.party, t.session.ref,
        .bulkIn t.ncm.bulkIn.address t.ncm.readChunkLen t.timeout) ++ b.calls) ∧
      ∀ b' d', b'.silence = b.silence → b'.device? t.session.ref = some d' →
        (d'.transfers = d.transfers.filter fun o => ¬o.Idle) →
          (askAll requests (ofLink t b')).1 = answers := by
  intro answers r
  have hchunk : (ofLink t b).queue.chunkLen = t.ncm.readChunkLen := Nat.max_eq_left hlen
  have hfits' : ∀ o ∈ d.transfers, o.Fits (ofLink t b).queue.chunkLen := hchunk ▸ hfits
  obtain ⟨past, hgoes⟩ := exists_goes_askAll (r := ofLink t b) hd hfits' requests
  obtain ⟨d', hd', hsplit⟩ := hgoes.device d hd
  refine ⟨⟨past, d', hd', hsplit, ?_⟩, ?_, ?_, ?_⟩
  · exact hgoes.taken.symm
  · intro n
    have href : r.bus.device? r.transport.session.ref = some d' := by
      rw [hgoes.session]
      exact hd'
    refine exists_goes_read href (fun o ho => ?_) n
    rw [hgoes.chunkLen]
    exact hfits' o (hsplit ▸ List.mem_append_right past ho)
  · obtain ⟨k, hcalls⟩ := hgoes.calls
    rw [hchunk] at hcalls
    exact ⟨k, hcalls⟩
  · intro b' d' hsilence hd' hfilter
    have hthinned : (ofLink t b).Thinned (ofLink t b') := ⟨rfl, rfl, hsilence, d, d', hd, hd', hfilter⟩
    exact hthinned.askAll requests

/-- A link whose packets have at most four bytes. -/
def narrowLink : Transport :=
  { session := { ref := ⟨1, 2, 0⟩, descriptor := ⟨0x05ac, 0x12a8, 5⟩ }
    ncm := ⟨5, 1, ⟨134, .input, true, 4⟩, ⟨5, .output, true, 4⟩⟩
    serial := "S1"
    timeout := 500 }

/-- A device with transfers of every kind; during the last but one the link is closed. -/
def narrowDevice : BusDevice :=
  { ref := ⟨1, 2, 0⟩
    descriptor := ⟨0x05ac, 0x12a8, 5⟩
    serial := "S1"
    active := 5
    kernelDriver := false
    controlLen := 255
    configurations := []
    refuses := fun _ => none
    transfers := [⟨.ok [1, 2, 3], false⟩, ⟨.error .timeout, false⟩, ⟨.ok [], false⟩, ⟨.ok [4, 5], false⟩,
      ⟨.error .pipe, false⟩, ⟨.ok [6, 7, 8, 9], false⟩, ⟨.error .timeout, true⟩, ⟨.ok [10], false⟩]
    packets := [] }

/-- The bus of the device. -/
def narrowBus : Bus := { attached := [⟨1, 2, 0⟩], devices := [narrowDevice] }

/-- Buffers shorter and longer than what is left, and one of no bytes. -/
def narrowReads : List Request :=
  [.read 2, .read 0, .read 5, .read 3, .read 9, .read 1, .read 2, .read 9, .read 4]

/-- A failure and a close between the reads of nine bytes lose none of them. -/
theorem reader_hands_out_nine_bytes :
    narrowBus.device? narrowLink.session.ref = some narrowDevice ∧ 1 ≤ narrowLink.ncm.readChunkLen ∧
      (∀ o ∈ narrowDevice.transfers, o.Fits narrowLink.ncm.readChunkLen) ∧
      (askAll narrowReads (ofLink narrowLink narrowBus)).1 =
        [some (.ok [1, 2]), some (.ok []), some (.ok [3]), some (.ok [4, 5]),
          some (.error ⟨.other, "Pipe error"⟩), some (.ok [6]), some (.ok [7, 8]), some (.ok [9]),
          some (.ok [])] ∧
      ∃ past d', (askAll narrowReads (ofLink narrowLink narrowBus)).2.bus.device?
          narrowLink.session.ref = some d' ∧
        narrowDevice.transfers = past ++ d'.transfers ∧
        handedOut (askAll narrowReads (ofLink narrowLink narrowBus)).1 ++
          (askAll narrowReads (ofLink narrowLink narrowBus)).2.queue.left = transferred past := by
  have hdevice : narrowBus.device? narrowLink.session.ref = some narrowDevice := rfl
  have hfits : ∀ o ∈ narrowDevice.transfers, o.Fits narrowLink.ncm.readChunkLen := by decide
  refine ⟨hdevice, by decide, hfits, by decide +kernel, ?_⟩
  exact (reader_hands_out_the_transfers hdevice (by decide) hfits narrowReads).1

end LinkReader

end NcmBridge
