import NcmBridge.Proofs.Block.Framing

/-!
# What a reader meets, byte by byte

How a stream cuts its bytes into reads, and which reads are interrupted on the way, is of no account for a
reader. What is left of the stream then is a list of what comes in: bytes, ends of the stream that last for
one read, and failures. `Reading.over` carries a read on over such a list, one byte at a time. A read over
a stream, and a read over a queue that the stream fills, do the same.
-/

namespace NcmBridge

/-- What comes in from a stream. -/
inductive Incoming
  | byte (b : UInt8)
  /-- The stream has ended for one read. -/
  | pause
  | fault (fault : IoFault)
  deriving DecidableEq, Repr

namespace Incoming

/-- The bytes among what comes in. -/
def bytes (ins : List Incoming) : Octets :=
  ins.filterMap fun
    | .byte b => some b
    | _ => none

@[simp] lemma bytes_nil : bytes [] = [] := rfl

@[simp] lemma bytes_append (ins later : List Incoming) : bytes (ins ++ later) = bytes ins ++ bytes later :=
  List.filterMap_append

@[simp] lemma bytes_cons_byte (b : UInt8) (ins : List Incoming) : bytes (.byte b :: ins) = b :: bytes ins :=
  rfl

@[simp] lemma bytes_cons_pause (ins : List Incoming) : bytes (.pause :: ins) = bytes ins := rfl

@[simp] lemma bytes_cons_fault (fault : IoFault) (ins : List Incoming) :
    bytes (.fault fault :: ins) = bytes ins := rfl

@[simp] lemma bytes_map_byte (a : Octets) : bytes (a.map .byte) = a := by
  induction a with
  | nil => rfl
  | cons b a ih => rw [List.map_cons, bytes_cons_byte, ih]

/-- What comes in with one item of a stream. -/
def ofItem : IoResult Octets → List Incoming
  | .ok [] => [.pause]
  | .ok (b :: bytes) => (b :: bytes).map .byte
  | .error f => if f.kind = .interrupted then [] else [.fault f]

lemma ofItem_ok {a : Octets} (h : a ≠ []) : ofItem (.ok a) = a.map .byte := by
  cases a with
  | nil => exact absurd rfl h
  | cons b a => rfl

/-- A read of at most `n` bytes meets the first of what comes in, or is interrupted. -/
inductive Meets (n : Nat) : List Incoming → IoResult Octets → List Incoming → Prop
  | ended : Meets n [] (.ok []) []
  | pause (rest : List Incoming) : Meets n (.pause :: rest) (.ok []) rest
  | bytes {chunk : Octets} (rest : List Incoming) : chunk ≠ [] → chunk.length ≤ n →
      Meets n (chunk.map .byte ++ rest) (.ok chunk) rest
  | interrupted {f : IoFault} (rest : List Incoming) : f.kind = .interrupted → Meets n rest (.error f) rest
  | fault {f : IoFault} (rest : List Incoming) : f.kind ≠ .interrupted →
      Meets n (.fault f :: rest) (.error f) rest

end Incoming

/-! ### Streams -/

namespace Stream

/-- What comes in from a stream. -/
def incoming (s : Stream) : List Incoming := s.items.flatMap Incoming.ofItem

/-- The bytes of a stream. -/
def bytes (s : Stream) : Octets := Incoming.bytes s.incoming

/-- A read that meets bytes yields some of them. -/
def Yields (s : Stream) : Prop := s.maxRead ≠ some 0

instance (s : Stream) : Decidable s.Yields := inferInstanceAs (Decidable (_ ≠ _))

@[simp] lemma remaining_cons_ok (a : Octets) (rest : List (IoResult Octets)) (m : Option Nat) :
    remaining ⟨.ok a :: rest, m⟩ = a.length + remaining ⟨rest, m⟩ := rfl

@[simp] lemma remaining_cons_error (f : IoFault) (rest : List (IoResult Octets)) (m : Option Nat) :
    remaining ⟨.error f :: rest, m⟩ = remaining ⟨rest, m⟩ := rfl

/-- What is left of a stream is counted by its bytes. -/
lemma remaining_eq_length_bytes (s : Stream) : s.remaining = s.bytes.length := by
  obtain ⟨items, m⟩ := s
  induction items with
  | nil => rfl
  | cons item rest ih =>
    have hbytes : bytes ⟨item :: rest, m⟩ = Incoming.bytes (Incoming.ofItem item) ++ bytes ⟨rest, m⟩ := by
      simp [bytes, incoming]
    rw [hbytes, List.length_append, ← ih]
    match item with
    | .ok [] => simp [Incoming.ofItem]
    | .ok (b :: a) => rw [Incoming.ofItem_ok (List.cons_ne_nil b a), Incoming.bytes_map_byte, remaining_cons_ok]
    | .error f =>
      have hnone : Incoming.bytes (Incoming.ofItem (.error f)) = [] := by
        rw [Incoming.ofItem]
        split <;> rfl
      rw [hnone, remaining_cons_error, List.length_nil, Nat.zero_add]

/-- How many bytes a read takes of an item at most. -/
def share (s : Stream) (n : Nat) : Nat :=
  match s.maxRead with
  | some m => min n m
  | none => n

lemma share_pos {s : Stream} (hs : s.Yields) {n : Nat} (hn : 0 < n) : 0 < s.share n := by
  obtain ⟨items, _ | m⟩ := s
  · exact hn
  · have hm : m ≠ 0 := fun h => hs (congrArg some h)
    exact Nat.lt_min.2 ⟨hn, Nat.pos_of_ne_zero hm⟩

lemma share_le (s : Stream) (n : Nat) : s.share n ≤ n := by
  obtain ⟨items, _ | m⟩ := s
  · exact Nat.le_refl n
  · exact Nat.min_le_left n m

lemma read_ok (a : Octets) (rest : List (IoResult Octets)) (m : Option Nat) (n : Nat) :
    read ⟨.ok a :: rest, m⟩ n =
      match a.drop (share ⟨.ok a :: rest, m⟩ n) with
      | [] => (.ok a, ⟨rest, m⟩)
      | b :: left => (.ok (a.take (share ⟨.ok a :: rest, m⟩ n)), ⟨.ok (b :: left) :: rest, m⟩) := by
  cases m with
  | none =>
    simp only [read, share]
    cases a.drop n <;> rfl
  | some m =>
    simp only [read, share]
    cases a.drop (min n m) <;> rfl

lemma read_ok_of_le {a : Octets} {rest : List (IoResult Octets)} {m : Option Nat} {n : Nat}
    (h : a.length ≤ share ⟨.ok a :: rest, m⟩ n) : read ⟨.ok a :: rest, m⟩ n = (.ok a, ⟨rest, m⟩) := by
  rw [read_ok, List.drop_of_length_le h]

lemma read_ok_of_lt {a : Octets} {rest : List (IoResult Octets)} {m : Option Nat} {n : Nat}
    (h : share ⟨.ok a :: rest, m⟩ n < a.length) :
    read ⟨.ok a :: rest, m⟩ n =
      (.ok (a.take (share ⟨.ok a :: rest, m⟩ n)),
        ⟨.ok (a.drop (share ⟨.ok a :: rest, m⟩ n)) :: rest, m⟩) := by
  rw [read_ok]
  cases hdrop : a.drop (share ⟨.ok a :: rest, m⟩ n) with
  | nil => exact absurd (List.drop_eq_nil_iff.1 hdrop) (Nat.not_le.2 h)
  | cons b left => rfl

/-- A read yields what comes in first, and leaves the rest; when it does not end the stream it leaves less
than there was. -/
lemma read_meets {s : Stream} (hs : s.Yields) {n : Nat} (hn : 0 < n) :
    Incoming.Meets n s.incoming (s.read n).1 (s.read n).2.incoming ∧ (s.read n).2.Yields ∧
      ((s.read n).1 ≠ .ok [] → (s.read n).2.size < s.size) := by
  have hshare := share_pos hs hn
  have hle := s.share_le n
  obtain ⟨items, m⟩ := s
  match items with
  | [] => exact ⟨.ended, hs, fun h => absurd rfl h⟩
  | .error f :: rest =>
    have hincoming : incoming ⟨.error f :: rest, m⟩ = Incoming.ofItem (.error f) ++ incoming ⟨rest, m⟩ := rfl
    refine ⟨?_, hs, fun _ => ?_⟩
    · rw [hincoming, Incoming.ofItem]
      by_cases hf : f.kind = .interrupted
      · rw [if_pos hf]
        exact .interrupted _ hf
      · rw [if_neg hf]
        exact .fault _ hf
    · simp [read, size]
  | .ok [] :: rest =>
    rw [read_ok_of_le (Nat.zero_le _)]
    exact ⟨.pause _, hs, fun h => absurd rfl h⟩
  | .ok (b :: a) :: rest =>
    have hincoming : ∀ c : Octets, c ≠ [] →
        incoming ⟨.ok c :: rest, m⟩ = c.map .byte ++ incoming ⟨rest, m⟩ := by
      intro c hc
      rw [← Incoming.ofItem_ok hc]
      rfl
    have hne : b :: a ≠ [] := List.cons_ne_nil b a
    rw [hincoming _ hne]
    by_cases hlen : (b :: a).length ≤ share ⟨.ok (b :: a) :: rest, m⟩ n
    · rw [read_ok_of_le hlen]
      refine ⟨.bytes _ hne (hlen.trans hle), hs, fun _ => ?_⟩
      simp only [size, remaining_cons_ok, List.length_cons]
      omega
    · have hlt := Nat.lt_of_not_le hlen
      rw [read_ok_of_lt hlt]
      generalize share ⟨.ok (b :: a) :: rest, m⟩ n = k at *
      have hleft : (b :: a).drop k ≠ [] := by
        rw [ne_eq, List.drop_eq_nil_iff]
        exact hlen
      have htake : ((b :: a).take k).length = k := List.length_take_of_le hlt.le
      refine ⟨?_, hs, fun _ => ?_⟩
      · rw [hincoming _ hleft, ← List.take_append_drop k (b :: a), List.map_append, List.append_assoc,
          List.take_append_drop]
        exact .bytes _ (List.ne_nil_of_length_pos (htake.symm ▸ hshare)) (htake.trans_le hle)
      · simp only [size, remaining_cons_ok, List.length_drop, List.length_cons]
        simp only [List.length_cons] at hlt
        omega

end Stream

/-! ### Reads over what comes in -/

/-- Carries a read on over what comes in: its reader, its result, and what is left. -/
def Reading.over : Reading → List Incoming → BlockReader × BlockResult × List Incoming
  | r, [] => (⟨r.window⟩, r.atEnd, [])
  | r, .pause :: rest => (⟨r.window⟩, r.atEnd, rest)
  | r, .fault f :: rest => (⟨r.window⟩, .error (.io f), rest)
  | r, .byte b :: rest =>
    match r.takeBytes [b] with
    | .more r' => r'.over rest
    | .done reader result => (reader, result, rest)

/-- Carries a step of a read on over what comes in. -/
def ReadStep.over : ReadStep → List Incoming → BlockReader × BlockResult × List Incoming
  | .more r, ins => r.over ins
  | .done reader result, ins => (reader, result, ins)

namespace Reading

variable {c : Nat} {chunk : Octets} {ins rest : List Incoming} {r : Reading}

lemma over_cons_byte (r : Reading) (b : UInt8) (rest : List Incoming) :
    r.over (.byte b :: rest) = (r.takeBytes [b]).over rest := by
  rw [Reading.over]
  cases r.takeBytes [b] <;> rfl

/-- A read that is given no more than it wants takes it at once. -/
lemma feed_chunk (hne : chunk ≠ []) (hle : chunk.length ≤ r.want) :
    (BulkQueue.mk c chunk).feed r = (BulkQueue.mk c [], r.takeBytes chunk) := by
  rw [BulkQueue.feed_of_ne_nil hne, List.take_of_length_le hle, List.drop_of_length_le hle]
  cases r.takeBytes chunk with
  | more r' => exact BulkQueue.feed_nil
  | done reader result => rfl

/-- Bytes that a read is fed are bytes that come in one by one. -/
lemma over_feed (c : Nat) (a : Octets) (rest : List Incoming) (r : Reading) :
    r.over (a.map .byte ++ rest) =
      ((BulkQueue.mk c a).feed r).2.over (((BulkQueue.mk c a).feed r).1.left.map .byte ++ rest) := by
  induction a generalizing r with
  | nil =>
    rw [BulkQueue.feed_nil]
    rfl
  | cons b a ih =>
    have hfirst : b :: a = [b] ++ a := rfl
    rw [List.map_cons, List.cons_append, over_cons_byte, hfirst, BulkQueue.feed_append,
      feed_chunk (List.cons_ne_nil b []) r.want_pos]
    cases r.takeBytes [b] with
    | more r' => exact ih r'
    | done reader result => rfl

lemma over_chunk (hne : chunk ≠ []) (hle : chunk.length ≤ r.want) :
    r.over (chunk.map .byte ++ rest) = (r.takeBytes chunk).over rest := by
  rw [over_feed 0 chunk, feed_chunk hne hle]
  rfl

lemma receive_ok (hne : chunk ≠ []) : r.receive (.ok chunk) = r.takeBytes chunk := by
  cases chunk with
  | nil => exact absurd rfl hne
  | cons b chunk => rfl

/-- One read of a stream carries a read of a block on over what that read meets. -/
lemma over_of_meets {got : IoResult Octets} (h : Incoming.Meets r.want ins got rest) :
    r.over ins = (r.receive got).over rest := by
  cases h with
  | ended => rfl
  | pause => rfl
  | bytes _ hne hle => rw [over_chunk hne hle, receive_ok hne]
  | interrupted _ hf =>
    rw [receive, if_pos hf]
    rfl
  | fault _ hf =>
    rw [receive, if_neg hf]
    rfl

end Reading

namespace Stream

/-- A read of a block does over a stream what it does over what comes in from it. -/
lemma over_runWith {fuel : Nat} {r : Reading} {s : Stream} (hs : s.Yields) (hfuel : s.size < fuel) :
    ∃ reader result s', runWith fuel r s = (reader, result, s') ∧
      r.over s.incoming = (reader, result, s'.incoming) ∧ s'.Yields := by
  induction fuel generalizing r s with
  | zero => exact absurd hfuel (Nat.not_lt_zero _)
  | succ fuel ih =>
    obtain ⟨hmeets, hs', hless⟩ := read_meets hs r.want_pos
    rw [runWith, Reading.over_of_meets hmeets]
    simp only
    cases hstep : r.receive (s.read r.want).1 with
    | done reader result => exact ⟨reader, result, _, rfl, rfl, hs'⟩
    | more r' =>
      have hgoes : (s.read r.want).1 ≠ .ok [] := by
        intro hend
        rw [hend] at hstep
        cases hstep
      exact ih hs' ((hless hgoes).trans_le (Nat.le_of_lt_succ hfuel))

lemma over_run {s : Stream} (hs : s.Yields) (step : ReadStep) :
    ∃ reader result s', s.run step = (reader, result, s') ∧
      step.over s.incoming = (reader, result, s'.incoming) ∧ s'.Yields := by
  cases step with
  | done reader result => exact ⟨reader, result, s, rfl, rfl, hs⟩
  | more r => exact over_runWith hs (Nat.lt_succ_self _)

end Stream

/-! ### Queues over a stream -/

namespace BulkQueue

/-- What comes in from a queue that a stream fills: what is left of the last transfer, and then the
stream. -/
def incoming (q : BulkQueue) (s : Stream) : List Incoming := q.left.map .byte ++ s.incoming

/-- A read of a block does over a queue what it does over what comes in from it. -/
lemma over_runWith {fuel : Nat} {q : BulkQueue} {r : Reading} {s : Stream} (hs : s.Yields)
    (hc : 0 < q.chunkLen) (hfuel : s.size < fuel) :
    ∃ reader result q' s', runWith (fun n s => s.read n) fuel q r s = (reader, result, q', s') ∧
      r.over (q.incoming s) = (reader, result, q'.incoming s') ∧ s'.Yields ∧ 0 < q'.chunkLen := by
  induction fuel generalizing q r s with
  | zero => exact absurd hfuel (Nat.not_lt_zero _)
  | succ fuel ih =>
    obtain ⟨c, left⟩ := q
    rw [runWith, incoming, Reading.over_feed c left]
    cases hfeed : (mk c left).feed r with
    | mk q step =>
      obtain ⟨rfl, hleft⟩ := of_feed_eq hfeed
      obtain ⟨c, left'⟩ := q
      cases step with
      | done reader result => exact ⟨reader, result, _, s, rfl, rfl, hs, hc⟩
      | more r' =>
        obtain rfl : left' = [] := hleft r' rfl
        obtain ⟨hmeets, hs', hless⟩ := Stream.read_meets hs hc
        simp only [ReadStep.over, List.map_nil, List.nil_append]
        cases hread : s.read c with
        | mk got s' =>
          rw [hread] at hmeets hs' hless
          simp only at hmeets hs' hless ⊢
          generalize s.incoming = ins at hmeets
          generalize hrest : s'.incoming = rest at hmeets
          cases hmeets with
          | ended => exact ⟨_, _, mk c [], s', rfl, congrArg (_, _, ·) hrest.symm, hs', hc⟩
          | pause => exact ⟨_, _, mk c [], s', rfl, congrArg (_, _, ·) hrest.symm, hs', hc⟩
          | @bytes chunk _ hne hle =>
            obtain ⟨b, chunk, rfl⟩ := List.exists_cons_of_ne_nil hne
            rw [← hrest]
            exact ih (q := mk c (b :: chunk)) hs' hc ((hless (by simp)).trans_le (Nat.le_of_lt_succ hfuel))
          | @interrupted f _ hf =>
            have hmore : r'.receive (.error f) = .more r' := if_pos hf
            simp only [hmore, ← hrest]
            exact ih (q := mk c []) hs' hc ((hless (by simp)).trans_le (Nat.le_of_lt_succ hfuel))
          | @fault f _ hf =>
            have hdone : r'.receive (.error f) = .done ⟨r'.window⟩ (.error (.io f)) := if_neg hf
            simp only [hdone]
            exact ⟨_, _, mk c [], s', rfl, congrArg (_, _, ·) hrest.symm, hs', hc⟩

lemma over_run {q : BulkQueue} {s : Stream} (hs : s.Yields) (hc : 0 < q.chunkLen) (step : ReadStep) :
    ∃ reader result q' s', q.run (fun n s => s.read n) step s.size s = (reader, result, q', s') ∧
      step.over (q.incoming s) = (reader, result, q'.incoming s') ∧ s'.Yields ∧ 0 < q'.chunkLen := by
  cases step with
  | done reader result => exact ⟨reader, result, q, s, rfl, rfl, hs, hc⟩
  | more r => exact over_runWith hs hc (Nat.lt_add_of_pos_right (Nat.zero_lt_succ 1))

end BulkQueue

end NcmBridge
