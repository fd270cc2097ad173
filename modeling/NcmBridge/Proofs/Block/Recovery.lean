import NcmBridge.Proofs.Block.Framing

/-!
# Finding the next block after bytes that belong to none

Where a signature should stand and none does, the reader keeps the four bytes that it took and goes on
from them one byte at a time. So it finds the next block whatever the bytes before it are, parts of a
signature included, if no signature begins among them and there are no more of them than a search goes
on for.
-/

namespace NcmBridge

/-! ### Stretches of a stream -/

/-- Bytes of a stream that belong to no block, and the block that comes after them. -/
structure Stretch where
  gap : Octets
  block : Octets

namespace Stretch

/-- The bytes of a stretch as they stand in the stream. -/
def bytes (s : Stretch) : Octets := s.gap ++ s.block

/-- The block can be found. A signature that began in the gap would end inside the block, so what comes
after the stretch is of no account. -/
structure Clear (s : Stretch) : Prop where
  framed : Framed s.block
  short : s.gap.length ≤ BlockReader.defaultResyncLimit
  /-- No signature begins in the gap. -/
  silent : ∀ k < s.gap.length, ¬Reading.signatureOctets <+: s.bytes.drop k

lemma Clear.bytes_pos {s : Stretch} (h : s.Clear) : 0 < s.bytes.length := by
  have hlen := h.framed.twelve_le
  rw [bytes, List.length_append]
  omega

end Stretch

/-! ### The search -/

/-- Where no signature begins, the next four bytes are none. -/
lemma take_ne_of_silent {bytes : Octets} (h : ¬Reading.signatureOctets <+: bytes) :
    bytes.take 4 ≠ Reading.signatureOctets := by
  intro heq
  exact h (heq ▸ List.take_prefix 4 bytes)

namespace BulkQueue

variable {c : Nat} {a b : Octets} {r : Reading}

lemma length_lt_of_feed_eq_done {q : BulkQueue} {reader : BlockReader} {result : BlockResult}
    (h : (mk c a).feed r = (q, .done reader result)) : q.left.length < a.length := by
  induction hlen : a.length using Nat.strong_induction_on generalizing a r with
  | _ n ih =>
    by_cases ha : a = []
    · subst ha
      rw [feed_nil] at h
      cases h
    · have hpos : 0 < a.length := List.length_pos_iff.2 ha
      have hwant := r.want_pos
      rw [feed_of_ne_nil ha] at h
      split at h
      · have hlt := ih _ (by rw [List.length_drop]; omega) h rfl
        rw [List.length_drop] at hlt
        omega
      · cases h
        simp only [List.length_drop]
        omega

/-- The search takes one byte: the first byte of the window makes room for it. -/
lemma feed_scanning {scanned limit : Nat} (first : UInt8) (ha : 4 ≤ a.length) :
    (mk c (a.drop 3 ++ b)).feed ⟨first :: a.take 3, .scanning scanned limit⟩ =
      match Reading.scan (a.take 4) (scanned + 1) limit with
      | .more r => (mk c (a.drop 4 ++ b)).feed r
      | .done reader result => (mk c (a.drop 4 ++ b), .done reader result) := by
  have hwant : Reading.want ⟨first :: a.take 3, .scanning scanned limit⟩ = 1 := rfl
  have hdrop : 1 ≤ (a.drop 3).length := by
    rw [List.length_drop]
    omega
  have hwindow : a.take 3 ++ ((a.drop 3).take 1).take 1 = a.take 4 := by
    rw [List.take_take, Nat.min_self, ← List.take_add]
  have hrest : (a.drop 3).drop 1 = a.drop 4 := List.drop_drop
  have htakes : Reading.takeBytes ⟨first :: a.take 3, .scanning scanned limit⟩ ((a.drop 3).take 1) =
      Reading.scan (a.take 4) (scanned + 1) limit :=
    congrArg (fun window => Reading.scan window (scanned + 1) limit) hwindow
  have hfeed := feed_of_want_le (c := c) (a := a.drop 3 ++ b)
    (r := ⟨first :: a.take 3, .scanning scanned limit⟩) (by rw [hwant, List.length_append]; omega)
  rw [hwant, List.take_append_of_le_length hdrop, List.drop_append_of_le_length hdrop, hrest,
    htakes] at hfeed
  exact hfeed

/-- A read that meets four other bytes where a signature should be keeps them. -/
lemma feed_next_of_take_ne {reader : BlockReader} (ha : 4 ≤ a.length)
    (hne : a.take 4 ≠ Reading.signatureOctets) :
    (mk c (a ++ b)).feed reader.next =
      (mk c (a.drop 4 ++ b),
        .done ⟨a.take 4⟩ (.error (.invalidSignature (Reading.word (a.take 4))))) := by
  have hwant : Reading.want reader.next = 4 := rfl
  have hadd : Field.signature.add (a.take 4) = .inr (a.take 4) :=
    Field.add_of_length_eq (List.length_take_of_le ha)
  rw [feed_of_want_le (by rw [hwant, List.length_append]; omega), hwant,
    List.take_append_of_le_length ha, List.drop_append_of_le_length ha]
  simp only [BlockReader.next, Reading.takeBytes, hadd, if_neg hne]

end BulkQueue

namespace Framed

variable {block : Octets}

/-- The search finds the block when the signature has moved into the window. -/
lemma feed_search (h : Framed block) (c : Nat) (rest : Octets) {gap : Octets} (first : UInt8)
    {scanned limit : Nat} (hlimit : scanned + gap.length < limit)
    (hsilent : ∀ k < gap.length, ¬Reading.signatureOctets <+: (gap ++ block).drop k) :
    (BulkQueue.mk c ((gap ++ block).drop 3 ++ rest)).feed
        ⟨first :: (gap ++ block).take 3, .scanning scanned limit⟩ =
      (BulkQueue.mk c rest, .done {} (.ok (some block))) := by
  have hlen := h.twelve_le
  induction gap generalizing first scanned with
  | nil =>
    rw [List.nil_append, BulkQueue.feed_scanning first (by omega), h.take_four, Reading.scan,
      if_pos rfl]
    exact h.feed_after_signature c rest _
  | cons second gap ih =>
    rw [List.length_cons] at hlimit hsilent
    have hwindow : (second :: gap ++ block).take 4 ≠ Reading.signatureOctets :=
      take_ne_of_silent (hsilent 0 (Nat.zero_lt_succ _))
    have hlong : 4 ≤ (second :: gap ++ block).length := by
      rw [List.length_append]
      omega
    rw [BulkQueue.feed_scanning first hlong, Reading.scan, if_neg hwindow, if_neg (by omega)]
    refine ih second (by omega) ?_
    intro k hk
    exact hsilent (k + 1) (Nat.succ_lt_succ hk)

end Framed

/-! ### Reads that find a block -/

/-- A read over `bytes` finds `block` and keeps `rest`. A read that has not been searching may first meet
another signature, if it may search then. -/
inductive Finds (c : Nat) (resync : Bool) (block rest : Octets) : Bool → Reading → Octets → Prop
  | reads {searching : Bool} {reading : Reading} {bytes : Octets} (reader : BlockReader) :
      (BulkQueue.mk c bytes).feed reading = (BulkQueue.mk c rest, .done reader (.ok (some block))) →
      Finds c resync block rest searching reading bytes
  | searches {reading reading' : Reading} {bytes bytes' : Octets} {found : UInt32}
      (reader reader' : BlockReader) : resync = true →
      (BulkQueue.mk c bytes).feed reading =
        (BulkQueue.mk c bytes', .done reader (.error (.invalidSignature found))) →
      reader.resync BlockReader.defaultResyncLimit = .more reading' →
      (BulkQueue.mk c bytes').feed reading' =
        (BulkQueue.mk c rest, .done reader' (.ok (some block))) →
      Finds c resync block rest false reading bytes

namespace Stretch

/-- The next read finds the block of a stretch that the stream goes on with. -/
lemma Clear.finds {s : Stretch} (h : s.Clear) (c : Nat) {resync : Bool}
    (hresync : s.gap = [] ∨ resync = true) (rest : Octets) (reader : BlockReader) :
    Finds c resync s.block rest false reader.next (s.bytes ++ rest) := by
  obtain ⟨gap, block⟩ := s
  obtain ⟨hframed, hshort, hsilent⟩ := h
  have hlen := hframed.twelve_le
  simp only [bytes] at *
  cases gap with
  | nil => exact .reads reader (hframed.feed_next c rest reader)
  | cons first gap =>
    rw [List.length_cons] at hshort hsilent
    have hlong : 4 ≤ (first :: gap ++ block).length := by
      rw [List.length_append]
      omega
    have hwindow : (first :: gap ++ block).take 4 ≠ Reading.signatureOctets :=
      take_ne_of_silent (hsilent 0 (Nat.zero_lt_succ _))
    have hmore : BlockReader.resync ⟨(first :: gap ++ block).take 4⟩ BlockReader.defaultResyncLimit =
        .more ⟨(first :: gap ++ block).take 4, .scanning 0 BlockReader.defaultResyncLimit⟩ := by
      rw [BlockReader.resync, Reading.scan, if_neg hwindow, if_neg (by decide)]
    refine .searches _ {} (hresync.resolve_left (List.cons_ne_nil first gap))
      (BulkQueue.feed_next_of_take_ne hlong hwindow) hmore (hframed.feed_search c rest first ?_ ?_)
    · omega
    · intro k hk
      exact hsilent (k + 1) (Nat.succ_lt_succ hk)

end Stretch

namespace Finds

variable {c : Nat} {resync searching : Bool} {block rest left later : Octets} {reading : Reading}

lemma rest_lt {bytes : Octets} (h : Finds c resync block rest searching reading bytes) :
    rest.length < bytes.length := by
  cases h with
  | reads reader hfeed => exact BulkQueue.length_lt_of_feed_eq_done hfeed
  | searches reader reader' _ hfeed _ hfeed' =>
    exact (BulkQueue.length_lt_of_feed_eq_done hfeed').trans (BulkQueue.length_lt_of_feed_eq_done hfeed)

/-- The read takes the first bytes: it waits for more, or finds the block, or begins to search. -/
lemma feed (h : Finds c resync block rest searching reading (left ++ later)) :
    (∃ reading', (BulkQueue.mk c left).feed reading = (BulkQueue.mk c [], .more reading') ∧
        Finds c resync block rest searching reading' later) ∨
      (∃ left' reader, (BulkQueue.mk c left).feed reading =
          (BulkQueue.mk c left', .done reader (.ok (some block))) ∧ left' ++ later = rest) ∨
      ∃ left' reader found reading', searching = false ∧ resync = true ∧
        (BulkQueue.mk c left).feed reading =
          (BulkQueue.mk c left', .done reader (.error (.invalidSignature found))) ∧
        reader.resync BlockReader.defaultResyncLimit = .more reading' ∧
        Finds c resync block rest true reading' (left' ++ later) := by
  cases hstep : (BulkQueue.mk c left).feed reading with
  | mk q step =>
    obtain ⟨rfl, hleft⟩ := BulkQueue.of_feed_eq hstep
    obtain ⟨_, left'⟩ := q
    cases step with
    | more reading' =>
      obtain rfl : left' = [] := hleft _ rfl
      refine .inl ⟨reading', rfl, ?_⟩
      cases h with
      | reads reader hfeed =>
        rw [BulkQueue.feed_append, hstep] at hfeed
        exact .reads reader hfeed
      | searches reader reader' hresync hfeed hmore hfeed' =>
        rw [BulkQueue.feed_append, hstep] at hfeed
        exact .searches reader reader' hresync hfeed hmore hfeed'
    | done reader' result =>
      refine .inr ?_
      cases h with
      | reads _ hfeed =>
        rw [BulkQueue.feed_append, hstep] at hfeed
        cases hfeed
        exact .inl ⟨left', reader', rfl, rfl⟩
      | searches _ reader'' hresync hfeed hmore hfeed' =>
        rw [BulkQueue.feed_append, hstep] at hfeed
        cases hfeed
        exact .inr ⟨left', reader', _, _, rfl, hresync, rfl, hmore, .reads reader'' hfeed'⟩

end Finds

end NcmBridge
