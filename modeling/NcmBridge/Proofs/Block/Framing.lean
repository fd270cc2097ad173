import Mathlib.Data.List.Basic
import NcmBridge.Link.BulkQueue
import NcmBridge.Proofs.Block.Header

/-!
# Framing does not depend on how the bytes come

A read that is given some bytes and then more goes on as if they had come at once. So only the bytes
matter, not how transfers cut them, and a stream that goes on with a block yields that block and keeps
what comes after it.
-/

namespace NcmBridge

/-! ### Fields -/

namespace Field

variable {f : Field} {a : Octets}

/-- A field that is given too few bytes waits for the others. -/
lemma add_of_lt (h : a.length < f.missing) : ∃ f', f.add a = .inl f' ∧
    f'.missing = f.missing - a.length ∧ ∀ b, f'.add b = f.add (a ++ b) := by
  refine ⟨_, dif_pos h, rfl, ?_⟩
  intro b
  by_cases hb : b.length < f.missing - a.length
  · have hab : (a ++ b).length < f.missing := by
      rw [List.length_append]
      omega
    rw [add, dif_pos hb, add, dif_pos hab]
    congr 2
    · simp [List.reverseAux_eq]
    · rw [List.length_append, Nat.sub_sub]
  · have hab : ¬(a ++ b).length < f.missing := by
      rw [List.length_append]
      omega
    rw [add, dif_neg hb, add, dif_neg hab, List.take_append, List.take_of_length_le h.le]
    simp [got, List.reverseAux_eq]

/-- A field that is given bytes waits for fewer, or is complete. -/
lemma add_cases (f : Field) (a : Octets) :
    (∃ f', f.add a = .inl f' ∧ f'.got = f.got ++ a ∧
        f'.got.length + f'.missing = f.got.length + f.missing) ∨
      f.add a = .inr (f.got ++ a.take f.missing) ∧
        (f.got ++ a.take f.missing).length = f.got.length + f.missing := by
  by_cases h : a.length < f.missing
  · refine .inl ⟨_, dif_pos h, ?_, ?_⟩
    · simp [got, List.reverseAux_eq]
    · simp [got, List.reverseAux_eq]
      omega
  · refine .inr ⟨dif_neg h, ?_⟩
    rw [List.length_append, List.length_take_of_le (Nat.not_lt.1 h)]

/-- A field that is given all its bytes is complete. -/
lemma add_of_length_eq (h : a.length = f.missing) : f.add a = .inr (f.got ++ a) := by
  rw [add, dif_neg (by omega), List.take_of_length_le h.le]

end Field

/-! ### Reads -/

namespace Reading

/-- A read that is given fewer bytes than it wants waits for the others. -/
lemma takeBytes_of_lt {r : Reading} {a : Octets} (hne : a ≠ []) (h : a.length < r.want) :
    ∃ r', r.takeBytes a = .more r' ∧ r'.want = r.want - a.length ∧
      ∀ b, r'.takeBytes b = r.takeBytes (a ++ b) := by
  obtain ⟨window, stage⟩ := r
  cases stage with
  | signature field =>
    obtain ⟨field', hadd, hmissing, happend⟩ := Field.add_of_lt h
    refine ⟨⟨window, .signature field'⟩, ?_, hmissing, ?_⟩
    · simp only [takeBytes, hadd]
    · intro b
      simp only [takeBytes, happend]
  | scanning scanned limit =>
    have hlen : 0 < a.length := List.length_pos_iff.2 hne
    have hwant : a.length < 1 := h
    omega
  | header field =>
    obtain ⟨field', hadd, hmissing, happend⟩ := Field.add_of_lt h
    refine ⟨⟨window, .header field'⟩, ?_, hmissing, ?_⟩
    · simp only [takeBytes, hadd]
    · intro b
      simp only [takeBytes, happend]
  | body header field =>
    obtain ⟨field', hadd, hmissing, happend⟩ := Field.add_of_lt h
    refine ⟨⟨window, .body header field'⟩, ?_, hmissing, ?_⟩
    · simp only [takeBytes, hadd]
    · intro b
      simp only [takeBytes, happend]

lemma takeBytes_signature (window : Octets) :
    takeBytes ⟨window, .signature Field.signature⟩ signatureOctets =
      .more ⟨window, .header Field.headerRest⟩ := rfl

lemma takeBytes_header {window a : Octets} (h : a.length = 8) :
    takeBytes ⟨window, .header Field.headerRest⟩ a = afterHeader window (signatureOctets ++ a) := by
  have hadd : Field.headerRest.add a = .inr (Field.headerRest.got ++ a) := Field.add_of_length_eq h
  simp only [takeBytes, hadd]
  rfl

lemma takeBytes_body {window header a : Octets} {n : Nat} (hn : 0 < n) (h : a.length = n) :
    takeBytes ⟨window, .body header ⟨[], n, hn⟩⟩ a = .done ⟨window⟩ (.ok (some (header ++ a))) := by
  have hadd : (Field.mk [] n hn).add a = .inr ((Field.mk [] n hn).got ++ a) := Field.add_of_length_eq h
  simp only [takeBytes, hadd]
  rfl

end Reading

/-! ### Queues -/

namespace BulkQueue

variable {c : Nat} {a b : Octets} {r : Reading}

@[simp] lemma feed_nil : (mk c []).feed r = (mk c [], .more r) := by
  rw [feed]
  exact dif_pos rfl

/-- A queue that is not empty gives the read what it wants, or all it has. -/
lemma feed_of_ne_nil (ha : a ≠ []) : (mk c a).feed r =
    match r.takeBytes (a.take r.want) with
    | .more r' => (mk c (a.drop r.want)).feed r'
    | .done reader result => (mk c (a.drop r.want), .done reader result) := by
  rw [feed]
  exact dif_neg ha

/-- Feeding some bytes and then more is feeding them at once. -/
lemma feed_append (a : Octets) (r : Reading) : (mk c (a ++ b)).feed r =
    match (mk c a).feed r with
    | (_, .more r') => (mk c b).feed r'
    | (q, .done reader result) => (mk c (q.left ++ b), .done reader result) := by
  induction hlen : a.length using Nat.strong_induction_on generalizing a r with
  | _ n ih =>
    by_cases ha : a = []
    · subst ha
      rw [List.nil_append, feed_nil]
    · have hpos : 0 < a.length := List.length_pos_iff.2 ha
      have hwant := r.want_pos
      rw [feed_of_ne_nil ha, feed_of_ne_nil (List.append_ne_nil_of_left_ne_nil ha b)]
      by_cases hle : r.want ≤ a.length
      · -- the bytes to come do not reach the read yet
        rw [List.take_append_of_le_length hle, List.drop_append_of_le_length hle]
        cases r.takeBytes (a.take r.want) with
        | done reader result => rfl
        | more r' =>
          refine ih _ ?_ _ _ rfl
          rw [List.length_drop]
          omega
      · -- the read takes all that is there and waits for the bytes to come
        have hlt : a.length < r.want := Nat.lt_of_not_le hle
        obtain ⟨r', hmore, hwant', happend⟩ := Reading.takeBytes_of_lt ha hlt
        rw [List.take_of_length_le hlt.le, List.drop_of_length_le hlt.le, hmore]
        simp only [feed_nil]
        by_cases hb : b = []
        · subst hb
          rw [List.append_nil, List.take_of_length_le hlt.le, List.drop_of_length_le hlt.le, hmore]
        · rw [feed_of_ne_nil hb, List.take_append, List.take_of_length_le hlt.le, List.drop_append,
            List.drop_of_length_le hlt.le, List.nil_append, ← happend, hwant']

/-- Feeding keeps the bound for transfers, and a read that waits for more has taken all there was. -/
lemma of_feed_eq {q : BulkQueue} {step : ReadStep} (h : (mk c a).feed r = (q, step)) :
    q.chunkLen = c ∧ ∀ r', step = .more r' → q.left = [] := by
  induction hlen : a.length using Nat.strong_induction_on generalizing a r with
  | _ n ih =>
    by_cases ha : a = []
    · subst ha
      rw [feed_nil] at h
      cases h
      exact ⟨rfl, fun _ _ => rfl⟩
    · have hpos : 0 < a.length := List.length_pos_iff.2 ha
      have hwant := r.want_pos
      rw [feed_of_ne_nil ha] at h
      split at h
      · refine ih _ ?_ h rfl
        rw [List.length_drop]
        omega
      · cases h
        refine ⟨rfl, ?_⟩
        intro r' hmore
        cases hmore

/-- A read goes on once the bytes that it wants are there. -/
lemma feed_of_want_le (h : r.want ≤ a.length) : (mk c a).feed r =
    match r.takeBytes (a.take r.want) with
    | .more r' => (mk c (a.drop r.want)).feed r'
    | .done reader result => (mk c (a.drop r.want), .done reader result) :=
  feed_of_ne_nil (List.ne_nil_of_length_pos (r.want_pos.trans_le h))

end BulkQueue

/-! ### Blocks in a stream -/

namespace Framed

variable {c : Nat} {block : Octets}

/-- The signature comes first. -/
lemma take_four (h : Framed block) : block.take 4 = Reading.signatureOctets := by
  obtain ⟨header, ⟨body, rfl⟩, -⟩ := h
  rfl

/-- The header gives the rest of its block. -/
lemma afterHeader_take (h : Framed block) (window : Octets) :
    Reading.afterHeader window (block.take 12) =
      if hlt : 12 < block.length then
        .more ⟨window, .body (block.take 12) ⟨[], block.length - 12, Nat.sub_pos_of_lt hlt⟩⟩
      else .done ⟨window⟩ (.ok (some (block.take 12))) := by
  have hlen := h.twelve_le
  obtain ⟨header, hopens, hdeclares⟩ := h
  have htake : block.take 12 = header.encode := by
    rw [← TransferHeader.length_encode header]
    exact (List.prefix_iff_eq_take.1 hopens).symm
  have hparse : TransferHeader.parse (block.take 12) = .ok header := by
    rw [htake]
    exact TransferHeader.parse_eq_ok_iff.2 List.prefix_rfl
  rw [Reading.afterHeader, hparse]
  simp only [hdeclares]
  exact if_neg (Nat.not_lt.2 hlen)

lemma feed_header (h : Framed block) (window : Octets) :
    (BulkQueue.mk c (block.drop 4)).feed ⟨window, .header Field.headerRest⟩ =
      match Reading.afterHeader window (block.take 12) with
      | .more r => (BulkQueue.mk c (block.drop 12)).feed r
      | .done reader result => (BulkQueue.mk c (block.drop 12), .done reader result) := by
  have hlen := h.twelve_le
  have hwant : Reading.want ⟨window, .header Field.headerRest⟩ = 8 := rfl
  have hrest : ((block.drop 4).take 8).length = 8 := by
    rw [List.length_take, List.length_drop]
    omega
  have htake : block.take 12 = Reading.signatureOctets ++ (block.drop 4).take 8 := by
    rw [← h.take_four, ← List.take_add]
  rw [BulkQueue.feed_of_want_le (by rw [hwant, List.length_drop]; omega), hwant,
    Reading.takeBytes_header hrest, ← htake, List.drop_drop]

lemma feed_body {window header body : Octets} {n : Nat} (hn : 0 < n) (hbody : body.length = n) :
    (BulkQueue.mk c body).feed ⟨window, .body header ⟨[], n, hn⟩⟩ =
      (BulkQueue.mk c [], .done ⟨window⟩ (.ok (some (header ++ body)))) := by
  have hwant : Reading.want ⟨window, .body header ⟨[], n, hn⟩⟩ = n := rfl
  rw [BulkQueue.feed_of_want_le (hwant.trans_le hbody.ge), hwant, List.take_of_length_le hbody.le,
    List.drop_of_length_le hbody.le, Reading.takeBytes_body hn hbody]

/-- Once the signature has been taken, the rest of the block is read, and what comes after it is kept. -/
lemma feed_after_signature (h : Framed block) (c : Nat) (rest window : Octets) :
    (BulkQueue.mk c (block.drop 4 ++ rest)).feed ⟨window, .header Field.headerRest⟩ =
      (BulkQueue.mk c rest, .done ⟨window⟩ (.ok (some block))) := by
  have hself : (BulkQueue.mk c (block.drop 4)).feed ⟨window, .header Field.headerRest⟩ =
      (BulkQueue.mk c [], .done ⟨window⟩ (.ok (some block))) := by
    rw [h.feed_header, h.afterHeader_take]
    by_cases hlt : 12 < block.length
    · rw [dif_pos hlt]
      simp only
      rw [feed_body _ List.length_drop, List.take_append_drop]
    · rw [dif_neg hlt]
      simp only
      rw [List.drop_of_length_le (Nat.le_of_not_lt hlt), List.take_of_length_le (Nat.le_of_not_lt hlt)]
  rw [BulkQueue.feed_append, hself]
  rfl

/-- A stream that goes on with a block yields it and keeps what comes after it. -/
lemma feed_next (h : Framed block) (c : Nat) (rest : Octets) (reader : BlockReader) :
    (BulkQueue.mk c (block ++ rest)).feed reader.next =
      (BulkQueue.mk c rest, .done reader (.ok (some block))) := by
  have hwant : Reading.want reader.next = 4 := rfl
  have hlen := h.twelve_le
  have hle : 4 ≤ block.length := by omega
  rw [BulkQueue.feed_of_want_le (by rw [hwant, List.length_append]; omega), hwant,
    List.take_append_of_le_length hle, List.drop_append_of_le_length hle, h.take_four,
    BlockReader.next, Reading.takeBytes_signature]
  exact h.feed_after_signature c rest reader.window

end Framed

end NcmBridge
