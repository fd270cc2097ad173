import Mathlib.Data.List.Infix
import NcmBridge.Proofs.Link.Packets

/-!
# Where a block ends on the wire

A block goes out in packets of one size, and exactly its last packet is shorter: if need be it is empty. A
write tries the packets in order. It tries a packet again only after a timeout, and begins no transfer
after one that was short, that failed, or in which the link was closed. So the packets that were taken are
a beginning of those of the block, and who gets all of them finds the blocks again by their short packets.
-/

namespace NcmBridge

/-! ### Cutting and joining -/

namespace Packets

/-- The packets of a block by position: full ones as long as there are bytes for them, and then one with
the bytes left, which may be none. -/
def cut (m : Nat) (block : Octets) : List Octets :=
  (List.range (block.length / m + 1)).map fun i => (block.drop (i * m)).take m

/-- Puts packets together again: a packet of fewer than `m` bytes ends a block. -/
def join (m : Nat) : List Octets → List Octets
  | [] => []
  | packet :: packets =>
    if packet.length < m then packet :: join m packets
    else
      match join m packets with
      | [] => [packet]
      | block :: blocks => (packet ++ block) :: blocks

variable {m : Nat} {block : Octets}

lemma cut_of_lt (h : block.length < m) : cut m block = [block] := by
  simp only [cut, Nat.div_eq_of_lt h, Nat.zero_add, List.range_one, List.map_singleton, Nat.zero_mul,
    List.drop_zero, List.take_of_length_le h.le]

lemma cut_of_le (hm : 0 < m) (h : m ≤ block.length) :
    cut m block = block.take m :: cut m (block.drop m) := by
  have hdiv : block.length / m = (block.drop m).length / m + 1 := by
    rw [List.length_drop, ← Nat.add_div_right _ hm, Nat.sub_add_cancel h]
  rw [cut, hdiv, List.range_succ_eq_map, List.map_cons, List.map_map, Nat.zero_mul, List.drop_zero, cut]
  congr 1
  apply List.map_congr_left
  intro i _
  rw [Function.comp_apply, List.drop_drop, Nat.succ_mul, Nat.add_comm]

lemma pieces_append (hm : 0 < m) (block : Octets) :
    pieces m block ++ (if needsEmptyPacket block.length m then [[]] else []) = cut m block := by
  fun_induction pieces m block with
  | case1 block h =>
    obtain rfl : block = [] := h.resolve_left hm.ne'
    have hcut : cut m [] = [[]] := cut_of_lt hm
    rw [hcut]
    simp [needsEmptyPacket, hm]
  | case2 block h ih =>
    have hlen : 0 < block.length := List.length_pos_iff.2 (not_or.1 h).2
    by_cases hle : m ≤ block.length
    · have hneeds : needsEmptyPacket block.length m = needsEmptyPacket (block.drop m).length m := by
        rw [needsEmptyPacket, needsEmptyPacket, List.length_drop, ← Nat.mod_eq_sub_mod hle]
      rw [cut_of_le hm hle, hneeds, List.cons_append, ih]
    · have hlt : block.length < m := Nat.lt_of_not_le hle
      have hneeds : needsEmptyPacket block.length m = false := by
        rw [needsEmptyPacket, Nat.mod_eq_of_lt hlt, beq_false_of_ne hlen.ne', Bool.and_false]
      rw [cut_of_lt hlt, hneeds, List.take_of_length_le hlt.le, List.drop_of_length_le hlt.le, pieces,
        dif_pos (.inr rfl)]
      rfl

/-- The packets that a block is sent as are those. -/
lemma ofBlock_eq_cut (hm : 0 < m) (block : Octets) : ofBlock m block = cut m block := by
  rw [ofBlock, if_neg hm.ne', pieces_append hm]

lemma join_cons_of_lt {packet : Octets} (packets : List Octets) (h : packet.length < m) :
    join m (packet :: packets) = packet :: join m packets := by
  rw [join, if_pos h]

/-- A block is found again at the front of the packets, whatever comes after it. -/
lemma join_cut_append (hm : 0 < m) (block : Octets) (rest : List Octets) :
    join m (cut m block ++ rest) = block :: join m rest := by
  induction hlen : block.length using Nat.strong_induction_on generalizing block with
  | _ n ih =>
    by_cases hle : m ≤ block.length
    · have htake : ¬(block.take m).length < m := by
        rw [List.length_take, Nat.min_eq_left hle]
        exact Nat.lt_irrefl m
      have hrest : join m (cut m (block.drop m) ++ rest) = block.drop m :: join m rest :=
        ih (block.drop m).length (by rw [List.length_drop]; omega) (block.drop m) rfl
      rw [cut_of_le hm hle, List.cons_append, join, if_neg htake, hrest]
      simp only [List.take_append_drop]
    · have hlt : block.length < m := Nat.lt_of_not_le hle
      rw [cut_of_lt hlt, List.singleton_append, join_cons_of_lt rest hlt]

/-- Blocks are found again in their packets. -/
lemma join_flatMap_cut (hm : 0 < m) (blocks : List Octets) :
    join m (blocks.flatMap (cut m)) = blocks := by
  induction blocks with
  | nil => rfl
  | cons block blocks ih => rw [List.flatMap_cons, join_cut_append hm, ih]

end Packets

/-! ### Transfers of one write -/

namespace PacketOutcome

/-- The packet is taken whole. -/
def Takes (o : PacketOutcome) (packet : Octets) : Prop :=
  o.result = .ok none ∨ o.result = .ok (some packet.length)

/-- The packet is taken whole or times out, and the link is not closed. -/
def GoesOn (o : PacketOutcome) (packet : Octets) : Prop :=
  (o.Takes packet ∨ o.result = .error .timeout) ∧ o.closes = false

/-- The outcome of a transfer; where no more are laid out, packets are taken whole. -/
def nth (outcomes : List PacketOutcome) (i : Nat) : PacketOutcome := outcomes[i]?.getD {}

end PacketOutcome

namespace Sending

/-- The packets that were taken among those tried. -/
def accepted (attempts : List PacketAttempt) : List Octets :=
  (attempts.filter (·.accepted)).map (·.packet)

/-- Each transfer tries the first packet that was not taken before, and a transfer comes after it only if
it lets the write go on. -/
def InOrder (packets : List Octets) (outcomes : List PacketOutcome) (attempts : List PacketAttempt) : Prop :=
  ∀ before attempt later, attempts = before ++ attempt :: later →
    packets[(accepted before).length]? = some attempt.packet ∧
      (attempt.accepted = true ↔ (PacketOutcome.nth outcomes before.length).Takes attempt.packet) ∧
      (later ≠ [] → (PacketOutcome.nth outcomes before.length).GoesOn attempt.packet)

section

variable {packet : Octets} {packets : List Octets} {accepts closed : Bool} {o : PacketOutcome}
  {outcomes : List PacketOutcome} {attempts : List PacketAttempt}

/-- A transfer goes before others that are in order for what is left after it. -/
lemma InOrder.cons (haccepts : accepts = true ↔ o.Takes packet) (hgoes : attempts ≠ [] → o.GoesOn packet)
    (h : InOrder (if accepts then packets else packet :: packets) outcomes attempts) :
    InOrder (packet :: packets) (o :: outcomes) (⟨packet, accepts⟩ :: attempts) := by
  intro before attempt later heq
  cases before with
  | nil =>
    obtain ⟨rfl, rfl⟩ := List.cons.inj heq
    exact ⟨rfl, haccepts, hgoes⟩
  | cons first before =>
    obtain ⟨rfl, rfl⟩ := List.cons.inj heq
    obtain ⟨hnext, hrest⟩ := h before attempt later rfl
    refine ⟨?_, hrest⟩
    cases accepts with
    | true => exact hnext
    | false => exact hnext

/-- An outcome like those that are not laid out need not be laid out. -/
lemma InOrder.of_default (h : InOrder packets [{}] attempts) : InOrder packets [] attempts := by
  have hnth : ∀ i, PacketOutcome.nth [{}] i = PacketOutcome.nth [] i := by
    intro i
    cases i with
    | zero => rfl
    | succ i => rfl
  simpa only [InOrder, hnth] using h

/-- Nothing is tried on a closed link. -/
lemma attempts_of_closed (packets : List Octets) (outcomes : List PacketOutcome) :
    (run packets true outcomes).attempts = [] := by
  cases packets with
  | nil => rw [run]
  | cons packet packets => rw [run]

/-- A write that goes on after a transfer found the link open. -/
lemma closes_of_attempts (h : (run packets o.closes outcomes).attempts ≠ []) : o.closes = false := by
  cases hcloses : o.closes with
  | false => rfl
  | true =>
    rw [hcloses] at h
    exact absurd (attempts_of_closed packets outcomes) h

lemma inOrder_run (packets : List Octets) (closed : Bool) (outcomes : List PacketOutcome) :
    InOrder packets outcomes (run packets closed outcomes).attempts := by
  fun_induction run packets closed outcomes with
  | case1 closed outcomes => simp [InOrder]
  | case2 packet packets outcomes => simp [InOrder]
  | case3 packet packets ih =>
    have htakes : PacketOutcome.Takes {} packet := .inl rfl
    have hcons : InOrder (packet :: packets) [{}] (⟨packet, true⟩ :: (run packets false []).attempts) :=
      .cons (by simp [htakes]) (fun _ => ⟨.inl htakes, rfl⟩) ih
    exact hcons.of_default
  | case4 packet packets o outcomes ho ih =>
    have htakes : o.Takes packet := .inl ho
    exact .cons (by simp [htakes]) (fun h => ⟨.inl htakes, closes_of_attempts h⟩) ih
  | case5 packet packets o outcomes ho ih =>
    have htakes : o.Takes packet := .inr ho
    exact .cons (by simp [htakes]) (fun h => ⟨.inl htakes, closes_of_attempts h⟩) ih
  | case6 packet packets o outcomes n ho hn =>
    have hnot : ¬o.Takes packet := by simp [PacketOutcome.Takes, ho, hn]
    exact .cons (by simp [hnot]) (absurd rfl) (by simp [InOrder])
  | case7 packet packets o outcomes ho ih =>
    have hnot : ¬o.Takes packet := by simp [PacketOutcome.Takes, ho]
    exact .cons (by simp [hnot]) (fun h => ⟨.inr ho, closes_of_attempts h⟩) ih
  | case8 packet packets o outcomes f hf ho =>
    have hnot : ¬o.Takes packet := by simp [PacketOutcome.Takes, ho]
    exact .cons (by simp [hnot]) (absurd rfl) (by simp [InOrder])

/-- What was taken is a beginning of what is to be sent. -/
lemma taken_prefix (packets : List Octets) (closed : Bool) (outcomes : List PacketOutcome) :
    (run packets closed outcomes).taken <+: packets := by
  fun_induction run packets closed outcomes with
  | case1 closed outcomes => exact List.prefix_rfl
  | case2 packet packets outcomes => exact List.nil_prefix
  | case3 packet packets ih => exact (List.prefix_cons_inj packet).2 ih
  | case4 packet packets o outcomes ho ih => exact (List.prefix_cons_inj packet).2 ih
  | case5 packet packets o outcomes ho ih => exact (List.prefix_cons_inj packet).2 ih
  | case6 packet packets o outcomes n ho hn => exact List.nil_prefix
  | case7 packet packets o outcomes ho ih => exact ih
  | case8 packet packets o outcomes f hf ho => exact List.nil_prefix

/-- A write that had all its packets taken succeeds. -/
lemma ok_of_taken (h : (run packets closed outcomes).taken = packets) :
    (run packets closed outcomes).result = .ok () := by
  fun_induction run packets closed outcomes with
  | case1 closed outcomes => rfl
  | case2 packet packets outcomes => exact absurd h (List.cons_ne_nil packet packets).symm
  | case3 packet packets ih => exact ih (List.cons.inj h).2
  | case4 packet packets o outcomes ho ih => exact ih (List.cons.inj h).2
  | case5 packet packets o outcomes ho ih => exact ih (List.cons.inj h).2
  | case6 packet packets o outcomes n ho hn => exact absurd h (List.cons_ne_nil packet packets).symm
  | case7 packet packets o outcomes ho ih => exact ih h
  | case8 packet packets o outcomes f hf ho => exact absurd h (List.cons_ne_nil packet packets).symm

end

end Sending

/-! ### Writes one after another -/

namespace Outlet

/-- Sends blocks one after another, whatever becomes of them. -/
def writeAll (m : Nat) : List Octets → Outlet → List (IoResult Unit) × Outlet
  | [], o => ([], o)
  | block :: blocks, o =>
    let (result, o) := o.write m block
    let (results, o) := writeAll m blocks o
    (result :: results, o)

lemma writeAll_cons (m : Nat) (block : Octets) (blocks : List Octets) (o : Outlet) :
    o.writeAll m (block :: blocks) =
      ((o.write m block).1 :: ((o.write m block).2.writeAll m blocks).1,
        ((o.write m block).2.writeAll m blocks).2) := rfl

/-- When all writes succeed, the packets of all blocks are taken. -/
lemma taken_writeAll {m : Nat} (hm : 0 < m) {blocks : List Octets} {o : Outlet}
    (h : ∀ result ∈ (o.writeAll m blocks).1, result = .ok ()) :
    (o.writeAll m blocks).2.taken = o.taken ++ blocks.flatMap (Packets.cut m) := by
  induction blocks generalizing o with
  | nil => simp [writeAll]
  | cons block blocks ih =>
    rw [writeAll_cons] at h ⊢
    obtain ⟨hblock, hblocks⟩ := List.forall_mem_cons.1 h
    have htaken : (o.write m block).2.taken = o.taken ++ Packets.cut m block := by
      rw [write, Sending.taken_of_ok hblock, Packets.ofBlock_eq_cut hm]
    simp only [ih hblocks, htaken, List.append_assoc, List.flatMap_cons]

end Outlet

/-- The packets that are taken of a block are a beginning of those that it is cut into, and all of them
exactly when the write succeeds. A transfer comes after another one only if that took its packet whole or
timed out and the link stayed open, and there is none on a closed link. When several blocks are written
with success, the packets taken tell where each of them ends. -/
theorem packets_tell_blocks_apart {m : Nat} (hm : 1 ≤ m) :
    (∀ (block : Octets) (closed : Bool) (outcomes : List PacketOutcome),
      let sent := Sending.run (Packets.ofBlock m block) closed outcomes
      sent.taken <+: Packets.cut m block ∧
        (sent.result = .ok () ↔ sent.taken = Packets.cut m block) ∧
        Sending.InOrder (Packets.cut m block) outcomes sent.attempts ∧
        (closed = true → sent.attempts = [])) ∧
    ∀ (blocks : List Octets) (closed : Bool) (outcomes : List PacketOutcome),
      (∀ result ∈ (Outlet.writeAll m blocks ⟨outcomes, closed, []⟩).1, result = .ok ()) →
        Packets.join m (Outlet.writeAll m blocks ⟨outcomes, closed, []⟩).2.taken = blocks := by
  constructor
  · intro block closed outcomes
    rw [Packets.ofBlock_eq_cut hm]
    refine ⟨Sending.taken_prefix _ _ _, ⟨Sending.taken_of_ok, Sending.ok_of_taken⟩,
      Sending.inOrder_run _ _ _, ?_⟩
    rintro rfl
    exact Sending.attempts_of_closed _ _
  · intro blocks closed outcomes hok
    rw [Outlet.taken_writeAll hm hok, List.nil_append, Packets.join_flatMap_cut hm]

/-- Outcomes of the packets of a block of whole packets, of an empty block and of a short one: full and
empty packets time out. -/
def stalls : List PacketOutcome :=
  [{}, ⟨.error .timeout, false⟩, ⟨.ok (some 2), false⟩, ⟨.error .timeout, false⟩, {}, ⟨.error .timeout, false⟩]

theorem packets_tell_blocks_apart_after_timeouts :
    1 ≤ 2 ∧ (∀ result ∈ (Outlet.writeAll 2 [[1, 2, 3, 4], [], [5]] ⟨stalls, false, []⟩).1, result = .ok ()) ∧
      Packets.join 2 (Outlet.writeAll 2 [[1, 2, 3, 4], [], [5]] ⟨stalls, false, []⟩).2.taken =
        [[1, 2, 3, 4], [], [5]] := by
  have hok : ∀ result ∈ (Outlet.writeAll 2 [[1, 2, 3, 4], [], [5]] ⟨stalls, false, []⟩).1, result = .ok () := by
    decide +kernel
  exact ⟨by decide, hok, (packets_tell_blocks_apart (by decide)).2 _ _ _ hok⟩

example : (Outlet.writeAll 2 [[1, 2, 3, 4], [], [5]] ⟨stalls, false, []⟩).2.taken =
    [[1, 2], [3, 4], [], [], [5]] := by decide +kernel

end NcmBridge
