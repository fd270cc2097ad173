import Mathlib.Data.List.Basic
import Mathlib.Tactic.Lemma
import NcmBridge.Link.Transport

/-!
# The packets of a block carry its bytes

The packets of a block are its bytes in order, and an empty packet at the end adds none. A write that
succeeds had every packet taken once and in order, however often a packet timed out on the way; and
timeouts alone make no write fail.
-/

namespace NcmBridge

/-! ### Packets of a block -/

namespace Packets

lemma flatten_pieces {size : Nat} (hsize : size ≠ 0) (data : Octets) :
    (pieces size data).flatten = data := by
  fun_induction pieces size data with
  | case1 data h =>
    rcases h with h | rfl
    · exact absurd h hsize
    · rfl
  | case2 data h ih => rw [List.flatten_cons, ih, List.take_append_drop]

/-- Put together, the packets of a block are the block. -/
lemma flatten_ofBlock (maxPacket : Nat) (block : Octets) : (ofBlock maxPacket block).flatten = block := by
  have hsize : (if maxPacket = 0 then max block.length 1 else maxPacket) ≠ 0 := by
    split <;> omega
  rw [ofBlock, List.flatten_append, flatten_pieces hsize]
  by_cases h : needsEmptyPacket block.length maxPacket = true
  · rw [if_pos h, List.flatten_singleton, List.append_nil]
  · rw [if_neg h, List.flatten_nil, List.append_nil]

end Packets

/-! ### Writes -/

/-- The packet is taken whole or times out, and the link stays open. -/
def PacketOutcome.Patient (o : PacketOutcome) : Prop :=
  (o.result = .ok none ∨ o.result = .error .timeout) ∧ o.closes = false

instance (o : PacketOutcome) : Decidable o.Patient := inferInstanceAs (Decidable (_ ∧ _))

namespace Sending

/-- The packets that were taken, in order. -/
def taken (s : Sending) : List Octets := (s.attempts.filter (·.accepted)).map (·.packet)

@[simp] lemma taken_after_true (packet : Octets) (s : Sending) :
    (s.after packet true).taken = packet :: s.taken := rfl

@[simp] lemma taken_after_false (packet : Octets) (s : Sending) :
    (s.after packet false).taken = s.taken := rfl

@[simp] lemma result_after (packet : Octets) (accepted : Bool) (s : Sending) :
    (s.after packet accepted).result = s.result := rfl

/-- A write that succeeds had all its packets taken. -/
lemma taken_of_ok {packets : List Octets} {closed : Bool} {outcomes : List PacketOutcome}
    (h : (run packets closed outcomes).result = .ok ()) :
    (run packets closed outcomes).taken = packets := by
  fun_induction run packets closed outcomes with
  | case1 => rfl
  | case2 => cases h
  | case3 packet packets ih => rw [taken_after_true, ih h]
  | case4 packet packets o outcomes ho ih => rw [taken_after_true, ih h]
  | case5 packet packets o outcomes ho ih => rw [taken_after_true, ih h]
  | case6 => cases h
  | case7 packet packets o outcomes ho ih => rw [taken_after_false, ih h]
  | case8 => cases h

/-- Timeouts do not make a write fail, and leave only what was laid out. -/
lemma ok_of_patient (packets : List Octets) {closed : Bool} {outcomes : List PacketOutcome}
    (hclosed : closed = false) (h : ∀ o ∈ outcomes, o.Patient) :
    (run packets closed outcomes).result = .ok () ∧ (run packets closed outcomes).closed = false ∧
      ∀ o ∈ (run packets closed outcomes).left, o.Patient := by
  fun_induction run packets closed outcomes with
  | case1 closed outcomes => exact ⟨rfl, hclosed, h⟩
  | case2 => cases hclosed
  | case3 packet packets ih => exact ih rfl h
  | case4 packet packets o outcomes ho ih =>
    obtain ⟨⟨-, hcloses⟩, hrest⟩ := List.forall_mem_cons.1 h
    exact ih hcloses hrest
  | case5 packet packets o outcomes ho ih =>
    obtain ⟨⟨hresult, -⟩, -⟩ := List.forall_mem_cons.1 h
    simp [ho] at hresult
  | case6 packet packets o outcomes n ho hn =>
    obtain ⟨⟨hresult, -⟩, -⟩ := List.forall_mem_cons.1 h
    simp [ho] at hresult
  | case7 packet packets o outcomes ho ih =>
    obtain ⟨⟨-, hcloses⟩, hrest⟩ := List.forall_mem_cons.1 h
    exact ih hcloses hrest
  | case8 packet packets o outcomes f hf ho =>
    obtain ⟨⟨hresult, -⟩, -⟩ := List.forall_mem_cons.1 h
    rcases hresult with hresult | hresult
    · rw [hresult] at ho
      cases ho
    · rw [hresult] at ho
      cases ho
      exact absurd rfl hf

end Sending

/-! ### Endpoints -/

/-- The OUT endpoint of a link: what its packets will meet, and the packets it took. -/
structure Outlet where
  outcomes : List PacketOutcome
  closed : Bool := false
  taken : List Octets := []

namespace Outlet

/-- Sends a block as packets. -/
def write (maxPacket : Nat) (block : Octets) (o : Outlet) : IoResult Unit × Outlet :=
  let sent := Sending.run (Packets.ofBlock maxPacket block) o.closed o.outcomes
  (sent.result, ⟨sent.left, sent.closed, o.taken ++ sent.taken⟩)

/-- A link writes a block as its OUT endpoint does. -/
lemma write_eq_writeBlock {t : Transport} {b : Bus} {d : BusDevice} (block : Octets)
    (taken : List Octets) (hd : b.device? t.session.ref = some d) :
    (t.writeBlock block b).1 =
        (write t.ncm.bulkOut.maxPacketSize block ⟨d.packets, t.closed, taken⟩).1 ∧
      (t.writeBlock block b).2.1.closed =
        (write t.ncm.bulkOut.maxPacketSize block ⟨d.packets, t.closed, taken⟩).2.closed := by
  rw [Transport.writeBlock, hd]
  exact ⟨rfl, rfl⟩

/-- The packets to come may time out, but none fails. -/
def Patient (o : Outlet) : Prop := o.closed = false ∧ ∀ outcome ∈ o.outcomes, outcome.Patient

/-- A patient endpoint takes the bytes of every block. -/
lemma write_of_patient {o : Outlet} (h : o.Patient) (maxPacket : Nat) (block : Octets) :
    (o.write maxPacket block).1 = .ok () ∧ (o.write maxPacket block).2.Patient ∧
      (o.write maxPacket block).2.taken.flatten = o.taken.flatten ++ block := by
  obtain ⟨hresult, hclosed, hleft⟩ :=
    Sending.ok_of_patient (Packets.ofBlock maxPacket block) h.1 h.2
  refine ⟨hresult, ⟨hclosed, hleft⟩, ?_⟩
  rw [write, List.flatten_append, Sending.taken_of_ok hresult, Packets.flatten_ofBlock]

end Outlet

end NcmBridge
