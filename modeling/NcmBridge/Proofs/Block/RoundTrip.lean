import Mathlib.Data.List.TakeWhile
import NcmBridge.Proofs.Block.Acceptance
import NcmBridge.Proofs.Block.Layout

/-!
# A written block decodes to its frames

A block that is written follows the grammar with a single table, and the entries of that table name the
frames in order. An empty frame has an entry with a zero length, which ends the table for its readers.
-/

namespace NcmBridge

open Grammar Octets

/-! ### Written entries -/

namespace Grammar

lemma entryAt_of_written {b : Octets} {pos : Nat} {p : DatagramPointer}
    (h : p.encode <+: b.drop pos) : entryAt b pos = p := by
  obtain ⟨hoffset, hlength⟩ := append_prefix_iff.1 h
  rw [List.drop_drop, length_ofWord16] at hlength
  rw [entryAt, word16?_eq_some_iff.2 hoffset, word16?_eq_some_iff.2 hlength]
  rfl

/-- Entries are found where they are written. -/
lemma entries_of_written {b : Octets} {pos : Nat} {ps : List DatagramPointer}
    (h : ps.flatMap DatagramPointer.encode <+: b.drop pos) : entries b pos (4 * ps.length) = ps := by
  induction ps generalizing pos with
  | nil => rfl
  | cons p ps ih =>
    rw [List.flatMap_cons, append_prefix_iff, List.drop_drop, DatagramPointer.length_encode] at h
    obtain ⟨hp, hps⟩ := h
    rw [List.length_cons, Nat.mul_succ, entries_add_four, entryAt_of_written hp, ih hps]

end Grammar

namespace Layout

/-- The entry that is written for a datagram. -/
def pointer (span : Nat × Nat) : DatagramPointer := ⟨UInt16.ofNat span.1, UInt16.ofNat span.2⟩

/-- The entries that are written for frames of given lengths. -/
def pointersFrom (pos : Nat) (lengths : List Nat) : List DatagramPointer :=
  (spansFrom pos lengths).map pointer

lemma pointersFrom_cons (pos len : Nat) (rest : List Nat) :
    pointersFrom pos (len :: rest) = pointer (align pos, len) :: pointersFrom (align pos + len) rest :=
  rfl

lemma toNat_pointer (span : Nat × Nat) (h : span.1 + span.2 ≤ 65535) :
    (pointer span).offset.toNat = span.1 ∧ (pointer span).length.toNat = span.2 := by
  constructor
  · exact UInt16.toNat_ofNat_of_lt' (by show span.1 < 65536; omega)
  · exact UInt16.toNat_ofNat_of_lt' (by show span.2 < 65536; omega)

/-- The entry for a datagram past the header ends the table exactly when the datagram is empty. -/
lemma isTerminator_pointer (span : Nat × Nat) (h : span.1 + span.2 ≤ 65535) (hpos : 12 ≤ span.1) :
    (pointer span).isTerminator = true ↔ span.2 = 0 := by
  obtain ⟨hoffset, hlength⟩ := toNat_pointer span h
  rw [DatagramPointer.isTerminator, Bool.or_eq_true, beq_iff_eq, beq_iff_eq, ← UInt16.toNat_inj,
    ← UInt16.toNat_inj, hoffset, hlength]
  simp only [UInt16.toNat_zero]
  omega

/-- Readers of the written entries find the frames before the first empty frame. -/
lemma datagrams_pointersFrom {b : Octets} {pos : Nat} {frames : List Octets} (hpos : 12 ≤ pos)
    (hend : endFrom pos (frames.map List.length) ≤ 65535) (hb : b.drop pos = payloadFrom pos frames) :
    (∀ p ∈ listed (pointersFrom pos (frames.map List.length) ++ [.terminator]),
        Within (endFrom pos (frames.map List.length)) p) ∧
      (listed (pointersFrom pos (frames.map List.length) ++ [.terminator])).map (datagram b) =
        frames.takeWhile (· ≠ []) := by
  induction frames generalizing pos with
  | nil =>
    have hnil : listed (pointersFrom pos [] ++ [.terminator]) = [] := listed_cons_of_isTerminator rfl
    simp [hnil]
  | cons frame rest ih =>
    obtain ⟨hframe, hrest⟩ := payloadFrom_cons hb
    rw [List.map_cons, endFrom_cons] at hend ⊢
    rw [pointersFrom_cons, List.cons_append]
    have hle := le_align pos
    have hlast := le_endFrom (align pos + frame.length) (rest.map List.length)
    have hspan : align pos + frame.length ≤ 65535 := hlast.trans hend
    obtain ⟨hoffset, hlength⟩ := toNat_pointer (align pos, frame.length) hspan
    have hterm := isTerminator_pointer (align pos, frame.length) hspan (hpos.trans hle)
    by_cases hempty : frame = []
    · subst hempty
      rw [listed_cons_of_isTerminator (hterm.2 rfl)]
      simp
    · rw [List.length_eq_zero_iff] at hterm
      rw [listed_cons_of_not_isTerminator (Bool.not_eq_true _ ▸ mt hterm.1 hempty)]
      obtain ⟨hwithin, hdatagrams⟩ := ih (by omega) hend hrest
      rw [List.forall_mem_cons, List.map_cons, hdatagrams,
        List.takeWhile_cons_of_pos (p := fun f => decide (f ≠ [])) (decide_eq_true hempty)]
      refine ⟨⟨?_, hwithin⟩, ?_⟩
      · rw [Within, hoffset, hlength]
        exact ⟨hpos.trans hle, hlast⟩
      · rw [datagram, hoffset, hlength, hframe]

end Layout

/-! ### Written blocks -/

namespace Encoder

variable {sequence : UInt16} {frames : List Octets}

/-- The transfer header of a written block. -/
def headerOf (sequence : UInt16) (frames : List Octets) : TransferHeader :=
  ⟨sequence, UInt16.ofNat (Layout.blockLen (frames.map List.length)), 12⟩

/-- The one table of a written block. -/
def tableOf (frames : List Octets) : Table :=
  ⟨12, UInt16.ofNat (Layout.tableLen frames.length), 0⟩

/-- The entries of a written block with the last. -/
def entriesOf (frames : List Octets) : List DatagramPointer :=
  Layout.pointersFrom (Layout.tableEnd frames.length) (frames.map List.length) ++ [.terminator]

lemma length_entriesOf : (entriesOf frames).length = frames.length + 1 := by
  simp [entriesOf, Layout.pointersFrom]

lemma render_eq : render sequence frames =
    (headerOf sequence frames).encode ++ ((tableOf frames).header.encode ++
      ((entriesOf frames).flatMap DatagramPointer.encode ++
        Layout.payloadFrom (Layout.tableEnd frames.length) frames)) := by
  rw [entriesOf, List.flatMap_append, List.flatMap_singleton, List.append_assoc]
  rfl

lemma length_flatMap_encode (ps : List DatagramPointer) :
    (ps.flatMap DatagramPointer.encode).length = 4 * ps.length := by
  induction ps with
  | nil => rfl
  | cons p ps ih =>
    rw [List.flatMap_cons, List.length_append, ih, DatagramPointer.length_encode, List.length_cons]
    omega

lemma tableEnd_eq (n : Nat) : Layout.tableEnd n = 12 + 8 + 4 * (n + 1) := by
  rw [Layout.tableEnd, Layout.tableLen, transferHeaderLen, tableHeaderLen, entryLen, Nat.add_assoc]

lemma drop_table : (render sequence frames).drop 12 = (tableOf frames).header.encode ++
    ((entriesOf frames).flatMap DatagramPointer.encode ++
      Layout.payloadFrom (Layout.tableEnd frames.length) frames) := by
  rw [render_eq]
  exact List.drop_left' (TransferHeader.length_encode _)

lemma drop_entries : (render sequence frames).drop 20 =
    (entriesOf frames).flatMap DatagramPointer.encode ++
      Layout.payloadFrom (Layout.tableEnd frames.length) frames := by
  rw [show 20 = 12 + 8 from rfl, ← List.drop_drop, drop_table]
  exact List.drop_left' (TableHeader.length_encode _)

lemma drop_payload : (render sequence frames).drop (Layout.tableEnd frames.length) =
    Layout.payloadFrom (Layout.tableEnd frames.length) frames := by
  have hlen : ((entriesOf frames).flatMap DatagramPointer.encode).length = 4 * (frames.length + 1) := by
    rw [length_flatMap_encode, length_entriesOf]
  conv_lhs => rw [tableEnd_eq, ← List.drop_drop, drop_entries]
  exact List.drop_left' hlen

/-- A block is as long as its layout says. -/
lemma length_render :
    (render sequence frames).length = Layout.blockLen (frames.map List.length) := by
  have hlen := Layout.add_length_payloadFrom (Layout.tableEnd frames.length) frames
  rw [render_eq, Layout.blockLen, List.length_map, ← hlen]
  simp only [List.length_append, TransferHeader.length_encode, TableHeader.length_encode,
    length_flatMap_encode, length_entriesOf, tableEnd_eq]
  omega

lemma tableEnd_le_blockLen (frames : List Octets) :
    Layout.tableEnd frames.length ≤ Layout.blockLen (frames.map List.length) := by
  rw [Layout.blockLen, List.length_map]
  exact Layout.le_endFrom _ _

lemma toNat_blockLen (h : Layout.blockLen (frames.map List.length) ≤ 65535) :
    (headerOf sequence frames).blockLen.toNat = Layout.blockLen (frames.map List.length) :=
  UInt16.toNat_ofNat_of_lt' (Nat.lt_succ_of_le h)

lemma toNat_tableLen (h : Layout.blockLen (frames.map List.length) ≤ 65535) :
    (tableOf frames).header.length.toNat = 8 + 4 * (frames.length + 1) := by
  have hend := tableEnd_le_blockLen frames
  rw [tableEnd_eq] at hend
  exact UInt16.toNat_ofNat_of_lt' (by show 8 + 4 * (frames.length + 1) < 65536; omega)

/-- The table of a written block lists the written entries. -/
lemma pointers_tableOf (h : Layout.blockLen (frames.map List.length) ≤ 65535) :
    (tableOf frames).pointers (render sequence frames) = listed (entriesOf frames) := by
  have hpre : (entriesOf frames).flatMap DatagramPointer.encode <+:
      (render sequence frames).drop 20 := by
    rw [drop_entries]
    exact List.prefix_append _ _
  have hlen : 8 + 4 * (frames.length + 1) - 8 = 4 * (entriesOf frames).length := by
    rw [length_entriesOf, Nat.add_sub_cancel_left]
  rw [Table.pointers, toNat_tableLen h, hlen]
  exact congrArg listed (entries_of_written hpre)

/-- Readers of the written entries find the frames before the first empty frame. -/
lemma datagrams_entriesOf (sequence : UInt16)
    (h : Layout.blockLen (frames.map List.length) ≤ 65535) :
    (∀ p ∈ listed (entriesOf frames), Within (Layout.blockLen (frames.map List.length)) p) ∧
      (listed (entriesOf frames)).map (datagram (render sequence frames)) =
        frames.takeWhile (· ≠ []) := by
  rw [Layout.blockLen, List.length_map] at h ⊢
  refine Layout.datagrams_pointersFrom ?_ h drop_payload
  rw [tableEnd_eq]
  omega

/-- A written block follows the grammar, with one table right after the transfer header. -/
lemma describes_render (h : Layout.blockLen (frames.map List.length) ≤ 65535) :
    Describes (render sequence frames) (headerOf sequence frames) [tableOf frames] := by
  have hend := tableEnd_le_blockLen frames
  rw [tableEnd_eq] at hend
  have hstands : (tableOf frames).Stands (render sequence frames)
      (Layout.blockLen (frames.map List.length)) := by
    refine ⟨le_rfl, ?_, ?_, ?_, ?_⟩
    · show 12 + 8 ≤ _
      omega
    · show _ <+: (render sequence frames).drop 12
      rw [drop_table]
      exact List.prefix_append _ _
    · rw [toNat_tableLen h]
      omega
    · rw [toNat_tableLen h]
      show 12 + _ ≤ _
      omega
  refine ⟨?_, ?_, ?_, by simp, ?_, ?_, ?_⟩
  · rw [render_eq]
    exact List.prefix_append _ _
  · rw [toNat_blockLen h]
    omega
  · rw [toNat_blockLen h, length_render]
  · rw [toNat_blockLen h]
    exact .cons (tableOf frames) hstands (.nil 0)
  · rw [toNat_blockLen h, List.length_singleton]
    omega
  · intro t ht p hp
    rw [List.mem_singleton.1 ht, pointers_tableOf h] at hp
    rw [toNat_blockLen h]
    exact (datagrams_entriesOf sequence h).1 p hp

/-- A written block declares its own length. -/
lemma framed_render (h : Layout.blockLen (frames.map List.length) ≤ 65535) :
    Framed (render sequence frames) := by
  refine ⟨_, (describes_render h).opens, ?_⟩
  rw [toNat_blockLen h, length_render]

/-- A block that is not too long decodes to its frames before the first empty one. -/
lemma decode_render (h : Layout.blockLen (frames.map List.length) ≤ 65535) :
    decode (render sequence frames) = .ok (frames.takeWhile (· ≠ [])) := by
  refine decode_eq_ok_iff.2 ⟨_, _, describes_render h, ?_⟩
  rw [List.flatMap_singleton, Table.datagrams, pointers_tableOf h, (datagrams_entriesOf sequence h).2]

/-- Frames whose block is not too long are written. -/
lemma write_of_le (e : Encoder) (h : Layout.blockLen (frames.map List.length) ≤ 65535) :
    e.write frames = (.ok (render e.sequence frames), ⟨e.sequence + 1⟩) :=
  if_neg (Nat.not_lt.2 h)

/-- Frames whose block is too long are refused, and the encoder stays as it is. -/
lemma write_of_lt (e : Encoder) (h : 65535 < Layout.blockLen (frames.map List.length)) :
    e.write frames = (.error (.tooLarge (Layout.blockLen (frames.map List.length)) 65535), e) := if_pos h

end Encoder

lemma takeWhile_ne_nil {frames : List Octets} (h : ∀ f ∈ frames, f ≠ []) :
    frames.takeWhile (· ≠ []) = frames :=
  List.takeWhile_eq_self_iff.2 fun f hf => decide_eq_true (h f hf)

/-- Frames whose block is not too long are written, and the block decodes to the frames before the first
empty one; frames none of which is empty all come back. -/
theorem encode_then_decode (e : Encoder) (frames : List Octets)
    (h : Layout.blockLen (frames.map List.length) ≤ 65535) :
    ∃ block e', e.encode frames = .ok (block, e') ∧ decode block = .ok (frames.takeWhile (· ≠ [])) ∧
      ((∀ f ∈ frames, f ≠ []) → decode block = .ok frames) := by
  have hencode : e.encode frames = .ok (Encoder.render e.sequence frames, ⟨e.sequence + 1⟩) := by
    rw [Encoder.encode, e.write_of_le h]
    rfl
  refine ⟨_, _, hencode, Encoder.decode_render h, ?_⟩
  intro hne
  rw [Encoder.decode_render h, takeWhile_ne_nil hne]

/-- A frame that fills the longest block. -/
theorem encode_then_decode_longest :
    Layout.blockLen [65505] = 65535 ∧
      ∃ block e', Encoder.encode ⟨65535⟩ [List.replicate 65505 0xaa] = .ok (block, e') ∧
        decode block = .ok [List.replicate 65505 0xaa] := by
  have hlen : Layout.blockLen ([List.replicate 65505 (0xaa : UInt8)].map List.length) ≤ 65535 := by
    rw [List.map_singleton, List.length_replicate]
    decide
  obtain ⟨block, e', hencode, -, hall⟩ := encode_then_decode ⟨65535⟩ _ hlen
  refine ⟨rfl, block, e', hencode, hall ?_⟩
  intro f hf
  apply List.ne_nil_of_length_pos
  rw [List.mem_singleton.1 hf, List.length_replicate]
  decide

end NcmBridge
