import Mathlib.Data.List.Induction
import Mathlib.Order.Bounds.Basic
import NcmBridge.Proofs.Block.RoundTrip

/-!
# What a written block looks like

A written block is read here field by field. Its table tells where each frame stands, the frames stand
apart, and there is nothing but zeros between them. All of this fits into words of 16 bits as soon as the
length of the block does, which is the only thing that is checked. The blocks of one encoder are numbered
without gaps, however many calls are refused between them.
-/

namespace NcmBridge

open Octets

namespace Layout

/-! ### Placement -/

/-- The frames with their offsets when the first may begin at `pos`. -/
def place (pos : Nat) : List Octets → List (Nat × Octets)
  | [] => []
  | frame :: rest => (align pos, frame) :: place (align pos + frame.length) rest

/-- Each frame is at the least offset that is 2 modulo 4 and not before the end of what precedes it. -/
inductive Placed : Nat → List (Nat × Octets) → Prop
  | nil (last : Nat) : Placed last []
  | cons {last offset : Nat} {frame : Octets} {rest : List (Nat × Octets)}
      (least : IsLeast {p | last ≤ p ∧ p % 4 = 2} offset)
      (placed : Placed (offset + frame.length) rest) : Placed last ((offset, frame) :: rest)

lemma isLeast_align (pos : Nat) : IsLeast {p | pos ≤ p ∧ p % 4 = 2} (align pos) := by
  refine ⟨⟨le_align pos, align_mod pos⟩, ?_⟩
  rintro p ⟨hle, hmod⟩
  unfold align
  omega

lemma placed_place (pos : Nat) (frames : List Octets) : Placed pos (place pos frames) := by
  induction frames generalizing pos with
  | nil => exact .nil pos
  | cons frame rest ih => exact .cons (isLeast_align pos) (ih _)

lemma map_place (pos : Nat) (frames : List Octets) : (place pos frames).map Prod.snd = frames := by
  induction frames generalizing pos with
  | nil => rfl
  | cons frame rest ih => rw [place, List.map_cons, ih]

lemma pointersFrom_map_length (pos : Nat) (frames : List Octets) :
    pointersFrom pos (frames.map List.length) =
      (place pos frames).map fun s => pointer (s.1, s.2.length) := by
  induction frames generalizing pos with
  | nil => rfl
  | cons frame rest ih => rw [List.map_cons, pointersFrom_cons, ih, place, List.map_cons]

lemma Placed.le {last : Nat} {spans : List (Nat × Octets)} (h : Placed last spans) :
    ∀ s ∈ spans, last ≤ s.1 := by
  induction h with
  | nil => simp
  | cons least _ ih =>
    rw [List.forall_mem_cons]
    refine ⟨least.1.1, ?_⟩
    intro s hs
    exact (least.1.1.trans (Nat.le_add_right _ _)).trans (ih s hs)

/-- No frame begins before those in front of it have ended. -/
lemma Placed.apart {last : Nat} {spans : List (Nat × Octets)} (h : Placed last spans) :
    spans.Pairwise fun s t => s.1 + s.2.length ≤ t.1 := by
  induction h with
  | nil => exact .nil
  | cons _ placed ih => exact .cons placed.le ih

lemma add_length_le_endFrom {pos : Nat} {frames : List Octets} :
    ∀ s ∈ place pos frames, s.1 + s.2.length ≤ endFrom pos (frames.map List.length) := by
  induction frames generalizing pos with
  | nil => simp [place]
  | cons frame rest ih =>
    rw [place, List.forall_mem_cons, List.map_cons, endFrom_cons]
    exact ⟨le_endFrom _ _, ih⟩

lemma slice_place {b : Octets} {pos : Nat} {frames : List Octets}
    (hb : b.drop pos = payloadFrom pos frames) :
    ∀ s ∈ place pos frames, b.slice? s.1 s.2.length = some s.2 := by
  induction frames generalizing pos with
  | nil => simp [place]
  | cons frame rest ih =>
    obtain ⟨hframe, hrest⟩ := payloadFrom_cons hb
    rw [place, List.forall_mem_cons]
    refine ⟨?_, ih hrest⟩
    exact slice?_eq_some_iff.2 ⟨rfl, List.prefix_iff_eq_take.2 hframe.symm⟩

/-- What lies in no frame is zero. -/
lemma getElem?_of_apart {b : Octets} {pos i : Nat} {frames : List Octets}
    (hb : b.drop pos = payloadFrom pos frames) (hpos : pos ≤ i) (hi : i < b.length)
    (hout : ∀ s ∈ place pos frames, i < s.1 ∨ s.1 + s.2.length ≤ i) : b[i]? = some 0 := by
  induction frames generalizing pos with
  | nil =>
    have hle := List.drop_eq_nil_iff.1 hb
    exact absurd hi (hle.trans hpos).not_gt
  | cons frame rest ih =>
    obtain ⟨-, hrest⟩ := payloadFrom_cons hb
    rw [place, List.forall_mem_cons] at hout
    rcases hout.1 with hbefore | hafter
    · obtain ⟨j, rfl⟩ := Nat.exists_eq_add_of_le hpos
      have hj : j < align pos - pos := Nat.lt_sub_iff_add_lt'.2 hbefore
      rw [← List.getElem?_drop, hb, payloadFrom, List.getElem?_append_left (by simpa using hj)]
      exact List.getElem?_replicate_of_lt hj
    · exact ih hrest hafter hout.2

end Layout

/-! ### One block -/

/-- How a block that carries `frames` looks to one who reads it field by field. -/
structure LaidOut (block : Octets) (sequence : UInt16) (frames : List Octets)
    (spans : List (Nat × Octets)) : Prop where
  length_eq : block.length = Layout.blockLen (frames.map List.length)
  header : ∃ size, TransferHeader.parse block = .ok ⟨sequence, size, 12⟩ ∧ size.toNat = block.length
  table : ∃ length, TableHeader.parse block 12 = .ok ⟨length, 0⟩ ∧
    length.toNat = 8 + 4 * (frames.length + 1)
  in_order : spans.map Prod.snd = frames
  entry : ∀ i offset frame, spans[i]? = some (offset, frame) →
    ∃ p, DatagramPointer.parse (block.drop (12 + 8 + 4 * i)) = .ok p ∧
      p.offset.toNat = offset ∧ p.length.toNat = frame.length
  terminator : DatagramPointer.parse (block.drop (12 + 8 + 4 * frames.length)) = .ok ⟨0, 0⟩
  placed : Layout.Placed (12 + 8 + 4 * (frames.length + 1)) spans
  apart : spans.Pairwise fun s t => s.1 + s.2.length ≤ t.1
  content : ∀ s ∈ spans, block.slice? s.1 s.2.length = some s.2
  padding : ∀ i < block.length, 12 + 8 + 4 * (frames.length + 1) ≤ i →
    (∀ s ∈ spans, i < s.1 ∨ s.1 + s.2.length ≤ i) → block[i]? = some 0

namespace DatagramPointer

lemma parse_eq_ok_iff {bytes : Octets} {p : DatagramPointer} :
    parse bytes = .ok p ↔ p.encode <+: bytes := by
  simp only [parse, Checks.bind_eq_ok_iff, Checks.pure_eq_ok_iff, word16_eq_ok_iff, encode,
    append_prefix_iff, length_ofWord16, List.drop_zero]
  constructor
  · rintro ⟨offset, hoffset, length, hlength, rfl⟩
    exact ⟨hoffset, hlength⟩
  · rintro ⟨hoffset, hlength⟩
    exact ⟨_, hoffset, _, hlength, rfl⟩

/-- Entries written one after another are read at every fourth position. -/
lemma parse_of_flatMap {bytes : Octets} {ps : List DatagramPointer} {i : Nat} {p : DatagramPointer}
    (h : ps.flatMap encode <+: bytes) (hp : ps[i]? = some p) : parse (bytes.drop (4 * i)) = .ok p := by
  induction ps generalizing bytes i with
  | nil => cases hp
  | cons q ps ih =>
    rw [List.flatMap_cons, append_prefix_iff, length_encode] at h
    cases i with
    | zero =>
      obtain rfl := Option.some.inj hp
      exact parse_eq_ok_iff.2 h.1
    | succ i =>
      rw [Nat.mul_succ, Nat.add_comm, ← List.drop_drop]
      exact ih h.2 hp

end DatagramPointer

namespace Encoder

variable {sequence : UInt16} {frames : List Octets}

/-- The frames of a written block with their offsets. -/
def spansOf (frames : List Octets) : List (Nat × Octets) :=
  Layout.place (Layout.tableEnd frames.length) frames

lemma map_spansOf (frames : List Octets) : (spansOf frames).map Prod.snd = frames :=
  Layout.map_place _ _

lemma length_spansOf (frames : List Octets) : (spansOf frames).length = frames.length := by
  rw [← List.length_map Prod.snd, map_spansOf]

lemma entriesOf_eq (frames : List Octets) :
    entriesOf frames = (spansOf frames).map (fun s => Layout.pointer (s.1, s.2.length)) ++ [.terminator] := by
  rw [entriesOf, spansOf, Layout.pointersFrom_map_length]

lemma getElem?_entriesOf {i offset : Nat} {frame : Octets}
    (h : (spansOf frames)[i]? = some (offset, frame)) :
    (entriesOf frames)[i]? = some (Layout.pointer (offset, frame.length)) := by
  obtain ⟨hi, -⟩ := List.getElem?_eq_some_iff.1 h
  rw [entriesOf_eq, List.getElem?_append_left ((List.length_map _).symm ▸ hi), List.getElem?_map, h]
  rfl

lemma getElem?_entriesOf_length : (entriesOf frames)[frames.length]? = some .terminator := by
  have hlen := length_spansOf frames
  rw [entriesOf_eq, List.getElem?_append_right (by simp [hlen]), List.length_map, hlen, Nat.sub_self]
  rfl

lemma add_length_le_blockLen :
    ∀ s ∈ spansOf frames, s.1 + s.2.length ≤ Layout.blockLen (frames.map List.length) := by
  rw [Layout.blockLen, List.length_map]
  exact Layout.add_length_le_endFrom

lemma parse_entry_render {i : Nat} {p : DatagramPointer} (h : (entriesOf frames)[i]? = some p) :
    DatagramPointer.parse ((render sequence frames).drop (12 + 8 + 4 * i)) = .ok p := by
  rw [← List.drop_drop, drop_entries]
  exact DatagramPointer.parse_of_flatMap (List.prefix_append _ _) h

lemma laidOut_render (h : Layout.blockLen (frames.map List.length) ≤ 65535) :
    LaidOut (render sequence frames) sequence frames (spansOf frames) := by
  have hplaced := Layout.placed_place (Layout.tableEnd frames.length) frames
  have hheader : TransferHeader.parse (render sequence frames) = .ok (headerOf sequence frames) :=
    TransferHeader.parse_eq_ok_iff.2 (describes_render h).opens
  have hsize : (headerOf sequence frames).blockLen.toNat = (render sequence frames).length := by
    rw [toNat_blockLen h, length_render]
  have htable : TableHeader.parse (render sequence frames) 12 = .ok (tableOf frames).header := by
    rw [TableHeader.parse_eq_ok_iff, drop_table]
    exact List.prefix_append _ _
  exact
    { length_eq := length_render
      header := ⟨_, hheader, hsize⟩
      table := ⟨_, htable, toNat_tableLen h⟩
      in_order := map_spansOf frames
      entry := by
        intro i offset frame hspan
        have hle : offset + frame.length ≤ 65535 :=
          (add_length_le_blockLen _ (List.mem_of_getElem? hspan)).trans h
        exact ⟨_, parse_entry_render (getElem?_entriesOf hspan),
          Layout.toNat_pointer (offset, frame.length) hle⟩
      terminator := parse_entry_render getElem?_entriesOf_length
      placed := tableEnd_eq frames.length ▸ hplaced
      apart := hplaced.apart
      content := Layout.slice_place drop_payload
      padding := by
        intro i hi hpos hout
        rw [← tableEnd_eq] at hpos
        exact Layout.getElem?_of_apart drop_payload hpos hi hout }

/-! ### Many blocks -/

/-- The encoder after some calls, and the blocks that they have given in order. -/
def run (e : Encoder) (calls : List (List Octets)) : Encoder × List Octets :=
  calls.foldl (fun (e, blocks) frames =>
    ((e.write frames).2, blocks ++ (e.write frames).1.toOption.toList)) (e, [])

/-- A call counts one further if it gives a block, and not otherwise. -/
lemma sequence_write (e : Encoder) (frames : List Octets) :
    (e.write frames).2.sequence =
      e.sequence + UInt16.ofNat (e.write frames).1.toOption.toList.length := by
  rcases Nat.lt_or_ge 65535 (Layout.blockLen (frames.map List.length)) with hlt | hle
  · rw [e.write_of_lt hlt]
    exact (UInt16.add_zero _).symm
  · rw [e.write_of_le hle]
    rfl

lemma run_concat (e : Encoder) (calls : List (List Octets)) (frames : List Octets) :
    e.run (calls ++ [frames]) =
      (((e.run calls).1.write frames).2,
        (e.run calls).2 ++ ((e.run calls).1.write frames).1.toOption.toList) := by
  rw [run, List.foldl_concat, ← run]

/-- An encoder counts the blocks that it has given. -/
lemma sequence_run (e : Encoder) (calls : List (List Octets)) :
    (e.run calls).1.sequence = e.sequence + UInt16.ofNat (e.run calls).2.length := by
  induction calls using List.reverseRecOn with
  | nil => exact (UInt16.add_zero _).symm
  | append_singleton calls frames ih =>
    rw [run_concat, sequence_write, ih, List.length_append, UInt16.ofNat_add, UInt16.add_assoc]

end Encoder

/-- After any calls of an encoder, frames whose block is not too long give the next block, laid out as the
reader expects it, with a number that tells how many blocks came before; others are refused and leave the
encoder as it is. -/
theorem blocks_are_numbered_and_laid_out (start : UInt16) (calls : List (List Octets))
    (frames : List Octets) :
    let e := ((Encoder.mk start).run calls).1
    let blocks := ((Encoder.mk start).run calls).2
    let size := Layout.blockLen (frames.map List.length)
    (size ≤ 65535 → ∃ block sequence spans, e.write frames = (.ok block, ⟨sequence + 1⟩) ∧
      sequence.toNat = (start.toNat + blocks.length) % 65536 ∧ LaidOut block sequence frames spans) ∧
    (65535 < size → e.write frames = (.error (.tooLarge size 65535), e)) := by
  intro e blocks size
  refine ⟨?_, e.write_of_lt⟩
  intro hle
  refine ⟨_, _, _, e.write_of_le hle, ?_, Encoder.laidOut_render hle⟩
  rw [Encoder.sequence_run, UInt16.toNat_add, UInt16.toNat_ofNat', Nat.add_mod_mod]

-- An empty frame has its entry and its padding too.
example : (Encoder.mk 7).write [[0xaa], []] = (.ok
    [0x4e, 0x43, 0x4d, 0x48, 12, 0, 7, 0, 38, 0, 12, 0,
      0x4e, 0x43, 0x4d, 0x30, 20, 0, 0, 0, 34, 0, 1, 0, 38, 0, 0, 0, 0, 0, 0, 0,
      0, 0, 0xaa, 0, 0, 0], ⟨8⟩) := by
  rfl

end NcmBridge
