import Mathlib.Algebra.GroupWithZero.Nat
import Mathlib.Data.Finset.Lattice.Basic
import Mathlib.Order.Interval.Finset.Nat
import NcmBridge.Proofs.Block.Acceptance

/-!
# What a block has room for

Every table that the decoder follows and every datagram that it returns lies between the transfer header
and the declared end of the block. So the block is long enough for all bytes that belong to one of them,
and long enough for all their lengths together when they share no byte. The decoder does not ask for
that: two entries may name the same bytes, and then the lengths may add up to more than the block has.
-/

namespace NcmBridge

namespace Grammar

/-! ### Places -/

/-- The places in the block that a table takes, with its header and its last entry. -/
def Table.places (t : Table) : Finset Nat := Finset.Ico t.offset (t.offset + t.header.length.toNat)

/-- The places in the block that a datagram takes. -/
def datagramPlaces (p : DatagramPointer) : Finset Nat :=
  Finset.Ico p.offset.toNat (p.offset.toNat + p.length.toNat)

/-- The places of each table, and then of each datagram that one of them lists. -/
def parts (b : Octets) (ts : List Table) : List (Finset Nat) :=
  ts.map Table.places ++ ts.flatMap fun t => (t.pointers b).map datagramPlaces

/-- The places that belong to a table or to a datagram. -/
def covered (b : Octets) (ts : List Table) : Finset Nat := (parts b ts).foldr (· ∪ ·) ∅

lemma foldr_union_subset {ps : List (Finset Nat)} {bound : Finset Nat} (h : ∀ p ∈ ps, p ⊆ bound) :
    ps.foldr (· ∪ ·) ∅ ⊆ bound := by
  induction ps with
  | nil => exact Finset.empty_subset bound
  | cons p ps ih =>
    obtain ⟨hp, hps⟩ := List.forall_mem_cons.1 h
    exact Finset.union_subset hp (ih hps)

lemma disjoint_foldr_union {p : Finset Nat} {ps : List (Finset Nat)} (h : ∀ q ∈ ps, Disjoint p q) :
    Disjoint p (ps.foldr (· ∪ ·) ∅) := by
  induction ps with
  | nil => exact Finset.disjoint_empty_right p
  | cons q ps ih =>
    obtain ⟨hq, hps⟩ := List.forall_mem_cons.1 h
    exact Finset.disjoint_union_right.2 ⟨hq, ih hps⟩

/-- Places that are not shared are counted once. -/
lemma card_foldr_union {ps : List (Finset Nat)} (h : ps.Pairwise Disjoint) :
    (ps.foldr (· ∪ ·) ∅).card = (ps.map Finset.card).sum := by
  induction ps with
  | nil => rfl
  | cons p ps ih =>
    obtain ⟨hp, hps⟩ := List.pairwise_cons.1 h
    rw [List.foldr_cons, Finset.card_union_of_disjoint (disjoint_foldr_union hp), ih hps, List.map_cons,
      List.sum_cons]

variable {b : Octets} {h : TransferHeader} {ts : List Table}

/-- The lengths of the datagrams that a table lists are those in its entries. -/
lemma Table.map_length_datagrams {t : Table} {size : Nat} (hsize : size ≤ b.length)
    (hwithin : ∀ p ∈ t.pointers b, Within size p) :
    (t.datagrams b).map List.length = (t.pointers b).map (·.length.toNat) := by
  rw [datagrams, List.map_map]
  apply List.map_congr_left
  intro p hp
  have hfits := (hwithin p hp).2
  rw [Function.comp_apply, datagram, List.length_take, List.length_drop]
  omega

/-- All lengths of the parts together are those of the tables and of the datagrams. -/
lemma Describes.sum_card_parts (hd : Describes b h ts) :
    ((parts b ts).map Finset.card).sum =
      (ts.map (·.header.length.toNat)).sum +
        ((ts.flatMap (Table.datagrams · b)).map List.length).sum := by
  have htables : (ts.map Table.places).map Finset.card = ts.map (·.header.length.toNat) := by
    simp only [List.map_map, Function.comp_def, Table.places, Nat.card_Ico, Nat.add_sub_cancel_left]
  have hdatagrams : (ts.flatMap fun t => (t.pointers b).map datagramPlaces).map Finset.card =
      (ts.flatMap (Table.datagrams · b)).map List.length := by
    rw [List.map_flatMap, List.map_flatMap]
    apply List.flatMap_congr
    intro t ht
    rw [Table.map_length_datagrams hd.complete (hd.within t ht)]
    simp only [List.map_map, Function.comp_def, datagramPlaces, Nat.card_Ico, Nat.add_sub_cancel_left]
  rw [parts, List.map_append, List.sum_append, htables, hdatagrams]

/-- Tables and datagrams lie past the transfer header and within the declared size. -/
lemma Describes.parts_within (hd : Describes b h ts) :
    ∀ p ∈ parts b ts, p ⊆ Finset.Ico 12 h.blockLen.toNat := by
  intro p hp
  rcases List.mem_append.1 hp with hp | hp
  · obtain ⟨t, ht, rfl⟩ := List.mem_map.1 hp
    have hstands := hd.path.stands t ht
    exact Finset.Ico_subset_Ico hstands.past_header hstands.fits
  · obtain ⟨t, ht, hp⟩ := List.mem_flatMap.1 hp
    obtain ⟨pointer, hpointer, rfl⟩ := List.mem_map.1 hp
    obtain ⟨hpast, hfits⟩ := hd.within t ht pointer hpointer
    exact Finset.Ico_subset_Ico hpast hfits

/-- A block has room for its header and for every place that is covered. -/
lemma Describes.card_covered_le (hd : Describes b h ts) :
    12 + (covered b ts).card ≤ h.blockLen.toNat := by
  have hle := Finset.card_le_card (foldr_union_subset hd.parts_within)
  rw [Nat.card_Ico] at hle
  have := hd.holds_header
  rw [covered]
  omega

end Grammar

open Grammar

/-- A block that decodes has room for the transfer header and for all bytes that belong to a table that is
followed or to a datagram that is returned. When no two of these share a byte, it has room for the header
and for all their lengths together. -/
theorem accepted_block_has_room {b : Octets} {fs : List Octets} (hb : decode b = .ok fs) :
    ∃ h ts, Describes b h ts ∧ fs = ts.flatMap (Table.datagrams · b) ∧
      12 + (covered b ts).card ≤ h.blockLen.toNat ∧
      ((parts b ts).Pairwise Disjoint →
        12 + (ts.map (·.header.length.toNat)).sum + (fs.map List.length).sum ≤ h.blockLen.toNat) := by
  obtain ⟨h, ts, hd, rfl⟩ := decode_eq_ok_iff.1 hb
  refine ⟨h, ts, hd, rfl, hd.card_covered_le, ?_⟩
  intro hapart
  have hroom := hd.card_covered_le
  rw [covered, card_foldr_union hapart, hd.sum_card_parts] at hroom
  omega

/-- A block with one table of two entries: the first names the four bytes after the table, the second four
bytes from another place on. -/
def pairBlock (second : UInt16) (payload : Octets) : Octets :=
  (TransferHeader.mk 0 (UInt16.ofNat (28 + payload.length)) 12).encode ++ ((TableHeader.mk 16 0).encode ++
    ((DatagramPointer.mk 28 4).encode ++ ((DatagramPointer.mk second 4).encode ++ payload)))

lemma eq_of_describes_pairBlock {second : UInt16} {payload : Octets} {h : TransferHeader} {ts : List Table}
    (hd : Describes (pairBlock second payload) h ts) :
    h = ⟨0, UInt16.ofNat (28 + payload.length), 12⟩ ∧ ts = [⟨12, ⟨16, 0⟩⟩] := by
  have hopens : (TransferHeader.mk 0 (UInt16.ofNat (28 + payload.length)) 12).encode <+:
      pairBlock second payload := List.prefix_append _ _
  have htable : (TableHeader.mk 16 0).encode <+: (pairBlock second payload).drop 12 :=
    List.prefix_append _ _
  obtain rfl := TransferHeader.eq_of_encode_prefix hd.opens hopens
  rcases hd.path.eq_nil_or_cons htable with rfl | ⟨us, rfl, hend⟩
  · exact absurd rfl hd.nonempty
  · obtain rfl := hend.eq_nil_of_zero
    exact ⟨rfl, rfl⟩

/-- Two datagrams side by side fill their block to its last byte. -/
theorem accepted_block_has_room_apart :
    decode (pairBlock 32 [1, 2, 3, 4, 5, 6, 7, 8]) = .ok [[1, 2, 3, 4], [5, 6, 7, 8]] ∧
      12 + (covered (pairBlock 32 [1, 2, 3, 4, 5, 6, 7, 8]) [⟨12, ⟨16, 0⟩⟩]).card ≤ 36 ∧
      12 + [16].sum + [4, 4].sum ≤ 36 := by
  have hb : decode (pairBlock 32 [1, 2, 3, 4, 5, 6, 7, 8]) = .ok [[1, 2, 3, 4], [5, 6, 7, 8]] := by decide
  obtain ⟨h, ts, hd, -, hroom, hsum⟩ := accepted_block_has_room hb
  obtain ⟨rfl, rfl⟩ := eq_of_describes_pairBlock hd
  exact ⟨hb, hroom, hsum (by decide)⟩

/-- It is not so that every block that decodes is long enough for the lengths of its header, its tables and
its datagrams together: where both entries name the same four bytes these make 36, and the block has 32. -/
theorem shared_bytes_outgrow_block :
    ¬∀ (b : Octets) (fs : List Octets) (h : TransferHeader) (ts : List Table), decode b = .ok fs →
      Describes b h ts →
        12 + (ts.map (·.header.length.toNat)).sum + (fs.map List.length).sum ≤ h.blockLen.toNat := by
  intro hall
  have hb : decode (pairBlock 28 [1, 2, 3, 4]) = .ok [[1, 2, 3, 4], [1, 2, 3, 4]] := by decide
  obtain ⟨h, ts, hd, -⟩ := decode_eq_ok_iff.1 hb
  have hsum := hall _ _ _ _ hb hd
  obtain ⟨rfl, rfl⟩ := eq_of_describes_pairBlock hd
  exact absurd hsum (by decide)

end NcmBridge
