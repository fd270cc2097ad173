import Mathlib.Data.List.Nodup
import Mathlib.Logic.Relation
import NcmBridge.Block.Decode
import NcmBridge.Proofs.Block.Header

/-!
# The grammar of a block

What a well-formed block is, said by positions in its bytes and without a reader. A block opens with a
transfer header that declares its size. A path of tables leads from the index in that header over the
index in each table to the index 0. Each table lists the entries before its first entry with a zero, and
each listed entry names a datagram inside the declared size.
-/

namespace NcmBridge.Grammar

/-! ### Entries -/

/-- The datagram of an entry lies past the transfer header and within the first `size` bytes. -/
def Within (size : Nat) (p : DatagramPointer) : Prop :=
  12 ≤ p.offset.toNat ∧ p.offset.toNat + p.length.toNat ≤ size

instance (size : Nat) (p : DatagramPointer) : Decidable (Within size p) :=
  inferInstanceAs (Decidable (_ ∧ _))

/-- The bytes that an entry names. -/
def datagram (b : Octets) (p : DatagramPointer) : Octets := (b.drop p.offset.toNat).take p.length.toNat

/-- The entry written at a position. -/
def entryAt (b : Octets) (pos : Nat) : DatagramPointer :=
  ⟨(b.word16? pos).getD 0, (b.word16? (pos + 2)).getD 0⟩

/-- The entries that lie wholly in the `len` bytes from `pos` on. -/
def entries (b : Octets) (pos len : Nat) : List DatagramPointer :=
  (List.range (len / 4)).map fun i => entryAt b (pos + 4 * i)

/-- The entries before the first with a zero offset or a zero length. -/
def listed (ps : List DatagramPointer) : List DatagramPointer :=
  ps.takeWhile fun p => p.offset ≠ 0 ∧ p.length ≠ 0

@[simp] lemma listed_nil : listed [] = [] := rfl

lemma listed_cons_of_isTerminator {p : DatagramPointer} {ps : List DatagramPointer}
    (h : p.isTerminator = true) : listed (p :: ps) = [] := by
  simp only [DatagramPointer.isTerminator, Bool.or_eq_true, beq_iff_eq] at h
  apply List.takeWhile_cons_of_neg
  simp only [decide_eq_true_eq, not_and_or, ne_eq, not_not]
  exact h

lemma listed_cons_of_not_isTerminator {p : DatagramPointer} {ps : List DatagramPointer}
    (h : p.isTerminator = false) : listed (p :: ps) = p :: listed ps := by
  simp only [DatagramPointer.isTerminator, Bool.or_eq_false_iff, beq_eq_false_iff_ne] at h
  apply List.takeWhile_cons_of_pos
  simp only [decide_eq_true_eq]
  exact h

@[simp] lemma entryAt_drop (b : Octets) (n pos : Nat) :
    entryAt (b.drop n) pos = entryAt b (n + pos) := by
  simp [entryAt, Nat.add_assoc]

lemma entryAt_take {b : Octets} {size pos : Nat} (h : pos + 4 ≤ size) :
    entryAt (b.take size) pos = entryAt b pos := by
  rw [entryAt, entryAt, Octets.word16?_take (by omega), Octets.word16?_take (by omega)]

lemma entries_drop (b : Octets) (n pos len : Nat) :
    entries (b.drop n) pos len = entries b (n + pos) len := by
  simp only [entries, entryAt_drop, Nat.add_assoc]

/-- Bytes past the area of the entries do not matter for them. -/
lemma entries_take {b : Octets} {size pos len : Nat} (h : pos + len ≤ size) :
    entries (b.take size) pos len = entries b pos len := by
  apply List.map_congr_left
  intro i hi
  rw [List.mem_range] at hi
  exact entryAt_take (by omega)

/-- The first entry and those after it. -/
lemma entries_add_four (b : Octets) (pos len : Nat) :
    entries b pos (len + 4) = entryAt b pos :: entries b (pos + 4) len := by
  rw [entries, show (len + 4) / 4 = len / 4 + 1 by omega, List.range_succ_eq_map, List.map_cons,
    List.map_map]
  congr 1
  apply List.map_congr_left
  intro i _
  rw [Function.comp_apply, Nat.mul_succ, Nat.add_assoc pos 4, Nat.add_comm 4]

lemma entries_of_lt_four {b : Octets} {pos len : Nat} (h : len < 4) : entries b pos len = [] := by
  rw [entries, Nat.div_eq_of_lt h, List.range_zero, List.map_nil]

/-- Bytes past a datagram do not matter for it. -/
lemma datagram_take {b : Octets} {size : Nat} {p : DatagramPointer} (h : Within size p) :
    datagram (b.take size) p = datagram b p := by
  rw [datagram, datagram, List.drop_take, List.take_take, Nat.min_eq_left]
  have := h.2
  omega

/-! ### Tables -/

/-- A pointer table at its place in a block. -/
structure Table where
  offset : Nat
  header : TableHeader
  deriving DecidableEq, Repr

namespace Table

/-- The table is written in the first `size` bytes of a block, past the transfer header. -/
structure Stands (t : Table) (b : Octets) (size : Nat) : Prop where
  past_header : 12 ≤ t.offset
  header_fits : t.offset + 8 ≤ size
  written : t.header.encode <+: b.drop t.offset
  holds_header : 8 ≤ t.header.length.toNat
  fits : t.offset + t.header.length.toNat ≤ size

/-- The entries that the table lists. -/
def pointers (t : Table) (b : Octets) : List DatagramPointer :=
  listed (entries b (t.offset + 8) (t.header.length.toNat - 8))

/-- The datagrams that the table lists. -/
def datagrams (t : Table) (b : Octets) : List Octets := (t.pointers b).map (datagram b)

/-- No two tables stand at one place. -/
lemma eq_of_stands {t u : Table} {b : Octets} {size : Nat} (ht : t.Stands b size)
    (hu : u.Stands b size) (h : t.offset = u.offset) : t = u := by
  obtain ⟨offset, header⟩ := t
  obtain ⟨offset', header'⟩ := u
  obtain rfl : offset = offset' := h
  obtain rfl : header = header' := TableHeader.eq_of_encode_prefix ht.written hu.written
  rfl

/-- Bytes past the declared size do not matter for a table. -/
lemma stands_take_iff {t : Table} {b : Octets} {size : Nat} :
    t.Stands (b.take size) size ↔ t.Stands b size := by
  constructor
  · rintro ⟨hpast, hhead, hw, hlen, hfits⟩
    exact ⟨hpast, hhead, (Octets.prefix_drop_take_iff.1 hw).1, hlen, hfits⟩
  · rintro ⟨hpast, hhead, hw, hlen, hfits⟩
    refine ⟨hpast, hhead, Octets.prefix_drop_take_iff.2 ⟨hw, ?_⟩, hlen, hfits⟩
    rw [TableHeader.length_encode]
    omega

lemma pointers_take {t : Table} {b : Octets} {size : Nat} (h : t.Stands b size) :
    t.pointers (b.take size) = t.pointers b := by
  have := h.holds_header
  have := h.fits
  rw [pointers, pointers, entries_take (by omega)]

lemma datagrams_take {t : Table} {b : Octets} {size : Nat} (h : t.Stands b size)
    (hp : ∀ p ∈ t.pointers b, Within size p) : t.datagrams (b.take size) = t.datagrams b := by
  rw [datagrams, datagrams, pointers_take h]
  exact List.map_congr_left fun p hmem => datagram_take (hp p hmem)

/-- The headers of two tables do not overlap. -/
def Apart (t u : Table) : Prop := t.offset + 8 ≤ u.offset ∨ u.offset + 8 ≤ t.offset

end Table

/-- The tables `ts` lead from index `i` to index `j`. -/
inductive Path (b : Octets) (size : Nat) : Nat → List Table → Nat → Prop
  | nil (i : Nat) : Path b size i [] i
  | cons (t : Table) {ts : List Table} {j : Nat} (ht : t.Stands b size)
      (h : Path b size t.header.next.toNat ts j) : Path b size t.offset (t :: ts) j

namespace Path

variable {b : Octets} {size i j : Nat} {ts : List Table}

lemma stands (h : Path b size i ts j) : ∀ t ∈ ts, t.Stands b size := by
  induction h with
  | nil i => simp
  | cons t ht _ ih =>
    intro u hu
    rcases List.mem_cons.1 hu with rfl | hu
    · exact ht
    · exact ih u hu

lemma mono {b' : Octets} (hmono : ∀ t : Table, t.Stands b size → t.Stands b' size)
    (h : Path b size i ts j) : Path b' size i ts j := by
  induction h with
  | nil i => exact .nil i
  | cons t ht _ ih => exact .cons t (hmono t ht) ih

lemma take_iff : Path (b.take size) size i ts j ↔ Path b size i ts j :=
  ⟨mono fun _ => Table.stands_take_iff.1, mono fun _ => Table.stands_take_iff.2⟩

lemma eq_of_nil (h : Path b size i [] j) : i = j := by
  cases h
  rfl

/-- No table stands at the index 0, so a path from there is at its end. -/
lemma eq_nil_of_zero (h : Path b size 0 ts j) : ts = [] := by
  generalize hi : 0 = i at h
  cases h with
  | nil i => rfl
  | cons t ht _ => exact absurd ht.past_header (by omega)

/-- The table on a path is the one whose header is written there. -/
lemma eq_nil_or_cons {header : TableHeader} (hw : header.encode <+: b.drop i)
    (h : Path b size i ts j) :
    ts = [] ∨ ∃ us, ts = ⟨i, header⟩ :: us ∧ Path b size header.next.toNat us j := by
  cases h with
  | nil => exact .inl rfl
  | @cons t us _ ht h =>
    obtain rfl := TableHeader.eq_of_encode_prefix hw ht.written
    exact .inr ⟨us, rfl, h⟩

/-- A path to the index 0 is determined by its first index. -/
lemma unique {us : List Table} (hts : Path b size i ts 0) (hus : Path b size i us 0) : ts = us := by
  induction ts generalizing i us with
  | nil =>
    obtain rfl := hts.eq_of_nil
    exact hus.eq_nil_of_zero.symm
  | cons t ts ih =>
    cases hts with
    | cons _ ht hts =>
      generalize hi : t.offset = i at hus
      cases hus with
      | nil => exact absurd ht.past_header (by omega)
      | @cons u us _ hu hus =>
        have heq : t = u := Table.eq_of_stands ht hu hi
        subst heq
        rw [ih hts hus]

/-- The headers of tables that do not overlap fill at most the bytes past the transfer header, so a
further table would still be within the bound. -/
lemma length_lt_of_apart (h : Path b size i ts j) (hapart : ts.Pairwise Table.Apart)
    (hsize : 12 ≤ size) : ts.length < size / 8 := by
  have hnodup : (ts.flatMap fun t => List.range' t.offset 8).Nodup := by
    rw [List.nodup_flatMap]
    refine ⟨fun t _ => List.nodup_range', hapart.imp ?_⟩
    intro t u htu x hx hx'
    rw [List.mem_range'_1] at hx hx'
    unfold Table.Apart at htu
    omega
  have hsubset : (ts.flatMap fun t => List.range' t.offset 8) ⊆ List.range' 12 (size - 12) := by
    intro x hx
    obtain ⟨t, ht, hx⟩ := List.mem_flatMap.1 hx
    have := (h.stands t ht).past_header
    have := (h.stands t ht).header_fits
    rw [List.mem_range'_1] at hx ⊢
    omega
  have hlen := hnodup.length_le_of_subset hsubset
  simp only [List.length_flatMap, List.length_range', List.map_const', List.sum_replicate_nat] at hlen
  omega

end Path

/-- The header of a table at index `i` names the index `j` of a further table. -/
def Links (b : Octets) (i j : Nat) : Prop :=
  ∃ t : TableHeader, t.encode <+: b.drop i ∧ t.next.toNat = j ∧ j ≠ 0

namespace Links

variable {b : Octets} {size i j : Nat} {ts : List Table}

/-- A link goes along the path, which is shorter from there on. -/
lemma path (hl : Links b i j) (hi : i ≠ 0) (h : Path b size i ts 0) :
    ∃ us, us.length < ts.length ∧ Path b size j us 0 := by
  obtain ⟨header, hw, rfl, -⟩ := hl
  cases h with
  | nil => exact absurd rfl hi
  | @cons t ts _ ht h =>
    rw [TableHeader.eq_of_encode_prefix hw ht.written]
    exact ⟨ts, Nat.lt_succ_self _, h⟩

lemma ne_zero (hl : Links b i j) : j ≠ 0 := by
  obtain ⟨_, _, _, h⟩ := hl
  exact h

lemma transGen_ne_zero (hl : Relation.TransGen (Links b) i j) : j ≠ 0 := by
  cases hl with
  | single hl => exact hl.ne_zero
  | tail _ hl => exact hl.ne_zero

lemma transGen_path (hl : Relation.TransGen (Links b) i j) (hi : i ≠ 0) (h : Path b size i ts 0) :
    ∃ us, us.length < ts.length ∧ Path b size j us 0 := by
  induction hl with
  | single hl => exact hl.path hi h
  | @tail j k hij hl ih =>
    obtain ⟨us, hlt, hus⟩ := ih
    obtain ⟨vs, hlt', hvs⟩ := hl.path (transGen_ne_zero hij) hus
    exact ⟨vs, hlt'.trans hlt, hvs⟩

/-- No table on a path to the index 0 leads back to itself. -/
lemma not_transGen_self (hl : Relation.TransGen (Links b) i i) (hi : i ≠ 0) :
    ¬Path b size i ts 0 := by
  intro h
  obtain ⟨us, hlt, hus⟩ := transGen_path hl hi h
  rw [h.unique hus] at hlt
  exact Nat.lt_irrefl _ hlt

end Links

/-! ### Blocks -/

/-- A string of bytes begins with a block that has this header and these tables. -/
structure Describes (b : Octets) (h : TransferHeader) (ts : List Table) : Prop where
  opens : h.encode <+: b
  holds_header : 12 ≤ h.blockLen.toNat
  complete : h.blockLen.toNat ≤ b.length
  nonempty : ts ≠ []
  path : Path b h.blockLen.toNat h.tableIndex.toNat ts 0
  few : ts.length ≤ h.blockLen.toNat / 8
  within : ∀ t ∈ ts, ∀ p ∈ t.pointers b, Within h.blockLen.toNat p

end NcmBridge.Grammar
