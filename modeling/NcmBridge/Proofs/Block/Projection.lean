import Mathlib.Data.List.Forall2
import Mathlib.Data.List.Induction
import Mathlib.Order.Monotone.Defs
import NcmBridge.Proofs.Block.Layout

/-!
# How the length of a block grows

The length of a block is computed afresh for each batch, and a further frame changes where the computation
starts as well as where it ends: its entry makes the table longer by four bytes. Alignment is kept by a
shift of four bytes, so all datagrams before it move by four bytes, and the length with the new frame
follows from the length without it. A batch that fits a limit can therefore be built up frame by frame.
-/

namespace NcmBridge.Layout

/-! ### Shifts -/

/-- A frame has one entry of four bytes. -/
lemma tableEnd_succ (count : Nat) : tableEnd (count + 1) = tableEnd count + 4 := rfl

lemma align_add_four (pos : Nat) : align (pos + 4) = align pos + 4 := by
  unfold align
  omega

lemma endFrom_add_four (pos : Nat) (lengths : List Nat) :
    endFrom (pos + 4) lengths = endFrom pos lengths + 4 := by
  induction lengths generalizing pos with
  | nil => rfl
  | cons len rest ih => rw [endFrom_cons, endFrom_cons, align_add_four, Nat.add_right_comm, ih]

lemma spansFrom_add_four (pos : Nat) (lengths : List Nat) :
    spansFrom (pos + 4) lengths = (spansFrom pos lengths).map fun span => (span.1 + 4, span.2) := by
  induction lengths generalizing pos with
  | nil => rfl
  | cons len rest ih =>
    rw [spansFrom, spansFrom, align_add_four, Nat.add_right_comm, ih, List.map_cons]

/-! ### One more frame -/

lemma endFrom_concat (pos : Nat) (lengths : List Nat) (len : Nat) :
    endFrom pos (lengths ++ [len]) = align (endFrom pos lengths) + len :=
  List.foldl_concat ..

lemma spansFrom_concat (pos : Nat) (lengths : List Nat) (len : Nat) :
    spansFrom pos (lengths ++ [len]) = spansFrom pos lengths ++ [(align (endFrom pos lengths), len)] := by
  induction lengths generalizing pos with
  | nil => rfl
  | cons first rest ih => rw [List.cons_append, spansFrom, ih, spansFrom, endFrom_cons, List.cons_append]

lemma blockLen_concat (lengths : List Nat) (len : Nat) :
    blockLen (lengths ++ [len]) = align (blockLen lengths + 4) + len := by
  rw [blockLen, List.length_append, List.length_singleton, tableEnd_succ, endFrom_concat,
    endFrom_add_four, blockLen]

lemma blockLen_lt_concat (lengths : List Nat) (len : Nat) :
    blockLen lengths < blockLen (lengths ++ [len]) := by
  have hle := le_align (blockLen lengths + 4)
  rw [blockLen_concat]
  omega

lemma blockLen_le_append (lengths more : List Nat) : blockLen lengths ≤ blockLen (lengths ++ more) := by
  induction more using List.reverseRecOn with
  | nil => rw [List.append_nil]
  | append_singleton more len ih =>
    rw [← List.append_assoc]
    exact ih.trans (blockLen_lt_concat _ len).le

/-! ### Longer frames -/

lemma align_mono : Monotone align := by
  intro pos pos' h
  unfold align
  omega

lemma endFrom_mono {pos pos' : Nat} {lengths lengths' : List Nat} (hpos : pos ≤ pos')
    (h : List.Forall₂ (· ≤ ·) lengths lengths') : endFrom pos lengths ≤ endFrom pos' lengths' := by
  induction h generalizing pos pos' with
  | nil => exact hpos
  | cons hlen _ ih => exact ih (Nat.add_le_add (align_mono hpos) hlen)

lemma blockLen_mono {lengths lengths' : List Nat} (h : List.Forall₂ (· ≤ ·) lengths lengths') :
    blockLen lengths ≤ blockLen lengths' := by
  rw [blockLen, blockLen, h.length_eq]
  exact endFrom_mono le_rfl h

/-! ### Words -/

/-- Alignment in words of 64 bits: the two lowest bits are masked out. -/
def alignWord (pos : UInt64) : UInt64 := ((pos + 1) &&& ~~~3) + 2

/-- Where the datagrams end, in words of 64 bits. -/
def endFromWord (pos : UInt64) (lengths : List UInt64) : UInt64 :=
  lengths.foldl (fun last len => alignWord last + len) pos

/-- The length of a block, in words of 64 bits. -/
def blockLenWord (lengths : List UInt64) : UInt64 :=
  endFromWord (UInt64.ofNat (tableEnd lengths.length)) lengths

lemma toNat_and_not_three (w : UInt64) : (w &&& ~~~3).toNat = w.toNat / 4 * 4 := by
  have hmask : (~~~3 : UInt64).toNat = 2 ^ 64 - (3 + 1) := rfl
  have hshift : w.toNat / 4 * 4 = w.toNat >>> 2 <<< 2 := by
    rw [Nat.shiftRight_eq_div_pow, Nat.shiftLeft_eq]
  rw [UInt64.toNat_and, hmask, hshift]
  -- the two sides agree bit by bit: below bit 2, from there to bit 63, and above
  apply Nat.eq_of_testBit_eq
  intro i
  have hlow : Nat.testBit 3 i = decide (i < 2) := Nat.testBit_two_pow_sub_one 2 i
  rw [Nat.testBit_and, Nat.testBit_two_pow_sub_succ (by decide), hlow, Nat.testBit_shiftLeft,
    Nat.testBit_shiftRight]
  rcases Nat.lt_or_ge i 2 with hi | hi
  · simp [hi, Nat.not_le.2 hi]
  · rw [Nat.add_sub_cancel' hi]
    rcases Nat.lt_or_ge i 64 with hin | hout
    · simp [hi, hin, Nat.not_lt.2 hi]
    · have hzero : w.toNat.testBit i = false :=
        Nat.testBit_lt_two_pow (w.toNat_lt.trans_le (Nat.pow_le_pow_right (by decide) hout))
      simp [hzero]

lemma toNat_alignWord {pos : UInt64} (h : align pos.toNat < UInt64.size) :
    (alignWord pos).toNat = align pos.toNat := by
  have htwo : (2 : UInt64).toNat = 2 := rfl
  have hsize : UInt64.size = 18446744073709551616 := rfl
  unfold align at h ⊢
  have hstep : (pos + 1).toNat = pos.toNat + 1 := by
    rw [UInt64.toNat_add, UInt64.toNat_one]
    omega
  rw [alignWord, UInt64.toNat_add, toNat_and_not_three, hstep, htwo]
  omega

lemma toNat_endFromWord {pos : UInt64} {lengths : List UInt64}
    (h : endFrom pos.toNat (lengths.map UInt64.toNat) < UInt64.size) :
    (endFromWord pos lengths).toNat = endFrom pos.toNat (lengths.map UInt64.toNat) := by
  induction lengths generalizing pos with
  | nil => rfl
  | cons len rest ih =>
    rw [List.map_cons, endFrom_cons] at h ⊢
    have hstep := (le_endFrom _ _).trans_lt h
    have halign : (alignWord pos).toNat = align pos.toNat :=
      toNat_alignWord ((Nat.le_add_right _ _).trans_lt hstep)
    have hnext : (alignWord pos + len).toNat = align pos.toNat + len.toNat := by
      rw [UInt64.toNat_add, halign, Nat.mod_eq_of_lt hstep]
    rw [← hnext] at h ⊢
    exact ih h

/-- No step overflows if the length of the block does not. -/
lemma toNat_blockLenWord {lengths : List UInt64} (h : blockLen (lengths.map UInt64.toNat) < UInt64.size) :
    (blockLenWord lengths).toNat = blockLen (lengths.map UInt64.toNat) := by
  rw [blockLen, List.length_map] at h ⊢
  have hstart : (UInt64.ofNat (tableEnd lengths.length)).toNat = tableEnd lengths.length :=
    UInt64.toNat_ofNat_of_lt ((le_endFrom _ _).trans_lt h)
  rw [← hstart] at h
  rw [blockLenWord, toNat_endFromWord h, hstart]

/-! ### Batches -/

/-- One more frame moves all datagrams by four bytes and is put behind them, so that the length grows; it
also grows with each length. What comes first in a batch fits every limit that the batch fits. In words of
64 bits the lengths come out the same as long as the block itself is not longer than a word can tell. -/
theorem blockLen_grows_frame_by_frame (lengths : List Nat) (len : Nat) :
    blockLen (lengths ++ [len]) = align (blockLen lengths + 4) + len ∧
    spansFrom (tableEnd (lengths ++ [len]).length) (lengths ++ [len]) =
      (spansFrom (tableEnd lengths.length) lengths).map (fun span => (span.1 + 4, span.2)) ++
        [(align (blockLen lengths + 4), len)] ∧
    blockLen lengths < blockLen (lengths ++ [len]) ∧
    (∀ lengths', List.Forall₂ (· ≤ ·) lengths lengths' → blockLen lengths ≤ blockLen lengths') ∧
    (∀ limit first, first <+: lengths → blockLen lengths ≤ limit → blockLen first ≤ limit) ∧
    ∀ words : List UInt64, words.map UInt64.toNat = lengths → blockLen lengths < UInt64.size →
      (blockLenWord words).toNat = blockLen lengths := by
  refine ⟨blockLen_concat lengths len, ?_, blockLen_lt_concat lengths len, fun _ => blockLen_mono, ?_, ?_⟩
  · rw [List.length_append, List.length_singleton, tableEnd_succ, spansFrom_concat, spansFrom_add_four,
      endFrom_add_four, blockLen]
  · rintro limit first ⟨more, rfl⟩ hlimit
    exact (blockLen_le_append first more).trans hlimit
  · rintro words rfl hshort
    exact toNat_blockLenWord hshort

/-- A third frame moves the first two by four bytes; the first alone fits the limit that both of them fit. -/
theorem blockLen_grows_by_third_frame :
    blockLen [61, 60] = 158 ∧ blockLen [61, 60, 100] = 262 ∧
    spansFrom (tableEnd 2) [61, 60] = [(34, 61), (98, 60)] ∧
    spansFrom (tableEnd 3) [61, 60, 100] = [(38, 61), (102, 60), (162, 100)] ∧
    blockLen [61] ≤ 158 ∧ blockLen [61, 60] ≤ blockLen [61, 64] ∧
    (blockLenWord [61, 60]).toNat = blockLen [61, 60] := by
  obtain ⟨-, -, -, hlonger, hfirst, hwords⟩ := blockLen_grows_frame_by_frame [61, 60] 100
  refine ⟨rfl, rfl, rfl, rfl, hfirst 158 [61] ⟨[60], rfl⟩ (by decide), ?_, ?_⟩
  · exact hlonger [61, 64] (.cons le_rfl (.cons (by decide) .nil))
  · exact hwords [61, 60] rfl (by decide)

end NcmBridge.Layout
