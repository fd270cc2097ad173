import NcmBridge.Block.Header
import NcmBridge.Proofs.Checks
import NcmBridge.Proofs.Octets

/-!
# Headers are read as they are written

Every header has exactly one written form: reading yields a header exactly when the written form of that
header stands at the place that is read.
-/

namespace NcmBridge

open Octets

namespace TransferHeader

lemma encode_prefix_iff {bytes : Octets} {h : TransferHeader} :
    h.encode <+: bytes ↔
      ofWord32 transferSignature <+: bytes ∧
        ofWord16 (UInt16.ofNat transferHeaderLen) <+: bytes.drop 4 ∧
        ofWord16 h.sequence <+: bytes.drop 6 ∧ ofWord16 h.blockLen <+: bytes.drop 8 ∧
        ofWord16 h.tableIndex <+: bytes.drop 10 := by
  simp only [encode, append_prefix_iff, List.length_append, length_ofWord32, length_ofWord16, and_assoc,
    Nat.reduceAdd]

/-- A transfer header is read exactly where it is written. -/
theorem parse_eq_ok_iff {bytes : Octets} {h : TransferHeader} :
    parse bytes = .ok h ↔ h.encode <+: bytes := by
  simp only [parse, Checks.unless_throw_eq_ok_iff, Checks.bind_eq_ok_iff, Checks.pure_eq_ok_iff,
    word32_eq_ok_iff, word16_eq_ok_iff, ne_eq, not_not, List.drop_zero]
  constructor
  · rintro ⟨-, _, hsig, rfl, -, len, hlen, hlen', seq, hseq, size, hsize, index, hindex, rfl⟩
    have heq : len = UInt16.ofNat transferHeaderLen := UInt16.toNat_inj.1 hlen'
    exact encode_prefix_iff.2 ⟨hsig, heq ▸ hlen, hseq, hsize, hindex⟩
  · intro h'
    have hle : 12 ≤ bytes.length := h'.length_le
    obtain ⟨hsig, hlen, hseq, hsize, hindex⟩ := encode_prefix_iff.1 h'
    refine ⟨?_, _, hsig, rfl, ?_, _, hlen, rfl, _, hseq, _, hsize, _, hindex, rfl⟩
    · rw [List.length_take]
      omega
    · rw [List.length_take, transferHeaderLen]
      omega

/-- No header is refused for a signature that is right. -/
lemma parse_ne_invalidSignature {bytes : Octets} (h : ofWord32 transferSignature <+: bytes) (found : UInt32) :
    parse bytes ≠ .error (.invalidSignature found) := by
  have hword : bytes.word32 0 = .ok transferSignature := word32_eq_ok_iff.2 h
  unfold parse
  refine Checks.unless_throw_ne_error (by simp) ?_
  rw [hword, Checks.ok_bind, if_neg (not_not.2 rfl)]
  refine Checks.unless_throw_ne_error (by simp) ?_
  refine Checks.bind_ne_error word16_ne_invalidSignature fun headerLen => ?_
  refine Checks.unless_throw_ne_error (by simp) ?_
  refine Checks.bind_ne_error word16_ne_invalidSignature fun sequence => ?_
  refine Checks.bind_ne_error word16_ne_invalidSignature fun blockLen => ?_
  exact Checks.bind_ne_error word16_ne_invalidSignature fun tableIndex => by simp [pure, Except.pure]

/-- No two transfer headers begin the same bytes. -/
lemma eq_of_encode_prefix {bytes : Octets} {h h' : TransferHeader} (hh : h.encode <+: bytes)
    (hh' : h'.encode <+: bytes) : h = h' :=
  Except.ok.inj ((parse_eq_ok_iff.2 hh).symm.trans (parse_eq_ok_iff.2 hh'))

end TransferHeader

/-- The block opens with a header that declares its length. -/
def Framed (block : Octets) : Prop :=
  ∃ header : TransferHeader, header.encode <+: block ∧ header.blockLen.toNat = block.length

lemma Framed.twelve_le {block : Octets} (h : Framed block) : 12 ≤ block.length := by
  obtain ⟨header, hopens, -⟩ := h
  exact (TransferHeader.length_encode header).symm.trans_le hopens.length_le

namespace TableHeader

lemma encode_prefix_iff {bytes : Octets} {t : TableHeader} :
    t.encode <+: bytes ↔
      ofWord32 tableSignature <+: bytes ∧ ofWord16 t.length <+: bytes.drop 4 ∧
        ofWord16 t.next <+: bytes.drop 6 := by
  simp only [encode, append_prefix_iff, List.length_append, length_ofWord32, length_ofWord16, and_assoc,
    Nat.reduceAdd]

/-- A table header is read exactly where it is written. -/
theorem parse_eq_ok_iff {block : Octets} {offset : Nat} {t : TableHeader} :
    parse block offset = .ok t ↔ t.encode <+: block.drop offset := by
  unfold parse
  cases hs : block.slice? offset tableHeaderLen with
  | none =>
    simp only [throw, throwThe, MonadExceptOf.throw, reduceCtorEq, false_iff]
    intro h
    simp [slice?_eq_some_iff.2 ⟨t.length_encode, h⟩, tableHeaderLen] at hs
  | some bytes =>
    obtain ⟨hlen, hbytes⟩ := slice?_eq_some_iff.1 hs
    have hiff : t.encode <+: bytes ↔ t.encode <+: block.drop offset :=
      ⟨fun h => h.trans hbytes, fun h => List.prefix_of_prefix_length_le h hbytes hlen.ge⟩
    simp only [Checks.unless_throw_eq_ok_iff, Checks.bind_eq_ok_iff, Checks.pure_eq_ok_iff,
      word32_eq_ok_iff, word16_eq_ok_iff, ne_eq, not_not, List.drop_zero]
    rw [← hiff, encode_prefix_iff]
    constructor
    · rintro ⟨_, hsig, rfl, len, hlen, next, hnext, rfl⟩
      exact ⟨hsig, hlen, hnext⟩
    · rintro ⟨hsig, hlen, hnext⟩
      exact ⟨_, hsig, rfl, _, hlen, _, hnext, rfl⟩

/-- No two table headers stand at one place. -/
lemma eq_of_encode_prefix {block : Octets} {offset : Nat} {t u : TableHeader}
    (ht : t.encode <+: block.drop offset) (hu : u.encode <+: block.drop offset) : t = u :=
  Except.ok.inj ((parse_eq_ok_iff.2 ht).symm.trans (parse_eq_ok_iff.2 hu))

end TableHeader

end NcmBridge
