import Mathlib.Data.List.Infix
import NcmBridge.Block.Error

/-!
# Reads of a string of bytes as prefixes

A checked read succeeds exactly when what it yields stands at its position, that is, when it is a prefix
of the bytes from that position on. So the readers of headers can be compared with their writers.
-/

namespace NcmBridge.Octets

/-! ### Arrays of bytes -/

lemma toList_loop_eq (bytes : ByteArray) (i : Nat) (r : List UInt8) :
    ByteArray.toList.loop bytes i r = r.reverse ++ bytes.data.toList.drop i := by
  fun_induction ByteArray.toList.loop bytes i r with
  | case1 i r h ih =>
    have hi : i < bytes.data.toList.length := h
    rw [ih, List.drop_eq_getElem_cons hi, List.reverse_cons, List.append_assoc]
    simp [ByteArray.get!, getElem!_pos bytes.data i h]
  | case2 i r h =>
    have hi : bytes.data.toList.length ≤ i := Nat.le_of_not_lt h
    rw [List.drop_eq_nil_of_le hi, List.append_nil]

lemma toList_byteArray (bytes : ByteArray) : bytes.toList = bytes.data.toList :=
  toList_loop_eq bytes 0 []

/-! ### Prefixes -/

lemma append_prefix_iff {a b bytes : Octets} :
    a ++ b <+: bytes ↔ a <+: bytes ∧ b <+: bytes.drop a.length := by
  constructor
  · rintro ⟨rest, rfl⟩
    rw [List.append_assoc]
    exact ⟨List.prefix_append _ _, by simp⟩
  · rintro ⟨⟨rest, rfl⟩, h⟩
    rw [List.drop_left] at h
    rwa [List.prefix_append_right_inj]

lemma prefix_drop_take_iff {piece bytes : Octets} {pos size : Nat} :
    piece <+: (bytes.take size).drop pos ↔ piece <+: bytes.drop pos ∧ piece.length ≤ size - pos := by
  rw [List.drop_take, List.prefix_take_iff]

/-! ### Words -/

lemma word16_eq_iff {lo hi : UInt8} {w : UInt16} :
    UInt16.ofNat (lo.toNat + 256 * hi.toNat) = w ↔ [lo, hi] = ofWord16 w := by
  have hlo := lo.toNat_lt
  have hhi := hi.toNat_lt
  have hw := w.toNat_lt
  simp only [ofWord16, List.cons.injEq, and_true, ← UInt8.toNat_inj, UInt8.toNat_ofNat', ← UInt16.toNat_inj,
    UInt16.toNat_ofNat']
  omega

lemma word32_eq_iff {b0 b1 b2 b3 : UInt8} {w : UInt32} :
    UInt32.ofNat (b0.toNat + 256 * (b1.toNat + 256 * (b2.toNat + 256 * b3.toNat))) = w ↔
      [b0, b1, b2, b3] = ofWord32 w := by
  have h0 := b0.toNat_lt
  have h1 := b1.toNat_lt
  have h2 := b2.toNat_lt
  have h3 := b3.toNat_lt
  have hw := w.toNat_lt
  simp only [ofWord32, List.cons.injEq, and_true, ← UInt8.toNat_inj, UInt8.toNat_ofNat', ← UInt32.toNat_inj,
    UInt32.toNat_ofNat']
  omega

/-- A word read at a position stands there. -/
lemma word16?_eq_some_iff {bytes : Octets} {pos : Nat} {w : UInt16} :
    bytes.word16? pos = some w ↔ ofWord16 w <+: bytes.drop pos := by
  unfold word16?
  rw [List.prefix_iff_eq_take, length_ofWord16]
  rcases bytes.drop pos with _ | ⟨lo, _ | ⟨hi, rest⟩⟩
  · simp [ofWord16]
  · simp [ofWord16]
  · rw [Option.some_inj, word16_eq_iff, eq_comm]
    rfl

@[simp] lemma word16?_drop (bytes : Octets) (n pos : Nat) :
    word16? (bytes.drop n) pos = bytes.word16? (n + pos) := by
  simp only [word16?, List.drop_drop]

/-- Bytes past a word do not matter for it. -/
lemma word16?_take {bytes : Octets} {size pos : Nat} (h : pos + 2 ≤ size) :
    word16? (bytes.take size) pos = bytes.word16? pos := by
  obtain ⟨n, hn⟩ := Nat.exists_eq_add_of_le (show 2 ≤ size - pos by omega)
  simp only [word16?, List.drop_take, hn, Nat.add_comm 2 n]
  rcases bytes.drop pos with _ | ⟨lo, _ | ⟨hi, rest⟩⟩
  · rfl
  · rfl
  · rfl

lemma word32?_eq_some_iff {bytes : Octets} {pos : Nat} {w : UInt32} :
    bytes.word32? pos = some w ↔ ofWord32 w <+: bytes.drop pos := by
  unfold word32?
  rw [List.prefix_iff_eq_take, length_ofWord32]
  rcases bytes.drop pos with _ | ⟨b0, _ | ⟨b1, _ | ⟨b2, _ | ⟨b3, rest⟩⟩⟩⟩
  · simp [ofWord32]
  · simp [ofWord32]
  · simp [ofWord32]
  · simp [ofWord32]
  · rw [Option.some_inj, word32_eq_iff, eq_comm]
    rfl

lemma slice?_eq_some_iff {bytes piece : Octets} {start len : Nat} :
    bytes.slice? start len = some piece ↔ piece.length = len ∧ piece <+: bytes.drop start := by
  simp only [slice?]
  rw [List.prefix_iff_eq_take]
  split
  next h =>
    rw [Option.some_inj]
    constructor
    · rintro rfl
      exact ⟨h, by rw [h]⟩
    · rintro ⟨rfl, hp⟩
      exact hp.symm
  next h =>
    simp only [reduceCtorEq, false_iff, not_and]
    rintro rfl hp
    exact h (hp ▸ rfl)

/-- A slice is taken where its bytes are there. -/
lemma slice?_of_le {bytes : Octets} {start len : Nat} (h : start + len ≤ bytes.length) :
    bytes.slice? start len = some ((bytes.drop start).take len) := by
  refine slice?_eq_some_iff.2 ⟨?_, List.take_prefix _ _⟩
  rw [List.length_take, List.length_drop]
  omega

/-! ### Reads whose absence is an error -/

lemma word16_eq_ok_iff {bytes : Octets} {pos : Nat} {w : UInt16} :
    bytes.word16 pos = .ok w ↔ ofWord16 w <+: bytes.drop pos := by
  rw [← word16?_eq_some_iff]
  unfold word16
  cases bytes.word16? pos <;> simp

lemma word32_eq_ok_iff {bytes : Octets} {pos : Nat} {w : UInt32} :
    bytes.word32 pos = .ok w ↔ ofWord32 w <+: bytes.drop pos := by
  rw [← word32?_eq_some_iff]
  unfold word32
  cases bytes.word32? pos <;> simp

lemma word16_ne_invalidSignature {bytes : Octets} {pos : Nat} {found : UInt32} :
    bytes.word16 pos ≠ .error (.invalidSignature found) := by
  unfold word16
  split <;> simp

/-- A word is read where its bytes are there. -/
lemma exists_word16_of_le {bytes : Octets} {pos : Nat} (h : pos + 2 ≤ bytes.length) :
    ∃ w, bytes.word16 pos = .ok w := by
  have hlen : 2 ≤ (bytes.drop pos).length := by
    rw [List.length_drop]
    omega
  unfold word16 word16?
  match bytes.drop pos, hlen with
  | _ :: _ :: _, _ => exact ⟨_, rfl⟩

lemma exists_word32_of_le {bytes : Octets} {pos : Nat} (h : pos + 4 ≤ bytes.length) :
    ∃ w, bytes.word32 pos = .ok w := by
  have hlen : 4 ≤ (bytes.drop pos).length := by
    rw [List.length_drop]
    omega
  unfold word32 word32?
  match bytes.drop pos, hlen with
  | _ :: _ :: _ :: _ :: _, _ => exact ⟨_, rfl⟩

lemma slice_eq_ok_iff {bytes piece : Octets} {start len : Nat} :
    bytes.slice start len = .ok piece ↔ piece.length = len ∧ piece <+: bytes.drop start := by
  rw [← slice?_eq_some_iff]
  unfold slice
  cases bytes.slice? start len <;> simp

lemma slice_of_le {bytes : Octets} {start len : Nat} (h : start + len ≤ bytes.length) :
    bytes.slice start len = .ok ((bytes.drop start).take len) := by
  rw [slice, slice?_of_le h]

end NcmBridge.Octets
