import Mathlib.Data.List.Infix
import NcmBridge.Block.Encoder

/-!
# Where the datagrams of a written block lie

The length of a block, the entries of its table and the padding between its datagrams are computed
apart from each other, all by aligning the end of what came before. They agree: the payload is as long
as the length of the block says, and each entry names its frame.
-/

namespace NcmBridge.Layout

/-! ### Ends -/

lemma le_endFrom (pos : Nat) (lengths : List Nat) : pos ≤ endFrom pos lengths := by
  induction lengths generalizing pos with
  | nil => exact le_rfl
  | cons len rest ih =>
    rw [endFrom_cons]
    exact ((le_align pos).trans (Nat.le_add_right _ len)).trans (ih _)

/-- A single frame begins at offset 30. -/
lemma blockLen_singleton (len : Nat) : blockLen [len] = 30 + len := by
  have halign : align (tableEnd 1) = 30 := rfl
  rw [blockLen, endFrom_cons, endFrom_nil, List.length_singleton, halign]

/-- The payload ends where the length of the block says. -/
lemma add_length_payloadFrom (pos : Nat) (frames : List Octets) :
    pos + (payloadFrom pos frames).length = endFrom pos (frames.map List.length) := by
  induction frames generalizing pos with
  | nil => rfl
  | cons frame rest ih =>
    have := le_align pos
    rw [List.map_cons, endFrom_cons, ← ih, payloadFrom]
    simp only [List.length_append, Octets.length_zeros]
    omega

@[simp] lemma length_spansFrom (pos : Nat) (lengths : List Nat) :
    (spansFrom pos lengths).length = lengths.length := by
  induction lengths generalizing pos with
  | nil => rfl
  | cons len rest ih => rw [spansFrom, List.length_cons, ih, List.length_cons]

/-! ### Payload -/

/-- The first frame stands at its aligned offset, and the payload goes on after it. -/
lemma payloadFrom_cons {b : Octets} {pos : Nat} {frame : Octets} {rest : List Octets}
    (h : b.drop pos = payloadFrom pos (frame :: rest)) :
    (b.drop (align pos)).take frame.length = frame ∧
      b.drop (align pos + frame.length) = payloadFrom (align pos + frame.length) rest := by
  have hdrop : b.drop (align pos) = frame ++ payloadFrom (align pos + frame.length) rest := by
    have hpad : align pos = pos + (align pos - pos) := by
      have := le_align pos
      omega
    rw [hpad, ← List.drop_drop, h, payloadFrom, ← hpad]
    exact List.drop_left' (Octets.length_zeros _)
  refine ⟨?_, ?_⟩
  · rw [hdrop, List.take_left]
  · rw [← List.drop_drop, hdrop, List.drop_left]

end NcmBridge.Layout
