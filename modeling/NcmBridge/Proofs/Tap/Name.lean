import Mathlib.Data.String.Basic
import Mathlib.Tactic.Lemma
import NcmBridge.Proofs.Octets
import NcmBridge.Tap.Device

/-!
# Names that the kernel takes

A name is judged by its characters: how many bytes they have, and whether one of them is forbidden. A
name that is taken fits the sixteen bytes of a request, with a zero byte to spare.
-/

namespace NcmBridge

open String (utf8Len)

namespace Tap

lemma isValidName_ofList {cs : List Char} : isValidName (String.ofList cs) = true ↔
    cs ≠ [] ∧ utf8Len cs ≤ maxNameLen ∧ cs ≠ ['.'] ∧ cs ≠ ['.', '.'] ∧
      ∀ c ∈ cs, isForbidden c = false := by
  have heq : ∀ ds : List Char, String.ofList cs = String.ofList ds ↔ cs = ds := fun _ => String.ofList_inj
  have hempty : String.ofList cs = "" ↔ cs = [] := heq []
  have hdot : String.ofList cs = "." ↔ cs = ['.'] := heq ['.']
  have hdots : String.ofList cs = ".." ↔ cs = ['.', '.'] := heq ['.', '.']
  simp [isValidName, String.utf8ByteSize_ofList, hempty, hdot, hdots, and_assoc]

/-- Letters and digits of ASCII have one byte and may stand in a name. -/
lemma of_isAlphanum {c : Char} (h : c.isAlphanum = true) :
    c.utf8Size = 1 ∧ c ≠ '.' ∧ isForbidden c = false := by
  have hrange : ((0x41 ≤ c.toNat ∧ c.toNat ≤ 0x5A) ∨ (0x61 ≤ c.toNat ∧ c.toNat ≤ 0x7A)) ∨
      (0x30 ≤ c.toNat ∧ c.toNat ≤ 0x39) := by
    have hvals : ((decide (0x41 ≤ c.val ∧ c.val ≤ 0x5A) || 0x61 ≤ c.val && c.val ≤ 0x7A) ||
      0x30 ≤ c.val && c.val ≤ 0x39) = true := h
    simp only [Bool.or_eq_true, Bool.and_eq_true, decide_eq_true_eq, UInt32.le_iff_toNat_le] at hvals
    exact hvals
  have hne : ∀ d : Char, d.toNat < 0x30 ∨ d.toNat = 0x3A → c ≠ d := by
    rintro d hd rfl
    omega
  refine ⟨?_, hne '.' (by decide), ?_⟩
  · rw [Char.utf8Size_eq_one_iff, UInt32.le_iff_toNat_le]
    have hval : c.val.toNat = c.toNat := rfl
    have hmax : (127 : UInt32).toNat = 127 := rfl
    omega
  · simp only [isForbidden, Text.isAsciiBlank, Bool.or_eq_false_iff, decide_eq_false_iff_not]
    refine ⟨⟨⟨hne '/' (by decide), hne ':' (by decide)⟩, by omega⟩, ?_⟩
    refine ⟨⟨⟨⟨hne ' ' (by decide), hne '\t' (by decide)⟩, hne '\n' (by decide)⟩, hne '\r' (by decide)⟩, ?_⟩
    omega

variable {name : String}

lemma utf8ByteSize_le_of_isValidName (h : isValidName name = true) : name.utf8ByteSize ≤ 15 := by
  simp only [isValidName, Bool.and_eq_true, decide_eq_true_eq] at h
  exact h.1.1.1.2

/-- A name that is taken fits a request, with a zero byte behind it. -/
lemma interfaceRequest_of_isValidName (h : isValidName name = true) :
    (interfaceRequest name).length = 40 ∧ (interfaceRequest name)[15]? = some 0 := by
  have hsize := utf8ByteSize_le_of_isValidName h
  have hlen : name.toUTF8.toList.length = name.utf8ByteSize := by
    rw [Octets.toList_byteArray]
    rfl
  refine ⟨?_, ?_⟩
  · simp only [interfaceRequest, List.length_append, Octets.length_zeros, Octets.length_ofWord16]
    omega
  · have hzero : (Octets.zeros (16 - name.toUTF8.toList.length))[15 - name.toUTF8.toList.length]? =
        some 0 := by
      rw [Octets.zeros, List.getElem?_replicate, if_pos (by omega)]
    rw [interfaceRequest, List.append_assoc, List.append_assoc, List.getElem?_append_right (by omega),
      List.getElem?_append_left (by rw [Octets.length_zeros]; omega), hzero]

end Tap

/-- A name that is taken is not refused. -/
lemma TapDevice.create_ne_invalidName {name other : String} (h : Tap.isValidName name = true)
    (k : Tap.Kernel) : (TapDevice.create name k).1 ≠ .error (.invalidName other) := by
  rw [create, h]
  simp only [Bool.not_true, Bool.false_eq_true, if_false]
  split
  · simp
  · split <;> simp

end NcmBridge
