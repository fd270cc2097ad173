import Mathlib.Data.List.DropRight
import Mathlib.Tactic.Lemma
import NcmBridge.Files
import NcmBridge.Text.Blank
import NcmBridge.Text.Lossy

/-!
# Texts, their bytes and their ends

Bytes are a text exactly when they are what a text is written as, and then that text is what is shown for
them. Only what is no text is shown as something else. A text without some characters at its ends is the part
that stands between them.
-/

namespace NcmBridge

/-! ### Characters -/

namespace Lossy

lemma isContinuation_iff {b : UInt8} : isContinuation b = true ↔ 0x80 ≤ b.toNat ∧ b.toNat ≤ 0xBF := by
  simp [isContinuation, UInt8.le_iff_toNat_le]

lemma mayFollow_iff {b0 b1 : UInt8} : mayFollow b0 b1 = true ↔
    0xC2 ≤ b0.toNat ∧ b0.toNat ≤ 0xF4 ∧ 0x80 ≤ b1.toNat ∧ b1.toNat ≤ 0xBF ∧
      (b0.toNat = 0xE0 → 0xA0 ≤ b1.toNat) ∧ (b0.toNat = 0xED → b1.toNat ≤ 0x9F) ∧
      (b0.toNat = 0xF0 → 0x90 ≤ b1.toNat) ∧ (b0.toNat = 0xF4 → b1.toNat ≤ 0x8F) := by
  simp only [mayFollow, isContinuation, UInt8.le_iff_toNat_le, ← UInt8.toNat_inj, Bool.and_eq_true,
    decide_eq_true_eq, UInt8.reduceToNat]
  repeat' split
  all_goals simp only [Bool.and_eq_true, decide_eq_true_eq, Bool.false_eq_true, false_iff]
  all_goals omega

section

variable {b0 b1 b2 b3 : UInt8} (rest : Octets)

lemma chars_one (h : b0.toNat < 0x80) : chars (b0 :: rest) = Char.ofNat b0.toNat :: chars rest := by
  rw [chars.eq_def]
  exact if_pos (UInt8.lt_iff_toNat_lt.2 h)

lemma chars_two (h : mayFollow b0 b1 = true) (hlead : b0.toNat < 0xE0) :
    chars (b0 :: b1 :: rest) =
      Char.ofNat (b0.toNat % 32 * 64 + b1.toNat % 64) :: chars rest := by
  have hb0 := (mayFollow_iff.1 h).1
  rw [chars.eq_def]
  simp [bits, h, UInt8.lt_iff_toNat_lt, Nat.not_lt.2 (show 0x80 ≤ b0.toNat by omega), hlead]

lemma chars_three (h : mayFollow b0 b1 = true) (hlead : 0xE0 ≤ b0.toNat) (hlead' : b0.toNat < 0xF0)
    (h2 : isContinuation b2 = true) :
    chars (b0 :: b1 :: b2 :: rest) =
      Char.ofNat ((b0.toNat % 16 * 64 + b1.toNat % 64) * 64 + b2.toNat % 64) :: chars rest := by
  have hb0 := (mayFollow_iff.1 h).1
  rw [chars.eq_def]
  simp [bits, h, h2, UInt8.lt_iff_toNat_lt, Nat.not_lt.2 (show 0x80 ≤ b0.toNat by omega),
    Nat.not_lt.2 hlead, hlead']

lemma chars_four (h : mayFollow b0 b1 = true) (hlead : 0xF0 ≤ b0.toNat)
    (h2 : isContinuation b2 = true) (h3 : isContinuation b3 = true) :
    chars (b0 :: b1 :: b2 :: b3 :: rest) =
      Char.ofNat (((b0.toNat % 8 * 64 + b1.toNat % 64) * 64 + b2.toNat % 64) * 64 + b3.toNat % 64) ::
        chars rest := by
  have hb0 := (mayFollow_iff.1 h).1
  rw [chars.eq_def]
  simp [bits, h, h2, h3, UInt8.lt_iff_toNat_lt, Nat.not_lt.2 (show 0x80 ≤ b0.toNat by omega),
    Nat.not_lt.2 (show 0xE0 ≤ b0.toNat by omega), Nat.not_lt.2 hlead]

end

/-- The bytes of a character are read as that character, whatever comes after them. -/
lemma chars_utf8EncodeChar (c : Char) (rest : Octets) :
    chars (String.utf8EncodeChar c ++ rest) = c :: chars rest := by
  -- one case for each number of bytes
  have hbyte {n : Nat} (h : n < 256) : (UInt8.ofNat n).toNat = n := UInt8.toNat_ofNat_of_lt' h
  have hc : Char.ofNat c.val.toNat = c := Char.ofNat_toNat c
  have hvalid : c.val.toNat < 0xD800 ∨ 0xDFFF < c.val.toNat ∧ c.val.toNat < 0x110000 := c.valid
  rw [String.utf8EncodeChar]
  generalize c.val.toNat = v at hc hvalid
  have htail (n : Nat) : (UInt8.ofNat (n % 64 + 128)).toNat = n % 64 + 128 := hbyte (by omega)
  have hcontinues (n : Nat) : isContinuation (UInt8.ofNat (n % 64 + 128)) = true := by
    rw [isContinuation_iff, htail]
    omega
  split
  · next hone =>
    rw [List.singleton_append, chars_one, hbyte (by omega), hc]
    rw [hbyte (by omega)]
    omega
  split
  · next htwo =>
    have hlead : (UInt8.ofNat (v / 64 % 32 + 192)).toNat = v / 64 % 32 + 192 := hbyte (by omega)
    have hfollow : mayFollow (UInt8.ofNat (v / 64 % 32 + 192)) (UInt8.ofNat (v % 64 + 128)) = true := by
      rw [mayFollow_iff, hlead, htail]
      omega
    refine (chars_two rest hfollow (by omega)).trans ?_
    rw [hlead, htail, ← hc]
    congr 2
    omega
  split
  · next hthree =>
    have hlead : (UInt8.ofNat (v / 4096 % 16 + 224)).toNat = v / 4096 % 16 + 224 := hbyte (by omega)
    have hfollow : mayFollow (UInt8.ofNat (v / 4096 % 16 + 224))
        (UInt8.ofNat (v / 64 % 64 + 128)) = true := by
      rw [mayFollow_iff, hlead, htail]
      omega
    refine (chars_three rest hfollow (by omega) (by omega) (hcontinues _)).trans ?_
    rw [hlead, htail, htail, ← hc]
    congr 2
    omega
  · next hfour =>
    have hlead : (UInt8.ofNat (v / 262144 % 8 + 240)).toNat = v / 262144 % 8 + 240 :=
      hbyte (by omega)
    have hfollow : mayFollow (UInt8.ofNat (v / 262144 % 8 + 240))
        (UInt8.ofNat (v / 4096 % 64 + 128)) = true := by
      rw [mayFollow_iff, hlead, htail]
      omega
    refine (chars_four rest hfollow (by omega) (hcontinues _) (hcontinues _)).trans ?_
    rw [hlead, htail, htail, htail, ← hc]
    congr 2
    omega

end Lossy

/-! ### Texts as bytes -/

namespace Octets

lemma ofText_eq (s : String) : ofText s = s.toList.flatMap String.utf8EncodeChar := by
  rw [ofText, String.toUTF8, ← String.utf8Encode_toList, List.utf8Encode]
  simp

/-- The bytes of a text are shown as that text. -/
lemma lossyText_ofText (s : String) : (ofText s).lossyText = s := by
  have hchars (cs : List Char) : Lossy.chars (cs.flatMap String.utf8EncodeChar) = cs := by
    induction cs with
    | nil => rfl
    | cons c cs ih => rw [List.flatMap_cons, Lossy.chars_utf8EncodeChar, ih]
  rw [lossyText, ofText_eq, hchars, String.ofList_toList]

lemma text?_eq_some_iff {bytes : Octets} {s : String} : bytes.text? = some s ↔ ofText s = bytes := by
  constructor
  · intro h
    rw [text?, String.fromUTF8?] at h
    split at h
    · rw [← Option.some.inj h, ofText, String.toUTF8, String.fromUTF8, List.toList_toArray]
    · cases h
  · rintro rfl
    have hbytes : (⟨(ofText s).toArray⟩ : ByteArray) = s.toUTF8 := by
      rw [ofText, Array.toArray_toList]
    rw [text?, hbytes, String.fromUTF8?]
    split
    · rfl
    · next h => exact absurd s.isValidUTF8 h

end Octets

/-! ### Ends of a text -/

namespace Text

variable {kind : Char → Bool} {cs core : List Char}

/-- Characters of a kind are at neither end of a text. -/
def NotAtEnds (kind : Char → Bool) (cs : List Char) : Prop :=
  (∀ c ∈ cs.head?, kind c = false) ∧ ∀ c ∈ cs.getLast?, kind c = false

lemma dropWhile_append_of_head? {front : List Char} (hfront : ∀ c ∈ front, kind c = true)
    (hcs : ∀ c ∈ cs.head?, kind c = false) : (front ++ cs).dropWhile kind = cs := by
  rw [List.dropWhile_append_of_pos hfront]
  cases cs with
  | nil => rfl
  | cons c cs => rw [List.dropWhile_cons_of_neg (by simpa using hcs)]

lemma head?_dropWhile (kind : Char → Bool) (cs : List Char) : ∀ c ∈ (cs.dropWhile kind).head?, kind c = false := by
  intro c hc
  simpa [Option.mem_def.1 hc] using List.head?_dropWhile_not kind cs

/-- What is left of a text stands between what was taken away at its ends. -/
lemma stripEnds_eq_iff : stripEnds kind cs = core ↔ ∃ front back, cs = front ++ (core ++ back) ∧
    (∀ c ∈ front, kind c = true) ∧ (∀ c ∈ back, kind c = true) ∧ NotAtEnds kind core := by
  unfold stripEnds
  constructor
  · rintro rfl
    set rest := cs.dropWhile kind with hrest
    have hsplit : (rest.reverse.dropWhile kind).reverse ++ (rest.reverse.takeWhile kind).reverse = rest := by
      rw [← List.reverse_append, List.takeWhile_append_dropWhile, List.reverse_reverse]
    refine ⟨cs.takeWhile kind, (rest.reverse.takeWhile kind).reverse, ?_, ?_, ?_, ?_, ?_⟩
    · rw [hsplit, List.takeWhile_append_dropWhile]
    · exact fun c => List.mem_takeWhile_imp
    · exact fun c hc => List.mem_takeWhile_imp (List.mem_reverse.1 hc)
    · intro c hc
      refine head?_dropWhile kind cs c ?_
      rw [← hrest, ← hsplit, List.head?_append, Option.mem_def.1 hc, Option.some_or, Option.mem_some_iff]
    · intro c hc
      rw [List.getLast?_reverse] at hc
      exact head?_dropWhile kind _ c hc
  · rintro ⟨front, back, rfl, hfront, hback, hhead, hlast⟩
    rw [List.dropWhile_append_of_pos hfront]
    by_cases hcore : core = []
    · rw [hcore, List.nil_append, List.dropWhile_eq_nil_iff.2 hback]
      rfl
    · obtain ⟨c, rest, rfl⟩ := List.exists_cons_of_ne_nil hcore
      rw [List.cons_append, List.dropWhile_cons_of_neg (by simpa using hhead), ← List.cons_append,
        List.reverse_append, dropWhile_append_of_head?, List.reverse_reverse]
      · simpa using hback
      · rwa [List.head?_reverse]

end Text

end NcmBridge
