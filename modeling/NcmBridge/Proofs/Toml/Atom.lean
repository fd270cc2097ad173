import Mathlib.Data.List.TakeWhile
import Mathlib.Tactic.Lemma
import NcmBridge.Toml.Writer

/-!
# Words read back

An integer is written in decimal digits, after a minus if it is negative. Such a word is not taken for a date,
a time or a float, since it has none of their marks, and its value is the integer. A word ends where a
character follows that no word can have.
-/

namespace NcmBridge.Toml

/-- An integer of 64 bits. -/
def IsWord64 (n : Int) : Prop := Atom.minInteger ≤ n ∧ n ≤ Atom.maxInteger

instance (n : Int) : Decidable (IsWord64 n) := inferInstanceAs (Decidable (_ ∧ _))

/-- An integer in decimal digits. -/
def numeral (n : Int) : List Char :=
  if n < 0 then '-' :: Nat.toDigits 10 n.natAbs else Nat.toDigits 10 n.natAbs

lemma writeInteger_of_isWord64 {n : Int} (h : IsWord64 n) : writeInteger n = some (numeral n) := by
  rw [writeInteger, if_neg (by rw [not_or, Int.not_lt, Int.not_lt]; exact h), numeral]
  split <;> rfl

lemma writeInteger_of_not_isWord64 {n : Int} (h : ¬IsWord64 n) : writeInteger n = none := by
  rw [IsWord64, not_and_or, Int.not_le, Int.not_le] at h
  rw [writeInteger, if_pos h]

/-! ### Kinds of characters -/

section Kind

variable {kind : Char → Bool}

/-- A character of a kind is none that is not of this kind. -/
lemma ne_of_kind {c d : Char} (hc : kind c = true) (hd : kind d = false) : c ≠ d := by
  rintro rfl
  exact absurd hc (by rw [hd]; decide)

/-- A word of characters of one kind ends where a character of another kind follows. -/
lemma takeWhile_dropWhile_append {word rest : List Char} (hword : ∀ c ∈ word, kind c = true)
    (hrest : ∀ c s, rest = c :: s → kind c = false) :
    (word ++ rest).takeWhile kind = word ∧ (word ++ rest).dropWhile kind = rest := by
  rw [List.takeWhile_append_of_pos hword, List.dropWhile_append_of_pos hword]
  cases rest with
  | nil => exact ⟨List.append_nil word, rfl⟩
  | cons c rest => simp [hrest c rest rfl]

end Kind

namespace Atom

/-! ### Digits -/

lemma isDigit_of_mem {n : Nat} {c : Char} (h : c ∈ Nat.toDigits 10 n) : c.isDigit = true :=
  Nat.isDigit_of_mem_toDigits (by decide) (by decide) h

lemma notMem_toDigits {c : Char} (h : c.isDigit = false) (n : Nat) : c ∉ Nat.toDigits 10 n :=
  fun hmem => ne_of_kind (isDigit_of_mem hmem) h rfl

lemma ungroup_of_digits {s : List Char} (hne : s ≠ []) (h : ∀ c ∈ s, c.isDigit = true) :
    ungroup Char.isDigit s = some s := by
  induction s with
  | nil => exact absurd rfl hne
  | cons c s ih =>
    obtain ⟨hc, hs⟩ := List.forall_mem_cons.1 h
    cases s with
    | nil => rw [ungroup, if_pos hc]
    | cons d s =>
      rw [ungroup, if_pos hc, ih (List.cons_ne_nil d s) hs]
      · rfl
      · exact List.cons_ne_nil d s
      · exact fun s' heq => ne_of_kind (hs d List.mem_cons_self) (by decide) (List.cons.inj heq).1

/-- A number other than zero does not begin with a zero. -/
lemma toDigits_ne_zero_cons {n : Nat} (hn : n ≠ 0) (s : List Char) : Nat.toDigits 10 n ≠ '0' :: s := by
  induction n using Nat.strongRecOn generalizing s with
  | ind n ih =>
    rw [Nat.toDigits_eq_if (by decide)]
    split
    · next hlt =>
      have hdigit : ∀ d < 10, d ≠ 0 → Nat.digitChar d ≠ '0' := by decide
      exact fun heq => hdigit n hlt hn (List.cons.inj heq).1
    · next hlt =>
      intro heq
      have hdiv : n / 10 ≠ 0 := by omega
      obtain ⟨c, s', hcons⟩ := List.exists_cons_of_ne_nil (Nat.toDigits_ne_nil (n := n / 10) (b := 10))
      rw [hcons] at heq
      obtain rfl : c = '0' := (List.cons.inj heq).1
      exact ih (n / 10) (Nat.div_lt_self (Nat.pos_of_ne_zero hn) (by decide)) hdiv s' hcons

lemma decimal_toDigits (n : Nat) : decimal (Nat.toDigits 10 n) = some (Nat.toDigits 10 n) := by
  rw [decimal, ungroup_of_digits Nat.toDigits_ne_nil fun _ => isDigit_of_mem]
  split
  · next c s heq =>
    -- a zero with digits behind it would be the number zero, which has one digit
    obtain rfl | hn := Decidable.eq_or_ne n 0
    · cases heq
    · exact absurd (Option.some.inj heq) (toDigits_ne_zero_cons hn _)
  · rfl

lemma valueOf_toDigits (n : Nat) : Text.valueOf 10 (Nat.toDigits 10 n) = n := by
  have hstep : ∀ (s : List Char) (init : Nat), (∀ c ∈ s, c.isDigit = true) →
      s.foldl (fun n c => 10 * n + Text.digitValue c) init = Nat.ofDigitChars 10 s init := by
    intro s
    induction s with
    | nil => exact fun _ _ => rfl
    | cons c s ih =>
      intro init h
      obtain ⟨hc, hs⟩ := List.forall_mem_cons.1 h
      rw [List.foldl_cons, Nat.ofDigitChars_cons, Text.digitValue, if_pos hc, ih _ hs]
      rfl
  rw [Text.valueOf, hstep _ _ fun _ => isDigit_of_mem, Nat.ofDigitChars_ten_toDigits]

/-! ### What a numeral is not -/

lemma numeral_cases (n : Int) : numeral n = '-' :: Nat.toDigits 10 n.natAbs ∧ n < 0 ∨
    numeral n = Nat.toDigits 10 n.natAbs ∧ 0 ≤ n := by
  unfold numeral
  split
  · next h => exact .inl ⟨rfl, h⟩
  · next h => exact .inr ⟨rfl, Int.not_lt.1 h⟩

lemma signed_of_ne {c : Char} (hminus : c ≠ '-') (hplus : c ≠ '+') (s : List Char) :
    signed (c :: s) = (false, c :: s) := by
  rw [signed]
  · exact fun _ heq => hminus (List.cons.inj heq).1
  · exact fun _ heq => hplus (List.cons.inj heq).1

lemma signed_numeral (n : Int) : signed (numeral n) = (decide (n < 0), Nat.toDigits 10 n.natAbs) := by
  obtain ⟨hnumeral, hn⟩ | ⟨hnumeral, hn⟩ := numeral_cases n
  · rw [hnumeral, decide_eq_true hn]
    rfl
  · obtain ⟨c, s, hcons⟩ := List.exists_cons_of_ne_nil (Nat.toDigits_ne_nil (n := n.natAbs) (b := 10))
    have hc : c.isDigit = true := isDigit_of_mem (hcons ▸ List.mem_cons_self)
    rw [hnumeral, hcons, decide_eq_false (Int.not_lt.2 hn)]
    exact signed_of_ne (ne_of_kind hc (by decide)) (ne_of_kind hc (by decide)) s

lemma notMem_numeral {c : Char} (hc : c.isDigit = false) (hminus : c ≠ '-') (n : Int) :
    c ∉ numeral n := by
  obtain ⟨hnumeral, -⟩ | ⟨hnumeral, -⟩ := numeral_cases n
  · rw [hnumeral, List.mem_cons, not_or]
    exact ⟨hminus, notMem_toDigits hc _⟩
  · rw [hnumeral]
    exact notMem_toDigits hc _

lemma field_of_notMem {mark : Char} {s : List Char} (h : mark ∉ s) (count : Nat) :
    field count mark s = none := by
  rw [field]
  exact if_neg fun hfield => h (List.mem_of_getElem? hfield.2.2)

lemma field_of_not_digit {c : Char} (h : c.isDigit = false) (count : Nat) (mark : Char) (s : List Char) :
    field (count + 1) mark (c :: s) = none := by
  rw [field]
  refine if_neg fun hfield => ?_
  have hall := hfield.2.1
  rw [List.take_succ_cons, List.all_cons, h] at hall
  cases hall

lemma afterDate_numeral (n : Int) : afterDate (numeral n) = none := by
  have hyear : field 4 '-' (numeral n) = none := by
    obtain ⟨hnumeral, -⟩ | ⟨hnumeral, -⟩ := numeral_cases n
    · rw [hnumeral]
      exact field_of_not_digit (by decide) 3 '-' _
    · rw [hnumeral]
      exact field_of_notMem (notMem_toDigits (by decide) _) 4
  rw [afterDate, hyear]
  rfl

lemma afterTime_numeral (n : Int) : afterTime (numeral n) = none := by
  rw [afterTime, field_of_notMem (notMem_numeral (by decide) (by decide) n)]
  rfl

lemma moment_numeral (n : Int) : moment (numeral n) = none := by
  rw [moment, afterDate_numeral, afterTime_numeral]
  rfl

lemma floatParts_of_digits {s : List Char} (h : ∀ c ∈ s, c.isDigit = true) :
    floatParts s = (s, none, none) := by
  have hmantissa : ∀ c ∈ s, (!(decide (c = 'e') || decide (c = 'E'))) = true := by
    intro c hc
    simp [ne_of_kind (h c hc) (d := 'e') (by decide), ne_of_kind (h c hc) (d := 'E') (by decide)]
  have hwhole : ∀ c ∈ s, decide (c ≠ '.') = true :=
    fun c hc => decide_eq_true (ne_of_kind (h c hc) (by decide))
  simp only [floatParts, List.takeWhile_eq_self_iff.2 hmantissa, List.dropWhile_eq_nil_iff.2 hmantissa,
    List.takeWhile_eq_self_iff.2 hwhole, List.dropWhile_eq_nil_iff.2 hwhole]

lemma float_numeral (n : Int) : float (numeral n) = none := by
  have hword : ¬(Nat.toDigits 10 n.natAbs = ['i', 'n', 'f'] ∨
      Nat.toDigits 10 n.natAbs = ['n', 'a', 'n']) := by
    intro hword
    have hmem : 'n' ∈ Nat.toDigits 10 n.natAbs := by
      rcases hword with h | h <;> simp [h]
    exact notMem_toDigits (by decide) _ hmem
  rw [float, signed_numeral]
  dsimp only
  rw [if_neg hword, floatParts_of_digits fun _ => isDigit_of_mem]

/-! ### What a numeral is -/

lemma integer_numeral (n : Int) : integer (numeral n) = bounded n := by
  have hletter : ∀ {c s}, c.isDigit = false → c ≠ '-' → numeral n ≠ '0' :: c :: s := by
    intro c s hc hminus heq
    exact notMem_numeral hc hminus n (heq ▸ List.mem_cons_of_mem _ List.mem_cons_self)
  unfold integer
  split
  · next heq => exact absurd heq (hletter (by decide) (by decide))
  · next heq => exact absurd heq (hletter (by decide) (by decide))
  · next heq => exact absurd heq (hletter (by decide) (by decide))
  · rw [signed_numeral]
    dsimp only
    rw [decimal_toDigits, Option.bind_some, valueOf_toDigits]
    congr 1
    by_cases hn : n < 0
    · rw [decide_eq_true hn, if_pos rfl]
      omega
    · rw [decide_eq_false hn, if_neg (by decide)]
      omega

lemma ofWord_numeral {n : Int} (h : IsWord64 n) : ofWord (numeral n) = some (.integer n) := by
  have hletter : 'e' ∉ numeral n := notMem_numeral (by decide) (by decide) n
  rw [ofWord, if_neg fun heq => hletter (by rw [heq]; decide),
    if_neg fun heq => hletter (by rw [heq]; decide), moment_numeral, float_numeral, integer_numeral]
  exact if_pos h

/-! ### Ends of words -/

/-- No character of a word comes next. -/
def NoWord (s : List Char) : Prop := ∀ c s', s = c :: s' → isWordChar c = false

lemma noWord_cons {c : Char} (h : isWordChar c = false) (s : List Char) : NoWord (c :: s) := by
  intro c' s' heq
  rw [← (List.cons.inj heq).1]
  exact h

/-- A word that is no date ends where no character of a word follows. -/
lemma read_append {word rest : List Char} (hword : ∀ c ∈ word, isWordChar c = true)
    (hdate : isDate word = false) (hrest : NoWord rest) :
    read (word ++ rest) = (ofWord word).map (·, rest) := by
  obtain ⟨htake, hdrop⟩ := takeWhile_dropWhile_append hword hrest
  rw [read, htake, hdrop]
  exact if_neg fun h => absurd h.1 (by rw [hdate]; decide)

/-- A written integer is read back. -/
lemma read_numeral {n : Int} (h : IsWord64 n) {rest : List Char} (hrest : NoWord rest) :
    read (numeral n ++ rest) = some (.integer n, rest) := by
  have hword : ∀ c ∈ numeral n, isWordChar c = true := by
    intro c hc
    by_cases hminus : c = '-'
    · rw [hminus]
      decide
    · have hdigit : c.isDigit = true := by
        by_contra hdigit
        exact notMem_numeral (Bool.not_eq_true _ ▸ hdigit) hminus n hc
      simp [isWordChar, Char.isAlphanum, hdigit]
  have hdate : isDate (numeral n) = false := by
    rw [isDate, afterDate_numeral]
    rfl
  rw [read_append hword hdate hrest, ofWord_numeral h]
  rfl

/-- A written truth value is read back. -/
lemma read_boolean (b : Bool) {rest : List Char} (hrest : NoWord rest) :
    read ((if b then "true".toList else "false".toList) ++ rest) = some (.boolean b, rest) := by
  cases b with
  | false => exact read_append (List.all_eq_true.1 (by decide)) (by decide) hrest
  | true => exact read_append (List.all_eq_true.1 (by decide)) (by decide) hrest

end Atom

end NcmBridge.Toml
