import Mathlib.Data.List.Basic
import Mathlib.Tactic.Lemma
import NcmBridge.Toml.Writer

/-!
# Quoted texts read back

Whichever of the four ways a text is quoted in, the reader gives it back and stops right behind it. Quotes
stand for themselves in texts of several lines, and three of them end such a text, so that a run of quotes is
read as a whole: of the quotes before the end the first two at most belong to the text.
-/

namespace NcmBridge.Toml.Quoted

/-! ### Escapes -/

lemma isHexDigit_hexChar : ∀ n < 16, Text.isHexDigit (hexChar n) = true := by decide

lemma digitValue_hexChar : ∀ n < 16, Text.digitValue (hexChar n) = n := by decide

/-- A control character is read back from the two digits of its number. -/
lemma escaped_number {c : Char} (h : c.toNat < 0x100) (rest : List Char) :
    escaped ('u' :: '0' :: '0' :: hexChar (c.toNat / 16) :: hexChar (c.toNat % 16) :: rest) =
      some (c, rest) := by
  have hhigh : c.toNat / 16 < 16 := by omega
  have hlow : c.toNat % 16 < 16 := by omega
  have hvalue : Text.valueOf 16 ['0', '0', hexChar (c.toNat / 16), hexChar (c.toNat % 16)] = c.toNat := by
    have hzero : Text.digitValue '0' = 0 := by decide
    simp only [Text.valueOf, List.foldl_cons, List.foldl_nil, hzero, digitValue_hexChar _ hhigh,
      digitValue_hexChar _ hlow]
    omega
  have hdigits : Text.isHexDigit '0' = true := by decide
  have hscalar : scalar c.toNat = some c := by
    rw [scalar, if_pos (show c.toNat.isValidChar from c.valid), Char.ofNat_toNat]
  simp [escaped, numbered, hvalue, hscalar, hdigits, isHexDigit_hexChar _ hhigh, isHexDigit_hexChar _ hlow]

/-- A character that is written as itself in a basic text. -/
def IsLiteral (lines : Bool) (c : Char) : Prop :=
  c ≠ '"' ∧ c ≠ '\\' ∧ (isPlain c = true ∨ lines = true ∧ c = '\n')

lemma isPlain_of_not_control {c : Char} (hcontrol : ¬isControl c = true) (hend : c ≠ '\n') :
    isPlain c = true := by
  by_cases ht : c = '\t'
  · rw [ht]
    rfl
  · simp only [isControl, Bool.or_eq_true, Bool.and_eq_true, decide_eq_true_eq, not_or, not_and] at hcontrol
    obtain ⟨hlow, hdel⟩ := hcontrol
    have hprint : 0x20 ≤ c.toNat := Nat.not_lt.1 fun hlt => hlow ⟨hlt, ht⟩ hend
    simp [isPlain, hprint, hdel]

/-- A character is written as itself, or as an escape for it. -/
lemma escape_cases (lines : Bool) {c : Char} (hquote : c ≠ '"') :
    (escape lines c = [c] ∧ IsLiteral lines c) ∨
      ∃ e, escape lines c = '\\' :: e ∧ '\r' ∉ e ∧ ∀ rest, escaped (e ++ rest) = some (c, rest) := by
  unfold escape
  split_ifs with hend hlines hback hb ht hf hr hcontrol
  · exact .inl ⟨by rw [hend], hquote, by rw [hend]; decide, .inr ⟨hlines, hend⟩⟩
  · exact .inr ⟨['n'], rfl, by decide, fun rest => by rw [hend]; rfl⟩
  · exact .inr ⟨['\\'], rfl, by decide, fun rest => by rw [hback]; rfl⟩
  · exact .inr ⟨['b'], rfl, by decide, fun rest => by rw [hb]; rfl⟩
  · exact .inr ⟨['t'], rfl, by decide, fun rest => by rw [ht]; rfl⟩
  · exact .inr ⟨['f'], rfl, by decide, fun rest => by rw [hf]; rfl⟩
  · exact .inr ⟨['r'], rfl, by decide, fun rest => by rw [hr]; rfl⟩
  · have hsmall : c.toNat < 0x100 := by
      simp only [isControl, Bool.or_eq_true, Bool.and_eq_true, decide_eq_true_eq] at hcontrol
      omega
    have hreturn : ∀ n < 16, '\r' ≠ hexChar n := by decide
    refine .inr ⟨_, rfl, ?_, escaped_number hsmall⟩
    simp [hreturn (c.toNat / 16) (by omega), hreturn (c.toNat % 16) (by omega)]
  · exact .inl ⟨rfl, hquote, hback, .inl (isPlain_of_not_control hcontrol hend)⟩

/-! ### One line -/

lemma basic_quote (rest : List Char) : basic ('"' :: rest) = some ([], rest) := by
  rw [basic]

lemma basic_escape {e rest : List Char} {c : Char} (h : escaped e = some (c, rest)) :
    basic ('\\' :: e) = push c (basic rest) := by
  rw [basic]
  split
  · next heq =>
    cases h.symm.trans heq
    rfl
  · next heq => cases h.symm.trans heq

lemma basic_literal {c : Char} (h : IsLiteral false c) (rest : List Char) :
    basic (c :: rest) = push c (basic rest) := by
  obtain ⟨hquote, hback, hplain | ⟨hlines, -⟩⟩ := h
  · rw [basic, if_pos hplain]
    · exact fun heq => hquote heq
    · exact fun heq => hback heq
  · cases hlines

lemma escapeAll_quote {lines : Bool} {run : Nat} (h : ¬run < if lines then 2 else 0) (s : List Char) :
    escapeAll lines run ('"' :: s) = '\\' :: '"' :: escapeAll lines 0 s := by
  rw [escapeAll, if_neg h]

lemma escapeAll_cons {c : Char} (hquote : c ≠ '"') (lines : Bool) (run : Nat) (s : List Char) :
    escapeAll lines run (c :: s) = escape lines c ++ escapeAll lines 0 s := by
  rw [escapeAll]
  exact hquote

/-- A basic text on one line is read back. -/
lemma basic_escapeAll (run : Nat) (s rest : List Char) :
    basic (escapeAll false run s ++ '"' :: rest) = some (s, rest) := by
  induction s generalizing run with
  | nil => exact basic_quote rest
  | cons c s ih =>
    by_cases hquote : c = '"'
    · subst hquote
      have hescaped (t : List Char) : escaped ('"' :: t) = some ('"', t) := rfl
      rw [escapeAll_quote (by simp), List.cons_append, List.cons_append, basic_escape (hescaped _), ih]
      rfl
    · rw [escapeAll_cons hquote, List.append_assoc]
      obtain ⟨hescape, hliteral⟩ | ⟨e, hescape, -, hescaped⟩ := escape_cases false hquote
      · rw [hescape, List.singleton_append, basic_literal hliteral, ih]
        rfl
      · rw [hescape, List.cons_append, basic_escape (hescaped _), ih]
        rfl

/-- A literal text on one line is read back. -/
lemma literal_append {s : List Char} (h : ∀ c ∈ s, isPlain c = true ∧ c ≠ '\'') (rest : List Char) :
    literal (s ++ '\'' :: rest) = some (s, rest) := by
  induction s with
  | nil => rw [List.nil_append, literal]
  | cons c s ih =>
    obtain ⟨⟨hplain, hquote⟩, hs⟩ := List.forall_mem_cons.1 h
    rw [List.cons_append, literal, if_pos hplain, ih hs]
    · rfl
    · exact hquote

/-! ### Runs of quotes -/

/-- No quote of a kind comes next. -/
def NoQuote (quote : Char) (s : List Char) : Prop := ∀ s', s ≠ quote :: s'

lemma noQuote_cons {quote c : Char} (h : c ≠ quote) (s : List Char) : NoQuote quote (c :: s) :=
  fun _ heq => h (List.cons.inj heq).1

/-- A reader of texts that end with three quotes, of which two more may stand before the end. -/
structure ReadsRuns (quote : Char) (read : List Char → Option (List Char × List Char)) : Prop where
  ends : ∀ {run rest}, run ≤ 2 → NoQuote quote rest →
    read (List.replicate run quote ++ (quote :: quote :: quote :: rest)) =
      some (List.replicate run quote, rest)
  goes_on : ∀ {s}, (∀ s', s ≠ quote :: quote :: s') → read (quote :: s) = push quote (read s)

/-- Up to two quotes that are followed by something else belong to the text. -/
lemma ReadsRuns.read_replicate {quote : Char} {read : List Char → Option (List Char × List Char)}
    (h : ReadsRuns quote read) {run : Nat} (hrun : run ≤ 2) {s text rest : List Char}
    (hs : NoQuote quote s) (hread : read s = some (text, rest)) :
    read (List.replicate run quote ++ s) = some (List.replicate run quote ++ text, rest) := by
  have hone : read (quote :: s) = some (quote :: text, rest) := by
    rw [h.goes_on fun s' => hs _, hread]
    rfl
  match run with
  | 0 => exact hread
  | 1 => exact hone
  | 2 =>
    have hnext : ∀ s', quote :: s ≠ quote :: quote :: s' := fun s' heq => hs s' (List.cons.inj heq).2
    calc read (quote :: quote :: s) = push quote (read (quote :: s)) := h.goes_on hnext
      _ = some (quote :: quote :: text, rest) := by rw [hone]; rfl

lemma readsRuns_basicLines : ReadsRuns '"' basicLines where
  ends {run rest} hrun hrest := by
    match run with
    | 0 => exact basicLines.eq_4 rest (fun _ => hrest _) hrest
    | 1 => exact basicLines.eq_3 rest hrest
    | 2 => exact basicLines.eq_2 rest
  goes_on {s} hs := by
    rw [basicLines.eq_6 _ _ (fun s' _ => hs _) (fun s' _ => hs _) (fun s' _ => hs _) (by decide), if_pos]
    decide

lemma readsRuns_literalLines : ReadsRuns '\'' literalLines where
  ends {run rest} hrun hrest := by
    match run with
    | 0 => exact literalLines.eq_4 rest (fun _ => hrest _) hrest
    | 1 => exact literalLines.eq_3 rest hrest
    | 2 => exact literalLines.eq_2 rest
  goes_on {s} hs := by
    rw [literalLines.eq_5 _ _ (fun s' _ => hs _) (fun s' _ => hs _) (fun s' _ => hs _), if_pos]
    decide

/-! ### Several lines -/

lemma basicLines_escape {e rest : List Char} {c : Char} (h : escaped e = some (c, rest)) :
    basicLines ('\\' :: e) = push c (basicLines rest) := by
  rw [basicLines]
  split
  · next heq =>
    cases h.symm.trans heq
    rfl
  · next heq => cases h.symm.trans heq

lemma basicLines_literal {c : Char} (h : IsLiteral true c) (rest : List Char) :
    basicLines (c :: rest) = push c (basicLines rest) := by
  obtain ⟨hquote, hback, hplain⟩ := h
  rw [basicLines.eq_6 _ _ (fun _ hc => absurd hc hquote) (fun _ hc => absurd hc hquote)
    (fun _ hc => absurd hc hquote) hback, if_pos]
  exact hplain.imp_right And.right

/-- A basic text on several lines is read back, after up to two quotes that came before it. -/
lemma basicLines_escapeAll {run : Nat} (hrun : run ≤ 2) (s : List Char) {rest : List Char}
    (hrest : NoQuote '"' rest) :
    basicLines (List.replicate run '"' ++ (escapeAll true run s ++ ('"' :: '"' :: '"' :: rest))) =
      some (List.replicate run '"' ++ s, rest) := by
  induction s generalizing run with
  | nil =>
    rw [escapeAll, List.nil_append, readsRuns_basicLines.ends hrun hrest, List.append_nil]
  | cons c s ih =>
    have hnone := ih (Nat.zero_le 2)
    by_cases hquote : c = '"'
    · subst hquote
      by_cases hlt : run < 2
      · -- the quote makes the run longer by one
        have hnext := @ih (run + 1) hlt
        rw [List.replicate_succ', List.append_assoc, List.append_assoc] at hnext
        rw [escapeAll, if_pos (show run < if true = true then 2 else 0 from hlt)]
        exact hnext
      · have hescaped (t : List Char) : escaped ('"' :: t) = some ('"', t) := rfl
        rw [escapeAll_quote hlt]
        refine readsRuns_basicLines.read_replicate hrun (noQuote_cons (by decide) _) ?_
        rw [List.cons_append, List.cons_append, basicLines_escape (hescaped _)]
        exact congrArg (push '"') hnone
    · rw [escapeAll_cons hquote, List.append_assoc]
      obtain ⟨hescape, hliteral⟩ | ⟨e, hescape, -, hescaped⟩ := escape_cases true hquote
      · rw [hescape, List.singleton_append]
        refine readsRuns_basicLines.read_replicate hrun (noQuote_cons hquote _) ?_
        rw [basicLines_literal hliteral]
        exact congrArg (push c) hnone
      · rw [hescape, List.cons_append]
        refine readsRuns_basicLines.read_replicate hrun (noQuote_cons (by decide) _) ?_
        rw [basicLines_escape (hescaped _)]
        exact congrArg (push c) hnone

lemma hasTriple_tail {quote a : Char} {s : List Char} (h : hasTriple quote (a :: s) = false) :
    hasTriple quote s = false := by
  match s with
  | [] | [_] => rfl
  | b :: c :: s =>
    rw [hasTriple, Bool.or_eq_false_iff] at h
    exact h.2

lemma hasTriple_of_append {quote : Char} {t s : List Char} (h : hasTriple quote (t ++ s) = false) :
    hasTriple quote s = false := by
  induction t with
  | nil => exact h
  | cons _ t ih => exact ih (hasTriple_tail h)

/-- A literal text on several lines without three quotes together is read back, after up to two quotes that
came before it. -/
lemma literalLines_append {run : Nat} (hrun : run ≤ 2) {s : List Char}
    (hs : ∀ c ∈ s, isPlain c = true ∨ c = '\n')
    (htriple : hasTriple '\'' (List.replicate run '\'' ++ s) = false)
    {rest : List Char} (hrest : NoQuote '\'' rest) :
    literalLines (List.replicate run '\'' ++ (s ++ ('\'' :: '\'' :: '\'' :: rest))) =
      some (List.replicate run '\'' ++ s, rest) := by
  induction s generalizing run with
  | nil => rw [List.nil_append, readsRuns_literalLines.ends hrun hrest, List.append_nil]
  | cons c s ih =>
    obtain ⟨hc, hs'⟩ := List.forall_mem_cons.1 hs
    by_cases hquote : c = '\''
    · -- the quote makes the run longer by one, and three do not stand together
      subst hquote
      have hlonger : hasTriple '\'' (List.replicate (run + 1) '\'' ++ s) = false := by
        rwa [List.replicate_succ', List.append_assoc, List.singleton_append]
      have hlt : run + 1 ≤ 2 := by
        by_contra hlong
        obtain rfl : run = 2 := by omega
        simp [List.replicate_succ, hasTriple] at hlonger
      have hnext := ih hlt hs' hlonger
      rw [List.replicate_succ', List.append_assoc, List.append_assoc] at hnext
      exact hnext
    · refine readsRuns_literalLines.read_replicate hrun (noQuote_cons hquote _) ?_
      rw [List.cons_append, literalLines.eq_5 _ _ (fun _ heq => absurd heq hquote)
        (fun _ heq => absurd heq hquote) (fun _ heq => absurd heq hquote), if_pos hc]
      exact congrArg (push c) (ih (Nat.zero_le 2) hs' (hasTriple_tail (hasTriple_of_append htriple)))

/-! ### Any text -/

/-- What follows a written text: nothing that a quote could be taken for. -/
def NoQuotes (s : List Char) : Prop := NoQuote '"' s ∧ NoQuote '\'' s

lemma noQuotes_cons {c : Char} (h : c ≠ '"' ∧ c ≠ '\'') (s : List Char) : NoQuotes (c :: s) :=
  ⟨noQuote_cons h.1 s, noQuote_cons h.2 s⟩

lemma isPlain_of_plain {s : List Char} (h : (!s.any isControl) = true) :
    ∀ c ∈ s, isPlain c = true ∨ c = '\n' := by
  intro c hc
  by_cases hend : c = '\n'
  · exact .inr hend
  · refine .inl (isPlain_of_not_control ?_ hend)
    simp only [Bool.not_eq_true', List.any_eq_false] at h
    exact h c hc

/-- An added line break is dropped, and a text without one does not begin with one. -/
lemma dropLineEnd_start {s body : List Char} (h : ∀ rest, body = '\n' :: rest → '\n' ∈ s) :
    dropLineEnd ((if s.contains '\n' then ['\n'] else []) ++ body) = body := by
  by_cases hend : s.contains '\n' = true
  · rw [if_pos hend]
    rfl
  · rw [if_neg hend, List.nil_append]
    unfold dropLineEnd
    split
    · next rest => exact absurd (List.contains_iff_mem.2 (h rest rfl)) hend
    · rfl

lemma style_eq_literal {s : List Char} (h : style s = .literal) :
    (!s.any isControl) = true ∧ '\n' ∉ s ∧ '\'' ∉ s := by
  unfold style at h
  dsimp only at h
  split_ifs at h with _ hplain
  simp only [Bool.and_eq_true, Bool.not_eq_true', List.contains_eq_mem, decide_eq_false_iff_not] at hplain
  exact ⟨by rw [hplain.1.1]; rfl, hplain.1.2, hplain.2⟩

lemma style_eq_literalLines {s : List Char} (h : style s = .literalLines) :
    (!s.any isControl) = true ∧ hasTriple '\'' s = false := by
  unfold style at h
  dsimp only at h
  split_ifs at h with _ _ _ hplain
  simp only [Bool.and_eq_true, Bool.not_eq_true'] at hplain
  exact ⟨by rw [hplain.1]; rfl, hplain.2⟩

/-- A written character is not taken for a quote, nor for a line break that it is not. -/
lemma head_escapeAll {lines : Bool} {c : Char} {s u t : List Char} {d : Char}
    (h : escapeAll lines 0 (c :: s) ++ u = d :: t) : d = '\\' ∨ d = c ∧ (c = '"' → lines = true) := by
  by_cases hquote : c = '"'
  · subst hquote
    cases lines with
    | false =>
      rw [escapeAll_quote (by simp)] at h
      exact .inl (List.cons.inj h).1.symm
    | true =>
      rw [escapeAll, if_pos (show 0 < if true = true then 2 else 0 by decide)] at h
      exact .inr ⟨(List.cons.inj h).1.symm, fun _ => rfl⟩
  · rw [escapeAll_cons hquote] at h
    obtain ⟨hescape, -⟩ | ⟨e, hescape, -⟩ := escape_cases lines hquote
    · rw [hescape] at h
      exact .inr ⟨(List.cons.inj h).1.symm, fun hc => absurd hc hquote⟩
    · rw [hescape] at h
      exact .inl (List.cons.inj h).1.symm

section Any

variable {s rest : List Char} (hrest : NoQuotes rest)

include hrest

lemma any_basic (s : List Char) : any ('"' :: (escapeAll false 0 s ++ '"' :: rest)) = some (s, rest) := by
  -- two quotes at the start would be an empty text, or the start of several lines
  have hopen : ∀ t, escapeAll false 0 s ++ '"' :: rest ≠ '"' :: '"' :: t := by
    intro t heq
    cases s with
    | nil => exact hrest.1 t (List.cons.inj heq).2
    | cons c s =>
      obtain hback | ⟨hc, hlines⟩ := head_escapeAll heq
      · cases hback
      · cases hlines hc.symm
  rw [any.eq_2 _ hopen, basic_escapeAll]

lemma any_literal (hs : ∀ c ∈ s, isPlain c = true ∧ c ≠ '\'') :
    any ('\'' :: (s ++ '\'' :: rest)) = some (s, rest) := by
  have hopen : ∀ t, s ++ '\'' :: rest ≠ '\'' :: '\'' :: t := by
    intro t heq
    cases s with
    | nil => exact hrest.2 t (List.cons.inj heq).2
    | cons c s => exact (hs c List.mem_cons_self).2 (List.cons.inj heq).1
  rw [any.eq_4 _ hopen, literal_append hs]

lemma any_basicLines (s : List Char) :
    any ('"' :: '"' :: '"' :: ((if s.contains '\n' then ['\n'] else []) ++
      (escapeAll true 0 s ++ ('"' :: '"' :: '"' :: rest)))) = some (s, rest) := by
  have hbody : ∀ t, escapeAll true 0 s ++ ('"' :: '"' :: '"' :: rest) = '\n' :: t → '\n' ∈ s := by
    intro t heq
    cases s with
    | nil => cases heq
    | cons c s =>
      obtain hback | ⟨hc, -⟩ := head_escapeAll heq
      · cases hback
      · exact hc ▸ List.mem_cons_self
  rw [any.eq_1, dropLineEnd_start hbody]
  exact basicLines_escapeAll (Nat.zero_le 2) s hrest.1

lemma any_literalLines (hs : ∀ c ∈ s, isPlain c = true ∨ c = '\n') (htriple : hasTriple '\'' s = false) :
    any ('\'' :: '\'' :: '\'' :: ((if s.contains '\n' then ['\n'] else []) ++
      (s ++ ('\'' :: '\'' :: '\'' :: rest)))) = some (s, rest) := by
  have hbody : ∀ t, s ++ ('\'' :: '\'' :: '\'' :: rest) = '\n' :: t → '\n' ∈ s := by
    intro t heq
    cases s with
    | nil => cases heq
    | cons c s => exact (List.cons.inj heq).1 ▸ List.mem_cons_self
  rw [any.eq_3, dropLineEnd_start hbody]
  exact literalLines_append (Nat.zero_le 2) hs htriple hrest.2

/-- A written text is read back, and what follows it is left. -/
lemma any_write (s : List Char) : any (write s ++ rest) = some (s, rest) := by
  unfold write
  dsimp only
  cases hstyle : style s with
  | basic => simpa using any_basic hrest s
  | literal =>
    obtain ⟨hplain, hlines, hquote⟩ := style_eq_literal hstyle
    have hs : ∀ c ∈ s, isPlain c = true ∧ c ≠ '\'' := fun c hc =>
      ⟨(isPlain_of_plain hplain c hc).resolve_right fun heq => hlines (heq ▸ hc), fun heq => hquote (heq ▸ hc)⟩
    simpa using any_literal hrest hs
  | basicLines => simpa using any_basicLines hrest s
  | literalLines =>
    obtain ⟨hplain, htriple⟩ := style_eq_literalLines hstyle
    simpa using any_literalLines hrest (isPlain_of_plain hplain) htriple

end Any

/-- A written text begins with a quote. -/
lemma exists_write_eq (s : List Char) : ∃ t, write s = '"' :: t ∨ write s = '\'' :: t := by
  unfold write
  cases style s with
  | basic | basicLines => exact ⟨_, .inl rfl⟩
  | literal | literalLines => exact ⟨_, .inr rfl⟩

/-! ### Carriage returns -/

lemma return_notMem_escapeAll (lines : Bool) (run : Nat) (s : List Char) :
    '\r' ∉ escapeAll lines run s := by
  induction s generalizing run with
  | nil => exact List.not_mem_nil
  | cons c s ih =>
    by_cases hquote : c = '"'
    · subst hquote
      by_cases hlt : run < if lines then 2 else 0
      · rw [escapeAll, if_pos hlt]
        simp [ih]
      · rw [escapeAll_quote hlt]
        simp [ih]
    · rw [escapeAll_cons hquote, List.mem_append, not_or]
      refine ⟨?_, ih 0⟩
      obtain ⟨hescape, hliteral⟩ | ⟨e, hescape, hreturn, -⟩ := escape_cases lines hquote
      · rw [hescape, List.mem_singleton]
        rintro rfl
        exact absurd hliteral.2.2 (by simp [isPlain])
      · simp [hescape, hreturn]

/-- A carriage return is always written as an escape. -/
lemma return_notMem_write (s : List Char) : '\r' ∉ write s := by
  have hplain : (!s.any isControl) = true → '\r' ∉ s := by
    intro h hmem
    exact absurd (isPlain_of_plain h _ hmem) (by decide)
  unfold write
  cases hstyle : style s with
  | basic => simp [return_notMem_escapeAll]
  | literal => simp [hplain (style_eq_literal hstyle).1]
  | basicLines => simp [return_notMem_escapeAll]
  | literalLines => simp [hplain (style_eq_literalLines hstyle).1]

end NcmBridge.Toml.Quoted
