import NcmBridge.Text.Digits

/-!
# Quoted text in TOML

Basic texts stand in double quotes and have escapes; literal texts stand in single quotes and have
none. Three quotes allow line breaks. All readers here start after the opening quotes, and give the
text and what follows the closing quotes. Line ends are single line feeds at this point.
-/

namespace NcmBridge.Toml

/-- A character that a comment, or a text on one line, may hold: no control but the tab. -/
def isPlain (c : Char) : Bool := c = '\t' || (0x20 ≤ c.toNat && c.toNat ≠ 0x7F)

def isSpace (c : Char) : Bool := c = ' ' || c = '\t'

def isSpaceOrEnd (c : Char) : Bool := isSpace c || c = '\n'

namespace Quoted

/-- Puts a character before a text that has been read. -/
def push (c : Char) (read : Option (List Char × List Char)) : Option (List Char × List Char) :=
  read.map fun (text, rest) => (c :: text, rest)

/-! ### Escapes -/

/-- The character with a number, which is no surrogate. -/
def scalar (n : Nat) : Option Char := if n.isValidChar then some (Char.ofNat n) else none

/-- The character with the number that the first `count` characters are, and what follows. -/
def numbered (count : Nat) (s : List Char) : Option (Char × List Char) :=
  if (s.take count).length = count ∧ (s.take count).all Text.isHexDigit then
    (scalar (Text.valueOf 16 (s.take count))).map (·, s.drop count)
  else none

/-- The character that an escape stands for, and what follows. The backslash is gone already. -/
def escaped : List Char → Option (Char × List Char)
  | 'b' :: s => some ('\x08', s)
  | 't' :: s => some ('\t', s)
  | 'n' :: s => some ('\n', s)
  | 'f' :: s => some ('\x0c', s)
  | 'r' :: s => some ('\r', s)
  | '"' :: s => some ('"', s)
  | '\\' :: s => some ('\\', s)
  | 'u' :: s => numbered 4 s
  | 'U' :: s => numbered 8 s
  | _ => none

theorem numbered_length {count : Nat} {s rest : List Char} {c : Char}
    (h : numbered count s = some (c, rest)) : rest.length ≤ s.length := by
  unfold numbered at h
  split at h
  · obtain ⟨_, _, h⟩ := Option.map_eq_some_iff.1 h
    simp only [Prod.mk.injEq] at h
    simp [← h.2]
  · simp at h

theorem escaped_length {s rest : List Char} {c : Char} (h : escaped s = some (c, rest)) :
    rest.length < s.length := by
  unfold escaped at h
  split at h
  case h_8 s => exact Nat.lt_succ_of_le (numbered_length h)
  case h_9 s => exact Nat.lt_succ_of_le (numbered_length h)
  all_goals simp only [Option.some.injEq, Prod.mk.injEq, reduceCtorEq] at h
  all_goals simp [← h.2]

/-! ### One line -/

def basic (s : List Char) : Option (List Char × List Char) :=
  match s with
  | [] => none
  | '"' :: s => some ([], s)
  | '\\' :: s =>
    match h : escaped s with
    | some (c, rest) =>
      have := escaped_length h
      push c (basic rest)
    | none => none
  | c :: s => if isPlain c then push c (basic s) else none
termination_by s.length

def literal : List Char → Option (List Char × List Char)
  | [] => none
  | '\'' :: s => some ([], s)
  | c :: s => if isPlain c then push c (literal s) else none

/-! ### Several lines -/

theorem length_dropWhile_le (p : Char → Bool) (s : List Char) :
    (s.dropWhile p).length ≤ s.length :=
  (List.dropWhile_suffix p).length_le

/-- Reads a basic text that may have line breaks. Of three to five quotes the last three close the
text. A backslash at the end of a line hides the line break and all blanks after it. -/
def basicLines (s : List Char) : Option (List Char × List Char) :=
  match s with
  | [] => none
  | '"' :: '"' :: '"' :: '"' :: '"' :: s => some (['"', '"'], s)
  | '"' :: '"' :: '"' :: '"' :: s => some (['"'], s)
  | '"' :: '"' :: '"' :: s => some ([], s)
  | '\\' :: s =>
    match h : escaped s with
    | some (c, rest) =>
      have := escaped_length h
      push c (basicLines rest)
    | none =>
      have := length_dropWhile_le isSpaceOrEnd s
      if (s.dropWhile isSpace).head? = some '\n' then basicLines (s.dropWhile isSpaceOrEnd) else none
  | c :: s => if isPlain c ∨ c = '\n' then push c (basicLines s) else none
termination_by s.length
decreasing_by all_goals (simp only [List.length_cons]; omega)

/-- Reads a literal text that may have line breaks. Quotes close it as they close a basic text. -/
def literalLines : List Char → Option (List Char × List Char)
  | [] => none
  | '\'' :: '\'' :: '\'' :: '\'' :: '\'' :: s => some (['\'', '\''], s)
  | '\'' :: '\'' :: '\'' :: '\'' :: s => some (['\''], s)
  | '\'' :: '\'' :: '\'' :: s => some ([], s)
  | c :: s => if isPlain c ∨ c = '\n' then push c (literalLines s) else none

/-- The text after a line break that follows three opening quotes at once. -/
def dropLineEnd : List Char → List Char
  | '\n' :: s => s
  | s => s

/-- Reads a text from its opening quotes on. -/
def any : List Char → Option (List Char × List Char)
  | '"' :: '"' :: '"' :: s => basicLines (dropLineEnd s)
  | '"' :: s => basic s
  | '\'' :: '\'' :: '\'' :: s => literalLines (dropLineEnd s)
  | '\'' :: s => literal s
  | _ => none

end Quoted

end NcmBridge.Toml
