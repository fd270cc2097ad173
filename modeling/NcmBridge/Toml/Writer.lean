import NcmBridge.Toml.Atom
import NcmBridge.Toml.Quoted

/-!
# Writing TOML

A document that is written has sections of entries, and an entry holds a text, a number, a truth value
or several numbers. A text is quoted in the first way that needs no backslash, and else as a basic text;
a tab is written as an escape in every basic text.
-/

namespace NcmBridge.Toml

/-- A value that is written. -/
inductive Entry
  | text (s : String)
  | integer (n : Int)
  | boolean (b : Bool)
  | integers (ns : List Int)
  deriving DecidableEq, Repr, Inhabited

def Entry.value : Entry → Value
  | text s => .text s
  | integer n => .integer n
  | boolean b => .boolean b
  | integers ns => .array (ns.map .integer)

abbrev Sections := List (String × List (String × Entry))

namespace Quoted

/-! ### Texts -/

def hexChar (n : Nat) : Char := if n < 10 then Char.ofNat (48 + n) else Char.ofNat (55 + n)

/-- A control character that is only written as an escape. -/
def isControl (c : Char) : Bool := (c.toNat < 0x20 && c ≠ '\t' && c ≠ '\n') || c.toNat = 0x7F

/-- A character other than a double quote in a basic text. A line break stays if the text may have
several lines. -/
def escape (lines : Bool) (c : Char) : List Char :=
  if c = '\n' then (if lines then ['\n'] else ['\\', 'n'])
  else if c = '\\' then ['\\', '\\']
  else if c = '\x08' then ['\\', 'b']
  else if c = '\t' then ['\\', 't']
  else if c = '\x0c' then ['\\', 'f']
  else if c = '\r' then ['\\', 'r']
  else if isControl c then ['\\', 'u', '0', '0', hexChar (c.toNat / 16), hexChar (c.toNat % 16)]
  else [c]

/-- The characters of a basic text; `run` counts the double quotes just before. In a text that may
have several lines two of them may stand together. -/
def escapeAll (lines : Bool) : (run : Nat) → List Char → List Char
  | _, [] => []
  | run, '"' :: s =>
    if run < (if lines then 2 else 0) then '"' :: escapeAll lines (run + 1) s
    else '\\' :: '"' :: escapeAll lines 0 s
  | _, c :: s => escape lines c ++ escapeAll lines 0 s

def hasTriple (quote : Char) : List Char → Bool
  | a :: b :: c :: s => (a = quote && b = quote && c = quote) || hasTriple quote (b :: c :: s)
  | _ => false

/-- The four ways to quote a text. -/
inductive Style
  | basic
  | literal
  | basicLines
  | literalLines
  deriving DecidableEq, Repr, Inhabited

/-- The way in which a text is quoted: the first in which it needs no escapes, or else a basic one. -/
def style (s : List Char) : Style :=
  let lines := s.contains '\n'
  let plain := !s.any isControl
  let unescaped := plain && !s.contains '\\'
  if unescaped && !lines && !s.contains '"' then .basic
  else if plain && !lines && !s.contains '\'' then .literal
  else if unescaped && !hasTriple '"' s then .basicLines
  else if plain && !hasTriple '\'' s then .literalLines
  else if lines then .basicLines
  else .basic

/-- A text in quotes. A text with line breaks begins on a line of its own. -/
def write (s : List Char) : List Char :=
  let start := if s.contains '\n' then ['\n'] else []
  match style s with
  | .basic => ['"'] ++ escapeAll false 0 s ++ ['"']
  | .literal => ['\''] ++ s ++ ['\'']
  | .basicLines => ['"', '"', '"'] ++ start ++ escapeAll true 0 s ++ ['"', '"', '"']
  | .literalLines => ['\'', '\'', '\''] ++ start ++ s ++ ['\'', '\'', '\'']

end Quoted

/-! ### Entries and sections -/

def writeInteger (n : Int) : Option (List Char) :=
  if n < Atom.minInteger ∨ Atom.maxInteger < n then none
  else if n < 0 then some ('-' :: Nat.toDigits 10 n.natAbs)
  else some (Nat.toDigits 10 n.natAbs)

/-- Items in brackets: one for itself, several with a line for each. -/
def writeList : List (List Char) → List Char
  | [] => ['[', ']']
  | [item] => '[' :: item ++ [']']
  | items =>
    ['[', '\n'] ++ items.flatMap (fun item => [' ', ' ', ' ', ' '] ++ item ++ [',', '\n']) ++ [']']

/-- The text of an entry. An integer of more than 64 bits has none. -/
def Entry.write : Entry → Option (List Char)
  | text s => some (Quoted.write s.toList)
  | integer n => writeInteger n
  | boolean b => some (if b then "true".toList else "false".toList)
  | integers ns => (ns.mapM writeInteger).map writeList

def writeEntry (entry : String × Entry) : Option (List Char) :=
  entry.2.write.map fun value => entry.1.toList ++ [' ', '=', ' '] ++ value ++ ['\n']

/-- A header with the entries below it. -/
def writeSection (part : String × List (String × Entry)) : Option (List Char) :=
  (part.2.mapM writeEntry).map fun entries => '[' :: part.1.toList ++ [']', '\n'] ++ entries.flatten

/-- The text of a document: its sections with an empty line between. -/
def write (sections : Sections) : Option String :=
  (sections.mapM writeSection).map fun parts => String.ofList (List.intercalate ['\n'] parts)

end NcmBridge.Toml
