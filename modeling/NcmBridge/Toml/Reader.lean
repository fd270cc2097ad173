import NcmBridge.Toml.Atom
import NcmBridge.Toml.Quoted

/-!
# Reading TOML

Each reader takes characters and gives what it read and the characters after it. A reader that is
given another one to repeat goes on only while the characters become fewer, so all of them end.
-/

namespace NcmBridge.Toml

/-! ### Blanks and line ends -/

def skipSpace (s : List Char) : List Char := s.dropWhile isSpace

/-- The characters after spaces, line ends and comments. -/
def skipGap (s : List Char) : List Char :=
  match s with
  | [] => []
  | '#' :: s =>
    have := Quoted.length_dropWhile_le isPlain s
    skipGap (s.dropWhile isPlain)
  | c :: s => if isSpaceOrEnd c then skipGap s else c :: s
termination_by s.length
decreasing_by all_goals (simp only [List.length_cons]; omega)

/-- The characters after the end of a line, which may have a comment. -/
def lineEnd (s : List Char) : Option (List Char) :=
  let rest := match skipSpace s with
    | '#' :: s => s.dropWhile isPlain
    | s => s
  match rest with
  | [] => some []
  | '\n' :: s => some s
  | _ => none

/-- Each carriage return before a line feed is dropped. -/
def unifyLineEnds : List Char → List Char
  | '\r' :: '\n' :: s => '\n' :: unifyLineEnds s
  | c :: s => c :: unifyLineEnds s
  | [] => []

/-! ### Keys -/

/-- A character of a name without quotes. -/
def isBareChar (c : Char) : Bool := c.isAlphanum || c = '_' || c = '-'

def readName (s : List Char) : Option (String × List Char) :=
  let read := match s with
    | '"' :: s => Quoted.basic s
    | '\'' :: s => Quoted.literal s
    | s => if s.takeWhile isBareChar = [] then none
      else some (s.takeWhile isBareChar, s.dropWhile isBareChar)
  read.map fun (name, rest) => (String.ofList name, rest)

/-- Reads names with dots between; spaces are allowed around each. -/
def readNames (s : List Char) : Option (Key × List Char) :=
  match readName (skipSpace s) with
  | none => none
  | some (name, rest) =>
    match skipSpace rest with
    | '.' :: rest =>
      if rest.length < s.length then
        (readNames rest).map fun (key, rest) => (⟨name :: key.path, key.name⟩, rest)
      else none
    | rest => some (⟨[], name⟩, rest)
termination_by s.length

/-- Largest depth of values within values, and number of names in a key. -/
def maxDepth : Nat := 79

def readKey (s : List Char) : Option (Key × List Char) :=
  match readNames s with
  | some (key, rest) => if key.path.length < maxDepth then some (key, rest) else none
  | none => none

/-! ### Values -/

abbrev ValueReader := List Char → Option (Value × List Char)

/-- Reads the items of an array, from its bracket or a comma on. -/
def readItems (item : ValueReader) (s : List Char) : Option (List Value × List Char) :=
  match skipGap s with
  | ']' :: rest => some ([], rest)
  | start =>
    match item start with
    | none => none
    | some (v, rest) =>
      match skipGap rest with
      | ']' :: rest => some ([v], rest)
      | ',' :: rest =>
        if rest.length < s.length then
          (readItems item rest).map fun (vs, rest) => (v :: vs, rest)
        else none
      | _ => none
termination_by s.length

/-- Reads the fields of a table in braces, from its brace or a comma on. There is no comma after the
last field. -/
def readFields (item : ValueReader) (s : List Char) : Option (List (Key × Value) × List Char) :=
  match readKey s with
  | some (key, '=' :: rest) =>
    match item (skipSpace rest) with
    | none => none
    | some (v, rest) =>
      match skipSpace rest with
      | '\x7d' :: rest => some ([(key, v)], rest)
      | ',' :: rest =>
        if rest.length < s.length then
          (readFields item rest).map fun (fields, rest) => ((key, v) :: fields, rest)
        else none
      | _ => none
  | _ => none
termination_by s.length

def readInline (item : ValueReader) (s : List Char) : Option (Value × List Char) :=
  match skipSpace s with
  | '\x7d' :: rest => some (.table .inline [], rest)
  | _ =>
    match readFields item s with
    | none => none
    | some (fields, rest) =>
      (fields.foldlM (fun (table : Fields) field => table.assign field.1.path field.1.name field.2) []).map
        fun table => (.table .inline table, rest)

/-- Reads a value that holds no other. -/
def readScalar (s : List Char) : Option (Value × List Char) :=
  match s with
  | '"' :: _ => (Quoted.any s).map fun (text, rest) => (.text (String.ofList text), rest)
  | '\'' :: _ => (Quoted.any s).map fun (text, rest) => (.text (String.ofList text), rest)
  | _ => Atom.read s

/-- Reads a value that holds others to a given depth. -/
def readValue : (depth : Nat) → ValueReader
  | depth + 1, '[' :: s =>
    (readItems (readValue depth) s).map fun (vs, rest) => (.array vs, rest)
  | depth + 1, '\x7b' :: s => readInline (readValue depth) s
  | _, s => readScalar s

/-! ### Lines -/

/-- Reads one line. It may say nothing; a value may make it longer than a line of the text. -/
def readLine (s : List Char) : Option (Option Statement × List Char) :=
  match skipSpace s with
  | '[' :: '[' :: rest =>
    match readKey rest with
    | some (key, ']' :: ']' :: rest) => (lineEnd rest).map (some (.element key), ·)
    | _ => none
  | '[' :: rest =>
    match readKey rest with
    | some (key, ']' :: rest) => (lineEnd rest).map (some (.table key), ·)
    | _ => none
  | [] => some (none, [])
  | '\n' :: rest => some (none, rest)
  | '#' :: rest => (lineEnd ('#' :: rest)).map (none, ·)
  | rest =>
    match readKey rest with
    | some (key, '=' :: rest) =>
      match readValue maxDepth (skipSpace rest) with
      | some (v, rest) => (lineEnd rest).map (some (.assign key v), ·)
      | none => none
    | _ => none

def readLines (s : List Char) : Option (List Statement) :=
  match s with
  | [] => some []
  | c :: tail =>
    match readLine (c :: tail) with
    | none => none
    | some (line, rest) =>
      if rest.length ≤ tail.length then (readLines rest).map (line.toList ++ ·) else none
termination_by s.length
decreasing_by simp only [List.length_cons]; omega

def skipMark : List Char → List Char
  | '\uFEFF' :: s => s
  | s => s

def read (text : String) : Option Fields :=
  (readLines (unifyLineEnds (skipMark text.toList))).bind build

end NcmBridge.Toml
