import NcmBridge.Log
import NcmBridge.Text.Alphanumeric
import NcmBridge.Text.Blank
import NcmBridge.Text.Digits
import NcmBridge.Text.Slice

/-!
# Directives of a log filter

A directive is a level alone, which is for all lines, or it says for which lines its level is:
`source[span{field=value}]=level`. Each part may be left out, but not all of them. Lines of the log have
one field, which is the message, and belong to no span.
-/

namespace NcmBridge

/-- Why a text is no directive. -/
inductive LogFilterFault
  | malformed
  | unknownLevel
  deriving DecidableEq, Repr, Inhabited

def LogFilterFault.message : LogFilterFault → String
  | malformed => "invalid filter directive"
  | unknownLevel => "error parsing level filter: expected one of \"off\", \"error\", \"warn\", " ++
      "\"info\", \"debug\", \"trace\", or a number 0-5"

/-- A field that lines must have, perhaps with a certain value. -/
structure LogField where
  name : String
  valued : Bool
  deriving DecidableEq, Repr, Inhabited

/-- A directive: the lines that it is about, and the least level that they are shown from, if they are
shown at all. -/
structure LogDirective where
  source : Option String := none
  span : Option String := none
  field : Option LogField := none
  level : Option Level := some .trace
  deriving DecidableEq, Repr, Inhabited

namespace LogDirective

/-! ### Levels -/

/-- The level with a number, if there is one; 0 shows nothing. -/
def levelOfNumber? : Nat → Option (Option Level)
  | 0 => some none
  | 1 => some (some .error)
  | 2 => some (some .warn)
  | 3 => some (some .info)
  | 4 => some (some .debug)
  | 5 => some (some .trace)
  | _ => none

/-- The level with a name; case does not matter. -/
def levelOfName? (name : List Char) : Option (Option Level) :=
  match String.ofList (name.map Char.toLower) with
  | "off" => some none
  | "error" => some (some .error)
  | "warn" => some (some .warn)
  | "info" => some (some .info)
  | "debug" => some (some .debug)
  | "trace" => some (some .trace)
  | _ => none

/-- The level that a text means. A number may have a plus before it. -/
def level? (text : List Char) : Option (Option Level) :=
  let digits := if text.head? = some '+' then text.tail else text
  if digits ≠ [] ∧ digits.all Char.isDigit then levelOfNumber? (Text.valueOf 10 digits)
  else levelOfName? text

/-! ### Reading

Places are counted in the text without the blanks at its ends, but parts are taken at these places from
the text with them. So a blank before a directive shifts all its parts. -/

/-- The text from one place to another. -/
def part (text : List Char) (start stop : Nat) : Except LogFilterFault (List Char) :=
  match Text.slice? start stop text with
  | some cs => .ok cs
  | none => .error .malformed

/-- Reads the level that stands from a place on. If it is left out all levels are shown. -/
def readLevel (text : List Char) (start : Nat) : Except LogFilterFault (Option Level) := do
  match ← part text start (Text.byteLen text) with
  | [] => return some .trace
  | cs => match level? cs with
    | some level => return level
    | none => throw .unknownLevel

def readEnd (text : List Char) (d : LogDirective) (place : Nat) :
    List Char → Except LogFilterFault LogDirective
  | [] => .ok d
  | '=' :: _ => do return { d with level := ← readLevel text (place + 1) }
  | _ => .error .malformed

/-- Reads a field and all that follows it. -/
def readField (text : List Char) (d : LogDirective) (place : Nat) (rest : List Char) :
    Except LogFilterFault LogDirective := do
  let stop := place + Text.byteLen (rest.takeWhile (· ≠ '\x7d'))
  match rest.dropWhile (· ≠ '\x7d') with
  | _ :: ']' :: rest =>
    let field ← part text place stop
    if field = [] then throw .malformed
    let name := String.ofList (field.takeWhile (· ≠ '='))
    readEnd text { d with field := some ⟨name, field.contains '='⟩ } (stop + 2) rest
  | _ => throw .malformed

/-- Reads a span and all that follows it. An empty span is one, unless a field follows. -/
def readSpan (text : List Char) (d : LogDirective) (place : Nat) (rest : List Char) :
    Except LogFilterFault LogDirective := do
  let isOpen (c : Char) : Bool := c ≠ ']' && c ≠ '\x7b'
  let stop := place + Text.byteLen (rest.takeWhile isOpen)
  match rest.dropWhile isOpen with
  | [] => throw .malformed
  | ']' :: rest =>
    readEnd text { d with span := some (String.ofList (← part text place stop)) } (stop + 1) rest
  | _ :: rest =>
    let span ← part text place stop
    readField text { d with span := if span = [] then none else some (String.ofList span) }
      (stop + 1) rest

def isSourceStart (c : Char) : Bool := c = '-' || c = ':' || c = '_' || Text.isAlphanumeric c

/-- Reads a directive. A text that is neither a level nor has any marks is a source, shown in full. -/
def read (text : List Char) : Except LogFilterFault LogDirective := do
  let isOpen (c : Char) : Bool := c ≠ '=' && c ≠ '['
  let body := Text.trimEnds text
  match body with
  | [] => throw .malformed
  | '[' :: rest => readSpan text {} 1 rest
  | c :: _ =>
    if !isSourceStart c then throw .malformed
    let stop := Text.byteLen (body.takeWhile isOpen)
    match body.dropWhile isOpen with
    | [] => match level? text with
      | some level => return { level }
      | none => return { source := some (String.ofList text) }
    | '=' :: _ =>
      let source ← part text 0 stop
      return { source := some (String.ofList source), level := ← readLevel text (stop + 1) }
    | _ :: rest =>
      let source ← part text 0 stop
      readSpan text { source := some (String.ofList source) } (stop + 1) rest

/-! ### Lines -/

/-- Whether a directive is about a line: the line's source begins with that of the directive. -/
def concerns (d : LogDirective) (line : LogLine) : Bool :=
  d.span.isNone && (d.source.all fun s => s.toList.isPrefixOf line.source.name.toList) &&
    (d.field.all fun f => f = ⟨"message", false⟩)

/-- How closely a directive fits the lines that it is about: a longer source fits more closely, and of
equal sources one with a field. -/
def weight (d : LogDirective) : Nat :=
  2 * (d.source.map String.utf8ByteSize).getD 0 + d.field.toList.length

end LogDirective

end NcmBridge
