/-!
# TOML values

A document is a table. Where a table was written decides what may be added to it later, so every table
carries its origin: the operations below build a document line by line and refuse whatever would define
something twice.
-/

namespace NcmBridge.Toml

/-- How a table came to be. -/
inductive Origin
  /-- It has a header of its own. -/
  | header
  /-- A header named it on the way to a table inside. -/
  | implied
  /-- A dotted key named it. -/
  | dotted
  /-- It is written in braces. -/
  | inline
  deriving DecidableEq, Repr, Inhabited

/-- A value. Floats, dates and times are kept as they are written. -/
inductive Value
  | text (s : String)
  | integer (n : Int)
  | boolean (b : Bool)
  | float (literal : List Char)
  | moment (literal : List Char)
  | array (items : List Value)
  | table (origin : Origin) (fields : List (String × Value))
  /-- The tables written under one repeated header. -/
  | tables (elements : List (List (String × Value)))
  deriving Inhabited

/-- The contents of a table, in the order in which they were written. -/
abbrev Fields := List (String × Value)

/-- A key with dots: the tables on the way, and the name in the last of them. -/
structure Key where
  path : List String
  name : String
  deriving DecidableEq, Repr, Inhabited

namespace Fields

def find? (fields : Fields) (name : String) : Option Value := List.lookup name fields

/-- The contents with another value under a name that is there. -/
def put (fields : Fields) (name : String) (v : Value) : Fields :=
  fields.map fun field => if field.1 = name then (name, v) else field

/-- The contents with a value under a new name, if it is new. -/
def insert? (fields : Fields) (name : String) (v : Value) : Option Fields :=
  match find? fields name with
  | none => some (fields ++ [(name, v)])
  | some _ => none

/-- The contents with a value under a dotted key. Such a key makes the tables on its way, and goes
through those that dotted keys made. It may pass through an implied table, or the last table under a
repeated header, but not end in one, and never enters a table with a header or one in braces. -/
def assign : (fields : Fields) → (path : List String) → (name : String) → Value → Option Fields
  | fields, [], name, v => insert? fields name v
  | fields, step :: path, name, v =>
    match find? fields step with
    | none => (assign [] path name v).map fun inner => fields ++ [(step, .table .dotted inner)]
    | some (.table .dotted inner) =>
      (assign inner path name v).map fun inner => put fields step (.table .dotted inner)
    | some (.table .implied inner) =>
      if path = [] then none
      else (assign inner path name v).map fun inner => put fields step (.table .implied inner)
    | some (.tables elements) =>
      if path = [] then none
      else (assign (elements.getLast?.getD []) path name v).map fun last =>
        put fields step (.tables (elements.dropLast ++ [last]))
    | some _ => none

/-- Changes the table at the end of a header's path. Tables that are not there are implied, and of
tables under a repeated header the last is meant. -/
def within (change : Fields → Option Fields) : (path : List String) → Fields → Option Fields
  | [], fields => change fields
  | step :: path, fields =>
    match find? fields step with
    | none => (within change path []).map fun inner => fields ++ [(step, .table .implied inner)]
    | some (.table .inline _) => none
    | some (.table origin inner) =>
      (within change path inner).map fun inner => put fields step (.table origin inner)
    | some (.tables elements) =>
      (within change path (elements.getLast?.getD [])).map fun last =>
        put fields step (.tables (elements.dropLast ++ [last]))
    | some _ => none

/-- The contents after the header of a table: it must be new, or implied so far. -/
def openTable (name : String) (fields : Fields) : Option Fields :=
  match find? fields name with
  | none => some (fields ++ [(name, .table .header [])])
  | some (.table .implied inner) => some (put fields name (.table .header inner))
  | some _ => none

/-- The contents after a repeated header: another table begins. -/
def openElement (name : String) (fields : Fields) : Option Fields :=
  match find? fields name with
  | none => some (fields ++ [(name, .tables [[]])])
  | some (.tables elements) => some (put fields name (.tables (elements ++ [[]])))
  | some _ => none

end Fields

/-- A line of a document that says something. -/
inductive Statement
  | table (key : Key)
  | element (key : Key)
  | assign (key : Key) (v : Value)
  deriving Inhabited

/-- A document under way: its contents, and the path of the last header. -/
structure Draft where
  fields : Fields := []
  current : List String := []
  deriving Inhabited

namespace Draft

/-- The document after one more line. -/
def add (d : Draft) : Statement → Option Draft
  | .table key =>
    (d.fields.within (Fields.openTable key.name) key.path).map fun fields =>
      ⟨fields, key.path ++ [key.name]⟩
  | .element key =>
    (d.fields.within (Fields.openElement key.name) key.path).map fun fields =>
      ⟨fields, key.path ++ [key.name]⟩
  | .assign key v =>
    (d.fields.within (fun table => table.assign key.path key.name v) d.current).map fun fields =>
      { d with fields }

end Draft

def build (lines : List Statement) : Option Fields :=
  (lines.foldlM Draft.add {}).map Draft.fields

end NcmBridge.Toml
