/-!
# Targets of requests

The target of a request is a path, an asterisk, a whole address, or an authority alone. Only its path
counts, but a target that is not well formed makes the request invalid.
-/

namespace NcmBridge.Target

/-! ### Paths and queries -/

def isPathChar (c : Char) : Bool :=
  c = '!' || ('$' ≤ c && c ≤ ';') || c = '=' || ('@' ≤ c && c ≤ '_') || ('a' ≤ c && c ≤ '~') || c = '"'

def isQueryChar (c : Char) : Bool :=
  c = '!' || ('$' ≤ c && c ≤ ';') || c = '=' || ('?' ≤ c && c ≤ '~')

/-- A path ends where its query or fragment begins. -/
def isOpen (c : Char) : Bool := c ≠ '?' && c ≠ '#'

/-- The path at the start of a text that may have a query and a fragment. What stands in a fragment does
not matter, and an empty path is the root. -/
def localPath? (text : List Char) : Option String :=
  let path := text.takeWhile isOpen
  let query := (text.dropWhile isOpen).takeWhile (· ≠ '#')
  if path.all isPathChar && query.all isQueryChar then
    some (if path = [] then "/" else String.ofList path)
  else
    none

/-! ### Authorities -/

/-- What is known of an authority that has been read up to some place. -/
structure AuthorityScan where
  /-- The colons that may stand before a port. -/
  colons : Nat := 0
  opened : Bool := false
  closed : Bool := false
  /-- A percent sign has come that must turn out to belong to a name of a user or a zone. -/
  percent : Bool := false
  deriving DecidableEq, Repr, Inhabited

/-- The most colons in a row of parts: those of a long address, and one for the port. -/
def maxColons : Nat := 8

/-- Characters without a meaning of their own in an authority. -/
def isPlainChar (c : Char) : Bool := c.isAlphanum || "!$&'()*+,-.;=_~".toList.contains c

/-- Reads one character. Colons and percent signs before an at sign belong to the user, and those in
brackets to the address. -/
def AuthorityScan.step (a : AuthorityScan) (c : Char) : Option AuthorityScan :=
  if c = ':' then
    if a.colons < maxColons then some { a with colons := a.colons + 1 } else none
  else if c = '[' then
    if a.percent || a.opened then none else some { a with opened := true }
  else if c = ']' then
    if a.opened && !a.closed then some { a with closed := true, colons := 0, percent := false }
    else none
  else if c = '@' then
    some { a with colons := 0, percent := false }
  else if c = '%' then
    some { a with percent := true }
  else if isPlainChar c then
    some a
  else
    none

/-- Whether a text is an authority: brackets are closed, at most one colon is left for a port, and there
is something behind the user. -/
def isAuthority (text : List Char) : Bool :=
  match text.foldlM AuthorityScan.step {} with
  | some a => a.opened == a.closed && a.colons ≤ 1 && !a.percent && text.getLast? ≠ some '@'
  | none => false

/-! ### Whole addresses -/

def isSchemeChar (c : Char) : Bool := c.isAlphanum || c = '+' || c = '-' || c = '.'

/-- The name of the scheme with which a whole address begins, and what follows its mark. -/
def scheme? (text : List Char) : Option (List Char × List Char) :=
  match text.dropWhile isSchemeChar with
  | ':' :: '/' :: '/' :: rest => some (text.takeWhile isSchemeChar, rest)
  | _ => none

def maxScheme : Nat := 64

/-- The longest target, in bytes. -/
def maxLen : Nat := 65534

/-- The path of a target, if the target is well formed. An authority alone has no path. -/
def path? (target : String) : Option String :=
  if maxLen < target.utf8ByteSize then none
  else match target.toList with
    | [] => none
    | ['*'] => some "*"
    | '/' :: rest => localPath? ('/' :: rest)
    | chars =>
      match scheme? chars with
      | some (name, rest) =>
        let inAuthority (c : Char) : Bool := c ≠ '/' && isOpen c
        let authority := rest.takeWhile inAuthority
        if name.length ≤ maxScheme && authority ≠ [] && isAuthority authority then
          localPath? (rest.dropWhile inAuthority)
        else
          none
      | none => if isAuthority chars then some "" else none

end NcmBridge.Target
