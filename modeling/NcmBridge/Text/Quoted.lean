import NcmBridge.Text.Printable

/-!
# Quoted text

A text in a message is shown in double quotes and a character in single quotes. The quote itself,
backslashes, and characters that cannot be shown are escaped.
-/

namespace NcmBridge.Quoted

/-- A character between two quotes of the given kind. -/
def escapeChar (quote c : Char) : List Char :=
  if c = quote ∨ c = '\\' then ['\\', c]
  else if c = '\n' then ['\\', 'n']
  else if c = '\r' then ['\\', 'r']
  else if c = '\t' then ['\\', 't']
  else if c.toNat = 0 then ['\\', '0']
  else if Text.isShown c then [c]
  else ['\\', 'u', '\x7b'] ++ Nat.toDigits 16 c.toNat ++ ['\x7d']

def quoteChar (c : Char) : String := "'" ++ String.ofList (escapeChar '\'' c) ++ "'"

def quote (s : String) : String := "\"" ++ String.ofList (s.toList.flatMap (escapeChar '"')) ++ "\""

/-- Texts in quotes, with commas between and brackets around. -/
def quoteAll (texts : List String) : String :=
  "[" ++ String.intercalate ", " (texts.map quote) ++ "]"

end NcmBridge.Quoted
