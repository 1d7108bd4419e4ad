import LayeredSchema.Json.Basic
import LayeredSchema.Text.Ascii

/-!
JSON text: the compact form on one line, and the form with one entry a line, indented by two
spaces a level.
-/

namespace LayeredSchema.Json

open Text

/-- A character inside a JSON string. Only quotes, backslashes and control characters below the
space are escaped. -/
def escapeChar (c : Char) : List Char :=
  if c = '"' || c = '\\' then ['\\', c]
  else if c = '\x08' then ['\\', 'b']
  else if c = '\t' then ['\\', 't']
  else if c = '\n' then ['\\', 'n']
  else if c = '\x0c' then ['\\', 'f']
  else if c = '\r' then ['\\', 'r']
  else if c.toNat < 0x20 then
    ['\\', 'u', '0', '0', hexDigit (c.toNat / 16), hexDigit (c.toNat % 16)]
  else [c]

def stringChars (s : String) : List Char := '"' :: s.toList.flatMap escapeChar ++ ['"']

/-- The texts of several values with `sep` between them. -/
def joined (sep : List Char) : List (List Char) → List Char
  | [] => []
  | [t] => t
  | t :: ts => t ++ sep ++ joined sep ts

mutual

def compactChars : Json → List Char
  | .null => ['n', 'u', 'l', 'l']
  | .bool true => ['t', 'r', 'u', 'e']
  | .bool false => ['f', 'a', 'l', 's', 'e']
  | .number n => n.text.toList
  | .string s => stringChars s
  | .array items => '[' :: joined [','] (compactItems items) ++ [']']
  | .object entries => '\x7b' :: joined [','] (compactEntries entries) ++ ['\x7d']

def compactItems : List Json → List (List Char)
  | [] => []
  | v :: vs => compactChars v :: compactItems vs

def compactEntries : List (String × Json) → List (List Char)
  | [] => []
  | (k, v) :: es => (stringChars k ++ ':' :: compactChars v) :: compactEntries es

end

def compact (v : Json) : String := String.ofList v.compactChars

def newline (depth : Nat) : List Char := '\n' :: List.replicate (2 * depth) ' '

/-- Lays out the parts of a container, which is at `depth`. -/
def blockChars (opening closing : Char) (depth : Nat) : List (List Char) → List Char
  | [] => [opening, closing]
  | part :: parts =>
    opening :: newline (depth + 1) ++ joined (',' :: newline (depth + 1)) (part :: parts) ++
      newline depth ++ [closing]

mutual

def prettyChars (depth : Nat) : Json → List Char
  | .array items => blockChars '[' ']' depth (prettyItems (depth + 1) items)
  | .object entries => blockChars '\x7b' '\x7d' depth (prettyEntries (depth + 1) entries)
  | v => v.compactChars

def prettyItems (depth : Nat) : List Json → List (List Char)
  | [] => []
  | v :: vs => prettyChars depth v :: prettyItems depth vs

def prettyEntries (depth : Nat) : List (String × Json) → List (List Char)
  | [] => []
  | (k, v) :: es =>
    (stringChars k ++ ':' :: ' ' :: prettyChars depth v) :: prettyEntries depth es

end

/-- The text with one entry a line; empty containers stay on theirs. -/
def pretty (v : Json) : String := String.ofList (v.prettyChars 0)

end LayeredSchema.Json
