import LayeredSchema.Json.Literal
import LayeredSchema.Json.Outline

/-!
Reading JSON text.

The text is first cut into tokens, then the tokens are put together; both steps take one element
after the other and keep what is open in a state. Main definitions: `Outline.read?`, `read?`.
-/

namespace LayeredSchema.Json

open Text

inductive Token
  | openArray
  | closeArray
  | openObject
  | closeObject
  | comma
  | colon
  /-- A string; none if it is no text. -/
  | text (s : Option String)
  /-- A word or a number; none if the number has no value. -/
  | scalar (v : Option Json)

namespace Lexer

/-- What the characters read last belong to. Characters of words and numbers, and the code points of
strings, are kept in reverse. -/
inductive State
  | between
  | word (seen : List Char)
  | number (seen : List Char)
  | text (seen : List Nat)
  | escape (seen : List Nat)
  | codeUnit (seen : List Nat) (count value : Nat)

def isHighSurrogate (n : Nat) : Bool := 0xD800 ≤ n && n < 0xDC00
def isLowSurrogate (n : Nat) : Bool := 0xDC00 ≤ n && n < 0xE000

/-- Puts the characters of code points, which are in reverse, before others. A high surrogate makes
one character with the low one after it; no surrogate stands alone. -/
def charsBefore? (cs : List Char) : List Nat → Option (List Char)
  | [] => some cs
  | [n] => if isHighSurrogate n || isLowSurrogate n then none else some (Char.ofNat n :: cs)
  | n :: high :: seen =>
    if isLowSurrogate n then
      if isHighSurrogate high then
        charsBefore? (Char.ofNat (0x10000 + (high - 0xD800) * 0x400 + (n - 0xDC00)) :: cs) seen
      else none
    else if isHighSurrogate n then none
    else charsBefore? (Char.ofNat n :: cs) (high :: seen)

def textToken (seen : List Nat) : Token := .text ((charsBefore? [] seen).map String.ofList)

def isNumberChar (c : Char) : Bool :=
  c.isDigit || c == '-' || c == '+' || c == '.' || c == 'e' || c == 'E'

def wordToken? (seen : List Char) : Option Token :=
  match seen.reverse with
  | ['n', 'u', 'l', 'l'] => some (.scalar (some .null))
  | ['t', 'r', 'u', 'e'] => some (.scalar (some (.bool true)))
  | ['f', 'a', 'l', 's', 'e'] => some (.scalar (some (.bool false)))
  | _ => none

def numberToken? (seen : List Char) : Option Token :=
  (Literal.read? seen.reverse).map fun l => .scalar (l.toNumber?.map .number)

/-- A character that is not inside a word, a number or a string. -/
def start? (c : Char) (tokens : List Token) : Option (State × List Token) :=
  if c = ' ' || c = '\t' || c = '\n' || c = '\r' then some (.between, tokens)
  else if c = '[' then some (.between, .openArray :: tokens)
  else if c = ']' then some (.between, .closeArray :: tokens)
  else if c = '\x7b' then some (.between, .openObject :: tokens)
  else if c = '\x7d' then some (.between, .closeObject :: tokens)
  else if c = ',' then some (.between, .comma :: tokens)
  else if c = ':' then some (.between, .colon :: tokens)
  else if c = '"' then some (.text [], tokens)
  else if c = '-' || c.isDigit then some (.number [c], tokens)
  else if c.isAlpha then some (.word [c], tokens)
  else none

def simpleEscape? (c : Char) : Option Char :=
  if c = '"' || c = '\\' || c = '/' then some c
  else if c = 'b' then some '\x08'
  else if c = 'f' then some '\x0c'
  else if c = 'n' then some '\n'
  else if c = 'r' then some '\r'
  else if c = 't' then some '\t'
  else none

/-- One character further; the tokens are kept in reverse. -/
def step? : State × List Token → Char → Option (State × List Token)
  | (.between, tokens), c => start? c tokens
  | (.word seen, tokens), c =>
    if c.isAlpha then some (.word (c :: seen), tokens)
    else do start? c ((← wordToken? seen) :: tokens)
  | (.number seen, tokens), c =>
    if isNumberChar c then some (.number (c :: seen), tokens)
    else do start? c ((← numberToken? seen) :: tokens)
  | (.text seen, tokens), c =>
    if c = '"' then some (.between, textToken seen :: tokens)
    else if c = '\\' then some (.escape seen, tokens)
    else if c.toNat < 0x20 then none
    else some (.text (c.toNat :: seen), tokens)
  | (.escape seen, tokens), c =>
    if c = 'u' then some (.codeUnit seen 0 0, tokens)
    else (simpleEscape? c).map fun d => (.text (d.toNat :: seen), tokens)
  | (.codeUnit seen count value, tokens), c => do
    let value := 16 * value + (← hexDigit? c)
    return (if count = 3 then .text (value :: seen) else .codeUnit seen (count + 1) value, tokens)

def finish? : State × List Token → Option (List Token)
  | (.between, tokens) => some tokens.reverse
  | (.word seen, tokens) => (wordToken? seen).map fun t => (t :: tokens).reverse
  | (.number seen, tokens) => (numberToken? seen).map fun t => (t :: tokens).reverse
  | _ => none

def tokens? (cs : List Char) : Option (List Token) :=
  (cs.foldlM step? (.between, [])).bind finish?

end Lexer

namespace Builder

/-- A container that is not closed, with what it holds so far in reverse. -/
inductive Frame
  | items (done : List Outline)
  | entries (done : List (Option String × Outline)) (key : Option String)

/-- What may come next, within the containers that are open, the innermost first. -/
inductive State
  | value (open_ : List Frame)
  | firstItem (open_ : List Frame)
  | afterItem (done : List Outline) (open_ : List Frame)
  | firstKey (open_ : List Frame)
  | key (done : List (Option String × Outline)) (open_ : List Frame)
  | afterKey (done : List (Option String × Outline)) (key : Option String) (open_ : List Frame)
  | afterEntry (done : List (Option String × Outline)) (open_ : List Frame)
  | finished (o : Outline)

def settle (o : Outline) : List Frame → State
  | [] => .finished o
  | .items done :: open_ => .afterItem (o :: done) open_
  | .entries done k :: open_ => .afterEntry ((k, o) :: done) open_

def begin? (open_ : List Frame) : Token → Option State
  | .scalar v => some (settle (.scalar v) open_)
  | .text s => some (settle (.scalar (s.map .string)) open_)
  | .openArray => some (.firstItem open_)
  | .openObject => some (.firstKey open_)
  | _ => none

def step? : State → Token → Option State
  | .value open_, t => begin? open_ t
  | .firstItem open_, .closeArray => some (settle (.array []) open_)
  | .firstItem open_, t => begin? (.items [] :: open_) t
  | .afterItem done open_, .comma => some (.value (.items done :: open_))
  | .afterItem done open_, .closeArray => some (settle (.array done.reverse) open_)
  | .firstKey open_, .closeObject => some (settle (.object []) open_)
  | .firstKey open_, .text k => some (.afterKey [] k open_)
  | .key done open_, .text k => some (.afterKey done k open_)
  | .afterKey done k open_, .colon => some (.value (.entries done k :: open_))
  | .afterEntry done open_, .comma => some (.key done open_)
  | .afterEntry done open_, .closeObject => some (settle (.object done.reverse) open_)
  | _, _ => none

def build? (tokens : List Token) : Option Outline :=
  match tokens.foldlM step? (.value []) with
  | some (.finished o) => some o
  | _ => none

end Builder

/-- Reads the parts of a text, which may not have values. -/
def Outline.read? (text : String) : Option Outline :=
  (Lexer.tokens? text.toList).bind Builder.build?

/-- Reads a text whose containers nest at most `depth` deep. -/
def readWithin? (depth : Nat) (text : String) : Option Json :=
  (Outline.read? text).bind (·.value? depth)

def maxDepth : Nat := 127

def read? (text : String) : Option Json := readWithin? maxDepth text

end LayeredSchema.Json
