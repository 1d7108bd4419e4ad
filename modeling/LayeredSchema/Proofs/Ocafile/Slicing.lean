import LayeredSchema.Ocafile.Parser
import LayeredSchema.Proofs.Text.Bytes
import Mathlib

/-!
Reading by byte offsets. A place in a line is a number of bytes, and what is read is cut out of the
line there. A cut inside a character is no result at all, nor is a loop with more rounds than the
text has characters. Main definition: `sliced`.
-/

namespace LayeredSchema.Ocafile

open Text

/-- A reading that cuts texts at byte offsets: nothing comes of it if one is inside a character. -/
abbrev Sliced (α : Type) := ExceptT Error Option α

def afterStem (stem cs : List Char) : Option (Option (List Char)) :=
  match splitAtByte? stem.length cs with
  | none => some none
  | some (head, _) =>
    if sameIgnoringCase stem head then (splitAtByte? stem.length cs).map fun (_, rest) => some rest
    else some none

def typeOf : ℕ → List Char → Option (Except AttributeType.Invalid AttributeType)
  | 0, _ => none
  | n + 1, text => do
    let cs := trim text
    let invalid : Except AttributeType.Invalid AttributeType := .error ⟨String.ofList cs⟩
    match ← afterStem ['a', 'r', 'r', 'a', 'y', '['] cs with
    | some rest =>
      match dropLastChar? ']' rest with
      | some inner => return (← typeOf n inner).map .array
      | none => return invalid
    | none =>
      match ← afterStem ['r', 'e', 'f', 's', ':'] cs with
      | some rest =>
        match Said.parse (String.ofList rest) with
        | .ok said => return .ok (.reference (.said said))
        | .error _ => return invalid
      | none =>
        match ← afterStem ['r', 'e', 'f', 'n', ':'] cs with
        | some rest =>
          if rest.isEmpty then return invalid
          else return .ok (.reference (.name (String.ofList rest)))
        | none =>
          match Primitive.ofName? cs with
          | some p => return .ok (.primitive p)
          | none => return invalid

structure Source where
  line : ℕ
  column : ℕ
  text : List Char

namespace Source

variable (s : Source)

def rounds : ℕ := s.text.length + 1

def errorAt {α : Type} (pos : ℕ) (cause : Cause) : Sliced α := do
  let (read, _) ← splitAtByte? pos s.text
  throw ⟨s.line, s.column + read.length, cause⟩

def rest (pos : ℕ) : Sliced (List Char) := do
  let (_, rest) ← splitAtByte? pos s.text
  return rest

def peek (pos : ℕ) : Sliced (Option Char) := do
  let rest ← s.rest pos
  return rest.head?

def bump (pos : ℕ) : Sliced (Option Char × ℕ) := do
  match ← s.peek pos with
  | some c => return (some c, pos + c.utf8Size)
  | none => return (none, pos)

def eat (pos : ℕ) (expected : Char) : Sliced (Bool × ℕ) := do
  let c ← s.peek pos
  if c = some expected then return (true, pos + expected.utf8Size) else return (false, pos)

def eatIf (condition : Bool) (pos : ℕ) (expected : Char) : Sliced (Bool × ℕ) :=
  if condition then s.eat pos expected else pure (false, pos)

def atEnd (pos : ℕ) : Sliced Bool := do
  let rest ← s.rest pos
  return (trim rest).isEmpty

def takeWhile (pos : ℕ) (p : Char → Bool) : Sliced (List Char × ℕ) := do
  let rest ← s.rest pos
  let length := bytesBefore (fun c => !p c) rest
  let (taken, _) ← splitAtByte? length rest
  return (taken, pos + length)

def skipBlanks (pos : ℕ) : Sliced ℕ := do
  let (_, pos) ← s.takeWhile pos isBlank
  return pos

def word (pos : ℕ) : Sliced (List Char × ℕ) := s.takeWhile pos fun c => !isBlank c

def name (pos : ℕ) : Sliced (List Char × ℕ) := s.takeWhile pos fun c => c != '=' && !isBlank c

def expectEnd (pos : ℕ) : Sliced Unit := do
  let pos ← s.skipBlanks pos
  let ended ← s.atEnd pos
  if ended then return () else s.errorAt pos .trailingCharacters

def unquote (start : ℕ) : ℕ → ℕ → List Char → Sliced (String × ℕ)
  | 0, _, _ => ExceptT.mk none
  | n + 1, pos, out => do
    match ← s.bump pos with
    | (none, _) => s.errorAt start .unterminatedString
    | (some c, pos) =>
      if c = '"' then return (String.ofList out, pos)
      else if c = '\\' then
        match ← s.bump pos with
        | (none, _) => s.errorAt start .unterminatedString
        | (some c, pos) => unquote start n pos (out ++ Cursor.unescape c)
      else unquote start n pos (out ++ [c])

def quoted (start : ℕ) : Sliced (String × ℕ) := do
  let (_, pos) ← s.bump start
  s.unquote start s.rounds pos []

def scalar (pos : ℕ) (what : String) : Sliced (String × ℕ) := do
  let pos ← s.skipBlanks pos
  let c ← s.peek pos
  if c = some '"' then s.quoted pos
  else
    let rest ← s.rest pos
    let pos := byteLength s.text
    if (trim rest).isEmpty then s.errorAt pos (.missingValue what)
    else return (String.ofList (trim rest), pos)

def afterElement (start pos : ℕ) (item : String) : Sliced (String × ℕ) := do
  let pos ← s.skipBlanks pos
  match ← s.peek pos with
  | none => s.errorAt start .unterminatedArray
  | some c =>
    if c = ',' then
      let (_, pos) ← s.bump pos
      return (item, pos)
    else if c = ']' then return (item, pos)
    else s.errorAt pos .trailingCharacters

def element (start pos : ℕ) (c : Char) : Sliced (String × ℕ) := do
  if c = '"' then
    let (item, pos) ← s.quoted pos
    s.afterElement start pos item
  else
    let (item, pos) ← s.takeWhile pos Cursor.isElementChar
    if (trim item).isEmpty then s.errorAt pos (.missingValue "array element")
    else s.afterElement start pos (String.ofList (trim item))

def elements (start : ℕ) : ℕ → ℕ → List String → Sliced (List String × ℕ)
  | 0, _, _ => ExceptT.mk none
  | n + 1, pos, items => do
    let pos ← s.skipBlanks pos
    match ← s.peek pos with
    | none => s.errorAt start .unterminatedArray
    | some c =>
      if c = ']' then
        let (_, pos) ← s.bump pos
        return (items, pos)
      else
        let (item, pos) ← s.element start pos c
        elements start n pos (items ++ [item])

def array (start : ℕ) : Sliced (List String × ℕ) := do
  let (_, pos) ← s.bump start
  s.elements start s.rounds pos []

def value (pos : ℕ) : Sliced PropertyValue := do
  let pos ← s.skipBlanks pos
  let c ← s.peek pos
  if c = some '"' then
    let (text, pos) ← s.quoted pos
    s.expectEnd pos
    return .text text
  else if c = some '[' then
    let (items, pos) ← s.array pos
    s.expectEnd pos
    return .list items
  else
    let rest ← s.rest pos
    s.expectEnd (byteLength s.text)
    return .text (String.ofList (trim rest))

def header (p : Progress) : Sliced Progress := do
  let (word, pos) ← s.name 0
  let (found, pos) ← s.eatIf (sameIgnoringCase word "--name".toList) pos '='
  if !found then s.errorAt 0 (.unknownKeyword (String.ofList word))
  else if p.name.isSome then s.errorAt 0 .duplicateHeader
  else if p.started then s.errorAt 0 .misplacedHeader
  else
    let (name, pos) ← s.scalar pos "schema name"
    s.expectEnd pos
    return { p with name := some name }

def declaration (start : ℕ) : Sliced ((String × AttributeType) × ℕ) := do
  let (name, pos) ← s.name start
  let (found, pos) ← s.eatIf (!name.isEmpty) pos '='
  if found then
    let (text, after) ← s.word pos
    match ← typeOf (text.length + 1) text with
    | .ok t => return ((String.ofList name, t), after)
    | .error _ => s.errorAt pos (.unknownAttributeType (String.ofList text))
  else
    let (token, _) ← s.word pos
    s.errorAt start (.malformedAttribute (String.ofList (name ++ token)))

def attributes :
    ℕ → ℕ → List (String × AttributeType) → Sliced (List (String × AttributeType) × ℕ)
  | 0, _, _ => ExceptT.mk none
  | n + 1, pos, declared => do
    let pos ← s.skipBlanks pos
    let ended ← s.atEnd pos
    if ended then return (declared, pos)
    else
      let (a, pos) ← s.declaration pos
      attributes n pos (declared ++ [a])

def addition (p : Progress) (start : ℕ) : Sliced Progress := do
  let (object, pos) ← s.word start
  let pos ← s.skipBlanks pos
  let keyword := fun (k : String) => sameIgnoringCase object k.toList
  if keyword "ATTRIBUTE" then
    let (declared, pos) ← s.attributes s.rounds pos []
    if declared.isEmpty then s.errorAt pos .emptyAttributeList
    else return p.add s.line (.attributes declared)
  else if keyword "CLASSIFICATION" then
    let (value, pos) ← s.scalar pos "classification"
    s.expectEnd pos
    return p.add s.line (.classification value)
  else if keyword "OVERLAY" then
    let (name, pos) ← s.scalar pos "overlay name"
    s.expectEnd pos
    return { p with overlay := some ⟨s.line, name, []⟩ }
  else if object.isEmpty then s.errorAt pos (.missingValue "ADD target")
  else s.errorAt start (.unknownKeyword ("ADD " ++ String.ofList object))

def statement (p : Progress) : Sliced Progress := do
  let (word, pos) ← s.word 0
  if sameIgnoringCase word "ADD".toList then
    let pos ← s.skipBlanks pos
    s.addition p pos
  else s.errorAt 0 (.unknownKeyword (String.ofList word))

def key : Sliced (String × ℕ) := do
  let c ← s.peek 0
  if c = some '"' then s.quoted 0
  else
    let (key, pos) ← s.name 0
    return (String.ofList key, pos)

def valueAfter (pos : ℕ) : Sliced PropertyValue := do
  let (found, pos) ← s.eat pos '='
  if found then s.value pos
  else
    let ended ← s.atEnd pos
    if ended then return .bare else s.errorAt pos .missingEquals

def blockLine (p : Progress) (indent : ℕ) : Sliced Progress :=
  match p.overlay with
  | none => throw ⟨s.line, indent + 1, .indentOutsideBlock⟩
  | some o => do
    let (key, pos) ← s.key
    let pos ← s.skipBlanks pos
    let value ← s.valueAfter pos
    if key.isEmpty then s.errorAt 0 .missingEquals
    else
      return { p with
        overlay := some { o with block := o.block ++ [⟨s.line, indent, key, value⟩] } }

end Source

def slicedLine (p : Progress) (l : LogicalLine) : Sliced Progress := do
  let content := trimLeft l.text
  if content.isEmpty || content.head? == some '#' then return p
  else
    let (leading, _) ← splitAtByte? (byteLength l.text - byteLength content) l.text
    let indent := byteLength leading
    if leading.contains '\t' then
      throw ⟨l.number, bytesBefore (· == '\t') leading + 1, .tabIndentation⟩
    else if 0 < indent then Source.blockLine ⟨l.number, indent + 1, content⟩ p indent
    else
      let s : Source := ⟨l.number, 1, content⟩
      let p ← ExceptT.mk (some p.close)
      let p ← if (dropStem? ['-', '-'] content).isSome then s.header p else s.statement p
      return { p with started := true }

def sliced (text : List Char) : Sliced Ocafile := do
  let p ← (logicalLines text).foldlM slicedLine {}
  let p ← ExceptT.mk (some p.close)
  return ⟨p.name, p.commands⟩

end LayeredSchema.Ocafile
