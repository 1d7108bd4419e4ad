import LayeredSchema.Ocafile.Block
import LayeredSchema.Ocafile.LogicalLine

/-!
Reading an OCAfile.

A logical line is a comment, a statement, or, if it is indented, a line of the block under the
overlay command before it. A block is closed, and its command complete, where the next statement
starts or the text ends. Main definition: `Ocafile.parse`.
-/

namespace LayeredSchema.Ocafile

open Text

structure OpenOverlay where
  line : Nat
  name : String
  block : List BlockLine

structure Progress where
  name : Option String := none
  commands : List Command := []
  overlay : Option OpenOverlay := none
  started : Bool := false

namespace Progress

def add (p : Progress) (line : Nat) (action : Action) : Progress :=
  { p with commands := p.commands ++ [⟨line, action⟩] }

def close (p : Progress) : Except Error Progress :=
  match p.overlay with
  | none => .ok p
  | some o => do
    let ps ← properties o.block
    return { p.add o.line (.overlay o.name ps) with overlay := none }

end Progress

def readHeader (p : Progress) (start : Cursor) : Except Error Progress := do
  let (word, c) := start.name
  match sameIgnoringCase word "--name".toList, c.rest with
  | true, '=' :: rest =>
    if p.name.isSome then start.fail .duplicateHeader
    else if p.started then start.fail .misplacedHeader
    else
      let (name, c) ← (c.moveTo rest).scalar "schema name"
      c.expectEnd
      return { p with name := some name }
  | _, _ => start.fail (.unknownKeyword (String.ofList word))

def readAttribute (start : Cursor) : Except Error ((String × AttributeType) × Cursor) :=
  let (name, c) := start.name
  match name, c.rest with
  | _ :: _, '=' :: rest =>
    let c := c.moveTo rest
    let (text, after) := c.word
    match AttributeType.parseChars text with
    | .ok t => .ok ((String.ofList name, t), after)
    | .error _ => c.fail (.unknownAttributeType (String.ofList text))
  | _, _ => start.fail (.malformedAttribute (String.ofList (name ++ c.word.1)))

theorem length_takeWhile_cursor (c : Cursor) (p : Char → Bool) :
    (c.takeWhile p).2.rest.length ≤ c.rest.length :=
  (List.dropWhile_suffix p).length_le

theorem length_of_readAttribute {start c : Cursor} {a : String × AttributeType}
    (h : readAttribute start = .ok (a, c)) : c.rest.length < start.rest.length := by
  simp only [readAttribute] at h
  split at h
  · rename_i rest _ hr
    split at h
    · simp only [Except.ok.injEq, Prod.mk.injEq] at h
      obtain ⟨-, rfl⟩ := h
      have h₁ := length_takeWhile_cursor start fun ch => ch != '=' && !isBlank ch
      have h₂ := length_takeWhile_cursor (start.name.2.moveTo rest) fun ch => !isBlank ch
      simp only [Cursor.name] at hr h₂ ⊢
      rw [hr] at h₁
      simp only [Cursor.moveTo, List.length_cons, Cursor.word] at *
      omega
    · simp [Cursor.fail] at h
  · simp [Cursor.fail] at h

def readAttributes (c : Cursor) : Except Error (List (String × AttributeType)) :=
  let start := c.skipBlanks
  if start.rest.isEmpty then .ok []
  else
    match h : readAttribute start with
    | .error e => .error e
    | .ok (a, rest) =>
      have : rest.rest.length < c.rest.length := by
        have h₁ := length_of_readAttribute h
        have h₂ := length_trimLeft_le c.rest
        simp only [start, Cursor.skipBlanks, Cursor.moveTo] at h₁
        omega
      (readAttributes rest).map (a :: ·)
termination_by c.rest.length

def readAddition (p : Progress) (target : Cursor) : Except Error Progress := do
  let (object, c) := target.word
  let c := c.skipBlanks
  let keyword := fun (k : String) => sameIgnoringCase object k.toList
  if keyword "ATTRIBUTE" then
    let declared ← readAttributes c
    if declared.isEmpty then (c.moveTo []).fail .emptyAttributeList
    else return p.add c.line (.attributes declared)
  else if keyword "CLASSIFICATION" then
    let (value, c) ← c.scalar "classification"
    c.expectEnd
    return p.add c.line (.classification value)
  else if keyword "OVERLAY" then
    let (name, c) ← c.scalar "overlay name"
    c.expectEnd
    return { p with overlay := some ⟨c.line, name, []⟩ }
  else if object.isEmpty then c.fail (.missingValue "ADD target")
  else target.fail (.unknownKeyword ("ADD " ++ String.ofList object))

def readStatement (p : Progress) (start : Cursor) : Except Error Progress :=
  let (word, c) := start.word
  if sameIgnoringCase word "ADD".toList then readAddition p c.skipBlanks
  else start.fail (.unknownKeyword (String.ofList word))

/-- The key of a line of a block, quoted or bare. -/
def readKey (c : Cursor) : Except Error (String × Cursor) :=
  match c.rest with
  | '"' :: _ => c.quoted
  | _ => .ok (String.ofList c.name.1, c.name.2)

def readValue (c : Cursor) : Except Error PropertyValue :=
  match c.rest with
  | '=' :: rest => (c.moveTo rest).value
  | _ => if c.atEnd then .ok .bare else c.fail .missingEquals

/-- A line of a block, its indentation being `indent` bytes. -/
def readBlockLine (p : Progress) (indent : Nat) (start : Cursor) : Except Error Progress :=
  match p.overlay with
  | none => start.fail .indentOutsideBlock
  | some o => do
    let (key, c) ← readKey start
    let value ← readValue c.skipBlanks
    if key.isEmpty then start.fail .missingEquals
    else
      return { p with
        overlay := some { o with block := o.block ++ [⟨start.line, indent, key, value⟩] } }

def readLine (p : Progress) (l : LogicalLine) : Except Error Progress := do
  let content := trimLeft l.text
  let leading := l.text.takeWhile isBlank
  let start := fun indent : Nat => Cursor.mk l.number (indent + 1) content
  match content with
  | [] | '#' :: _ => return p
  | _ =>
    if leading.contains '\t' then
      (start (byteLength (leading.takeWhile (· != '\t')))).fail .tabIndentation
    else if leading.isEmpty then
      let p ← p.close
      let p ← match dropStem? ['-', '-'] content with
        | some _ => readHeader p (start 0)
        | none => readStatement p (start 0)
      return { p with started := true }
    else readBlockLine p (byteLength leading) (start (byteLength leading))

def parseChars (text : List Char) : Except Error Ocafile := do
  let p ← (logicalLines text).foldlM readLine {}
  let p ← p.close
  return ⟨p.name, p.commands⟩

def parse (text : String) : Except Error Ocafile := parseChars text.toList

end LayeredSchema.Ocafile
