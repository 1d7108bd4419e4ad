import LayeredSchema.Ocafile.Basic
import LayeredSchema.Ocafile.Error
import LayeredSchema.Text.Blank

/-!
Reading within one logical line: words, quoted strings, arrays and values.
-/

namespace LayeredSchema.Ocafile

open Text

/-- The part of a logical line that is not read yet, and the column it starts in. -/
structure Cursor where
  line : Nat
  column : Nat
  rest : List Char

namespace Cursor

def fail {α : Type} (c : Cursor) (cause : Cause) : Except Error α :=
  .error ⟨c.line, c.column, cause⟩

def moveTo (c : Cursor) (rest : List Char) : Cursor :=
  ⟨c.line, c.column + (c.rest.length - rest.length), rest⟩

/-- The characters that satisfy a condition, up to the first that does not. -/
def takeWhile (c : Cursor) (p : Char → Bool) : List Char × Cursor :=
  (c.rest.takeWhile p, c.moveTo (c.rest.dropWhile p))

def skipBlanks (c : Cursor) : Cursor := c.moveTo (trimLeft c.rest)

def word (c : Cursor) : List Char × Cursor := c.takeWhile fun ch => !isBlank ch

def name (c : Cursor) : List Char × Cursor := c.takeWhile fun ch => ch != '=' && !isBlank ch

def atEnd (c : Cursor) : Bool := isAllBlank c.rest

def expectEnd (c : Cursor) : Except Error Unit :=
  if c.atEnd then .ok () else c.skipBlanks.fail .trailingCharacters

/-- What stands for a character after a backslash. Backslashes before other characters stay. -/
def unescape (c : Char) : List Char :=
  if c = '"' || c = '\\' then [c]
  else if c = 'n' then ['\n']
  else if c = 't' then ['\t']
  else ['\\', c]

/-- The text of a quoted string after its opening quote, and what follows the closing one. -/
def unquote? : List Char → Option (List Char × List Char)
  | [] | ['\\'] => none
  | '"' :: cs => some ([], cs)
  | '\\' :: c :: cs => (unquote? cs).map fun (text, rest) => (unescape c ++ text, rest)
  | c :: cs => (unquote? cs).map fun (text, rest) => (c :: text, rest)

theorem length_of_unquote? {cs text rest : List Char} (h : unquote? cs = some (text, rest)) :
    rest.length < cs.length := by
  fun_induction unquote? cs generalizing text rest with
  | case1 | case2 => simp at h
  | case3 cs => simp_all
  | case4 c cs ih =>
    obtain ⟨⟨t, r⟩, hr, he⟩ := Option.map_eq_some_iff.1 h
    obtain ⟨-, rfl⟩ := Prod.mk.inj he
    have := ih hr
    simp
    omega
  | case5 c cs _ _ _ ih =>
    obtain ⟨⟨t, r⟩, hr, he⟩ := Option.map_eq_some_iff.1 h
    obtain ⟨-, rfl⟩ := Prod.mk.inj he
    have := ih hr
    simp
    omega

def quoted (c : Cursor) : Except Error (String × Cursor) :=
  match unquote? (c.rest.drop 1) with
  | some (text, rest) => .ok (String.ofList text, c.moveTo rest)
  | none => c.fail .unterminatedString

/-- A quoted string, or all that is left without the blanks around it. -/
def scalar (c : Cursor) (what : String) : Except Error (String × Cursor) :=
  let c := c.skipBlanks
  match c.rest with
  | '"' :: _ => c.quoted
  | rest =>
    if (trim rest).isEmpty then (c.moveTo []).fail (.missingValue what)
    else .ok (String.ofList (trim rest), c.moveTo [])

/-- What is wrong with an array. A fault inside it comes with the text it was found at. -/
inductive ArrayFault
  | unterminated
  | within (cause : Cause) (rest : List Char)

def isElementChar (ch : Char) : Bool := ch != ',' && ch != ']'

/-- What follows an element: a comma, which is read, or the closing bracket. -/
def afterElement (rest : List Char) : Except ArrayFault (List Char) :=
  match trimLeft rest with
  | [] => .error .unterminated
  | ',' :: cs => .ok cs
  | ']' :: cs => .ok (']' :: cs)
  | cs => .error (.within .trailingCharacters cs)

/-- An element of an array, quoted or bare, and the comma after it. -/
def element (cs : List Char) : Except ArrayFault (String × List Char) :=
  match cs with
  | '"' :: tail =>
    match unquote? tail with
    | some (text, rest) => (afterElement rest).map fun rest => (String.ofList text, rest)
    | none => .error (.within .unterminatedString cs)
  | _ =>
    let item := trim (cs.takeWhile isElementChar)
    if item.isEmpty then .error (.within (.missingValue "array element") cs)
    else
      (afterElement (cs.dropWhile isElementChar)).map fun rest =>
        (String.ofList item, rest)

theorem length_of_afterElement {rest out : List Char} (h : afterElement rest = .ok out) :
    out.length ≤ rest.length := by
  have := length_trimLeft_le rest
  unfold afterElement at h
  split at h
  · simp at h
  · rename_i cs hc
    rw [hc] at this
    simp at h this
    subst h
    omega
  · rename_i cs hc
    rw [hc] at this
    simp at h this
    subst h
    simp
    omega
  · simp at h

theorem length_of_element {cs rest : List Char} {item : String}
    (h : element cs = .ok (item, rest)) : rest.length < cs.length := by
  unfold element at h
  split at h
  · rename_i tail
    split at h
    · rename_i text r hu
      cases ha : afterElement r with
      | error e => simp [ha, Except.map] at h
      | ok out =>
        simp only [ha, Except.map, Except.ok.injEq, Prod.mk.injEq] at h
        obtain ⟨-, rfl⟩ := h
        have := length_of_afterElement ha
        have := length_of_unquote? hu
        simp
        omega
    · simp at h
  · simp only at h
    split at h
    · simp at h
    · rename_i hne
      cases ha : afterElement (cs.dropWhile isElementChar) with
      | error e => simp [ha, Except.map] at h
      | ok out =>
        simp only [ha, Except.map, Except.ok.injEq, Prod.mk.injEq] at h
        obtain ⟨-, rfl⟩ := h
        refine Nat.lt_of_le_of_lt (length_of_afterElement ha) ?_
        cases cs with
        | nil => simp [trim, trimLeft, trimRight] at hne
        | cons c cs =>
          by_cases hc : isElementChar c = true
          · simpa [List.dropWhile_cons, hc] using
              Nat.lt_succ_of_le (List.dropWhile_suffix isElementChar).length_le
          · simp [hc, trim, trimLeft, trimRight] at hne

/-- The elements of an array after its opening bracket or a comma, and what follows its closing
bracket. A comma may stand after the last element. -/
def elements (cs : List Char) : Except ArrayFault (List String × List Char) :=
  match h : trimLeft cs with
  | [] => .error .unterminated
  | c :: tail =>
    if c = ']' then .ok ([], tail)
    else
      match h' : element (c :: tail) with
      | .error fault => .error fault
      | .ok (item, rest) =>
        have : rest.length < cs.length := by
          have := length_of_element h'
          have := length_trimLeft_le cs
          simp_all
          omega
        (elements rest).map fun (items, rest) => (item :: items, rest)
termination_by cs.length

def array (c : Cursor) : Except Error (List String × Cursor) :=
  match elements (c.rest.drop 1) with
  | .ok (items, rest) => .ok (items, c.moveTo rest)
  | .error .unterminated => c.fail .unterminatedArray
  | .error (.within cause rest) => (c.moveTo rest).fail cause

/-- The right-hand side of an equals sign, with nothing after it. -/
def value (c : Cursor) : Except Error PropertyValue := do
  let c := c.skipBlanks
  match c.rest with
  | '"' :: _ =>
    let (text, c) ← c.quoted
    c.expectEnd
    return .text text
  | '[' :: _ =>
    let (items, c) ← c.array
    c.expectEnd
    return .list items
  | rest => return .text (String.ofList (trim rest))

end Cursor

end LayeredSchema.Ocafile
