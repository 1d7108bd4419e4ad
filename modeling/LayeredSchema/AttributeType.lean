import LayeredSchema.Identifier.Said
import LayeredSchema.Json.Decoding

/-!
Attribute types: primitives, references to other bundles, and arrays of any type.

A type has a text form, such as `Array[refn:address]`, and a wire form, in which every array level
is a JSON array of one element. Main definitions: `AttributeType.parse`, `AttributeType.text`,
`AttributeType.ofJson`, `AttributeType.toJson`.
-/

namespace LayeredSchema

open Text

inductive Primitive
  | text
  | numeric
  | boolean
  | dateTime
  | binary
  deriving DecidableEq, Repr

namespace Primitive

def all : List Primitive := [.text, .numeric, .boolean, .dateTime, .binary]

def name : Primitive → String
  | .text => "Text"
  | .numeric => "Numeric"
  | .boolean => "Boolean"
  | .dateTime => "DateTime"
  | .binary => "Binary"

def ofName? (cs : List Char) : Option Primitive :=
  all.find? fun p => sameIgnoringCase p.name.toList cs

end Primitive

/-- What a reference attribute points to: a bundle by its identifier or by a local name. -/
inductive Reference
  | said (target : Said)
  | name (target : String)
  deriving DecidableEq

def Reference.text : Reference → String
  | .said target => "refs:" ++ target.text
  | .name target => "refn:" ++ target

inductive AttributeType
  | primitive (p : Primitive)
  | array (element : AttributeType)
  | reference (r : Reference)
  deriving DecidableEq

namespace AttributeType

def text : AttributeType → String
  | .primitive p => p.name
  | .array t => "Array[" ++ t.text ++ "]"
  | .reference r => r.text

def listing : AttributeType → String
  | .array t => "[" ++ t.listing ++ "]"
  | t => t.text

def innermost : AttributeType → AttributeType
  | .array t => t.innermost
  | t => t

def isArray : AttributeType → Bool
  | .array _ => true
  | _ => false

def isOf (t : AttributeType) (p : Primitive) : Bool := t.innermost == .primitive p

/-- A text that names no type, without the white space around it. -/
structure Invalid where
  text : String
  deriving DecidableEq, Repr

def Invalid.message (e : Invalid) : String := "invalid attribute type: " ++ e.text

def parseElement (cs : List Char) : Except Invalid AttributeType :=
  let invalid : Except Invalid AttributeType := .error ⟨String.ofList cs⟩
  match dropStemIgnoringCase? ['r', 'e', 'f', 's', ':'] cs with
  | some rest =>
    match Said.parse (String.ofList rest) with
    | .ok s => .ok (.reference (.said s))
    | .error _ => invalid
  | none =>
    match dropStemIgnoringCase? ['r', 'e', 'f', 'n', ':'] cs with
    | some [] => invalid
    | some rest => .ok (.reference (.name (String.ofList rest)))
    | none =>
      match Primitive.ofName? cs with
      | some p => .ok (.primitive p)
      | none => invalid

/-- Reads the text form. Keywords may be in any case, and white space may stand around each type;
an error names the innermost text that is no type. -/
def parseChars (cs : List Char) : Except Invalid AttributeType :=
  match h : dropStemIgnoringCase? ['a', 'r', 'r', 'a', 'y', '['] (trim cs) with
  | none => parseElement (trim cs)
  | some rest =>
    match h' : dropLastChar? ']' rest with
    | none => .error ⟨String.ofList (trim cs)⟩
    | some inner =>
      have : inner.length < cs.length := by
        have := length_of_dropStemIgnoringCase? h
        have := length_of_dropLastChar? h'
        have := length_trim_le cs
        omega
      (parseChars inner).map .array
termination_by cs.length

def parse (s : String) : Except Invalid AttributeType := parseChars s.toList

/-- The wire form: a string, within an array of one element for each array level. -/
def toJson : AttributeType → Json
  | .array t => .array [t.toJson]
  | t => .string t.text

def expectation : String := "an attribute type string or a one-element array"

def ofJson : Json → Except Json.Fault AttributeType
  | .string s => (parse s).mapError fun e => .refused e.message
  | .array [] => .error (.wrongLength 0 expectation)
  | .array (v :: vs) => do
    let t ← ofJson v
    if vs.isEmpty then return .array t else .error (.wrongLength 2 expectation)
  | v => .error (.wrongType v expectation)

end AttributeType

end LayeredSchema
