import LayeredSchema.Bundle
import LayeredSchema.Cardinality
import LayeredSchema.Condition.Basic
import LayeredSchema.Pattern.Basic

/-!
What the overlays of a bundle say of an attribute.

Where several overlays say the same kind of thing, the first one counts, except that lists of entry
codes are joined. A range or a condition that is malformed is passed over.
-/

namespace LayeredSchema

namespace Bundle

def firstOf {α : Type} (b : Bundle) (f : Body → Option α) : Option α :=
  b.overlays.findSome? fun o => f o.body

def cardinality? (b : Bundle) (name : String) : Option Cardinality :=
  b.firstOf fun body =>
    match body with
    | .cardinality ranges => (ranges.get? name).bind Cardinality.parse?
    | _ => none

def conformance? (b : Bundle) (name : String) : Option String :=
  b.firstOf fun body =>
    match body with
    | .conformance levels => levels.get? name
    | _ => none

def condition? (b : Bundle) (name : String) : Option Condition :=
  b.firstOf fun body =>
    match body with
    | .conditional conditions _ =>
      (conditions.get? name).bind fun text => (Condition.parse text).toOption
    | _ => none

def format? (b : Bundle) (name : String) : Option String :=
  b.firstOf fun body =>
    match body with
    | .format patterns => patterns.get? name
    | _ => none

def unit? (b : Bundle) (name : String) : Option String :=
  b.firstOf fun body =>
    match body with
    | .unit _ units => units.get? name
    | _ => none

def encoding? (b : Bundle) (name : String) : Option String :=
  let own := b.firstOf fun body =>
    match body with
    | .characterEncoding _ encodings => encodings.get? name
    | _ => none
  own.or (b.firstOf fun body =>
    match body with
    | .characterEncoding general _ => general
    | _ => none)

def codesOf (name : String) : Body → Option (List String)
  | .entryCode codes => codes.get? name
  | _ => none

/-- All codes allowed for the attribute, if there is a list of them. -/
def entryCodes? (b : Bundle) (name : String) : Option (List String) :=
  match b.overlays.filterMap fun o => codesOf name o.body with
  | [] => none
  | lists => some lists.flatten

def isText (b : Bundle) (name : String) : Bool :=
  (b.captureBase.attribute? name).any (·.isOf .text)

/-- The pattern of a text attribute, if its format is one. -/
def textPattern? (b : Bundle) (name : String) : Option TextPattern :=
  if b.isText name then (b.format? name).bind TextPattern.parse? else none

end Bundle

structure AttributeRules where
  cardinality : Option Cardinality
  conformance : Option String
  condition : Option Condition
  entryCodes : Option (List String)
  format : Option String
  textPattern : Option TextPattern
  encoding : Option String
  unit : Option String

def Bundle.rulesFor (b : Bundle) (name : String) : AttributeRules :=
  ⟨b.cardinality? name, b.conformance? name, b.condition? name,
    b.entryCodes? name, b.format? name, b.textPattern? name, b.encoding? name,
    b.unit? name⟩

end LayeredSchema
