import LayeredSchema.AttributeType

/-!
OCAfiles: the commands that a bundle is made from.

A file has a name or none and a list of commands. An overlay command has a block of properties,
and a property may have a block of its own.
-/

namespace LayeredSchema

mutual

/-- A line of a block, with the number of its source line, or zero if it was not read from one. -/
inductive Property
  | mk (line : Nat) (key : String) (value : PropertyValue)

inductive PropertyValue
  | bare
  | text (s : String)
  | list (items : List String)
  | block (properties : List Property)

end

namespace Property

def line : Property → Nat
  | mk line _ _ => line

def key : Property → String
  | mk _ key _ => key

def value : Property → PropertyValue
  | mk _ _ value => value

end Property

mutual

def Property.decEq : (a b : Property) → Decidable (a = b)
  | .mk l k v, .mk m n w =>
    have := PropertyValue.decEq v w
    decidable_of_iff (l = m ∧ k = n ∧ v = w) (by simp)

def PropertyValue.decEq : (a b : PropertyValue) → Decidable (a = b)
  | .bare, .bare => isTrue rfl
  | .text a, .text b => decidable_of_iff (a = b) (by simp)
  | .list a, .list b => decidable_of_iff (a = b) (by simp)
  | .block a, .block b =>
    have := Property.decEqList a b
    decidable_of_iff (a = b) (by simp)
  | .bare, .text _ | .bare, .list _ | .bare, .block _
  | .text _, .bare | .text _, .list _ | .text _, .block _
  | .list _, .bare | .list _, .text _ | .list _, .block _
  | .block _, .bare | .block _, .text _ | .block _, .list _ => isFalse (by simp)

def Property.decEqList : (a b : List Property) → Decidable (a = b)
  | [], [] => isTrue rfl
  | x :: xs, y :: ys =>
    have := Property.decEq x y
    have := Property.decEqList xs ys
    decidable_of_iff (x = y ∧ xs = ys) (by simp)
  | [], _ :: _ | _ :: _, [] => isFalse (by simp)

end

instance : Inhabited PropertyValue := ⟨.bare⟩
instance : Inhabited Property := ⟨.mk 0 "" .bare⟩
instance : DecidableEq Property := Property.decEq
instance : DecidableEq PropertyValue := PropertyValue.decEq

namespace PropertyValue

def isBare : PropertyValue → Bool
  | .bare => true
  | _ => false

def shape : PropertyValue → String
  | .bare => "bare key"
  | .text _ => "text value"
  | .list _ => "array"
  | .block _ => "nested block"

end PropertyValue

mutual

def Property.unnumbered : Property → Property
  | .mk _ key value => .mk 0 key value.unnumbered

def PropertyValue.unnumbered : PropertyValue → PropertyValue
  | .block properties => .block (Property.unnumberedList properties)
  | v => v

def Property.unnumberedList : List Property → List Property
  | [] => []
  | p :: ps => p.unnumbered :: Property.unnumberedList ps

end

inductive Action
  | classification (value : String)
  | attributes (declared : List (String × AttributeType))
  | overlay (name : String) (properties : List Property)
  deriving DecidableEq

def Action.unnumbered : Action → Action
  | .overlay name properties => .overlay name (Property.unnumberedList properties)
  | a => a

/-- A command, with the number of the line it starts on. -/
structure Command where
  line : Nat
  action : Action
  deriving DecidableEq

structure Ocafile where
  name : Option String
  commands : List Command
  deriving DecidableEq

namespace Ocafile

def actions (f : Ocafile) : List Action := f.commands.map fun c => c.action.unnumbered

def sameContent (f g : Ocafile) : Bool := f.name == g.name && f.actions == g.actions

end Ocafile

end LayeredSchema
