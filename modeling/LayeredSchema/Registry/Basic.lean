import LayeredSchema.Overlay.Kind

/-!
Registries: the overlay kinds that commands can name.

Names are compared without regard to case, hyphens, underscores and spaces. Main definitions:
`Definition`, `Registry.resolve`, `Registry.insert`, `Registry.addAliases`.
-/

namespace LayeredSchema

open Text

def normalName (name : String) : String :=
  String.ofList ((name.toList.filter fun c => !(c == '_' || c == '-' || c == ' ')).map Char.toLower)

structure Definition where
  name : String
  kind : Kind
  version : String
  isLanguageScoped : Bool
  aliases : List String
  deriving DecidableEq, Repr

namespace Definition

def builtin (kind : Kind) : Definition :=
  ⟨kind.name, kind, Kind.builtinVersion, kind.isLanguageScoped, []⟩

def custom (name version : String) (isLanguageScoped : Bool) (aliases : List String) : Definition :=
  ⟨name, .custom, version, isLanguageScoped, aliases⟩

def tag (d : Definition) : String := d.kind.tag?.getD (Kind.customTag d.name d.version)

def names (d : Definition) : List String := d.name :: d.aliases

def isNamed (d : Definition) (name : String) : Bool :=
  d.names.any fun n => normalName n == normalName name

end Definition

/-- The definitions that names are looked up in, in order. -/
structure Registry where
  definitions : List Definition
  deriving DecidableEq, Repr

namespace Registry

def empty : Registry := ⟨[]⟩

def builtin : Registry := ⟨Kind.builtin.map Definition.builtin⟩

def resolve (r : Registry) (name : String) : Option Definition :=
  r.definitions.find? (·.isNamed name)

def resolveTag (r : Registry) (tag : String) : Option Definition :=
  r.definitions.find? (·.tag == tag)

structure Clash where
  name : String
  deriving DecidableEq, Repr

/-- Adds a definition, unless its name or an alias of it is taken. -/
def insert (r : Registry) (d : Definition) : Except Clash Registry :=
  match d.names.find? fun n => (r.resolve n).isSome with
  | some n => .error ⟨normalName n⟩
  | none => .ok ⟨r.definitions ++ [d]⟩

def pushAlias (r : Registry) (i : Nat) (other : String) : Registry :=
  ⟨r.definitions.modify i fun d => { d with aliases := d.aliases ++ [other] }⟩

/-- Gives the definition at a place aliases, up to the first that belongs to another definition. An
alias that the definition has already is left out. -/
def pushAliases (r : Registry) (i : Nat) : List String → Registry × Except Clash Unit
  | [] => (r, .ok ())
  | other :: aliases =>
    match r.definitions.findIdx? (·.isNamed other) with
    | none => (r.pushAlias i other).pushAliases i aliases
    | some j => if j = i then r.pushAliases i aliases else (r, .error ⟨other⟩)

/-- Gives the definition of a name aliases, and tells whether there is one. The aliases before a
clash stay. -/
def addAliases (r : Registry) (name : String) (aliases : List String) :
    Registry × Except Clash Bool :=
  match r.definitions.findIdx? (·.isNamed name) with
  | none => (r, .ok false)
  | some i =>
    let (r, result) := r.pushAliases i aliases
    (r, result.map fun _ => true)

end Registry

end LayeredSchema
