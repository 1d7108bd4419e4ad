import LayeredSchema.Engine.Basic

/-!
Operations on texts: OCAfiles, bundles and records as JSON.

An operation first loads the registry that a path selects, then decodes the bundle, then the data.
-/

namespace LayeredSchema

open Text

inductive RegistrySource
  | builtin
  | directory (path : String)
  deriving DecidableEq, Repr

namespace RegistrySource

/-- A path, white space around it aside. A blank one, or none, selects the built-in kinds. -/
def ofPath : Option String → RegistrySource
  | none => .builtin
  | some path => if (trim path.toList).isEmpty then .builtin else .directory (trimmed path)

/-- Loads the registry, `locate` telling what paths lead to. -/
def load (locate : String → Location) : RegistrySource → Except Registry.LoadError Registry
  | .builtin => .ok .builtin
  | .directory path => Registry.load (locate path)

def engine (locate : String → Location) (path : Option String) : Except EngineError Engine := do
  return { registry := ← ((ofPath path).load locate).mapError .registry }

end RegistrySource

namespace TextOperation

structure Outcome where
  isValid : Bool
  messages : List String
  deriving DecidableEq, Repr

def Outcome.ofReport {α : Type} (message : α → String) (r : Report α) : Outcome :=
  ⟨r.isValid, r.messages message⟩

def readBundle (text : String) : Except EngineError Bundle :=
  (Bundle.read text).mapError .bundleText

def build (locate : String → Location) (path : Option String) (text : String) :
    Except EngineError String := do
  return (← (← RegistrySource.engine locate path).build text).text

/-- The attributes of a bundle with the listing forms of their types. -/
def attributes (locate : String → Location) (path : Option String) (bundle : String) :
    Except EngineError (List (String × String)) := do
  let _ ← RegistrySource.engine locate path
  let b ← readBundle bundle
  return b.captureBase.attributes.entries.map fun (name, t) => (name, t.listing)

def semanticsGiven (reason? : List Char → Option String) (bundle : String) :
    Except EngineError Outcome := do
  let b ← readBundle bundle
  return .ofReport (SemanticFinding.messageGiven reason?) (({} : Engine).semanticReport b)

def semantics : String → Except EngineError Outcome := semanticsGiven fun _ => none

def data (locate : String → Location) (path : Option String) (bundle record : String) :
    Except EngineError Outcome := do
  let e ← RegistrySource.engine locate path
  let b ← readBundle bundle
  let v ← (Json.decodeText .whole .ok record).mapError .dataText
  return .ofReport DataFinding.message (e.dataReport b v)

def ocafileText (locate : String → Location) (path : Option String) (bundle : String) :
    Except EngineError String := do
  let e ← RegistrySource.engine locate path
  return e.ocafileText (← readBundle bundle)

end TextOperation

end LayeredSchema
