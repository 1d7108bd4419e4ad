import LayeredSchema.Assembly.Basic
import LayeredSchema.Assembly.Commands
import LayeredSchema.Ocafile.Parser
import LayeredSchema.Registry.Directory
import LayeredSchema.Validation.Data
import LayeredSchema.Validation.Semantic

/-!
The engine: the operations on bundles over one registry, and why they fail.
-/

namespace LayeredSchema

/-- Why an operation fails. What validation finds is no failure. -/
inductive EngineError
  | text (error : Ocafile.Error)
  | assembly (error : Assembly.Error)
  | registry (error : Registry.LoadError)
  | bundleText (fault : Json.TextFault)
  | dataText (fault : Json.TextFault)
  deriving DecidableEq

namespace EngineError

/-- The message of a fault in JSON text, which says nothing of what is no JSON at all. -/
def faultMessage (intro : String) : Json.TextFault → String
  | .notJson => intro
  | .notData fault => s!"{intro}: {fault.message}"

def message : EngineError → String
  | .text error => s!"syntax error: {error.message}"
  | .assembly error => s!"assembly error: {error.message}"
  | .registry error => s!"registry error: {error.message}"
  | .bundleText fault => faultMessage "invalid bundle JSON" fault
  | .dataText fault => faultMessage "invalid data JSON" fault

end EngineError

structure Engine where
  registry : Registry := .builtin
  requiredByDefault : Bool := true
  enforcedLanguages : List String := []

namespace Engine

def assemble (e : Engine) (f : Ocafile) : Except EngineError Bundle :=
  (LayeredSchema.assemble e.registry f).mapError .assembly

def build (e : Engine) (text : String) : Except EngineError Bundle := do
  e.assemble (← (Ocafile.parse text).mapError .text)

/-- The tags of the custom kinds that the registry marks as written in a language. -/
def scopedTags (e : Engine) : List String :=
  (e.registry.definitions.filter fun d => d.kind == .custom && d.isLanguageScoped).map (·.tag)

def semanticRules (e : Engine) : SemanticRules := ⟨e.scopedTags, e.enforcedLanguages⟩

def semanticReport (e : Engine) (b : Bundle) : Report SemanticFinding :=
  b.semanticReport e.semanticRules

def dataReport (e : Engine) (b : Bundle) (data : Json) : Report DataFinding :=
  b.dataReport e.requiredByDefault data

def toOcafile (e : Engine) (b : Bundle) : Ocafile := b.toOcafile e.registry

def ocafileText (e : Engine) (b : Bundle) : String := b.ocafileText e.registry

end Engine

end LayeredSchema
