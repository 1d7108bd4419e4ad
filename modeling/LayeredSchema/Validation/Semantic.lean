import LayeredSchema.Validation.Report
import LayeredSchema.Validation.Rules

/-!
Semantic validation: whether the parts of a bundle agree with each other.

Overlays are checked in their order, then translations, then the addresses of the capture base and
of the bundle. What a bundle cannot say itself, which custom kinds are written in a language and
which languages must be there, comes in as rules. Main definition: `Bundle.semanticReport`.
-/

namespace LayeredSchema

open Text

/-- The format of a text attribute that is refused as a pattern. -/
structure RefusedFormat where
  name : String
  pattern : String
  deriving DecidableEq

inductive SemanticFinding
  | unknownAttribute (overlay name : String)
  | duplicateOverlay (overlay language : String)
  | missingLanguage (overlay : String)
  | emptyEntryCodes (name : String)
  | undeclaredEntryCode (name code : String)
  | malformedCardinality (name value : String)
  | invalidConformance (name value : String)
  | unreadableCondition (name : String) (error : Condition.Error)
  | unknownVariable (name variableName : String)
  | unknownDependency (name dependency : String)
  | invalidFormat (refused : RefusedFormat)
  | unitOnNonNumeric (name unit : String) (type : AttributeType)
  | captureBaseMismatch (overlay : String) (expected : Said) (found : Option Said)
  | digestMismatch (target : String) (stored computed : Said)
  | invalidLinkTarget (value : Option String)
  | malformedEntryCodeMapping (name value : String)
  | missingTranslation (overlay language : String)
  deriving DecidableEq

namespace SemanticFinding

def optional {α : Type} (shown : α → String) : Option α → String
  | some a => "Some(" ++ shown a ++ ")"
  | none => "None"

/-- The message of a finding. What is wrong in a text that is refused as a pattern is told in the
words of the library that compiles it, where these are known. -/
def messageGiven (reason? : List Char → Option String) : SemanticFinding → String
  | .unknownAttribute overlay name =>
    s!"{overlay} overlay references unknown attribute {quoted name}"
  | .duplicateOverlay overlay language =>
    s!"duplicate {overlay} overlay for language {quoted language}"
  | .missingLanguage overlay => s!"{overlay} overlay has no language"
  | .emptyEntryCodes name => s!"entry code list for attribute {quoted name} is empty"
  | .undeclaredEntryCode name code =>
    s!"entry {quoted code} of attribute {quoted name} is not a declared entry code"
  | .malformedCardinality name value =>
    s!"cardinality {quoted value} of attribute {quoted name} is malformed"
  | .invalidConformance name value =>
    s!"conformance {quoted value} of attribute {quoted name} must be \"O\" or \"M\""
  | .unreadableCondition name error =>
    s!"condition of attribute {quoted name} is invalid: {error.message}"
  | .unknownVariable name variableName =>
    s!"condition of attribute {quoted name} is invalid: unknown attribute {quoted variableName}"
  | .unknownDependency name dependency =>
    s!"attribute {quoted name} depends on unknown attribute {quoted dependency}"
  | .invalidFormat refused =>
    s!"format of attribute {quoted refused.name} is not a valid pattern" ++
      (reason? (TextPattern.anchored refused.pattern)).elim "" (": " ++ ·)
  | .unitOnNonNumeric name unit type =>
    s!"unit {quoted unit} on attribute {quoted name} of non-numeric type {type.text}"
  | .captureBaseMismatch overlay expected found =>
    s!"{overlay} overlay belongs to capture base {optional Said.brief found}, " ++
      s!"expected {expected.text}"
  | .digestMismatch target stored computed =>
    s!"{target} digest {stored.text} does not match content digest {computed.text}"
  | .invalidLinkTarget value =>
    s!"Link overlay target {optional quoted value} is not a bundle digest"
  | .malformedEntryCodeMapping name value =>
    s!"entry code mapping {quoted value} of attribute {quoted name} must be \"code:target\""
  | .missingTranslation overlay language =>
    s!"{overlay} overlay is missing a translation for language {quoted language}"

/-- The message of a finding without the words of the library that compiles patterns. -/
def message : SemanticFinding → String := messageGiven fun _ => none

end SemanticFinding

/-- What semantic validation is told besides the bundle: the tags of the custom kinds that are
written in a language, and the languages that every such kind must be there in. -/
structure SemanticRules where
  scopedTags : List String := []
  enforcedLanguages : List String := []
  deriving DecidableEq, Repr

def SemanticRules.isScoped (rules : SemanticRules) (o : Overlay) : Bool :=
  o.kind.isLanguageScoped || rules.scopedTags.contains o.tag

/-- Whether there may be one overlay of the kind and the language alone. -/
def SemanticRules.isUnique (rules : SemanticRules) (o : Overlay) : Bool :=
  rules.isScoped o || o.kind == .custom

namespace Bundle

def unknownReferences (b : Bundle) (o : Overlay) : List SemanticFinding :=
  (o.body.references.filter fun a => !b.captureBase.hasAttribute a).map
    (.unknownAttribute o.title)

def languageFindings (rules : SemanticRules) (earlier : List Overlay) (o : Overlay) :
    List SemanticFinding :=
  match o.language with
  | none => if rules.isScoped o then [.missingLanguage o.title] else []
  | some language =>
    let isRepeated := earlier.any fun p => p.tag == o.tag && p.language == some language
    if rules.isUnique o && isRepeated then [.duplicateOverlay o.title language] else []

def entryFindings (b : Bundle) (name : String) (texts : Table String) :
    List SemanticFinding :=
  let declared := (b.entryCodes? name).getD []
  (texts.names.filter fun code => !declared.contains code).map (.undeclaredEntryCode name)

def conditionFindings (b : Bundle) (name text : String) : List SemanticFinding :=
  match Condition.parse text with
  | .ok c =>
    (c.variableNames.filter fun v => !b.captureBase.hasAttribute v).map (.unknownVariable name)
  | .error e => [.unreadableCondition name e]

def dependencyFindings (b : Bundle) (name : String) (dependencies : List String) :
    List SemanticFinding :=
  (dependencies.filter fun d => !b.captureBase.hasAttribute d).map (.unknownDependency name)

def unitFindings (b : Bundle) (name unit : String) : List SemanticFinding :=
  match b.captureBase.attribute? name with
  | some t => if t.isOf .numeric then [] else [.unitOnNonNumeric name unit t]
  | none => []

/-- Whether a text is a code and its target with a colon between them. -/
def isCodeMapping (pair : String) : Bool :=
  (splitOnce? [':'] pair.toList).any fun (code, target) => !code.isEmpty && !target.isEmpty

def bodyFindings (b : Bundle) : Body → List SemanticFinding
  | .entryCode codes =>
    (codes.entries.filter (·.2.isEmpty)).map fun (a, _) => .emptyEntryCodes a
  | .entry texts => texts.entries.flatMap fun (a, texts) => b.entryFindings a texts
  | .cardinality ranges =>
    (ranges.entries.filter fun (_, value) => (Cardinality.parse? value).isNone).map
      fun (a, value) => .malformedCardinality a value
  | .conformance levels =>
    (levels.entries.filter fun (_, level) => level != "O" && level != "M").map
      fun (a, level) => .invalidConformance a level
  | .conditional conditions dependencies =>
    (conditions.entries.flatMap fun (a, text) => b.conditionFindings a text) ++
      dependencies.entries.flatMap fun (a, ds) => b.dependencyFindings a ds
  | .format patterns =>
    (patterns.entries.filter fun (a, pattern) =>
      b.isText a && (TextPattern.parse? pattern).isNone).map
        fun (a, pattern) => .invalidFormat ⟨a, pattern⟩
  | .unit _ units => units.entries.flatMap fun (a, unit) => b.unitFindings a unit
  | .link target _ =>
    if target.any fun t => (Said.parse t).isOk then [] else [.invalidLinkTarget target]
  | .entryCodeMapping pairs =>
    pairs.entries.flatMap fun (a, ps) =>
      (ps.filter fun pair => !isCodeMapping pair).map (.malformedEntryCodeMapping a)
  | _ => []

def digestFindings (target : String) (stored computed : Said) : List SemanticFinding :=
  if computed = stored then [] else [.digestMismatch target stored computed]

/-- Checks that an overlay is bound to the capture base and has the address of its content. -/
def integrityFindings (b : Bundle) (o : Overlay) : List SemanticFinding :=
  (if o.captureBase = some b.captureBase.digest then []
    else [.captureBaseMismatch o.title b.captureBase.digest o.captureBase]) ++
  digestFindings (o.title ++ " overlay") o.digest o.computedDigest

def overlayFindings (b : Bundle) (rules : SemanticRules) (earlier : List Overlay) (o : Overlay) :
    List SemanticFinding :=
  b.unknownReferences o ++ languageFindings rules earlier o ++ b.bodyFindings o.body ++
    b.integrityFindings o

def overlaysFindings (b : Bundle) (rules : SemanticRules) :
    (earlier overlays : List Overlay) → List SemanticFinding
  | _, [] => []
  | earlier, o :: os =>
    b.overlayFindings rules earlier o ++ b.overlaysFindings rules (earlier ++ [o]) os

def firstOfEachTag : List Overlay → List Overlay
  | [] => []
  | o :: os => o :: (firstOfEachTag os).filter (·.tag != o.tag)

/-- Checks that each kind that is written in a language is there in all enforced languages. -/
def translationFindings (b : Bundle) (rules : SemanticRules) : List SemanticFinding :=
  let localized := b.overlays.filter rules.isScoped
  (firstOfEachTag localized).flatMap fun o =>
    let missing := rules.enforcedLanguages.filter fun l =>
      !localized.any fun p => p.tag == o.tag && p.language == some l
    missing.map (.missingTranslation o.title)

def semanticReport (b : Bundle) (rules : SemanticRules) : Report SemanticFinding :=
  ⟨b.overlaysFindings rules [] b.overlays ++ b.translationFindings rules ++
    digestFindings "capture base" b.captureBase.digest b.captureBase.computedDigest ++
    digestFindings "bundle" b.digest b.computedDigest⟩

end Bundle

end LayeredSchema
