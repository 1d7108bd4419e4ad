import LayeredSchema.Canonical
import LayeredSchema.Overlay.Body

/-!
Overlays: a payload with an address, in a language or in none, and bound to a capture base once it
is part of a bundle.

On the wire an overlay is one flat object, the payload's keys beside the overlay's own. The address
covers the type tag, the language and the payload, but not the capture base.
-/

namespace LayeredSchema

open Text

structure Overlay where
  digest : Said
  captureBase : Option Said
  language : Option String
  body : Body
  deriving DecidableEq

namespace Overlay

def reservedKeys : List String := ["digest", "capture_base", "type", "language"]

def content (language : Option String) (body : Body) : Table Json :=
  let tagged := body.toPayload.insert "type" (.string body.tag)
  match language with
  | some l => tagged.insert "language" (.string l)
  | none => tagged

def addressOf (language : Option String) (body : Body) : Said :=
  .compute Canonical.overlayDomain (Canonical.encode (.object (content language body).entries))

def make (language : Option String) (body : Body) : Overlay :=
  ⟨addressOf language body, none, language, body⟩

def kind (o : Overlay) : Kind := o.body.kind

def tag (o : Overlay) : String := o.body.tag

def computedDigest (o : Overlay) : Said := addressOf o.language o.body

def bind (o : Overlay) (captureBase : Said) : Overlay := { o with captureBase := some captureBase }

/-- The name of an overlay in messages: that of its kind, for a custom one its tag. -/
def title (o : Overlay) : String :=
  match o.kind with
  | .custom => o.tag
  | k => k.name

def optionalEntry (key : String) : Option String → List (String × Json)
  | some s => [(key, .string s)]
  | none => []

/-- The wire form: the overlay's own keys, then those of the payload. -/
def toJson (o : Overlay) : Json :=
  .object
    (("digest", .string o.digest.text) ::
      optionalEntry "capture_base" (o.captureBase.map Said.text) ++
      ("type", .string o.tag) :: optionalEntry "language" o.language ++ o.body.toPayload.entries)

inductive Error
  | missing (key : String)
  | tagNotText (found : Json)
  | captureBaseNotText (found : Json)
  | languageNotText (found : Json)
  | badIdentifier (error : SaidError)
  | badPayload (error : Body.Error)
  deriving DecidableEq

def Error.message : Error → String
  | .missing key => s!"malformed overlay: missing {quoted key}"
  | .tagNotText found => s!"malformed overlay: \"type\" must be a string, got {found.compact}"
  | .captureBaseNotText found =>
    s!"malformed overlay: \"capture_base\" must be a digest string, got {found.compact}"
  | .languageNotText found =>
    s!"malformed overlay: \"language\" must be a string, got {found.compact}"
  | .badIdentifier error => error.message
  | .badPayload error => error.message

def readTag (t : Table Json) : Except Error String :=
  match t.get? "type" with
  | some (.string tag) => .ok tag
  | some v => .error (.tagNotText v)
  | none => .error (.missing "type")

def readSaid (text : String) : Except Error Said := (Said.parse text).mapError .badIdentifier

def readDigest (t : Table Json) : Except Error Said :=
  match t.get? "digest" with
  | some (.string s) => readSaid s
  | _ => .error (.missing "digest")

def readCaptureBase (t : Table Json) : Except Error (Option Said) :=
  match t.get? "capture_base" with
  | some (.string s) => (readSaid s).map some
  | none | some .null => .ok none
  | some v => .error (.captureBaseNotText v)

def readLanguage (t : Table Json) : Except Error (Option String) :=
  match t.get? "language" with
  | some (.string s) => .ok (some s)
  | none | some .null => .ok none
  | some v => .error (.languageNotText v)

def payloadOf (t : Table Json) : Table Json :=
  .ofList (t.entries.filter fun e => !reservedKeys.contains e.1)

def ofTable (t : Table Json) : Except Error Overlay := do
  let tag ← readTag t
  let digest ← readDigest t
  let captureBase ← readCaptureBase t
  let language ← readLanguage t
  let body ← (Body.ofPayload tag (payloadOf t)).mapError .badPayload
  return ⟨digest, captureBase, language, body⟩

/-- Decodes the wire form, in which of several entries under one key the last counts. -/
def ofJson (v : Json) : Except Json.Fault Overlay := do
  let entries ← v.normal.toEntries
  (ofTable (.ofList entries)).mapError fun e => .refused e.message

end Overlay

end LayeredSchema
