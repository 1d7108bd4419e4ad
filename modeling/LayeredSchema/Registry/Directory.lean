import LayeredSchema.Json.Decoding
import LayeredSchema.Registry.Basic

/-!
Registries from directories.

Every file `*.json` of a directory adds definitions to the built-in ones, the files in the order of
their names. A definition that restates a built-in kind adds its aliases to it and nothing else. No
two definitions of a directory may have the same name.
-/

namespace LayeredSchema

open Text

inductive DirectoryEntry
  | file (name : String) (bytes : List UInt8)
  | directory (name : String)

def DirectoryEntry.name : DirectoryEntry → String
  | .file name _ => name
  | .directory name => name

structure Directory where
  path : String
  entries : List DirectoryEntry

inductive Location
  | nothing (path : String)
  | file (path : String)
  | directory (dir : Directory)

namespace Directory

/-- A directory that holds what is given; of entries with one name the last counts. -/
def ofEntries (path : String) (es : List DirectoryEntry) : Directory :=
  ⟨path, es.foldl (fun kept e => kept.filter (·.name != e.name) ++ [e]) []⟩

def startsAtRoot (name : String) : Bool := name.toList.head? == some '/'

/-- A path and what it leads to from there on. A path that starts at the root stands alone. -/
def join (path name : String) : String :=
  if startsAtRoot name then name
  else if path.toList.getLast? = some '/' then path ++ name
  else path ++ "/" ++ name

/-- Where a path leads on its way: to a directory with entries, to one in it, to one around it, or
to a file. Of directories other than the first nothing is known but that they hold no registry
files. -/
inductive Place
  | top
  | inside
  | outside
  | file
  deriving DecidableEq, Repr

/-- One part of a path further. An empty part, like a point, stays at a directory, and two points
lead to the one around it. -/
def step? (entries : List DirectoryEntry) (p : Place) (part : String) : Option Place :=
  if p = .file then none
  else if part = "" || part = "." then some p
  else if part = ".." then some (if p = .inside then .top else .outside)
  else if p = .top then
    (entries.find? (·.name == part)).map fun e =>
      match e with
      | .file _ _ => .file
      | .directory _ => .inside
  else none

/-- What a path within a directory leads to. -/
def locate (d : Directory) (name : String) : Location :=
  let path := join d.path name
  let start := if startsAtRoot name then Place.outside else .top
  let parts := (pieces '/' name.toList).map String.ofList
  match parts.foldlM (step? d.entries) start with
  | none => .nothing path
  | some .file => .file path
  | some .top => .directory ⟨path, d.entries⟩
  | some .inside | some .outside => .directory ⟨path, []⟩

/-- Whether a file name has the extension `json`. -/
def isRegistryName (name : String) : Bool :=
  match dropStem? ".json".toList.reverse name.toList.reverse with
  | some (_ :: _) => true
  | _ => false

/-- The names and contents of the registry files, in order of names. -/
def registryFiles (d : Directory) : List (String × List UInt8) :=
  let files := d.entries.filterMap fun e =>
    match e with
    | .file name bytes => if isRegistryName name then some (name, bytes) else none
    | .directory _ => none
  files.mergeSort fun a b => !(decide (b.1 < a.1))

end Directory

structure FileDefinition where
  name : String
  version : Option String
  isLanguageScoped : Bool
  aliases : List String
  deriving DecidableEq

namespace FileDefinition

structure Fields where
  name : Option String := none
  version : Option (Option String) := none
  isLanguageScoped : Option Bool := none
  aliases : Option (List String) := none

def Fields.read (f : Fields) : String × Json → Except Json.Fault Fields
  | ("name", v) => do return { f with name := ← Json.setOnce "name" f.name v.toText }
  | ("version", v) => do
    return { f with version := ← Json.setOnce "version" f.version (v.toOptional Json.toText) }
  | ("language_scoped", v) => do
    return { f with
      isLanguageScoped := ← Json.setOnce "language_scoped" f.isLanguageScoped v.toFlag }
  | ("aliases", v) => do return { f with aliases := ← Json.setOnce "aliases" f.aliases v.toTexts }
  | _ => return f

def Fields.finish (f : Fields) : Except Json.Fault FileDefinition := do
  return ⟨← Json.require "name" f.name, f.version.getD none, f.isLanguageScoped.getD false,
    f.aliases.getD []⟩

def ofJson : Json → Except Json.Fault FileDefinition
  | .object entries => do (← entries.foldlM Fields.read {}).finish
  | .array items => do
    let name ← Json.element items 0 "struct FileDefinition with 4 elements" Json.toText
    let version ← Json.elementOr items 1 none (Json.toOptional Json.toText)
    let isLanguageScoped ← Json.elementOr items 2 false Json.toFlag
    let aliases ← Json.elementOr items 3 [] Json.toTexts
    Json.endAt items 4
    return ⟨name, version, isLanguageScoped, aliases⟩
  | v => .error (.wrongType v "struct FileDefinition")

def shape : Json.Shape :=
  .fields [("name", .whole), ("version", .whole), ("language_scoped", .whole),
    ("aliases", .whole)]

def defaultVersion : String := "1.0.0"

def toDefinition (d : FileDefinition) : Definition :=
  .custom d.name (d.version.getD defaultVersion) d.isLanguageScoped d.aliases

end FileDefinition

namespace RegistryFile

/-- The fields of a registry file that were read so far. -/
structure Fields where
  name : Option (Option String) := none
  overlays : Option (List FileDefinition) := none

def definitionsOfJson (v : Json) : Except Json.Fault (List FileDefinition) := do
  (← v.toItems).mapM FileDefinition.ofJson

def Fields.read (f : Fields) : String × Json → Except Json.Fault Fields
  | ("name", v) => do
    return { f with name := ← Json.setOnce "name" f.name (v.toOptional Json.toText) }
  | ("overlays", v) => do
    return { f with overlays := ← Json.setOnce "overlays" f.overlays (definitionsOfJson v) }
  | _ => return f

/-- The definitions of a registry file. Its name has no meaning. -/
def ofJson : Json → Except Json.Fault (List FileDefinition)
  | .object entries => do Json.require "overlays" (← entries.foldlM Fields.read {}).overlays
  | .array items => do
    let _ ← Json.elementOr items 0 none (Json.toOptional Json.toText)
    let overlays ←
      Json.element items 1 "struct RegistryFile with 2 elements" definitionsOfJson
    Json.endAt items 2
    return overlays
  | v => .error (.wrongType v "struct RegistryFile")

def shape : Json.Shape :=
  .fields [("name", .whole), ("overlays", .items FileDefinition.shape)]

end RegistryFile

namespace Registry

inductive LoadError
  | notFound (path : String)
  | notADirectory (path : String)
  | unreadable (path reason : String)
  | malformed (path : String) (fault : Json.TextFault)
  | duplicate (path name : String)
  deriving DecidableEq

def LoadError.message : LoadError → String
  | .notFound path => s!"registry directory not found: {path}"
  | .notADirectory path => s!"registry path is not a directory: {path}"
  | .unreadable path reason => s!"I/O error reading {path}: {reason}"
  | .malformed path .notJson => s!"malformed registry file {path}"
  | .malformed path (.notData fault) => s!"malformed registry file {path}: {fault.message}"
  | .duplicate path name => s!"duplicate overlay definition {quoted name} in {path}"

/-- A registry that is being loaded, with the normal names of the definitions read so far. -/
structure Loading where
  registry : Registry
  seen : List String

/-- Adds one definition of the file at `path` with the text given. -/
def Loading.add (path text : String) (l : Loading) (d : FileDefinition) :
    Except LoadError Loading :=
  let seen := normalName d.name :: l.seen
  if isAllBlank d.name.toList then
    let fault := Json.Fault.refused "overlay definition with an empty name"
    .error (.malformed path (fault.within text))
  else if l.seen.contains (normalName d.name) then .error (.duplicate path d.name)
  else if (l.registry.resolve d.name).any (·.kind != .custom) then
    match l.registry.addAliases d.name d.aliases with
    | (r, .ok _) => .ok ⟨r, seen⟩
    | (_, .error clash) => .error (.duplicate path clash.name)
  else
    match l.registry.insert d.toDefinition with
    | .ok r => .ok ⟨r, seen⟩
    | .error clash => .error (.duplicate path clash.name)

def Loading.addFile (dir : String) (l : Loading) (file : String × List UInt8) :
    Except LoadError Loading :=
  let path := Directory.join dir file.1
  match String.fromUTF8? ⟨file.2.toArray⟩ with
  | none => .error (.unreadable path "stream did not contain valid UTF-8")
  | some text =>
    match Json.decodeText RegistryFile.shape RegistryFile.ofJson text with
    | .error fault => .error (.malformed path fault)
    | .ok definitions => definitions.foldlM (Loading.add path text) l

/-- Loads the registry that a path leads to. -/
def load : Location → Except LoadError Registry
  | .nothing path => .error (.notFound path)
  | .file path => .error (.notADirectory path)
  | .directory d => do
    let l ← d.registryFiles.foldlM (Loading.addFile d.path) ⟨builtin, []⟩
    return l.registry

end Registry

end LayeredSchema
