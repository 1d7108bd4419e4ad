import LayeredSchema.Text.Quoted

/-!
What can be wrong with the text of an OCAfile.
-/

namespace LayeredSchema.Ocafile

open Text

inductive Cause
  | unknownKeyword (word : String)
  | missingEquals
  | missingValue (what : String)
  | unterminatedString
  | unterminatedArray
  | trailingCharacters
  | tabIndentation
  | indentOutsideBlock
  | indentUnderValue
  | inconsistentDedent
  | misplacedHeader
  | duplicateHeader
  | malformedAttribute (text : String)
  | unknownAttributeType (text : String)
  | emptyAttributeList
  deriving DecidableEq, Repr

def Cause.message : Cause → String
  | .unknownKeyword word => s!"unknown keyword {quoted word}"
  | .missingEquals => "expected `key=value` or a bare key"
  | .missingValue what => s!"expected a value for {what}"
  | .unterminatedString => "unterminated quoted string"
  | .unterminatedArray => "unterminated array"
  | .trailingCharacters => "unexpected characters after value"
  | .tabIndentation => "tab character in indentation"
  | .indentOutsideBlock => "indented line outside an overlay block"
  | .indentUnderValue => "indented block under a key that already has a value"
  | .inconsistentDedent => "dedent does not match any enclosing indentation level"
  | .misplacedHeader => "--name header must be the first statement"
  | .duplicateHeader => "duplicate --name header"
  | .malformedAttribute text => s!"attribute {quoted text} is not of the form name=Type"
  | .unknownAttributeType text => s!"unknown attribute type {quoted text}"
  | .emptyAttributeList => "ADD ATTRIBUTE lists no attributes"

/-- An error with its place. Lines and columns count from one; a statement that runs over several
lines is on the line it starts on. -/
structure Error where
  line : Nat
  column : Nat
  cause : Cause
  deriving DecidableEq, Repr

def Error.message (e : Error) : String :=
  s!"line {e.line}, column {e.column}: {e.cause.message}"

end LayeredSchema.Ocafile
