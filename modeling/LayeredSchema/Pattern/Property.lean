import LayeredSchema.Pattern.CharSet
import LayeredSchema.Unicode.Age
import LayeredSchema.Unicode.Break
import LayeredSchema.Unicode.Category
import LayeredSchema.Unicode.Script
import LayeredSchema.Unicode.Sets

/-!
Sets of characters by the names of Unicode properties.

Names are compared loosely: without regard to case, spaces, hyphens, underscores and a leading
`is`. Main definitions: `Property.named?`, `Property.valued?`.
-/

namespace LayeredSchema.Pattern.Property

open Unicode

def loose (name : String) : String :=
  let kept := fun cs : List Char =>
    (cs.filter fun c => c.toNat < 128 && !(c == ' ' || c == '_' || c == '-')).map Char.toLower
  let cs := name.toList
  match cs with
  | i :: s :: rest =>
    if i.toLower = 'i' && s.toLower = 's' then
      if kept rest = ['c'] then "isc" else String.ofList (kept rest)
    else String.ofList (kept cs)
  | _ => String.ofList (kept cs)

def ofCategories (cs : List Category) : CharSet := .ofRuns Category.runs (cs.contains ·)

def letters : List Category := [.lu, .ll, .lt, .lm, .lo]
def marks : List Category := [.mn, .mc, .me]
def numbers : List Category := [.nd, .nl, .no]
def punctuation : List Category := [.pc, .pd, .ps, .pe, .pi, .pf, .po]
def symbols : List Category := [.sm, .sc, .sk, .so]
def separators : List Category := [.zs, .zl, .zp]
def others : List Category := [.cc, .cf, .cs, .co, .cn]

/-- The loose names of the general categories and of their groups. -/
def categoryNames : List (List String × List Category) :=
  [(["c", "other"], others), (["cc", "control", "cntrl"], [.cc]), (["cf", "format"], [.cf]),
    (["cn", "unassigned"], [.cn]), (["co", "privateuse"], [.co]), (["l", "letter"], letters),
    (["lc", "casedletter"], [.lu, .ll, .lt]), (["ll", "lowercaseletter"], [.ll]),
    (["lm", "modifierletter"], [.lm]), (["lo", "otherletter"], [.lo]),
    (["lt", "titlecaseletter"], [.lt]), (["lu", "uppercaseletter"], [.lu]),
    (["m", "mark", "combiningmark"], marks), (["mc", "spacingmark"], [.mc]),
    (["me", "enclosingmark"], [.me]), (["mn", "nonspacingmark"], [.mn]),
    (["n", "number"], numbers), (["nd", "decimalnumber", "digit"], [.nd]),
    (["nl", "letternumber"], [.nl]), (["no", "othernumber"], [.no]),
    (["p", "punctuation", "punct"], punctuation), (["pc", "connectorpunctuation"], [.pc]),
    (["pd", "dashpunctuation"], [.pd]), (["pe", "closepunctuation"], [.pe]),
    (["pf", "finalpunctuation"], [.pf]), (["pi", "initialpunctuation"], [.pi]),
    (["po", "otherpunctuation"], [.po]), (["ps", "openpunctuation"], [.ps]),
    (["s", "symbol"], symbols), (["sc", "currencysymbol"], [.sc]),
    (["sk", "modifiersymbol"], [.sk]), (["sm", "mathsymbol"], [.sm]),
    (["so", "othersymbol"], [.so]), (["z", "separator"], separators),
    (["zl", "lineseparator"], [.zl]), (["zp", "paragraphseparator"], [.zp]),
    (["zs", "spaceseparator"], [.zs])]

def category? (name : String) : Option CharSet :=
  if name = "any" then some .all
  else if name = "assigned" then some (ofCategories [.cn]).complement
  else if name = "ascii" then some ⟨[⟨0, 127⟩]⟩
  else (categoryNames.find? (·.1.contains name)).map fun (_, cs) => ofCategories cs

def scriptCode? (name : String) : Option String :=
  if name = "qaai" then some "Zinh"
  else if name = "qaac" then some "Copt"
  else (Script.named.find? fun (code, long) => loose code == name || loose long == name).map (·.1)

def script? (name : String) : Option CharSet :=
  (scriptCode? name).map fun code => .ofRuns Script.runs (· == code)

/-- The characters used with a script: those that list it, and the script's own that list none. -/
def scriptExtensions? (name : String) : Option CharSet :=
  (scriptCode? name).map fun code =>
    let listing := CharSet.ofRuns Script.extensionRuns (·.contains code)
    let silent := CharSet.ofRuns Script.extensionRuns (·.isEmpty)
    listing.union (silent.inter (.ofRuns Script.runs (· == code)))

def age? (name : String) : Option CharSet :=
  let spelled := fun v : String =>
    v == name || "v" ++ String.ofList (v.toList.filter (· != '.')) == name
  match Age.versions.findIdx? spelled with
  | some i =>
    let versions := Age.versions.take (i + 1)
    some (.ofRuns Age.runs fun v => v.any versions.contains)
  | none => none

/-- The characters with a value of a property, by the loose names of its values. -/
def break? (names : List (String × List String)) (runs : List (Nat × List String))
    (name : String) : Option CharSet :=
  (names.find? (·.2.contains name)).map fun (value, _) => .ofRuns runs (·.contains value)

def lowercase : CharSet := (ofCategories [.ll]).union (.ofTable Sets.otherLowercase)
def uppercase : CharSet := (ofCategories [.lu]).union (.ofTable Sets.otherUppercase)

def alphabetic : CharSet :=
  .unionAll [lowercase, uppercase, ofCategories [.lt, .lm, .lo, .nl], .ofTable Sets.otherAlphabetic]

def whiteSpace : CharSet :=
  .ofIntervals ([⟨9, 13⟩, ⟨0x20, 0x20⟩, ⟨0x85, 0x85⟩, ⟨0xA0, 0xA0⟩, ⟨0x1680, 0x1680⟩,
    ⟨0x2000, 0x200A⟩, ⟨0x2028, 0x2029⟩, ⟨0x202F, 0x202F⟩, ⟨0x205F, 0x205F⟩, ⟨0x3000, 0x3000⟩])

def digit : CharSet := ofCategories [.nd]

/-- The characters of words: letters, marks, digits, connectors and joiners. -/
def word : CharSet :=
  .unionAll [alphabetic, ofCategories [.mn, .mc, .me, .nd, .pc], .ofTable Sets.joinControl]

def graphemeExtend : CharSet := (ofCategories [.mn, .me]).union (.ofTable Sets.otherGraphemeExtend)

def graphemeBase : CharSet :=
  (ofCategories [.cc, .cf, .cs, .co, .cn, .zl, .zp]).complement.diff graphemeExtend

def idStart : CharSet :=
  (((ofCategories (.nl :: letters)).diff (.ofTable Sets.patternSyntax)).diff
    (.ofTable Sets.patternWhiteSpace)).union (.ofTable Sets.otherIdStart)

def idContinue : CharSet :=
  .unionAll [idStart, ofCategories [.mn, .mc, .nd, .pc], .ofTable Sets.otherIdContinue]

def caseIgnorable : CharSet :=
  (ofCategories [.mn, .me, .cf, .lm, .sk]).union (.ofTable Sets.otherCaseIgnorable)

def changesWhenCasemapped : CharSet :=
  .unionAll [.ofTable Sets.changesWhenLowercased, .ofTable Sets.changesWhenUppercased,
    .ofTable Sets.changesWhenTitlecased]

/-- A set that is only computed when it is asked for. -/
abbrev Lazy := Unit → CharSet

def binaryNames : List (List String × Lazy) :=
  [(["asciihexdigit", "ahex"], fun _ => .ofTable Sets.asciiHexDigit),
    (["alphabetic", "alpha"], fun _ => alphabetic),
    (["bidicontrol", "bidic"], fun _ => .ofTable Sets.bidiControl),
    (["bidimirrored", "bidim"], fun _ => .ofTable Sets.bidiMirrored),
    (["caseignorable", "ci"], fun _ => caseIgnorable),
    (["cased"], fun _ => .unionAll [lowercase, uppercase, ofCategories [.lt]]),
    (["changeswhencasefolded", "cwcf"], fun _ => .ofTable Sets.changesWhenCasefolded),
    (["changeswhencasemapped", "cwcm"], fun _ => changesWhenCasemapped),
    (["changeswhenlowercased", "cwl"], fun _ => .ofTable Sets.changesWhenLowercased),
    (["changeswhentitlecased", "cwt"], fun _ => .ofTable Sets.changesWhenTitlecased),
    (["changeswhenuppercased", "cwu"], fun _ => .ofTable Sets.changesWhenUppercased),
    (["dash"], fun _ => .ofTable Sets.dash),
    (["defaultignorablecodepoint", "di"], fun _ => .ofTable Sets.defaultIgnorableCodePoint),
    (["deprecated", "dep"], fun _ => .ofTable Sets.deprecated),
    (["diacritic", "dia"], fun _ => .ofTable Sets.diacritic),
    (["emoji"], fun _ => .ofTable Sets.emoji),
    (["emojicomponent", "ecomp"], fun _ => .ofTable Sets.emojiComponent),
    (["emojimodifier", "emod"], fun _ => .ofTable Sets.emojiModifier),
    (["emojimodifierbase", "ebase"], fun _ => .ofTable Sets.emojiModifierBase),
    (["emojipresentation", "epres"], fun _ => .ofTable Sets.emojiPresentation),
    (["extendedpictographic", "extpict"], fun _ => .ofTable Sets.extendedPictographic),
    (["extender", "ext"], fun _ => .ofTable Sets.extender),
    (["graphemebase", "grbase"], fun _ => graphemeBase),
    (["graphemeextend", "grext"], fun _ => graphemeExtend),
    (["graphemelink", "grlink"], fun _ => .ofTable Sets.graphemeLink),
    (["hexdigit", "hex"], fun _ => .ofTable Sets.hexDigit),
    (["hyphen"], fun _ => .ofTable Sets.hyphen),
    (["idcompatmathcontinue"], fun _ => .ofTable Sets.idCompatMathContinue),
    (["idcompatmathstart"], fun _ => .ofTable Sets.idCompatMathStart),
    (["idsbinaryoperator", "idsb"], fun _ => .ofTable Sets.idsBinaryOperator),
    (["idstrinaryoperator", "idst"], fun _ => .ofTable Sets.idsTrinaryOperator),
    (["idsunaryoperator", "idsu"], fun _ => .ofTable Sets.idsUnaryOperator),
    (["idcontinue", "idc"], fun _ => idContinue),
    (["idstart", "ids"], fun _ => idStart),
    (["ideographic", "ideo"], fun _ => .ofTable Sets.ideographic),
    (["joincontrol", "joinc"], fun _ => .ofTable Sets.joinControl),
    (["logicalorderexception", "loe"], fun _ => .ofTable Sets.logicalOrderException),
    (["lowercase", "lower"], fun _ => lowercase),
    (["math"], fun _ => (ofCategories [.sm]).union (.ofTable Sets.otherMath)),
    (["modifiercombiningmark", "mcm"], fun _ => .ofTable Sets.modifierCombiningMark),
    (["noncharactercodepoint", "nchar"], fun _ => .ofTable Sets.noncharacterCodePoint),
    (["otheralphabetic", "oalpha"], fun _ => .ofTable Sets.otherAlphabetic),
    (["otherdefaultignorablecodepoint", "odi"], fun _ => .ofTable Sets.otherDefaultIgnorable),
    (["othergraphemeextend", "ogrext"], fun _ => .ofTable Sets.otherGraphemeExtend),
    (["otheridcontinue", "oidc"], fun _ => .ofTable Sets.otherIdContinue),
    (["otheridstart", "oids"], fun _ => .ofTable Sets.otherIdStart),
    (["otherlowercase", "olower"], fun _ => .ofTable Sets.otherLowercase),
    (["othermath", "omath"], fun _ => .ofTable Sets.otherMath),
    (["otheruppercase", "oupper"], fun _ => .ofTable Sets.otherUppercase),
    (["patternsyntax", "patsyn"], fun _ => .ofTable Sets.patternSyntax),
    (["patternwhitespace", "patws"], fun _ => .ofTable Sets.patternWhiteSpace),
    (["prependedconcatenationmark", "pcm"],
      fun _ => .ofTable Sets.prependedConcatenationMark),
    (["quotationmark", "qmark"], fun _ => .ofTable Sets.quotationMark),
    (["radical"], fun _ => .ofTable Sets.radical),
    (["regionalindicator", "ri"], fun _ => .ofTable Sets.regionalIndicator),
    (["sentenceterminal", "sterm"], fun _ => .ofTable Sets.sentenceTerminal),
    (["softdotted", "sd"], fun _ => .ofTable Sets.softDotted),
    (["terminalpunctuation", "term"], fun _ => .ofTable Sets.terminalPunctuation),
    (["unifiedideograph", "uideo"], fun _ => .ofTable Sets.unifiedIdeograph),
    (["uppercase", "upper"], fun _ => uppercase),
    (["variationselector", "vs"], fun _ => .ofTable Sets.variationSelector),
    (["whitespace", "wspace", "space"], fun _ => whiteSpace),
    (["xidcontinue", "xidc"], fun _ => idContinue.diff (.ofTable Sets.xidContinueExcluded)),
    (["xidstart", "xids"], fun _ => idStart.diff (.ofTable Sets.xidStartExcluded))]

def binary? (name : String) : Option CharSet :=
  (binaryNames.find? (·.1.contains name)).map fun (_, s) => s ()

/-- The set that a name alone stands for: a two-valued property, a general category or a script. -/
def named? (name : String) : Option CharSet :=
  let name := loose name
  (binary? name).or ((category? name).or (script? name))

/-- The set of the characters for which a property has a value. -/
def valued? (property value : String) : Option CharSet :=
  let property := loose property
  let value := loose value
  if property = "gc" || property = "generalcategory" then category? value
  else if property = "sc" || property = "script" then script? value
  else if property = "scx" || property = "scriptextensions" then scriptExtensions? value
  else if property = "age" then age? value
  else if property = "gcb" || property = "graphemeclusterbreak" then
    break? Break.clusterNames Break.clusterRuns value
  else if property = "wb" || property = "wordbreak" then break? Break.wordNames Break.wordRuns value
  else if property = "sb" || property = "sentencebreak" then
    break? Break.sentenceNames Break.sentenceRuns value
  else none

end LayeredSchema.Pattern.Property
