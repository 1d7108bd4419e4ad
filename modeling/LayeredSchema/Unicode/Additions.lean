import LayeredSchema.Unicode.Category
import LayeredSchema.Unicode.Sets

/-!
What version 17.0 of the standard changes in the categories and letters of version 16.0, to which
the other tables belong. Patterns keep to the older version; how texts are shown and what the names
of groups are made of follows the newer one. Main definitions: `Additions.category`,
`Additions.isAlphabetic`.
-/

namespace LayeredSchema.Unicode.Additions

def changeText : String :=
  "-295 Lo1 -5f9 Lo1 -3cc Lo1 -7f Lo1 -df2 Mnf -2 Mnc -5d5 Sc1 -ad4 So1 -7c37 Lu1 Ll1 -2 Lu1 -1
   Lu1 -1c Lm1 -53d1 So10 -1bd So2 -36 So7 -b71 Lo1a -56b Lm1 Lo2 -8 Po1 So8 -21 Mn2 -c64 Mn1
   Mc1 Mn3 Mc1 Mn1 Mc1 -248 Lo29 Lm1 Lo2 -4 Nda -50b6 Lu19 -2 Ll19 -11e Lm2 Nl3 -1801 Lo8 -509
   Lo16 -61 Lo73 -3f07 So3 -1bd So17 -f So10 Sm1 -17cf Lo1f -1 Lo3 Mn1 Lo2 Mn1 Lo7 Mn2 Lo5 Mn1
   -8 Lo1 Lm1 -fd8 So1 -9e So4 -155 Sm9 -17b So4 -32 So1 -3 So1 -39 So1 -4 So1 -1c So1 -4 So1
   -10a So1 -bb3f Lo6 -1762 Loc -5502 Lo10ca -dcb86"

/-- The lengths of the runs of code points with one new category, or with none. -/
def changes : List (Nat × Option Category) :=
  readRuns (("-", none) :: Category.named.map fun (name, c) => (name, some c)) none changeText

def category (c : Char) : Category :=
  ((valueAt? changes c.toNat).getD none).getD (Category.of c)

def alphabeticMarks : CodePointSet := .ofRuns
  "10efa 2 c64 8 cb7b 1 2 1 7 2 5 1"

def isAlphabetic (c : Char) : Bool :=
  match category c with
  | .lu | .ll | .lt | .lm | .lo | .nl => true
  | _ =>
    Sets.otherAlphabetic.contains c || Sets.otherLowercase.contains c ||
      Sets.otherUppercase.contains c || alphabeticMarks.contains c

def isNumber (c : Char) : Bool :=
  match category c with
  | .nd | .nl | .no => true
  | _ => false

end LayeredSchema.Unicode.Additions
