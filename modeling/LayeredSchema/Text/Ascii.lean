/-!
Letters, digits and case in the ASCII range. Characters outside it are left as they are.
-/

namespace LayeredSchema.Text

def lower (cs : List Char) : List Char := cs.map Char.toLower

def lowered (s : String) : String := String.ofList (lower s.toList)

def sameIgnoringCase (xs ys : List Char) : Bool := lower xs == lower ys

/-- Whether `stem` opens the text in some case of its letters; if so, what follows it. -/
def dropStemIgnoringCase? : List Char → List Char → Option (List Char)
  | [], cs => some cs
  | _ :: _, [] => none
  | p :: ps, c :: cs => if p.toLower = c.toLower then dropStemIgnoringCase? ps cs else none

def isAscii (c : Char) : Bool := c.toNat < 128

def hexDigit? (c : Char) : Option Nat :=
  if '0' ≤ c ∧ c ≤ '9' then some (c.toNat - '0'.toNat)
  else if 'a' ≤ c ∧ c ≤ 'f' then some (c.toNat - 'a'.toNat + 10)
  else if 'A' ≤ c ∧ c ≤ 'F' then some (c.toNat - 'A'.toNat + 10)
  else none

def hexDigit (n : Nat) : Char := Nat.digitChar n

/-- The number that a list of decimal digits denotes; characters that are no digits count as
whatever their distance to `0` is, so callers check them first. -/
def digitsValue (cs : List Char) : Nat :=
  cs.foldl (fun n c => 10 * n + (c.toNat - '0'.toNat)) 0

/-- The number that a list of decimal digits denotes, if it is one and not empty. -/
def natural? (cs : List Char) : Option Nat :=
  if !cs.isEmpty && cs.all Char.isDigit then some (digitsValue cs) else none

/-- The lower-case hexadecimal digits of a number, without leading zeros. -/
def hexNumeral (n : Nat) : List Char := Nat.toDigits 16 n

theorem length_of_dropStemIgnoringCase? {stem cs rest : List Char}
    (h : dropStemIgnoringCase? stem cs = some rest) : stem.length + rest.length = cs.length := by
  induction stem generalizing cs with
  | nil => simp_all [dropStemIgnoringCase?]
  | cons p ps ih =>
    cases cs with
    | nil => simp [dropStemIgnoringCase?] at h
    | cons c cs =>
      simp only [dropStemIgnoringCase?] at h
      split at h
      · have := ih h
        simp
        omega
      · simp at h

end LayeredSchema.Text
