import LayeredSchema.Pattern.Regex

/-!
How expressions are laid out for machines that read bytes.

A layout keeps what is of no matter to whether a text matches, such as groups, and writes a pattern
with as few parts as simple rules give: texts in a row are one text, a choice between characters is
a set, and what all branches of a choice start with is taken out of them. Main definitions:
`Layout`, `Layout.sequence`, `Layout.choice`, `Layout.repeated`.
-/

namespace LayeredSchema.Pattern

inductive Layout
  | empty
  | bytes (bs : List UInt8)
  | chars (set : CharSet)
  | look (l : Look)
  | group (number : Nat) (body : Layout)
  /-- At least `least` and at most `most` times, as often as possible if `eager`. -/
  | rep (body : Layout) (least : Nat) (most : Option Nat) (eager : Bool)
  | seq (parts : List Layout)
  | alt (branches : List Layout)

namespace Layout

mutual

def same : Layout → Layout → Bool
  | .empty, .empty => true
  | .bytes a, .bytes b => a == b
  | .chars s, .chars t => s == t
  | .look a, .look b => a == b
  | .group m a, .group n b => m == n && same a b
  | .rep a least most eager, .rep b least' most' eager' =>
    least == least' && most == most' && eager == eager' && same a b
  | .seq as, .seq bs => sameAll as bs
  | .alt as, .alt bs => sameAll as bs
  | _, _ => false

def sameAll : List Layout → List Layout → Bool
  | [], [] => true
  | a :: as, b :: bs => same a b && sameAll as bs
  | _, _ => false

end

def both (f : Nat → Nat → Nat) : Option Nat → Option Nat → Option Nat
  | some a, some b => some (f a b)
  | _, _ => none

mutual

/-- The length of the shortest match in bytes; none if nothing matches. -/
def minLength : Layout → Option Nat
  | .empty | .look _ => some 0
  | .bytes bs => some bs.length
  | .chars s => s.intervals.head?.map fun i => (Char.ofNat i.first).utf8Size
  | .group _ l => l.minLength
  | .rep l least _ _ => l.minLength.map (least * ·)
  | .seq ls => minLengthOfAll ls
  | .alt [] => none
  | .alt (l :: ls) => minLengthOfAny l.minLength ls

def minLengthOfAll : List Layout → Option Nat
  | [] => some 0
  | l :: ls => both (· + ·) l.minLength (minLengthOfAll ls)

def minLengthOfAny (n : Option Nat) : List Layout → Option Nat
  | [] => n
  | l :: ls => minLengthOfAny (both min n l.minLength) ls

end

mutual

/-- The length of the longest match in bytes; none if nothing matches or there is no longest. -/
def maxLength : Layout → Option Nat
  | .empty | .look _ => some 0
  | .bytes bs => some bs.length
  | .chars s => s.intervals.getLast?.map fun i => (Char.ofNat i.last).utf8Size
  | .group _ l => l.maxLength
  | .rep l _ most _ => both (· * ·) most l.maxLength
  | .seq ls => maxLengthOfAll ls
  | .alt [] => none
  | .alt (l :: ls) => maxLengthOfAny l.maxLength ls

def maxLengthOfAll : List Layout → Option Nat
  | [] => some 0
  | l :: ls => both (· + ·) l.maxLength (maxLengthOfAll ls)

def maxLengthOfAny (n : Option Nat) : List Layout → Option Nat
  | [] => n
  | l :: ls => maxLengthOfAny (both max n l.maxLength) ls

end

def takesText (l : Layout) : Bool := l.minLength.any (0 < ·)

def isWidthless (l : Layout) : Bool := l.maxLength == some 0

mutual

def startsText : Layout → Bool
  | .look l => l == .textStart
  | .group _ l => l.startsText
  | .rep l least _ _ => 0 < least && l.startsText
  | .seq ls => somePartStartsText ls
  | .alt ls => allStartText ls
  | .empty | .bytes _ | .chars _ => false

def somePartStartsText : List Layout → Bool
  | [] => false
  | l :: ls => l.startsText || (l.isWidthless && somePartStartsText ls)

def allStartText : List Layout → Bool
  | [] => true
  | l :: ls => l.startsText && allStartText ls

end

mutual

def endsText : Layout → Bool
  | .look l => l == .textEnd
  | .group _ l => l.endsText
  | .rep l least _ _ => 0 < least && l.endsText
  | .seq ls => somePartEndsText ls
  | .alt ls => allEndText ls
  | .empty | .bytes _ | .chars _ => false

def somePartEndsText : List Layout → Bool
  | [] => false
  | l :: ls => somePartEndsText ls || (ls.all isWidthless && l.endsText)

def allEndText : List Layout → Bool
  | [] => true
  | l :: ls => l.endsText && allEndText ls

end

/-- The characters of a set without the surrogates. -/
def scalars (s : CharSet) : CharSet := s.diff ⟨[⟨0xD800, 0xDFFF⟩]⟩

/-- One character of a set. A set of one character is a text. -/
def ofSet (s : CharSet) : Layout :=
  match (scalars s).intervals with
  | [i] =>
    if i.first = i.last then .bytes (String.utf8EncodeChar (Char.ofNat i.first)) else .chars ⟨[i]⟩
  | is => .chars ⟨is⟩

def ofAtom : Regex → Layout
  | .chars s => ofSet s
  | .look l => .look l
  | _ => .empty

/-- The parts of a sequence, texts in a row being one text. -/
def joinTexts : List Layout → List Layout
  | [] => []
  | l :: ls =>
    match l, joinTexts ls with
    | .bytes a, .bytes b :: rest => .bytes (a ++ b) :: rest
    | l, rest => l :: rest

def partsOf : Layout → List Layout
  | .empty => []
  | .seq ls => ls
  | l => [l]

def sequence (ls : List Layout) : Layout :=
  match joinTexts (ls.flatMap partsOf) with
  | [] => .empty
  | [l] => l
  | ls => .seq ls

def branchesOf : Layout → List Layout
  | .alt ls => ls
  | l => [l]

/-- The character that a layout stands for, if it is a text of one. -/
def char? : Layout → Option Char
  | .bytes bs =>
    match (String.fromUTF8? ⟨bs.toArray⟩).map String.toList with
    | some [c] => some c
    | _ => none
  | _ => none

def set? : Layout → Option CharSet
  | .chars s => some s
  | _ => none

/-- A choice of which all branches are characters, or all are sets. -/
def choiceOfChars? (ls : List Layout) : Option Layout :=
  match ls.mapM char? with
  | some cs => some (ofSet (.unionAll (cs.map .single)))
  | none => (ls.mapM set?).map fun ss => ofSet (.unionAll ss)

/-- How many parts two sequences have in common at their start. -/
def commonLength : List Layout → List Layout → Nat
  | a :: as, b :: bs => if same a b then commonLength as bs + 1 else 0
  | _, _ => 0

def seqParts? : Layout → Option (List Layout)
  | .seq ls => some ls
  | _ => none

/-- The parts that sequences start with in common, and what is left of each; none if they start
with nothing in common or one of them is no sequence. -/
def takeOut? (ls : List Layout) : Option (List Layout × List Layout) :=
  match ls.mapM seqParts? with
  | some (first :: others) =>
    let n := others.foldl (fun n ps => min n (commonLength first ps)) first.length
    if n = 0 then none
    else some (first.take n, (first :: others).map fun ps => sequence (ps.drop n))
  | _ => none

/-- A choice between layouts from which nothing is to be taken out. -/
def plainChoice (ls : List Layout) : Layout :=
  match ls.flatMap branchesOf with
  | [l] => l
  | ls => (choiceOfChars? ls).getD (.alt ls)

def choice (ls : List Layout) : Layout :=
  match ls.flatMap branchesOf with
  | [l] => l
  | ls =>
    match choiceOfChars? ls with
    | some l => l
    | none =>
      match takeOut? ls with
      | some (taken, rests) => sequence (taken ++ [plainChoice rests])
      | none => .alt ls

/-- A repetition. What takes no character need not be repeated. -/
def repeated (l : Layout) (least : Nat) (most : Option Nat) (eager : Bool) : Layout :=
  let (least, most) :=
    if l.isWidthless then (min least 1, some (min (most.getD 1) 1)) else (least, most)
  if most = some 0 then .empty
  else if least = 1 && most = some 1 then l
  else .rep l least most eager

end Layout

end LayeredSchema.Pattern
