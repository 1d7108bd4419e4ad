import LayeredSchema.Json.Basic
import LayeredSchema.Text.Ascii
import LayeredSchema.Text.Blank
import LayeredSchema.Text.Quoted

/-!
The tokens of conditions and their places, which are counted in bytes.
-/

namespace LayeredSchema.Condition

open Text

inductive Operator
  | eq
  | ne
  | gt
  | ge
  | lt
  | le
  deriving DecidableEq, Repr

namespace Operator

def all : List Operator := [.eq, .ne, .gt, .ge, .lt, .le]

def text : Operator → String
  | .eq => "=="
  | .ne => "!="
  | .gt => ">"
  | .ge => ">="
  | .lt => "<"
  | .le => "<="

end Operator

inductive Token
  | variable (name : String)
  | literal (value : Json)
  | operator (op : Operator)
  | and
  | or
  deriving DecidableEq

/-- Why a text is no condition. Places are counted in bytes. -/
inductive Error
  | empty
  | unexpectedChar (position : Nat) (c : Char)
  | unterminatedString (position : Nat)
  | unterminatedVariable (position : Nat)
  | expectedOperand (position : Nat)
  | expectedOperator (position : Nat)
  deriving DecidableEq, Repr

def Error.message : Error → String
  | .empty => "empty condition"
  | .unexpectedChar i c => s!"unexpected character {quotedChar c} at {i}"
  | .unterminatedString i => s!"unterminated string starting at {i}"
  | .unterminatedVariable i => s!"unterminated variable starting at {i}"
  | .expectedOperand i => s!"expected a variable or literal at {i}"
  | .expectedOperator i => s!"expected a comparison operator at {i}"

/-- Reads a decimal number: digits with a point before, between or after them, and an exponent. The
number is the nearest double, and one beyond the largest is refused. -/
def number? (cs : List Char) : Option Double :=
  let (negative, cs) := match cs with
    | '-' :: cs => (true, cs)
    | cs => (false, cs)
  let whole := cs.takeWhile Char.isDigit
  let (fraction, cs) := match cs.dropWhile Char.isDigit with
    | '.' :: cs => (cs.takeWhile Char.isDigit, cs.dropWhile Char.isDigit)
    | cs => ([], cs)
  let exponent : Option Int :=
    match cs with
    | [] => some 0
    | e :: cs =>
      if e = 'e' || e = 'E' then
        match cs with
        | '-' :: cs => (natural? cs).map fun n => - (n : Int)
        | '+' :: cs => (natural? cs).map Int.ofNat
        | cs => (natural? cs).map Int.ofNat
      else none
  match whole ++ fraction, exponent with
  | [], _ | _, none => none
  | digits, some e => Double.ofDecimal? negative (digitsValue digits) (e - fraction.length)

def isNumberChar (c : Char) : Bool :=
  c.isDigit || c == '-' || c == '+' || c == '.' || c == 'e' || c == 'E'

def word? : List Char → Option Json
  | ['t', 'r', 'u', 'e'] => some (.bool true)
  | ['f', 'a', 'l', 's', 'e'] => some (.bool false)
  | ['n', 'u', 'l', 'l'] => some .null
  | _ => none

/-- The sign that two characters stand for. -/
def pair? : Char → Char → Option Token
  | '&', '&' => some .and
  | '|', '|' => some .or
  | '=', '=' => some (.operator .eq)
  | '!', '=' => some (.operator .ne)
  | '>', '=' => some (.operator .ge)
  | '<', '=' => some (.operator .le)
  | _, _ => none

/-- The sign that a character stands for by itself. -/
def sign? : Char → Option Token
  | '>' => some (.operator .gt)
  | '<' => some (.operator .lt)
  | _ => none

/-- Reads the sign that starts with `c`, if one does, and leaves what follows it. -/
def symbol? (c : Char) (cs : List Char) : Option (Token × List Char) :=
  match cs.head?.bind (pair? c) with
  | some t => some (t, cs.tail)
  | none => (sign? c).map (·, cs)

/-- Reads the variable whose dollar sign is at `position`, before `cs`. -/
def variableToken (position : Nat) : List Char → Except Error (Token × List Char)
  | '\x7b' :: cs =>
    let name := trim (cs.takeWhile (· != '\x7d'))
    match cs.dropWhile (· != '\x7d') with
    | [] => .error (.unterminatedVariable position)
    | _ :: rest =>
      if name.isEmpty then .error (.unterminatedVariable position)
      else .ok (.variable (String.ofList name), rest)
  | _ => .error (.unexpectedChar position '$')

/-- Reads the literal that starts with `c`, at `position`. -/
def literalToken (position : Nat) (c : Char) (cs : List Char) : Except Error (Token × List Char) :=
  if c = '\'' || c = '"' then
    match cs.dropWhile (· != c) with
    | [] => .error (.unterminatedString position)
    | _ :: rest => .ok (.literal (.string (String.ofList (cs.takeWhile (· != c)))), rest)
  else if c.isDigit || c = '-' || c = '.' then
    match number? (c :: cs.takeWhile isNumberChar) with
    | some x => .ok (.literal (.number (.double x)), cs.dropWhile isNumberChar)
    | none => .error (.unexpectedChar position c)
  else
    match word? (c :: cs.takeWhile Char.isAlphanum) with
    | some v => .ok (.literal v, cs.dropWhile Char.isAlphanum)
    | none => .error (.unexpectedChar position c)

/-- Reads the token that starts with `c`, at `position`, and leaves what follows it. -/
def token (position : Nat) (c : Char) (cs : List Char) : Except Error (Token × List Char) :=
  match symbol? c cs with
  | some read => .ok read
  | none => if c = '$' then variableToken position cs else literalToken position c cs

section Length

variable {position : Nat} {c : Char} {cs rest : List Char} {t : Token}

theorem length_dropWhile_le {α : Type} (p : α → Bool) (xs : List α) :
    (xs.dropWhile p).length ≤ xs.length :=
  (List.dropWhile_suffix p).length_le

theorem length_of_dropWhile_cons {α : Type} {p : α → Bool} {xs ys : List α} {y : α}
    (h : xs.dropWhile p = y :: ys) : ys.length ≤ xs.length := by
  have hl := length_dropWhile_le p xs
  rw [h, List.length_cons] at hl
  omega

theorem length_of_symbol? (h : symbol? c cs = some (t, rest)) : rest.length ≤ cs.length := by
  unfold symbol? at h
  split at h
  · obtain ⟨-, rfl⟩ := Prod.mk.inj (Option.some.inj h)
    simp
  · obtain ⟨_, -, h⟩ := Option.map_eq_some_iff.mp h
    obtain ⟨-, rfl⟩ := Prod.mk.inj h
    exact Nat.le_refl _

theorem length_of_variableToken (h : variableToken position cs = .ok (t, rest)) :
    rest.length ≤ cs.length := by
  unfold variableToken at h
  split at h
  · dsimp only at h
    split at h
    · contradiction
    · rename_i hd
      split at h
      · contradiction
      · obtain ⟨-, rfl⟩ := Prod.mk.inj (Except.ok.inj h)
        exact Nat.le_succ_of_le (length_of_dropWhile_cons hd)
  · contradiction

theorem length_of_literalToken (h : literalToken position c cs = .ok (t, rest)) :
    rest.length ≤ cs.length := by
  unfold literalToken at h
  split at h
  · split at h
    · contradiction
    · rename_i hd
      obtain ⟨-, rfl⟩ := Prod.mk.inj (Except.ok.inj h)
      exact length_of_dropWhile_cons hd
  · split at h
    all_goals
      split at h
      · obtain ⟨-, rfl⟩ := Prod.mk.inj (Except.ok.inj h)
        exact length_dropWhile_le _ _
      · contradiction

theorem length_of_token (h : token position c cs = .ok (t, rest)) : rest.length ≤ cs.length := by
  unfold token at h
  split at h
  · rename_i hs
    exact length_of_symbol? (hs.trans (congrArg some (Except.ok.inj h)))
  · split at h
    · exact length_of_variableToken h
    · exact length_of_literalToken h

end Length

/-- The tokens of a text whose first character is at `position`, each with its place. -/
def tokens (position : Nat) : List Char → Except Error (List (Nat × Token))
  | [] => .ok []
  | c :: cs =>
    if isBlank c then tokens (position + c.utf8Size) cs
    else
      match h : token position c cs with
      | .error e => .error e
      | .ok (t, rest) =>
        have := length_of_token h
        (tokens (position + (byteLength (c :: cs) - byteLength rest)) rest).map ((position, t) :: ·)
termination_by cs => cs.length

end LayeredSchema.Condition
