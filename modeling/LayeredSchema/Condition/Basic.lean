import LayeredSchema.Condition.Token

/-!
Conditions: comparisons of a record's values with literals and with each other.

A condition is a disjunction of clauses, and a clause a conjunction of comparisons. A comparison
with a value that the record does not have is false. Main definitions: `Condition.parse`,
`Condition.holds`, `Condition.variableNames`.
-/

namespace LayeredSchema

inductive Operand
  | variable (name : String)
  | literal (value : Json)
  deriving DecidableEq

structure Comparison where
  left : Operand
  op : Condition.Operator
  right : Operand
  deriving DecidableEq

/-- Clauses, of which one must hold. A clause holds when all its comparisons do. -/
structure Condition where
  clauses : List (List Comparison)
  deriving DecidableEq

namespace Condition

open Text

def operand : Nat × Token → Except Error Operand
  | (_, .variable name) => .ok (.variable name)
  | (_, .literal v) => .ok (.literal v)
  | (i, _) => .error (.expectedOperand i)

def operator : Nat × Token → Except Error Operator
  | (_, .operator op) => .ok op
  | (i, _) => .error (.expectedOperator i)

def comparison (l o r : Nat × Token) : Except Error Comparison := do
  return ⟨← operand l, ← operator o, ← operand r⟩

/-- What is wrong with a text that ends, at `stop`, within a comparison. -/
def incomplete {α : Type} (stop : Nat) : List (Nat × Token) → Except Error α
  | [] => .error (.expectedOperand stop)
  | [l] => do
    let _ ← operand l
    .error (.expectedOperator stop)
  | l :: o :: _ => do
    let _ ← operand l
    let _ ← operator o
    .error (.expectedOperand stop)

/-- The clauses that tokens make, the first comparisons of the first clause being read already. -/
def readClauses (stop : Nat) (clause : List Comparison) :
    List (Nat × Token) → Except Error (List (List Comparison))
  | [l, o, r] => do return [clause ++ [← comparison l o r]]
  | l :: o :: r :: (_, .and) :: ts => do
    readClauses stop (clause ++ [← comparison l o r]) ts
  | l :: o :: r :: (_, .or) :: ts => do
    let done := clause ++ [← comparison l o r]
    return done :: (← readClauses stop [] ts)
  | l :: o :: r :: (i, _) :: _ => do
    let _ ← comparison l o r
    .error (.expectedOperator i)
  | ts => incomplete stop ts

def parse (text : String) : Except Error Condition := do
  let ts ← tokens 0 text.toList
  if ts.isEmpty then .error .empty
  else return ⟨← readClauses (byteLength text.toList) [] ts⟩

def Operand.variableNames : Operand → List String
  | .variable name => [name]
  | .literal _ => []

/-- The names that a condition reads, in order. -/
def variableNames (c : Condition) : List String :=
  c.clauses.flatten.flatMap fun cmp =>
    Operand.variableNames cmp.left ++ Operand.variableNames cmp.right

mutual

/-- Equality of values within arrays and objects: an integer and a double differ, and doubles are
compared as numbers. -/
def sameInside : Json → Json → Bool
  | .null, .null => true
  | .bool a, .bool b => a == b
  | .number (.double x), .number (.double y) => x.sameValue y
  | .number m, .number n => m == n
  | .string s, .string t => s == t
  | .array xs, .array ys => sameItems xs ys
  | .object xs, .object ys => sameEntries xs ys
  | _, _ => false

def sameItems : List Json → List Json → Bool
  | [], [] => true
  | x :: xs, y :: ys => sameInside x y && sameItems xs ys
  | _, _ => false

def sameEntries : List (String × Json) → List (String × Json) → Bool
  | [], [] => true
  | (k, x) :: xs, (l, y) :: ys => k == l && sameInside x y && sameEntries xs ys
  | _, _ => false

end

/-- Equality of values: numbers are compared as doubles. -/
def sameValue : Json → Json → Bool
  | .number m, .number n => m.sameValue n
  | v, w => sameInside v w

/-- The order of two numbers or two texts; other values have none. -/
def order? : Json → Json → Option Ordering
  | .number m, .number n => some (m.order n)
  | .string s, .string t => some (if s < t then .lt else if s = t then .eq else .gt)
  | _, _ => none

def Operator.holds (op : Operator) (v w : Json) : Bool :=
  match op with
  | .eq => sameValue v w
  | .ne => !sameValue v w
  | .gt => order? v w == some .gt
  | .ge => order? v w == some .gt || order? v w == some .eq
  | .lt => order? v w == some .lt
  | .le => order? v w == some .lt || order? v w == some .eq

def Operand.value? (record : Table Json) : Operand → Option Json
  | .variable name => record.get? name
  | .literal v => some v

def Comparison.holds (record : Table Json) (c : Comparison) : Bool :=
  match Operand.value? record c.left, Operand.value? record c.right with
  | some v, some w => c.op.holds v w
  | _, _ => false

def holds (c : Condition) (record : Table Json) : Bool :=
  c.clauses.any fun clause => clause.all (Comparison.holds record)

end Condition

end LayeredSchema
