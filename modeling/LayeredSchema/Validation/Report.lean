/-!
Validation reports: all findings, in the order they were made. A subject without findings is valid.
-/

namespace LayeredSchema

structure Report (α : Type) where
  findings : List α
  deriving DecidableEq, Repr

namespace Report

variable {α : Type}

def empty : Report α := ⟨[]⟩

instance : EmptyCollection (Report α) := ⟨empty⟩

def push (r : Report α) (a : α) : Report α := ⟨r.findings ++ [a]⟩

def extend (r : Report α) (as : List α) : Report α := ⟨r.findings ++ as⟩

def isValid (r : Report α) : Bool := r.findings.isEmpty

def size (r : Report α) : Nat := r.findings.length

def messages (r : Report α) (message : α → String) : List String := r.findings.map message

end Report

end LayeredSchema
