import LayeredSchema.Ocafile.Cursor

/-!
Blocks: the lines under an overlay command and the tree that their indentation makes of them.

A line that is indented deeper than the line before it belongs to that line, which must have no
value; a line that is indented less must be level with an earlier line that is still open.
-/

namespace LayeredSchema.Ocafile

/-- A line of a block. The indentation is counted in bytes. -/
structure BlockLine where
  number : Nat
  indent : Nat
  key : String
  value : PropertyValue
  deriving DecidableEq

namespace BlockLine

def fail {α : Type} (l : BlockLine) (cause : Cause) : Except Error α :=
  .error ⟨l.number, l.indent + 1, cause⟩

/-- The lines that follow a line and are indented deeper than it. -/
def inner (l : BlockLine) (ls : List BlockLine) : List BlockLine :=
  ls.takeWhile fun m => decide (l.indent < m.indent)

def outer (l : BlockLine) (ls : List BlockLine) : List BlockLine :=
  ls.dropWhile fun m => decide (l.indent < m.indent)

theorem length_inner_le (l : BlockLine) (ls : List BlockLine) :
    (l.inner ls).length ≤ ls.length :=
  (List.takeWhile_prefix _).length_le

theorem length_outer_le (l : BlockLine) (ls : List BlockLine) :
    (l.outer ls).length ≤ ls.length :=
  (List.dropWhile_suffix _).length_le

end BlockLine

/-- The properties that lines of a block make, with the lines within a line as its block. -/
def properties : List BlockLine → Except Error (List Property)
  | [] => .ok []
  | l :: ls => do
    have := l.length_inner_le ls
    have := l.length_outer_le ls
    let value ← match l.inner ls with
      | [] => pure l.value
      | first :: _ =>
        if l.value.isBare then .block <$> properties (l.inner ls)
        else first.fail .indentUnderValue
    if let next :: _ := l.outer ls then
      if next.indent ≠ l.indent then next.fail .inconsistentDedent
    return .mk l.number l.key value :: (← properties (l.outer ls))
termination_by ls => ls.length
decreasing_by all_goals (simp only [List.length_cons]; omega)

end LayeredSchema.Ocafile
