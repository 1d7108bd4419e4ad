import Std.Data.HashMap
import LayeredSchema.Pattern.Layout
import LayeredSchema.Pattern.Utf8

/-!
How much room the machines of a pattern take.

A pattern is run by two machines that read bytes, one forwards and one backwards. Repetitions are
written out, and a set is a small machine over the encodings of its characters. States of such a
machine that are alike are kept once as long as a table of fixed size remembers them: a state that
falls on the place of another replaces it. Main definition: `Layout.fits`.
-/

namespace LayeredSchema.Pattern

/-- The room that a machine takes: its states, and the bytes of what hangs on them. -/
structure Footprint where
  states : Nat := 0
  attached : Nat := 0
  deriving DecidableEq, Repr

namespace Footprint

def bytesOfState : Nat := 32

/-- A transition on a range of bytes, in a state that has several. -/
def bytesOfTransition : Nat := 8

/-- A link to another state that takes no byte, in a state that has several. -/
def bytesOfLink : Nat := 4

def bytes (f : Footprint) : Nat := bytesOfState * f.states + f.attached

def limit : Nat := 10 <<< 20

end Footprint

/-- How a machine grows when something is added to it; none when it gets too large. -/
structure Growth where
  run : Footprint → Option Footprint

namespace Growth

def within (f : Footprint) : Option Footprint := if f.bytes ≤ Footprint.limit then some f else none

def add (states transitions links : Nat) : Growth :=
  ⟨fun f => within ⟨f.states + states,
    f.attached + transitions * Footprint.bytesOfTransition + links * Footprint.bytesOfLink⟩⟩

def append (g h : Growth) : Growth := ⟨fun f => (g.run f).bind h.run⟩

instance : Append Growth := ⟨append⟩

def all (gs : List Growth) : Growth := ⟨fun f => gs.foldlM (fun f g => g.run f) f⟩

def iterate (run : Footprint → Option Footprint) : Nat → Footprint → Option Footprint
  | 0, f => some f
  | n + 1, f =>
    match run f with
    | some f => iterate run n f
    | none => none

def times (n : Nat) (g : Growth) : Growth := ⟨iterate g.run n⟩

end Growth

def placeIn (places : Nat) (ns : List Nat) : Nat :=
  (ns.foldl (fun h n => (h ^^^ UInt64.ofNat n) * 1099511628211) 14695981039346656037).toNat % places

/-! ### Sets, forwards -/

structure Transition where
  range : ByteRange
  next : Nat
  deriving DecidableEq

/-- A machine for a set that is being made from its last states to its first. -/
structure Sharing where
  size : Footprint
  known : Std.HashMap Nat (List Transition × Nat) := ∅

namespace Sharing

def places : Nat := 10000

/-- The number of a state with the transitions given, which is added if it is not known. -/
def state (s : Sharing) (ts : List Transition) : Nat × Sharing :=
  let place := placeIn places
    (ts.flatMap fun t => [t.range.first.toNat, t.range.last.toNat, t.next])
  let fresh : Nat × Sharing :=
    (s.size.states, {
      size := ⟨s.size.states + 1, s.size.attached + ts.length * Footprint.bytesOfTransition⟩
      known := s.known.insert place (ts, s.size.states) })
  match s.known.get? place with
  | some (ts', number) => if ts' = ts then (number, s) else fresh
  | none => fresh

/-- Sequences by the ranges they start with. Equal ranges in a row count once. -/
def byHead : List (List ByteRange) → List (ByteRange × List (List ByteRange))
  | [] => []
  | [] :: seqs => byHead seqs
  | (r :: rest) :: seqs =>
    match byHead seqs with
    | (r', rests) :: groups =>
      if r = r' then (r, rest :: rests) :: groups else (r, [rest]) :: (r', rests) :: groups
    | [] => [(r, [rest])]

/-- The number of the state in which sequences of at most the length given start, all of which end
in the state `last`. -/
def start (last : Nat) : (length : Nat) → List (List ByteRange) → Sharing → Nat × Sharing
  | 0, _, s => (last, s)
  | n + 1, seqs, s =>
    match byHead seqs with
    | [] => (last, s)
    | groups =>
      let (ts, s) := groups.foldl (fun (ts, s) (r, rests) =>
        let (next, s) := start last n rests s
        (⟨r, next⟩ :: ts, s)) ([], s)
      s.state ts.reverse

/-- A set of which no encoding is longer than four bytes. -/
def ofSequences (seqs : List (List ByteRange)) (f : Footprint) : Footprint :=
  (start f.states 4 seqs ⟨⟨f.states + 1, f.attached⟩, ∅⟩).2.size

end Sharing

/-! ### Sets, backwards -/

/-- A machine for a set that is being made from the first bytes of its characters on. All states
lead to one end, and one state links to those in which characters start backwards. -/
structure Chaining where
  size : Footprint
  known : Std.HashMap Nat ((Nat × ByteRange) × Nat) := ∅

namespace Chaining

def places : Nat := 1000

/-- The number of the state that takes a range and leads to the state of a number. -/
def state (s : Chaining) (next : Nat) (r : ByteRange) : Nat × Chaining :=
  let place := placeIn places [next, r.first.toNat, r.last.toNat]
  let fresh : Nat × Chaining :=
    (s.size.states, {
      size := ⟨s.size.states + 1, s.size.attached⟩
      known := s.known.insert place ((next, r), s.size.states) })
  match s.known.get? place with
  | some (key, number) => if key = (next, r) then (number, s) else fresh
  | none => fresh

/-- Adds one sequence that leads to the state `last`. -/
def sequence (last : Nat) (s : Chaining) (rs : List ByteRange) : Chaining :=
  let s := (rs.foldl (fun (next, s) r => s.state next r) (last, s)).2
  { s with size := ⟨s.size.states, s.size.attached + Footprint.bytesOfLink⟩ }

def ofSequences (seqs : List (List ByteRange)) (f : Footprint) : Footprint :=
  (seqs.foldl (sequence (f.states + 1)) ⟨⟨f.states + 2, f.attached⟩, ∅⟩).size

end Chaining

/-! ### Choices between texts -/

/-- The texts before the first that is empty, and those after it. -/
def untilEmpty : List (List UInt8) → List (List UInt8) × Option (List (List UInt8))
  | [] => ([], none)
  | [] :: ts => ([], some ts)
  | t :: ts =>
    let (before, after) := untilEmpty ts
    (t :: before, after)

/-- The groups of texts between those that are empty. Of several empty ones at the start only one
counts. -/
def betweenEmpty (ts : List (List UInt8)) : List (List (List UInt8)) :=
  let rec groups : Nat → List (List UInt8) → List (List (List UInt8))
    | 0, ts => [ts]
    | n + 1, ts =>
      match untilEmpty ts with
      | (before, some after) => before :: groups n after
      | (before, none) => [before]
  match ts with
  | [] :: rest => [] :: groups rest.length (rest.dropWhile List.isEmpty)
  | ts => groups ts.length ts

/-- The bytes that texts start with, each once. -/
def firstBytes (ts : List (List UInt8)) : List UInt8 :=
  ts.foldl (fun bs t =>
    match t with
    | b :: _ => if bs.contains b then bs else bs ++ [b]
    | [] => bs) []

/-- What is left of the texts that start with a byte. -/
def restsAfter (b : UInt8) (ts : List (List UInt8)) : List (List UInt8) :=
  ts.filterMap fun t =>
    match t with
    | c :: rest => if c = b then some rest else none
    | [] => none

/-- The states of a machine that tells texts of at most the length given apart by their bytes, in
the order in which the texts are preferred. Texts that are all empty take none. -/
def Growth.ofTexts : (length : Nat) → List (List UInt8) → Growth
  | 0, _ => .add 0 0 0
  | n + 1, ts =>
    if ts.all List.isEmpty then .add 0 0 0
    else
      let groups := betweenEmpty ts
      let taken := groups.filter (!·.isEmpty)
      let inner := taken.map fun g =>
        let bytes := firstBytes g
        .all (bytes.map fun b => ofTexts n (restsAfter b g)) ++
          .add 1 (if bytes.length = 1 then 0 else bytes.length) 0
      .all inner ++ .add 1 0 (taken.length + (groups.length - 1))

/-! ### Layouts -/

inductive Direction
  | forwards
  | backwards
  deriving DecidableEq, Repr

namespace Direction

def order {α : Type} (d : Direction) (as : List α) : List α :=
  match d with
  | .forwards => as
  | .backwards => as.reverse

def ofSet (d : Direction) (s : CharSet) : Growth :=
  if s.isAscii then .add 2 s.intervals.length 0
  else
    let seqs := s.sequences
    match d with
    | .forwards => ⟨fun f => Growth.within (Sharing.ofSequences seqs f)⟩
    | .backwards => ⟨fun f => Growth.within (Chaining.ofSequences seqs f)⟩

def text? : Layout → Option (List UInt8)
  | .bytes bs => some bs
  | _ => none

/-- A choice between the branches that the growths given stand for. The state that links to the
branches and the one in which they meet come after the first two. -/
def ofBranches : List Growth → Growth
  | g :: h :: rest => g ++ h ++ .add 2 0 (rest.length + 2) ++ .all rest
  | gs => .all gs

/-- A repetition of what `body` stands for. -/
def ofRepetition (body : Growth) (takesText : Bool) (least : Nat) (most : Option Nat) : Growth :=
  match least, most with
  | 0, some 1 => .add 1 0 2 ++ body ++ .add 1 0 0
  | 0, none => if takesText then .add 1 0 2 ++ body else body ++ .add 3 0 4
  | least, none => body.times least ++ .add 1 0 2
  | least, some most =>
    let fixed := if least = 0 then .add 1 0 0 else body.times least
    if least = most then fixed
    else fixed ++ .add 1 0 0 ++ (Growth.add 1 0 2 ++ body).times (most - least)

mutual

/-- The states of a layout. Groups are only kept forwards. -/
def growth (d : Direction) : Layout → Growth
  | .empty | .look _ => .add 1 0 0
  | .bytes bs => .add bs.length 0 0
  | .chars s => d.ofSet s
  | .group _ l =>
    match d with
    | .forwards => .add 1 0 0 ++ growth d l ++ .add 1 0 0
    | .backwards => growth d l
  | .rep l least most _ => ofRepetition (growth d l) l.takesText least most
  | .seq ls => .all (d.order (growths d ls))
  | .alt ls =>
    match ls.mapM text? with
    | some ts =>
      .add 1 0 0 ++ .ofTexts (ts.foldl (fun n t => max n t.length) 0) (ts.map d.order)
    | none => ofBranches (growths d ls)

def growths (d : Direction) : List Layout → List Growth
  | [] => []
  | l :: ls => growth d l :: growths d ls

end

/-- What comes before the states of a pattern: the search for a place where a match can start,
unless there is only one. -/
def search (d : Direction) (l : Layout) : Growth :=
  let isAnchored := match d with
    | .forwards => l.startsText
    | .backwards => l.endsText
  if isAnchored then .add 1 0 0 else .add 3 1 2

/-- The machine of a whole pattern. Forwards it captures the match. -/
def machine (d : Direction) (l : Layout) : Growth :=
  d.search l ++ growth d (.group 0 l) ++ .add 1 0 0

end Direction

def Layout.fits (l : Layout) : Bool :=
  [Direction.forwards, .backwards].all fun d => ((d.machine l).run {}).isSome

end LayeredSchema.Pattern
