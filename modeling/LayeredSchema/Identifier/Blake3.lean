/-!
The hash function BLAKE3 with an output of 256 bits.

A message is cut into chunks of 1024 bytes and each chunk into blocks of 64. Blocks of a chunk are
compressed one after the other; the chunks are the leaves of a binary tree, which is built level by
level from adjacent pairs, a last node without a partner moving up as it is.
-/

namespace LayeredSchema.Blake3

structure Row where
  w₀ : UInt32
  w₁ : UInt32
  w₂ : UInt32
  w₃ : UInt32

/-- Sixteen words, row by row: the state of a compression, or a block of a message. -/
structure Matrix where
  a : Row
  b : Row
  c : Row
  d : Row

/-- The eight words that one compression hands to the next. -/
abbrev Chaining := Row × Row

def initial : Chaining :=
  (⟨0x6a09e667, 0xbb67ae85, 0x3c6ef372, 0xa54ff53a⟩,
    ⟨0x510e527f, 0x9b05688c, 0x1f83d9ab, 0x5be0cd19⟩)

def chunkStart : UInt32 := 1
def chunkEnd : UInt32 := 2
def parentNode : UInt32 := 4
def rootNode : UInt32 := 8

def rotateRight (x k : UInt32) : UInt32 := (x >>> k) ||| (x <<< (32 - k))

def mix (a b c d x y : UInt32) : UInt32 × UInt32 × UInt32 × UInt32 :=
  let a₁ := a + b + x
  let d₁ := rotateRight (d ^^^ a₁) 16
  let c₁ := c + d₁
  let b₁ := rotateRight (b ^^^ c₁) 12
  let a₂ := a₁ + b₁ + y
  let d₂ := rotateRight (d₁ ^^^ a₂) 8
  let c₂ := c₁ + d₂
  let b₂ := rotateRight (b₁ ^^^ c₂) 7
  (a₂, b₂, c₂, d₂)

namespace Row

def turn (r : Row) : Row := ⟨r.w₁, r.w₂, r.w₃, r.w₀⟩

def xor (r s : Row) : Row := ⟨r.w₀ ^^^ s.w₀, r.w₁ ^^^ s.w₁, r.w₂ ^^^ s.w₂, r.w₃ ^^^ s.w₃⟩

def words (r : Row) : List UInt32 := [r.w₀, r.w₁, r.w₂, r.w₃]

def ofWords (ws : List UInt32) : Row := ⟨ws.getD 0 0, ws.getD 1 0, ws.getD 2 0, ws.getD 3 0⟩

end Row

namespace Matrix

/-- Mixes each column with two words of a message, eight in all. -/
def mixColumns (s : Matrix) (m n : Row) : Matrix :=
  let (a₀, b₀, c₀, d₀) := mix s.a.w₀ s.b.w₀ s.c.w₀ s.d.w₀ m.w₀ m.w₁
  let (a₁, b₁, c₁, d₁) := mix s.a.w₁ s.b.w₁ s.c.w₁ s.d.w₁ m.w₂ m.w₃
  let (a₂, b₂, c₂, d₂) := mix s.a.w₂ s.b.w₂ s.c.w₂ s.d.w₂ n.w₀ n.w₁
  let (a₃, b₃, c₃, d₃) := mix s.a.w₃ s.b.w₃ s.c.w₃ s.d.w₃ n.w₂ n.w₃
  ⟨⟨a₀, a₁, a₂, a₃⟩, ⟨b₀, b₁, b₂, b₃⟩, ⟨c₀, c₁, c₂, c₃⟩, ⟨d₀, d₁, d₂, d₃⟩⟩

/-- Turns the rows so that the diagonals become the columns. -/
def slant (s : Matrix) : Matrix := ⟨s.a, s.b.turn, s.c.turn.turn, s.d.turn.turn.turn⟩

def unslant (s : Matrix) : Matrix := ⟨s.a, s.b.turn.turn.turn, s.c.turn.turn, s.d.turn⟩

def round (s m : Matrix) : Matrix :=
  ((s.mixColumns m.a m.b).slant.mixColumns m.c m.d).unslant

def permute (m : Matrix) : Matrix :=
  ⟨⟨m.a.w₂, m.b.w₂, m.a.w₃, m.c.w₂⟩, ⟨m.b.w₃, m.a.w₀, m.b.w₀, m.d.w₁⟩,
    ⟨m.a.w₁, m.c.w₃, m.d.w₀, m.b.w₁⟩, ⟨m.c.w₁, m.d.w₂, m.d.w₃, m.c.w₀⟩⟩

def rounds : Nat → Matrix → Matrix → Matrix
  | 0, s, _ => s
  | n + 1, s, m => rounds n (s.round m) m.permute

end Matrix

structure Node where
  chaining : Chaining
  block : Matrix
  counter : Nat
  blockLength : Nat
  flags : UInt32

def Node.compress (n : Node) (extraFlags : UInt32) : Chaining :=
  let last : Row :=
    ⟨UInt32.ofNat n.counter, UInt32.ofNat (n.counter >>> 32), UInt32.ofNat n.blockLength,
      n.flags ||| extraFlags⟩
  let t := Matrix.rounds 7 ⟨n.chaining.1, n.chaining.2, initial.1, last⟩ n.block
  (t.a.xor t.c, t.b.xor t.d)

/-- The words of a row of bytes, the low byte of each first; a last incomplete word is filled up
with zeros. -/
def words : List UInt8 → List UInt32
  | [] => []
  | a :: b :: c :: d :: rest =>
    (a.toUInt32 ||| b.toUInt32 <<< 8 ||| c.toUInt32 <<< 16 ||| d.toUInt32 <<< 24) :: words rest
  | [a] => [a.toUInt32]
  | [a, b] => [a.toUInt32 ||| b.toUInt32 <<< 8]
  | [a, b, c] => [a.toUInt32 ||| b.toUInt32 <<< 8 ||| c.toUInt32 <<< 16]

/-- The block of at most 64 bytes, filled up with zeros. -/
def blockOf (bytes : List UInt8) : Matrix :=
  let ws := words bytes
  ⟨.ofWords ws, .ofWords (ws.drop 4), .ofWords (ws.drop 8), .ofWords (ws.drop 12)⟩

/-- Cuts a list into pieces of `size`, at most `fuel` of them; the empty list is one empty piece. -/
def cut {α : Type} (size : Nat) : Nat → List α → List (List α)
  | 0, xs => [xs]
  | fuel + 1, xs =>
    if xs.length ≤ size then [xs] else xs.take size :: cut size fuel (xs.drop size)

/-- Compresses the blocks of a chunk but the last, which is left to the caller. -/
def chunkBlocks (index : Nat) : Chaining → UInt32 → List (List UInt8) → Node
  | cv, start, [] => ⟨cv, blockOf [], index, 0, start ||| chunkEnd⟩
  | cv, start, [b] => ⟨cv, blockOf b, index, b.length, start ||| chunkEnd⟩
  | cv, start, b :: bs =>
    chunkBlocks index (Node.compress ⟨cv, blockOf b, index, b.length, start⟩ 0) 0 bs

def chunk (index : Nat) (bytes : List UInt8) : Node :=
  chunkBlocks index initial chunkStart (cut 64 16 bytes)

def parent (left right : Node) : Node :=
  let (a, b) := left.compress 0
  let (c, d) := right.compress 0
  ⟨initial, ⟨a, b, c, d⟩, 0, 64, parentNode⟩

def pairNodes : List Node → List Node
  | left :: right :: rest => parent left right :: pairNodes rest
  | nodes => nodes

/-- The root above the nodes of a level, after at most `fuel` levels more. -/
def root : Nat → Node → List Node → Node
  | _, n, [] => n
  | 0, n, _ => n
  | fuel + 1, n, nodes =>
    match pairNodes (n :: nodes) with
    | [] => n
    | m :: ms => root fuel m ms

def chunks (message : List UInt8) : List Node :=
  (cut 1024 message.length message).mapIdx chunk

def wordBytes (w : UInt32) : List UInt8 :=
  [w.toUInt8, (w >>> 8).toUInt8, (w >>> 16).toUInt8, (w >>> 24).toUInt8]

/-- The hash of a message, 32 bytes. -/
def hash (message : List UInt8) : List UInt8 :=
  let top :=
    match chunks message with
    | [] => chunk 0 []
    | n :: ns => root ns.length n ns
  let (low, high) := top.compress rootNode
  (low.words ++ high.words).flatMap wordBytes

theorem length_flatMap_wordBytes (ws : List UInt32) :
    (ws.flatMap wordBytes).length = 4 * ws.length := by
  induction ws with
  | nil => rfl
  | cons w ws ih => simp [wordBytes, List.flatMap_cons] at ih ⊢; omega

theorem length_hash (message : List UInt8) : (hash message).length = 32 := by
  rw [hash, length_flatMap_wordBytes]
  rfl

end LayeredSchema.Blake3
