import LayeredSchema.Identifier.Blake3
import LayeredSchema.Identifier.Hex

/-!
Self-addressing identifiers: the content addresses of capture bases, overlays and bundles.

An identifier is written as one letter for the hash algorithm and the digest in hexadecimal. Main
definitions: `Said.compute`, `Said.text`, `Said.parse`.
-/

namespace LayeredSchema

open Text

inductive Algorithm
  | blake3
  deriving DecidableEq, Repr

namespace Algorithm

def all : List Algorithm := [.blake3]

def code : Algorithm → Char
  | .blake3 => 'E'

def ofCode? (c : Char) : Option Algorithm := all.find? (·.code == c)

def name : Algorithm → String
  | .blake3 => "blake3-256"

/-- The number of bytes in a digest. -/
def digestLength : Algorithm → Nat
  | .blake3 => 32

def hash : Algorithm → List UInt8 → List UInt8
  | .blake3 => Blake3.hash

theorem length_hash (a : Algorithm) (message : List UInt8) :
    (a.hash message).length = a.digestLength := by
  cases a; exact Blake3.length_hash message

end Algorithm

structure Said where
  algorithm : Algorithm
  bytes : List UInt8
  length_bytes : bytes.length = algorithm.digestLength
  deriving DecidableEq

inductive SaidError
  | empty
  | unknownAlgorithm (code : Char)
  | notHex (text : String) (fault : Hex.Fault)
  | wrongLength (text : String) (expected found : Nat)
  deriving DecidableEq, Repr

def SaidError.message : SaidError → String
  | .empty => "malformed digest: empty identifier"
  | .unknownAlgorithm c => s!"unknown digest algorithm code: {quotedChar c}"
  | .notHex text fault => s!"malformed digest: {quoted text}: {fault.message}"
  | .wrongLength text expected found =>
    s!"malformed digest: {quoted text}: expected {expected} digest bytes, got {found}"

namespace Said

/-- The address of `data` in the address space of `domain`. -/
def compute (domain data : List UInt8) : Said :=
  ⟨.blake3, Algorithm.blake3.hash (domain ++ data), Algorithm.length_hash _ _⟩

def hex (s : Said) : String := String.ofList (Hex.encode s.bytes)

def text (s : Said) : String := String.ofList (s.algorithm.code :: Hex.encode s.bytes)

/-- A short form for messages: the algorithm and the first eight bytes. -/
def brief (s : Said) : String :=
  "Said(" ++ String.ofList (s.algorithm.code :: (Hex.encode s.bytes).take 16) ++ ")"

/-- Reads an identifier; the digits may be of either case. -/
def parse (t : String) : Except SaidError Said :=
  match t.toList with
  | [] => .error .empty
  | code :: digits =>
    match Algorithm.ofCode? code with
    | none => .error (.unknownAlgorithm code)
    | some a =>
      match Hex.decode digits with
      | .error fault => .error (.notHex t fault)
      | .ok bytes =>
        if h : bytes.length = a.digestLength then .ok ⟨a, bytes, h⟩
        else .error (.wrongLength t a.digestLength bytes.length)

end Said

end LayeredSchema
