/-!
In a pattern for keys a star stands for any run of bytes, a question mark for one byte, brackets for one
byte of a set, and a backslash takes away the meaning of what follows it.
-/

set_option autoImplicit false

namespace StickyRouting.Server

inductive Glob where
  | run
  | one
  | byte (value : UInt8)
  | oneOf (negated : Bool) (ranges : List (UInt8 × UInt8))
  deriving Repr, DecidableEq

namespace Glob

def ranges : List UInt8 → List (UInt8 × UInt8) × List UInt8
  | [] => ([], [])
  | 0x5D :: rest => ([], rest)
  | 0x5C :: value :: rest =>
    let (more, rest) := ranges rest
    ((value, value) :: more, rest)
  | low :: 0x2D :: high :: rest =>
    let (more, rest) := ranges rest
    ((min low high, max low high) :: more, rest)
  | value :: rest =>
    let (more, rest) := ranges rest
    ((value, value) :: more, rest)

def parseUpTo : Nat → List UInt8 → List Glob
  | 0, _ => []
  | _, [] => []
  | fuel + 1, 0x2A :: rest => run :: parseUpTo fuel rest
  | fuel + 1, 0x3F :: rest => one :: parseUpTo fuel rest
  | fuel + 1, 0x5B :: 0x5E :: rest =>
    let (set, rest) := ranges rest
    oneOf true set :: parseUpTo fuel rest
  | fuel + 1, 0x5B :: rest =>
    let (set, rest) := ranges rest
    oneOf false set :: parseUpTo fuel rest
  | fuel + 1, 0x5C :: value :: rest => byte value :: parseUpTo fuel rest
  | fuel + 1, value :: rest => byte value :: parseUpTo fuel rest

def parse (pattern : List UInt8) : List Glob := parseUpTo pattern.length pattern

def admits (place : Glob) (value : UInt8) : Bool :=
  match place with
  | run => true
  | one => true
  | byte wanted => wanted == value
  | oneOf negated set => (set.any fun r => r.1 ≤ value && value ≤ r.2) != negated

def isMatch : List Glob → List UInt8 → Bool
  | [], bytes => bytes.isEmpty
  | run :: places, [] => isMatch places []
  | run :: places, value :: bytes => isMatch places (value :: bytes) || isMatch (run :: places) bytes
  | _ :: _, [] => false
  | place :: places, value :: bytes => place.admits value && isMatch places bytes
termination_by places bytes => places.length + bytes.length

end Glob

end StickyRouting.Server
