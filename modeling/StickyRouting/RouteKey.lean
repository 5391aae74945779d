import StickyRouting.RouteError

/-!
A key names a namespace, a partition and an object, as `r_namespace_{partition}_{object}`; the four
characters that give a key its shape are escaped inside the two names.
-/

set_option autoImplicit false

namespace StickyRouting

structure RouteKey where
  space : String
  partition : String
  objectId : Int64
  deriving Repr, DecidableEq

namespace RouteKey

def escapeChar : Char → List Char
  | '%' => ['%', '2', '5']
  | '_' => ['%', '5', 'F']
  | '{' => ['%', '7', 'B']
  | '}' => ['%', '7', 'D']
  | c => [c]

def escape (text : List Char) : List Char := text.flatMap escapeChar

/-- Undo `escape`. Braces and escapes of other characters are refused. -/
def unescape? : List Char → Option (List Char)
  | [] => some []
  | '%' :: '2' :: '5' :: rest => (unescape? rest).map ('%' :: ·)
  | '%' :: '5' :: 'F' :: rest => (unescape? rest).map ('_' :: ·)
  | '%' :: '7' :: 'B' :: rest => (unescape? rest).map ('{' :: ·)
  | '%' :: '7' :: 'D' :: rest => (unescape? rest).map ('}' :: ·)
  | c :: rest =>
    if c = '%' ∨ c = '{' ∨ c = '}' then none else (unescape? rest).map (c :: ·)

def braced (text : List Char) : List Char := '{' :: text ++ ['}']

def unbraced? : List Char → Option (List Char)
  | '{' :: rest => if rest.getLast? = some '}' then some rest.dropLast else none
  | _ => none

def encodeChars (key : RouteKey) : List Char :=
  'r' :: '_' :: escape key.space.toList ++ '_' :: braced (escape key.partition.toList) ++
    '_' :: braced (Text.Numeral.writeInt key.objectId.toInt)

def encode (key : RouteKey) : String := String.ofList key.encodeChars

def decodeChars? (text : List Char) : Option RouteKey :=
  match text.splitOn '_' with
  | [['r'], space, partition, object] => do
    let partition ← unbraced? partition
    let object ← unbraced? object
    let objectId ← Text.Numeral.int64? object
    let space ← unescape? space
    let partition ← unescape? partition
    some ⟨String.ofList space, String.ofList partition, objectId⟩
  | _ => none

/-- The key that a text spells. The object may have a plus sign and leading zeros. -/
def decode? (text : String) : Option RouteKey := decodeChars? text.toList

def parse (text : String) : Except RouteError RouteKey :=
  match decode? text with
  | some key => .ok key
  | none => .error (.invalidKey text)

end RouteKey

end StickyRouting
