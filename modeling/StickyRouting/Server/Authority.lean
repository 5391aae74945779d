import StickyRouting.Text.Blank
import StickyRouting.Text.Percent

set_option autoImplicit false

namespace StickyRouting.Server

structure Authority where
  host : List Char
  port : Option Nat
  deriving Repr, DecidableEq

namespace Authority

def isSound (credentials : List Char) : Bool :=
  let user := credentials.takeWhile (· != ':')
  let password := credentials.drop (user.length + 1)
  (Text.Utf8.text? (Text.Percent.decode user)).isSome &&
    (Text.Utf8.text? (Text.Percent.decode password)).isSome

def hostPart : Bool → List Char → List Char
  | _, [] => []
  | inBrackets, c :: rest =>
    if c == ':' && !inBrackets then []
    else c :: hostPart (if c == '[' then true else if c == ']' then false else inBrackets) rest

def isHostChar (c : Char) : Bool := !"\x00 #/:<>?[@\\]^|".toList.contains c

def isByteNumeral (text : List Char) : Bool :=
  (Text.Numeral.digits? text).any (· ≤ 255) && (text.length == 1 || text.head? != some '0')

def isFourBytes (text : List Char) : Bool :=
  let parts := text.splitOn '.'
  parts.length == 4 && parts.all isByteNumeral

def isGroup (text : List Char) : Bool :=
  !text.isEmpty && text.length ≤ 4 && text.all fun c => (Text.Numeral.hexDigit? c).isSome

/-- How many groups of sixteen bits a text has, the last two perhaps as four bytes. -/
def groupCount? : List (List Char) → Option Nat
  | [] => some 0
  | [last] => if isGroup last then some 1 else if isFourBytes last then some 2 else none
  | group :: rest => if isGroup group then (groupCount? rest).map (· + 1) else none

def groups (text : List Char) : List (List Char) := if text.isEmpty then [] else text.splitOn ':'

def cutAtGap : List Char → Option (List Char × List Char)
  | ':' :: ':' :: rest => some ([], rest)
  | c :: rest => (cutAtGap rest).map fun (before, after) => (c :: before, after)
  | [] => none

def isEightGroups (text : List Char) : Bool :=
  match cutAtGap text with
  | none => groupCount? (groups text) == some 8
  | some (before, after) =>
    (groups before).all isGroup &&
      (groupCount? (groups after)).any fun count => (groups before).length + count ≤ 7

def isHost : List Char → Bool
  | '[' :: rest => rest.getLast? == some ']' && isEightGroups rest.dropLast
  | name => name.all isHostChar

def unbracketed (host : List Char) : List Char := host.filter fun c => c != '[' && c != ']'

def isNumeric (host : String) : Bool :=
  isFourBytes host.toList || isEightGroups host.toList || Text.lowerAscii host = "localhost"

/-- The port of a host, after its colon, and what follows it. Without digits it is left open. A backslash
ends the port; the path begins there. -/
def port? : List Char → Option (Option Nat × List Char)
  | [] => some (none, [])
  | ':' :: text => do
    let digits := text.takeWhile (· != '\\')
    let rest := text.drop digits.length
    if digits.isEmpty then some (none, rest)
    else ((Text.Numeral.digits? digits).filter (· ≤ 65535)).map fun port => (some port, rest)
  | _ => none

/-- Host and port, and what of the path stands right behind them. The host may be missing only if
nothing else is there, the marks of an empty user and password apart. -/
def read? (text : List Char) : Option (Authority × List Char) := do
  let place := (text.reverse.takeWhile (· != '@')).reverse
  let credentials := text.take (text.length - place.length - 1)
  let host := hostPart false place
  let (port, rest) ← port? (place.drop host.length)
  if !isHost host || !isSound credentials then none
  else if host.isEmpty && !text.isEmpty && text != [':', '@'] then none
  else some (⟨host, port⟩, rest)

end Authority

end StickyRouting.Server
