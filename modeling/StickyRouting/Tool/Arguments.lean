import StickyRouting.Text.Numeral

set_option autoImplicit false

namespace StickyRouting.Tool

inductive Stop where
  | usage
  | help
  | version
  deriving Repr, DecidableEq

structure Switch where
  long : String
  short : Option Char := none
  takesValue : Bool := true
  deriving Repr, DecidableEq

inductive PlaceKind where
  | text
  | objectId
  deriving Repr, DecidableEq

structure Shape where
  switches : List Switch
  places : List PlaceKind
  deriving Repr, DecidableEq

structure Given where
  values : List (String × String) := []
  places : List String := []
  deriving Repr, DecidableEq

def Given.value? (given : Given) (long : String) : Option String := given.values.lookup long

def Given.has (given : Given) (long : String) : Bool := (given.value? long).isSome

inductive Word where
  | place
  | negative
  | verbatim
  | switch (switch : Switch) (value : Option String)
  | stop (cause : Stop)
  deriving Repr, DecidableEq

def isNumber (text : List Char) : Bool :=
  let digit (c : Char) := (Text.Numeral.digit? c).isSome
  let rest := text.dropWhile digit
  let fraction := match rest with
    | '.' :: more => if text.length = rest.length then rest else more.dropWhile digit
    | _ => rest
  match fraction with
  | [] => true
  | c :: exponent =>
    (c == 'e' || c == 'E') && text.length != fraction.length && !exponent.isEmpty &&
      exponent.all digit

def allowsNegative (shape : Shape) (given : Given) : Bool :=
  shape.places[given.places.length]? == some .objectId

def classifyLong (shape : Shape) (text : List Char) : Word :=
  let name := String.ofList (text.takeWhile (· != '='))
  let value := match text.dropWhile (· != '=') with
    | [] => none
    | _ :: value => some (String.ofList value)
  match shape.switches.find? (·.long == name), name with
  | some switch, _ =>
    if !switch.takesValue && value.isSome then .stop .usage else .switch switch value
  | none, "help" => if value.isSome then .stop .usage else .stop .help
  | none, "version" => if value.isSome then .stop .usage else .stop .version
  | none, _ => .stop .usage

def classifyShort (shape : Shape) (c : Char) (rest : List Char) : Word :=
  let attached := match rest with
    | [] => none
    | '=' :: value => some (String.ofList value)
    | value => some (String.ofList value)
  match shape.switches.find? (·.short == some c), c with
  | some switch, _ => .switch switch attached
  | none, 'h' => .stop .help
  | none, 'V' => .stop .version
  | none, _ => .stop .usage

def classify (shape : Shape) (given : Given) (word : String) : Word :=
  match word.toList with
  | ['-', '-'] => .verbatim
  | '-' :: '-' :: rest => classifyLong shape rest
  | '-' :: c :: rest =>
    if allowsNegative shape given && isNumber (c :: rest) then .negative
    else classifyShort shape c rest
  | _ => .place

def isObjectId (text : String) : Bool := (Text.Numeral.int64? text.toList).isSome

def Given.addPlace (given : Given) (shape : Shape) (word : String) : Except Stop Given :=
  match shape.places[given.places.length]? with
  | none => .error .usage
  | some kind =>
    if kind == .objectId && !isObjectId word then .error .usage
    else .ok { given with places := given.places ++ [word] }

def Given.addValue (given : Given) (long value : String) : Except Stop Given :=
  if given.has long then .error .usage
  else .ok { given with values := given.values ++ [(long, value)] }

inductive Pending where
  | nothing
  | switch (long : String)
  | value (long text : String)
  deriving Repr, DecidableEq

def Pending.settle (given : Given) : Pending → Except Stop Given
  | nothing => .ok given
  | switch _ => .error .usage
  | value long text => given.addValue long text

/-- Read words up to the end, or up to the first place if that is where to stop. A switch without its
value takes the next word for it. -/
def gather (shape : Shape) (stopAtPlace : Bool) :
    Pending → Given → List String → Except Stop (Given × Pending × List String)
  | pending, given, [] => .ok (given, pending, [])
  | .switch long, given, word :: rest =>
    match classify shape given word with
    | .place => gather shape stopAtPlace (.value long word) given rest
    | .negative => gather shape stopAtPlace (.value long word) given rest
    | _ => .error .usage
  | pending, given, word :: rest =>
    if stopAtPlace && classify shape given word == .place then .ok (given, pending, word :: rest)
    else
      (pending.settle given).bind fun given =>
        match classify shape given word with
        | .place =>
          (given.addPlace shape word).bind fun given => gather shape stopAtPlace .nothing given rest
        | .negative =>
          (given.addPlace shape word).bind fun given => gather shape stopAtPlace .nothing given rest
        | .verbatim =>
          if stopAtPlace then .error .usage
          else
            (rest.foldlM (fun given word => Given.addPlace given shape word) given).map
              (·, .nothing, [])
        | .switch switch (some value) =>
          (given.addValue switch.long value).bind fun given =>
            gather shape stopAtPlace .nothing given rest
        | .switch switch none =>
          if switch.takesValue then gather shape stopAtPlace (.switch switch.long) given rest
          else
            (given.addValue switch.long "").bind fun given =>
              gather shape stopAtPlace .nothing given rest
        | .stop cause => .error cause

end StickyRouting.Tool
