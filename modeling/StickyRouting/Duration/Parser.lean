import StickyRouting.Duration
import StickyRouting.Text.Blank
import StickyRouting.Text.Quoted

set_option autoImplicit false

namespace StickyRouting.Duration

structure Invalid where
  text : String
  deriving Repr, DecidableEq

def Invalid.message (e : Invalid) : String := "invalid duration: " ++ Text.quoted e.text

inductive Scale where
  | millis
  | secs
  | minutes
  | hours
  deriving Repr, DecidableEq

namespace Scale

def suffix : Scale → List Char
  | millis => ['m', 's']
  | secs => ['s']
  | minutes => ['m']
  | hours => ['h']

def nanos : Scale → Nat
  | millis => 1_000_000
  | secs => 1_000_000_000
  | minutes => 60 * 1_000_000_000
  | hours => 3600 * 1_000_000_000

/-- The counts that a unit can be given in: those whose seconds, or milliseconds, fit 64 bits. -/
def limit : Scale → Nat
  | millis => Text.Numeral.word64
  | secs => Text.Numeral.word64
  | minutes => Text.Numeral.word64 / 60
  | hours => Text.Numeral.word64 / 3600

def all : List Scale := [millis, secs, minutes, hours]

end Scale

def before? (suffix text : List Char) : Option (List Char) :=
  (suffix.reverse.isPrefixOf? text.reverse).map List.reverse

def splitScale (text : List Char) : List Char × Scale :=
  let cut := Scale.all.findSome? fun scale => (before? scale.suffix text).map fun n => (n, scale)
  cut.getD (text, .secs)

def parse? (text : List Char) : Option Duration :=
  let (count, scale) := splitScale text
  (Text.Numeral.bounded? scale.limit count).map fun n => ⟨n * scale.nanos⟩

def parse (text : String) : Except Invalid Duration :=
  let trimmed := Text.trimmed text
  match parse? trimmed.toList with
  | some d => .ok d
  | none => .error ⟨trimmed⟩

end StickyRouting.Duration
