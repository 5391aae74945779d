import StickyRouting.Text.Numeral

set_option autoImplicit false

namespace StickyRouting.Tool

inductive Severity where
  | error
  | info
  deriving Repr, DecidableEq

structure Notice where
  level : Severity
  source : String
  text : String
  deriving Repr, DecidableEq

def dateOf (days : Nat) : Nat × Nat × Nat :=
  -- Years begin in March here, so that a leap day is the last of its year.
  let days := days + 719468
  let era := days / 146097
  let day := days % 146097
  let year := (day + day / 36524 - day / 1460 - day / 146096) / 365
  let day := day - (365 * year + year / 4 - year / 100)
  let month := (5 * day + 2) / 153
  let day := day - (153 * month + 2) / 5 + 1
  let year := 400 * era + year
  if month < 10 then (year, month + 3, day) else (year + 1, month - 9, day)

def padded (width n : Nat) : List Char := (Text.Numeral.writeNat n).leftpad width '0'

def timestamp (now : Nat) : List Char :=
  let (year, month, day) := dateOf (now / 86400000)
  let secs := now / 1000 % 86400
  (if 9999 < year then ['+'] else []) ++ padded 4 year ++ '-' :: padded 2 month ++
    '-' :: padded 2 day ++ 'T' :: padded 2 (secs / 3600) ++ ':' :: padded 2 (secs / 60 % 60) ++
    ':' :: padded 2 (secs % 60) ++ '.' :: padded 6 (now % 1000 * 1000) ++ ['Z']

def Severity.shown : Severity → String
  | error => "ERROR"
  | info => " INFO"

def Notice.line (notice : Notice) (now : Nat) : String :=
  String.ofList (timestamp now) ++ " " ++ notice.level.shown ++ " " ++ notice.source ++ ": " ++
    notice.text

end StickyRouting.Tool
