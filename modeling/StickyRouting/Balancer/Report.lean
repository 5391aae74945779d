import StickyRouting.Balancer

set_option autoImplicit false

namespace StickyRouting

variable {ω τ : Type}

structure CallReport where
  error : Option String := none
  bytesSent : Nat := 0
  bytesReceived : Nat := 0
  deriving Repr, DecidableEq

def CallReport.shown (report : CallReport) : String :=
  "DoneInfo \x7b error: " ++ Text.quotedOption report.error ++ ", bytes_sent: " ++
    Text.Numeral.showNat report.bytesSent ++ ", bytes_received: " ++
    Text.Numeral.showNat report.bytesReceived ++ " \x7d"

namespace Source

def name : Source → String
  | sticky => "sticky"
  | claimed => "claimed"
  | adopted => "adopted"
  | selected => "selected"

def title : Source → String
  | sticky => "Sticky"
  | claimed => "Claimed"
  | adopted => "Adopted"
  | selected => "Selected"

end Source

def Picked.shown (picked : Picked ω τ) : String :=
  "Picked \x7b node: " ++ Text.quoted picked.node.address ++ ", source: " ++
    picked.source.title ++ ", .. \x7d"

end StickyRouting
