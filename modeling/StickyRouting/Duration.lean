set_option autoImplicit false

namespace StickyRouting

structure Duration where
  nanos : Nat
  deriving Repr, DecidableEq, Inhabited

namespace Duration

def zero : Duration := ⟨0⟩
def ofMillis (n : Nat) : Duration := ⟨n * 1_000_000⟩
def ofSecs (n : Nat) : Duration := ⟨n * 1_000_000_000⟩

def millis (d : Duration) : Nat := d.nanos / 1_000_000

def secs (d : Duration) : Nat := d.nanos / 1_000_000_000

def isZero (d : Duration) : Bool := d.nanos == 0

@[simp] theorem millis_ofMillis (n : Nat) : (ofMillis n).millis = n := by
  simp [ofMillis, millis]

@[simp] theorem secs_ofSecs (n : Nat) : (ofSecs n).secs = n := by
  simp [ofSecs, secs]

@[simp] theorem isZero_iff (d : Duration) : d.isZero = true ↔ d = zero := by
  cases d; simp [isZero, zero]

def orIfZero (d fallback : Duration) : Duration := if d.isZero then fallback else d

theorem isZero_orIfZero (d : Duration) {fallback : Duration} (h : fallback.isZero = false) :
    (d.orIfZero fallback).isZero = false := by
  unfold orIfZero
  cases zero : d.isZero <;> simp [zero, h]

def defaultTtl : Duration := ofSecs (24 * 60 * 60)

end Duration

end StickyRouting
