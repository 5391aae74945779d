import StickyRouting.Json.Quoted
import StickyRouting.Json.Token
import StickyRouting.Proofs.Text.Numeral

set_option autoImplicit false

namespace StickyRouting.Json

open Text.Utf8 (Piece)

def controlDigits (n : Nat) : List Char :=
  ['0', '0', if n < 16 then '0' else '1', Nat.digitChar (n % 16)]

theorem hex_control : ∀ n < 0x20, Text.Numeral.hex 4 n = controlDigits n := by decide

theorem hex4?_control : ∀ n < 0x20,
    hex4? '0' '0' (if n < 16 then '0' else '1') (Nat.digitChar (n % 16)) = some n := by decide

def signOf (c : Char) : Sign :=
  if c.toNat < 0x20 ∧ c ∉ ['\x08', '\x0c', '\n', '\r', '\t'] then .code c.toNat else .char c

theorem scanText_plain {c : Char} (visible : 0x20 ≤ c.toNat) (unquoted : c ≠ '"') (plain : c ≠ '\\')
    (rest : List Piece) :
    scanText (.char c :: rest) = (scanText rest).map fun r => (.char c :: r.1, r.2) := by
  have scanned : ¬ (c.toNat < 0x20 ∨ c = '\\') := by
    rintro (control | escape)
    · omega
    · exact plain escape
  rw [scanText]
  · rw [if_neg scanned]
  · exact unquoted
  all_goals simp [plain]

theorem scanText_escapeChar (c : Char) (rest : List Piece) :
    scanText ((escapeChar c).map .char ++ rest) =
      (scanText rest).map fun r => (signOf c :: r.1, r.2) := by
  unfold escapeChar
  split
  case h_8 quote backslash back feed line ret tab =>
    by_cases control : c.toNat < 0x20
    · have sign : signOf c = .code c.toNat :=
        if_pos ⟨control, by simpa using ⟨back, feed, line, ret, tab⟩⟩
      simp [control, hex_control _ control, controlDigits, scanText, hex4?_control _ control, sign]
    · have sign : signOf c = .char c := by simp [signOf, control]
      simp only [control, if_false, List.map_cons, List.map_nil, List.cons_append, List.nil_append]
      rw [scanText_plain (Nat.not_lt.1 control) quote backslash rest, sign]
  all_goals simp [scanText, shortEscape?, signOf]

theorem scanText_escaped (text : List Char) (rest : List Piece) :
    scanText ((text.flatMap escapeChar).map .char ++ .char '"' :: rest) =
      some (text.map signOf, rest) := by
  induction text with
  | nil => simp [scanText]
  | cons c text ih =>
    rw [List.flatMap_cons, List.map_append, List.append_assoc, scanText_escapeChar, ih]
    rfl

theorem not_surrogate_of_control {n : Nat} (h : n < 0x20) : isHigh n = false ∧ isLow n = false := by
  simp [isHigh, isLow]
  omega

theorem joinSigns_signOf (text : List Char) : joinSigns (text.map signOf) = some text := by
  induction text with
  | nil => rfl
  | cons c text ih =>
    rw [List.map_cons]
    by_cases control : c.toNat < 0x20 ∧ c ∉ ['\x08', '\x0c', '\n', '\r', '\t']
    · obtain ⟨high, low⟩ := not_surrogate_of_control control.1
      rw [signOf, if_pos control]
      -- What follows may be a unit as well, and then it is looked at together with this one.
      cases following : text.map signOf with
      | nil => simp_all [joinSigns]
      | cons sign signs => cases sign <;> simp_all [joinSigns]
    · rw [signOf, if_neg control, joinSigns, ih]
      rfl

@[simp] theorem next?_quote (text : List Char) (rest : List Piece) :
    next? ((quote text).map .char ++ rest) = some (.text (some text), rest) := by
  have scanned := scanText_escaped text rest
  simp only [quote, List.map_cons, List.map_append, List.map_nil, List.cons_append,
    List.append_assoc, List.nil_append]
  rw [next?, scanned]
  simp [joinSigns_signOf]

def EndsNumber : List Piece → Prop
  | .char c :: _ => isDigit c = false ∧ c ≠ '.' ∧ c ≠ 'e' ∧ c ≠ 'E'
  | _ => True

theorem isDigit_eq (c : Char) : isDigit c = c.isDigit := by
  simp [isDigit, Char.isDigit, Char.le_def]

theorem digitRun_append {digits : List Char} {rest : List Piece}
    (h : ∀ c ∈ digits, c.isDigit = true) (ends : EndsNumber rest) :
    digitRun (digits.map .char ++ rest) = (digits, rest) := by
  induction digits with
  | nil =>
    cases rest with
    | nil => rfl
    | cons piece rest =>
      cases piece with
      | char c => simp [digitRun, ends.1]
      | stray byte => rfl
  | cons c digits ih =>
    have first : isDigit c = true := by rw [isDigit_eq]; exact h c (List.mem_cons_self ..)
    have tail := ih fun x member => h x (List.mem_cons_of_mem _ member)
    simp [digitRun, first, tail]

theorem scanWhole_writeNat (n : Nat) {rest : List Piece} (ends : EndsNumber rest) :
    scanWhole ((Text.Numeral.writeNat n).map .char ++ rest) =
      some (Text.Numeral.writeNat n, rest) := by
  have run := digitRun_append (fun c => Text.Numeral.isDigit_of_mem_writeNat (n := n)) ends
  unfold scanWhole
  rw [run]
  split
  case h_1 empty => exact absurd (Prod.mk.inj empty).1 (Text.Numeral.writeNat_ne_nil n)
  case h_2 padded =>
    have alone := Text.Numeral.writeNat_eq_zero_cons (Prod.mk.inj padded).1
    simp at alone
  case h_3 same =>
    obtain ⟨rfl, rfl⟩ := Prod.mk.inj same
    rfl

theorem scanNumber_writeNat (n : Nat) {rest : List Piece} (ends : EndsNumber rest) :
    scanNumber ((Text.Numeral.writeNat n).map .char ++ rest) =
      some (Text.Numeral.writeNat n, rest) := by
  have whole := scanWhole_writeNat n ends
  have fraction : scanFraction rest = some ([], rest) := by
    unfold scanFraction
    split
    · exact absurd rfl ends.2.1
    · rfl
  have exponent : scanExponent rest = some ([], rest) := by
    unfold scanExponent
    split
    · simp [ends.2.2.1, ends.2.2.2]
    · rfl
  obtain ⟨c, more, written⟩ := List.exists_cons_of_ne_nil (Text.Numeral.writeNat_ne_nil n)
  have digit : c.isDigit = true :=
    Text.Numeral.isDigit_of_mem_writeNat (n := n) (written ▸ List.mem_cons_self ..)
  have unsigned : c ≠ '-' := by rintro rfl; exact absurd digit (by decide)
  rw [written] at whole ⊢
  rw [List.map_cons, List.cons_append] at whole ⊢
  simp [scanNumber, unsigned, whole, fraction, exponent]

@[simp] theorem next?_writeNat (n : Nat) {rest : List Piece} (ends : EndsNumber rest) :
    next? ((Text.Numeral.writeNat n).map .char ++ rest) =
      some (.number (Text.Numeral.writeNat n), rest) := by
  have scanned := scanNumber_writeNat n ends
  obtain ⟨c, more, written⟩ := List.exists_cons_of_ne_nil (Text.Numeral.writeNat_ne_nil n)
  have digit : c.isDigit = true :=
    Text.Numeral.isDigit_of_mem_writeNat (n := n) (written ▸ List.mem_cons_self ..)
  rw [written] at scanned ⊢
  rw [next?.eq_def]
  split <;> simp_all

end StickyRouting.Json
