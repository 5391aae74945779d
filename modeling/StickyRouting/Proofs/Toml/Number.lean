import StickyRouting.Toml.Scalar
import StickyRouting.Proofs.Text.Numeral

set_option autoImplicit false

namespace StickyRouting.Toml

open Text.Numeral (writeNat)

section Number

variable {digits more : List Char} {n : Nat}

theorem isDecimal_eq (c : Char) : isDecimal c = c.isDigit := by
  simp [isDecimal, Char.isDigit, Char.le_def]

theorem moreDigits_line (all : ∀ c ∈ digits, c.isDigit = true) :
    moreDigits isDecimal (digits ++ '\n' :: more) = (digits, '\n' :: more) := by
  induction digits with
  | nil =>
    rw [List.nil_append, moreDigits]
    · rfl
    · simp
  | cons c digits ih =>
    obtain ⟨digit, all⟩ := List.forall_mem_cons.1 all
    have apart : c ≠ '_' := by rintro rfl; exact absurd digit (by decide)
    rw [List.cons_append, moreDigits, isDecimal_eq, digit, ih all]
    · rfl
    · simp [apart]

theorem digit_of_written {c : Char} {rest : List Char} (written : writeNat n = c :: rest) :
    c.isDigit = true ∧ ∀ d ∈ rest, d.isDigit = true :=
  List.forall_mem_cons.1 fun _ member => Text.Numeral.isDigit_of_mem_writeNat (written ▸ member)

theorem readWhole_writeNat (n : Nat) (more : List Char) :
    readWhole (writeNat n ++ '\n' :: more) = some (writeNat n, '\n' :: more) := by
  obtain ⟨c, rest, written⟩ := List.exists_cons_of_ne_nil (Text.Numeral.writeNat_ne_nil n)
  obtain ⟨digit, all⟩ := digit_of_written written
  rw [written, List.cons_append]
  by_cases zero : c = '0'
  next =>
    subst zero
    rw [Text.Numeral.writeNat_eq_zero_cons written]
    rfl
  next =>
    rw [readWhole, digitRun, isDecimal_eq, digit, moreDigits_line all]
    · rfl
    · simp [zero]

theorem inBase_eq (all : ∀ c ∈ digits, c.isDigit = true) (start : Nat) :
    digits.foldl (fun n c => 10 * n + (Text.Numeral.hexDigit? c).getD 0) start =
      Nat.ofDigitChars 10 digits start := by
  induction digits generalizing start with
  | nil => rfl
  | cons c digits ih =>
    obtain ⟨digit, all⟩ := List.forall_mem_cons.1 all
    have range : '0' ≤ c ∧ c ≤ '9' := by simpa [isDecimal] using (isDecimal_eq c).trans digit
    rw [List.foldl_cons, Nat.ofDigitChars_cons, ih all, Text.Numeral.hexDigit?, if_pos range]
    rfl

theorem inBase_writeNat (n : Nat) : inBase 10 (writeNat n) = n := by
  rw [inBase, inBase_eq fun _ => Text.Numeral.isDigit_of_mem_writeNat]
  exact Nat.ofDigitChars_ten_toDigits

theorem expect_of_readCount (all : ∀ c ∈ digits, c.isDigit = true) {width value : Nat} {rest : List Char}
    (read : readCount width (digits ++ '\n' :: more) = some (value, rest)) (mark : Char)
    (other : mark.isDigit = false) (inline : mark ≠ '\n') : expect mark rest = none := by
  simp only [readCount, Option.ite_none_right_eq_some, Bool.and_eq_true, List.all_eq_true,
    Option.some.injEq, Prod.mk.injEq] at read
  obtain ⟨⟨-, counted⟩, -, rfl⟩ := read
  have within : width ≤ digits.length := by
    refine Nat.not_lt.1 fun beyond => ?_
    obtain ⟨extra, rfl⟩ := Nat.exists_eq_add_of_lt beyond
    have line : '\n' ∈ (digits ++ '\n' :: more).take (digits.length + extra + 1) := by
      simp [List.take_append, Nat.add_assoc]
    exact absurd (counted _ line) (by decide)
  rw [List.drop_append_of_le_length within]
  cases left : digits.drop width with
  | nil => simp [expect, inline]
  | cons c rest =>
    have digit : c.isDigit = true := all c (List.mem_of_mem_drop (left ▸ List.mem_cons_self ..))
    have differs : mark ≠ c := by
      rintro rfl
      rw [digit] at other
      contradiction
    simp [expect, differs]

theorem readMoment_writeNat (n : Nat) (more : List Char) :
    readMoment (writeNat n ++ '\n' :: more) = none := by
  have all (c : Char) := Text.Numeral.isDigit_of_mem_writeNat (n := n) (c := c)
  -- Both want a mark after their first digits.
  have date : readDate (writeNat n ++ '\n' :: more) = none := by
    unfold readDate
    cases read : readCount 4 (writeNat n ++ '\n' :: more) with
    | none => rfl
    | some counted => simp [expect_of_readCount all read '-' (by decide) (by decide)]
  have time : readTime (writeNat n ++ '\n' :: more) = none := by
    unfold readTime
    cases read : readCount 2 (writeNat n ++ '\n' :: more) with
    | none => rfl
    | some counted => simp [expect_of_readCount all read ':' (by decide) (by decide)]
  simp [readMoment, date, time]

theorem exists_writeNat (n : Nat) (more : List Char) :
    ∃ c rest, writeNat n ++ more = c :: rest ∧ c.isDigit = true := by
  obtain ⟨c, rest, written⟩ := List.exists_cons_of_ne_nil (Text.Numeral.writeNat_ne_nil n)
  exact ⟨c, rest ++ more, by rw [written, List.cons_append], (digit_of_written written).1⟩

theorem readSign_writeNat (n : Nat) (more : List Char) :
    readSign (writeNat n ++ more) = (false, writeNat n ++ more) := by
  obtain ⟨c, rest, written, digit⟩ := exists_writeNat n more
  rw [written, readSign]
  all_goals
    rintro tail same
    obtain ⟨rfl, -⟩ := List.cons.inj same
    exact absurd digit (by decide)

theorem readFloat_writeNat (n : Nat) (more : List Char) :
    readFloat (writeNat n ++ '\n' :: more) = none := by
  have finite : readFinite (writeNat n ++ '\n' :: more) = none := by
    simp [readFinite, readSign_writeNat, readWhole_writeNat, readFraction, readExponent]
  have special : readSpecial (writeNat n ++ '\n' :: more) = none := by
    obtain ⟨c, rest, written, digit⟩ := exists_writeNat n ('\n' :: more)
    rw [written, readSpecial]
    all_goals
      rintro tail same
      obtain ⟨rfl, -⟩ := List.cons.inj same
      exact absurd digit (by decide)
  simp [readFloat, finite, readSign_writeNat, special]

theorem readInteger_writeNat (fits : Text.Numeral.fitsInt64 n = true) (more : List Char) :
    readInteger (writeNat n ++ '\n' :: more) = some (.integer n, '\n' :: more) := by
  have unbased (base : Char) (rest : List Char) (based : base ≠ '\n') :
      writeNat n ++ '\n' :: more ≠ '0' :: base :: rest := by
    intro same
    obtain ⟨c, digits, written⟩ := List.exists_cons_of_ne_nil (Text.Numeral.writeNat_ne_nil n)
    rw [written, List.cons_append] at same
    obtain ⟨rfl, tail⟩ := List.cons.inj same
    rw [Text.Numeral.writeNat_eq_zero_cons written] at tail
    exact based (List.cons.inj tail).1.symm
  rw [readInteger]
  · rw [readSign_writeNat]
    refine Option.bind_eq_some_iff.2 ⟨_, readWhole_writeNat n more, ?_⟩
    dsimp only
    simp only [inBase_writeNat, Bool.false_eq_true, if_false, if_pos fits]
  all_goals exact fun rest => unbased _ rest (by decide)

theorem readScalar_writeNat (fits : Text.Numeral.fitsInt64 n = true) (more : List Char) :
    readScalar (writeNat n ++ '\n' :: more) = some (.integer n, '\n' :: more) := by
  have unquoted : readText (writeNat n ++ '\n' :: more) = none := by
    obtain ⟨c, rest, written, digit⟩ := exists_writeNat n ('\n' :: more)
    rw [written, readText]
    all_goals
      rintro tail same
      obtain ⟨rfl, -⟩ := List.cons.inj same
      exact absurd digit (by decide)
  simp [readScalar, unquoted, readMoment_writeNat, readFloat_writeNat, readInteger_writeNat fits]

end Number
end StickyRouting.Toml
