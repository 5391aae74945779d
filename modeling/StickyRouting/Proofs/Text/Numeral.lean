import StickyRouting.Text.Numeral

set_option autoImplicit false

namespace StickyRouting.Text.Numeral

theorem digit?_of_isDigit {c : Char} (h : c.isDigit = true) :
    digit? c = some (c.toNat - '0'.toNat) := by
  have range : '0' ≤ c ∧ c ≤ '9' := by
    simpa [Char.isDigit, Char.le_def] using h
  simp [digit?, range]

theorem extend?_of_all_isDigit {text : List Char} (start : Nat)
    (h : ∀ c ∈ text, c.isDigit = true) :
    extend? start text = some (Nat.ofDigitChars 10 text start) := by
  induction text generalizing start with
  | nil => simp [extend?]
  | cons c rest ih =>
    have tail := ih (10 * start + (c.toNat - '0'.toNat)) fun x member =>
      h x (List.mem_cons_of_mem _ member)
    simp only [extend?, digit?_of_isDigit (h c (List.mem_cons_self ..)), Option.bind_some, tail,
      Nat.ofDigitChars_cons]

theorem isDigit_of_mem_writeNat {n : Nat} {c : Char} (h : c ∈ writeNat n) : c.isDigit = true :=
  Nat.isDigit_of_mem_toDigits (by decide) (by decide) h

theorem writeNat_ne_nil (n : Nat) : writeNat n ≠ [] := Nat.toDigits_ne_nil

@[simp] theorem digits?_writeNat (n : Nat) : digits? (writeNat n) = some n := by
  have read := extend?_of_all_isDigit 0 fun c => isDigit_of_mem_writeNat (n := n) (c := c)
  rw [show Nat.ofDigitChars 10 (writeNat n) 0 = n from Nat.ofDigitChars_ten_toDigits] at read
  cases written : writeNat n with
  | nil => exact absurd written (writeNat_ne_nil n)
  | cons c rest => rw [← read, written]; rfl

@[simp] theorem natural?_writeNat (n : Nat) : natural? (writeNat n) = some n := by
  unfold natural?
  split
  next written =>
    have digit := isDigit_of_mem_writeNat (written ▸ List.mem_cons_self ..)
    exact absurd digit (by decide)
  next => exact digits?_writeNat n

@[simp] theorem integer?_writeInt (n : Int) : integer? (writeInt n) = some n := by
  cases n with
  | ofNat n =>
    unfold integer?
    split
    next written =>
      have digit := isDigit_of_mem_writeNat (n := n) (written ▸ List.mem_cons_self ..)
      exact absurd digit (by decide)
    next => simp [writeInt]
  | negSucc n => simp [writeInt, integer?, Int.negSucc_eq]

theorem mem_writeInt {n : Int} {c : Char} (member : c ∈ writeInt n) : c = '-' ∨ c.isDigit = true := by
  cases n with
  | ofNat n => exact .inr (isDigit_of_mem_writeNat member)
  | negSucc n => exact (List.mem_cons.1 member).imp_right isDigit_of_mem_writeNat

theorem fitsInt64_toInt (n : Int64) : fitsInt64 n.toInt = true := by
  have low : -(2 ^ 63) ≤ n.toInt := n.le_toInt
  have high : n.toInt < 2 ^ 63 := n.toInt_lt
  rw [fitsInt64, decide_eq_true_eq]
  omega

@[simp] theorem int64?_writeInt (n : Int64) : int64? (writeInt n.toInt) = some n := by
  rw [int64?, integer?_writeInt, Option.filter_some, if_pos (fitsInt64_toInt n), Option.map_some,
    Int64.ofInt_toInt]

theorem writeNat_eq_zero_cons {n : Nat} {rest : List Char} (h : writeNat n = '0' :: rest) :
    rest = [] := by
  induction n using Nat.strongRecOn generalizing rest with
  | ind n ih =>
    rw [writeNat, Nat.toDigits_eq_if (by decide)] at h
    split at h
    case isTrue => simpa using (List.cons.inj h).2.symm
    case isFalse large =>
      obtain ⟨d, more, written⟩ := List.exists_cons_of_ne_nil (writeNat_ne_nil (n / 10))
      rw [writeNat] at written
      rw [written, List.cons_append] at h
      obtain ⟨rfl, -⟩ := List.cons.inj h
      have alone : more = [] := ih (n / 10) (by omega) written
      have zero : n / 10 = 0 := by
        have read := digits?_writeNat (n / 10)
        rw [writeNat, written, alone] at read
        simpa [digits?, extend?, digit?] using read.symm
      omega

section Grammar

def IsDigits (text : List Char) : Prop := text ≠ [] ∧ ∀ c ∈ text, c.isDigit = true

def value (digits : List Char) : Nat := Nat.ofDigitChars 10 digits 0

theorem digit?_eq_none {c : Char} (other : ¬ c.isDigit = true) : digit? c = none := by
  have range : ¬ ('0' ≤ c ∧ c ≤ '9') := by
    simpa [Char.isDigit, Char.le_def] using other
  rw [digit?, if_neg range]

theorem extend?_eq_some_iff {start n : Nat} {text : List Char} : extend? start text = some n ↔
    (∀ c ∈ text, c.isDigit = true) ∧ Nat.ofDigitChars 10 text start = n := by
  induction text generalizing start with
  | nil => simp [extend?]
  | cons c text ih =>
    rw [extend?, List.forall_mem_cons, Nat.ofDigitChars_cons]
    by_cases digit : c.isDigit = true
    next => simp only [digit?_of_isDigit digit, Option.bind_some, ih, digit, true_and]
    next => simp [digit?_eq_none digit, digit]

theorem digits?_eq_some_iff {n : Nat} {text : List Char} :
    digits? text = some n ↔ IsDigits text ∧ value text = n := by
  cases text with
  | nil => simp [digits?, IsDigits]
  | cons c text => simp [digits?, extend?_eq_some_iff, IsDigits, value]

inductive Spells : List Char → Int → Prop where
  | unsigned {digits : List Char} (all : IsDigits digits) : Spells digits (value digits)
  | plus {digits : List Char} (all : IsDigits digits) : Spells ('+' :: digits) (value digits)
  | minus {digits : List Char} (all : IsDigits digits) : Spells ('-' :: digits) (-value digits)

theorem Spells.mem {text : List Char} {n : Int} (spelled : Spells text n) {c : Char} (member : c ∈ text) :
    c = '+' ∨ c = '-' ∨ c.isDigit = true := by
  cases spelled with
  | unsigned all => exact .inr (.inr (all.2 c member))
  | plus all => exact (List.mem_cons.1 member).imp_right fun later => .inr (all.2 c later)
  | minus all => exact .inr ((List.mem_cons.1 member).imp_right (all.2 c))

theorem natural?_eq_some_iff {n : Nat} {text : List Char} : natural? text = some n ↔
    ∃ digits, IsDigits digits ∧ value digits = n ∧ (text = digits ∨ text = '+' :: digits) := by
  unfold natural?
  split
  next rest =>
    rw [digits?_eq_some_iff]
    constructor
    · rintro ⟨all, same⟩
      exact ⟨rest, all, same, .inr rfl⟩
    · rintro ⟨digits, all, same, rfl | spelled⟩
      · exact absurd (all.2 '+' (List.mem_cons_self ..)) (by decide)
      · obtain ⟨-, rfl⟩ := List.cons.inj spelled
        exact ⟨all, same⟩
  next unsigned =>
    rw [digits?_eq_some_iff]
    constructor
    · rintro ⟨all, same⟩
      exact ⟨text, all, same, .inl rfl⟩
    · rintro ⟨digits, all, same, rfl | spelled⟩
      · exact ⟨all, same⟩
      · exact absurd spelled (unsigned digits)

theorem integer?_eq_some_iff {n : Int} {text : List Char} : integer? text = some n ↔ Spells text n := by
  constructor
  · intro read
    unfold integer? at read
    split at read
    next rest =>
      cases here : digits? rest with
      | none => simp [here] at read
      | some m =>
        obtain ⟨all, rfl⟩ := digits?_eq_some_iff.1 here
        obtain rfl : -(value rest : Int) = n := by simpa [here] using read
        exact .minus all
    next =>
      obtain ⟨m, here, rfl⟩ := Option.map_eq_some_iff.1 read
      obtain ⟨digits, all, rfl, rfl | rfl⟩ := natural?_eq_some_iff.1 here
      · exact .unsigned all
      · exact .plus all
  · intro spelled
    cases spelled with
    | unsigned all =>
      have read : natural? text = some (value text) :=
        natural?_eq_some_iff.2 ⟨text, all, rfl, .inl rfl⟩
      unfold integer?
      split
      next => exact absurd (all.2 '-' (List.mem_cons_self ..)) (by decide)
      next => rw [read]; rfl
    | plus all =>
      rw [integer?, natural?_eq_some_iff.2 ⟨_, all, rfl, .inr rfl⟩]
      · rfl
      · exact nofun
    | minus all => simp [integer?, digits?_eq_some_iff.2 ⟨all, rfl⟩]

theorem int64?_eq_some_iff {n : Int64} {text : List Char} : int64? text = some n ↔ Spells text n.toInt := by
  rw [← integer?_eq_some_iff, int64?]
  constructor
  · intro read
    obtain ⟨m, here, rfl⟩ := Option.map_eq_some_iff.1 read
    obtain ⟨here, fits⟩ := Option.filter_eq_some_iff.1 here
    rw [fitsInt64, decide_eq_true_eq] at fits
    rw [here, Int64.toInt_ofInt_of_le (by omega) (by omega)]
  · intro read
    rw [read, Option.filter_some, if_pos (fitsInt64_toInt n), Option.map_some, Int64.ofInt_toInt]

/-- No sign but a minus, which zero has not, and no zero in front. -/
def IsCanonical : List Char → Prop
  | [] => False
  | ['0'] => True
  | '-' :: c :: _ => c ≠ '0'
  | c :: _ => c ≠ '0' ∧ c ≠ '+'

theorem toDigits_digit {c : Char} (digit : c.isDigit = true) :
    c.toNat - '0'.toNat < 10 ∧ Nat.toDigits 10 (c.toNat - '0'.toNat) = [c] := by
  have range : '0'.toNat ≤ c.toNat ∧ c.toNat ≤ '0'.toNat + 9 := Char.isDigit_iff_toNat.1 digit
  have small : c.toNat - '0'.toNat < 10 := by omega
  refine ⟨small, ?_⟩
  rw [Nat.toDigits_of_lt_base small, List.cons.injEq, ← Char.toNat_inj,
    Nat.toNat_digitChar_of_lt_ten small]
  exact ⟨Nat.add_sub_cancel' range.1, rfl⟩

theorem toDigits_ofDigitChars {start : Nat} (positive : 0 < start) {text : List Char}
    (all : ∀ c ∈ text, c.isDigit = true) :
    Nat.toDigits 10 (Nat.ofDigitChars 10 text start) = Nat.toDigits 10 start ++ text := by
  induction text generalizing start with
  | nil => simp
  | cons c text ih =>
    obtain ⟨small, written⟩ := toDigits_digit (all c (List.mem_cons_self ..))
    rw [Nat.ofDigitChars_cons, ih (by omega) fun x member => all x (List.mem_cons_of_mem _ member),
      ← Nat.toDigits_append_toDigits (by decide) positive small, written, List.append_assoc,
      List.singleton_append]

theorem writeNat_value {c : Char} {digits : List Char} (all : IsDigits (c :: digits))
    (nonzero : c ≠ '0') : writeNat (value (c :: digits)) = c :: digits := by
  obtain ⟨first, rest⟩ := List.forall_mem_cons.1 all.2
  have range := Char.isDigit_iff_toNat.1 first
  have differs : c.toNat ≠ '0'.toNat := mt Char.toNat_inj.1 nonzero
  rw [writeNat, value, Nat.ofDigitChars_cons, Nat.mul_zero, Nat.zero_add,
    toDigits_ofDigitChars (by omega) rest, (toDigits_digit first).2, List.singleton_append]

theorem isCanonical_writeNat (n : Nat) : IsCanonical (writeNat n) := by
  have digit (c : Char) := isDigit_of_mem_writeNat (n := n) (c := c)
  unfold IsCanonical
  split
  next written => exact writeNat_ne_nil n written
  next => trivial
  next written => exact absurd (digit '-' (by simp [written])) (by decide)
  next c rest _ _ written =>
    refine ⟨?_, ?_⟩
    · rintro rfl
      obtain rfl := writeNat_eq_zero_cons written
      contradiction
    · rintro rfl
      exact absurd (digit '+' (by simp [written])) (by decide)

theorem isCanonical_writeInt (n : Int) : IsCanonical (writeInt n) := by
  cases n with
  | ofNat n => exact isCanonical_writeNat n
  | negSucc n =>
    obtain ⟨c, rest, written⟩ := List.exists_cons_of_ne_nil (writeNat_ne_nil (n + 1))
    rw [writeInt, written]
    rintro rfl
    have alone := writeNat_eq_zero_cons written
    have read := digits?_writeNat (n + 1)
    rw [written, alone] at read
    simp [digits?, extend?, digit?] at read

theorem writeInt_neg {n : Nat} (positive : 0 < n) : writeInt (-n) = '-' :: writeNat n := by
  obtain ⟨m, rfl⟩ := Nat.exists_eq_succ_of_ne_zero (Nat.ne_of_gt positive)
  rfl

theorem Spells.isCanonical_iff {text : List Char} {n : Int} (spelled : Spells text n) :
    IsCanonical text ↔ text = writeInt n := by
  constructor
  · intro canonical
    cases spelled with
    | unsigned all =>
      obtain ⟨c, rest, rfl⟩ := List.exists_cons_of_ne_nil all.1
      by_cases zero : c = '0'
      next =>
        subst zero
        cases rest with
        | nil => rfl
        | cons _ _ => exact absurd rfl canonical.1
      next => exact (writeNat_value all zero).symm
    | plus all => exact absurd rfl canonical.2
    | minus all =>
      obtain ⟨c, rest, rfl⟩ := List.exists_cons_of_ne_nil all.1
      have written := writeNat_value all canonical
      have positive : 0 < value (c :: rest) := by
        refine Nat.pos_of_ne_zero fun zero => canonical ?_
        rw [zero] at written
        exact (List.cons.inj written).1.symm
      rw [writeInt_neg positive, written]
  · rintro rfl
    exact isCanonical_writeInt n

end Grammar

end StickyRouting.Text.Numeral
