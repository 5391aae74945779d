import StickyRouting.Duration.Parser
import StickyRouting.Proofs.Text.Blank
import StickyRouting.Proofs.Text.Numeral

set_option autoImplicit false

namespace StickyRouting.Duration

open Text (Trims)
open Text.Numeral (IsDigits value word64)

namespace Scale

inductive Named : Scale → List Char → Prop where
  | written (scale : Scale) : Named scale scale.suffix
  | unwritten : Named secs []

def times (n : Nat) : Scale → Duration
  | millis => ofMillis n
  | secs => ofSecs n
  | minutes => ofSecs (n * 60)
  | hours => ofSecs (n * 3600)

structure Fits (scale : Scale) (n : Nat) : Prop where
  count : n ≤ word64
  minutes : scale = minutes → n * 60 ≤ word64
  hours : scale = hours → n * 3600 ≤ word64

theorem fits_iff {scale : Scale} {n : Nat} : scale.Fits n ↔ n ≤ scale.limit := by
  constructor
  · rintro ⟨count, inMinutes, inHours⟩
    cases scale with
    | millis => exact count
    | secs => exact count
    | minutes => exact (Nat.le_div_iff_mul_le (by decide)).2 (inMinutes rfl)
    | hours => exact (Nat.le_div_iff_mul_le (by decide)).2 (inHours rfl)
  · intro within
    cases scale with
    | millis => exact ⟨within, nofun, nofun⟩
    | secs => exact ⟨within, nofun, nofun⟩
    | minutes =>
      have multiplied : n * 60 ≤ word64 := (Nat.le_div_iff_mul_le (by decide)).1 within
      exact ⟨by omega, fun _ => multiplied, nofun⟩
    | hours =>
      have multiplied : n * 3600 ≤ word64 := (Nat.le_div_iff_mul_le (by decide)).1 within
      exact ⟨by omega, nofun, fun _ => multiplied⟩

theorem times_eq (n : Nat) (scale : Scale) : scale.times n = ⟨n * scale.nanos⟩ := by
  cases scale <;> simp [times, nanos, ofMillis, ofSecs, Nat.mul_assoc]

theorem Fits.secs_times {scale : Scale} {n : Nat} (fits : scale.Fits n) :
    (scale.times n).secs ≤ word64 := by
  obtain ⟨count, inMinutes, inHours⟩ := fits
  cases scale with
  | millis =>
    have shorter : n * 1_000_000 / 1_000_000_000 ≤ n := by omega
    exact Nat.le_trans shorter count
  | secs => simpa [times] using count
  | minutes => simpa [times] using inMinutes rfl
  | hours => simpa [times] using inHours rfl

end Scale

inductive Spells : List Char → Nat → Scale → Prop where
  | plain {digits name : List Char} {scale : Scale} (all : IsDigits digits) (named : scale.Named name) :
      Spells (digits ++ name) (value digits) scale
  | plus {digits name : List Char} {scale : Scale} (all : IsDigits digits) (named : scale.Named name) :
      Spells ('+' :: digits ++ name) (value digits) scale

theorem before?_eq_some_iff {suffix text count : List Char} :
    before? suffix text = some count ↔ text = count ++ suffix := by
  simp only [before?, Option.map_eq_some_iff, List.isPrefixOf?_eq_some_iff_append_eq]
  constructor
  · rintro ⟨flipped, joined, rfl⟩
    rw [← List.reverse_inj, ← joined, List.reverse_append, List.reverse_reverse]
  · rintro rfl
    exact ⟨count.reverse, by simp, List.reverse_reverse _⟩

theorem exists_name_of_splitScale {text count : List Char} {scale : Scale}
    (split : splitScale text = (count, scale)) : ∃ name, scale.Named name ∧ text = count ++ name := by
  unfold splitScale at split
  cases cut : Scale.all.findSome? fun scale => (before? scale.suffix text).map fun n => (n, scale) with
  | none =>
    rw [cut] at split
    obtain ⟨rfl, rfl⟩ := Prod.mk.inj split
    exact ⟨[], .unwritten, (List.append_nil text).symm⟩
  | some found =>
    rw [cut] at split
    obtain ⟨tried, -, here⟩ := List.exists_of_findSome?_eq_some cut
    obtain ⟨before, found, rfl⟩ := Option.map_eq_some_iff.1 here
    obtain ⟨rfl, rfl⟩ := Prod.mk.inj split
    exact ⟨tried.suffix, .written tried, before?_eq_some_iff.1 found⟩

theorem splitScale_append {count : List Char} {last : Char} (digit : last.isDigit = true) {scale : Scale}
    {name : List Char} (named : scale.Named name) :
    splitScale (count ++ [last] ++ name) = (count ++ [last], scale) := by
  -- A digit is no letter of a unit, so that no ending reaches into the count.
  have notS : 's' ≠ last := by rintro rfl; exact absurd digit (by decide)
  have notM : 'm' ≠ last := by rintro rfl; exact absurd digit (by decide)
  have notH : 'h' ≠ last := by rintro rfl; exact absurd digit (by decide)
  cases named with
  | unwritten =>
    simp [splitScale, Scale.all, Scale.suffix, before?, List.isPrefixOf?, notS, notM, notH]
  | written =>
    cases scale with
    | millis => simp [splitScale, Scale.all, Scale.suffix, before?, List.isPrefixOf?]
    | secs => simp [splitScale, Scale.all, Scale.suffix, before?, List.isPrefixOf?, notM]
    | minutes => simp [splitScale, Scale.all, Scale.suffix, before?, List.isPrefixOf?]
    | hours => simp [splitScale, Scale.all, Scale.suffix, before?, List.isPrefixOf?]

theorem splitScale_of_digits {digits name : List Char} (all : IsDigits digits) {scale : Scale}
    (named : scale.Named name) (sign : List Char) :
    splitScale (sign ++ digits ++ name) = (sign ++ digits, scale) := by
  obtain ⟨filled, digit⟩ := all
  rw [← List.dropLast_concat_getLast filled, ← List.append_assoc]
  exact splitScale_append (digit _ (List.getLast_mem filled)) named

theorem Spells.splitScale_eq {text : List Char} {n : Nat} {scale : Scale} (spells : Spells text n scale) :
    ∃ count, splitScale text = (count, scale) ∧ Text.Numeral.natural? count = some n := by
  cases spells with
  | @plain digits _ _ all named =>
    exact ⟨digits, splitScale_of_digits all named [],
      Text.Numeral.natural?_eq_some_iff.2 ⟨digits, all, rfl, .inl rfl⟩⟩
  | @plus digits _ _ all named =>
    exact ⟨'+' :: digits, splitScale_of_digits all named ['+'],
      Text.Numeral.natural?_eq_some_iff.2 ⟨digits, all, rfl, .inr rfl⟩⟩

theorem spells_of_splitScale {text count : List Char} {n : Nat} {scale : Scale}
    (split : splitScale text = (count, scale)) (read : Text.Numeral.natural? count = some n) :
    Spells text n scale := by
  obtain ⟨name, named, rfl⟩ := exists_name_of_splitScale split
  obtain ⟨digits, all, rfl, rfl | rfl⟩ := Text.Numeral.natural?_eq_some_iff.1 read
  · exact .plain all named
  · exact .plus all named

theorem parse?_of_splitScale {text count : List Char} {scale : Scale}
    (split : splitScale text = (count, scale)) {d : Duration} : parse? text = some d ↔
      ∃ n, Text.Numeral.natural? count = some n ∧ scale.Fits n ∧ d = scale.times n := by
  rw [parse?, split]
  constructor
  · intro read
    obtain ⟨n, counted, rfl⟩ := Option.map_eq_some_iff.1 read
    obtain ⟨counted, within⟩ := Option.filter_eq_some_iff.1 counted
    exact ⟨n, counted, Scale.fits_iff.2 (by simpa using within), (Scale.times_eq n scale).symm⟩
  · rintro ⟨n, counted, fits, rfl⟩
    simp [Text.Numeral.bounded?, counted, Scale.fits_iff.1 fits, Scale.times_eq]

theorem parse?_eq_some_iff {text : List Char} {d : Duration} : parse? text = some d ↔
    ∃ n scale, Spells text n scale ∧ scale.Fits n ∧ d = scale.times n := by
  constructor
  · intro read
    obtain ⟨n, counted, fits, same⟩ := (parse?_of_splitScale rfl).1 read
    exact ⟨n, _, spells_of_splitScale rfl counted, fits, same⟩
  · rintro ⟨n, scale, spells, fits, same⟩
    obtain ⟨count, split, counted⟩ := spells.splitScale_eq
    exact (parse?_of_splitScale split).2 ⟨n, counted, fits, same⟩

theorem parse?_eq_none_iff {text : List Char} :
    parse? text = none ↔ ¬ ∃ n scale, Spells text n scale ∧ scale.Fits n := by
  rw [Option.eq_none_iff_forall_ne_some, not_exists]
  constructor
  · rintro refused n ⟨scale, spells, fits⟩
    exact refused _ (parse?_eq_some_iff.2 ⟨n, scale, spells, fits, rfl⟩)
  · intro unspelled d read
    obtain ⟨n, scale, spells, fits, -⟩ := parse?_eq_some_iff.1 read
    exact unspelled n ⟨scale, spells, fits⟩

/-- A text is a duration just when a count that fits and a unit stand between its blanks; any other is
refused with what stands there. -/
theorem parse_counts (text : String) :
    (∀ d, parse text = .ok d ↔ ∃ core, Trims text.toList core ∧
      ∃ n scale, Spells core n scale ∧ scale.Fits n ∧ d = scale.times n) ∧
    (∀ e, parse text = .error e ↔ ∃ core, Trims text.toList core ∧
      e = ⟨String.ofList core⟩ ∧ ¬ ∃ n scale, Spells core n scale ∧ scale.Fits n) ∧
    ∀ d, parse text = .ok d → d.secs ≤ word64 := by
  have core : (Text.trimmed text).toList = Text.trim text.toList := String.toList_ofList
  have accepted (d : Duration) : parse text = .ok d ↔ parse? (Text.trim text.toList) = some d := by
    unfold parse
    simp only [core]
    cases parse? (Text.trim text.toList) <;> simp
  have refused (e : Invalid) : parse text = .error e ↔
      e = ⟨Text.trimmed text⟩ ∧ parse? (Text.trim text.toList) = none := by
    unfold parse
    simp only [core]
    cases parse? (Text.trim text.toList) <;> simp [eq_comm]
  refine ⟨fun d => ?_, fun e => ?_, fun d read => ?_⟩
  · rw [accepted, parse?_eq_some_iff, Text.exists_trims_iff]
  · rw [refused, parse?_eq_none_iff, Text.exists_trims_iff, Text.trimmed]
  · obtain ⟨n, scale, -, fits, rfl⟩ := parse?_eq_some_iff.1 ((accepted d).1 read)
    exact fits.secs_times

example : parse? "+307445734561825860m".toList = some (.ofSecs 18446744073709551600) ∧
    parse? "307445734561825861m".toList = none := by
  decide +kernel

end StickyRouting.Duration
