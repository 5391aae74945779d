import Mathlib.Data.List.DropRight
import Mathlib.Data.List.TakeWhile
import StickyRouting.Text.Blank

set_option autoImplicit false

namespace StickyRouting.Text

structure Trims (text core : List Char) : Prop where
  between : ∃ lead trail, text = lead ++ core ++ trail ∧
    (∀ c ∈ lead, isBlank c = true) ∧ ∀ c ∈ trail, isBlank c = true
  first : ∀ c ∈ core.head?, isBlank c = false
  last : ∀ c ∈ core.getLast?, isBlank c = false

theorem trim_eq (text : List Char) : trim text = (text.dropWhile isBlank).rdropWhile isBlank := rfl

theorem dropWhile_blanks {lead rest : List Char} (blank : ∀ c ∈ lead, isBlank c = true)
    (first : ∀ c ∈ rest.head?, isBlank c = false) : (lead ++ rest).dropWhile isBlank = rest := by
  rw [List.dropWhile_append_of_pos blank]
  cases rest with
  | nil => rfl
  | cons c rest => exact List.dropWhile_cons_of_neg (by simp [first c rfl])

theorem rdropWhile_blanks {core trail : List Char} (blank : ∀ c ∈ trail, isBlank c = true)
    (last : ∀ c ∈ core.getLast?, isBlank c = false) : (core ++ trail).rdropWhile isBlank = core := by
  have flipped : (trail.reverse ++ core.reverse).dropWhile isBlank = core.reverse := by
    apply dropWhile_blanks
    · simpa using blank
    · simpa using last
  rw [List.rdropWhile, List.reverse_append, flipped, List.reverse_reverse]

theorem head?_of_dropWhile (text : List Char) :
    ∀ c ∈ (text.dropWhile isBlank).head?, isBlank c = false := by
  intro c head
  have stopped := List.head?_dropWhile_not isBlank text
  rwa [Option.mem_def.1 head] at stopped

theorem trims_trim (text : List Char) : Trims text (trim text) := by
  have front := List.takeWhile_append_dropWhile (p := isBlank) (l := text)
  have back := List.rdropWhile_append_rtakeWhile (p := isBlank) (l := text.dropWhile isBlank)
  constructor
  case between =>
    refine ⟨text.takeWhile isBlank, (text.dropWhile isBlank).rtakeWhile isBlank, ?_, ?_, ?_⟩
    · rw [trim_eq, List.append_assoc, back, front]
    · exact fun c member => List.mem_takeWhile_imp member
    · exact fun c member => List.mem_rtakeWhile_imp member
  case first =>
    -- What is cut off at the end leaves the first letter where it was, or nothing at all.
    intro c head
    apply head?_of_dropWhile text
    rw [← back, List.head?_append]
    rw [trim_eq] at head
    simp [Option.mem_def.1 head]
  case last =>
    have flipped := head?_of_dropWhile (text.dropWhile isBlank).reverse
    simpa [trim] using flipped

theorem trim_eq_iff {text core : List Char} : trim text = core ↔ Trims text core := by
  constructor
  · rintro rfl
    exact trims_trim text
  · rintro ⟨⟨lead, trail, rfl, leads, trails⟩, first, last⟩
    by_cases empty : core = []
    next =>
      subst empty
      have all : ∀ c ∈ lead ++ [] ++ trail, isBlank c = true := by
        intro c member
        simp only [List.append_nil, List.mem_append] at member
        exact member.elim (leads c) (trails c)
      rw [trim_eq, List.dropWhile_eq_nil_iff.2 all, List.rdropWhile_nil]
    next =>
      have starts : ∀ c ∈ (core ++ trail).head?, isBlank c = false := by
        rwa [List.head?_append_of_ne_nil core empty]
      rw [trim_eq, List.append_assoc, dropWhile_blanks leads starts, rdropWhile_blanks trails last]

theorem exists_trims_iff {text : List Char} {holds : List Char → Prop} :
    (∃ core, Trims text core ∧ holds core) ↔ holds (trim text) := by
  simp only [← trim_eq_iff, exists_eq_left']

end StickyRouting.Text
