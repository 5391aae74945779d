import StickyRouting.Store.Record
import StickyRouting.Proofs.Json.Quoted

set_option autoImplicit false

namespace StickyRouting

open Text.Utf8 (Piece)

namespace Json

def Reads (pieces : List Piece) (words : List Token) : Prop :=
  ∀ fuel, tokensUpTo (fuel + words.length) pieces = some words

theorem Reads.nil : Reads [] [] := fun fuel => by cases fuel <;> rfl

theorem Reads.cons {c : Char} {tail rest : List Piece} {word : Token} {words : List Token}
    (solid : isBlank c = false) (first : next? (.char c :: tail) = some (word, rest))
    (after : Reads rest words) : Reads (.char c :: tail) (word :: words) := by
  intro fuel
  rw [List.length_cons, ← Nat.add_assoc]
  simp [tokensUpTo, solid, first, after fuel]

theorem Reads.quote {text : List Char} {rest : List Piece} {words : List Token}
    (after : Reads rest words) :
    Reads ((Json.quote text).map .char ++ rest) (.text (some text) :: words) :=
  .cons (by decide) (next?_quote text rest) after

theorem Reads.writeNat {n : Nat} {rest : List Piece} {words : List Token}
    (ends : EndsNumber rest) (after : Reads rest words) :
    Reads ((Text.Numeral.writeNat n).map .char ++ rest)
      (.number (Text.Numeral.writeNat n) :: words) := by
  have first := next?_writeNat n ends
  obtain ⟨c, more, written⟩ := List.exists_cons_of_ne_nil (Text.Numeral.writeNat_ne_nil n)
  have digit : c.isDigit = true :=
    Text.Numeral.isDigit_of_mem_writeNat (n := n) (written ▸ List.mem_cons_self ..)
  have solid : isBlank c = false := by
    cases blank : isBlank c with
    | false => rfl
    | true =>
      simp only [isBlank, Bool.or_eq_true, beq_iff_eq] at blank
      rcases blank with ((rfl | rfl) | rfl) | rfl <;> exact absurd digit (by decide)
  rw [written] at first ⊢
  exact .cons solid first after

theorem Reads.tokens_eq {pieces : List Piece} {words : List Token} (reads : Reads pieces words)
    (enough : words.length ≤ pieces.length) : tokens pieces = some words := by
  rw [tokens, ← Nat.sub_add_cancel enough]
  exact reads _

end Json

namespace Store.Record

open Json

def words (record : Record) : List Token :=
  [.openObject, .text (some valueField), .colon, .text (some record.value.toList), .comma,
    .text (some deadlineField), .colon, .number (Text.Numeral.writeNat record.deadline),
    .closeObject]

theorem tokens_encode (record : Record) :
    tokens (Text.Utf8.decode record.encode) = some record.words := by
  rw [encode, Text.Utf8.decode_encode]
  simp only [List.append_assoc, List.map_append, List.map_cons, List.map_nil, List.cons_append,
    List.nil_append]
  refine Reads.tokens_eq ?reads ?enough
  case reads =>
    refine .cons (by decide) rfl (.quote (.cons (by decide) rfl (.quote (.cons (by decide) rfl
      (.quote (.cons (by decide) rfl (.writeNat ?ends (.cons (by decide) rfl .nil))))))))
    simp [EndsNumber, isDigit]
  case enough =>
    simp only [words, quote, List.length_append, List.length_cons, List.length_map, List.length_nil]
    omega

theorem read?_encode (record : Record) :
    read? record.encode = some (.object [
      (some valueField, .text (some record.value.toList)),
      (some deadlineField, .number (Text.Numeral.writeNat record.deadline))]) := by
  simp [read?, tokens_encode, words, valueUpTo, fieldsUpTo]

@[simp] theorem decode?_encode (record : Record) (bounded : record.deadline ≤ lastInstant) :
    decode? record.encode = some record := by
  have names : valueField ≠ deadlineField := by decide
  simp [decode?, read?_encode, ofTree?, field?, valueOf?, deadlineOf?, names, names.symm,
    Option.filter, bounded]

end Store.Record

end StickyRouting
