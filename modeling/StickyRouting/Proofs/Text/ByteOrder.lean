import Mathlib.Data.List.Lex
import StickyRouting.Text.Utf8

set_option autoImplicit false

namespace StickyRouting.Text.Utf8

theorem sextets (n : Nat) :
    n = 262144 * (n / 262144) + 4096 * (n / 4096 % 64) + 64 * (n / 64 % 64) + n % 64 := by
  omega

theorem encodeChar_append_lt {c d : Char} (h : c < d) (as bs : List UInt8) :
    String.utf8EncodeChar c ++ as < String.utf8EncodeChar d ++ bs := by
  have below : c.val.toNat < d.val.toNat := h
  have bound : d.val.toNat < 0x110000 := d.valid.elim (by omega) (by omega)
  generalize hm : c.val.toNat = m at below
  generalize hn : d.val.toNat = n at below bound
  have sm := sextets m
  have sn := sextets n
  simp only [String.utf8EncodeChar, hm, hn]
  -- One case for each pair of lengths; the longer of two has the greater first byte.
  repeat' split
  all_goals
    simp only [List.cons_append, List.nil_append, List.cons_lt_cons_iff, UInt8.lt_iff_toNat_lt,
      UInt8.toNat_ofNat', ← UInt8.toNat_inj]
    simp (disch := omega) only [Nat.mod_eq_of_lt]
    omega

theorem encode_cons (c : Char) (text : List Char) :
    encode (c :: text) = String.utf8EncodeChar c ++ encode text := rfl

theorem encode_ne_nil {text : List Char} (filled : text ≠ []) : encode text ≠ [] := by
  obtain ⟨c, text, rfl⟩ := List.exists_cons_of_ne_nil filled
  rw [encode_cons]
  exact List.append_ne_nil_of_left_ne_nil String.utf8EncodeChar_ne_nil _

theorem encode_lt_encode {a b : List Char} (h : a < b) : encode a < encode b := by
  induction h with
  | @nil d b =>
    obtain ⟨byte, more, written⟩ : ∃ byte more, String.utf8EncodeChar d = byte :: more :=
      List.exists_cons_of_ne_nil String.utf8EncodeChar_ne_nil
    rw [encode_cons, written]
    exact List.Lex.nil
  | rel h => exact encodeChar_append_lt h _ _
  | cons _ ih => exact List.Lex.append_left _ ih _

theorem eq_of_mem_encodeChar {c d : Char} {byte : UInt8} (ascii : byte.toNat < 128)
    (spells : d.val.toNat = byte.toNat) (member : byte ∈ String.utf8EncodeChar c) : c = d := by
  apply Char.ext
  rw [← UInt32.toNat_inj, spells]
  have bound : c.val.toNat < 0x110000 := c.valid.elim (by omega) (by omega)
  generalize hn : c.val.toNat = n at bound ⊢
  simp only [String.utf8EncodeChar, hn] at member
  -- The bytes of a character that is more than one byte are all at least 128.
  repeat' split at member
  all_goals
    simp only [List.mem_cons, List.not_mem_nil, or_false, ← UInt8.toNat_inj,
      UInt8.toNat_ofNat'] at member
    simp (disch := omega) only [Nat.mod_eq_of_lt] at member
    omega

theorem mem_of_mem_encode {c : Char} {byte : UInt8} (ascii : byte.toNat < 128)
    (spells : c.val.toNat = byte.toNat) {text : List Char} (member : byte ∈ encode text) : c ∈ text := by
  rw [encode, List.mem_flatMap] at member
  obtain ⟨letter, among, member⟩ := member
  rwa [← eq_of_mem_encodeChar ascii spells member]

end StickyRouting.Text.Utf8
