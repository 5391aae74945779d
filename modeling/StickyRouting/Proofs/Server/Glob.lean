import StickyRouting.Proofs.Text.ByteOrder
import StickyRouting.Server.Client

set_option autoImplicit false

namespace StickyRouting.Text.Utf8

theorem decode_encode_append (text : List Char) (rest : List UInt8) :
    decode (encode text ++ rest) = text.map .char ++ decode rest := by
  induction text with
  | nil => rfl
  | cons c text ih => rw [encode_cons, List.append_assoc, decode_encodeChar, ih]; rfl

theorem char_injective {c d : Char} (h : Piece.char c = Piece.char d) : c = d := by
  injection h

theorem encode_prefix_iff {a b : List Char} : encode a <+: encode b ↔ a <+: b := by
  constructor
  · rintro ⟨rest, joined⟩
    have read := congrArg decode joined
    rw [decode_encode_append, decode_encode] at read
    exact (List.prefix_map_iff_of_injective fun _ _ => char_injective).1 ⟨_, read⟩
  · rintro ⟨rest, rfl⟩
    exact ⟨encode rest, (List.flatMap_append ..).symm⟩

end StickyRouting.Text.Utf8

namespace StickyRouting.Server

open Text.Utf8 (encode)

namespace Glob

def agrees (pattern key : String) : Bool :=
  isMatch (parse (Keyspace.bytes pattern)) (Keyspace.bytes key)

def Plain (value : UInt8) : Prop :=
  value ≠ 0x2A ∧ value ≠ 0x3F ∧ value ≠ 0x5B ∧ value ≠ 0x5C

theorem parseUpTo_plain {value : UInt8} (plain : Plain value) (fuel : Nat) (rest : List UInt8) :
    parseUpTo (fuel + 1) (value :: rest) = byte value :: parseUpTo fuel rest := by
  obtain ⟨star, mark, bracket, escape⟩ := plain
  rw [parseUpTo] <;> simp_all

theorem parseUpTo_escape (value : UInt8) (fuel : Nat) (rest : List UInt8) :
    parseUpTo (fuel + 1) (0x5C :: value :: rest) = byte value :: parseUpTo fuel rest := rfl

def Spells (pattern literal : List UInt8) : Prop :=
  ∀ fuel rest, (pattern ++ rest).length ≤ fuel → ∃ left, rest.length ≤ left ∧
    parseUpTo fuel (pattern ++ rest) = literal.map byte ++ parseUpTo left rest

theorem Spells.nil : Spells [] [] := fun fuel _ enough => ⟨fuel, enough, rfl⟩

theorem Spells.append {p p' l l' : List UInt8} (first : Spells p l) (second : Spells p' l') :
    Spells (p ++ p') (l ++ l') := by
  intro fuel rest enough
  rw [List.append_assoc] at enough ⊢
  obtain ⟨middle, enough, parsed⟩ := first fuel (p' ++ rest) enough
  obtain ⟨left, enough, parsed'⟩ := second middle rest enough
  exact ⟨left, enough, by rw [parsed, parsed', List.map_append, List.append_assoc]⟩

theorem Spells.plain {value : UInt8} (plain : Plain value) : Spells [value] [value] := by
  intro fuel rest enough
  obtain ⟨left, rfl⟩ : ∃ left, fuel = left + 1 := ⟨fuel - 1, by simp at enough; omega⟩
  exact ⟨left, by simpa using enough, parseUpTo_plain plain left rest⟩

theorem Spells.escape (value : UInt8) : Spells [0x5C, value] [value] := by
  intro fuel rest enough
  obtain ⟨left, rfl⟩ : ∃ left, fuel = left + 1 := ⟨fuel - 1, by simp at enough; omega⟩
  exact ⟨left, by simp at enough; omega, parseUpTo_escape value left rest⟩

theorem Spells.plains {bytes : List UInt8} (plain : ∀ value ∈ bytes, Plain value) :
    Spells bytes bytes := by
  induction bytes with
  | nil => exact .nil
  | cons value bytes ih =>
    exact (Spells.plain (plain value (List.mem_cons_self ..))).append
      (ih fun other member => plain other (List.mem_cons_of_mem _ member))

def Special (c : Char) : Prop := c = '*' ∨ c = '?' ∨ c = '[' ∨ c = ']' ∨ c = '\\'

theorem plain_encodeChar {c : Char} (ordinary : ¬ Special c) :
    ∀ value ∈ String.utf8EncodeChar c, Plain value := by
  intro value member
  have differs {d : Char} (special : Special d) {byte : UInt8} (ascii : byte.toNat < 128)
      (spells : d.val.toNat = byte.toNat) : value ≠ byte := by
    rintro rfl
    exact ordinary (Text.Utf8.eq_of_mem_encodeChar ascii spells member ▸ special)
  have star : value ≠ 0x2A := differs (d := '*') (by simp [Special]) (by decide) rfl
  have mark : value ≠ 0x3F := differs (d := '?') (by simp [Special]) (by decide) rfl
  have bracket : value ≠ 0x5B := differs (d := '[') (by simp [Special]) (by decide) rfl
  have escape : value ≠ 0x5C := differs (d := '\\') (by simp [Special]) (by decide) rfl
  exact ⟨star, mark, bracket, escape⟩

theorem spells_escapeGlob (c : Char) : Spells (encode (escapeGlob c)) (String.utf8EncodeChar c) := by
  unfold escapeGlob
  split
  next special => rcases special with rfl | rfl | rfl | rfl | rfl <;> exact .escape _
  next ordinary =>
    have plain := Spells.plains (plain_encodeChar ordinary)
    simpa [encode] using plain

theorem spells_escaped (text : List Char) :
    Spells (encode (text.flatMap escapeGlob)) (encode text) := by
  induction text with
  | nil => exact .nil
  | cons c text ih =>
    have joined := (spells_escapeGlob c).append ih
    simpa [encode] using joined

theorem isMatch_run (bytes : List UInt8) : isMatch [run] bytes = true := by
  induction bytes with
  | nil => simp [isMatch]
  | cons value bytes ih => simp [isMatch, ih]

theorem isMatch_start (start bytes : List UInt8) :
    isMatch (start.map byte ++ [run]) bytes = start.isPrefixOf bytes := by
  induction start generalizing bytes with
  | nil => simp [isMatch_run]
  | cons wanted start ih =>
    cases bytes with
    | nil => simp [isMatch]
    | cons value bytes => simp [isMatch, admits, List.isPrefixOf, ih]

end Glob

theorem parse_startPattern (start : String) :
    Glob.parse (Keyspace.bytes (startPattern start)) =
      (encode start.toList).map .byte ++ [.run] := by
  have written : Keyspace.bytes (startPattern start) =
      encode (start.toList.flatMap escapeGlob) ++ [0x2A] := by
    rw [Keyspace.bytes, startPattern, String.toList_ofList, encode, List.flatMap_append]
    rfl
  obtain ⟨left, enough, parsed⟩ := Glob.spells_escaped start.toList _ [0x2A] (Nat.le_refl _)
  obtain ⟨left, rfl⟩ : ∃ more, left = more + 1 := ⟨left - 1, by simp at enough; omega⟩
  rw [Glob.parse, written, parsed]
  cases left <;> rfl

theorem agrees_startPattern (start key : String) :
    Glob.agrees (startPattern start) key = start.toList.isPrefixOf key.toList := by
  rw [Glob.agrees, parse_startPattern, Glob.isMatch_start, Bool.eq_iff_iff, List.isPrefixOf_iff_prefix,
    List.isPrefixOf_iff_prefix]
  exact Text.Utf8.encode_prefix_iff

end StickyRouting.Server
