set_option autoImplicit false

namespace StickyRouting.Text.Utf8

inductive Piece where
  | char (c : Char)
  | stray (byte : UInt8)
  deriving Repr, DecidableEq

def encode (text : List Char) : List UInt8 := text.flatMap String.utf8EncodeChar

def first? (bytes : List UInt8) : Option Char :=
  (bytes.take 4).toByteArray.utf8DecodeChar? 0

def decode : List UInt8 → List Piece
  | [] => []
  | byte :: rest =>
    match first? (byte :: rest) with
    | some c => .char c :: decode (rest.drop (c.utf8Size - 1))
    | none => .stray byte :: decode rest
termination_by bytes => bytes.length
decreasing_by all_goals simp [List.length_drop]; try omega

def allChars? : List Piece → Option (List Char)
  | [] => some []
  | .char c :: rest => (allChars? rest).map (c :: ·)
  | .stray _ :: _ => none

def text? (bytes : List UInt8) : Option String :=
  (allChars? (decode bytes)).map String.ofList

def readable (bytes : List UInt8) : String :=
  String.ofList <| (decode bytes).map fun
    | .char c => c
    | .stray _ => '\ufffd'

theorem first?_encodeChar (c : Char) (rest : List UInt8) :
    first? (String.utf8EncodeChar c ++ rest) = some c := by
  have size : (String.utf8EncodeChar c).length ≤ 4 := by
    rw [String.length_utf8EncodeChar]; exact c.utf8Size_le_four
  rw [first?, List.take_append, List.take_of_length_le size, List.toByteArray_append]
  exact ByteArray.utf8DecodeChar?_utf8EncodeChar_append

theorem decode_encodeChar (c : Char) (rest : List UInt8) :
    decode (String.utf8EncodeChar c ++ rest) = .char c :: decode rest := by
  have positive : 0 < (String.utf8EncodeChar c).length := by
    rw [String.length_utf8EncodeChar]; exact c.utf8Size_pos
  obtain ⟨byte, more, written⟩ : ∃ byte more, String.utf8EncodeChar c = byte :: more :=
    List.exists_cons_of_length_pos positive
  have length : c.utf8Size - 1 = more.length := by
    rw [← String.length_utf8EncodeChar, written]; simp
  have found := first?_encodeChar c rest
  rw [written, List.cons_append] at found ⊢
  rw [decode, found]
  simp [length]

@[simp] theorem decode_encode (text : List Char) : decode (encode text) = text.map .char := by
  induction text with
  | nil => simp [encode, decode]
  | cons c rest ih =>
    rw [show encode (c :: rest) = String.utf8EncodeChar c ++ encode rest from rfl,
      decode_encodeChar, ih]
    rfl

theorem allChars?_map_char (text : List Char) : allChars? (text.map .char) = some text := by
  induction text with
  | nil => rfl
  | cons c text ih => simp [allChars?, ih]

@[simp] theorem text?_encode (text : String) : text? (encode text.toList) = some text := by
  rw [text?, decode_encode, allChars?_map_char, Option.map_some, String.ofList_toList]

end StickyRouting.Text.Utf8
