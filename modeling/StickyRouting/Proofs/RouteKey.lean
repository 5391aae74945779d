import StickyRouting.RouteKey
import StickyRouting.Proofs.Text.Numeral

set_option autoImplicit false

namespace StickyRouting.RouteKey

section Escape

abbrev Plain (c : Char) : Prop := c ≠ '%' ∧ c ≠ '_' ∧ c ≠ '{' ∧ c ≠ '}'

theorem escapeChar_plain {c : Char} (plain : Plain c) : escapeChar c = [c] := by
  obtain ⟨sign, line, opening, closing⟩ := plain
  unfold escapeChar
  split <;> first | contradiction | rfl

theorem unescape?_plain {c : Char} (plain : Plain c) (rest : List Char) :
    unescape? (c :: rest) = (unescape? rest).map (c :: ·) := by
  obtain ⟨sign, line, opening, closing⟩ := plain
  rw [unescape?.eq_6] <;> simp [sign, opening, closing]

theorem unescape?_escapeChar (c : Char) (rest : List Char) :
    unescape? (escapeChar c ++ rest) = (unescape? rest).map (c :: ·) := by
  unfold escapeChar
  split
  case h_1 => rfl
  case h_2 => rfl
  case h_3 => rfl
  case h_4 => rfl
  case h_5 sign line opening closing => exact unescape?_plain ⟨sign, line, opening, closing⟩ rest

@[simp] theorem unescape?_escape (text : List Char) : unescape? (escape text) = some text := by
  induction text with
  | nil => rfl
  | cons c text ih => rw [escape, List.flatMap_cons, unescape?_escapeChar, ← escape, ih]; rfl

theorem escape_cons (c : Char) (text : List Char) : escape (c :: text) = escapeChar c ++ escape text :=
  List.flatMap_cons

theorem length_escapeChar {c : Char} (shaping : ¬ Plain c) : (escapeChar c).length = 3 := by
  unfold escapeChar
  split
  case h_5 sign line opening closing => exact absurd ⟨sign, line, opening, closing⟩ shaping
  all_goals rfl

theorem length_le_length_escape (text : List Char) : text.length ≤ (escape text).length := by
  induction text with
  | nil => exact Nat.zero_le _
  | cons c text ih =>
    have some_letter : 1 ≤ (escapeChar c).length := by
      by_cases plain : Plain c
      next => simp [escapeChar_plain plain]
      next => simp [length_escapeChar plain]
    rw [escape_cons, List.length_append, List.length_cons]
    omega

theorem escape_eq_self_iff (text : List Char) : escape text = text ↔ ∀ c ∈ text, Plain c := by
  induction text with
  | nil => simp [escape]
  | cons c text ih =>
    rw [List.forall_mem_cons, escape_cons]
    by_cases plain : Plain c
    next =>
      rw [escapeChar_plain plain, List.singleton_append, List.cons_inj_right, ih]
      exact (and_iff_right plain).symm
    next =>
      refine iff_of_false (fun same => ?_) fun all => plain all.1
      have longer := length_le_length_escape text
      have lengths := congrArg List.length same
      rw [List.length_append, length_escapeChar plain, List.length_cons] at lengths
      omega

theorem not_mem_escapeChar {c : Char} (shaping : c = '_' ∨ c = '{' ∨ c = '}') (letter : Char) :
    c ∉ escapeChar letter := by
  unfold escapeChar
  split
  case h_5 _ line opening closing =>
    rcases shaping with rfl | rfl | rfl <;> simp [Ne.symm line, Ne.symm opening, Ne.symm closing]
  all_goals rcases shaping with rfl | rfl | rfl <;> decide

theorem not_mem_escape {c : Char} (shaping : c = '_' ∨ c = '{' ∨ c = '}') (text : List Char) :
    c ∉ escape text := by
  rw [escape, List.mem_flatMap]
  rintro ⟨letter, -, member⟩
  exact not_mem_escapeChar shaping letter member

theorem escape_of_unescape? {text plain : List Char} (unlined : '_' ∉ text)
    (read : unescape? text = some plain) : escape plain = text := by
  fun_induction unescape? text generalizing plain
  case case1 =>
    obtain rfl := Option.some.inj read
    rfl
  case case6 => contradiction
  case case7 c rest _ _ _ _ shapeless ih =>
    obtain ⟨tail, here, rfl⟩ := Option.map_eq_some_iff.1 read
    rw [List.mem_cons, not_or] at unlined
    have plain : Plain c := by
      simp only [not_or] at shapeless
      exact ⟨shapeless.1, Ne.symm unlined.1, shapeless.2⟩
    rw [escape_cons, escapeChar_plain plain, ih unlined.2 here, List.singleton_append]
  -- What is left are the four escapes.
  all_goals
    rename_i rest ih
    obtain ⟨tail, here, rfl⟩ := Option.map_eq_some_iff.1 read
    have inner : '_' ∉ rest := by simp_all
    rw [escape_cons, ih inner here]
    rfl

end Escape

section Shape

@[simp] theorem unbraced?_braced (text : List Char) : unbraced? (braced text) = some text := by
  simp [braced, unbraced?]

theorem braced_of_unbraced? {text inner : List Char} (read : unbraced? text = some inner) :
    braced inner = text := by
  unfold unbraced? at read
  split at read
  next rest =>
    split at read
    next closed =>
      obtain rfl := Option.some.inj read
      obtain ⟨inner, rfl⟩ := List.getLast?_eq_some_iff.1 closed
      simp [braced]
    next => contradiction
  next => contradiction

def spelled (space partition object : List Char) : List Char :=
  ['_'].intercalate [['r'], escape space, braced (escape partition), braced object]

theorem encodeChars_eq_spelled (key : RouteKey) : key.encodeChars =
    spelled key.space.toList key.partition.toList (Text.Numeral.writeInt key.objectId.toInt) := by
  simp [encodeChars, spelled, List.intercalate, braced]

theorem not_mem_of_mem_splitOn {c : Char} {text part : List Char} (member : part ∈ text.splitOn c) :
    c ∉ part := by
  induction text generalizing part with
  | nil => simp_all
  | cons letter text ih =>
    rw [List.splitOn_cons_eq_if_modifyHead] at member
    split at member
    next =>
      rcases List.mem_cons.1 member with rfl | member
      · simp
      · exact ih member
    next other =>
      cases parts : text.splitOn c with
      | nil => simp [parts] at member
      | cons first parts' =>
        rw [parts, List.modifyHead_cons] at member
        rcases List.mem_cons.1 member with rfl | member
        · have tail : c ∉ first := ih (by simp [parts])
          rw [List.mem_cons, not_or]
          exact ⟨fun same => other (by simp [same]), tail⟩
        · exact ih (by simp [parts, member])

theorem splitOn_spelled (space partition : List Char) {object : List Char} (unlined : '_' ∉ object) :
    (spelled space partition object).splitOn '_' =
      [['r'], escape space, braced (escape partition), braced object] := by
  refine List.splitOn_intercalate '_' (fun part member => ?_) nofun
  simp only [List.mem_cons, List.not_mem_nil, or_false] at member
  rcases member with rfl | rfl | rfl | rfl
  · decide
  · exact not_mem_escape (.inl rfl) space
  · simpa [braced] using not_mem_escape (.inl rfl) partition
  · simpa [braced] using unlined

theorem decodeChars?_spelled (space partition : List Char) {object : List Char}
    (unlined : '_' ∉ object) : decodeChars? (spelled space partition object) =
      (Text.Numeral.int64? object).map (⟨String.ofList space, String.ofList partition, ·⟩) := by
  rw [decodeChars?, splitOn_spelled _ _ unlined]
  cases read : Text.Numeral.int64? object <;> simp [read]

theorem exists_spelled {text : List Char} {key : RouteKey} (read : decodeChars? text = some key) :
    ∃ object, Text.Numeral.int64? object = some key.objectId ∧
      text = spelled key.space.toList key.partition.toList object := by
  unfold decodeChars? at read
  split at read
  next space partition object parts =>
    obtain ⟨inner, opened, read⟩ := Option.bind_eq_some_iff.1 read
    obtain ⟨numeral, opened', read⟩ := Option.bind_eq_some_iff.1 read
    obtain ⟨objectId, named, read⟩ := Option.bind_eq_some_iff.1 read
    obtain ⟨space', unescaped, read⟩ := Option.bind_eq_some_iff.1 read
    obtain ⟨partition', unescaped', read⟩ := Option.bind_eq_some_iff.1 read
    obtain rfl := Option.some.inj read
    have unlined (part : List Char) (member : part ∈ [['r'], space, partition, object]) :
        '_' ∉ part := not_mem_of_mem_splitOn (parts ▸ member)
    have within : '_' ∉ inner := fun member =>
      unlined partition (by simp) (by simp [← braced_of_unbraced? opened, braced, member])
    have joined : ['_'].intercalate (text.splitOn '_') = text := List.intercalate_splitOn '_'
    refine ⟨numeral, named, ?_⟩
    rw [← joined, parts, spelled, String.toList_ofList, String.toList_ofList,
      escape_of_unescape? (unlined space (by simp)) unescaped, escape_of_unescape? within unescaped',
      braced_of_unbraced? opened, braced_of_unbraced? opened']
  next => contradiction

theorem unescaped_prefix_spelled_iff (space partition object : List Char) :
    ['r', '_'] ++ space ++ ['_', '{'] <+: spelled space partition object ↔ ∀ c ∈ space, Plain c := by
  obtain ⟨rest, shape⟩ : ∃ rest, spelled space partition object =
      ['r', '_'] ++ (escape space ++ '_' :: '{' :: rest) := by
    simp [spelled, List.intercalate, braced]
  rw [shape, List.append_assoc, List.prefix_append_right_inj, ← escape_eq_self_iff]
  constructor
  · rintro ⟨tail, same⟩
    -- The underscore after the name stands beyond the escaped name, which has none inside.
    rw [List.append_assoc, List.append_eq_append_iff] at same
    rcases same with ⟨more, longer, follows⟩ | ⟨more, longer, -⟩
    next =>
      cases more with
      | nil => rw [longer, List.append_nil]
      | cons c more =>
        obtain ⟨rfl, -⟩ := List.cons.inj follows
        exact absurd (by simp [longer]) (not_mem_escape (.inl rfl) space)
    next =>
      have bound := length_le_length_escape space
      have lengths := congrArg List.length longer
      rw [List.length_append] at lengths
      have nothing : more = [] := List.length_eq_zero_iff.1 (by omega)
      rw [nothing, List.append_nil] at longer
      exact longer.symm
  · intro same
    rw [same, List.prefix_append_right_inj]
    exact ⟨rest, rfl⟩

end Shape

section RoundTrip

theorem decode?_encode (key : RouteKey) : decode? key.encode = some key := by
  have unlined : '_' ∉ Text.Numeral.writeInt key.objectId.toInt := by
    intro member
    rcases Text.Numeral.mem_writeInt member with same | digit
    · exact absurd same (by decide)
    · exact absurd digit (by decide)
  rw [decode?, encode, String.toList_ofList, encodeChars_eq_spelled, decodeChars?_spelled _ _ unlined]
  simp

theorem parse_encode (key : RouteKey) : parse key.encode = .ok key := by
  rw [parse, decode?_encode]

theorem encode_injective {a b : RouteKey} (same : a.encode = b.encode) : a = b := by
  have read := decode?_encode a
  rw [same, decode?_encode] at read
  exact (Option.some.inj read).symm

theorem encode_faithful (space partition : String) (objectId : Int64) :
    parse (encode ⟨space, partition, objectId⟩) = .ok ⟨space, partition, objectId⟩ ∧
      ∀ other : RouteKey, encode ⟨space, partition, objectId⟩ = other.encode →
        other = ⟨space, partition, objectId⟩ :=
  ⟨parse_encode _, fun _ same => (encode_injective same).symm⟩

example : encode ⟨"%5F", "\x7d_\x7b", -1⟩ = "r_%255F_\x7b%7D%5F%7B\x7d_\x7b-1\x7d" := by decide

end RoundTrip

section Acceptance

open Text.Numeral (IsCanonical)

structure Spells (text : String) (key : RouteKey) (object : List Char) : Prop where
  shape : text = "r_" ++ String.ofList (escape key.space.toList) ++ "_\x7b" ++
    String.ofList (escape key.partition.toList) ++ "\x7d_\x7b" ++ String.ofList object ++ "\x7d"
  number : Text.Numeral.Spells object key.objectId.toInt

theorem toList_of_shape (space partition object : List Char) :
    ("r_" ++ String.ofList (escape space) ++ "_\x7b" ++ String.ofList (escape partition) ++ "\x7d_\x7b" ++
      String.ofList object ++ "\x7d").toList = spelled space partition object := by
  simp [spelled, braced, List.intercalate]

theorem spelled_inj {space partition object numeral : List Char} :
    spelled space partition object = spelled space partition numeral ↔ object = numeral := by
  simp [spelled, List.intercalate, braced]

variable {text : String} {key other : RouteKey} {object numeral : List Char}

theorem Spells.toList_eq (spells : Spells text key object) :
    text.toList = spelled key.space.toList key.partition.toList object := by
  rw [spells.shape, toList_of_shape]

theorem decode?_eq_some_iff : decode? text = some key ↔ ∃ object, Spells text key object := by
  constructor
  · intro read
    obtain ⟨object, number, same⟩ := exists_spelled read
    refine ⟨object, ⟨?_, Text.Numeral.int64?_eq_some_iff.1 number⟩⟩
    rw [← String.toList_inj, toList_of_shape, same]
  · rintro ⟨object, spells⟩
    have unlined : '_' ∉ object := fun member => absurd (spells.number.mem member) (by decide)
    rw [decode?, spells.toList_eq, decodeChars?_spelled _ _ unlined,
      Text.Numeral.int64?_eq_some_iff.2 spells.number]
    simp

theorem Spells.unique (spells : Spells text key object) (again : Spells text other numeral) :
    other = key ∧ numeral = object := by
  have read := decode?_eq_some_iff.2 ⟨_, spells⟩
  rw [decode?_eq_some_iff.2 ⟨_, again⟩] at read
  obtain rfl := Option.some.inj read
  refine ⟨rfl, ?_⟩
  exact spelled_inj.1 (again.toList_eq.symm.trans spells.toList_eq)

theorem Spells.encode_eq_iff (spells : Spells text key object) :
    key.encode = text ↔ IsCanonical object := by
  rw [spells.number.isCanonical_iff, ← String.toList_inj, spells.toList_eq, encode, String.toList_ofList,
    encodeChars_eq_spelled, spelled_inj, eq_comm]

/-- What is read as a key is just what has the form of one, with its number in any spelling that fits.
It is written in the same way again if the number is in plain form. -/
theorem parse_exact (text : String) :
    (∀ key, parse text = .ok key ↔ ∃ object, Spells text key object) ∧
      (∀ e, parse text = .error e ↔ e = .invalidKey text ∧ ¬ ∃ key object, Spells text key object) ∧
      ∀ key object, Spells text key object →
        (∀ other numeral, Spells text other numeral → other = key ∧ numeral = object) ∧
        (key.encode = text ↔ IsCanonical object) := by
  refine ⟨fun key => ?_, fun e => ?_, fun key object spells => ?_⟩
  · rw [← decode?_eq_some_iff, parse]
    cases decode? text <;> simp
  · simp only [← decode?_eq_some_iff, parse]
    cases decode? text <;> simp [eq_comm]
  · exact ⟨fun _ _ => spells.unique, spells.encode_eq_iff⟩

theorem parse_exact_padded :
    Spells "r_a%5Fb_\x7b\x7d_\x7b+007\x7d" ⟨"a_b", "", 7⟩ "+007".toList ∧
      parse "r_a%5Fb_\x7b\x7d_\x7b+007\x7d" = .ok ⟨"a_b", "", 7⟩ ∧
      encode ⟨"a_b", "", 7⟩ ≠ "r_a%5Fb_\x7b\x7d_\x7b+007\x7d" := by
  have digits : Text.Numeral.IsDigits "007".toList := ⟨by decide, List.all_eq_true.1 (by decide)⟩
  have spells : Spells "r_a%5Fb_\x7b\x7d_\x7b+007\x7d" ⟨"a_b", "", 7⟩ "+007".toList :=
    ⟨by decide +kernel, .plus digits⟩
  obtain ⟨accepted, -, again⟩ := parse_exact "r_a%5Fb_\x7b\x7d_\x7b+007\x7d"
  refine ⟨spells, (accepted _).2 ⟨_, spells⟩, fun same => ?_⟩
  exact absurd ((again _ _ spells).2.1 same) fun canonical => canonical.2 rfl

end Acceptance

end StickyRouting.RouteKey
