import StickyRouting.Proofs.Toml.Number
import StickyRouting.Proofs.Toml.Text
import StickyRouting.Toml.Document

set_option autoImplicit false

namespace StickyRouting.Toml

section Lines

variable {key spelling rest more : List Char} {value : Scalar} {c : Char}

structure Spells (spelling : List Char) (value : Scalar) : Prop where
  read : ∀ more, readScalar (spelling ++ '\n' :: more) = some (value, '\n' :: more)
  start : ∃ c rest, spelling = c :: rest ∧ isSpace c = false ∧ c ≠ '[' ∧ c ≠ '{'

theorem Spells.readValue (spells : Spells spelling value) (depth : Nat) (more : List Char) :
    readValue depth (spelling ++ '\n' :: more) = some (.scalar value, '\n' :: more) := by
  have read := spells.read more
  obtain ⟨c, rest, rfl, -, bracket, brace⟩ := spells.start
  cases depth with
  | zero => rw [Toml.readValue, read]; rfl
  | succ depth =>
    rw [List.cons_append] at read ⊢
    rw [Toml.readValue, read]
    · rfl
    all_goals simp [bracket, brace]

theorem exists_writeText (text : List Char) :
    ∃ c rest, writeText text = c :: rest ∧ (c = '"' ∨ c = '\'') := by
  unfold writeText
  split
  next => exact ⟨_, _, rfl, .inl rfl⟩
  next => exact ⟨_, _, rfl, .inr rfl⟩
  next => exact ⟨_, _, rfl, .inl rfl⟩
  next => exact ⟨_, _, rfl, .inr rfl⟩

theorem spells_writeText (text : List Char) : Spells (writeText text) (.text text) where
  read more := by
    rw [readScalar, readText_writeText text (by simp) (by simp)]
    rfl
  start := by
    obtain ⟨c, rest, written, rfl | rfl⟩ := exists_writeText text
    · exact ⟨_, rest, written, by decide⟩
    · exact ⟨_, rest, written, by decide⟩

theorem spells_writeNat {n : Nat} (fits : Text.Numeral.fitsInt64 n = true) :
    Spells (Text.Numeral.writeNat n) (.integer n) where
  read := readScalar_writeNat fits
  start := by
    obtain ⟨c, rest, written, digit⟩ := exists_writeNat n []
    rw [List.append_nil] at written
    refine ⟨c, rest, written, ?_, ?_, ?_⟩
    · refine Bool.eq_false_iff.2 fun space => ?_
      rcases (Bool.or_eq_true ..).mp space with same | same <;>
        exact absurd digit (by rw [beq_iff_eq.1 same]; decide)
    all_goals
      rintro rfl
      exact absurd digit (by decide)

abbrev IsBare (key : List Char) : Prop := key ≠ [] ∧ key.all isBareKey = true

theorem IsBare.of_mem (bare : IsBare key) (member : c ∈ key) : isBareKey c = true :=
  List.all_eq_true.1 bare.2 c member

theorem not_mark_of_bare (bare : isBareKey c = true) :
    c ∉ [' ', '\t', '\n', '\r', '#', '[', '"', '\''] := by
  intro member
  simp only [List.mem_cons, List.not_mem_nil, or_false] at member
  rcases member with rfl | rfl | rfl | rfl | rfl | rfl | rfl | rfl <;> exact absurd bare (by decide)

theorem skipSpace_cons (inked : isSpace c = false) : skipSpace (c :: rest) = c :: rest := by
  rw [skipSpace, List.dropWhile_cons_of_neg (by simp [inked])]

theorem isSpace_of_bare (bare : isBareKey c = true) : isSpace c = false := by
  have other := not_mark_of_bare bare
  simp_all [isSpace]

theorem IsBare.skipSpace (bare : IsBare key) (rest : List Char) : skipSpace (key ++ rest) = key ++ rest := by
  obtain ⟨c, key, rfl⟩ := List.exists_cons_of_ne_nil bare.1
  exact skipSpace_cons (isSpace_of_bare (bare.of_mem (List.mem_cons_self ..)))

theorem readKeyPart_bare (bare : IsBare key) (ends : ∀ c ∈ rest.head?, isBareKey c = false) :
    readKeyPart (key ++ rest) = some (key, rest) := by
  have taken : (key ++ rest).takeWhile isBareKey = key := by
    rw [List.takeWhile_append_of_pos fun _ => bare.of_mem]
    cases rest with
    | nil => simp
    | cons c rest => simp [ends c rfl]
  obtain ⟨c, key, rfl⟩ := List.exists_cons_of_ne_nil bare.1
  have other := not_mark_of_bare (bare.of_mem (List.mem_cons_self ..))
  simp only [List.mem_cons, not_or] at other
  rw [List.cons_append] at taken ⊢
  rw [readKeyPart, taken]
  · simp
  all_goals simp [other]

theorem readKey_bare (bare : IsBare key) (ends : ∀ c ∈ rest.head?, isBareKey c = false)
    (undotted : (skipSpace rest).head? ≠ some '.') :
    readKey (key ++ rest) = some ([key], skipSpace rest) := by
  show readKeyUpTo (78 + 1) _ = _
  rw [readKeyUpTo, bare.skipSpace, readKeyPart_bare bare ends]
  simp only [Option.bind_eq_bind, Option.bind_some]
  split
  next dotted => simp [dotted] at undotted
  next => rfl

theorem readLineEnd_line (text : List Char) : readLineEnd ('\n' :: text) = some text := rfl

theorem readStatement_writeHeader (bare : IsBare key) (text : List Char) :
    readStatement (writeHeader key ++ text) = some (.table [key], text) := by
  have read : readKey (key ++ ']' :: '\n' :: text) = some ([key], ']' :: '\n' :: text) :=
    readKey_bare bare (by simp [isBareKey, isDecimal]) (by simp [skipSpace, isSpace])
  obtain ⟨c, key, rfl⟩ := List.exists_cons_of_ne_nil bare.1
  have other := not_mark_of_bare (bare.of_mem (List.mem_cons_self ..))
  simp only [List.mem_cons, not_or] at other
  simp only [writeHeader, List.cons_append, List.append_assoc, List.nil_append] at read ⊢
  rw [readStatement, read]
  · simp [expect, readLineEnd_line]
  · simp [other]

theorem readStatement_writeField (bare : IsBare key) (spells : Spells spelling value) (text : List Char) :
    readStatement (writeField key spelling ++ text) = some (.pair [key] (.scalar value), text) := by
  have read : readKey (key ++ ' ' :: '=' :: ' ' :: (spelling ++ '\n' :: text)) =
      some ([key], '=' :: ' ' :: (spelling ++ '\n' :: text)) :=
    readKey_bare bare (by simp [isBareKey, isDecimal]) (by simp [skipSpace, isSpace])
  have valued := spells.readValue (nestingLimit - 1) text
  obtain ⟨c, key, rfl⟩ := List.exists_cons_of_ne_nil bare.1
  have other := not_mark_of_bare (bare.of_mem (List.mem_cons_self ..))
  simp only [List.mem_cons, not_or] at other
  have spaced : skipSpace (' ' :: (spelling ++ '\n' :: text)) = spelling ++ '\n' :: text := by
    obtain ⟨d, rest, rfl, inked, -⟩ := spells.start
    exact skipSpace_cons inked
  simp only [writeField, List.cons_append, List.append_assoc, List.nil_append] at read ⊢
  rw [readStatement, readPair, read]
  · simp [expect, spaced, valued, readLineEnd_line]
  all_goals simp [other]

def Reads (text : List Char) (statements : List Statement) : Prop :=
  ∀ fuel, text.length < fuel → readStatementsUpTo fuel text = some statements

variable {text line : List Char} {statement : Statement} {statements : List Statement}

theorem skipLines_cons (inked : c ∉ [' ', '\t', '\n', '\r', '#']) :
    skipLines (c :: rest) = c :: rest := by
  simp only [List.mem_cons, not_or] at inked
  have started : skipSpace (c :: rest) = c :: rest := skipSpace_cons (by simp [isSpace, inked])
  rw [skipLines, List.length_cons, skipLinesUpTo, started]
  all_goals simp [inked]

theorem Reads.nil : Reads [] [] := by
  intro fuel enough
  obtain ⟨fuel, rfl⟩ := Nat.exists_eq_succ_of_ne_zero (Nat.ne_of_gt enough)
  rfl

theorem Reads.blank (reads : Reads text statements) : Reads ('\n' :: text) statements := by
  intro fuel enough
  have read := reads fuel (by rw [List.length_cons] at enough; omega)
  obtain ⟨fuel, rfl⟩ := Nat.exists_eq_succ_of_ne_zero (Nat.ne_of_gt (Nat.zero_lt_of_lt enough))
  exact read

theorem Reads.cons (inked : ∃ c rest, line = c :: rest ∧ c ∉ [' ', '\t', '\n', '\r', '#'])
    (read : readStatement (line ++ text) = some (statement, text)) (reads : Reads text statements) :
    Reads (line ++ text) (statement :: statements) := by
  obtain ⟨c, rest, rfl, inked⟩ := inked
  intro fuel enough
  rw [List.length_append, List.length_cons] at enough
  obtain ⟨fuel, rfl⟩ := Nat.exists_eq_succ_of_ne_zero (Nat.ne_of_gt (Nat.zero_lt_of_lt enough))
  -- The line has a character at least, so the fuel is enough for what follows it.
  have later := reads fuel (by omega)
  rw [List.cons_append] at read ⊢
  rw [readStatementsUpTo, skipLines_cons inked]
  simp [read, later]

theorem Reads.header (bare : IsBare key) (reads : Reads text statements) :
    Reads (writeHeader key ++ text) (.table [key] :: statements) :=
  reads.cons ⟨'[', key ++ [']', '\n'], rfl, by decide⟩ (readStatement_writeHeader bare text)

theorem Reads.field (bare : IsBare key) (spells : Spells spelling value) (reads : Reads text statements) :
    Reads (writeField key spelling ++ text) (.pair [key] (.scalar value) :: statements) := by
  refine reads.cons ?_ (readStatement_writeField bare spells text)
  obtain ⟨c, key, rfl⟩ := List.exists_cons_of_ne_nil bare.1
  have other := not_mark_of_bare (bare.of_mem (List.mem_cons_self ..))
  exact ⟨c, _, rfl, fun member => other (by simp_all)⟩

end Lines

section Tables

abbrev Rows : Type := List Char × List (List Char × Scalar)

def Rows.value (rows : Rows) : List Char × Value :=
  (rows.1, .table (rows.2.map fun row => (row.1, .scalar row.2)))

def Rows.pairs (rows : Rows) : List Pair := rows.2.map fun row => ([row.1], .scalar row.2)

def Rows.statements (rows : Rows) : List Statement :=
  .table [rows.1] :: rows.2.map fun row => .pair [row.1] (.scalar row.2)

theorem sections_pairs (rows : List (List Char × Scalar)) (statements : List Statement) :
    sections (rows.map (fun row => .pair [row.1] (.scalar row.2)) ++ statements) =
      (rows.map (fun row => ([row.1], .scalar row.2)) ++ (sections statements).1,
        (sections statements).2) := by
  induction rows with
  | nil => rfl
  | cons row rows ih => simp [sections, ih]

theorem sections_tables (tables : List Rows) : sections (tables.flatMap Rows.statements) =
    ([], tables.map fun rows => (.table [rows.1], rows.pairs)) := by
  induction tables with
  | nil => rfl
  | cons rows tables ih =>
    simp [Rows.statements, Rows.pairs, sections, sections_pairs, ih]

theorem lookup_eq_none {fields : Fields} {key : List Char} (fresh : key ∉ fields.map (·.1)) :
    fields.lookup key = none := by
  rw [List.lookup_eq_none_iff]
  rintro ⟨other, node⟩ member
  simp only [bne_iff_ne, ne_eq]
  rintro rfl
  exact fresh (List.mem_map_of_mem member)

theorem addPair_fresh {fields : Fields} {key : List Char} (fresh : key ∉ fields.map (·.1)) (value : Value) :
    Fields.addPair fields ([key], value) = some (fields ++ [(key, .value value)]) := by
  simp [Fields.addPair, Fields.descend, Fields.addKey, lookup_eq_none fresh]

def nodes (rows : List (List Char × Scalar)) : Fields :=
  rows.map fun row => (row.1, .value (.scalar row.2))

theorem addPairs_rows {rows : List (List Char × Scalar)} {before : Fields}
    (distinct : (before.map (·.1) ++ rows.map (·.1)).Nodup) :
    Fields.addPairs before (rows.map fun row => ([row.1], .scalar row.2)) = some (before ++ nodes rows) := by
  -- What was added before has other keys than the rows that are left.
  induction rows generalizing before with
  | nil => simp [Fields.addPairs, nodes]
  | cons row rows ih =>
    have fresh : row.1 ∉ before.map (·.1) := fun member =>
      (List.nodup_append.1 distinct).2.2 _ member _ (List.mem_cons_self ..) rfl
    have later := @ih (before ++ [(row.1, .value (.scalar row.2))]) (by simpa using distinct)
    rw [Fields.addPairs] at later ⊢
    rw [List.map_cons, List.foldlM_cons, addPair_fresh fresh]
    simpa [nodes] using later

theorem addSection_rows {rows : Rows} {before : Fields} (fresh : rows.1 ∉ before.map (·.1))
    (distinct : (rows.2.map (·.1)).Nodup) : addSection before (.table [rows.1], rows.pairs) =
      some (before ++ [(rows.1, .table .header (nodes rows.2))]) := by
  have added : Fields.addPairs [] rows.pairs = some (nodes rows.2) := addPairs_rows distinct
  have kept (key : List Char) (node : Node) (member : (key, node) ∈ before) : key ≠ rows.1 := by
    rintro rfl
    exact fresh (List.mem_map_of_mem member)
  simpa [addSection, Fields.descend, attachTable, lookup_eq_none fresh, added] using kept

theorem foldlM_addSection {tables : List Rows} {before : Fields}
    (distinct : (before.map (·.1) ++ tables.map (·.1)).Nodup)
    (each : ∀ rows ∈ tables, (rows.2.map (·.1)).Nodup) :
    (tables.map fun rows => (Header.table [rows.1], rows.pairs)).foldlM addSection before =
      some (before ++ tables.map fun rows => (rows.1, .table .header (nodes rows.2))) := by
  induction tables generalizing before with
  | nil => simp
  | cons rows tables ih =>
    obtain ⟨first, each⟩ := List.forall_mem_cons.1 each
    have fresh : rows.1 ∉ before.map (·.1) := fun member =>
      (List.nodup_append.1 distinct).2.2 _ member _ (List.mem_cons_self ..) rfl
    rw [List.map_cons, List.foldlM_cons, addSection_rows fresh first, Option.bind_eq_bind, Option.bind_some,
      ih (by simpa using distinct) each]
    simp

theorem finishFields_eq_map (fields : Fields) :
    finishFields fields = fields.map fun field => (field.1, field.2.finish) := by
  induction fields with
  | nil => rw [finishFields, List.map_nil]
  | cons field fields ih => rw [finishFields, List.map_cons, ih]

theorem finishFields_tables (tables : List Rows) :
    finishFields (tables.map fun rows => (rows.1, .table .header (nodes rows.2))) =
      tables.map Rows.value := by
  simp [finishFields_eq_map, nodes, Rows.value, Node.finish, Function.comp_def]

theorem assemble_tables {tables : List Rows} (distinct : (tables.map (·.1)).Nodup)
    (each : ∀ rows ∈ tables, (rows.2.map (·.1)).Nodup) :
    assemble (tables.flatMap Rows.statements) = some (tables.map Rows.value) := by
  have folded := @foldlM_addSection tables [] (by simpa using distinct) each
  rw [assemble, sections_tables]
  simp [Fields.addPairs, folded, finishFields_tables]

theorem parse?_of_reads {text : List Char} {tables : List Rows}
    (reads : Reads text (tables.flatMap Rows.statements)) (unmarked : text.head? ≠ some '\ufeff')
    (distinct : (tables.map (·.1)).Nodup) (each : ∀ rows ∈ tables, (rows.2.map (·.1)).Nodup) :
    parse? (String.ofList text) = some (tables.map Rows.value) := by
  rw [parse?, String.toList_ofList]
  split
  next => simp at unmarked
  next =>
    rw [reads _ (Nat.lt_succ_self _)]
    exact assemble_tables distinct each

end Tables
end StickyRouting.Toml
