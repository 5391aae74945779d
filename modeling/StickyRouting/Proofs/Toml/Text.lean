import StickyRouting.Toml.Text
import StickyRouting.Toml.Printer
import StickyRouting.Proofs.Text.Numeral

set_option autoImplicit false

namespace StickyRouting.Toml

section Characters

theorem isPlain_of_visible {c : Char} (visible : isControl c = false) (inline : c ≠ '\n') :
    isPlain c = true := by
  simp only [isControl, isPlain] at *
  by_cases tab : c = '\t' <;> simp_all

theorem lt_of_control {c : Char} (control : isControl c = true) : c.toNat < 0x80 := by
  simp only [isControl, Bool.or_eq_true, Bool.and_eq_true, decide_eq_true_eq, beq_iff_eq] at control
  omega

def codeDigits (n : Nat) : List Char :=
  ['0', '0', Nat.digitChar (n / 16), (Nat.digitChar (n % 16)).toUpper]

theorem hex_control : ∀ n < 0x80, (Text.Numeral.hex 4 n).map Char.toUpper = codeDigits n := by decide

theorem codePoint?_codeDigits : ∀ n < 0x80, codePoint? (codeDigits n) = some (Char.ofNat n) := by decide

inductive Written : Char → List Char → Prop where
  | plain {c : Char} (visible : isPlain c = true) (unquoted : c ≠ '"') (unescaped : c ≠ '\\') :
    Written c [c]
  | short {c letter : Char} (meant : shortEscape? letter = some c) : Written c ['\\', letter]
  | code {c : Char} (control : c.toNat < 0x80) : Written c ('\\' :: 'u' :: codeDigits c.toNat)

theorem written_escapeChar (c : Char) : Written c (escapeChar c) := by
  unfold escapeChar
  split
  case h_8 _ _ inline _ _ unquoted unescaped =>
    cases control : isControl c with
    | true =>
      have small := lt_of_control control
      simpa [hex_control _ small] using Written.code small
    | false => exact .plain (isPlain_of_visible control inline) unquoted unescaped
  all_goals exact .short rfl

theorem letter_of_shortEscape? {c letter : Char} (meant : shortEscape? letter = some c) :
    letter ≠ 'u' ∧ letter ≠ 'U' ∧ isSpace letter = false ∧ letter ≠ '\n' ∧ letter ≠ '\r' := by
  refine ⟨?_, ?_, ?_, ?_, ?_⟩
  case refine_3 =>
    refine Bool.eq_false_iff.2 fun space => ?_
    rcases (Bool.or_eq_true ..).mp space with same | same <;> simp_all [shortEscape?]
  all_goals
    rintro rfl
    simp [shortEscape?] at meant

end Characters

theorem ne_cons_cons {quote : Char} {text : List Char}
    (fewer : text.head? ≠ some quote ∨ text.tail.head? ≠ some quote) (more : List Char) :
    text ≠ quote :: quote :: more := by
  rintro rfl
  simp at fewer

section Basic

theorem basicBody_written {c : Char} {spelling : List Char} (written : Written c spelling)
    (rest : List Char) : basicBody (spelling ++ rest) = push c (basicBody rest) := by
  cases written with
  | plain visible unquoted unescaped =>
    rw [List.singleton_append, basicBody]
    · simp [visible, unescaped]
    all_goals simp [unquoted, unescaped]
  | short meant =>
    obtain ⟨lower, upper, -⟩ := letter_of_shortEscape? meant
    rw [List.cons_append, List.singleton_append, basicBody, meant, Option.bind_some]
    all_goals simp [lower, upper]
  | code control =>
    have read := codePoint?_codeDigits _ control
    rw [Char.ofNat_toNat] at read
    simp only [codeDigits, List.cons_append, List.nil_append] at read ⊢
    rw [basicBody, read, Option.bind_some]

variable {quotes run : Nat} {lines : Bool} {c : Char} {text rest : List Char}

theorem writeBasic_quote (room : run < quotes) :
    writeBasic quotes lines run ('"' :: text) = '"' :: writeBasic quotes lines (run + 1) text := by
  rw [writeBasic, if_pos room]

theorem writeBasic_line : writeBasic quotes true run ('\n' :: text) =
    '\n' :: writeBasic quotes true 0 text := by
  rw [writeBasic, if_pos rfl]
  rfl

theorem writeBasic_escaped (full : c = '"' → quotes ≤ run) (inline : c = '\n' → lines = false) :
    writeBasic quotes lines run (c :: text) = escapeChar c ++ writeBasic quotes lines 0 text := by
  by_cases quote : c = '"'
  next => rw [quote, writeBasic, if_neg (Nat.not_lt.2 (full quote))]
  next =>
    by_cases line : c = '\n'
    next =>
      rw [inline line, line, writeBasic]
      rfl
    next =>
      rw [writeBasic]
      all_goals simp [quote, line]

theorem Written.head? {spelling : List Char} (written : Written c spelling) (rest : List Char) :
    (spelling ++ rest).head? ≠ some '"' := by
  cases written with
  | plain _ unquoted => simpa using unquoted
  | short => simp
  | code => simp

theorem head?_writeBasic (full : c = '"' → quotes ≤ run) :
    (writeBasic quotes lines run (c :: text) ++ rest).head? ≠ some '"' := by
  by_cases line : c = '\n' ∧ lines = true
  next =>
    rw [line.1, line.2, writeBasic_line]
    simp
  next =>
    rw [writeBasic_escaped full (by simpa using line), List.append_assoc]
    exact (written_escapeChar c).head? _

theorem basicBody_writeBasic (run : Nat) (text rest : List Char) :
    basicBody (writeBasic 0 false run text ++ '"' :: rest) = some (text, rest) := by
  induction text generalizing run with
  | nil => rw [writeBasic, List.nil_append, basicBody]
  | cons c text ih =>
    rw [writeBasic_escaped (fun _ => Nat.zero_le run) (fun _ => rfl), List.append_assoc,
      basicBody_written (written_escapeChar c), ih]
    rfl

theorem basicLines_written {c : Char} {spelling : List Char} (written : Written c spelling)
    (rest : List Char) : basicLines false (spelling ++ rest) = push c (basicLines false rest) := by
  cases written with
  | plain visible unquoted unescaped =>
    have inline : c ≠ '\n' := by rintro rfl; exact absurd visible (by decide)
    have unreturned : c ≠ '\r' := by rintro rfl; exact absurd visible (by decide)
    rw [List.singleton_append, basicLines]
    · simp [visible, unescaped]
    all_goals simp [unquoted, unescaped, inline, unreturned]
  | @short letter meant =>
    obtain ⟨lower, upper, space, line, ret⟩ := letter_of_shortEscape? meant
    have inside : endsLine (letter :: rest) = false := by
      simp [endsLine, space, line, ret]
    rw [List.cons_append, List.singleton_append, basicLines, inside, meant]
    · rfl
    all_goals simp [lower, upper]
  | code control =>
    have read := codePoint?_codeDigits _ control
    rw [Char.ofNat_toNat] at read
    simp only [codeDigits, List.cons_append, List.nil_append] at read ⊢
    rw [basicLines, read, Option.bind_some]

theorem basicLines_quote {text : List Char}
    (fewer : text.head? ≠ some '"' ∨ text.tail.head? ≠ some '"') :
    basicLines false ('"' :: text) = push '"' (basicLines false text) := by
  have single := ne_cons_cons fewer
  rw [basicLines]
  · rfl
  all_goals simp [single]

/-- Of the quotes before the closing ones up to two are read together with these. -/
theorem basicLines_closing (count : Nat) (few : count ≤ 2) (ends : rest.head? ≠ some '"') :
    basicLines false (List.replicate count '"' ++ (triple '"' ++ rest)) =
      some (List.replicate count '"', rest) := by
  have other : ∀ more, rest ≠ '"' :: more := by
    rintro more rfl
    exact ends rfl
  match count, few with
  | 0, _ =>
    refine basicLines.eq_8 false rest ?_ ?_ <;> simp [other]
  | 1, _ =>
    refine basicLines.eq_7 false rest ?_
    simp [other]
  | 2, _ => exact basicLines.eq_6 false rest

theorem basicLines_writeBasic (run : Nat) (text : List Char) (ends : rest.head? ≠ some '"') :
    basicLines false (writeBasic 2 true run text ++ (triple '"' ++ rest)) = some (text, rest) := by
  induction text generalizing run with
  | nil => exact basicLines_closing 0 (Nat.zero_le 2) ends
  | cons c text ih =>
    by_cases line : c = '\n'
    next =>
      rw [line, writeBasic_line, List.cons_append, basicLines, ih]
      · rfl
      · simp
    by_cases room : c = '"' ∧ run < 2
    next =>
      -- Whether a quote is read by itself depends on the two characters after it.
      obtain ⟨rfl, room⟩ := room
      rw [writeBasic_quote room]
      cases text with
      | nil => exact basicLines_closing 1 (by decide) ends
      | cons d text =>
        by_cases again : d = '"' ∧ run = 0
        next =>
          obtain ⟨rfl, rfl⟩ := again
          cases text with
          | nil => exact basicLines_closing 2 (by decide) ends
          | cons e text =>
            rw [List.cons_append, basicLines_quote (.inr ?_), ih]
            · rfl
            · rw [writeBasic_quote (by decide)]
              exact head?_writeBasic fun _ => Nat.le_refl 2
        next =>
          rw [List.cons_append, basicLines_quote (.inl (head?_writeBasic ?_)), ih]
          · rfl
          · intro same
            have later : run ≠ 0 := fun first => again ⟨same, first⟩
            omega
    next =>
      have full : c = '"' → 2 ≤ run := fun same => Nat.not_lt.1 fun less => room ⟨same, less⟩
      rw [writeBasic_escaped full fun same => absurd same line, List.append_assoc,
        basicLines_written (written_escapeChar c), ih]
      rfl

end Basic

section Literal

variable {text rest : List Char}

theorem literalBody_append (visible : ∀ c ∈ text, isPlain c = true)
    (unquoted : '\'' ∉ text) (rest : List Char) :
    literalBody (text ++ '\'' :: rest) = some (text, rest) := by
  induction text with
  | nil => rw [List.nil_append, literalBody]
  | cons c text ih =>
    rw [List.mem_cons, not_or] at unquoted
    obtain ⟨plain, visible⟩ := List.forall_mem_cons.1 visible
    rw [List.cons_append, literalBody, plain, ih visible unquoted.2]
    · rfl
    · exact fun same => unquoted.1 same.symm

theorem le_longestRun (c : Char) (run : Nat) (text : List Char) : run ≤ longestRun c run text := by
  induction text generalizing run with
  | nil => exact Nat.le_refl run
  | cons x text ih =>
    rw [longestRun]
    split
    next => exact Nat.le_of_succ_le (ih (run + 1))
    next => exact Nat.le_max_left ..

theorem longestRun_mono (c : Char) {run more : Nat} (fewer : run ≤ more) (text : List Char) :
    longestRun c run text ≤ longestRun c more text := by
  induction text generalizing run more with
  | nil => exact fewer
  | cons x text ih =>
    rw [longestRun, longestRun]
    split
    next => exact ih (Nat.succ_le_succ fewer)
    next => omega

theorem not_mem_of_longestRun {c : Char} {text : List Char} (free : longestRun c 0 text = 0) :
    c ∉ text := by
  induction text with
  | nil => exact List.not_mem_nil
  | cons x text ih =>
    rw [longestRun] at free
    split at free
    next =>
      have one := le_longestRun c (0 + 1) text
      omega
    next other =>
      rw [Nat.zero_max] at free
      rw [List.mem_cons, not_or]
      exact ⟨fun same => other same.symm, ih free⟩

theorem literalLines_quote {text : List Char}
    (fewer : text.head? ≠ some '\'' ∨ text.tail.head? ≠ some '\'') :
    literalLines ('\'' :: text) = push '\'' (literalLines text) := by
  have single := ne_cons_cons fewer
  rw [literalLines]
  · rfl
  all_goals simp [single]

theorem literalLines_closing (count : Nat) (few : count ≤ 2) (ends : rest.head? ≠ some '\'') :
    literalLines (List.replicate count '\'' ++ (triple '\'' ++ rest)) =
      some (List.replicate count '\'', rest) := by
  have other : ∀ more, rest ≠ '\'' :: more := by
    rintro more rfl
    exact ends rfl
  match count, few with
  | 0, _ => refine literalLines.eq_4 rest ?_ ?_ <;> simp [other]
  | 1, _ =>
    refine literalLines.eq_3 rest ?_
    simp [other]
  | 2, _ => exact literalLines.eq_2 rest

theorem literalLines_append (visible : ∀ c ∈ text, isControl c = false)
    (few : longestRun '\'' 0 text ≤ 2) (ends : rest.head? ≠ some '\'') :
    literalLines (text ++ (triple '\'' ++ rest)) = some (text, rest) := by
  induction text with
  | nil => exact literalLines_closing 0 (Nat.zero_le 2) ends
  | cons c text ih =>
    obtain ⟨seen, visible⟩ := List.forall_mem_cons.1 visible
    have fewer : longestRun '\'' 0 text ≤ 2 := by
      rw [longestRun] at few
      split at few
      next => exact Nat.le_trans (longestRun_mono _ (Nat.zero_le _) text) few
      next => exact Nat.le_trans (Nat.le_max_right ..) few
    have read := ih visible fewer
    by_cases quote : c = '\''
    next =>
      subst quote
      cases text with
      | nil => exact literalLines_closing 1 (by decide) ends
      | cons d text =>
        by_cases again : d = '\''
        next =>
          -- Two in a row are no closing quotes, for a third does not follow.
          subst again
          cases text with
          | nil => exact literalLines_closing 2 (by decide) ends
          | cons e text =>
            have other : e ≠ '\'' := by
              rintro rfl
              simp only [longestRun, if_true] at few
              have three := le_longestRun '\'' (0 + 1 + 1 + 1) text
              omega
            rw [List.cons_append, literalLines_quote (.inr (by simpa using other)), read]
            rfl
        next =>
          rw [List.cons_append, literalLines_quote (.inl (by simpa using again)), read]
          rfl
    by_cases line : c = '\n'
    next =>
      rw [line, List.cons_append, literalLines, read]
      rfl
    next =>
      have plain := isPlain_of_visible seen line
      have unreturned : c ≠ '\r' := by rintro rfl; exact absurd plain (by decide)
      rw [List.cons_append, literalLines, plain, read]
      · rfl
      all_goals simp [quote, line, unreturned]

end Literal

section Style

variable {text body rest : List Char}

inductive Fits (text : List Char) : Style → Prop where
  | basic : Fits text .basic
  | literal (visible : ∀ c ∈ text, isControl c = false) (inline : '\n' ∉ text)
    (unquoted : '\'' ∉ text) : Fits text .literal
  | basicLines : Fits text .basicLines
  | literalLines (visible : ∀ c ∈ text, isControl c = false)
    (few : longestRun '\'' 0 text ≤ 2) : Fits text .literalLines

theorem fits_styleOf (text : List Char) : Fits text (Style.of text) := by
  have visible (controls : text.any isControl = false) : ∀ c ∈ text, isControl c = false := by
    simpa using controls
  dsimp only [Style.of]
  split
  next => exact .basic
  split
  next found =>
    simp only [Bool.and_eq_true, Bool.not_eq_true', decide_eq_true_eq] at found
    exact .literal (visible found.1.1) (by simpa using found.1.2) (not_mem_of_longestRun found.2)
  split
  next => exact .basicLines
  split
  next found =>
    simp only [Bool.and_eq_true, Bool.not_eq_true', decide_eq_true_eq] at found
    exact .literalLines (visible found.1) found.2
  split
  next => exact .basicLines
  next => exact .basic

theorem dropLineEnd_plain (plain : ∀ c ∈ body.head?, isPlain c = true) : dropLineEnd body = body := by
  unfold dropLineEnd
  split
  next => exact absurd (plain '\n' rfl) (by decide)
  next => exact absurd (plain '\r' rfl) (by decide)
  next => rfl

theorem dropLineEnd_opening (plain : '\n' ∉ text → ∀ c ∈ body.head?, isPlain c = true) :
    dropLineEnd (opening text ++ body) = body := by
  unfold opening
  split
  next => rfl
  next inline => exact dropLineEnd_plain (plain (by simpa using inline))

theorem Written.plain_head {c : Char} {spelling : List Char} (written : Written c spelling)
    (rest : List Char) : ∀ x ∈ (spelling ++ rest).head?, isPlain x = true := by
  cases written with
  | plain visible => simpa using visible
  | short => simp [isPlain]
  | code => simp [isPlain]

theorem plain_head_writeBasic (inline : '\n' ∉ text) :
    ∀ c ∈ (writeBasic 2 true 0 text ++ (triple '"' ++ rest)).head?, isPlain c = true := by
  cases text with
  | nil => simp [writeBasic, triple, isPlain]
  | cons c text =>
    rw [List.mem_cons, not_or] at inline
    by_cases quote : c = '"'
    next =>
      rw [quote, writeBasic_quote (by decide)]
      simp [isPlain]
    next =>
      rw [writeBasic_escaped (fun same => absurd same quote) fun same => absurd same.symm inline.1,
        List.append_assoc]
      exact (written_escapeChar c).plain_head _

theorem plain_head_visible (visible : ∀ c ∈ text, isControl c = false) (inline : '\n' ∉ text) :
    ∀ c ∈ (text ++ (triple '\'' ++ rest)).head?, isPlain c = true := by
  cases text with
  | nil => simp [triple, isPlain]
  | cons c text =>
    rw [List.mem_cons, not_or] at inline
    simpa using isPlain_of_visible (visible c (List.mem_cons_self ..)) (Ne.symm inline.1)

theorem readText_basic (fewer : body.head? ≠ some '"' ∨ body.tail.head? ≠ some '"') :
    readText ('"' :: body) = basicBody body := by
  have single := ne_cons_cons fewer
  rw [readText]
  simp [single]

theorem readText_literal (fewer : body.head? ≠ some '\'' ∨ body.tail.head? ≠ some '\'') :
    readText ('\'' :: body) = literalBody body := by
  have single := ne_cons_cons fewer
  rw [readText]
  simp [single]

theorem readText_basicLines (body : List Char) :
    readText (triple '"' ++ body) = basicLines false (dropLineEnd body) := readText.eq_1 body

theorem readText_literalLines (body : List Char) :
    readText (triple '\'' ++ body) = literalLines (dropLineEnd body) := readText.eq_2 body

theorem readText_writeText (text : List Char) (undouble : rest.head? ≠ some '"')
    (unsingle : rest.head? ≠ some '\'') : readText (writeText text ++ rest) = some (text, rest) := by
  have fits := fits_styleOf text
  unfold writeText
  generalize Style.of text = style at fits ⊢
  cases fits with
  | basic =>
    have fewer : (writeBasic 0 false 0 text ++ '"' :: rest).head? ≠ some '"' ∨
        (writeBasic 0 false 0 text ++ '"' :: rest).tail.head? ≠ some '"' := by
      cases text with
      | nil => exact .inr undouble
      | cons c text => exact .inl (head?_writeBasic fun _ => Nat.le_refl 0)
    simp only [List.cons_append, List.append_assoc, List.nil_append]
    rw [readText_basic fewer, basicBody_writeBasic]
  | literal visible inline unquoted =>
    have plain (c : Char) (member : c ∈ text) : isPlain c = true := by
      refine isPlain_of_visible (visible c member) ?_
      rintro rfl
      exact inline member
    have fewer : (text ++ '\'' :: rest).head? ≠ some '\'' ∨
        (text ++ '\'' :: rest).tail.head? ≠ some '\'' := by
      cases text with
      | nil => exact .inr unsingle
      | cons c text =>
        left
        rintro same
        obtain rfl := Option.some.inj same
        exact unquoted (List.mem_cons_self ..)
    simp only [List.cons_append, List.append_assoc, List.nil_append]
    rw [readText_literal fewer, literalBody_append plain unquoted]
  | basicLines =>
    simp only [List.append_assoc]
    rw [readText_basicLines, dropLineEnd_opening plain_head_writeBasic,
      basicLines_writeBasic 0 text undouble]
  | literalLines visible few =>
    simp only [List.append_assoc]
    rw [readText_literalLines, dropLineEnd_opening (plain_head_visible visible),
      literalLines_append visible few unsingle]

end Style

end StickyRouting.Toml
