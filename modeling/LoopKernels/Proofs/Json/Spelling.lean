import LoopKernels.Json.Reader
import LoopKernels.Proofs.Json.Number
import Mathlib.Tactic.IntervalCases

/-!
# Texts that spell tokens

The lexer is run on a written value piece by piece. A piece that ends by itself, such as a
mark or a string, leaves the lexer between tokens. A number or a bare word does not: its
last character is known only from the character that follows it. `Closes` and `Spells`
say these two things of a text, and texts are put together by their rules alone.
-/

namespace LoopKernels

namespace JsonToken

/-- The character belongs to no number and no bare word. -/
def endsToken (c : Char) : Bool := !c.isAlpha && !isNumberChar c

/-- A mark ends the token in front of it. -/
theorem endsToken_of_mark (c : Char) (token : JsonToken) (mark : ofMark? c = some token) :
    endsToken c = true := by
  unfold ofMark? at mark
  split at mark
  case h_7 => simp at mark
  all_goals rfl

/-- A blank ends the token in front of it. -/
theorem endsToken_of_blank (c : Char) (blank : isJsonBlank c = true) : endsToken c = true := by
  simp only [isJsonBlank, Bool.or_eq_true, beq_iff_eq] at blank
  rcases blank with ((rfl | rfl) | rfl) | rfl <;> rfl

namespace Lexer

/-- The lexer after a list of characters. -/
def feed? (lexer : Lexer) (chars : List Char) : Option Lexer := chars.foldlM take? lexer

/-- No character changes nothing. -/
@[simp] theorem feed?_nil (lexer : Lexer) : lexer.feed? [] = some lexer := rfl

/-- The first character is taken first. -/
@[simp] theorem feed?_cons (lexer : Lexer) (c : Char) (chars : List Char) :
    lexer.feed? (c :: chars) = (lexer.take? c).bind (·.feed? chars) := rfl

/-- Characters are taken from left to right. -/
theorem feed?_append (lexer : Lexer) (first second : List Char) :
    lexer.feed? (first ++ second) = (lexer.feed? first).bind (·.feed? second) := by
  simp [feed?, List.foldlM_append]

/-- The token under way is complete, and with it the tokens are the given ones, last first. -/
structure Ends (lexer : Lexer) (tokens : List JsonToken) : Prop where
  finish_eq : lexer.finish? = some tokens.reverse
  take_eq : ∀ c : Char, endsToken c = true → lexer.take? c = begin? tokens c

/-- Between tokens nothing is unfinished. -/
theorem between_ends (tokens : List JsonToken) : Ends ⟨.between, tokens⟩ tokens :=
  ⟨rfl, fun _ _ => rfl⟩

end Lexer

open Lexer

/-- Between tokens, the text adds tokens and may leave the last of them open. -/
def Spells (chars : List Char) (tokens : List JsonToken) : Prop :=
  ∀ before, ∃ lexer, feed? ⟨.between, before⟩ chars = some lexer ∧
    lexer.Ends (tokens.reverse ++ before)

/-- Between tokens, the text adds tokens and leaves the lexer between tokens again. -/
def Closes (chars : List Char) (tokens : List JsonToken) : Prop :=
  ∀ before, feed? ⟨.between, before⟩ chars = some ⟨.between, tokens.reverse ++ before⟩

/-- A text after which nothing is unfinished spells its tokens. -/
theorem Closes.spells {chars : List Char} {tokens : List JsonToken} (closes : Closes chars tokens) :
    Spells chars tokens := fun before =>
  ⟨_, closes before, between_ends _⟩

/-- Texts after which nothing is unfinished may follow each other. -/
theorem Closes.append {first second : List Char} {s t : List JsonToken} (closes : Closes first s)
    (follows : Closes second t) : Closes (first ++ second) (s ++ t) := by
  intro before
  rw [feed?_append, closes before, Option.bind_some, follows, List.reverse_append,
    List.append_assoc]

/-- Behind a text after which nothing is unfinished, any spelling may follow. -/
theorem Closes.append_spells {first second : List Char} {s t : List JsonToken}
    (closes : Closes first s) (follows : Spells second t) : Spells (first ++ second) (s ++ t) := by
  intro before
  rw [feed?_append, closes before, Option.bind_some, List.reverse_append, List.append_assoc]
  exact follows (s.reverse ++ before)

/-- A text that belongs to no number and no word ends the token before it. -/
theorem Spells.append {first second : List Char} {s t : List JsonToken} (c : Char)
    (spells : Spells first s) (ending : endsToken c = true) (follows : Closes (c :: second) t) :
    Closes (first ++ c :: second) (s ++ t) := by
  intro before
  obtain ⟨lexer, fed, ends⟩ := spells before
  have rest := follows (s.reverse ++ before)
  rw [feed?_cons] at rest
  rw [feed?_append, fed, Option.bind_some, feed?_cons, ends.take_eq c ending,
    List.reverse_append, List.append_assoc]
  exact rest

/-- A text that spells tokens is read as these tokens. -/
theorem Spells.lex?_eq {text : String} {tokens : List JsonToken}
    (spells : Spells text.toList tokens) :
    lex? text = some tokens := by
  obtain ⟨lexer, fed, ends⟩ := spells []
  rw [feed?] at fed
  simpa [lex?, fed] using ends.finish_eq

/-! ## Marks and blanks -/

/-- A mark spells its token. -/
theorem closes_mark (c : Char) (token : JsonToken) (mark : ofMark? c = some token) :
    Closes [c] [token] := by
  intro before
  unfold ofMark? at mark
  split at mark
  case h_7 => simp at mark
  all_goals
    obtain rfl := Option.some.inj mark
    rfl

/-- Blanks spell nothing. -/
theorem closes_blanks (chars : List Char) (blank : ∀ c ∈ chars, isJsonBlank c = true) :
    Closes chars [] := by
  intro before
  induction chars with
  | nil => rfl
  | cons c chars inductionHypothesis =>
    rw [List.forall_mem_cons] at blank
    simp [take?, begin?, blank.1, inductionHypothesis blank.2]

/-! ## Words and numbers -/

/-- Letters extend the word that is being read. -/
theorem feed?_word (read chars : List Char) (tokens : List JsonToken)
    (letters : ∀ c ∈ chars, c.isAlpha = true) :
    feed? ⟨.word read, tokens⟩ chars = some ⟨.word (chars.reverse ++ read), tokens⟩ := by
  induction chars generalizing read with
  | nil => rfl
  | cons c chars inductionHypothesis =>
    rw [List.forall_mem_cons] at letters
    simp [take?, letters.1, inductionHypothesis (c :: read) letters.2]

/-- A word that stands for a token spells it. -/
theorem spells_word (first : Char) (rest : List Char) (token : JsonToken)
    (begun : ∀ before, begin? before first = some ⟨.word [first], before⟩)
    (letters : ∀ c ∈ rest, c.isAlpha = true)
    (known : ofWord? (rest.reverse ++ [first]) = some token) : Spells (first :: rest) [token] := by
  intro before
  refine ⟨⟨.word (rest.reverse ++ [first]), before⟩, ?_, ?_, ?_⟩
  · rw [feed?_cons, take?, begun, Option.bind_some, feed?_word [first] rest before letters]
  · simp [finish?, known]
  · intro c ending
    have notAlpha : c.isAlpha = false := by simpa using (Bool.and_eq_true_iff.mp ending).1
    simp [take?, notAlpha, known]

/-- The word null spells its token. -/
theorem spells_null : Spells "null".toList [null] :=
  spells_word 'n' ['u', 'l', 'l'] null (fun _ => rfl) (List.all_eq_true.mp rfl) rfl

/-- The words of the flags spell their tokens. -/
theorem spells_flag (b : Bool) : Spells (Inspect.flag b).toList [bool b] := by
  cases b with
  | false =>
    exact spells_word 'f' ['a', 'l', 's', 'e'] (bool false) (fun _ => rfl)
      (List.all_eq_true.mp rfl) rfl
  | true =>
    exact spells_word 't' ['r', 'u', 'e'] (bool true) (fun _ => rfl) (List.all_eq_true.mp rfl) rfl

/-- Characters of a number extend the number that is being read. -/
theorem feed?_number (read chars : List Char) (tokens : List JsonToken)
    (numeric : ∀ c ∈ chars, isNumberChar c = true) :
    feed? ⟨.number read, tokens⟩ chars = some ⟨.number (chars.reverse ++ read), tokens⟩ := by
  induction chars generalizing read with
  | nil => rfl
  | cons c chars inductionHypothesis =>
    rw [List.forall_mem_cons] at numeric
    simp [take?, numeric.1, inductionHypothesis (c :: read) numeric.2]

/-- A number that survives is spelled by its text. -/
theorem spells_number (n : JsonNumber) (survives : n.survives = true) :
    Spells n.text.toList [num (some n)] := by
  intro before
  obtain ⟨parts, split, denotes⟩ := Option.bind_eq_some_iff.mp (of_decide_eq_true survives)
  obtain ⟨first, rest, chars, leading, numeric⟩ := JsonNumber.chars_of_parts? _ parts split
  have begun : begin? before first = some ⟨.number [first], before⟩ := by
    rcases leading with digit | rfl
    · have notBlank : isJsonBlank first = false := by
        cases blank : isJsonBlank first with
        | false => rfl
        | true =>
          simp only [isJsonBlank, Bool.or_eq_true, beq_iff_eq] at blank
          rcases blank with ((rfl | rfl) | rfl) | rfl <;> exact absurd digit (by decide)
      have notQuote : first ≠ '"' := by
        rintro rfl
        exact absurd digit (by decide)
      simp [begin?, notBlank, notQuote, digit]
    · rfl
  have reversed : (rest.reverse ++ [first]).reverse = n.text.toList := by simp [chars]
  have token : ofNumber? (rest.reverse ++ [first]) = some (num (some n)) := by
    rw [ofNumber?, reversed, split, Option.map_some, denotes]
  refine ⟨⟨.number (rest.reverse ++ [first]), before⟩, ?_, ?_, ?_⟩
  · rw [chars, feed?_cons, take?, begun, Option.bind_some,
      feed?_number [first] rest before numeric]
  · simp [finish?, token]
  · intro c ending
    have notNumber : isNumberChar c = false := by simpa using (Bool.and_eq_true_iff.mp ending).2
    simp [take?, notNumber, token]

/-! ## Strings -/

/-- Control characters are escaped, by a letter or by their number. -/
theorem feed?_control (n : Nat) (control : n < 32) (read : List Char) (tokens : List JsonToken) :
    feed? ⟨.text (some read), tokens⟩ (Json.stringChar (Char.ofNat n)).toList =
      some ⟨.text (some (Char.ofNat n :: read)), tokens⟩ := by
  interval_cases n <;> rfl

/-- What is written for a character of a string adds that character. -/
theorem feed?_stringChar (c : Char) (read : List Char) (tokens : List JsonToken) :
    feed? ⟨.text (some read), tokens⟩ (Json.stringChar c).toList =
      some ⟨.text (some (c :: read)), tokens⟩ := by
  by_cases control : c.toNat < 32
  · have escaped := feed?_control c.toNat control read tokens
    rwa [Char.ofNat_toNat] at escaped
  · by_cases quote : c = '"'
    · subst quote
      rfl
    · by_cases backslash : c = '\\'
      · subst backslash
        rfl
      · have plain : Json.stringChar c = c.toString := by
          have others : c ≠ '\n' ∧ c ≠ '\r' ∧ c ≠ '\t' := by
            refine ⟨?_, ?_, ?_⟩ <;> rintro rfl <;> exact control (by decide)
          have numbers : c.toNat ≠ 8 ∧ c.toNat ≠ 12 ∧ ¬ c.toNat < 16 := by omega
          simp [Json.stringChar, quote, backslash, others, numbers, control]
        simp [plain, take?, inText?, quote, backslash, control, Draft.push]

/-- What is written for the characters of a string adds these characters. -/
theorem feed?_stringChars (chars read : List Char) (tokens : List JsonToken) :
    feed? ⟨.text (some read), tokens⟩ (chars.flatMap fun c => (Json.stringChar c).toList) =
      some ⟨.text (some (chars.reverse ++ read)), tokens⟩ := by
  induction chars generalizing read with
  | nil => rfl
  | cons c chars inductionHypothesis =>
    simp [feed?_append, feed?_stringChar, inductionHypothesis]

/-- A string closes, whatever its characters are. -/
theorem closes_string (s : String) : Closes (Json.stringText s).toList [str (some s)] := by
  intro before
  have text : (Json.stringText s).toList =
      '"' :: ((s.toList.flatMap fun c => (Json.stringChar c).toList) ++ ['"']) := by
    simp [Json.stringText, List.flatMap_map]
  have opening : take? ⟨.between, before⟩ '"' = some ⟨.text (some []), before⟩ := rfl
  rw [text, feed?_cons, opening, Option.bind_some, feed?_append, feed?_stringChars,
    Option.bind_some]
  simp [take?, inText?, ofDraft]

/-! ## Lists -/

/-- Texts that spell tokens, separated by commas, and a text behind them that ends the last. -/
theorem closes_joined {α : Type} (text : α → String) (tokens : α → List JsonToken)
    (gap : List Char) (blank : ∀ c ∈ gap, isJsonBlank c = true) (separator : String)
    (comma : separator.toList = ',' :: gap) (c : Char) (rest : List Char) (last : List JsonToken)
    (ending : endsToken c = true) (closing : Closes (c :: rest) last) (xs : List α)
    (each : ∀ x ∈ xs, Spells (text x).toList (tokens x)) :
    Closes ((String.intercalate separator (xs.map text)).toList ++ c :: rest)
      ([JsonToken.comma].intercalate (xs.map tokens) ++ last) := by
  induction xs with
  | nil => simpa using closing
  | cons x xs inductionHypothesis =>
    rw [List.forall_mem_cons] at each
    cases xs with
    | nil => simpa using each.1.append c ending closing
    | cons y ys =>
      have others := inductionHypothesis each.2
      have separated : Closes (',' :: (gap ++ ((String.intercalate separator
          ((y :: ys).map text)).toList ++ c :: rest)))
          (.comma :: ([JsonToken.comma].intercalate ((y :: ys).map tokens) ++ last)) :=
        (closes_mark ',' .comma rfl).append ((closes_blanks gap blank).append others)
      have joined := each.1.append ',' rfl separated
      simpa [String.intercalate_cons_cons, List.intercalate_cons_cons, comma] using joined

/-- A list between brackets, with blanks in front of each entry and of the closing bracket. -/
theorem closes_bracketed {α : Type} (text : α → String) (tokens : α → List JsonToken)
    (gap gapEnd : List Char) (blank : ∀ c ∈ gap, isJsonBlank c = true)
    (blankEnd : ∀ c ∈ gapEnd, isJsonBlank c = true) (separator : String)
    (comma : separator.toList = ',' :: gap) (opening closing : Char) (first last : JsonToken)
    (opens : ofMark? opening = some first) (closes : ofMark? closing = some last) (xs : List α)
    (each : ∀ x ∈ xs, Spells (text x).toList (tokens x)) :
    Closes (opening :: (gap ++ ((String.intercalate separator (xs.map text)).toList ++
        (gapEnd ++ [closing]))))
      (first :: ([JsonToken.comma].intercalate (xs.map tokens) ++ [last])) := by
  have ending : Closes (gapEnd ++ [closing]) [last] :=
    (closes_blanks gapEnd blankEnd).append (closes_mark closing last closes)
  have content : Closes ((String.intercalate separator (xs.map text)).toList ++
      (gapEnd ++ [closing])) ([JsonToken.comma].intercalate (xs.map tokens) ++ [last]) := by
    cases gapEnd with
    | nil =>
      exact closes_joined text tokens gap blank separator comma closing [] [last]
        (endsToken_of_mark closing last closes) ending xs each
    | cons c rest =>
      exact closes_joined text tokens gap blank separator comma c (rest ++ [closing]) [last]
        (endsToken_of_blank c (blankEnd c List.mem_cons_self)) ending xs each
  exact (closes_mark opening first opens).append ((closes_blanks gap blank).append content)

end JsonToken

end LoopKernels
