import LoopKernels.Proofs.Json.Spelling

/-!
# Reading back written values

What a format has to do is said without its texts: a value whose doubles the format keeps
is read back from what was written of it. Which doubles are kept is left open, since a
reader may round other than a writer does.

Both formats here do so for the doubles that their texts denote. The two texts of a value
spell the same tokens, and the tokens of a value are put together to that value.
-/

namespace LoopKernels.Json

/-- A value that denotes something and holds no doubles but kept ones. -/
inductive Written (keeps : Float → Bool) : Json → Prop where
  | null : Written keeps null
  | bool (b : Bool) : Written keeps (bool b)
  | natural (n : UInt64) : Written keeps (num (.natural n))
  | negative (n : Int64) (below : n.toInt < 0) : Written keeps (num (.negative n))
  | real (x : Float) (kept : keeps x = true) : Written keeps (num (.real x))
  | str (s : String) : Written keeps (str s)
  | arr (items : List Json) (each : ∀ item ∈ items, Written keeps item) :
    Written keeps (arr items)
  | obj (members : List (String × Json)) (each : ∀ entry ∈ members, Written keeps entry.2) :
    Written keeps (obj members)

/-- The format reads back what it writes, for values with kept doubles only that are not nested
    deeper than a reader follows. -/
def Format.Faithful (format : Format) (keeps : Float → Bool) : Prop :=
  ∀ v, v.Written keeps → v.readable nestingLimit = true → format.read? (format.write v) = some v

/-- The double is what its text denotes. -/
def denoted (x : Float) : Bool := (JsonNumber.real x).survives

mutual

/-- The tokens of a value. -/
def tokens : Json → List JsonToken
  | null | noValue => [.null]
  | bool b => [.bool b]
  | num n => [.num (some n)]
  | str s => [.str (some s)]
  | arr items => .openArray :: ([JsonToken.comma].intercalate (itemTokens items) ++ [.closeArray])
  | obj members =>
    .openObject :: ([JsonToken.comma].intercalate (memberTokens members) ++ [.closeObject])
termination_by structural value => value

/-- The tokens of each item. -/
def itemTokens : List Json → List (List JsonToken)
  | [] => []
  | item :: rest => item.tokens :: itemTokens rest
termination_by structural items => items

/-- The tokens of each member. -/
def memberTokens : List (String × Json) → List (List JsonToken)
  | [] => []
  | entry :: rest => entryTokens entry :: memberTokens rest
termination_by structural members => members

/-- The tokens of a key and its value. -/
def entryTokens : String × Json → List JsonToken
  | (key, value) => .str (some key) :: .colon :: value.tokens
termination_by structural entry => entry

end

/-- A function that goes through a list entry by entry maps the list. Structural recursion over
    nested data makes such functions, one for each list that the data holds. -/
theorem eq_map_of_cons {α β : Type} {each : α → β} {all : List α → List β} (nil : all [] = [])
    (cons : ∀ x xs, all (x :: xs) = each x :: all xs) (xs : List α) : all xs = xs.map each := by
  induction xs with
  | nil => exact nil
  | cons x xs inductionHypothesis => rw [cons, inductionHypothesis, List.map_cons]

/-- The items of an array are spelled one by one. -/
theorem itemTokens_eq (items : List Json) : itemTokens items = items.map tokens :=
  eq_map_of_cons rfl (fun _ _ => rfl) items

/-- The members of an object are spelled one by one. -/
theorem memberTokens_eq (members : List (String × Json)) :
    memberTokens members = members.map entryTokens :=
  eq_map_of_cons rfl (fun _ _ => rfl) members

/-! ## Spelling -/

section Spelling

open JsonToken

variable {v : Json}

/-- The items of an array are written one by one. -/
theorem compactItems_eq (items : List Json) : compactItems items = items.map compact :=
  eq_map_of_cons rfl (fun _ _ => rfl) items

/-- The members of an object are written one by one. -/
theorem compactMembers_eq (members : List (String × Json)) :
    compactMembers members = members.map compactMember :=
  eq_map_of_cons rfl (fun _ _ => rfl) members

/-- A key, a colon and perhaps blanks in front of a value. -/
theorem spells_entry (key : String) (value : Json) (gap text : List Char)
    (blank : ∀ c ∈ gap, isJsonBlank c = true) (spells : Spells text value.tokens) :
    Spells ((stringText key).toList ++ ':' :: (gap ++ text)) (entryTokens (key, value)) := by
  have follows := (closes_mark ':' .colon rfl).append_spells
    ((closes_blanks gap blank).append_spells spells)
  exact (closes_string key).append_spells follows

/-- The text without blanks spells the tokens of the value. -/
theorem Written.spells_compact (written : v.Written denoted) :
    Spells v.compact.toList v.tokens := by
  induction written with
  | null => exact spells_null
  | bool b => exact spells_flag b
  | natural n => exact spells_number _ (JsonNumber.natural_survives n)
  | negative n below => exact spells_number _ (JsonNumber.negative_survives n below)
  | real x kept => exact spells_number _ kept
  | str s => exact (closes_string s).spells
  | arr items _ each =>
    have listed := closes_bracketed compact tokens [] [] (by simp) (by simp) "," rfl '[' ']' _ _
      rfl rfl items each
    simpa [compact, tokens, compactItems_eq, itemTokens_eq] using listed.spells
  | obj members _ each =>
    have entries : ∀ entry ∈ members, Spells (compactMember entry).toList (entryTokens entry) := by
      rintro ⟨key, value⟩ member
      simpa [compactMember] using spells_entry key value [] _ (by simp) (each _ member)
    have listed := closes_bracketed compactMember entryTokens [] [] (by simp) (by simp) "," rfl
      '\x7b' '\x7d' _ _ rfl rfl members entries
    simpa [compact, tokens, compactMembers_eq, memberTokens_eq] using listed.spells

/-- The items of an array are written one by one, all at the same level. -/
theorem indentedItems_eq (level : Nat) (items : List Json) :
    indentedItems level items = items.map (indented level) :=
  eq_map_of_cons rfl (fun _ _ => rfl) items

/-- The members of an object are written one by one, all at the same level. -/
theorem indentedMembers_eq (level : Nat) (members : List (String × Json)) :
    indentedMembers level members = members.map (indentedMember level) :=
  eq_map_of_cons rfl (fun _ _ => rfl) members

/-- Indentation is blank. -/
theorem isJsonBlank_indentation (level : Nat) :
    ∀ c ∈ (indentation level).toList, isJsonBlank c = true := by
  rw [indentation, String.pushn_eq_repeat_push]
  induction 2 * level with
  | zero => simp [Nat.repeat]
  | succ count inductionHypothesis =>
    simp only [Nat.repeat, String.toList_push, List.forall_mem_append]
    exact ⟨inductionHypothesis, List.all_eq_true.mp rfl⟩

/-- One entry a line, between brackets. -/
theorem closes_lines {α : Type} (text : α → String) (spelled : α → List JsonToken)
    (level : Nat) (opening closing : Char) (first last : JsonToken)
    (opens : ofMark? opening = some first) (closes : ofMark? closing = some last) (xs : List α)
    (each : ∀ x ∈ xs, Spells (text x).toList (spelled x)) :
    Closes (bracketed (String.singleton opening) (String.singleton closing) level
        (xs.map text)).toList
      (first :: ([JsonToken.comma].intercalate (xs.map spelled) ++ [last])) := by
  cases xs with
  | nil =>
    have empty := (closes_mark opening first opens).append (closes_mark closing last closes)
    simpa [bracketed] using empty
  | cons x xs =>
    have blank : ∀ level, ∀ c ∈ '\n' :: (indentation level).toList, isJsonBlank c = true :=
      fun level => List.forall_mem_cons.mpr ⟨rfl, isJsonBlank_indentation level⟩
    have listed := closes_bracketed text spelled ('\n' :: (indentation (level + 1)).toList)
      ('\n' :: (indentation level).toList) (blank (level + 1)) (blank level)
      ("," ++ ("\n" ++ indentation (level + 1))) (by simp) opening closing first last opens closes
      (x :: xs) each
    simpa [bracketed] using listed

/-- The text with one entry a line spells the tokens of the value, at every level. -/
theorem Written.spells_indented (written : v.Written denoted) (level : Nat) :
    Spells (v.indented level).toList v.tokens := by
  induction written generalizing level with
  | null => exact spells_null
  | bool b => exact spells_flag b
  | natural n => exact spells_number _ (JsonNumber.natural_survives n)
  | negative n below => exact spells_number _ (JsonNumber.negative_survives n below)
  | real x kept => exact spells_number _ kept
  | str s => exact (closes_string s).spells
  | arr items _ each =>
    have listed := closes_lines (indented (level + 1)) tokens level '[' ']' _ _ rfl rfl items
      fun item member => each item member (level + 1)
    rw [indented, indentedItems_eq, tokens, itemTokens_eq]
    exact listed.spells
  | obj members _ each =>
    have entries : ∀ entry ∈ members,
        Spells (indentedMember (level + 1) entry).toList (entryTokens entry) := by
      rintro ⟨key, value⟩ member
      simpa [indentedMember] using
        spells_entry key value [' '] _ (List.all_eq_true.mp rfl) (each _ member (level + 1))
    have listed := closes_lines (indentedMember (level + 1)) entryTokens level '\x7b' '\x7d' _ _
      rfl rfl members entries
    rw [indented, indentedMembers_eq, tokens, memberTokens_eq]
    exact listed.spells

end Spelling

/-! ## Assembly -/

namespace Assembly

/-- The machine after a list of tokens. -/
def feed? (state : Assembly) (tokens : List JsonToken) : Option Assembly :=
  tokens.foldlM take? state

/-- No token changes nothing. -/
@[simp] theorem feed?_nil (state : Assembly) : state.feed? [] = some state := rfl

/-- The first token is taken first. -/
@[simp] theorem feed?_cons (state : Assembly) (token : JsonToken) (tokens : List JsonToken) :
    state.feed? (token :: tokens) = (state.take? token).bind (·.feed? tokens) := rfl

/-- Tokens are taken from left to right. -/
theorem feed?_append (state : Assembly) (first second : List JsonToken) :
    state.feed? (first ++ second) = (state.feed? first).bind (·.feed? second) := by
  simp [feed?, List.foldlM_append]

/-- The tokens of a value complete it, where a value is expected or where an array may end. -/
def Completes (v : Json) : Prop :=
  ∀ frames phase, phase = .value ∨ phase = .firstItem →
    feed? ⟨frames, phase⟩ v.tokens = some ⟨frames, .after v⟩

/-- The items of an array, from one of them to the closing bracket. -/
theorem feed?_items (item : Json) (items : List Json) (each : ∀ v ∈ item :: items, Completes v)
    (frames : List Frame) (seen : List Json) (phase : Phase)
    (expected : phase = .value ∨ phase = .firstItem) :
    feed? ⟨.array seen :: frames, phase⟩
        ([JsonToken.comma].intercalate ((item :: items).map tokens) ++ [.closeArray]) =
      some ⟨frames, .after (.arr (seen.reverse ++ item :: items))⟩ := by
  induction items generalizing item seen phase with
  | nil =>
    have first := each item (by simp) (.array seen :: frames) phase expected
    simp [feed?_append, first, take?]
  | cons next items inductionHypothesis =>
    rw [List.forall_mem_cons] at each
    have first := each.1 (.array seen :: frames) phase expected
    have others := inductionHypothesis next each.2 (item :: seen) .value (.inl rfl)
    simp only [List.map_cons, List.intercalate_cons_cons, List.append_assoc, feed?_append, first,
      Option.bind_some]
    simpa [feed?_append, take?] using others

/-- The members of an object, from one of them to the closing bracket. -/
theorem feed?_members (entry : String × Json) (members : List (String × Json))
    (each : ∀ other ∈ entry :: members, Completes other.2) (frames : List Frame)
    (seen : List (String × Json)) (phase : Phase) (expected : phase = .firstKey ∨ phase = .key) :
    feed? ⟨.object (some seen) :: frames, phase⟩
        ([JsonToken.comma].intercalate ((entry :: members).map entryTokens) ++ [.closeObject]) =
      some ⟨frames, .after (.obj (seen.reverse ++ entry :: members))⟩ := by
  have key : ∀ (entry : String × Json) seen phase, phase = .firstKey ∨ phase = .key →
      Completes entry.2 →
      feed? ⟨.object (some seen) :: frames, phase⟩ (entryTokens entry) =
        some ⟨.member (some seen) (some entry.1) :: frames, .after entry.2⟩ := by
    rintro ⟨key, value⟩ seen phase expected completes
    have inner := completes (.member (some seen) (some key) :: frames) .value (.inl rfl)
    rcases expected with rfl | rfl <;> simpa [entryTokens, take?] using inner
  induction members generalizing entry seen phase with
  | nil =>
    have first := key entry seen phase expected (each entry (by simp))
    simp [feed?_append, first, take?, Members.push, Members.close]
  | cons next members inductionHypothesis =>
    rw [List.forall_mem_cons] at each
    have first := key entry seen phase expected each.1
    have others := inductionHypothesis next each.2 (entry :: seen) .key (.inr rfl)
    simp only [List.map_cons, List.intercalate_cons_cons, List.append_assoc, feed?_append, first,
      Option.bind_some]
    simpa [feed?_append, take?, Members.push] using others

/-- Every written value is completed by its tokens. -/
theorem completes_of_written {keeps : Float → Bool} (v : Json) (written : v.Written keeps) :
    Completes v := by
  induction written with
  | null | bool | natural | negative | real | str =>
    rintro frames phase (rfl | rfl) <;> rfl
  | arr items _ each =>
    intro frames phase expected
    have opening : take? ⟨frames, phase⟩ .openArray = some ⟨.array [] :: frames, .firstItem⟩ := by
      rcases expected with rfl | rfl <;> rfl
    rw [tokens, itemTokens_eq, feed?_cons, opening, Option.bind_some]
    cases items with
    | nil => rfl
    | cons item items => exact feed?_items item items each frames [] .firstItem (.inr rfl)
  | obj members _ each =>
    intro frames phase expected
    have opening : take? ⟨frames, phase⟩ .openObject =
        some ⟨.object (some []) :: frames, .firstKey⟩ := by
      rcases expected with rfl | rfl <;> rfl
    rw [tokens, memberTokens_eq, feed?_cons, opening, Option.bind_some]
    cases members with
    | nil => rfl
    | cons entry members => exact feed?_members entry members each frames [] .firstKey (.inl rfl)

end Assembly

/-- The tokens of a written value are put together to it. -/
theorem Written.ofTokens?_eq {v : Json} {keeps : Float → Bool} (written : v.Written keeps) :
    ofTokens? v.tokens = some v := by
  have completed := Assembly.completes_of_written v written [] .value (.inl rfl)
  rw [Assembly.feed?] at completed
  simp [ofTokens?, completed, Assembly.finish?]

/-- A written value is read back from its text without blanks. -/
theorem Written.read?_compact {v : Json} (written : v.Written denoted) :
    read? v.compact = some v := by
  rw [read?, written.spells_compact.lex?_eq]
  exact written.ofTokens?_eq

/-- A written value is read back from its text with one entry a line. -/
theorem Written.read?_pretty {v : Json} (written : v.Written denoted) :
    read? v.pretty = some v := by
  rw [read?, pretty, (written.spells_indented 0).lex?_eq]
  exact written.ofTokens?_eq

/-- The format with one entry a line reads back what it writes. -/
theorem Format.lines_faithful : Format.lines.Faithful denoted :=
  fun _ written _ => written.read?_pretty

/-- The format without blanks reads back what it writes. -/
theorem Format.dense_faithful : Format.dense.Faithful denoted :=
  fun _ written _ => written.read?_compact

end LoopKernels.Json
