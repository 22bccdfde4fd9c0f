import LoopKernels.Text.Pattern

/-!
# What patterns match

A pattern stands for a set of texts. The matcher finds every way to take such a text
from the front of another, so it accepts a whole text exactly when the text is in the
set. Which way it prefers matters only where several are open to it: a repetition of
one character takes as many as it can, and a pattern whose matches are never
continued by another match leaves no choice.
-/

namespace LoopKernels.Pattern

/-- The texts that match a pattern as a whole. -/
def Matches : Pattern → List Char → Prop
  | one accepts, text => ∃ c, accepts c = true ∧ text = [c]
  | seq first second, text =>
    ∃ front back, text = front ++ back ∧ first.Matches front ∧ second.Matches back
  | optional p, text => text = [] ∨ p.Matches text
  | many p, text =>
    ∃ parts : List (List Char), text = parts.flatten ∧ ∀ part ∈ parts, p.Matches part

/-- A repetition leaves what is behind any number of its rounds. The rounds that take nothing
    are not made, and leaving them out changes neither the text nor what is left. -/
theorem mem_rounds (round : List Char → List (List Char)) (holds : List Char → Prop)
    (sound : ∀ text rest, rest ∈ round text ↔ ∃ taken, text = taken ++ rest ∧ holds taken)
    (most : Nat) (text rest : List Char) (enough : text.length ≤ most) :
    rest ∈ rounds round most text ↔
      ∃ parts : List (List Char), text = parts.flatten ++ rest ∧ ∀ part ∈ parts, holds part := by
  induction most generalizing text with
  | zero =>
    obtain rfl := List.length_eq_zero_iff.mp (Nat.le_zero.mp enough)
    simp only [rounds, List.mem_singleton]
    constructor
    · rintro rfl
      exact ⟨[], rfl, by simp⟩
    · rintro ⟨parts, nothing, -⟩
      exact (List.append_eq_nil_iff.mp nothing.symm).2
  | succ more inductionHypothesis =>
    simp only [rounds, List.mem_append, List.mem_flatMap, List.mem_filter, List.mem_singleton,
      decide_eq_true_eq]
    constructor
    · rintro (⟨between, ⟨taken, shorter⟩, further⟩ | rfl)
      · obtain ⟨part, rfl, first⟩ := (sound text between).mp taken
        obtain ⟨parts, rfl, others⟩ := (inductionHypothesis between (by omega)).mp further
        exact ⟨part :: parts, by simp, by simpa using ⟨first, others⟩⟩
      · exact ⟨[], rfl, by simp⟩
    · rintro ⟨parts, rfl, all⟩
      induction parts with
      | nil => exact .inr rfl
      | cons part parts others =>
        rw [List.forall_mem_cons] at all
        rcases Decidable.em (part = []) with rfl | something
        · simpa using others all.2 (by simpa using enough)
        · have shorter :
              (parts.flatten ++ rest).length < ((part :: parts).flatten ++ rest).length := by
            have := List.length_pos_iff.mpr something
            simp only [List.flatten_cons, List.length_append]
            omega
          refine .inl ⟨parts.flatten ++ rest, ⟨(sound _ _).mpr ⟨part, by simp, all.1⟩, shorter⟩, ?_⟩
          exact (inductionHypothesis _ (by omega)).mpr ⟨parts, rfl, all.2⟩

/-- The matcher finds every way to take a match from the front of a text. -/
theorem mem_rests (p : Pattern) (text rest : List Char) :
    rest ∈ p.rests text ↔ ∃ taken, text = taken ++ rest ∧ p.Matches taken := by
  induction p generalizing text rest with
  | one accepts =>
    cases text with
    | nil => simp [rests, Matches]
    | cons c text =>
      have front : (∃ taken, c :: text = taken ++ rest ∧ (one accepts).Matches taken) ↔
          accepts c = true ∧ text = rest := by
        constructor
        · rintro ⟨_, split, first, accepted, rfl⟩
          obtain ⟨rfl, rfl⟩ := List.cons.inj split
          exact ⟨accepted, rfl⟩
        · rintro ⟨accepted, rfl⟩
          exact ⟨[c], rfl, c, accepted, rfl⟩
      rw [front, rests]
      by_cases accepted : accepts c <;> simp [accepted, eq_comm]
  | seq first second atFirst atSecond =>
    simp only [rests, List.mem_flatMap, atFirst, atSecond, Matches]
    constructor
    · rintro ⟨_, ⟨front, rfl, matched⟩, back, rfl, behind⟩
      exact ⟨front ++ back, by simp, front, back, rfl, matched, behind⟩
    · rintro ⟨_, rfl, front, back, rfl, matched, behind⟩
      exact ⟨back ++ rest, ⟨front, by simp, matched⟩, back, rfl, behind⟩
  | optional p inside =>
    simp only [rests, List.mem_append, List.mem_singleton, inside, Matches]
    constructor
    · rintro (⟨taken, rfl, matched⟩ | rfl)
      · exact ⟨taken, rfl, .inr matched⟩
      · exact ⟨[], rfl, .inl rfl⟩
    · rintro ⟨taken, rfl, rfl | matched⟩
      · exact .inr rfl
      · exact .inl ⟨taken, rfl, matched⟩
  | many p inside =>
    rw [rests, mem_rounds p.rests p.Matches inside text.length text rest (Nat.le_refl _)]
    constructor
    · rintro ⟨parts, rfl, all⟩
      exact ⟨parts.flatten, rfl, parts, rfl, all⟩
    · rintro ⟨_, rfl, parts, rfl, all⟩
      exact ⟨parts, rfl, all⟩

/-- A whole text is accepted exactly when it matches. -/
theorem matchesAll_iff (p : Pattern) (text : List Char) :
    p.matchesAll text = true ↔ p.Matches text := by
  rw [matchesAll, List.any_eq_true]
  constructor
  · rintro ⟨rest, left, nothing⟩
    obtain rfl := List.isEmpty_iff.mp nothing
    obtain ⟨taken, rfl, matched⟩ := (mem_rests p text []).mp left
    simpa using matched
  · intro matched
    exact ⟨[], (mem_rests p text []).mpr ⟨text, by simp, matched⟩, rfl⟩

/-! ## The patterns put together from others -/

/-- A character matches itself. -/
@[simp] theorem matches_char (c : Char) (text : List Char) :
    (char c).Matches text ↔ text = [c] := by
  simp [char, Matches]

/-- Characters of a class, and at least one of them. -/
theorem matches_some_one (accepts : Char → Bool) (text : List Char) :
    (some (one accepts)).Matches text ↔ text ≠ [] ∧ ∀ c ∈ text, accepts c = true := by
  simp only [some, Matches]
  constructor
  · rintro ⟨_, _, rfl, ⟨first, accepted, rfl⟩, parts, rfl, all⟩
    refine ⟨by simp, List.forall_mem_append.mpr ⟨by simpa using accepted, ?_⟩⟩
    intro c listed
    obtain ⟨part, member, inside⟩ := List.mem_flatten.mp listed
    obtain ⟨other, also, rfl⟩ := all part member
    rw [List.mem_singleton.mp inside]
    exact also
  · rintro ⟨something, all⟩
    obtain ⟨c, rest, rfl⟩ := List.exists_cons_of_ne_nil something
    rw [List.forall_mem_cons] at all
    refine ⟨[c], rest, rfl, ⟨c, all.1, rfl⟩, rest.map ([·]), by simp [← List.flatMap_def], ?_⟩
    simpa using all.2

/-- Texts with commas between them, and at least one of them. -/
theorem matches_separated (p : Pattern) (text : List Char) :
    (separated ',' p).Matches text ↔ ∃ texts : List String, texts ≠ [] ∧
      (∀ one ∈ texts, p.Matches one.toList) ∧ text = (String.intercalate "," texts).toList := by
  constructor
  · rintro ⟨front, _, rfl, first, parts, rfl, others⟩
    -- Each further part is a comma and a text that the induction takes as its first.
    induction parts generalizing front with
    | nil => exact ⟨[String.ofList front], by simp, by simpa using first, by simp⟩
    | cons part parts inductionHypothesis =>
      rw [List.forall_mem_cons] at others
      obtain ⟨comma, next, rfl, isComma, second⟩ := others.1
      obtain rfl := (matches_char ',' comma).mp isComma
      obtain ⟨texts, something, all, joined⟩ := inductionHypothesis next second others.2
      obtain ⟨head, rest, rfl⟩ := List.exists_cons_of_ne_nil something
      refine ⟨String.ofList front :: head :: rest, by simp, ?_, ?_⟩
      · rw [List.forall_mem_cons]
        exact ⟨by simpa using first, all⟩
      · simp [String.intercalate_cons_cons, ← joined]
  · rintro ⟨texts, something, all, rfl⟩
    obtain ⟨head, rest, rfl⟩ := List.exists_cons_of_ne_nil something
    rw [List.forall_mem_cons] at all
    refine ⟨head.toList, (rest.map fun one => ',' :: one.toList).flatten, ?_, all.1,
      rest.map fun one => ',' :: one.toList, rfl, ?_⟩
    · clear all something
      induction rest generalizing head with
      | nil => simp
      | cons next rest inductionHypothesis =>
        simp [String.intercalate_cons_cons, inductionHypothesis next]
    · rw [List.forall_mem_map]
      intro one listed
      exact ⟨[','], one.toList, rfl, by simp, all.2 one listed⟩

/-! ## Which match is preferred -/

/-- A repetition of one character takes all that it can. -/
theorem head?_rounds_one (accepts : Char → Bool) (most : Nat) (text : List Char)
    (enough : text.length ≤ most) :
    (rounds (one accepts).rests most text).head? = .some (text.dropWhile accepts) := by
  induction most generalizing text with
  | zero =>
    obtain rfl := List.length_eq_zero_iff.mp (Nat.le_zero.mp enough)
    rfl
  | succ more inductionHypothesis =>
    cases text with
    | nil => rfl
    | cons c text =>
      by_cases accepted : accepts c
      · have further := inductionHypothesis text (by simpa using enough)
        simp [rounds, rests, accepted, further]
      · simp [rounds, rests, accepted]

/-- Characters of a class are taken as long as there are more of them. -/
theorem head?_rests_some_one (accepts : Char → Bool) (c : Char) (text : List Char) :
    ((some (one accepts)).rests (c :: text)).head? =
      if accepts c then .some (text.dropWhile accepts) else none := by
  by_cases accepted : accepts c
  · simp [some, rests, accepted, head?_rounds_one accepts text.length text (Nat.le_refl _)]
  · simp [some, rests, accepted]

/-- Where no other match is open, the one there is is taken. -/
theorem head?_rests_of_only (p : Pattern) (taken rest : List Char) (matched : p.Matches taken)
    (only : ∀ other behind, p.Matches other → taken ++ rest = other ++ behind → other = taken) :
    (p.rests (taken ++ rest)).head? = .some rest := by
  have found := (mem_rests p (taken ++ rest) rest).mpr ⟨taken, rfl, matched⟩
  obtain ⟨first, others, listed⟩ := List.exists_cons_of_ne_nil (List.ne_nil_of_mem found)
  obtain ⟨other, split, also⟩ := (mem_rests p (taken ++ rest) first).mp (by simp [listed])
  obtain rfl := only other first also split
  rw [listed, List.head?_cons, List.append_cancel_left split]

/-! ## Searching -/

/-- A search takes its match out of the text, and what is in front of it is passed over. -/
theorem find?_eq_some (p : Pattern) (text found rest : List Char)
    (search : p.find? text = .some (found, rest)) :
    ∃ passed, text = passed ++ (found ++ rest) := by
  induction text with
  | nil =>
    simp only [find?, Option.map_eq_some_iff, Prod.mk.injEq] at search
    obtain ⟨behind, first, rfl, rfl⟩ := search
    obtain ⟨taken, split, -⟩ := (mem_rests p [] _).mp (List.mem_of_head? first)
    exact ⟨[], by simp [(List.append_eq_nil_iff.mp split.symm).2]⟩
  | cons c text inductionHypothesis =>
    rw [find?] at search
    split at search
    next behind first =>
      simp only [Option.some.injEq, Prod.mk.injEq] at search
      obtain ⟨rfl, rfl⟩ := search
      obtain ⟨taken, split, -⟩ := (mem_rests p (c :: text) _).mp (List.mem_of_head? first)
      refine ⟨[], ?_⟩
      simp [split]
    next =>
      obtain ⟨passed, split⟩ := inductionHypothesis search
      exact ⟨c :: passed, by simp [split]⟩

/-- There is nothing to find in the empty text. -/
@[simp] theorem findUpTo_nil (p : Pattern) (most : Nat) : p.findUpTo most [] = [] := by
  cases most with
  | zero => rfl
  | succ more =>
    cases first : (p.rests []).head? <;> simp [findUpTo, find?, first]

/-- A search may be bounded by any number of matches that is not less than the number of
    characters. -/
theorem findUpTo_eq (p : Pattern) (most other : Nat) (text : List Char)
    (enough : text.length ≤ most) (otherEnough : text.length ≤ other) :
    p.findUpTo most text = p.findUpTo other text := by
  induction most generalizing other text with
  | zero =>
    obtain rfl := List.length_eq_zero_iff.mp (Nat.le_zero.mp enough)
    simp
  | succ more inductionHypothesis =>
    cases other with
    | zero =>
      obtain rfl := List.length_eq_zero_iff.mp (Nat.le_zero.mp otherEnough)
      simp
    | succ otherMore =>
      rw [findUpTo, findUpTo]
      split
      next first found rest search =>
        obtain ⟨passed, split⟩ := find?_eq_some p text (first :: found) rest search
        have shorter := congrArg List.length split
        simp only [List.length_cons, List.length_append] at shorter
        rw [inductionHypothesis otherMore rest (by omega) (by omega)]
      next => rfl

/-- A match at the front of the text is the first one, and the search goes on behind it. -/
theorem findAll_taken (p : Pattern) (taken rest : List Char) (something : taken ≠ [])
    (first : (p.rests (taken ++ rest)).head? = .some rest) :
    p.findAll (taken ++ rest) = taken :: p.findAll rest := by
  obtain ⟨c, taken, rfl⟩ := List.exists_cons_of_ne_nil something
  have search : p.find? (c :: (taken ++ rest)) = .some (c :: taken, rest) := by
    rw [List.cons_append] at first
    simp [find?, first, Nat.succ_sub (Nat.le_add_left rest.length taken.length)]
  have bound := findUpTo_eq p (taken ++ rest).length rest.length rest (by simp) (Nat.le_refl _)
  simp only [findAll, List.cons_append, List.length_cons, findUpTo, search, bound]

/-- A character at which no match begins is passed over. -/
theorem findAll_passed (p : Pattern) (c : Char) (text : List Char)
    (none : p.rests (c :: text) = []) : p.findAll (c :: text) = p.findAll text := by
  have search : p.find? (c :: text) = p.find? text := by simp [find?, none]
  rw [findAll, findAll, findUpTo_eq p text.length (text.length + 1) text (by simp) (by simp)]
  simp only [List.length_cons, findUpTo, search]

/-! ## Removing -/

/-- What follows the first characters of a class loses as much as the whole text does. -/
theorem filter_dropWhile (accepts : Char → Bool) (text : List Char) :
    (text.dropWhile accepts).filter (!accepts ·) = text.filter (!accepts ·) := by
  induction text with
  | nil => rfl
  | cons c text inductionHypothesis =>
    by_cases accepted : accepts c <;> simp [accepted, inductionHypothesis]

/-- Removing runs of characters of a class removes these characters. -/
theorem removeUpTo_some_one (accepts : Char → Bool) (most : Nat) (text : List Char)
    (enough : text.length ≤ most) :
    (some (one accepts)).removeUpTo most text = text.filter (!accepts ·) := by
  induction most generalizing text with
  | zero =>
    obtain rfl := List.length_eq_zero_iff.mp (Nat.le_zero.mp enough)
    rfl
  | succ more inductionHypothesis =>
    cases text with
    | nil => rfl
    | cons c text =>
      rw [List.length_cons, Nat.add_le_add_iff_right] at enough
      rw [removeUpTo, head?_rests_some_one]
      by_cases accepted : accepts c
      · have less : (text.dropWhile accepts).length ≤ text.length :=
          (List.dropWhile_suffix accepts).length_le
        simp [accepted, less, inductionHypothesis _ (Nat.le_trans less enough), filter_dropWhile]
      · simp [accepted, inductionHypothesis text enough]

/-- Removing one or more accepted characters leaves the others. -/
theorem remove_some_one (accepts : Char → Bool) (text : List Char) :
    (some (one accepts)).remove text = text.filter (!accepts ·) :=
  removeUpTo_some_one accepts text.length text (Nat.le_refl _)

end LoopKernels.Pattern
