import LoopKernels.Gufunc.Reader
import LoopKernels.Proofs.Text.Delimited
import LoopKernels.Proofs.Text.Pattern

/-!
# What reading accepts

A signature is accepted by one pattern and taken apart by two others. The texts that
match the pattern of a signature are the renderings of the well-formed ones: names,
operands and sides are matched by what writing makes of them, level by level. On such
a text the searches find what was written. No operand goes on behind its first closing
parenthesis, so the operands are found one by one, and a name ends where the next
punctuation stands. So reading accepts the renderings, white space apart, and no
other text.

Of the classes of characters only this is used: that no character is of both, and that
the punctuation is of neither.
-/

namespace LoopKernels

/-- The ranges of word characters and of white space do not meet. -/
theorem wordRanges_disjoint : ∀ word ∈ wordRanges, ∀ blank ∈ blankRanges,
    word.2 < blank.1 ∨ blank.2 < word.1 := by
  decide +kernel

/-- No white space is part of a word. -/
theorem isBlankChar_of_word (c : Char) (word : isWordChar c = true) : isBlankChar c = false := by
  obtain ⟨range, listed, within⟩ := List.any_eq_true.mp word
  refine List.any_eq_false.mpr ?_
  intro blank blankListed both
  simp only [Bool.and_eq_true, decide_eq_true_eq] at within both
  have apart := wordRanges_disjoint range listed blank blankListed
  omega

/-- The classes of Unicode are separate. -/
theorem CharClasses.unicode_separate : CharClasses.unicode.Separate where
  blank_of_word := isBlankChar_of_word
  word_punctuation c listed := by
    have none : punctuation.all (!unicode.word ·) = true := by decide +kernel
    simpa using List.all_eq_true.mp none c listed
  blank_punctuation c listed := by
    have none : punctuation.all (!unicode.blank ·) = true := by decide +kernel
    simpa using List.all_eq_true.mp none c listed

namespace CoreSignature

variable (classes : CharClasses)

/-! ## The texts that match -/

/-- Names are what the pattern of names matches. -/
theorem matches_name (name : String) :
    (namePattern classes).Matches name.toList ↔ IsName classes name := by
  rw [namePattern, Pattern.matches_some_one, IsName, Ne, Ne, String.toList_eq_nil_iff]

/-- The pattern of an operand matches the texts of lists of names. -/
theorem matches_operand (text : List Char) : (operandPattern classes).Matches text ↔
    ∃ names, (∀ name ∈ names, IsName classes name) ∧ text = (operandText names).toList := by
  simp only [operandPattern, Pattern.Matches, Pattern.matches_char, Pattern.matches_separated,
    matches_name]
  constructor
  · rintro ⟨_, _, rfl, rfl, _, _, rfl, rfl | ⟨names, -, areNames, rfl⟩, rfl⟩
    · exact ⟨[], by simp, by simp [operandText]⟩
    · exact ⟨names, areNames, by simp [operandText]⟩
  · rintro ⟨names, areNames, rfl⟩
    refine ⟨['('], (String.intercalate "," names).toList ++ [')'], by simp [operandText], rfl,
      (String.intercalate "," names).toList, [')'], rfl, ?_, rfl⟩
    cases names with
    | nil => exact .inl (by simp)
    | cons name rest => exact .inr ⟨name :: rest, by simp, areNames, rfl⟩

/-- The pattern of a side matches the texts of its operands, and there is at least one. -/
theorem matches_side (text : List Char) : (sidePattern classes).Matches text ↔
    ∃ operands, operands ≠ [] ∧ (∀ operand ∈ operands, ∀ name ∈ operand, IsName classes name) ∧
      text = (sideText operands).toList := by
  simp only [sidePattern, Pattern.matches_separated, matches_operand]
  constructor
  · rintro ⟨texts, something, all, rfl⟩
    have written : ∃ operands : List (List String), texts = operands.map operandText ∧
        ∀ operand ∈ operands, ∀ name ∈ operand, IsName classes name := by
      clear something
      induction texts with
      | nil => exact ⟨[], rfl, by simp⟩
      | cons text texts inductionHypothesis =>
        rw [List.forall_mem_cons] at all
        obtain ⟨operand, areNames, same⟩ := all.1
        obtain ⟨operands, rfl, others⟩ := inductionHypothesis all.2
        refine ⟨operand :: operands, by simp [String.toList_inj.mp same], ?_⟩
        exact List.forall_mem_cons.mpr ⟨areNames, others⟩
    obtain ⟨operands, rfl, areNames⟩ := written
    exact ⟨operands, by simpa using something, areNames, rfl⟩
  · rintro ⟨operands, something, areNames, rfl⟩
    refine ⟨operands.map operandText, by simpa using something, ?_, rfl⟩
    rw [List.forall_mem_map]
    exact fun operand listed => ⟨operand, areNames operand listed, rfl⟩

/-- The pattern of a signature matches the renderings of the well-formed signatures. -/
theorem matches_signature (text : List Char) : (signaturePattern classes).Matches text ↔
    ∃ s : CoreSignature, s.WellFormed classes ∧ text = s.render.toList := by
  simp only [signaturePattern, Pattern.Matches, Pattern.matches_char, matches_side, WellFormed,
    List.forall_mem_append]
  constructor
  · rintro ⟨_, _, rfl, front, _, _, rfl, rfl, _, _, rfl, rfl, outputs, something, outputNames, rfl⟩
    rcases front with rfl | ⟨inputs, -, inputNames, rfl⟩
    · exact ⟨⟨[], outputs⟩, ⟨something, by simp, outputNames⟩, by simp [render, sideText]⟩
    · exact ⟨⟨inputs, outputs⟩, ⟨something, inputNames, outputNames⟩, by simp [render]⟩
  · rintro ⟨⟨inputs, outputs⟩, ⟨something, inputNames, outputNames⟩, rfl⟩
    refine ⟨(sideText inputs).toList, ['-', '>'] ++ (sideText outputs).toList, by simp [render], ?_,
      ['-'], ['>'] ++ (sideText outputs).toList, rfl, rfl, ['>'], (sideText outputs).toList, rfl,
      rfl, outputs, something, outputNames, rfl⟩
    cases inputs with
    | nil => exact .inl (by simp [sideText])
    | cons operand rest => exact .inr ⟨operand :: rest, by simp, inputNames, rfl⟩

/-! ## What the searches find -/

/-- What holds of word characters and of the punctuation between names holds of the names of
    an operand. -/
theorem forall_mem_names (holds : Char → Prop) (names : List String) (comma : holds ',')
    (word : ∀ c, classes.word c = true → holds c)
    (areNames : ∀ name ∈ names, IsName classes name) :
    ∀ c ∈ (String.intercalate "," names).toList, holds c :=
  Delimited.forall_mem_intercalate holds names (by simpa using comma) fun name listed c there =>
    word c ((areNames name listed).2 c there)

/-- What holds of word characters and of the punctuation of a side holds of a whole side. -/
theorem forall_mem_side (holds : Char → Prop) (operands : List (List String))
    (punctuated : ∀ c ∈ ['(', ')', ','], holds c) (word : ∀ c, classes.word c = true → holds c)
    (areNames : ∀ operand ∈ operands, ∀ name ∈ operand, IsName classes name) :
    ∀ c ∈ (sideText operands).toList, holds c := by
  have comma := punctuated ',' (by simp)
  refine Delimited.forall_mem_intercalate holds _ (by simpa using comma)
    (List.forall_mem_map.mpr ?_)
  intro operand listed
  have inside := forall_mem_names classes holds operand comma word (areNames operand listed)
  rw [operandText, String.toList_append, String.toList_append, List.forall_mem_append,
    List.forall_mem_append]
  exact ⟨⟨by simpa using punctuated '(' (by simp), inside⟩, by simpa using punctuated ')' (by simp)⟩

variable {classes} (separate : classes.Separate)

include separate

/-- A word character is none of the punctuation. -/
theorem ne_of_word (mark : Char) (listed : mark ∈ CharClasses.punctuation) (c : Char)
    (word : classes.word c = true) : c ≠ mark := by
  rintro rfl
  simp [separate.word_punctuation c listed] at word

/-- In a text that begins with an operand no other operand begins: either ends at the first
    closing parenthesis. -/
theorem operand_only (names others : List String) (rest behind : List Char)
    (areNames : ∀ name ∈ names, IsName classes name)
    (otherNames : ∀ name ∈ others, IsName classes name)
    (same : (operandText names).toList ++ rest = (operandText others).toList ++ behind) :
    operandText others = operandText names := by
  have apart : ∀ names : List String, (∀ name ∈ names, IsName classes name) →
      ∀ c ∈ (String.intercalate "," names).toList, (c != ')') = true := fun names areNames =>
    forall_mem_names classes (fun c => (c != ')') = true) names (by decide)
      (fun c word => by simpa using ne_of_word separate ')' (by decide) c word) areNames
  have upTo : ∀ (names : List String) (rest : List Char), (∀ name ∈ names, IsName classes name) →
      ((operandText names).toList ++ rest).takeWhile (· != ')') =
        '(' :: (String.intercalate "," names).toList := by
    intro names rest areNames
    have inside : ((String.intercalate "," names).toList ++ ')' :: rest).takeWhile (· != ')') =
        (String.intercalate "," names).toList := by
      rw [List.takeWhile_append_of_pos (apart names areNames)]
      simp
    simpa [operandText] using inside
  have inner := congrArg (List.takeWhile (· != ')')) same
  rw [upTo names rest areNames, upTo others behind otherNames, List.cons_inj_right,
    String.toList_inj] at inner
  rw [operandText, operandText, inner]

/-- The operands of a side are found one by one. -/
theorem findAll_operands (operands : List (List String))
    (areNames : ∀ operand ∈ operands, ∀ name ∈ operand, IsName classes name) :
    (operandPattern classes).findAll (sideText operands).toList =
      operands.map fun operand => (operandText operand).toList := by
  have first : ∀ (operand : List String) (rest : List Char),
      (∀ name ∈ operand, IsName classes name) →
      (operandPattern classes).findAll ((operandText operand).toList ++ rest) =
        (operandText operand).toList :: (operandPattern classes).findAll rest := by
    intro operand rest areNames
    refine Pattern.findAll_taken _ _ _ (by simp [operandText]) ?_
    refine Pattern.head?_rests_of_only _ _ _ ((matches_operand classes _).mpr ⟨_, areNames, rfl⟩) ?_
    intro other behind matched same
    obtain ⟨others, otherNames, rfl⟩ := (matches_operand classes _).mp matched
    rw [operand_only separate operand others rest behind areNames otherNames same]
  induction operands with
  | nil => simp [sideText, Pattern.findAll]
  | cons operand operands inductionHypothesis =>
    rw [List.forall_mem_cons] at areNames
    have others := inductionHypothesis areNames.2
    cases operands with
    | nil =>
      have only := first operand [] areNames.1
      simpa [sideText, Pattern.findAll] using only
    | cons next rest =>
      have text : (sideText (operand :: next :: rest)).toList =
          (operandText operand).toList ++ ',' :: (sideText (next :: rest)).toList := by
        simp [sideText, String.intercalate_cons_cons]
      have comma := Pattern.findAll_passed (operandPattern classes) ','
        (sideText (next :: rest)).toList (by simp [operandPattern, Pattern.rests, Pattern.char])
      rw [text, first operand _ areNames.1, comma, others]
      rfl

/-- A search for names passes over punctuation. -/
theorem findAll_mark (mark : Char) (listed : mark ∈ CharClasses.punctuation) (rest : List Char) :
    (namePattern classes).findAll (mark :: rest) = (namePattern classes).findAll rest := by
  refine Pattern.findAll_passed _ mark rest ?_
  simp [namePattern, Pattern.some, Pattern.rests, separate.word_punctuation mark listed]

/-- A name is found up to the punctuation behind it. -/
theorem findAll_name (name : String) (mark : Char) (rest : List Char)
    (listed : mark ∈ CharClasses.punctuation) (isName : IsName classes name) :
    (namePattern classes).findAll (name.toList ++ mark :: rest) =
      name.toList :: (namePattern classes).findAll rest := by
  have apart := separate.word_punctuation mark listed
  have taken : ((namePattern classes).rests (name.toList ++ mark :: rest)).head? =
      some (mark :: rest) := by
    obtain ⟨something, word⟩ :=
      (Pattern.matches_some_one _ _).mp ((matches_name classes name).mpr isName)
    obtain ⟨c, chars, split⟩ := List.exists_cons_of_ne_nil something
    rw [split, List.forall_mem_cons] at word
    rw [split, List.cons_append, namePattern, Pattern.head?_rests_some_one, if_pos word.1,
      List.dropWhile_append_of_pos word.2, List.dropWhile_cons_of_neg (by simp [apart])]
  rw [Pattern.findAll_taken _ _ _ (by simpa using isName.1) taken,
    findAll_mark separate mark listed]

/-- The names of an operand are found one by one. -/
theorem scanNames_operand (names : List String) (areNames : ∀ name ∈ names, IsName classes name) :
    scanNames classes (operandText names).toList = names := by
  have inside : (namePattern classes).findAll ((String.intercalate "," names).toList ++ [')']) =
      names.map String.toList := by
    induction names with
    | nil => simpa [Pattern.findAll] using findAll_mark separate ')' (by decide) []
    | cons name names inductionHypothesis =>
      rw [List.forall_mem_cons] at areNames
      have others := inductionHypothesis areNames.2
      cases names with
      | nil =>
        have only := findAll_name separate name ')' [] (by decide) areNames.1
        simpa [Pattern.findAll] using only
      | cons next rest =>
        have text : (String.intercalate "," (name :: next :: rest)).toList ++ [')'] =
            name.toList ++ ',' :: ((String.intercalate "," (next :: rest)).toList ++ [')']) := by
          simp [String.intercalate_cons_cons]
        rw [text, findAll_name separate name ',' _ (by decide) areNames.1, others]
        rfl
  have text : (operandText names).toList =
      '(' :: ((String.intercalate "," names).toList ++ [')']) := by
    simp [operandText]
  rw [scanNames, text, findAll_mark separate '(' (by decide), inside]
  simp [Function.comp_def]

/-- A side is searched for the operands it was written from. -/
theorem scanSide_sideText (operands : List (List String))
    (areNames : ∀ operand ∈ operands, ∀ name ∈ operand, IsName classes name) :
    scanSide classes (sideText operands).toList = operands := by
  rw [scanSide, findAll_operands separate operands areNames, List.map_map]
  refine (List.map_congr_left fun operand listed => ?_).trans (List.map_id operands)
  exact scanNames_operand separate operand (areNames operand listed)

omit separate

/-- The first arrow of a text stands behind the part that has no dash. -/
theorem splitArrow?_append (front back : List Char) (noDash : '-' ∉ front) :
    splitArrow? (front ++ '-' :: '>' :: back) = some (front, back) := by
  induction front with
  | nil => rfl
  | cons c front inductionHypothesis =>
    rw [List.mem_cons, not_or] at noDash
    have behind := inductionHypothesis noDash.2
    rw [List.cons_append, splitArrow?, behind]
    · rfl
    · rintro rest rfl
      exact absurd rfl noDash.1

/-! ## Reading -/

/-- The characters of a text that are no white space. -/
def withoutBlanks (classes : CharClasses) (text : String) : List Char :=
  text.toList.filter (!classes.blank ·)

/-- White space is what the pattern of white space removes. -/
theorem remove_blanks (text : String) :
    (blankPattern classes).remove text.toList = withoutBlanks classes text :=
  Pattern.remove_some_one classes.blank text.toList

include separate

/-- The text of a signature whose names are words has no white space. -/
theorem withoutBlanks_render (s : CoreSignature)
    (areNames : ∀ operand ∈ s.inputs ++ s.outputs, ∀ name ∈ operand, IsName classes name) :
    withoutBlanks classes s.render = s.render.toList := by
  rw [List.forall_mem_append] at areNames
  have side : ∀ operands : List (List String),
      (∀ operand ∈ operands, ∀ name ∈ operand, IsName classes name) →
      ∀ c ∈ (sideText operands).toList, (!classes.blank c) = true := by
    intro operands areNames
    refine forall_mem_side classes _ operands ?_ ?_ areNames
    · intro c listed
      simp [separate.blank_punctuation c (List.mem_append_left ['-', '>'] listed)]
    · intro c word
      simp [separate.blank_of_word c word]
  refine List.filter_eq_self.mpr ?_
  rw [render, String.toList_append, String.toList_append, List.forall_mem_append,
    List.forall_mem_append]
  refine ⟨⟨side s.inputs areNames.1, ?_⟩, side s.outputs areNames.2⟩
  have dash := separate.blank_punctuation '-' (by decide)
  have tip := separate.blank_punctuation '>' (by decide)
  simp [dash, tip]

/-- A text that is a well-formed signature but for white space is read as that signature. -/
theorem readWith_of_withoutBlanks (text : String) (s : CoreSignature)
    (wellFormed : s.WellFormed classes) (same : withoutBlanks classes text = s.render.toList) :
    readWith classes text = .ok s := by
  have accepted := (Pattern.matchesAll_iff _ _).mpr
    ((matches_signature classes s.render.toList).mpr ⟨s, wellFormed, rfl⟩)
  obtain ⟨-, areNames⟩ := wellFormed
  rw [List.forall_mem_append] at areNames
  have noDash : '-' ∉ (sideText s.inputs).toList := fun listed =>
    forall_mem_side classes (· ≠ '-') s.inputs (by simp)
      (ne_of_word separate '-' (by decide)) areNames.1 '-' listed rfl
  have split : splitArrow? s.render.toList =
      some ((sideText s.inputs).toList, (sideText s.outputs).toList) := by
    simpa [render] using splitArrow?_append _ (sideText s.outputs).toList noDash
  simp only [readWith, remove_blanks, same, accepted, if_true, split,
    scanSide_sideText separate s.inputs areNames.1, scanSide_sideText separate s.outputs areNames.2]

/-- Reading the text of a well-formed signature gives the signature back. -/
theorem readWith_render (s : CoreSignature) (wellFormed : s.WellFormed classes) :
    readWith classes s.render = .ok s :=
  readWith_of_withoutBlanks separate s.render s wellFormed
    (withoutBlanks_render separate s wellFormed.2)

/-- A text is read, as the signature it renders, or refused as it was given. -/
theorem readWith_cases (text : String) :
    (∃ s : CoreSignature, s.WellFormed classes ∧ withoutBlanks classes text = s.render.toList ∧
      readWith classes text = .ok s) ∨
    ((¬ ∃ s : CoreSignature, s.WellFormed classes ∧
        withoutBlanks classes text = s.render.toList) ∧
      readWith classes text = .error (.format text)) := by
  by_cases accepted : (signaturePattern classes).matchesAll (withoutBlanks classes text) = true
  · obtain ⟨s, wellFormed, same⟩ :=
      (matches_signature classes _).mp ((Pattern.matchesAll_iff _ _).mp accepted)
    exact .inl ⟨s, wellFormed, same, readWith_of_withoutBlanks separate text s wellFormed same⟩
  · refine .inr ⟨fun rendered => accepted ?_, ?_⟩
    · exact (Pattern.matchesAll_iff _ _).mpr ((matches_signature classes _).mpr rendered)
    · simp [readWith, remove_blanks, accepted]

omit separate

/-- A text is read as a signature exactly when the signature is well formed and the text is its
    rendering, white space apart. Every other text is refused as it was given, and what is
    rendered is read back exactly when it is well formed. -/
theorem reading_accepts_exactly_renderings (classes : CharClasses) (separate : classes.Separate)
    (text : String) (s : CoreSignature) :
    (readWith classes text = .ok s ↔
        s.WellFormed classes ∧ withoutBlanks classes text = s.render.toList) ∧
      (∀ error, readWith classes text = .error error ↔ error = .format text ∧
        ¬ ∃ other : CoreSignature, other.WellFormed classes ∧
          withoutBlanks classes text = other.render.toList) ∧
      (readWith classes s.render = .ok s ↔ s.WellFormed classes) := by
  have wellFormed_of_read : ∀ text, readWith classes text = .ok s →
      s.WellFormed classes ∧ withoutBlanks classes text = s.render.toList := by
    intro text done
    rcases readWith_cases separate text with ⟨other, wellFormed, same, read⟩ | ⟨-, refused⟩
    · obtain rfl := Except.ok.inj (read.symm.trans done)
      exact ⟨wellFormed, same⟩
    · rw [refused] at done
      cases done
  refine ⟨⟨wellFormed_of_read text, fun both =>
      readWith_of_withoutBlanks separate text s both.1 both.2⟩,
    fun error => ?_, ⟨fun done => (wellFormed_of_read s.render done).1, readWith_render separate s⟩⟩
  rcases readWith_cases separate text with ⟨other, wellFormed, same, read⟩ | ⟨none, refused⟩
  · rw [read]
    refine ⟨nofun, fun both => absurd ⟨other, wellFormed, same⟩ both.2⟩
  · rw [refused, Except.error.injEq, eq_comm]
    exact ⟨fun same => ⟨same, none⟩, fun both => both.1⟩

/-- White space may stand anywhere, inside a name and inside the arrow too; an operand may be
    without names. -/
theorem reading_accepts_exactly_renderings_spaced :
    CharClasses.unicode.Separate ∧
      read " (m ax, n),()- >(n) " = .ok ⟨[["max", "n"], []], [["n"]]⟩ :=
  ⟨CharClasses.unicode_separate,
    (reading_accepts_exactly_renderings .unicode CharClasses.unicode_separate " (m ax, n),()- >(n) "
      ⟨[["max", "n"], []], [["n"]]⟩).1.mpr ⟨by decide +kernel, by decide +kernel⟩⟩

/-- A comma must stand between two names. -/
example : (read "(m,)->(m)").toOption = none := by
  decide +kernel

end CoreSignature

end LoopKernels
