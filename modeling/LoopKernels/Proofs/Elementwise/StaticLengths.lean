import LoopKernels.Elementwise.Build
import LoopKernels.Proofs.Elementwise.Agreement
import LoopKernels.Proofs.Shape.Axes
import LoopKernels.Proofs.Shape.LeastBroadcast
import Mathlib.Data.List.Forall2
import Mathlib.Data.List.Nodup

/-!
# Lengths known in advance and lengths of a run

A length that is not known in advance may turn out to be any. Static broadcasting says of one
axis what all the runs have in common that agree with what is known: it refuses when none of
them has a common length, names the length when it is the same for all that have one, and leaves
it open when two of them differ. An elementwise node is refused on these grounds only, so neither
of its evaluations could have run on arrays of the declared shapes.
-/

namespace LoopKernels

namespace StaticLength

/-- Lengths that agree with what is known of them. -/
def Completes (known : List (Option Nat)) (lengths : List Nat) : Prop :=
  List.Forall₂ (fun entry length => ∀ fixed ∈ entry, fixed = length) known lengths

/-- Arrays with one axis, of lengths that agree with what is known, have this common shape. -/
def Reaches (known : List (Option Nat)) (common : Shape) : Prop :=
  ∃ lengths, Completes known lengths ∧ Shape.broadcast (lengths.map ([·])) = .ok common

variable {known : List (Option Nat)} {lengths : List Nat}

/-! ## Completions -/

/-- A fixed length is the length. -/
theorem Completes.get?_eq (completes : Completes known lengths) {place length : Nat}
    (fixed : known[place]? = some (some length)) : lengths[place]? = some length := by
  induction completes generalizing place with
  | nil => simp at fixed
  | cons agrees _ inductionHypothesis =>
    cases place with
    | zero => simpa using (agrees length (by simpa using fixed)).symm
    | succ place => simpa using inductionHypothesis (by simpa using fixed)

/-- Every fixed length is among the lengths. -/
theorem Completes.mem_of_known (completes : Completes known lengths) {length : Nat}
    (listed : some length ∈ known) : length ∈ lengths := by
  obtain ⟨place, fixed⟩ := List.mem_iff_getElem?.mp listed
  exact List.mem_iff_getElem?.mpr ⟨place, completes.get?_eq fixed⟩

/-- A length of a completion was known or not. -/
theorem Completes.known_of_mem (completes : Completes known lengths) {length : Nat}
    (listed : length ∈ lengths) : none ∈ known ∨ some length ∈ known := by
  induction completes with
  | nil => simp at listed
  | @cons entry other known lengths agrees _ inductionHypothesis =>
    rcases List.mem_cons.mp listed with rfl | later
    · cases entry with
      | none => simp
      | some fixed => simp [agrees fixed rfl]
    · exact (inductionHypothesis later).imp (List.mem_cons_of_mem _) (List.mem_cons_of_mem _)

/-- The unknown lengths may all be the same. -/
theorem completes_fill (known : List (Option Nat)) (length : Nat) :
    Completes known (known.map (·.getD length)) := by
  refine List.forall₂_map_right_iff.mpr (List.forall₂_same.mpr ?_)
  rintro entry - fixed rfl
  rfl

/-- Arrays with one axis have the length in common that each of them has unless it has length
    one. -/
theorem broadcast_single (inhabited : lengths ≠ []) (common : Shape) :
    Shape.broadcast (lengths.map ([·])) = .ok common ↔
      ∃ length, common = [length] ∧ (∀ other ∈ lengths, other = 1 ∨ other = length) ∧
        (length = 1 ∨ length ∈ lengths) := by
  rw [Shape.broadcast_eq_ok_iff, Shape.broadcast?_sameRank _ 1 common (by simpa using inhabited)
    (by simp)]
  constructor
  · rintro ⟨rank, fits, source⟩
    obtain ⟨length, rfl⟩ := List.length_eq_one_iff.mp rank
    refine ⟨length, rfl, ?_, ?_⟩
    · intro other listed
      simpa using (fits [other] (List.mem_map_of_mem listed)).2 0 (by simp)
    · simpa [eq_comm] using source 0 (by simp)
  · rintro ⟨length, rfl, each, source⟩
    refine ⟨rfl, ?_, ?_⟩
    · rw [List.forall_mem_map]
      intro other listed
      exact (Shape.fits_cons other length [] []).mpr ⟨each other listed, Shape.fits_refl []⟩
    · intro axis inside
      obtain rfl : axis = 0 := by omega
      simpa [eq_comm] using source

/-- A length that some completion reaches: the known lengths are one or this one, and it is one
    unless an array has it or may have it. -/
def Possible (known : List (Option Nat)) (length : Nat) : Prop :=
  (∀ other, some other ∈ known → other = 1 ∨ other = length) ∧
    (length = 1 ∨ none ∈ known ∨ some length ∈ known)

/-- The shapes that completions reach are those of the possible lengths. Where a length is
    possible, the unknown lengths can be set to it. -/
theorem reaches_iff (inhabited : known ≠ []) (common : Shape) :
    Reaches known common ↔ ∃ length, common = [length] ∧ Possible known length := by
  constructor
  · rintro ⟨lengths, completes, found⟩
    have some : lengths ≠ [] := by
      rintro rfl
      exact inhabited (List.forall₂_nil_right_iff.mp completes)
    obtain ⟨length, rfl, each, source⟩ := (broadcast_single some common).mp found
    refine ⟨length, rfl, ?_, ?_⟩
    · intro other listed
      exact each other (completes.mem_of_known listed)
    · exact source.imp_right completes.known_of_mem
  · rintro ⟨length, rfl, each, source⟩
    refine ⟨_, completes_fill known length, (broadcast_single (by simpa using inhabited) _).mpr
      ⟨length, rfl, ?_, ?_⟩⟩
    · rw [List.forall_mem_map]
      intro entry listed
      cases entry with
      | none => exact .inr rfl
      | some other => exact each other listed
    · refine source.imp_right ?_
      rintro (unknown | fixed)
      · exact List.mem_map.mpr ⟨none, unknown, rfl⟩
      · exact List.mem_map.mpr ⟨some length, fixed, rfl⟩

/-! ## The static rule -/

/-- No fixed length is listed twice. -/
theorem nodup_distinct (known : List (Option Nat)) : (distinct known).Nodup := by
  induction count : known.length using Nat.strongRecOn generalizing known with
  | ind count inductionHypothesis =>
    cases known with
    | nil => exact List.nodup_nil
    | cons entry known =>
      rw [distinct, List.eraseDups_cons, List.nodup_cons]
      refine ⟨by simp, inductionHypothesis _ ?_ _ rfl⟩
      have shorter := List.length_filter_le (fun other => !other == entry) known
      simp only [List.length_cons] at count
      omega

/-- The significant lengths are the fixed ones other than one. -/
theorem mem_significant (length : Nat) :
    length ∈ significant known ↔ some length ∈ known ∧ length ≠ 1 := by
  simp [significant, distinct]

/-- No significant length is listed twice. -/
theorem nodup_significant (known : List (Option Nat)) : (significant known).Nodup := by
  refine List.Nodup.filter _ (List.Nodup.filterMap ?_ (nodup_distinct known))
  rintro first second length (rfl : first = some length) (rfl : second = some length)
  rfl

/-- The three answers. The length is open when one is unknown and the others are one. It is found
    when it is the only one other than one, or when all are known to be one. It is refused when
    two known lengths other than one differ. -/
theorem broadcast_cases (inhabited : known ≠ []) :
    (broadcast known = .ok none ∧ none ∈ known ∧ ∀ length, some length ∈ known → length = 1) ∨
    (∃ length, broadcast known = .ok (some length) ∧ some length ∈ known ∧
      (∀ other, some other ∈ known → other = 1 ∨ other = length) ∧
      (none ∈ known → length ≠ 1)) ∨
    (broadcast known = .error ⟨known⟩ ∧ ∃ first second, first ≠ second ∧
      (some first ∈ known ∧ first ≠ 1) ∧ some second ∈ known ∧ second ≠ 1) := by
  have members : ∀ entry, entry ∈ distinct known ↔ entry ∈ known := fun _ => List.mem_eraseDups
  have listed : ∀ length, length ∈ significant known ↔ some length ∈ known ∧ length ≠ 1 :=
    mem_significant
  rcases entries : distinct known with _ | ⟨entry, _ | ⟨next, rest⟩⟩
  · obtain ⟨entry, member⟩ := List.exists_mem_of_ne_nil known inhabited
    rw [← members, entries] at member
    cases member
  · simp only [entries, List.mem_singleton] at members
    cases entry with
    | none =>
      refine .inl ⟨by rw [broadcast, entries], (members none).mp rfl, ?_⟩
      intro length member
      cases (members _).mpr member
    | some length =>
      refine .inr (.inl ⟨length, by rw [broadcast, entries], (members _).mp rfl, ?_, ?_⟩)
      · intro other member
        exact .inr (Option.some.inj ((members _).mpr member))
      · intro member
        cases (members _).mpr member
  · have apart : entry ≠ next := by
      have different := nodup_distinct known
      rw [entries, List.nodup_cons] at different
      exact fun same => different.1 (same ▸ List.mem_cons_self)
    rcases lengths : significant known with _ | ⟨length, _ | ⟨second, more⟩⟩
    · simp only [lengths, List.not_mem_nil, false_iff, not_and, not_not] at listed
      refine .inl ⟨by simp only [broadcast, entries, lengths], ?_, listed⟩
      -- Of two different entries, both cannot be the length one.
      have first : entry ∈ known := (members entry).mp (by simp [entries])
      have other : next ∈ known := (members next).mp (by simp [entries])
      cases entry with
      | none => exact first
      | some one =>
        cases next with
        | none => exact other
        | some two =>
          obtain rfl := listed one first
          obtain rfl := listed two other
          exact absurd rfl apart
    · simp only [lengths, List.mem_singleton] at listed
      have here := (listed length).mp rfl
      refine .inr (.inl ⟨length, by simp only [broadcast, entries, lengths], here.1, ?_,
        fun _ => here.2⟩)
      intro other member
      by_cases one : other = 1
      · exact .inl one
      · exact .inr ((listed other).mpr ⟨member, one⟩)
    · have different := nodup_significant known
      rw [lengths, List.nodup_cons] at different
      rw [lengths] at listed
      refine .inr (.inr ⟨by simp only [broadcast, entries, lengths], length, second, ?_,
        (listed length).mp List.mem_cons_self,
        (listed second).mp (List.mem_cons_of_mem _ List.mem_cons_self)⟩)
      exact fun same => different.1 (same ▸ List.mem_cons_self)

/-- Nothing is possible where lengths are refused. -/
theorem not_possible_of_clash {first second : Nat} (apart : first ≠ second)
    (here : some first ∈ known ∧ first ≠ 1) (there : some second ∈ known ∧ second ≠ 1)
    (length : Nat) : ¬ Possible known length := by
  rintro ⟨each, -⟩
  have one := each first here.1
  have two := each second there.1
  omega

/-- A length that is found is possible, and no other is. -/
theorem possible_iff_of_found {length : Nat} (listed : some length ∈ known)
    (each : ∀ other, some other ∈ known → other = 1 ∨ other = length)
    (long : none ∈ known → length ≠ 1) (other : Nat) :
    Possible known other ↔ other = length := by
  constructor
  · rintro ⟨fits, source⟩
    rcases fits length listed with rfl | rfl
    · rcases source with one | unknown | fixed
      · exact one
      · exact absurd rfl (long unknown)
      · exact (each other fixed).elim id id
    · rfl
  · rintro rfl
    exact ⟨each, .inr (.inr listed)⟩

/-- Lengths are refused only where two of them clash. -/
theorem exists_clash_of_error {e : StaticLengthError} (refused : broadcast known = .error e) :
    ∃ first second, first ≠ second ∧ (some first ∈ known ∧ first ≠ 1) ∧
      some second ∈ known ∧ second ≠ 1 := by
  have inhabited : known ≠ [] := by
    rintro rfl
    cases refused
  rcases broadcast_cases inhabited with ⟨answer, -⟩ | ⟨_, answer, -⟩ | ⟨-, clash⟩
  · simp [answer] at refused
  · simp [answer] at refused
  · exact clash

end StaticLength

/-! ## Refused nodes -/

/-- The array has the declared rank, and the declared lengths where they are known. -/
def TensorType.Admits (type : TensorType) (t : Tensor) : Prop :=
  StaticLength.Completes type.shape t.shape

namespace Elementwise

variable {types : List TensorType} {inputs : List Tensor}

/-- Some input is admitted by each type. -/
theorem exists_admitted (admitted : List.Forall₂ TensorType.Admits types inputs)
    {type : TensorType} (listed : type ∈ types) : ∃ t ∈ inputs, type.Admits t := by
  induction admitted with
  | nil => cases listed
  | cons admits _ inductionHypothesis =>
    rcases List.mem_cons.mp listed with rfl | later
    · exact ⟨_, List.mem_cons_self, admits⟩
    · obtain ⟨t, member, here⟩ := inductionHypothesis later
      exact ⟨t, List.mem_cons_of_mem _ member, here⟩

/-- No declared rank exceeds the greatest one. -/
theorem rank_le_greatestRank {type : TensorType} (listed : type ∈ types) :
    type.rank ≤ greatestRank types := by
  have bound : ∀ (ranks : List Nat) (start rank : Nat), rank ≤ start ∨ rank ∈ ranks →
      rank ≤ ranks.foldl max start := by
    intro ranks
    induction ranks with
    | nil => simp
    | cons first rest inductionHypothesis =>
      intro start rank reached
      refine inductionHypothesis (max start first) rank ?_
      grind
  exact bound _ 0 _ (.inr (List.mem_map_of_mem listed))

/-- A known length on an axis is the length there of an array that its type admits. -/
theorem fromEnd_of_known (admitted : List.Forall₂ TensorType.Admits types inputs)
    {axis length : Nat} (inside : axis < greatestRank types)
    (known : some length ∈ lengthsAt types (greatestRank types) axis) :
    ∃ t ∈ inputs, t.shape.fromEnd (greatestRank types - 1 - axis) = length := by
  obtain ⟨type, listed, fixed⟩ := List.mem_filterMap.mp known
  have bound : type.rank ≤ greatestRank types := rank_le_greatestRank listed
  split at fixed
  next reaches =>
    obtain ⟨t, member, admits⟩ := exists_admitted admitted listed
    have rank : type.rank = t.shape.length := admits.length_eq
    have here := admits.get?_eq fixed
    rw [rank] at here bound reaches
    have place : greatestRank types - 1 - axis =
        t.shape.length - 1 - (axis - (greatestRank types - t.shape.length)) := by omega
    refine ⟨t, member, ?_⟩
    rw [place, Shape.fromEnd_mirrored (by omega), List.getD_eq_getElem?_getD, here]
    rfl
  next => cases fixed

/-- Where the known lengths are refused, no shape admits arrays of the declared types: on the
    axis of the refusal it would have two lengths. -/
theorem not_admits_of_refused (admitted : List.Forall₂ TensorType.Admits types inputs)
    {e : KernelError} (refused : checkStatic types = .error e) (target : Shape) :
    ¬ target.Admits (inputs.map Tensor.shape) := by
  intro admits
  obtain ⟨axis, listed, failed⟩ := Outcome.exists_of_forM_error _ _ e refused
  have inside := List.mem_range.mp listed
  cases answer : StaticLength.broadcast (lengthsAt types (greatestRank types) axis) with
  | ok _ => simp [answer, KernelError.ofStaticLength] at failed
  | error _ =>
    obtain ⟨first, second, apart, here, there⟩ := StaticLength.exists_clash_of_error answer
    obtain ⟨t, member, firstLength⟩ := fromEnd_of_known admitted inside here.1
    obtain ⟨u, other, secondLength⟩ := fromEnd_of_known admitted inside there.1
    have one := (admits _ (List.mem_map_of_mem member)).2 (greatestRank types - 1 - axis)
    have two := (admits _ (List.mem_map_of_mem other)).2 (greatestRank types - 1 - axis)
    omega

/-- A refused reuse map names an output and an input. -/
theorem checkReuse_error {inputs outputs : Nat} {pairs : List (Nat × Nat)} {e : KernelError}
    (refused : checkReuse inputs outputs pairs = .error e) :
    ∃ output input, e = .reuse output input inputs outputs := by
  induction pairs with
  | nil => cases refused
  | cons pair pairs inductionHypothesis =>
    obtain ⟨output, input⟩ := pair
    rw [checkReuse] at refused
    split at refused
    · exact ⟨output, input, (Except.error.inj refused).symm⟩
    · exact inductionHypothesis refused

/-- A scalar kernel is refused for its number of operands or for bits of floats. -/
theorem scalarKernel_error {operator : Operator} {elems : List ElemType} {output : ElemType}
    {e : KernelError} (refused : ScalarKernel.build operator elems output = .error e) :
    (∃ cause, e = .inOperator cause) ∨ e = .bitwiseOnFloats operator.name := by
  unfold ScalarKernel.build at refused
  cases arity : operator.checkArity elems.length with
  | error cause =>
    rw [arity] at refused
    exact .inl ⟨cause, (Except.error.inj refused).symm⟩
  | ok _ =>
    rw [arity] at refused
    simp only [KernelError.ofOperator, Outcome.bind_ok] at refused
    split at refused
    · exact .inr (Except.error.inj refused).symm
    · cases refused

/-- A node is refused for its lengths by the static check and by nothing else. -/
theorem checkStatic_of_build {operator : Operator} {reuse : ReuseMap} {node : Node}
    {config : Config} {e : StaticLengthError}
    (refused : build operator reuse node config = .error (.inStaticLength e)) :
    checkStatic node.inputs = .error (.inStaticLength e) := by
  unfold build at refused
  split at refused
  next output single =>
    cases reused : checkReuse node.inputs.length 1 reuse.pairs with
    | error _ =>
      obtain ⟨_, _, rfl⟩ := checkReuse_error reused
      simp [reused] at refused
    | ok _ =>
      cases checked : checkStatic node.inputs with
      | error _ => simpa [reused, checked] using refused
      | ok _ =>
        simp only [reused, checked, Outcome.bind_ok] at refused
        cases scalar :
            ScalarKernel.build operator (node.inputs.map TensorType.elem) output.elem with
        | error other =>
          obtain rfl : other = .inStaticLength e := by simpa [scalar] using refused
          simpa using scalarKernel_error scalar
        | ok kernel =>
          simp only [scalar, Outcome.bind_ok, Kernel.compile] at refused
          cases stored : OutputStore.build kernel node.inputs.length 1 with
          | error other =>
            obtain rfl : other = .inStaticLength e := by simpa [stored] using refused
            simp only [OutputStore.build, ne_eq, not_true_eq_false, if_false] at stored
            split at stored <;> cases stored
          | ok _ => simp [stored] at refused
  next => cases refused

/-- Inputs that the batched evaluation accepts align with one shape. -/
theorem admits_of_vectorized {core : OutputStore} {plan : BatchPlan} {result : Tensor}
    (evaluated : Vectorized.eval core plan inputs = .ok result) :
    ∃ shape : Shape, shape.Admits (inputs.map Tensor.shape) := by
  simp only [Vectorized.eval, Vectorized.evalBy] at evaluated
  obtain ⟨sameCount, evaluated⟩ := (Outcome.unless_eq_ok _ _ (fun _ => _) _).mp evaluated
  split at evaluated
  · cases evaluated
  · obtain ⟨shape, shaped, -⟩ := (Outcome.bind_eq_ok _ _ _).mp evaluated
    refine ⟨shape, ?_⟩
    rw [Shape.Admits, List.forall_mem_map]
    intro t listed
    exact Shape.aligns_iff_isSome.mpr
      (Vectorized.stretches_of_shape inputs _ shape (not_not.mp sameCount) shaped t listed)

/-- Inputs that the plain evaluation accepts align with one shape. -/
theorem admits_of_reference {kernel : ScalarKernel} {patterns : List (List Bool)}
    {outputPattern : List Bool} {result : Tensor}
    (evaluated : Reference.eval kernel patterns outputPattern inputs = .ok result) :
    ∃ shape : Shape, shape.Admits (inputs.map Tensor.shape) := by
  simp only [Reference.eval] at evaluated
  obtain ⟨-, evaluated⟩ := (Outcome.unless_eq_ok _ _ (fun _ => _) _).mp evaluated
  split at evaluated
  · cases evaluated
  next shape common =>
    have least := Shape.isLeastCommon_of_broadcast (Shape.broadcast_eq_ok_iff.mpr common)
    exact ⟨shape, least.admits⟩

/-- Static broadcasting says of one axis exactly what the completions of its lengths have in
    common: it refuses when none of them broadcasts, gives the length to which each of those that
    do broadcasts, and leaves it open when two of them differ. A node that is refused for its
    lengths takes no arrays of the declared shapes, neither by the batched evaluation nor by the
    plain one. -/
theorem static_broadcast_is_exact (known : List (Option Nat)) (inhabited : known ≠ []) :
    (∀ e, StaticLength.broadcast known = .error e →
      ∀ common, ¬ StaticLength.Reaches known common) ∧
    (∀ length, StaticLength.broadcast known = .ok (some length) →
      (∃ common, StaticLength.Reaches known common) ∧
        ∀ common, StaticLength.Reaches known common → common = [length]) ∧
    (StaticLength.broadcast known = .ok none →
      ∃ first second, first ≠ second ∧ StaticLength.Reaches known [first] ∧
        StaticLength.Reaches known [second]) ∧
    ∀ operator reuse node config e,
      build operator reuse node config = .error (.inStaticLength e) →
      ∀ inputs, List.Forall₂ TensorType.Admits node.inputs inputs →
        (∀ core plan result, Vectorized.eval core plan inputs ≠ .ok result) ∧
          ∀ kernel patterns outputPattern result,
            Reference.eval kernel patterns outputPattern inputs ≠ .ok result := by
  simp only [StaticLength.reaches_iff inhabited]
  refine ⟨?_, ?_, ?_, ?_⟩
  · rintro e refused _ ⟨length, -, possible⟩
    obtain ⟨first, second, apart, here, there⟩ := StaticLength.exists_clash_of_error refused
    exact StaticLength.not_possible_of_clash apart here there length possible
  · intro length found
    have exactly : ∀ other, StaticLength.Possible known other ↔ other = length := by
      rcases StaticLength.broadcast_cases inhabited with
        ⟨answer, -⟩ | ⟨_, answer, facts⟩ | ⟨answer, -⟩
      · simp [answer] at found
      · obtain rfl : _ = length := by simpa [answer] using found
        exact StaticLength.possible_iff_of_found facts.1 facts.2.1 facts.2.2
      · simp [answer] at found
    refine ⟨⟨[length], length, rfl, (exactly length).mpr rfl⟩, ?_⟩
    rintro _ ⟨other, rfl, possible⟩
    rw [(exactly other).mp possible]
  · intro left
    have every : ∀ length, StaticLength.Possible known length := by
      rcases StaticLength.broadcast_cases inhabited with
        ⟨-, unknown, ones⟩ | ⟨_, answer, -⟩ | ⟨answer, -⟩
      · exact fun length => ⟨fun other listed => .inl (ones other listed), .inr (.inl unknown)⟩
      · simp [answer] at left
      · simp [answer] at left
    exact ⟨1, 2, by decide, ⟨1, rfl, every 1⟩, 2, rfl, every 2⟩
  · intro operator reuse node config e refused inputs admitted
    have apart := not_admits_of_refused admitted (checkStatic_of_build refused)
    constructor
    · intro core plan result evaluated
      obtain ⟨shape, admits⟩ := admits_of_vectorized evaluated
      exact apart shape admits
    · intro kernel patterns outputPattern result evaluated
      obtain ⟨shape, admits⟩ := admits_of_reference evaluated
      exact apart shape admits

/-- A sum of a pair and rows of three. -/
def clashingSum : Node :=
  ⟨.elementwise (.prim .add) .empty,
    [⟨.u8, [some 2], [false]⟩, ⟨.u8, [none, some 3], [true, false]⟩],
    [⟨.u8, [none, none], [false, false]⟩]⟩

/-- A pair of bytes. -/
def pairOfBytes : Tensor := ⟨.u8, [2], .unsigned #[0, 0]⟩

/-- Two rows of three bytes. -/
def rowsOfBytes : Tensor := ⟨.u8, [2, 3], .unsigned #[0, 0, 0, 0, 0, 0]⟩

/-- An empty axis among axes of length one and of unknown length is the length of all of them; and
    the refused sum could not run on a pair and two rows of three. -/
theorem static_broadcast_is_exact_empty :
    (StaticLength.broadcast [none, some 1, some 0] = .ok (some 0) ∧
      ∀ common, StaticLength.Reaches [none, some 1, some 0] common → common = [0]) ∧
    (∃ e, build (.prim .add) .empty clashingSum {} = .error (.inStaticLength e)) ∧
    ∀ core plan result,
      Vectorized.eval core plan [pairOfBytes, rowsOfBytes] ≠ .ok result := by
  obtain ⟨-, found, -, refused⟩ :=
    static_broadcast_is_exact [none, some 1, some 0] (List.cons_ne_nil _ _)
  have answer : StaticLength.broadcast [none, some 1, some 0] = .ok (some 0) := by decide
  have rejected : build (.prim .add) .empty clashingSum {} =
      .error (.inStaticLength ⟨[some 2, some 3]⟩) := rfl
  have admitted : List.Forall₂ TensorType.Admits clashingSum.inputs
      [pairOfBytes, rowsOfBytes] :=
    .cons (.cons (by simp) .nil) (.cons (.cons (by simp) (.cons (by simp) .nil)) .nil)
  exact ⟨⟨answer, (found 0 answer).2⟩, ⟨_, rejected⟩,
    (refused _ _ _ _ _ rejected _ admitted).1⟩

end Elementwise

end LoopKernels
