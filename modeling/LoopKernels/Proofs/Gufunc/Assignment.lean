import LoopKernels.Proofs.Gufunc.Binding

/-!
# Bindings are assignments

An assignment gives every name a length, the same one wherever the name stands. It explains the
shapes when the names of each operand, replaced by their lengths, spell the last lengths of its
shape; the axes in front are free. Binding looks for such an assignment place by place and never
looks back. It finds one whenever there is one, since the lengths bound so far are those that every
assignment must give, and for the same reason what it finds agrees with every assignment on the
names of the inputs. It holds nothing else.

Whether an assignment explains the shapes can be said of one pair of an operand and its shape after
another, so it does not matter in which order the pairs are listed.
-/

namespace LoopKernels.CoreSignature

variable {s : CoreSignature} {shapes : List (List Nat)} {binding extended : Binding}

/-- The names of an operand, replaced by their lengths, are the last lengths of its shape. -/
def Explains (assign : String → Nat) (operand : List String × List Nat) : Prop :=
  operand.1.map assign = operand.2.drop (operand.2.length - operand.1.length)

/-- The assignment explains the shape of every input. -/
def Assigns (s : CoreSignature) (shapes : List (List Nat)) (assign : String → Nat) : Prop :=
  ∀ operand ∈ s.inputs.zip shapes, Explains assign operand

/-! ## Places and assignments -/

/-- Names are replaced by given lengths when each of them is replaced by the length at its place. -/
theorem map_eq_iff_places (assign : String → Nat) (names : List String) (lengths : List Nat)
    (same : names.length = lengths.length) :
    names.map assign = lengths ↔ ∀ place ∈ names.zip lengths, assign place.1 = place.2 := by
  induction names generalizing lengths with
  | nil =>
    obtain rfl : lengths = [] := List.length_eq_zero_iff.mp same.symm
    simp
  | cons name names inductionHypothesis =>
    cases lengths with
    | nil => simp at same
    | cons length lengths =>
      rw [List.map_cons, List.cons.injEq, List.zip_cons_cons, List.forall_mem_cons,
        inductionHypothesis lengths (by simpa using same)]

/-- With enough axes, each name of an operand has one of the last lengths. -/
theorem length_trailing {operand : List String × List Nat}
    (enough : operand.1.length ≤ operand.2.length) :
    operand.1.length = (operand.2.drop (operand.2.length - operand.1.length)).length := by
  rw [List.length_drop]
  omega

/-- An operand with enough axes is explained place by place. -/
theorem explains_iff_places (assign : String → Nat) (operand : List String × List Nat)
    (enough : operand.1.length ≤ operand.2.length) :
    Explains assign operand ↔ ∀ place ∈ operandPlaces operand, assign place.1 = place.2 :=
  map_eq_iff_places assign operand.1 _ (length_trailing enough)

/-- A name that stands at a place is found, with the length of one of its places. -/
theorem exists_lookup {places : List (String × Nat)} {place : String × Nat}
    (listed : place ∈ places) :
    ∃ length, places.lookup place.1 = some length ∧ (place.1, length) ∈ places := by
  cases found : places.lookup place.1 with
  | none =>
    have absent := List.lookup_eq_none_iff.mp found place listed
    simp at absent
  | some length => exact ⟨length, rfl, mem_of_lookup places place.1 length found⟩

/-- Places do not contradict each other exactly when some assignment gives each of them its
    length. -/
theorem consistent_iff_exists_assign (places : List (String × Nat)) :
    Consistent places ↔ ∃ assign : String → Nat, ∀ place ∈ places, assign place.1 = place.2 := by
  constructor
  · intro consistent
    refine ⟨fun name => (places.lookup name).getD 0, ?_⟩
    intro place listed
    obtain ⟨length, found, member⟩ := exists_lookup listed
    have same : length = place.2 := consistent _ member place listed rfl
    simp [found, same]
  · rintro ⟨assign, each⟩ first listed second member same
    rw [← each first listed, ← each second member, same]

/-- With enough axes for the names, the shapes are explained place by place. -/
theorem assigns_iff_places (assign : String → Nat)
    (enough : ∀ operand ∈ s.inputs.zip shapes, operand.1.length ≤ operand.2.length) :
    s.Assigns shapes assign ↔
      ∀ place ∈ (s.inputs.zip shapes).flatMap operandPlaces, assign place.1 = place.2 := by
  constructor
  · intro assigns place listed
    obtain ⟨operand, member, here⟩ := List.mem_flatMap.mp listed
    exact (explains_iff_places assign operand (enough operand member)).mp
      (assigns operand member) place here
  · intro each operand member
    rw [explains_iff_places assign operand (enough operand member)]
    intro place here
    exact each place (List.mem_flatMap.mpr ⟨operand, member, here⟩)

/-- The places carry the names of the inputs. -/
theorem mem_names_places (count : shapes.length = s.inputs.length)
    (enough : ∀ operand ∈ s.inputs.zip shapes, operand.1.length ≤ operand.2.length)
    (name : String) :
    (∃ place ∈ (s.inputs.zip shapes).flatMap operandPlaces, place.1 = name) ↔
      ∃ names ∈ s.inputs, name ∈ names := by
  have own : ∀ operand ∈ s.inputs.zip shapes, (operandPlaces operand).map Prod.fst = operand.1 := by
    intro operand member
    exact List.map_fst_zip (Nat.le_of_eq (length_trailing (enough operand member)))
  have inputs : (s.inputs.zip shapes).map Prod.fst = s.inputs :=
    List.map_fst_zip (Nat.le_of_eq count.symm)
  constructor
  · rintro ⟨place, listed, rfl⟩
    obtain ⟨operand, member, here⟩ := List.mem_flatMap.mp listed
    refine ⟨operand.1, inputs ▸ List.mem_map_of_mem member, ?_⟩
    rw [← own operand member]
    exact List.mem_map_of_mem here
  · rintro ⟨names, listed, within⟩
    rw [← inputs] at listed
    obtain ⟨operand, member, rfl⟩ := List.mem_map.mp listed
    rw [← own operand member] at within
    obtain ⟨place, here, rfl⟩ := List.mem_map.mp within
    exact ⟨place, List.mem_flatMap.mpr ⟨operand, member, here⟩, rfl⟩

/-! ## What a binding holds -/

/-- A name is added to those that are bound only where it is not among them. -/
theorem nodup_bindName (nodup : (binding.map Prod.fst).Nodup) (name : String) (length : Nat)
    (step : bindName binding name length = .ok extended) : (extended.map Prod.fst).Nodup := by
  unfold bindName at step
  split at step
  next first found =>
    split at step
    · obtain rfl := Except.ok.inj step
      exact nodup
    · cases step
  next found =>
    obtain rfl := Except.ok.inj step
    have fresh : name ∉ binding.map Prod.fst := by
      intro listed
      obtain ⟨place, member, rfl⟩ := List.mem_map.mp listed
      obtain ⟨length, present, -⟩ := exists_lookup member
      rw [found] at present
      cases present
    rw [List.map_append, List.nodup_append]
    refine ⟨nodup, by simp, ?_⟩
    intro key listed other single
    obtain rfl : other = name := by simpa using single
    exact fun same => fresh (same ▸ listed)

/-- Binding names leaves each name bound once. -/
theorem nodup_bindNames (places : List (String × Nat)) (nodup : (binding.map Prod.fst).Nodup)
    (bound : bindNames binding places = .ok extended) : (extended.map Prod.fst).Nodup := by
  induction places generalizing binding with
  | nil =>
    obtain rfl := Except.ok.inj bound
    exact nodup
  | cons place places inductionHypothesis =>
    obtain ⟨next, step, rest⟩ := (Outcome.bind_eq_ok _ _ _).mp bound
    exact inductionHypothesis (nodup_bindName nodup place.1 place.2 step) rest

/-- No name is bound twice. -/
theorem nodup_bindOperands (number : Nat) (operands : List (List String × List Nat))
    (nodup : (binding.map Prod.fst).Nodup)
    (bound : s.bindOperands number binding operands = .ok extended) :
    (extended.map Prod.fst).Nodup := by
  induction operands generalizing number binding with
  | nil =>
    obtain rfl := Except.ok.inj bound
    exact nodup
  | cons operand operands inductionHypothesis =>
    rw [bindOperands, Outcome.unless_eq_ok] at bound
    obtain ⟨next, step, rest⟩ := (Outcome.bind_eq_ok _ _ _).mp bound.2
    exact inductionHypothesis (number + 1) (nodup_bindNames _ nodup step) rest

/-- A binding holds each name once, and the places of the inputs and nothing else. -/
theorem bind_holds (bound : s.bind shapes = .ok binding) :
    (binding.map Prod.fst).Nodup ∧
      ∀ place, place ∈ binding ↔ place ∈ (s.inputs.zip shapes).flatMap operandPlaces := by
  unfold bind at bound
  split at bound
  next => cases bound
  next =>
    have empty : Consistent [] := by simp [Consistent]
    have members := (bindOperands_eq_ok s 0 [] empty (s.inputs.zip shapes)).2 binding bound
    exact ⟨nodup_bindOperands 0 _ (by simp) bound, by simpa using members⟩

/-- Shapes can be bound exactly when there is one for each input, each has enough axes, and some
    assignment explains them. -/
theorem exists_bind_iff_assigns (s : CoreSignature) (shapes : List (List Nat)) :
    (∃ binding, s.bind shapes = .ok binding) ↔
      shapes.length = s.inputs.length ∧
      (∀ operand ∈ s.inputs.zip shapes, operand.1.length ≤ operand.2.length) ∧
      ∃ assign, s.Assigns shapes assign := by
  rw [exists_bind_iff]
  refine and_congr_right fun _ => and_congr_right ?_
  intro enough
  rw [consistent_iff_exists_assign]
  exact exists_congr fun assign => (assigns_iff_places assign enough).symm

/-- What is bound to a name is what every assignment gives it, and only the names of the inputs are
    bound. -/
theorem lookup_bind (bound : s.bind shapes = .ok binding) (assign : String → Nat)
    (assigns : s.Assigns shapes assign) (name : String) :
    binding.lookup name =
      if ∃ names ∈ s.inputs, name ∈ names then some (assign name) else none := by
  obtain ⟨-, members⟩ := bind_holds bound
  obtain ⟨count, enough, -⟩ := (exists_bind_iff_assigns s shapes).mp ⟨binding, bound⟩
  have each := (assigns_iff_places assign enough).mp assigns
  by_cases named : ∃ names ∈ s.inputs, name ∈ names
  · rw [if_pos named]
    obtain ⟨place, listed, rfl⟩ := (mem_names_places count enough name).mpr named
    obtain ⟨length, found, member⟩ := exists_lookup ((members place).mpr listed)
    have same : assign place.1 = length := each _ ((members _).mp member)
    rw [found, same]
  · rw [if_neg named]
    cases found : binding.lookup name with
    | none => rfl
    | some length =>
      have listed := (members _).mp (mem_of_lookup binding name length found)
      exact absurd ((mem_names_places count enough name).mp ⟨_, listed, rfl⟩) named

/-! ## The order of the operands -/

/-- Only the pairs of an operand and its shape matter for what can be bound and for what is bound,
    not their order. -/
theorem bind_perm {other : CoreSignature} {others : List (List Nat)}
    (count : shapes.length = s.inputs.length) (otherCount : others.length = other.inputs.length)
    (perm : (s.inputs.zip shapes).Perm (other.inputs.zip others)) :
    ((∃ m, s.bind shapes = .ok m) ↔ ∃ m, other.bind others = .ok m) ∧
      ∀ m m', s.bind shapes = .ok m → other.bind others = .ok m' →
        ∀ name, m.lookup name = m'.lookup name := by
  have assigns : ∀ assign, s.Assigns shapes assign ↔ other.Assigns others assign := by
    intro assign
    exact forall_congr' fun operand => by rw [perm.mem_iff]
  constructor
  · rw [exists_bind_iff_assigns, exists_bind_iff_assigns]
    simp only [count, otherCount, true_and, perm.mem_iff, assigns]
  · intro m m' bound otherBound name
    obtain ⟨-, -, assign, explains⟩ := (exists_bind_iff_assigns s shapes).mp ⟨m, bound⟩
    have inputs : s.inputs.Perm other.inputs := by
      have firsts := perm.map Prod.fst
      rwa [List.map_fst_zip (Nat.le_of_eq count.symm),
        List.map_fst_zip (Nat.le_of_eq otherCount.symm)] at firsts
    rw [lookup_bind bound assign explains,
      lookup_bind otherBound assign ((assigns assign).mp explains)]
    simp only [inputs.mem_iff]

/-- Binding finds the one assignment that explains the shapes. It succeeds exactly when there is one
    shape for each input, each has at least as many axes as its operand has names, and some
    assignment of lengths to names gives every operand its trailing lengths in order. It then binds
    exactly the names of the inputs, each once and to the length that every such assignment gives
    it. With another number of shapes it fails with that number, and the order in which the pairs
    of an operand and its shape are listed matters neither for success nor for what is bound. -/
theorem binding_is_the_assignment (s : CoreSignature) (shapes : List (List Nat)) :
    ((∃ m, s.bind shapes = .ok m) ↔
      shapes.length = s.inputs.length ∧
      (∀ operand ∈ s.inputs.zip shapes, operand.1.length ≤ operand.2.length) ∧
      ∃ assign, s.Assigns shapes assign) ∧
    (∀ m, s.bind shapes = .ok m →
      (m.map Prod.fst).Nodup ∧
      (∀ name, name ∈ m.map Prod.fst ↔ ∃ names ∈ s.inputs, name ∈ names) ∧
      ∀ assign, s.Assigns shapes assign → ∀ name, m.lookup name =
        if ∃ names ∈ s.inputs, name ∈ names then some (assign name) else none) ∧
    (shapes.length ≠ s.inputs.length →
      s.bind shapes = .error (.operandCount s s.inputs.length shapes.length)) ∧
    (∀ (other : CoreSignature) (others : List (List Nat)),
      shapes.length = s.inputs.length → others.length = other.inputs.length →
      (s.inputs.zip shapes).Perm (other.inputs.zip others) →
      ((∃ m, s.bind shapes = .ok m) ↔ ∃ m, other.bind others = .ok m) ∧
      ∀ m m', s.bind shapes = .ok m → other.bind others = .ok m' →
        ∀ name, m.lookup name = m'.lookup name) := by
  refine ⟨exists_bind_iff_assigns s shapes, ?_, ?_, fun _ _ => bind_perm⟩
  · intro m bound
    obtain ⟨nodup, members⟩ := bind_holds bound
    obtain ⟨count, enough, -⟩ := (exists_bind_iff_assigns s shapes).mp ⟨m, bound⟩
    refine ⟨nodup, ?_, lookup_bind bound⟩
    intro name
    rw [← mem_names_places count enough, List.mem_map]
    exact exists_congr fun place => by rw [members]
  · intro wrong
    rw [bind, if_pos wrong]

/-- The product of two matrices. -/
def product : CoreSignature := ⟨[["m", "n"], ["n", "p"]], [["m", "p"]]⟩

/-- The product with the operands in the other order. -/
def productSwapped : CoreSignature := ⟨[["n", "p"], ["m", "n"]], [["m", "p"]]⟩

/-- A matrix is multiplied with each of seven matrices. The lengths do not change with the order of
    the operands; inner lengths that differ, or an operand too few, are refused. -/
theorem binding_is_the_assignment_product :
    product.bind [[2, 3], [7, 3, 4]] = .ok [("m", 2), ("n", 3), ("p", 4)] ∧
      (∃ m, productSwapped.bind [[7, 3, 4], [2, 3]] = .ok m ∧
        ∀ name, m.lookup name = [("m", 2), ("n", 3), ("p", 4)].lookup name) ∧
      (¬ ∃ m, product.bind [[2, 3], [5, 4]] = .ok m) ∧
      product.bind [[2, 3]] = .error (.operandCount product 2 1) := by
  obtain ⟨-, -, -, reordered⟩ := binding_is_the_assignment product [[2, 3], [7, 3, 4]]
  obtain ⟨decides, -⟩ := binding_is_the_assignment product [[2, 3], [5, 4]]
  obtain ⟨-, -, counted, -⟩ := binding_is_the_assignment product [[2, 3]]
  have found : product.bind [[2, 3], [7, 3, 4]] = .ok [("m", 2), ("n", 3), ("p", 4)] := rfl
  obtain ⟨same, agree⟩ :=
    reordered productSwapped [[7, 3, 4], [2, 3]] rfl rfl (List.Perm.swap _ _ _)
  obtain ⟨m, swapped⟩ := same.mp ⟨_, found⟩
  refine ⟨found, ⟨m, swapped, fun name => (agree _ m found swapped name).symm⟩, ?_,
    counted (by decide)⟩
  rw [decides]
  rintro ⟨-, -, assign, explains⟩
  have left := explains (["m", "n"], [2, 3]) (by simp [product])
  have right := explains (["n", "p"], [5, 4]) (by simp [product])
  obtain ⟨-, three⟩ : assign "m" = 2 ∧ assign "n" = 3 := by simpa [Explains] using left
  obtain ⟨five, -⟩ : assign "n" = 5 ∧ assign "p" = 4 := by simpa [Explains] using right
  omega

end LoopKernels.CoreSignature
