import LoopKernels.Kernel.Error

/-!
# Computations that may fail

Kernels are chains of steps in `Except`. A chain succeeds exactly when each of its
steps does, on the value of the one before; a list of computations succeeds
exactly when every one of them does. Errors of the layers beneath are relabelled
on the way up, which changes no success.
-/

namespace LoopKernels.Outcome

variable {ε α β : Type}

/-- A result is passed on. -/
@[simp] theorem bind_ok (a : α) (f : α → Except ε β) : (Except.ok a >>= f) = f a := rfl

/-- An error stops what would follow. -/
@[simp] theorem bind_error (e : ε) (f : α → Except ε β) :
    (Except.error e >>= f) = Except.error e := rfl

/-- A plain value is a result. -/
@[simp] theorem pure_ok (a : α) : (pure a : Except ε α) = Except.ok a := rfl

/-- A thrown error is an error. -/
@[simp] theorem throw_error (e : ε) : (throw e : Except ε α) = Except.error e := rfl

/-- A chain gives a value exactly through the value of its first step. -/
theorem bind_eq_ok (x : Except ε α) (f : α → Except ε β) (b : β) :
    x >>= f = .ok b ↔ ∃ a, x = .ok a ∧ f a = .ok b := by
  cases x with
  | error e => simp
  | ok a => simp

/-- A function of a result gives a value exactly through the result. -/
theorem map_eq_ok (x : Except ε α) (f : α → β) (b : β) :
    x.map f = .ok b ↔ ∃ a, x = .ok a ∧ f a = b := by
  cases x with
  | error e => simp [Except.map]
  | ok a => simp [Except.map]

/-- Computations that all succeed give the list of their values. -/
theorem mapM_ok (f : α → Except ε β) (value : α → β) (xs : List α)
    (each : ∀ x ∈ xs, f x = .ok (value x)) : xs.mapM f = .ok (xs.map value) := by
  induction xs with
  | nil => rfl
  | cons x xs inductionHypothesis =>
    have rest : xs.mapM f = .ok (xs.map value) :=
      inductionHypothesis fun y member => each y (List.mem_cons_of_mem x member)
    rw [List.mapM_cons, each x List.mem_cons_self, rest]
    rfl

/-- Two computations that agree on every entry of a list agree on the list,
    errors and other effects included. -/
theorem mapM_congr {m : Type → Type} [Monad m] [LawfulMonad m] (f g : α → m β) (xs : List α)
    (same : ∀ x ∈ xs, f x = g x) : xs.mapM f = xs.mapM g := by
  induction xs with
  | nil => rfl
  | cons x xs inductionHypothesis =>
    have rest : xs.mapM f = xs.mapM g :=
      inductionHypothesis fun y member => same y (List.mem_cons_of_mem x member)
    rw [List.mapM_cons, List.mapM_cons, same x List.mem_cons_self, rest]

/-- A list of computations gives values exactly when each entry gives the value at its
    place. -/
theorem mapM_eq_ok (f : α → Except ε β) (xs : List α) (ys : List β) :
    xs.mapM f = .ok ys ↔ xs.map f = ys.map .ok := by
  induction xs generalizing ys with
  | nil => cases ys <;> simp
  | cons x xs inductionHypothesis =>
    rw [List.mapM_cons, bind_eq_ok]
    constructor
    · rintro ⟨y, first, others⟩
      obtain ⟨rest, tail, same⟩ := (bind_eq_ok _ _ _).mp others
      obtain rfl : y :: rest = ys := by simpa using same
      simp [first, (inductionHypothesis rest).mp tail]
    · intro same
      cases ys with
      | nil => simp at same
      | cons y rest =>
        obtain ⟨first, others⟩ : f x = .ok y ∧ xs.map f = rest.map .ok := by simpa using same
        exact ⟨y, first, (bind_eq_ok _ _ _).mpr ⟨rest, (inductionHypothesis rest).mpr others, rfl⟩⟩

/-- A list of computations gives as many values. -/
theorem mapM_length (f : α → Except ε β) (xs : List α) (ys : List β)
    (computed : xs.mapM f = .ok ys) : ys.length = xs.length := by
  simpa using (congrArg List.length ((mapM_eq_ok f xs ys).mp computed)).symm

/-- Computations that agree on some view of their values agree on it as lists. -/
theorem toOption_mapM_congr {γ : Type} (f g : α → Except ε β) (view : β → γ) (xs : List α)
    (same : ∀ x ∈ xs, (f x).toOption.map view = (g x).toOption.map view) :
    (xs.mapM f).toOption.map (List.map view) = (xs.mapM g).toOption.map (List.map view) := by
  induction xs with
  | nil => rfl
  | cons x xs inductionHypothesis =>
    rw [List.forall_mem_cons] at same
    have later := inductionHypothesis same.2
    have first := same.1
    rw [List.mapM_cons, List.mapM_cons]
    cases here : f x <;> cases there : g x <;> cases rest : xs.mapM f <;>
      cases others : xs.mapM g <;> simp_all [Except.toOption]

/-- A list of computations succeeds exactly when each of them does. -/
theorem exists_mapM_iff (f : α → Except ε β) (xs : List α) :
    (∃ ys, xs.mapM f = .ok ys) ↔ ∀ x ∈ xs, ∃ y, f x = .ok y := by
  induction xs with
  | nil => simp
  | cons x xs inductionHypothesis =>
    rw [List.forall_mem_cons, ← inductionHypothesis, List.mapM_cons]
    cases f x with
    | error e => simp
    | ok y => cases xs.mapM f <;> simp

/-- A list of computations fails with the error of one of them. -/
theorem exists_of_mapM_error (f : α → Except ε β) (xs : List α) (e : ε)
    (failed : xs.mapM f = .error e) : ∃ x ∈ xs, f x = .error e := by
  induction xs with
  | nil => simp at failed
  | cons x xs inductionHypothesis =>
    rw [List.mapM_cons] at failed
    cases first : f x with
    | error other =>
      obtain rfl : other = e := by simpa [first] using failed
      exact ⟨x, List.mem_cons_self, first⟩
    | ok y =>
      cases rest : xs.mapM f with
      | error other =>
        obtain rfl : other = e := by simpa [first, rest] using failed
        obtain ⟨z, listed, here⟩ := inductionHypothesis rest
        exact ⟨z, List.mem_cons_of_mem x listed, here⟩
      | ok ys => simp [first, rest] at failed

/-- A list of computations fails with the error of the first that fails. -/
theorem mapM_first_error (f : α → Except ε β) (before after : List α) (x : α) (e : ε)
    (earlier : ∀ y ∈ before, ∃ b, f y = .ok b) (failed : f x = .error e) :
    (before ++ x :: after).mapM f = .error e := by
  induction before with
  | nil => simp [List.mapM_cons, failed]
  | cons y before inductionHypothesis =>
    rw [List.forall_mem_cons] at earlier
    obtain ⟨b, here⟩ := earlier.1
    rw [List.cons_append, List.mapM_cons, here, inductionHypothesis earlier.2]
    rfl

/-- A list of checks fails with the error of one of them. -/
theorem exists_of_forM_error (f : α → Except ε Unit) (xs : List α) (e : ε)
    (failed : xs.forM f = .error e) : ∃ x ∈ xs, f x = .error e := by
  induction xs with
  | nil => cases failed
  | cons x xs inductionHypothesis =>
    have step : (x :: xs).forM f = (f x >>= fun _ => xs.forM f) := rfl
    rw [step] at failed
    cases first : f x with
    | error other =>
      obtain rfl : other = e := by simpa [first] using failed
      exact ⟨x, List.mem_cons_self, first⟩
    | ok done =>
      rw [first, bind_ok] at failed
      obtain ⟨y, listed, here⟩ := inductionHypothesis failed
      exact ⟨y, List.mem_cons_of_mem x listed, here⟩

/-- Computations numbered from zero give the list with the value of each at its number. -/
theorem mapM_range_eq_ok (f : Nat → Except ε β) (count : Nat) (ys : List β) (default : β) :
    (List.range count).mapM f = .ok ys ↔
      ys.length = count ∧ ∀ number, number < count → f number = .ok (ys.getD number default) := by
  rw [mapM_eq_ok]
  constructor
  · intro same
    have lengths : ys.length = count := by simpa using (congrArg List.length same).symm
    refine ⟨lengths, ?_⟩
    intro number bound
    have here := congrArg (·[number]?) same
    simpa [bound, lengths, List.getD_eq_getElem?_getD] using here
  · rintro ⟨lengths, each⟩
    refine List.ext_getElem (by simp [lengths]) ?_
    intro number here there
    have bound : number < count := by simpa using here
    simp [each number bound, List.getD_eq_getElem?_getD, lengths, bound]

/-- A check followed by a step gives a value exactly when the check passes. -/
theorem check_eq_ok (check : Except ε Unit) (next : Except ε β) (b : β) :
    (check >>= fun _ => next) = .ok b ↔ check = .ok () ∧ next = .ok b := by
  cases check with
  | error e => simp
  | ok done => simp

/-- A refusal followed by a step gives a value exactly when nothing is refused. -/
theorem unless_eq_ok (refused : Prop) [Decidable refused] (e : ε) (next : PUnit → Except ε β)
    (b : β) :
    (if refused then throw e >>= next else next ⟨⟩) = .ok b ↔ ¬ refused ∧ next ⟨⟩ = .ok b := by
  by_cases refuses : refused <;> simp [refuses]

/-- A result of an array operation is a result of the kernel. -/
@[simp] theorem ofTensor_ok (a : α) : KernelError.ofTensor (.ok a) = .ok a := rfl

/-- What every step of a loop keeps, the loop keeps. -/
theorem foldlM_keeps (f : β → α → Except ε β) (holds : β → Prop)
    (step : ∀ before x after, holds before → f before x = .ok after → holds after) (xs : List α)
    (first last : β) (begun : holds first) (done : xs.foldlM f first = .ok last) : holds last := by
  induction xs generalizing first with
  | nil =>
    obtain rfl := Except.ok.inj done
    exact begun
  | cons x xs inductionHypothesis =>
    rw [List.foldlM_cons] at done
    obtain ⟨next, stepped, rest⟩ := (bind_eq_ok _ _ _).mp done
    exact inductionHypothesis next (step first x next begun stepped) rest

/-- Relabelling the error of an array operation keeps its success. -/
@[simp] theorem ofTensor_eq_ok (x : Except TensorError α) (a : α) :
    KernelError.ofTensor x = .ok a ↔ x = .ok a := by
  cases x <;> simp [KernelError.ofTensor]

/-- Relabelling the error of a scalar operator keeps its success. -/
@[simp] theorem ofOperator_eq_ok (x : Except OperatorError α) (a : α) :
    KernelError.ofOperator x = .ok a ↔ x = .ok a := by
  cases x <;> simp [KernelError.ofOperator]

/-- Relabelling the error of an axis keeps its success. -/
@[simp] theorem ofAxis_eq_ok (x : Except AxisError α) (a : α) :
    KernelError.ofAxis x = .ok a ↔ x = .ok a := by
  cases x <;> simp [KernelError.ofAxis]

/-- Relabelling the error of a shuffle keeps its success. -/
@[simp] theorem ofShuffle_eq_ok (x : Except ShuffleError α) (a : α) :
    KernelError.ofShuffle x = .ok a ↔ x = .ok a := by
  cases x <;> simp [KernelError.ofShuffle]

end LoopKernels.Outcome
