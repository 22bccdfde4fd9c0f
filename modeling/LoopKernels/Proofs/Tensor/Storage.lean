import LoopKernels.Tensor.Value
import LoopKernels.Proofs.Outcome
import LoopKernels.Proofs.Scalar.Integers

/-!
# Storage as a list of scalars

Storage of a family is a list of scalars in the representation of that family, and
nothing more: two storages of one family with the same list are the same. A scalar
cast to an element type is already in the representation of the type's family, so
what is collected from cast scalars is read back unchanged.
-/

namespace LoopKernels

namespace Cells

/-- There is one scalar for each cell. -/
@[simp] theorem length_toList (cells : Cells) : cells.toList.length = cells.size := by
  cases cells <;> simp [toList, size]

/-- Reading a cell is reading the list of scalars. -/
theorem get?_eq (cells : Cells) (position : Nat) :
    cells.get? position = cells.toList[position]? := by
  cases cells <;> simp [get?, toList]

/-- Every scalar in storage is in the representation of its family. -/
theorem family_of_mem (cells : Cells) (s : Scalar) (member : s ∈ cells.toList) :
    s.family = cells.family := by
  cases cells with
  | bool cells =>
    obtain ⟨_, _, rfl⟩ := List.mem_map.mp member
    rfl
  | signed cells =>
    obtain ⟨_, _, rfl⟩ := List.mem_map.mp member
    rfl
  | unsigned cells =>
    obtain ⟨_, _, rfl⟩ := List.mem_map.mp member
    rfl
  | float cells =>
    obtain ⟨_, _, rfl⟩ := List.mem_map.mp member
    rfl

/-- Entries that become the same scalars are the same. -/
theorem eq_of_map_toList {α : Type} (wrap : α → Scalar)
    (injective : ∀ x y, wrap x = wrap y → x = y) (left right : Array α)
    (same : left.toList.map wrap = right.toList.map wrap) : left = right := by
  have lists : left.toList = right.toList := by
    refine List.ext_getElem? ?_
    intro position
    have here := congrArg (·[position]?) same
    simp only [List.getElem?_map] at here
    cases first : left.toList[position]? <;> cases second : right.toList[position]? <;>
      simp_all
    exact injective _ _ here
  exact Array.toList_inj.mp lists

/-- Storage is determined by its family and its list of scalars. -/
theorem eq_of_toList (left right : Cells) (families : left.family = right.family)
    (same : left.toList = right.toList) : left = right := by
  cases left with
  | bool left =>
    cases right with
    | bool right => rw [eq_of_map_toList .bool (fun _ _ => Scalar.bool.inj) left right same]
    | _ => simp [family] at families
  | signed left =>
    cases right with
    | signed right => rw [eq_of_map_toList .int (fun _ _ => Scalar.int.inj) left right same]
    | _ => simp [family] at families
  | unsigned left =>
    cases right with
    | unsigned right => rw [eq_of_map_toList .uint (fun _ _ => Scalar.uint.inj) left right same]
    | _ => simp [family] at families
  | float left =>
    cases right with
    | float right => rw [eq_of_map_toList .float (fun _ _ => Scalar.float.inj) left right same]
    | _ => simp [family] at families

/-- Collected scalars are of the family for which they were collected. -/
@[simp] theorem family_collect (family : Family) (values : List Scalar) :
    (collect family values).family = family := by
  cases family <;> rfl

/-- Scalars already in the representation of a family are read back as they were collected. -/
theorem toList_collect (family : Family) (values : List Scalar)
    (held : ∀ value ∈ values, value.family = family) : (collect family values).toList = values := by
  have back : ∀ (f : Scalar → Scalar), (∀ value ∈ values, f value = value) →
      values.map f = values := by
    intro f fixed
    conv => rhs; rw [← List.map_id values]
    exact List.map_congr_left fixed
  cases family <;> simp only [collect, toList, List.map_map] <;>
    refine back _ fun value member => ?_
  all_goals
    have here := held value member
    cases value <;> simp_all [Scalar.family, Scalar.isZero, Scalar.toInt64, Scalar.toUInt64,
      Scalar.toFloat]

/-- Filled cells are of the family for which they were filled. -/
@[simp] theorem family_filled (family : Family) (size : Nat) (value : Scalar) :
    (filled family size value).family = family := by
  cases family <;> rfl

/-- Filling with a scalar is collecting its copies. -/
theorem filled_eq_collect (family : Family) (size : Nat) (value : Scalar) :
    filled family size value = collect family (List.replicate size value) := by
  cases family <;> simp [filled, collect]

/-- Writing a scalar of the family at an existing position changes the list at that place
    and nowhere else. -/
theorem set?_eq_some (cells : Cells) (position : Nat) (value : Scalar)
    (held : value.family = cells.family) (bound : position < cells.size) :
    ∃ written, cells.set? position value = some written ∧ written.family = cells.family ∧
      written.toList = cells.toList.set position value := by
  unfold set?
  rw [if_pos bound]
  refine ⟨_, rfl, ?_⟩
  cases cells <;> cases value <;>
    simp_all [family, toList, Scalar.family, Scalar.isZero, Scalar.toInt64, Scalar.toUInt64,
      Scalar.toFloat, List.map_set]

/-- Entries at existing positions are found, in the order of the positions. -/
theorem entries_ok {α : Type} (wrap : α → Scalar) (source : Array α) (positions : List Nat)
    (value : Nat → Scalar)
    (each : ∀ position ∈ positions, source[position]?.map wrap = some (value position)) :
    ∃ found, entries source positions = .ok found ∧
      found.toList.map wrap = positions.map value := by
  have listed : ∃ found, positions.mapM (entry source) = .ok found ∧
      found.map wrap = positions.map value := by
    induction positions with
    | nil => exact ⟨[], rfl, rfl⟩
    | cons position positions inductionHypothesis =>
      obtain ⟨rest, tail, restValues⟩ := inductionHypothesis fun later member =>
        each later (List.mem_cons_of_mem position member)
      obtain ⟨first, stored, firstValue⟩ :=
        Option.map_eq_some_iff.mp (each position List.mem_cons_self)
      have head : entry source position = .ok first := by simp [entry, stored]
      refine ⟨first :: rest, ?_, by simp [firstValue, restValues]⟩
      rw [List.mapM_cons, head, tail]
      rfl
  obtain ⟨found, mapped, values⟩ := listed
  exact ⟨found.toArray, by simp [entries, mapped, Except.map], by simpa using values⟩

/-- Cells at existing positions are gathered in the order of the positions. -/
theorem gather_ok (cells : Cells) (positions : List Nat) (value : Nat → Scalar)
    (each : ∀ position ∈ positions, cells.toList[position]? = some (value position)) :
    ∃ gathered, cells.gather positions = .ok gathered ∧ gathered.family = cells.family ∧
      gathered.toList = positions.map value := by
  cases cells with
  | bool cells =>
    obtain ⟨found, read, values⟩ := entries_ok .bool cells positions value
      fun position member => by simpa [toList] using each position member
    exact ⟨.bool found, by simp [gather, read, Except.map], rfl, values⟩
  | signed cells =>
    obtain ⟨found, read, values⟩ := entries_ok .int cells positions value
      fun position member => by simpa [toList] using each position member
    exact ⟨.signed found, by simp [gather, read, Except.map], rfl, values⟩
  | unsigned cells =>
    obtain ⟨found, read, values⟩ := entries_ok .uint cells positions value
      fun position member => by simpa [toList] using each position member
    exact ⟨.unsigned found, by simp [gather, read, Except.map], rfl, values⟩
  | float cells =>
    obtain ⟨found, read, values⟩ := entries_ok .float cells positions value
      fun position member => by simpa [toList] using each position member
    exact ⟨.float found, by simp [gather, read, Except.map], rfl, values⟩

end Cells

end LoopKernels
