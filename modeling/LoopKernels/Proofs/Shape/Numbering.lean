import LoopKernels.Shape.Odometer

/-!
# The numbering of coordinates

A row-major shape numbers its coordinates from zero up to its count. Four walks
define that numbering: the offset of a coordinate under the strides, the division
of a position by the lengths, the step of the odometer, and the list of all
coordinates. The offset is the measure that ties them together: it is the position
that division recovers, each odometer step raises it by one, and the odometer
stops exactly at the last position. A call of the odometer therefore gives the
coordinate at the number of calls before it, and the list of coordinates is the
list of positions, each divided back into its coordinate.
-/

namespace LoopKernels.Shape

/-- A shape without axes has one entry. -/
@[simp] theorem count_nil : count [] = 1 := rfl

/-- The first length multiplies the count of the rest. -/
@[simp] theorem count_cons (length : Nat) (shape : Shape) :
    count (length :: shape) = length * count shape := by
  have start : (1 : Nat) * length = length * 1 := Nat.mul_comm 1 length
  simp only [count, List.foldl_cons]
  rw [start, List.foldl_assoc]

/-- A shape has no elements exactly when one of its axes is empty. -/
theorem count_eq_zero (shape : Shape) : count shape = 0 ↔ 0 ∈ shape := by
  induction shape with
  | nil => simp
  | cons length shape inductionHypothesis =>
    rw [count_cons, Nat.mul_eq_zero, inductionHypothesis, List.mem_cons, eq_comm]

/-- A shape of ones has one place. -/
theorem count_ones (rank : Nat) : count (List.replicate rank 1) = 1 := by
  induction rank with
  | zero => rfl
  | succ rank inductionHypothesis => simp [List.replicate_succ, inductionHypothesis]

/-- No axis, no stride. -/
@[simp] theorem strides_nil : strides [] = [] := rfl

/-- The stride of the first axis is the count behind it. -/
@[simp] theorem strides_cons (length : Nat) (shape : Shape) :
    strides (length :: shape) = count shape :: strides shape := by
  induction shape generalizing length with
  | nil => rfl
  | cons next rest inductionHypothesis =>
    simp only [strides, inductionHypothesis, count_cons]
    rw [Nat.mul_comm]

/-- There is one stride for each axis. -/
@[simp] theorem strides_length (shape : Shape) : (strides shape).length = shape.length := by
  induction shape with
  | nil => rfl
  | cons length shape inductionHypothesis => simp [inductionHypothesis]

/-- The only coordinate without axes is at the start. -/
@[simp] theorem offset_nil (steps : List Nat) : offset [] steps = 0 := by simp [offset]

/-- The first index counts by the first step. -/
@[simp] theorem offset_cons (index step : Nat) (coord : Coord) (steps : List Nat) :
    offset (index :: coord) (step :: steps) = index * step + offset coord steps := by
  have start : 0 + index * step = index * step + 0 := Nat.add_comm 0 (index * step)
  simp only [offset, List.zipWith_cons_cons, List.foldl_cons]
  rw [start, List.foldl_assoc]

/-- The only coordinate without axes is the empty one. -/
@[simp] theorem contains_nil (coord : Coord) : contains [] coord = true ↔ coord = [] := by
  cases coord <;> simp [contains]

/-- A coordinate has an index for every axis. -/
@[simp] theorem contains_cons_nil (length : Nat) (shape : Shape) :
    contains (length :: shape) [] = false := rfl

/-- An index lies below its length, on the first axis and on the others. -/
@[simp] theorem contains_cons (length index : Nat) (shape : Shape) (coord : Coord) :
    contains (length :: shape) (index :: coord) = true ↔
      index < length ∧ contains shape coord = true := by
  simp [contains]

/-- A coordinate inside a shape of several axes splits into its first entry and the rest. -/
theorem contains_cons_iff (length : Nat) (shape : Shape) (coord : Coord) :
    contains (length :: shape) coord = true ↔
      ∃ index rest, coord = index :: rest ∧ index < length ∧ contains shape rest = true := by
  cases coord with
  | nil => simp
  | cons index rest =>
    rw [contains_cons]
    constructor
    · intro inside
      exact ⟨index, rest, rfl, inside⟩
    · rintro ⟨_, _, same, inside⟩
      obtain ⟨rfl, rfl⟩ := List.cons.inj same
      exact inside

/-- A coordinate inside a shape has one entry per axis. -/
theorem length_of_contains (shape : Shape) (coord : Coord) (inside : contains shape coord = true) :
    coord.length = shape.length := by
  induction shape generalizing coord with
  | nil => simp [(contains_nil coord).mp inside]
  | cons length shape inductionHypothesis =>
    obtain ⟨index, rest, rfl, _, within⟩ := (contains_cons_iff length shape coord).mp inside
    simp [inductionHypothesis rest within]

/-- A coordinate lies inside a shape exactly when it has its rank and each entry is below
    the length at its place. -/
theorem contains_iff_get (shape : Shape) (coord : Coord) :
    contains shape coord = true ↔
      coord.length = shape.length ∧
        ∀ axis, axis < shape.length → coord.getD axis 0 < shape.getD axis 0 := by
  induction shape generalizing coord with
  | nil => simp
  | cons length shape inductionHypothesis =>
    cases coord with
    | nil => simp
    | cons index coord =>
      rw [contains_cons, inductionHypothesis]
      constructor
      · rintro ⟨first, sameRank, each⟩
        refine ⟨by simp [sameRank], ?_⟩
        intro axis bound
        cases axis with
        | zero => simpa using first
        | succ axis => simpa using each axis (by simpa using bound)
      · rintro ⟨sameRank, each⟩
        refine ⟨by simpa using each 0 (by simp), by simpa using sameRank, ?_⟩
        intro axis bound
        simpa using each (axis + 1) (by simpa using bound)

/-- The offset of a coordinate inside a shape is a position of the shape: the first entry
    contributes whole blocks, the rest stays below one block. -/
theorem offset_lt_count (shape : Shape) (coord : Coord) (inside : contains shape coord = true) :
    offset coord (strides shape) < count shape := by
  induction shape generalizing coord with
  | nil => simp [(contains_nil coord).mp inside]
  | cons length shape inductionHypothesis =>
    obtain ⟨index, rest, rfl, bound, within⟩ := (contains_cons_iff length shape coord).mp inside
    have below : offset rest (strides shape) < count shape := inductionHypothesis rest within
    have block : (index + 1) * count shape ≤ length * count shape :=
      Nat.mul_le_mul_right _ bound
    rw [Nat.succ_mul] at block
    simp only [strides_cons, offset_cons, count_cons]
    omega

/-- What division leaves of a position behind the axes of a shape without empty axes. -/
theorem unravel_quotient (position : Nat) (shape : Shape) (nonempty : count shape ≠ 0) :
    (shape.foldr unravelAxis (position, [])).1 = position / count shape := by
  induction shape with
  | nil => simp
  | cons length shape inductionHypothesis =>
    have positive : length ≠ 0 ∧ count shape ≠ 0 := by simpa [Nat.mul_eq_zero] using nonempty
    have oneOrMore : max length 1 = length := by omega
    simp only [List.foldr_cons, unravelAxis, inductionHypothesis positive.2, oneOrMore, count_cons]
    rw [Nat.div_div_eq_div_mul, Nat.mul_comm]

/-- The coordinate at a position without axes is empty. -/
@[simp] theorem unravel_nil (position : Nat) : unravel position [] = [] := rfl

/-- The first entry of the coordinate at a position counts whole blocks of the rest. -/
theorem unravel_cons (position length : Nat) (shape : Shape) (nonempty : count shape ≠ 0) :
    unravel position (length :: shape) =
      position / count shape % max length 1 :: unravel position shape := by
  simp only [unravel, List.foldr_cons, unravelAxis, unravel_quotient position shape nonempty]

/-- Whole counts of a shape do not change the coordinate at a position. -/
theorem unravel_add_mul (blocks position : Nat) (shape : Shape) (nonempty : count shape ≠ 0) :
    unravel (blocks * count shape + position) shape = unravel position shape := by
  induction shape generalizing blocks with
  | nil => rfl
  | cons length shape inductionHypothesis =>
    have positive : length ≠ 0 ∧ count shape ≠ 0 := by simpa [Nat.mul_eq_zero] using nonempty
    have oneOrMore : max length 1 = length := by omega
    have regroup : blocks * count (length :: shape) + position =
        blocks * length * count shape + position := by
      rw [count_cons, Nat.mul_assoc]
    have quotient : (blocks * length * count shape + position) / count shape =
        position / count shape + blocks * length := by
      rw [Nat.add_comm, Nat.add_mul_div_right _ _ (Nat.pos_of_ne_zero positive.2)]
    rw [regroup, unravel_cons _ _ _ positive.2, unravel_cons _ _ _ positive.2,
      inductionHypothesis (blocks * length) positive.2, quotient, oneOrMore,
      Nat.add_mul_mod_self_right]

/-- Dividing the offset of a coordinate gives the coordinate back. -/
theorem unravel_offset (shape : Shape) (coord : Coord) (inside : contains shape coord = true) :
    unravel (offset coord (strides shape)) shape = coord := by
  induction shape generalizing coord with
  | nil => simp [(contains_nil coord).mp inside]
  | cons length shape inductionHypothesis =>
    obtain ⟨index, rest, rfl, bound, within⟩ := (contains_cons_iff length shape coord).mp inside
    have below : offset rest (strides shape) < count shape := offset_lt_count shape rest within
    have nonempty : count shape ≠ 0 := by omega
    have quotient : (index * count shape + offset rest (strides shape)) / count shape = index := by
      rw [Nat.add_comm, Nat.add_mul_div_right _ _ (Nat.pos_of_ne_zero nonempty),
        Nat.div_eq_of_lt below, Nat.zero_add]
    have entry : index % max length 1 = index := Nat.mod_eq_of_lt (by omega)
    simp only [strides_cons, offset_cons]
    rw [unravel_cons _ _ _ nonempty, quotient, entry, unravel_add_mul _ _ _ nonempty,
      inductionHypothesis rest within]

/-- The coordinate at a position of a shape lies inside it and has that position as its
    offset. -/
theorem contains_unravel (shape : Shape) (position : Nat) (bound : position < count shape) :
    contains shape (unravel position shape) = true ∧
      offset (unravel position shape) (strides shape) = position := by
  induction shape generalizing position with
  | nil =>
    have first : position = 0 := by simpa using bound
    simp [first]
  | cons length shape inductionHypothesis =>
    rw [count_cons] at bound
    have positive : length ≠ 0 ∧ count shape ≠ 0 := by
      constructor <;> intro none <;> simp [none] at bound
    have oneOrMore : max length 1 = length := by omega
    have blocks : position / count shape < length :=
      Nat.div_lt_of_lt_mul (by rwa [Nat.mul_comm] at bound)
    have split : position / count shape * count shape + position % count shape = position :=
      Nat.div_add_mod' position (count shape)
    have tail : unravel position shape = unravel (position % count shape) shape := by
      conv => lhs; rw [← split]
      exact unravel_add_mul _ _ _ positive.2
    obtain ⟨within, place⟩ := inductionHypothesis (position % count shape)
      (Nat.mod_lt _ (Nat.pos_of_ne_zero positive.2))
    have first : position / count shape % max length 1 = position / count shape := by
      rw [oneOrMore, Nat.mod_eq_of_lt blocks]
    rw [unravel_cons _ _ _ positive.2, first, tail]
    exact ⟨by simp [blocks, within], by simp [place, split]⟩

/-- The first coordinate has offset zero, and lies inside a shape without empty axes. -/
theorem origin_first (shape : Shape) :
    offset (origin shape) (strides shape) = 0 ∧
      (count shape ≠ 0 → contains shape (origin shape) = true) := by
  induction shape with
  | nil => simp [origin]
  | cons length shape inductionHypothesis =>
    have unfolded : origin (length :: shape) = 0 :: origin shape := rfl
    simp only [unfolded, strides_cons, offset_cons, contains_cons, count_cons]
    refine ⟨by simp [inductionHypothesis.1], ?_⟩
    intro nonempty
    have positive : length ≠ 0 ∧ count shape ≠ 0 := by simpa [Nat.mul_eq_zero] using nonempty
    exact ⟨by omega, inductionHypothesis.2 positive.2⟩

/-- The odometer stops only at the last position: every axis stands at its last index. -/
theorem next?_none (shape : Shape) (coord : Coord) (inside : contains shape coord = true)
    (stop : next? shape coord = none) : offset coord (strides shape) + 1 = count shape := by
  induction shape generalizing coord with
  | nil => simp [(contains_nil coord).mp inside]
  | cons length shape inductionHypothesis =>
    obtain ⟨index, rest, rfl, bound, within⟩ := (contains_cons_iff length shape coord).mp inside
    simp only [next?] at stop
    cases tail : next? shape rest with
    | some moved => simp [tail] at stop
    | none =>
      have last : offset rest (strides shape) + 1 = count shape :=
        inductionHypothesis rest within tail
      have full : length = index + 1 := by
        by_cases room : index + 1 < length
        · simp [tail, room] at stop
        · omega
      subst full
      simp only [strides_cons, offset_cons, count_cons, Nat.succ_mul]
      omega

/-- A step of the odometer moves to the next position. Where the last axes have run out,
    they return to zero and the axis on their left pays one block. -/
theorem next?_some (shape : Shape) (coord advanced : Coord)
    (inside : contains shape coord = true) (step : next? shape coord = some advanced) :
    contains shape advanced = true ∧
      offset advanced (strides shape) = offset coord (strides shape) + 1 := by
  induction shape generalizing coord advanced with
  | nil => simp [next?] at step
  | cons length shape inductionHypothesis =>
    obtain ⟨index, rest, rfl, bound, within⟩ := (contains_cons_iff length shape coord).mp inside
    simp only [next?] at step
    cases tail : next? shape rest with
    | some moved =>
      obtain rfl : index :: moved = advanced := by simpa [tail] using step
      obtain ⟨movedInside, movedOffset⟩ := inductionHypothesis rest moved within tail
      exact ⟨by simp [bound, movedInside], by simp [movedOffset, Nat.add_assoc]⟩
    | none =>
      have last : offset rest (strides shape) + 1 = count shape := next?_none shape rest within tail
      have room : index + 1 < length := by
        by_cases room : index + 1 < length
        · exact room
        · simp [tail, room] at step
      obtain rfl : (index + 1) :: origin shape = advanced := by simpa [tail, room] using step
      obtain ⟨first, originInside⟩ := origin_first shape
      refine ⟨by simp [room, originInside (by omega)], ?_⟩
      simp only [strides_cons, offset_cons, first, Nat.succ_mul]
      omega

/-- The coordinate at a position, if the shape has that position. -/
def coordAt? (shape : Shape) (position : Nat) : Option Coord :=
  if position < count shape then some (unravel position shape) else none

/-- A coordinate has its offset as its number. -/
theorem coordAt?_offset (shape : Shape) (coord : Coord) (inside : contains shape coord = true) :
    coordAt? shape (offset coord (strides shape)) = some coord := by
  rw [coordAt?, if_pos (offset_lt_count shape coord inside), unravel_offset shape coord inside]

/-- No coordinate has a number beyond the last. -/
theorem coordAt?_of_le (shape : Shape) (position : Nat) (behind : count shape ≤ position) :
    coordAt? shape position = none := by
  rw [coordAt?, if_neg (Nat.not_lt.mpr behind)]

/-- A walk after a number of calls: none has been made, or the last one gave the coordinate at the
    position before that number, or the walk has ended and no position is left. -/
inductive Called (shape : Shape) : Nat → Odometer → Prop where
  | fresh (nonempty : count shape ≠ 0) : Called shape 0 ⟨shape, origin shape, true, false⟩
  | moving (coord : Coord) (inside : contains shape coord = true) :
      Called shape (offset coord (strides shape) + 1) ⟨shape, coord, false, false⟩
  | ended (calls : Nat) (o : Odometer) (finished : o.done = true) (all : count shape ≤ calls) :
      Called shape calls o

/-- At the start no call has been made. -/
theorem called_start (shape : Shape) : Called shape 0 (Odometer.start shape) := by
  by_cases empty : 0 ∈ shape
  · exact .ended 0 _ (by simp [Odometer.start, empty])
      (Nat.le_of_eq ((count_eq_zero shape).mpr empty))
  · have nonempty : count shape ≠ 0 := fun zero => empty ((count_eq_zero shape).mp zero)
    have start : Odometer.start shape = ⟨shape, origin shape, true, false⟩ := by
      simp [Odometer.start, empty]
    rw [start]
    exact .fresh nonempty

/-- Each call gives the coordinate at the number of calls before it, and nothing once that number
    has reached the count. -/
theorem Called.call {shape : Shape} {calls : Nat} {o : Odometer} (called : Called shape calls o) :
    o.call.1 = coordAt? shape calls ∧ Called shape (calls + 1) o.call.2 := by
  cases called with
  | fresh nonempty =>
    obtain ⟨first, within⟩ := origin_first shape
    have inside := within nonempty
    have given := coordAt?_offset shape (origin shape) inside
    rw [first] at given
    refine ⟨by simp [Odometer.call, given], ?_⟩
    cases shape with
    | nil => exact .ended 1 _ (by simp [Odometer.call]) (Nat.le_refl 1)
    | cons length shape =>
      have moved := Called.moving (origin (length :: shape)) inside
      rw [first] at moved
      simpa [Odometer.call] using moved
  | moving coord inside =>
    cases step : next? shape coord with
    | some advanced =>
      obtain ⟨advancedInside, advancedOffset⟩ := next?_some shape coord advanced inside step
      rw [← advancedOffset, coordAt?_offset shape advanced advancedInside]
      simp only [Odometer.call, step]
      exact ⟨rfl, .moving advanced advancedInside⟩
    | none =>
      have last := next?_none shape coord inside step
      rw [coordAt?_of_le shape _ (Nat.le_of_eq last.symm)]
      simp only [Odometer.call, step]
      exact ⟨rfl, .ended _ _ rfl (by omega)⟩
  | ended _ _ finished all =>
    rw [coordAt?_of_le shape calls all]
    simp only [Odometer.call, finished, if_true]
    exact ⟨trivial, .ended _ _ finished (by omega)⟩

/-- Calls made one after the other list the coordinates at the positions from there on, and stop
    behind the last position.

    Induction on the calls that are allowed; each of them moves to the next position. -/
theorem Called.collect {shape : Shape} {calls : Nat} {o : Odometer}
    (called : Called shape calls o) (allowed : Nat) :
    o.collect allowed =
      (List.range' calls (min allowed (count shape - calls))).map (unravel · shape) := by
  induction allowed generalizing calls o with
  | zero => simp [Odometer.collect]
  | succ allowed inductionHypothesis =>
    obtain ⟨given, after⟩ := called.call
    rw [Odometer.collect]
    cases result : o.call with
    | mk found next =>
      rw [result] at given after
      by_cases inside : calls < count shape
      · have yields : found = some (unravel calls shape) := by
          simpa [coordAt?, inside] using given
        have split : min (allowed + 1) (count shape - calls) =
            min allowed (count shape - (calls + 1)) + 1 := by omega
        rw [yields, split, List.range'_succ, List.map_cons]
        exact congrArg _ (inductionHypothesis after)
      · have stops : found = none := by simpa [coordAt?, inside] using given
        have nothing : min (allowed + 1) (count shape - calls) = 0 := by omega
        rw [stops, nothing]
        rfl

/-- The coordinates of a shape are the coordinates at its positions, in order. -/
theorem coordinates_eq (shape : Shape) :
    coordinates shape = (List.range (count shape)).map (unravel · shape) := by
  have all : min (count shape + 1) (count shape - 0) = count shape := by omega
  rw [coordinates, (called_start shape).collect, all, ← List.range_eq_range']

/-- The list of coordinates holds exactly the coordinates inside the shape. -/
@[simp] theorem mem_coordinates (shape : Shape) (coord : Coord) :
    coord ∈ coordinates shape ↔ contains shape coord = true := by
  rw [coordinates_eq, List.mem_map]
  constructor
  · rintro ⟨position, member, rfl⟩
    exact (contains_unravel shape position (List.mem_range.mp member)).1
  · intro inside
    exact ⟨offset coord (strides shape), List.mem_range.mpr (offset_lt_count shape coord inside),
      unravel_offset shape coord inside⟩

/-- There are as many coordinates as entries. -/
@[simp] theorem coordinates_length (shape : Shape) :
    (coordinates shape).length = count shape := by
  simp [coordinates_eq]

/-- Listed in order, the offsets of the coordinates are the positions. -/
theorem coordinates_offsets (shape : Shape) :
    (coordinates shape).map (offset · (strides shape)) = List.range (count shape) := by
  rw [coordinates_eq, List.map_map]
  conv => rhs; rw [← List.map_id (List.range (count shape))]
  refine List.map_congr_left ?_
  intro position member
  exact (contains_unravel shape position (List.mem_range.mp member)).2

/-- A list with one entry per coordinate lists the values of a function of the coordinate. -/
theorem exists_map_coordinates {α : Type} [Inhabited α] (shape : Shape) (entries : List α)
    (size : entries.length = count shape) :
    ∃ value, (coordinates shape).map value = entries := by
  refine ⟨fun coord => entries.getD (offset coord (strides shape)) default, ?_⟩
  have positions : (coordinates shape).map
      (fun coord => entries.getD (offset coord (strides shape)) default) =
      (List.range (count shape)).map (entries.getD · default) := by
    rw [← coordinates_offsets, List.map_map]
    rfl
  rw [positions]
  refine List.ext_getElem (by simp [size]) ?_
  intro position _ there
  simp [List.getD_eq_getElem?_getD, there]

/-- No coordinate is listed twice, since no position is. -/
theorem nodup_coordinates (shape : Shape) : (coordinates shape).Nodup := by
  have positions : ((coordinates shape).map (offset · (strides shape))).Nodup := by
    rw [coordinates_offsets]
    exact List.nodup_range
  refine List.Pairwise.of_map (offset · (strides shape)) ?_ positions
  intro left right apart same
  exact apart (congrArg (offset · (strides shape)) same)

/-- Row-major order: the coordinates behind each index of the first axis stand together. -/
theorem coordinates_cons (length : Nat) (shape : Shape) :
    coordinates (length :: shape) =
      (List.range length).flatMap fun index => (coordinates shape).map (index :: ·) := by
  by_cases empty : count shape = 0
  · have none : coordinates shape = [] := by
      rw [← List.length_eq_zero_iff, coordinates_length, empty]
    simp [coordinates_eq (length :: shape), empty, none]
  · -- Induction on how many blocks of positions have been split off in front.
    have blocks : ∀ upTo, upTo ≤ length →
        (List.range (upTo * count shape)).map (unravel · (length :: shape)) =
          (List.range upTo).flatMap fun index => (coordinates shape).map (index :: ·) := by
      intro upTo bound
      induction upTo with
      | zero => simp
      | succ upTo inductionHypothesis =>
        have block : (List.range (count shape)).map
              (fun position => unravel (upTo * count shape + position) (length :: shape)) =
            (coordinates shape).map (upTo :: ·) := by
          rw [coordinates_eq, List.map_map]
          refine List.map_congr_left ?_
          intro position member
          have below : position < count shape := List.mem_range.mp member
          have quotient : (upTo * count shape + position) / count shape = upTo := by
            rw [Nat.add_comm, Nat.add_mul_div_right _ _ (by omega), Nat.div_eq_of_lt below,
              Nat.zero_add]
          have index : upTo % max length 1 = upTo := Nat.mod_eq_of_lt (by omega)
          simp only [Function.comp_apply]
          rw [unravel_cons _ _ _ empty, unravel_add_mul _ _ _ empty, quotient, index]
        rw [Nat.succ_mul, List.range_add, List.map_append, inductionHypothesis (by omega),
          List.map_map, List.range_succ, List.flatMap_append]
        simpa [Function.comp_def] using block
    rw [coordinates_eq, count_cons, blocks length (Nat.le_refl length)]

/-- The coordinate listed at the offset of a coordinate is that coordinate. -/
theorem getElem?_coordinates (shape : Shape) (coord : Coord)
    (inside : contains shape coord = true) :
    (coordinates shape)[offset coord (strides shape)]? = some coord := by
  simp [coordinates_eq, List.getElem?_range (offset_lt_count shape coord inside),
    unravel_offset shape coord inside]

end LoopKernels.Shape
