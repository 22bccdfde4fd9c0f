import LoopKernels.Node.Json
import LoopKernels.Proofs.Operator.Stored

/-!
# Stored nodes are read back

A node survives being stored, in every format that reads back the values it writes, and so
in both written forms. What is asked of the node is that its lengths, axes and indices fit
the words in which they are held, that the constants of its operator are finite and kept
by the format, and that its value is not nested deeper than a reader follows. Nothing is
asked of how the node is made up: the parts of a node are stored one by one, and so is
each kind of operator.
-/

namespace LoopKernels

open Json

variable {keeps : Float → Bool}

/-- An element type is stored by its code. -/
theorem ElemType.stores (keeps : Float → Bool) (e : ElemType) (emptyObject : Bool) :
    Stores keeps toJson (ofJson? emptyObject) e :=
  ⟨.str _, by simp [ofJson?, toJson, constant?, ofCode?_code]⟩

namespace TensorType

/-- All known lengths fit a word. -/
def storable (t : TensorType) : Bool := t.shape.all fun length => length.all isWord

/-- A type is stored when its lengths are. -/
theorem stores (t : TensorType) (storable : t.storable = true) : Stores keeps toJson ofJson? t := by
  have elem := t.elem.stores keeps false
  have shape : Stores keeps (list (option ofNat)) (list? (option? nat?)) t.shape := by
    refine stores_list t.shape fun length member => ?_
    refine stores_option length (fun _ => by simp [ofNat]) fun n known => stores_nat keeps n ?_
    have words := List.all_eq_true.mp storable length member
    rw [Option.mem_def.mp known] at words
    simpa using words
  have pattern : Stores keeps (list .bool) (list? bool?) t.broadcastable :=
    stores_list t.broadcastable fun flag _ => stores_bool keeps flag
  have fields : t.toJson.fields? ["dtype", "shape", "broadcastable"] =
      some [some t.elem.toJson, some (list (option ofNat) t.shape),
        some (list .bool t.broadcastable)] :=
    fields?_obj [("dtype", t.elem.toJson), ("shape", list (option ofNat) t.shape),
      ("broadcastable", list .bool t.broadcastable)] (by simp)
  refine ⟨.obj _ (by simpa using ⟨elem.written, shape.written, pattern.written⟩), ?_⟩
  simp [ofJson?, fields, elem.decodes, shape.decodes, pattern.decodes]

end TensorType

namespace ReuseMap

/-- A pair of a greater output is put at the end. -/
theorem insertPair_of_greater (output input : Nat) (pairs : List (Nat × Nat))
    (greater : ∀ pair ∈ pairs, pair.1 < output) :
    insertPair output input pairs = pairs ++ [(output, input)] := by
  induction pairs with
  | nil => rfl
  | cons pair pairs inductionHypothesis =>
    rw [List.forall_mem_cons] at greater
    have notSmaller : ¬ output < pair.1 := by omega
    have notSame : output ≠ pair.1 := by omega
    simp [insertPair, notSmaller, notSame, inductionHypothesis greater.2]

/-- Pairs given in increasing order are kept in that order. -/
theorem pairs_foldl_insert (pairs : List (Nat × Nat)) (m : ReuseMap)
    (increasing : (m.pairs ++ pairs).Pairwise fun a b => a.1 < b.1) :
    (pairs.foldl (fun m pair => m.insert pair.1 pair.2) m).pairs = m.pairs ++ pairs := by
  induction pairs generalizing m with
  | nil => simp
  | cons pair pairs inductionHypothesis =>
    have last : (m.insert pair.1 pair.2).pairs = m.pairs ++ [pair] := by
      refine insertPair_of_greater pair.1 pair.2 m.pairs ?_
      intro earlier member
      exact (List.pairwise_append.mp increasing).2.2 earlier member pair List.mem_cons_self
    have regrouped : m.pairs ++ pair :: pairs = (m.insert pair.1 pair.2).pairs ++ pairs := by
      simp [last]
    rw [List.foldl_cons, inductionHypothesis _ (regrouped ▸ increasing), regrouped]

/-- A map is described by its own pairs. -/
theorem ofPairs_pairs (m : ReuseMap) : ofPairs m.pairs = m := by
  have pairs : (ofPairs m.pairs).pairs = m.pairs :=
    pairs_foldl_insert m.pairs empty m.increasing
  cases same : ofPairs m.pairs
  cases m
  simp_all

/-- All numbers of outputs and inputs fit words. -/
def storable (m : ReuseMap) : Bool := m.pairs.all fun pair => isWord pair.1 && isWord pair.2

/-- A map is stored as the list of its pairs. -/
theorem stores (keeps : Float → Bool) (m : ReuseMap) (storable : m.storable = true) :
    Stores keeps toJson ofJson? m := by
  have pairs : Stores keeps (list pairToJson) (list? pairOfJson?) m.pairs := by
    refine stores_list m.pairs fun pair member => ?_
    obtain ⟨first, second⟩ :=
      Bool.and_eq_true_iff.mp (List.all_eq_true.mp storable pair member)
    have output := stores_nat keeps pair.1 first
    have input := stores_nat keeps pair.2 second
    refine ⟨.arr _ (by simpa using ⟨output.written, input.written⟩), ?_⟩
    simp [pairToJson, pairOfJson?, output.decodes, input.decodes]
  refine ⟨pairs.written, ?_⟩
  have decodes : m.toJson.list? pairOfJson? = some m.pairs := pairs.decodes
  rw [ofJson?, decodes, Option.map_some, ofPairs_pairs]

end ReuseMap

namespace ShuffleEntry

/-- The number of an axis fits a word. -/
def storable : ShuffleEntry → Bool
  | axis number => isWord number
  | fresh => true

/-- An entry of a shuffle is stored. -/
theorem stores (entry : ShuffleEntry) (storable : entry.storable = true) :
    Stores keeps toJson ofJson? entry := by
  cases entry with
  | axis number =>
    have stored := stores_nat keeps number storable
    refine ⟨.obj _ (by simpa using stored.written), ?_⟩
    simp [toJson, ofJson?, tagged?, stored.decodes]
  | fresh => exact ⟨.str _, rfl⟩

end ShuffleEntry

/-- The rank and the axes fit words. -/
def Shuffle.storable (s : Shuffle) : Bool :=
  isWord s.inputRank && s.order.all ShuffleEntry.storable

namespace Op

/-- The numbers and the constants of an operator can be stored. -/
def storable (keeps : Float → Bool) : Op → Bool
  | elementwise operator reuse => operator.storable keeps && reuse.storable
  | reduce operator axes _ => operator.storable keeps && axes.all (·.all isSignedWord)
  | sum axes _ => axes.all (·.all isSignedWord)
  | shuffle s => s.storable
  | softmax axis | logSoftmax axis | softmaxGrad axis => axis.all isSignedWord
  | argmax axes => axes.all (·.all isWord)

/-- The fields of an operator are written, and give the operator back. -/
def Restores (keeps : Float → Bool) (op : Op) : Prop :=
  (∀ entry ∈ op.members, entry.2.Written keeps) ∧ ofFields? op.tag (.named op.members) = some op

/-- Axes are stored when each number that fits its word is. -/
theorem stores_axes {α : Type} {encode : α → Json} {decode : Json → Option α} {fits : α → Bool}
    (number : ∀ n, fits n = true → Stores keeps encode decode n) (axes : Option (List α))
    (storable : axes.all (·.all fits) = true) :
    Stores keeps (option (list encode)) (option? (list? decode)) axes := by
  refine stores_option axes (fun _ => by simp [list]) fun listed given => ?_
  rw [Option.mem_def.mp given] at storable
  exact stores_list listed fun n member =>
    number n (List.all_eq_true.mp (by simpa using storable) n member)

/-- The element type of an accumulator is stored, and so is its absence. -/
theorem stores_accumulator (keeps : Float → Bool) (accumulator : Option ElemType) :
    Stores keeps (option ElemType.toJson) (option? (ElemType.ofJson? true)) accumulator :=
  stores_option accumulator (fun _ => by simp [ElemType.toJson]) fun e _ => e.stores keeps true

/-- An elementwise operator is restored when its operator is stored. -/
theorem restores_elementwise (operator : Operator) (reuse : ReuseMap)
    (stored : Stores keeps Operator.toJson (Operator.ofJson? true) operator)
    (storable : reuse.storable = true) : Restores keeps (elementwise operator reuse) := by
  have pairs := reuse.stores keeps storable
  refine ⟨by simpa [members] using ⟨stored.written, pairs.written⟩, ?_⟩
  have fields := Fields.read?_named (elementwise operator reuse).members (by simp [members])
  simp only [members, List.map_cons, List.map_nil] at fields
  simp [tag, ofFields?, members, fields, stored.decodes, defaulted?, pairs.decodes]

/-- A reduction is restored when its operator is stored. -/
theorem restores_reduce (operator : Operator) (axes : Option (List Int))
    (accumulator : Option ElemType)
    (stored : Stores keeps Operator.toJson (Operator.ofJson? true) operator)
    (storable : axes.all (·.all isSignedWord) = true) :
    Restores keeps (reduce operator axes accumulator) := by
  have listed : Stores keeps (option (list ofInt)) (option? axes?) axes :=
    stores_axes (stores_int keeps) axes storable
  have type := stores_accumulator keeps accumulator
  refine ⟨by simpa [members] using ⟨stored.written, listed.written, type.written⟩, ?_⟩
  have fields := Fields.read?_named (reduce operator axes accumulator).members (by simp [members])
  simp only [members, List.map_cons, List.map_nil] at fields
  simp [tag, ofFields?, members, fields, stored.decodes, optional?, listed.decodes, type.decodes]

/-- A sum is restored. -/
theorem restores_sum (axes : Option (List Int)) (accumulator : Option ElemType)
    (storable : axes.all (·.all isSignedWord) = true) : Restores keeps (sum axes accumulator) := by
  have listed : Stores keeps (option (list ofInt)) (option? axes?) axes :=
    stores_axes (stores_int keeps) axes storable
  have type := stores_accumulator keeps accumulator
  refine ⟨by simpa [members] using ⟨listed.written, type.written⟩, ?_⟩
  have fields := Fields.read?_named (sum axes accumulator).members (by simp [members])
  simp only [members, List.map_cons, List.map_nil] at fields
  simp [tag, ofFields?, members, fields, optional?, listed.decodes, type.decodes]

/-- A shuffle is restored. -/
theorem restores_shuffle (s : Shuffle) (storable : s.storable = true) :
    Restores keeps (shuffle s) := by
  obtain ⟨word, axes⟩ := Bool.and_eq_true_iff.mp storable
  have rank := stores_nat keeps s.inputRank word
  have order : Stores keeps (list ShuffleEntry.toJson) (list? ShuffleEntry.ofJson?) s.order :=
    stores_list s.order fun entry member => entry.stores (List.all_eq_true.mp axes entry member)
  have inplace := stores_bool keeps s.inplace
  refine ⟨by simpa [members, Shuffle.members] using
    ⟨rank.written, order.written, inplace.written⟩, ?_⟩
  have fields := Fields.read?_named s.members (by simp [Shuffle.members])
  simp only [Shuffle.members, List.map_cons, List.map_nil] at fields
  simp [tag, ofFields?, members, Shuffle.ofFields?, Shuffle.members, fields, rank.decodes,
    order.decodes, defaulted?, inplace.decodes]

/-- The only field of an operator is decoded. -/
theorem axisField?_eq {α : Type} {encode : α → Json} {decode : Json → Option α} (axis : Option α)
    (stored : Stores keeps (option encode) (option? decode) axis) :
    axisField? decode (.named [("axis", option encode axis)]) = some axis := by
  have fields := Fields.read?_named [("axis", option encode axis)] (by simp)
  simp only [List.map_cons, List.map_nil] at fields
  simp [axisField?, fields, optional?, stored.decodes]

/-- An axis is stored when its number fits a word, and so is its absence. -/
theorem stores_axis (keeps : Float → Bool) (axis : Option Int)
    (storable : axis.all isSignedWord = true) :
    Stores keeps (option ofInt) (option? int?) axis := by
  refine stores_option axis (fun n => by unfold ofInt; split <;> simp [ofNat]) fun n given => ?_
  rw [Option.mem_def.mp given] at storable
  exact stores_int keeps n (by simpa using storable)

/-- The fields of every operator that can be stored give it back. The operator of an
    elementwise operator or of a reduction must not be nested deeper than its reader follows. -/
theorem restores (op : Op) (storable : op.storable keeps = true) (limit : Nat)
    (readable : op.toJson.readable limit = true) (below : limit ≤ nestingLimit) :
    Restores keeps op := by
  have scalar : ∀ (operator : Operator) (rest : List (String × Json)),
      op.members = ("scalar_op", operator.toJson) :: rest → operator.storable keeps = true →
      Stores keeps Operator.toJson (Operator.ofJson? true) operator := by
    intro operator rest same operatorStorable
    simp only [toJson, same, Json.readable, readableMembers, readableMember, Bool.and_eq_true,
      bne_iff_ne] at readable
    exact operator.stores operatorStorable true (limit - 1) nestingLimit readable.2.2.1 (by omega)
  cases op with
  | elementwise operator reuse =>
    obtain ⟨first, second⟩ := Bool.and_eq_true_iff.mp storable
    exact restores_elementwise operator reuse (scalar operator _ rfl first) second
  | reduce operator axes accumulator =>
    obtain ⟨first, second⟩ := Bool.and_eq_true_iff.mp storable
    exact restores_reduce operator axes accumulator (scalar operator _ rfl first) second
  | sum axes accumulator => exact restores_sum axes accumulator storable
  | shuffle s => exact restores_shuffle s storable
  | softmax axis | logSoftmax axis | softmaxGrad axis =>
    have stored := stores_axis keeps axis storable
    refine ⟨by simpa [members] using stored.written, ?_⟩
    simp [tag, ofFields?, members, axisField?_eq axis stored]
  | argmax axes =>
    have stored := stores_axes (stores_nat keeps) axes storable
    refine ⟨by simpa [members] using stored.written, ?_⟩
    simp [tag, ofFields?, members, axisField?_eq axes stored]

/-- No field of an operator is called like its kind. -/
theorem kind_not_mem (op : Op) : ∀ entry ∈ op.members, entry.1 ≠ "kind" := by
  cases op <;> simp [members, Shuffle.members]

/-- The kind and the fields of an operator are told apart. -/
theorem kindAndFields?_toJson (op : Op) :
    kindAndFields? op.toJson = some (op.tag, .named op.members) := by
  have others := op.kind_not_mem
  have none : op.members.filter (fun entry => entry.1 == "kind") = [] := by
    refine List.filter_eq_nil_iff.mpr fun entry member => ?_
    simpa using others entry member
  have all : op.members.filter (fun entry => entry.1 != "kind") = op.members := by
    refine List.filter_eq_self.mpr fun entry member => ?_
    simpa using others entry member
  simp [toJson, kindAndFields?, Fields.single?, Fields.valuesOf, none, all]

/-- An operator is stored under its kind. -/
theorem stores (op : Op) (storable : op.storable keeps = true) (limit : Nat)
    (readable : op.toJson.readable limit = true) (below : limit ≤ nestingLimit) :
    Stores keeps toJson ofJson? op := by
  obtain ⟨written, restored⟩ := op.restores storable limit readable below
  refine ⟨.obj _ (List.forall_mem_cons.mpr ⟨.str _, written⟩), ?_⟩
  simp [ofJson?, kindAndFields?_toJson, restored]

end Op

namespace Node

/-- Lengths, axes and indices of the node fit words, and the constants of its operator are
    finite and kept. -/
def storable (keeps : Float → Bool) (node : Node) : Bool :=
  node.op.storable keeps && node.inputs.all TensorType.storable &&
    node.outputs.all TensorType.storable

/-- A node is stored when its parts are. -/
theorem stores (node : Node) (storable : node.storable keeps = true)
    (readable : node.toJson.readable nestingLimit = true) : Stores keeps toJson ofJson? node := by
  simp only [Node.storable, Bool.and_eq_true] at storable
  obtain ⟨⟨opStorable, inputsStorable⟩, outputsStorable⟩ := storable
  have opReadable : node.op.toJson.readable (nestingLimit - 1) = true := by
    simp only [toJson, Json.readable, readableMembers, readableMember, Bool.and_eq_true] at readable
    exact readable.2.1
  have op := node.op.stores opStorable (nestingLimit - 1) opReadable (by decide)
  have inputs : Stores keeps (list TensorType.toJson) (list? TensorType.ofJson?) node.inputs :=
    stores_list node.inputs fun t member => t.stores (List.all_eq_true.mp inputsStorable t member)
  have outputs : Stores keeps (list TensorType.toJson) (list? TensorType.ofJson?) node.outputs :=
    stores_list node.outputs fun t member => t.stores (List.all_eq_true.mp outputsStorable t member)
  have fields := fields?_obj [("op", node.op.toJson),
    ("inputs", list TensorType.toJson node.inputs),
    ("outputs", list TensorType.toJson node.outputs)] (by simp)
  simp only [List.map_cons, List.map_nil] at fields
  refine ⟨.obj _ (by simpa using ⟨op.written, inputs.written, outputs.written⟩), ?_⟩
  simp [ofJson?, toJson, fields, opReadable, op.decodes, inputs.decodes, outputs.decodes]

/-- A node is read back from its text in every faithful format. -/
theorem loadFrom?_storeIn (format : Format) (faithful : format.Faithful keeps) (node : Node)
    (storable : node.storable keeps = true)
    (nesting : node.toJson.readable nestingLimit = true) :
    loadFrom? format (node.storeIn format) = some node := by
  have stored := node.stores storable nesting
  rw [loadFrom?, storeIn, faithful node.toJson stored.written nesting]
  exact stored.decodes

/-- A node whose value is not nested deeper than a reader follows is read back from its text.
    In a format that restores all finite doubles, or any others, it is enough that the node's
    numbers fit words and that its constants are among those doubles. From its stored texts, with
    one entry a line and without blanks, it is read back when its constants are denoted by their
    texts. -/
theorem stored_nodes_are_read_back (node : Node)
    (nesting : node.toJson.readable nestingLimit = true) :
    (∀ (format : Format) (keeps : Float → Bool), format.Faithful keeps →
      node.storable keeps = true → loadFrom? format (node.storeIn format) = some node) ∧
    (node.storable denoted = true →
      load? node.store = some node ∧ load? node.storeCompact = some node) := by
  constructor
  · intro format keeps faithful storable
    exact loadFrom?_storeIn format faithful node storable nesting
  · intro storable
    exact ⟨loadFrom?_storeIn .lines Format.lines_faithful node storable nesting,
      loadFrom?_storeIn .dense Format.dense_faithful node storable nesting⟩

/-- A composite within a composite, with constants of both layouts, a map of two buffers and
    lengths of which some are not known. -/
def nestedComposite : Node :=
  ⟨.elementwise
    (.composite 2
      [(.composite 1 [(.prim .mul, [.input 0, .const 0.1]), (.prim .neg, [.step 0])] (.step 1),
          [.input 1]),
        (.prim .maximum, [.step 0, .input 0, .const (-2.5e-7)])]
      (.step 1))
    (.ofPairs [(1, 0), (0, 1)]),
    [⟨.f32, [none, some 1], [false, true]⟩, .dynamic .i8 2], [.fixed .f64 [3, 4]]⟩

/-- The node with a composite within a composite is read back, the dense format being a faithful
    one and its constants denoted by their texts. -/
theorem stored_nodes_are_read_back_nested :
    nestedComposite.toJson.readable nestingLimit = true ∧
      Format.dense.Faithful denoted ∧ nestedComposite.storable denoted = true ∧
      loadFrom? .dense (nestedComposite.storeIn .dense) = some nestedComposite ∧
      load? nestedComposite.store = some nestedComposite ∧
      load? nestedComposite.storeCompact = some nestedComposite := by
  have nesting : nestedComposite.toJson.readable nestingLimit = true := by decide +kernel
  have storable : nestedComposite.storable denoted = true := by decide +kernel
  obtain ⟨inFormat, asStored⟩ := stored_nodes_are_read_back nestedComposite nesting
  exact ⟨nesting, Format.dense_faithful, storable,
    inFormat .dense denoted Format.dense_faithful storable, asStored storable⟩

end Node

end LoopKernels
