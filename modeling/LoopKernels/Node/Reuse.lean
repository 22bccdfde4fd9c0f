/-!
# Which input an output may overwrite

An elementwise operator may name, for an output, the input whose buffer the
output may take over. The pairs are kept in increasing order of the output, one
pair per output; the last pair given for an output counts.
-/

namespace LoopKernels

/-- Pairs of an output and an input, in increasing order of the output. -/
structure ReuseMap where
  pairs : List (Nat × Nat)
  increasing : pairs.Pairwise fun a b => a.1 < b.1
deriving DecidableEq, Repr

namespace ReuseMap

/-- The map in which no output reuses a buffer. -/
def empty : ReuseMap := ⟨[], List.Pairwise.nil⟩

/-- Puts a pair in its place and drops the one it replaces. -/
def insertPair (output input : Nat) : List (Nat × Nat) → List (Nat × Nat)
  | [] => [(output, input)]
  | (key, value) :: rest =>
    if output < key then (output, input) :: (key, value) :: rest
    else if output = key then (output, input) :: rest
    else (key, value) :: insertPair output input rest

/-- Every pair after an insertion is the inserted one or was there before. -/
theorem mem_insertPair (output input : Nat) (pairs : List (Nat × Nat)) (p : Nat × Nat)
    (member : p ∈ insertPair output input pairs) : p = (output, input) ∨ p ∈ pairs := by
  induction pairs with
  | nil => simpa [insertPair] using member
  | cons head rest inductionHypothesis =>
    obtain ⟨key, value⟩ := head
    simp only [insertPair] at member
    split at member
    · simpa using member
    · split at member
      · simp only [List.mem_cons] at member ⊢
        rcases member with inserted | kept
        · exact .inl inserted
        · exact .inr (.inr kept)
      · simp only [List.mem_cons] at member ⊢
        rcases member with first | later
        · exact .inr (.inl first)
        · exact (inductionHypothesis later).imp id .inr

/-- Insertion keeps the order. -/
theorem pairwise_insertPair (output input : Nat) (pairs : List (Nat × Nat))
    (increasing : pairs.Pairwise fun a b => a.1 < b.1) :
    (insertPair output input pairs).Pairwise fun a b => a.1 < b.1 := by
  induction pairs with
  | nil => simp [insertPair]
  | cons head rest inductionHypothesis =>
    obtain ⟨key, value⟩ := head
    obtain ⟨above, sorted⟩ := List.pairwise_cons.mp increasing
    simp only [insertPair]
    split
    · next smaller =>
      refine List.pairwise_cons.mpr ⟨?_, increasing⟩
      intro p member
      rcases List.mem_cons.mp member with first | later
      · simpa [first] using smaller
      · exact Nat.lt_trans smaller (above p later)
    · split
      · next same =>
        refine List.pairwise_cons.mpr ⟨?_, sorted⟩
        intro p member
        simpa [same] using above p member
      · next notSmaller notSame =>
        refine List.pairwise_cons.mpr ⟨?_, inductionHypothesis sorted⟩
        intro p member
        rcases mem_insertPair output input rest p member with inserted | later
        · simp only [inserted]
          omega
        · exact above p later

/-- The map with the pair of an output set. -/
def insert (m : ReuseMap) (output input : Nat) : ReuseMap :=
  ⟨insertPair output input m.pairs, pairwise_insertPair output input m.pairs m.increasing⟩

/-- The map that a list of pairs describes. -/
def ofPairs (pairs : List (Nat × Nat)) : ReuseMap :=
  pairs.foldl (fun m pair => m.insert pair.1 pair.2) empty

end ReuseMap

end LoopKernels
