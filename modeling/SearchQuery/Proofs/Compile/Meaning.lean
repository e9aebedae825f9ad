import SearchQuery.Clause.Meaning

namespace SearchQuery

variable {assignment : Assignment}

def judged (assignment : Assignment) (parts : List (Connector × Node)) : List (Connector × Bool) :=
  parts.map fun part => (part.1, part.2.holds assignment)

theorem map_fst_judged (parts : List (Connector × Node)) :
    (judged assignment parts).map (·.1) = parts.map (·.1) := by
  simp [judged, Function.comp_def]

theorem verdict_pair (first second : Bool) :
    verdict [(.must, first), (.should, second)] = (first || second) := rfl

theorem verdict_of_mixed {truths : List (Connector × Bool)}
    (mixed : truths.map (·.1) ≠ [.must, .should]) :
    verdict truths =
      (truths.all (fun part => part.1 ≠ .must || part.2 = true) &&
        truths.all (fun part => part.1 ≠ .mustNot || part.2 = false) &&
        (truths.any (·.1 = .must) || !truths.any (·.1 = .should) ||
          truths.any fun part => part.1 = .should && part.2)) := by
  unfold verdict
  split
  · simp at mixed
  · rfl

theorem allHold_bucketOf (connector : Connector) (parts : List (Connector × Node)) :
    Node.allHold assignment (bucketOf connector parts) =
      (judged assignment parts).all fun part => part.1 ≠ connector || part.2 = true := by
  rw [Node.allHold_eq_all]
  induction parts with
  | nil => rfl
  | cons part rest ih =>
    by_cases same : part.1 = connector <;> simp_all [bucketOf, judged]

theorem someHolds_bucketOf (connector : Connector) (parts : List (Connector × Node)) :
    Node.someHolds assignment (bucketOf connector parts) =
      (judged assignment parts).any fun part => part.1 = connector && part.2 := by
  rw [Node.someHolds_eq_any]
  induction parts with
  | nil => rfl
  | cons part rest ih =>
    by_cases same : part.1 = connector <;> simp_all [bucketOf, judged]

theorem isEmpty_bucketOf (assignment : Assignment) (connector : Connector)
    (parts : List (Connector × Node)) :
    (bucketOf connector parts).isEmpty = !(judged assignment parts).any (·.1 = connector) := by
  induction parts with
  | nil => rfl
  | cons part rest ih =>
    by_cases same : part.1 = connector <;> simp_all [bucketOf, judged]

theorem assemble_verdict (assignment : Assignment) (parts : List (Connector × Node)) :
    (assemble parts).elim true (Node.holds assignment) = verdict (judged assignment parts) := by
  rcases assemble_cases parts with ⟨rfl, nothing⟩ | ⟨connector, node, positive, rfl, bare⟩ |
    ⟨first, second, rfl, pair⟩ | ⟨mixed, buckets⟩
  · rfl
  · rw [bare]
    cases connector with
    | must => simp [judged, verdict]
    | should => simp [judged, verdict]
    | mustNot => exact absurd rfl positive
  · rw [pair]
    simp [judged, verdict_pair, Node.holds, Node.allHold, Node.someHolds]
  · have noPair : (judged assignment parts).map (·.1) ≠ [.must, .should] := by
      rw [map_fst_judged]
      intro same
      simp [same, shortcuts] at mixed
    rw [buckets, verdict_of_mixed noPair]
    have negated : (!(judged assignment parts).any fun part => part.1 = .mustNot && part.2) =
        (judged assignment parts).all fun part => part.1 ≠ .mustNot || part.2 = false := by
      simp [List.not_any_eq_all_not]
    simp only [Option.elim_some, Node.holds, allHold_bucketOf, someHolds_bucketOf, negated,
      isEmpty_bucketOf assignment, Bool.not_not]

theorem someHasLeaf_eq_any (clauses : List Clause) :
    Clause.someHasLeaf clauses = clauses.any Clause.hasLeaf := by
  induction clauses with
  | nil => rfl
  | cons clause rest ih => simp [Clause.someHasLeaf, ih]

theorem isSome_node? (clause : Clause) : (Clause.node? clause).isSome = clause.hasLeaf := by
  induction clause with
  | leaf connector query => rfl
  | group connector clauses ih =>
    have members : (clauses.any fun clause => (Clause.node? clause).isSome) =
        clauses.any Clause.hasLeaf := by
      rw [Bool.eq_iff_iff, List.any_eq_true, List.any_eq_true]
      exact exists_congr fun clause => and_congr_right fun member => by rw [ih clause member]
    rw [Clause.node?, isSome_assemble, Clause.isEmpty_parts, members, Bool.not_not,
      Clause.hasLeaf, someHasLeaf_eq_any]

theorem node?_eq_none_iff {clause : Clause} :
    Clause.node? clause = none ↔ clause.hasLeaf = false := by
  rw [← isSome_node?, Option.isSome_eq_false_iff, Option.isNone_iff_eq_none]

theorem hasLeaf_of_node? {clause : Clause} {node : Node} (compiled : clause.node? = some node) :
    clause.hasLeaf = true := by
  rw [← isSome_node?, compiled]
  rfl

def Clause.KeepsTruth (assignment : Assignment) (clause : Clause) : Prop :=
  clause.truth? assignment =
    clause.node?.map fun node => (clause.connector, node.holds assignment)

theorem judged_parts {clauses : List Clause}
    (kept : ∀ clause ∈ clauses, clause.KeepsTruth assignment) :
    judged assignment (Clause.parts clauses) = Clause.truths assignment clauses := by
  induction clauses with
  | nil => rfl
  | cons clause rest ih =>
    have first : clause.truth? assignment = _ := kept clause List.mem_cons_self
    have others := ih fun other member => kept other (List.mem_cons_of_mem _ member)
    rw [Clause.truths, first, ← others]
    cases compiled : Clause.node? clause with
    | none => rw [Clause.parts_cons_of_none compiled]; rfl
    | some node => rw [Clause.parts_cons_of_some compiled]; rfl

theorem keepsTruth (clause : Clause) : clause.KeepsTruth assignment := by
  induction clause with
  | leaf connector query => cases query <;> rfl
  | group connector clauses ih =>
    have whole := assemble_verdict assignment (Clause.parts clauses)
    rw [judged_parts ih] at whole
    cases compiled : Clause.node? (.group connector clauses) with
    | none =>
      -- A group that leaves nothing behind has no leaf, and then it does not count either.
      have empty : Clause.someHasLeaf clauses = false := node?_eq_none_iff.mp compiled
      rw [Clause.KeepsTruth, compiled, Clause.truth?, empty]
      rfl
    | some node =>
      have counts : Clause.someHasLeaf clauses = true := hasLeaf_of_node? compiled
      rw [Clause.KeepsTruth, compiled, Clause.truth?, counts, if_pos rfl, ← whole]
      rw [Clause.node?] at compiled
      rw [compiled]
      rfl

-- Whatever the leaves are taken to be, the query holds exactly where the list does.
theorem compile_preserves_meaning (assignment : Assignment) (clauses : List Clause) :
    (compile clauses).elim true (Node.holds assignment) = listHolds assignment clauses := by
  unfold compile listHolds
  rw [assemble_verdict, judged_parts fun clause _ => keepsTruth clause]

end SearchQuery
