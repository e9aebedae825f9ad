import Mathlib.Data.List.Permutation
import SearchQuery.Proofs.Compile.Meaning

namespace SearchQuery

-- A compiled query keeps the order of the clauses inside each bucket and nothing of their order
-- across buckets, except for "first or second", which says something else the other way round.

section

variable {first second : List (Connector × Node)}

theorem count_connectors (connector : Connector) (parts : List (Connector × Node)) :
    (parts.map (·.1)).count connector = (bucketOf connector parts).length := by
  rw [List.count_eq_countP, List.countP_map, List.countP_eq_length_filter, bucketOf,
    List.length_map]
  rfl

theorem perm_of_same_buckets
    (same : ∀ connector, bucketOf connector first = bucketOf connector second) :
    (first.map (·.1)).Perm (second.map (·.1)) := by
  apply List.perm_iff_count.mpr
  intro connector
  rw [count_connectors, count_connectors, same connector]

theorem eq_of_same_buckets (connected : first.map (·.1) = second.map (·.1))
    (same : ∀ connector, bucketOf connector first = bucketOf connector second) :
    first = second := by
  induction first generalizing second with
  | nil => exact (List.map_eq_nil_iff.mp connected.symm).symm
  | cons part rest ih =>
    obtain ⟨other, others, rfl, here, later⟩ := List.map_eq_cons_iff.mp connected.symm
    have head := same part.1
    simp only [bucketOf_cons, here, if_true, List.singleton_append, List.cons.injEq] at head
    have follow : rest = others := by
      apply ih later.symm
      intro connector
      have both := same connector
      simp only [bucketOf_cons, here, head.1] at both
      exact List.append_cancel_left both
    rw [Prod.ext here.symm head.1, follow]

def Crossed (first second : List Connector) : Prop :=
  first = [.must, .should] ∧ second = [.should, .must]

theorem crossed_of_shortcut {first second : List Connector} (perm : first.Perm second)
    (differ : first ≠ second) (short : first ∈ shortcuts) : Crossed first second := by
  simp only [shortcuts, List.mem_cons, List.not_mem_nil, or_false] at short
  rcases short with rfl | rfl | rfl | rfl
  · exact absurd perm.nil_eq differ
  · exact absurd perm.singleton_eq differ
  · exact absurd perm.singleton_eq differ
  · rcases List.pair_perm.mp perm with same | swapped
    · exact absurd same.symm differ
    · exact ⟨rfl, swapped⟩

theorem assemble_of_same_buckets
    (same : ∀ connector, bucketOf connector first = bucketOf connector second) :
    assemble first = assemble second ∨ Crossed (first.map (·.1)) (second.map (·.1)) ∨
      Crossed (second.map (·.1)) (first.map (·.1)) := by
  have perm := perm_of_same_buckets same
  by_cases connected : first.map (·.1) = second.map (·.1)
  · rw [eq_of_same_buckets connected same]
    exact .inl rfl
  · by_cases one : first.map (·.1) ∈ shortcuts
    · exact .inr (.inl (crossed_of_shortcut perm connected one))
    · by_cases other : second.map (·.1) ∈ shortcuts
      · exact .inr (.inr (crossed_of_shortcut perm.symm (Ne.symm connected) other))
      · rw [assemble_eq_bool one, assemble_eq_bool other, same, same, same]
        exact .inl rfl

theorem toJson_ne_of_crossed (crossed : Crossed (first.map (·.1)) (second.map (·.1))) :
    (assemble first).map Node.toJson ≠ (assemble second).map Node.toJson := by
  obtain ⟨⟨_, _⟩, _, rfl, rfl, more⟩ := List.map_eq_cons_iff.mp crossed.1
  obtain ⟨⟨_, _⟩, rfl, rfl⟩ := List.map_eq_singleton_iff.mp more
  obtain ⟨⟨_, _⟩, _, rfl, rfl, rest⟩ := List.map_eq_cons_iff.mp crossed.2
  obtain ⟨⟨_, _⟩, rfl, rfl⟩ := List.map_eq_singleton_iff.mp rest
  simp [assemble, bucketOf, Node.toJson, Node.listToJson, Node.bucket]

end

namespace Clause

mutual
def pruned : Clause → Clause
  | .leaf connector query => .leaf connector query
  | .group connector clauses => .group connector (allPruned clauses)
def allPruned : List Clause → List Clause
  | [] => []
  | clause :: rest => if hasLeaf clause then pruned clause :: allPruned rest else allPruned rest
end

@[simp] theorem connector_pruned (clause : Clause) :
    clause.pruned.connector = clause.connector := by
  cases clause with
  | leaf connector query => rfl
  | group connector clauses => rfl

theorem parts_allPruned_of {clauses : List Clause}
    (each : ∀ clause ∈ clauses, clause.pruned.node? = clause.node?) :
    parts (allPruned clauses) = parts clauses := by
  induction clauses with
  | nil => rfl
  | cons clause rest ih =>
    have others := ih fun other member => each other (List.mem_cons_of_mem _ member)
    cases compiled : clause.node? with
    | none =>
      have counts := node?_eq_none_iff.mp compiled
      simpa [allPruned, counts, parts_cons_of_none compiled] using others
    | some node =>
      have counts := hasLeaf_of_node? compiled
      have first := (each clause List.mem_cons_self).trans compiled
      simp only [allPruned, counts, if_true, parts_cons_of_some compiled, parts_cons_of_some first,
        connector_pruned, others]

theorem node?_pruned (clause : Clause) : clause.pruned.node? = clause.node? := by
  induction clause with
  | leaf connector query => rfl
  | group connector clauses ih => rw [pruned, node?, node?, parts_allPruned_of ih]

theorem parts_allPruned (clauses : List Clause) : parts (allPruned clauses) = parts clauses :=
  parts_allPruned_of fun clause _ => node?_pruned clause

theorem connectors_parts (clauses : List Clause) :
    (parts clauses).map (·.1) = (allPruned clauses).map connector := by
  induction clauses with
  | nil => rfl
  | cons clause rest ih =>
    cases compiled : clause.node? with
    | none =>
      have counts := node?_eq_none_iff.mp compiled
      simpa [allPruned, counts, parts_cons_of_none compiled] using ih
    | some node =>
      have counts := hasLeaf_of_node? compiled
      simpa [allPruned, counts, parts_cons_of_some compiled] using ih

theorem bucketOf_parts (connector : Connector) (clauses : List Clause) :
    bucketOf connector (parts clauses) =
      (clauses.filter (·.connector = connector)).filterMap node? := by
  induction clauses with
  | nil => rfl
  | cons clause rest ih =>
    cases compiled : clause.node? <;> by_cases same : clause.connector = connector <;>
      simp [parts, bucketOf_cons, compiled, same, ih]

def SameInBuckets (first second : List Clause) : Prop :=
  ∀ bucket, first.filter (·.connector = bucket) = second.filter (·.connector = bucket)

def Swapped (first second : List Clause) : Prop :=
  ∃ must should : Clause, must.connector = .must ∧ should.connector = .should ∧
    first = [must, should] ∧ second = [should, must]

theorem swapped_iff {first second : List Clause} (same : SameInBuckets first second) :
    Swapped first second ↔ Crossed (first.map connector) (second.map connector) := by
  constructor
  · rintro ⟨must, should, one, other, rfl, rfl⟩
    simp [Crossed, one, other]
  · intro crossed
    obtain ⟨must, _, rfl, isMust, more⟩ := List.map_eq_cons_iff.mp crossed.1
    obtain ⟨should, rfl, isShould⟩ := List.map_eq_singleton_iff.mp more
    obtain ⟨other, _, rfl, otherShould, rest⟩ := List.map_eq_cons_iff.mp crossed.2
    obtain ⟨last, rfl, lastMust⟩ := List.map_eq_singleton_iff.mp rest
    have mustSame := same .must
    have shouldSame := same .should
    simp [isMust, isShould, otherShould, lastMust] at mustSame shouldSame
    exact ⟨must, should, isMust, isShould, rfl, by rw [mustSame, shouldSame]⟩

theorem same_buckets_of_pruned {first second : List Clause}
    (same : SameInBuckets (allPruned first) (allPruned second)) (bucket : Connector) :
    bucketOf bucket (parts first) = bucketOf bucket (parts second) := by
  rw [← parts_allPruned first, ← parts_allPruned second, bucketOf_parts, bucketOf_parts,
    same bucket]

end Clause

-- What is left of a list is judged after its groups without a leaf are gone from every depth, so
-- lists that differ in such groups alone count as the same.
theorem compile_order_across_buckets {first second : List Clause}
    (same : Clause.SameInBuckets (Clause.allPruned first) (Clause.allPruned second)) :
    (compile first).map Node.toJson = (compile second).map Node.toJson ↔
      ¬(Clause.Swapped (Clause.allPruned first) (Clause.allPruned second) ∨
        Clause.Swapped (Clause.allPruned second) (Clause.allPruned first)) := by
  rw [Clause.swapped_iff same, Clause.swapped_iff fun bucket => (same bucket).symm,
    ← Clause.connectors_parts, ← Clause.connectors_parts]
  constructor
  · rintro written (crossed | crossed)
    · exact toJson_ne_of_crossed crossed written
    · exact toJson_ne_of_crossed crossed written.symm
  · intro apart
    rcases assemble_of_same_buckets (Clause.same_buckets_of_pruned same) with equal | crossed
    · rw [compile, compile, equal]
    · exact absurd crossed apart

theorem alternative_first_differs :
    let first : List Clause := [.present "email", .group .mustNot [.group .must []],
      .leaf .should (.present "phone")]
    let second : List Clause := [.leaf .should (.present "phone"), .present "email"]
    Clause.SameInBuckets (Clause.allPruned first) (Clause.allPruned second) ∧
      (compile first).map Node.toJson ≠ (compile second).map Node.toJson := by
  intro first second
  have same : Clause.SameInBuckets (Clause.allPruned first) (Clause.allPruned second) := by
    intro bucket
    cases bucket with
    | must => rfl
    | should => rfl
    | mustNot => rfl
  refine ⟨same, ?_⟩
  intro written
  exact (compile_order_across_buckets same).mp written
    (.inl ⟨.present "email", .leaf .should (.present "phone"), rfl, rfl, rfl, rfl⟩)

end SearchQuery
