import SearchQuery.Proofs.Compile.Leaves
import SearchQuery.Proofs.Wire.Members

namespace SearchQuery

-- The shape of a compiled query. A bool query without entries matches everything, so one that stood
-- for a group would lose a filter; none is made, at whatever depth, and none is written.

namespace Node

def bucketFields (node : Node) : List (String × Json) := Json.present node.layout

theorem mem_bucketFields {node : Node} {field : String × Json} :
    field ∈ node.bucketFields ↔ ∃ bucket : Connector, bucket.name = field.1 ∧
      node.entries bucket ≠ [] ∧ .array ((node.entries bucket).map toJson) = field.2 := by
  have every : ∀ bucket : Connector, bucket ∈ [Connector.must, .should, .mustNot] := by
    intro bucket
    cases bucket <;> simp
  simp only [bucketFields, Json.mem_present, layout, List.mem_map, every, true_and, Prod.mk.injEq,
    Json.filled_eq_some_iff, ne_eq, List.map_eq_nil_iff]

theorem WellFilled.exists_bool {node : Node} (full : node.WellFilled) :
    ∃ must should mustNot, node = .bool must should mustNot := by
  cases node with
  | bool must should mustNot => exact ⟨must, should, mustNot, rfl⟩
  | _ => exact full.elim

theorem WellFilled.exists_filled {node : Node} (full : node.WellFilled) :
    ∃ bucket, node.entries bucket ≠ [] := by
  obtain ⟨must, should, mustNot, rfl⟩ := full.exists_bool
  cases must with
  | cons first rest => exact ⟨.must, List.cons_ne_nil first rest⟩
  | nil =>
    cases should with
    | cons first rest => exact ⟨.should, List.cons_ne_nil first rest⟩
    | nil =>
      refine ⟨.mustNot, ?_⟩
      rintro rfl
      simp [WellFilled] at full

structure Shaped (node : Node) : Prop where
  wellFilled : node.WellFilled
  written : node.toJson = .object [("bool", .object node.bucketFields)]
  inOrder : (node.bucketFields.map (·.1)).Sublist ["must", "should", "must_not"]
  notEmpty : node.bucketFields ≠ []
  bucketsNotEmpty : ∀ field ∈ node.bucketFields, field.2 ≠ .array []

theorem WellFilled.shaped {node : Node} (full : node.WellFilled) : node.Shaped where
  wellFilled := full
  written := by
    obtain ⟨must, should, mustNot, rfl⟩ := full.exists_bool
    exact toJson_bool must should mustNot
  inOrder := Json.names_present node.layout
  notEmpty := by
    obtain ⟨bucket, filled⟩ := full.exists_filled
    have written : (bucket.name, .array ((node.entries bucket).map toJson)) ∈ node.bucketFields :=
      mem_bucketFields.mpr ⟨bucket, rfl, filled, rfl⟩
    exact List.ne_nil_of_mem written
  bucketsNotEmpty := by
    intro field member empty
    obtain ⟨bucket, _, filled, written⟩ := mem_bucketFields.mp member
    rw [empty] at written
    exact filled (List.map_eq_nil_iff.mp (Json.array.inj written))

end Node

theorem Frontier.wellFilled_of_bool {root node : Node} {placed : List (Route × Place)}
    (cut : Frontier root (·.leaf.node) Route.negations placed) {place : Place}
    (found : root.at? place = some node) (outside : ∀ raw ∈ rawPlaces placed, ¬raw <+: place)
    (grouped : node.isBool = true) : node.WellFilled := by
  have above : ∀ entry ∈ placed, ¬entry.2 <+: place := by
    intro entry inside within
    cases modelled : entry.1.leaf.isRaw with
    | true => exact outside _ (mem_rawPlaces.mpr ⟨entry, ⟨inside, modelled⟩, rfl⟩) within
    | false =>
      obtain ⟨rest, rfl⟩ := within
      rw [Node.at?_append, cut.found entry inside, Option.bind_some] at found
      have single := Leaf.isBool_node modelled
      rw [Node.eq_nil_of_at? single found] at found
      cases found
      rw [single] at grouped
      cases grouped
  obtain ⟨entry, inside, ⟨rest, whole⟩ | within⟩ := cut.complete place node found
  · cases rest with
    | nil => exact absurd ⟨[], by simpa using whole.symm⟩ (above entry inside)
    | cons step lower =>
      obtain ⟨other, same, full⟩ := cut.filled entry inside place step lower whole.symm
      rw [found] at same
      cases same
      exact full
  · exact absurd within (above entry inside)

-- Outside raw leaves there is nothing in a query but leaves of the list and shaped bool queries.
theorem compiled_query_shaped (clauses : List Clause) :
    (compile clauses = none ↔ Clause.someHasLeaf clauses = false) ∧
    ∀ root, compile clauses = some root → ∃ placed : List (Route × Place),
      placed.map (·.1) = Clause.allRoutes clauses ∧
      (∀ entry ∈ placed, ∃ node, root.at? entry.2 = some node ∧ entry.1.leaf.StandsFor node) ∧
      placed.Pairwise (fun first second => first.2.Before second.2) ∧
      ∀ place node, root.at? place = some node → (∀ raw ∈ rawPlaces placed, ¬raw <+: place) →
        place ∈ placed.map (·.2) ∧ node.isBool = false ∨ node.Shaped := by
  constructor
  · have whole : (Clause.group .must clauses).node? = none ↔
        (Clause.group .must clauses).hasLeaf = false := node?_eq_none_iff
    exact whole
  · intro root compiled
    obtain ⟨placed, items, cut⟩ := compile_cut (fun clause _ => cutByLeaves clause) compiled
    refine ⟨placed, items, fun _ => cut.standing, cut.parted, ?_⟩
    intro place node found outside
    cases grouped : node.isBool with
    | false =>
      have alone : root.LeafAt (rawPlaces placed) place :=
        ⟨node, found, .inr grouped, fun raw member above => absurd above (outside raw member)⟩
      exact .inl ⟨(cut.leafAt_iff place).mpr alone, rfl⟩
    | true => exact .inr (cut.wellFilled_of_bool found outside grouped).shaped

theorem negated_group_beside_raw_query :
    let negated : Node := .bool [] [] [.present "name"]
    let clauses : List Clause := [.raw .emptyBool, .group .must [.group .should []],
      .group .mustNot [.leaf .mustNot (.present "name")]]
    compile clauses = some (.bool [.emptyBool] [] [negated]) ∧ negated.WellFilled ∧
      negated.toJson = .object [("bool", .object
        [("must_not", .array [.object [("exists", .object [("field", .string "name")])]])])] := by
  intro negated clauses
  obtain ⟨placed, items, agree, _, shape⟩ := (compiled_query_shaped clauses).2 _ rfl
  have outside : ∀ raw ∈ rawPlaces placed, ¬raw <+: [(.mustNot, 0)] := by
    intro raw member above
    obtain ⟨entry, ⟨inside, modelled⟩, rfl⟩ := mem_rawPlaces.mp member
    have listed : entry.1 ∈ Clause.allRoutes clauses := items ▸ List.mem_map_of_mem inside
    have given : entry.1.leaf = .raw .emptyBool := by
      rcases List.mem_cons.mp listed with same | later
      · rw [same]
      · rw [List.mem_singleton.mp later] at modelled
        cases modelled
    obtain ⟨node, found, stands⟩ := agree entry inside
    rw [given] at stands
    cases stands
    rcases List.prefix_cons_iff.mp above with top | ⟨rest, below, none⟩
    · rw [top] at found
      cases found
    · rw [below, List.prefix_nil.mp none] at found
      cases found
  rcases shape [(.mustNot, 0)] negated rfl outside with ⟨_, single⟩ | shaped
  · cases single
  · exact ⟨rfl, shaped.wellFilled, shaped.written⟩

end SearchQuery
