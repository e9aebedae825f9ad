import SearchQuery.Clause.Compile

namespace SearchQuery

-- The text of a compiled query depends on the texts of its parts alone.
def rendered (parts : List (Connector × Node)) : List (Connector × Json) :=
  parts.map fun part => (part.1, part.2.toJson)

theorem map_fst_rendered (parts : List (Connector × Node)) :
    (rendered parts).map (·.1) = parts.map (·.1) := by
  simp [rendered, Function.comp_def]

theorem listToJson_bucketOf (connector : Connector) (parts : List (Connector × Node)) :
    Node.listToJson (bucketOf connector parts) =
      ((rendered parts).filter (·.1 = connector)).map (·.2) := by
  rw [Node.listToJson_eq_map, rendered, bucketOf, List.filter_map]
  simp [Function.comp_def]

theorem assemble_bare {connector : Connector} (positive : connector ≠ .mustNot) (node : Node) :
    assemble [(connector, node)] = some node := by
  cases connector with
  | must => rfl
  | should => rfl
  | mustNot => exact absurd rfl positive

theorem assemble_rendered {first second : List (Connector × Node)}
    (same : rendered first = rendered second) :
    (assemble first).map Node.toJson = (assemble second).map Node.toJson := by
  rcases assemble_cases first with ⟨rfl, nothing⟩ | ⟨connector, node, positive, rfl, bare⟩ |
    ⟨left, right, rfl, pair⟩ | ⟨mixed, buckets⟩
  · have empty : second = [] := List.map_eq_nil_iff.mp same.symm
    rw [empty]
  · obtain ⟨⟨kept, other⟩, rfl, equal⟩ := List.map_eq_singleton_iff.mp same.symm
    obtain ⟨rfl, text⟩ := Prod.mk.inj equal
    rw [bare, assemble_bare positive, Option.map_some, Option.map_some, text]
  · obtain ⟨⟨_, one⟩, _, rfl, equalOne, more⟩ := List.map_eq_cons_iff.mp same.symm
    obtain ⟨⟨_, two⟩, rfl, equalTwo⟩ := List.map_eq_singleton_iff.mp more
    obtain ⟨rfl, textOne⟩ := Prod.mk.inj equalOne
    obtain ⟨rfl, textTwo⟩ := Prod.mk.inj equalTwo
    simp [assemble, Node.toJson, Node.listToJson, textOne, textTwo]
  · have mixedToo : second.map (·.1) ∉ shortcuts := by
      rwa [← map_fst_rendered, ← same, map_fst_rendered]
    rw [buckets, assemble_eq_bool mixedToo]
    simp only [Option.map_some, Node.toJson, listToJson_bucketOf, same]

end SearchQuery
