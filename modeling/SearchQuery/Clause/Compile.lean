import SearchQuery.Clause.Basic

namespace SearchQuery

-- Compiling a clause list into one query. A group without any leaf leaves nothing behind, and a
-- single query stands bare unless it must not match.

def bucketOf (connector : Connector) (parts : List (Connector × Node)) : List Node :=
  (parts.filter (·.1 = connector)).map (·.2)

theorem bucketOf_cons (connector : Connector) (part : Connector × Node)
    (rest : List (Connector × Node)) :
    bucketOf connector (part :: rest) =
      (if part.1 = connector then [part.2] else []) ++ bucketOf connector rest := by
  by_cases same : part.1 = connector <;> simp [bucketOf, same]

def assemble : List (Connector × Node) → Option Node
  | [] => none
  | [(.must, node)] => some node
  | [(.should, node)] => some node
  | [(.must, first), (.should, second)] => some (.bool [] [first, second] [])
  | parts =>
    some (.bool (bucketOf .must parts) (bucketOf .should parts) (bucketOf .mustNot parts))

def shortcuts : List (List Connector) := [[], [.must], [.should], [.must, .should]]

theorem assemble_eq_bool {parts : List (Connector × Node)}
    (mixed : parts.map (·.1) ∉ shortcuts) :
    assemble parts =
      some (.bool (bucketOf .must parts) (bucketOf .should parts) (bucketOf .mustNot parts)) := by
  unfold assemble
  split
  · simp [shortcuts] at mixed
  · simp [shortcuts] at mixed
  · simp [shortcuts] at mixed
  · simp [shortcuts] at mixed
  · rfl

theorem assemble_cases (parts : List (Connector × Node)) :
    (parts = [] ∧ assemble parts = none) ∨
    (∃ connector node, connector ≠ .mustNot ∧ parts = [(connector, node)] ∧
      assemble parts = some node) ∨
    (∃ first second, parts = [(.must, first), (.should, second)] ∧
      assemble parts = some (.bool [] [first, second] [])) ∨
    (parts.map (·.1) ∉ shortcuts ∧ assemble parts =
      some (.bool (bucketOf .must parts) (bucketOf .should parts) (bucketOf .mustNot parts))) := by
  by_cases mixed : parts.map (·.1) ∈ shortcuts
  · simp only [shortcuts, List.mem_cons, List.map_eq_nil_iff, List.map_eq_cons_iff,
      List.not_mem_nil, or_false] at mixed
    rcases mixed with rfl | ⟨⟨_, node⟩, _, rfl, rfl, rfl⟩ | ⟨⟨_, node⟩, _, rfl, rfl, rfl⟩ |
      ⟨⟨_, first⟩, _, rfl, rfl, ⟨_, second⟩, _, rfl, rfl, rfl⟩
    · exact .inl ⟨rfl, rfl⟩
    · exact .inr (.inl ⟨.must, node, by decide, rfl, rfl⟩)
    · exact .inr (.inl ⟨.should, node, by decide, rfl, rfl⟩)
    · exact .inr (.inr (.inl ⟨first, second, rfl, rfl⟩))
  · exact .inr (.inr (.inr ⟨mixed, assemble_eq_bool mixed⟩))

@[simp] theorem isSome_assemble (parts : List (Connector × Node)) :
    (assemble parts).isSome = !parts.isEmpty := by
  rcases assemble_cases parts with ⟨rfl, nothing⟩ | ⟨_, _, _, rfl, bare⟩ | ⟨_, _, rfl, pair⟩ |
    ⟨mixed, buckets⟩
  · rfl
  · simp [bare]
  · simp [pair]
  · cases parts with
    | nil => simp [shortcuts] at mixed
    | cons part rest => simp [buckets]

mutual
def Clause.node? : Clause → Option Node
  | .leaf _ query => some query.node
  | .group _ clauses => assemble (Clause.parts clauses)
def Clause.parts : List Clause → List (Connector × Node)
  | [] => []
  | clause :: rest =>
    match Clause.node? clause with
    | some node => (clause.connector, node) :: Clause.parts rest
    | none => Clause.parts rest
end

theorem Clause.parts_cons_of_none {clause : Clause} (nothing : clause.node? = none)
    (rest : List Clause) : parts (clause :: rest) = parts rest := by
  rw [parts, nothing]

theorem Clause.parts_cons_of_some {clause : Clause} {node : Node}
    (compiled : clause.node? = some node) (rest : List Clause) :
    parts (clause :: rest) = (clause.connector, node) :: parts rest := by
  rw [parts, compiled]

theorem Clause.isEmpty_parts (clauses : List Clause) :
    (Clause.parts clauses).isEmpty = !clauses.any fun clause => (Clause.node? clause).isSome := by
  induction clauses with
  | nil => rfl
  | cons clause rest ih =>
    cases compiled : Clause.node? clause <;> simp [Clause.parts, compiled, ih]

-- The query of a clause list; none when no leaf is in it, which matches everything.
def compile (clauses : List Clause) : Option Node := assemble (Clause.parts clauses)

end SearchQuery
