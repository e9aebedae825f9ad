import SearchQuery.Clause.Codec
import SearchQuery.Proofs.Compile.Rendering

namespace SearchQuery

-- What comes back of a stored clause list. A raw query comes back as the value it was written as,
-- and a range without bounds has no stored form that is read.

def RangeBounds.Unset (bounds : RangeBounds) : Prop :=
  bounds.gte = .none ∧ bounds.gt = .none ∧ bounds.lte = .none ∧ bounds.lt = .none

theorem RangeBounds.isEmpty_eq_false_iff {bounds : RangeBounds} :
    bounds.isEmpty = false ↔ ¬bounds.Unset := by
  simp [isEmpty, Unset, ← Bool.not_eq_true, and_assoc]

def Leaf.bounded : Leaf → Bool
  | .range _ bounds => !bounds.isEmpty
  | _ => true

def Leaf.settled : Leaf → Leaf
  | .raw node => .raw (.raw node.toJson)
  | query => query

structure Leaf.Storable (query : Leaf) : Prop where
  bounded : query.bounded = true
  settled : query.settled = query

theorem Leaf.settled_toJson (query : Leaf) : query.settled.node.toJson = query.node.toJson := by
  cases query <;> rfl

namespace Clause

def bounded (clause : Clause) : Bool := clause.leaves.all Leaf.bounded

theorem bounded_leaf (connector : Connector) (query : Leaf) :
    (Clause.leaf connector query).bounded = query.bounded := by
  simp [bounded, leaves]

theorem bounded_group (connector : Connector) (clauses : List Clause) :
    (Clause.group connector clauses).bounded = clauses.all bounded := by
  simp only [bounded, leaves, allLeaves_eq_flatMap, List.all_flatMap]
  rfl

mutual
def settled : Clause → Clause
  | .leaf connector query => .leaf connector query.settled
  | .group connector clauses => .group connector (allSettled clauses)
def allSettled : List Clause → List Clause
  | [] => []
  | clause :: rest => settled clause :: allSettled rest
end

structure Storable (clause : Clause) : Prop where
  bounded : clause.bounded = true
  settled : clause.settled = clause

theorem connector_settled (clause : Clause) : clause.settled.connector = clause.connector := by
  cases clause <;> rfl

theorem kindOf_head (kind : String) (connector : Connector) (rest : List (String × Json)) :
    kindOf (head kind connector ++ rest) = .ok kind := rfl

theorem connectorOf_head (kind : String) (connector : Connector) (rest : List (String × Json)) :
    connectorOf (head kind connector ++ rest) = .ok connector := by
  simp [connectorOf, head, List.lookup_cons, Connector.ofName?_name]

theorem setBounds_fields (bounds : RangeBounds) : setBounds .none bounds.fields = .ok bounds := by
  rcases bounds with ⟨gte, gt, lte, lt⟩
  cases gte <;> cases gt <;> cases lte <;> cases lt <;> rfl

theorem boundsOf_written {fields : List (String × Json)} {bounds : RangeBounds}
    (written : fields.lookup "value" = some bounds.toJson) :
    boundsOf fields = if bounds.isEmpty then invalid .noBound else .ok bounds := by
  unfold boundsOf
  rw [written]
  simp only [RangeBounds.toJson, setBounds_fields]
  rfl

theorem leafOf_payload (connector : Connector) (query : Leaf) :
    leafOf query.kind (head query.kind connector ++ payload query) =
      if query.bounded then .ok query.settled else invalid .noBound := by
  cases query with
  | term field value => rfl
  | matchPhrase field phrase => rfl
  | present field => rfl
  | raw node => rfl
  | range field bounds =>
    have read : boundsOf (head "range" connector ++ payload (.range field bounds)) =
        if bounds.isEmpty then invalid .noBound else .ok bounds := boundsOf_written rfl
    rw [Leaf.kind]
    change (do return Leaf.range field (← boundsOf _)) = _
    rw [read]
    cases empty : bounds.isEmpty <;> simp only [Leaf.bounded, empty] <;> rfl

theorem ofJson_toJson_leaf (connector : Connector) (query : Leaf) :
    ofJson (toJson (.leaf connector query)) =
      if query.bounded then .ok (.leaf connector query.settled) else invalid .noBound := by
  have single : query.kind ≠ "nested" := by cases query <;> simp [Leaf.kind]
  rw [toJson, ofJson, kindOf_head, connectorOf_head]
  simp only [Except.bind, bind, if_neg single, leafOf_payload]
  cases query.bounded <;> rfl

theorem childrenOf_written (connector : Connector) (clauses : List Clause) :
    childrenOf (head "nested" connector ++ [("clauses", .array (listToJson clauses))]) =
      listOfItems (listToJson clauses) := by
  rw [childrenOf_eq_lookup]
  rfl

theorem listOfItems_written {clauses : List Clause}
    (each : ∀ clause ∈ clauses, ofJson (toJson clause) =
      if clause.bounded then .ok clause.settled else invalid .noBound) :
    listOfItems (listToJson clauses) =
      if clauses.all bounded then .ok (allSettled clauses) else invalid .noBound := by
  induction clauses with
  | nil => rfl
  | cons clause rest ih =>
    have first := each clause (List.mem_cons_self ..)
    have others := ih fun other member => each other (List.mem_cons_of_mem _ member)
    rw [listToJson, listOfItems, first, others]
    cases whole : clause.bounded <;> cases wholeRest : rest.all bounded <;>
      simp only [List.all_cons, whole, wholeRest] <;> rfl

theorem ofJson_toJson (clause : Clause) : ofJson (toJson clause) =
    if clause.bounded then .ok clause.settled else invalid .noBound := by
  induction clause with
  | leaf connector query =>
    rw [ofJson_toJson_leaf, bounded_leaf]
    rfl
  | group connector clauses ih =>
    rw [toJson, ofJson, kindOf_head, connectorOf_head, childrenOf_written,
      listOfItems_written ih, bounded_group]
    cases clauses.all bounded <;> rfl

-- What is read can be stored: its ranges have bounds and its raw queries are plain values.

theorem boundsOf_nonempty {fields : List (String × Json)} {bounds : RangeBounds}
    (read : boundsOf fields = .ok bounds) : bounds.isEmpty = false := by
  unfold boundsOf at read
  split at read
  · obtain ⟨found, _, checked⟩ := bind_eq_ok_iff.mp read
    split at checked
    · cases checked
    · rename_i nonempty
      cases checked
      simpa using nonempty
  · cases read

theorem storable_of_field {kind : String} {fields : List (String × Json)} {query : Leaf}
    {build : String → Leaf} (plain : ∀ field, (build field).Storable)
    (read : (do return build (← fieldOf kind fields)) = Except.ok query) : query.Storable := by
  obtain ⟨field, _, built⟩ := bind_eq_ok_iff.mp read
  cases built
  exact plain field

theorem leafOf_storable {kind : String} {fields : List (String × Json)} {query : Leaf}
    (read : leafOf kind fields = .ok query) : query.Storable := by
  unfold leafOf at read
  split at read
  · exact storable_of_field (fun _ => ⟨rfl, rfl⟩) read
  split at read
  · exact storable_of_field (fun _ => ⟨rfl, rfl⟩) read
  split at read
  · obtain ⟨field, _, rest⟩ := bind_eq_ok_iff.mp read
    obtain ⟨bounds, taken, built⟩ := bind_eq_ok_iff.mp rest
    cases built
    exact ⟨by simp [Leaf.bounded, boundsOf_nonempty taken], rfl⟩
  split at read
  · exact storable_of_field (fun _ => ⟨rfl, rfl⟩) read
  split at read
  · split at read
    · cases read
      exact ⟨rfl, rfl⟩
    · cases read
  · cases read

theorem ofJson_cases {fields : List (String × Json)} {clause : Clause}
    (read : ofJson (.object fields) = .ok clause) :
    (∃ connector items clauses, fields.lookup "clauses" = some (.array items) ∧
      listOfItems items = .ok clauses ∧ clause = .group connector clauses) ∨
    ∃ kind connector query, leafOf kind fields = .ok query ∧ clause = .leaf connector query := by
  rw [ofJson] at read
  obtain ⟨kind, _, rest⟩ := bind_eq_ok_iff.mp read
  obtain ⟨connector, _, payload⟩ := bind_eq_ok_iff.mp rest
  split at payload
  · obtain ⟨clauses, children, built⟩ := bind_eq_ok_iff.mp payload
    cases built
    rw [childrenOf_eq_lookup] at children
    split at children
    · rename_i value found
      unfold listOfJson at children
      split at children
      · rename_i items
        exact .inl ⟨connector, items, clauses, found, children, rfl⟩
      · cases children
    · cases children
  · obtain ⟨query, taken, built⟩ := bind_eq_ok_iff.mp payload
    cases built
    exact .inr ⟨kind, connector, query, taken, rfl⟩

theorem listOfItems_storable {items : List Json} {clauses : List Clause}
    (each : ∀ item ∈ items, ∀ clause, ofJson item = .ok clause → clause.Storable)
    (read : listOfItems items = .ok clauses) :
    clauses.all bounded = true ∧ allSettled clauses = clauses := by
  induction items generalizing clauses with
  | nil =>
    cases read
    exact ⟨rfl, rfl⟩
  | cons item rest ih =>
    obtain ⟨clause, first, others⟩ := bind_eq_ok_iff.mp read
    obtain ⟨remaining, later, built⟩ := bind_eq_ok_iff.mp others
    cases built
    have head := each item (List.mem_cons_self ..) clause first
    have tail := ih (fun other member => each other (List.mem_cons_of_mem _ member)) later
    exact ⟨by simp [head.bounded, tail.1], by rw [allSettled, head.settled, tail.2]⟩

theorem ofJson_storable (value : Json) (clause : Clause) (read : ofJson value = .ok clause) :
    clause.Storable := by
  induction value using value_induction generalizing clause with
  | object fields ih =>
    rcases ofJson_cases read with ⟨connector, items, clauses, found, children, rfl⟩ |
      ⟨kind, connector, query, taken, rfl⟩
    · have members := listOfItems_storable (ih items found) children
      exact ⟨by rw [bounded_group, members.1], by rw [settled, members.2]⟩
    · have single := leafOf_storable taken
      exact ⟨by rw [bounded_leaf, single.bounded], by rw [settled, single.settled]⟩
  | other value foreign =>
    unfold ofJson at read
    split at read
    · exact absurd rfl (foreign _)
    · cases read

theorem rendered_allSettled {clauses : List Clause}
    (each : ∀ clause ∈ clauses,
      (node? clause.settled).map Node.toJson = (node? clause).map Node.toJson) :
    rendered (parts (allSettled clauses)) = rendered (parts clauses) := by
  induction clauses with
  | nil => rfl
  | cons clause rest ih =>
    have first := each clause (List.mem_cons_self ..)
    have others := ih fun other member => each other (List.mem_cons_of_mem _ member)
    cases before : node? clause with
    | none =>
      have after : node? clause.settled = none := by simpa [before] using first
      simpa [allSettled, parts, before, after] using others
    | some node =>
      obtain ⟨kept, after, text⟩ : ∃ kept, node? clause.settled = some kept ∧
          kept.toJson = node.toJson := by simpa [before] using first
      simpa [allSettled, parts, before, after, rendered, connector_settled, text] using others

theorem node?_settled (clause : Clause) :
    (node? clause.settled).map Node.toJson = (node? clause).map Node.toJson := by
  induction clause with
  | leaf connector query => simp [settled, node?, query.settled_toJson]
  | group connector clauses ih => exact assemble_rendered (rendered_allSettled ih)

end Clause

def RangesBounded (clauses : List Clause) : Prop :=
  ∀ field bounds, Leaf.range field bounds ∈ Clause.allLeaves clauses → ¬bounds.Unset

theorem all_bounded_iff {clauses : List Clause} :
    clauses.all Clause.bounded = true ↔ RangesBounded clauses := by
  have leaves : clauses.all Clause.bounded = (Clause.allLeaves clauses).all Leaf.bounded := by
    simp only [Clause.allLeaves_eq_flatMap, List.all_flatMap]
    rfl
  rw [leaves, List.all_eq_true]
  constructor
  · intro all field bounds member
    rw [← RangeBounds.isEmpty_eq_false_iff]
    simpa [Leaf.bounded] using all _ member
  · intro ranges query member
    cases query with
    | range field bounds =>
      have filled := RangeBounds.isEmpty_eq_false_iff.mpr (ranges field bounds member)
      simp [Leaf.bounded, filled]
    | term | matchPhrase | present | raw => rfl

theorem clausesOfJson_clausesToJson (clauses : List Clause) :
    clausesOfJson (clausesToJson clauses) =
      if clauses.all Clause.bounded then .ok (Clause.allSettled clauses)
      else Clause.invalid .noBound :=
  Clause.listOfItems_written fun clause _ => Clause.ofJson_toJson clause

theorem clausesOfJson_storable {value : Json} {clauses : List Clause}
    (read : clausesOfJson value = .ok clauses) :
    clauses.all Clause.bounded = true ∧ Clause.allSettled clauses = clauses := by
  unfold clausesOfJson Clause.listOfJson at read
  split at read
  · exact Clause.listOfItems_storable (fun item _ => Clause.ofJson_storable item) read
  · cases read

theorem compile_allSettled (clauses : List Clause) :
    (compile (Clause.allSettled clauses)).map Node.toJson =
      (compile clauses).map Node.toJson :=
  assemble_rendered (Clause.rendered_allSettled fun clause _ => clause.node?_settled)

-- A stored list is read back if and only if its ranges have bounds, and then with every raw query
-- settled to its value and nothing else changed. A list that was read is stored without change.
theorem stored_list_restored (clauses : List Clause) :
    ((∃ restored, clausesOfJson (clausesToJson clauses) = .ok restored) ↔
      RangesBounded clauses) ∧
    (∀ restored, clausesOfJson (clausesToJson clauses) = .ok restored →
      restored = Clause.allSettled clauses ∧
      (compile restored).map Node.toJson = (compile clauses).map Node.toJson) ∧
    (∀ error, clausesOfJson (clausesToJson clauses) = .error error →
      error = .invalidClause .noBound) ∧
    (∀ value, clausesOfJson value = .ok clauses →
      RangesBounded clauses ∧ clausesOfJson (clausesToJson clauses) = .ok clauses) := by
  rw [clausesOfJson_clausesToJson, ← all_bounded_iff]
  refine ⟨?_, ?_, ?_, ?_⟩
  · cases clauses.all Clause.bounded <;> simp [Clause.invalid]
  · intro restored read
    split at read
    · cases read
      exact ⟨rfl, compile_allSettled clauses⟩
    · cases read
  · intro error failed
    split at failed
    · cases failed
    · cases failed
      rfl
  · intro value read
    obtain ⟨whole, same⟩ := clausesOfJson_storable read
    rw [if_pos whole, same]
    exact ⟨whole, rfl⟩

end SearchQuery
