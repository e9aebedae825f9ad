import SearchQuery.Clause.Codec

namespace SearchQuery

-- The grammar of stored clause lists, said of values and without a decoder: what is asked of the
-- value of one clause, its children aside, and the order in which the clauses of a list are met.
namespace Grammar

def kindNames : List String := ["term", "range", "match_phrase", "exists", "nested", "raw"]

def connectorNames : List String := ["must", "should", "must_not"]

def boundNames : List String := ["gte", "gt", "lte", "lt"]

def isText : Option Json → Bool
  | some (.string _) => true
  | _ => false

def isList : Option Json → Bool
  | some (.array _) => true
  | _ => false

def connects : Option Json → Bool
  | none => true
  | some (.string name) => connectorNames.contains name
  | some _ => false

def bounds : Option Json → Bool
  | some (.object members) =>
    !members.isEmpty && members.all fun member => boundNames.contains member.1
  | _ => false

def hasPayload (kind : String) (fields : List (String × Json)) : Bool :=
  if kind = "term" ∨ kind = "match_phrase" ∨ kind = "exists" then isText (fields.lookup "field")
  else if kind = "range" then
    isText (fields.lookup "field") && bounds (fields.lookup "value")
  else if kind = "nested" then isList (fields.lookup "clauses")
  else if kind = "raw" then (fields.lookup "query").isSome
  else false

def kind? (fields : List (String × Json)) : Option String :=
  (fields.lookup "kind").bind Json.string?

def locallyValid : Json → Bool
  | .object fields =>
    match kind? fields with
    | some kind => connects (fields.lookup "connector") && hasPayload kind fields
    | none => false
  | _ => false

def unknownKind? : Json → Option String
  | .object fields =>
    (kind? fields).filter fun kind =>
      connects (fields.lookup "connector") && !kindNames.contains kind
  | _ => none

-- A clause stands before its children, and these stand from left to right.
mutual
def preorder : Json → List Json
  | .object fields =>
    .object fields :: if kind? fields = some "nested" then preorderMember fields else []
  | value => [value]
def preorderMember : List (String × Json) → List Json
  | [] => []
  | (name, value) :: rest => if name = "clauses" then preorderList value else preorderMember rest
def preorderList : Json → List Json
  | .array items => preorderItems items
  | _ => []
def preorderItems : List Json → List Json
  | [] => []
  | item :: rest => preorder item ++ preorderItems rest
end

def Offence (value : Json) (error : Error) : Prop :=
  match unknownKind? value with
  | some kind => error = .unsupportedOperator kind
  | none => ∃ fault, error = .invalidClause fault

theorem Offence.unknown {value : Json} {kind : String} (found : unknownKind? value = some kind) :
    Offence value (.unsupportedOperator kind) := by
  simp [Offence, found]

theorem Offence.broken {value : Json} (none : unknownKind? value = none) (fault : ClauseFault) :
    Offence value (.invalidClause fault) := by
  simp [Offence, none]

theorem preorderMember_eq_lookup (fields : List (String × Json)) :
    preorderMember fields = match fields.lookup "clauses" with
      | some value => preorderList value
      | none => [] :=
  Json.first_eq_lookup rfl (fun _ _ _ => rfl) fields

theorem preorder_head (value : Json) : ∃ children, preorder value = value :: children := by
  cases value with
  | object fields => exact ⟨_, rfl⟩
  | null | bool | number | string | array => exact ⟨[], rfl⟩

end Grammar

namespace Clause
open Grammar

def Judges {α : Type} (valid : Bool) (result : Except Error α) : Prop :=
  if valid then ∃ answer, result = .ok answer else ∃ fault, result = .error (.invalidClause fault)

theorem Judges.bind {α β : Type} {valid validNext : Bool} {first : Except Error α}
    {next : α → Except Error β} (judged : Judges valid first)
    (judgedNext : ∀ answer, first = .ok answer → Judges validNext (next answer)) :
    Judges (valid && validNext) (first >>= next) := by
  cases valid with
  | false =>
    obtain ⟨fault, failed⟩ := judged
    exact ⟨fault, by rw [failed]; rfl⟩
  | true =>
    obtain ⟨answer, passed⟩ := judged
    rw [passed]
    exact judgedNext answer passed

theorem Judges.map {α β : Type} {valid : Bool} {first : Except Error α} (wrap : α → β)
    (judged : Judges valid first) :
    Judges valid (do return wrap (← first)) := by
  have kept : Judges (valid && true) (do return wrap (← first)) :=
    judged.bind fun answer _ => ⟨wrap answer, rfl⟩
  rwa [Bool.and_true] at kept

theorem isSome_connector (name : String) :
    (Connector.ofName? name).isSome = connectorNames.contains name := by
  unfold Connector.ofName? connectorNames
  grind

theorem isSome_bound (name : String) :
    (BoundName.ofName? name).isSome = boundNames.contains name := by
  unfold BoundName.ofName? boundNames
  grind

theorem kindOf_eq (fields : List (String × Json)) :
    kindOf fields = match kind? fields with
      | some kind => .ok kind
      | none => invalid .missingKind := by
  unfold kindOf kind?
  rcases fields.lookup "kind" with _ | value
  · rfl
  · cases value <;> rfl

theorem connectorOf_judges (fields : List (String × Json)) :
    Judges (connects (fields.lookup "connector")) (connectorOf fields) := by
  unfold connectorOf
  rcases fields.lookup "connector" with _ | value
  · exact ⟨_, rfl⟩
  · cases value with
    | string name =>
      rw [connects, ← isSome_connector]
      cases named : Connector.ofName? name with
      | some connector => exact ⟨connector, by simp only [named]⟩
      | none => exact ⟨.unknownConnector name, by simp only [named]; rfl⟩
    | null | bool | number | array | object => exact ⟨_, rfl⟩

theorem fieldOf_judges (kind : String) (fields : List (String × Json)) :
    Judges (isText (fields.lookup "field")) (fieldOf kind fields) := by
  unfold fieldOf
  rcases fields.lookup "field" with _ | value
  · exact ⟨_, rfl⟩
  · cases value with
    | string field => exact ⟨field, rfl⟩
    | null | bool | number | array | object => exact ⟨_, rfl⟩

theorem setBounds_judges (given : RangeBounds) (members : List (String × Json)) :
    Judges (members.all fun member => boundNames.contains member.1) (setBounds given members) := by
  induction members generalizing given with
  | nil => exact ⟨given, rfl⟩
  | cons member rest ih =>
    obtain ⟨name, value⟩ := member
    rw [List.all_cons, ← isSome_bound]
    unfold setBounds
    cases BoundName.ofName? name with
    | some bound =>
      rw [Option.isSome_some, Bool.true_and]
      exact ih (given.set bound value)
    | none => exact ⟨_, rfl⟩

theorem setBounds_isEmpty {given taken : RangeBounds} {members : List (String × Json)}
    (read : setBounds given members = .ok taken) :
    taken.isEmpty = (given.isEmpty && members.isEmpty) := by
  induction members generalizing given with
  | nil =>
    cases read
    simp
  | cons member rest ih =>
    obtain ⟨name, value⟩ := member
    unfold setBounds at read
    split at read
    · rw [ih read, RangeBounds.isEmpty_set]
      simp
    · cases read

theorem boundsOf_judges (fields : List (String × Json)) :
    Judges (bounds (fields.lookup "value")) (boundsOf fields) := by
  unfold boundsOf
  rcases fields.lookup "value" with _ | value
  · exact ⟨_, rfl⟩
  · cases value with
    | object members =>
      rw [bounds, Bool.and_comm]
      refine (setBounds_judges .none members).bind fun taken read => ?_
      have empty : taken.isEmpty = members.isEmpty := by
        rw [setBounds_isEmpty read]
        rfl
      rw [empty]
      cases members.isEmpty with
      | true => exact ⟨_, rfl⟩
      | false => exact ⟨taken, rfl⟩
    | null | bool | number | string | array => exact ⟨_, rfl⟩

theorem leafOf_judges {kind : String} (known : kindNames.contains kind = true)
    (single : kind ≠ "nested") (fields : List (String × Json)) :
    Judges (hasPayload kind fields) (leafOf kind fields) := by
  have listed : kind = "term" ∨ kind = "range" ∨ kind = "match_phrase" ∨ kind = "exists" ∨
      kind = "nested" ∨ kind = "raw" := by simpa [kindNames] using known
  rcases listed with rfl | rfl | rfl | rfl | nested | rfl
  · exact (fieldOf_judges _ fields).map _
  · exact (fieldOf_judges _ fields).bind fun field _ => (boundsOf_judges fields).map _
  · exact (fieldOf_judges _ fields).map _
  · exact (fieldOf_judges _ fields).map _
  · exact absurd nested single
  · change Judges (fields.lookup "query").isSome (match fields.lookup "query" with
      | some body => .ok (Leaf.raw (.raw body))
      | none => invalid .missingQuery)
    cases fields.lookup "query" with
    | some body => exact ⟨_, rfl⟩
    | none => exact ⟨_, rfl⟩

theorem leafOf_unknown {kind : String} (unknown : kindNames.contains kind = false)
    (fields : List (String × Json)) : leafOf kind fields = .error (.unsupportedOperator kind) := by
  unfold leafOf
  simp only [kindNames, List.contains_cons, List.contains_nil, Bool.or_false,
    Bool.or_eq_false_iff, beq_eq_false_iff_ne] at unknown
  obtain ⟨term, range, phrase, present, _, raw⟩ := unknown
  rw [if_neg term, if_neg phrase, if_neg range, if_neg present, if_neg raw]

theorem childrenOf_list {fields : List (String × Json)} {items : List Json}
    (found : fields.lookup "clauses" = some (.array items)) :
    childrenOf fields = listOfItems items := by
  rw [childrenOf_eq_lookup, found]
  rfl

theorem childrenOf_foreign {fields : List (String × Json)}
    (foreign : isList (fields.lookup "clauses") = false) : Judges false (childrenOf fields) := by
  rw [childrenOf_eq_lookup]
  revert foreign
  rcases fields.lookup "clauses" with _ | value
  · intro foreign
    exact ⟨_, rfl⟩
  · intro foreign
    cases value with
    | array items => cases foreign
    | null | bool | number | string | object => exact ⟨_, rfl⟩

section
variable {fields : List (String × Json)} {kind : String}

theorem ofJson_named (named : kind? fields = some kind) :
    ofJson (.object fields) = (do
      let connector ← connectorOf fields
      if kind = "nested" then return .group connector (← childrenOf fields)
      else return .leaf connector (← leafOf kind fields)) := by
  rw [ofJson, kindOf_eq, named]
  rfl

theorem locallyValid_named (named : kind? fields = some kind) :
    locallyValid (.object fields) =
      (connects (fields.lookup "connector") && hasPayload kind fields) := by
  simp [locallyValid, named]

theorem ofJson_leaf_judges (named : kind? fields = some kind)
    (known : kindNames.contains kind = true) (single : kind ≠ "nested") :
    Judges (locallyValid (.object fields)) (ofJson (.object fields)) := by
  rw [ofJson_named named, locallyValid_named named]
  refine (connectorOf_judges fields).bind fun connector _ => ?_
  rw [if_neg single]
  exact (leafOf_judges known single fields).map _

theorem ofJson_childless_judges (named : kind? fields = some "nested")
    (foreign : isList (fields.lookup "clauses") = false) :
    Judges (locallyValid (.object fields)) (ofJson (.object fields)) := by
  rw [ofJson_named named, locallyValid_named named]
  have refused : hasPayload "nested" fields = false := foreign
  rw [refused]
  refine (connectorOf_judges fields).bind fun connector _ => ?_
  rw [if_pos rfl]
  exact (childrenOf_foreign foreign).map _

theorem ofJson_unconnected_judges (named : kind? fields = some kind)
    (loose : connects (fields.lookup "connector") = false) :
    Judges false (ofJson (.object fields)) := by
  obtain ⟨fault, failed⟩ : Judges false (connectorOf fields) := loose ▸ connectorOf_judges fields
  exact ⟨fault, by rw [ofJson_named named, failed]; rfl⟩

theorem ofJson_unknown (named : kind? fields = some kind)
    (connected : connects (fields.lookup "connector") = true)
    (unknown : kindNames.contains kind = false) :
    ofJson (.object fields) = .error (.unsupportedOperator kind) := by
  obtain ⟨connector, passed⟩ : Judges true (connectorOf fields) :=
    connected ▸ connectorOf_judges fields
  have single : kind ≠ "nested" := by
    rintro rfl
    cases unknown
  rw [ofJson_named named, passed]
  change (if kind = "nested" then _ else _) = _
  rw [if_neg single, leafOf_unknown unknown]
  rfl

end

theorem ofJson_refused {value : Json} (refused : locallyValid value = false) :
    ∃ error, ofJson value = .error error ∧ Offence value error := by
  cases value with
  | null | bool | number | string | array => exact ⟨_, rfl, .broken rfl .notAnObject⟩
  | object fields =>
    cases named : kind? fields with
    | none =>
      have failed : kindOf fields = invalid .missingKind := by rw [kindOf_eq, named]
      have unnamed : unknownKind? (.object fields) = none := by simp [unknownKind?, named]
      exact ⟨_, by rw [ofJson, failed]; rfl, .broken unnamed .missingKind⟩
    | some kind =>
      cases connected : connects (fields.lookup "connector") with
      | false =>
        obtain ⟨fault, failed⟩ := ofJson_unconnected_judges named connected
        exact ⟨_, failed, .broken (by simp [unknownKind?, named, connected]) fault⟩
      | true =>
        cases known : kindNames.contains kind with
        | false =>
          have foreign : kind ∉ kindNames := by simpa using known
          exact ⟨_, ofJson_unknown named connected known,
            .unknown (by simp [unknownKind?, named, connected, foreign])⟩
        | true =>
          have listed : kind ∈ kindNames := by simpa using known
          have judged : Judges (locallyValid (.object fields)) (ofJson (.object fields)) := by
            by_cases nested : kind = "nested"
            · subst nested
              have foreign : isList (fields.lookup "clauses") = false := by
                rw [locallyValid_named named, connected, Bool.true_and] at refused
                exact refused
              exact ofJson_childless_judges named foreign
            · exact ofJson_leaf_judges named known nested
          rw [refused] at judged
          obtain ⟨fault, failed⟩ := judged
          exact ⟨_, failed, .broken (by simp [unknownKind?, named, listed]) fault⟩

theorem hasPayload_unknown {kind : String} (unknown : kindNames.contains kind = false)
    (fields : List (String × Json)) : hasPayload kind fields = false := by
  simp only [kindNames, List.contains_cons, List.contains_nil, Bool.or_false,
    Bool.or_eq_false_iff, beq_eq_false_iff_ne] at unknown
  simp [hasPayload, unknown]

theorem ofJson_valid {fields : List (String × Json)}
    (valid : locallyValid (.object fields) = true) :
    (kind? fields ≠ some "nested" ∧ ∃ clause, ofJson (.object fields) = .ok clause) ∨
    (kind? fields = some "nested" ∧ ∃ connector items,
      fields.lookup "clauses" = some (.array items) ∧
      ofJson (.object fields) = (do return .group connector (← listOfItems items))) := by
  cases named : kind? fields with
  | none => simp [locallyValid, named] at valid
  | some kind =>
    have checks := locallyValid_named named
    rw [valid] at checks
    obtain ⟨connected, payload⟩ := (Bool.and_eq_true_iff.mp checks.symm)
    by_cases nested : kind = "nested"
    · subst nested
      have list : isList (fields.lookup "clauses") = true := payload
      obtain ⟨items, found⟩ : ∃ items, fields.lookup "clauses" = some (.array items) := by
        unfold isList at list
        split at list
        · rename_i items found
          exact ⟨items, found⟩
        · cases list
      obtain ⟨connector, passed⟩ : Judges true (connectorOf fields) :=
        connected ▸ connectorOf_judges fields
      refine .inr ⟨rfl, connector, items, found, ?_⟩
      rw [ofJson_named named, passed, childrenOf_list found]
      rfl
    · have known : kindNames.contains kind = true := by
        cases listed : kindNames.contains kind with
        | true => rfl
        | false =>
          rw [hasPayload_unknown listed] at payload
          cases payload
      have judged := ofJson_leaf_judges named known nested
      rw [valid] at judged
      exact .inl ⟨by simpa using nested, judged⟩

end Clause

end SearchQuery
