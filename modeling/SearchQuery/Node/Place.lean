import SearchQuery.Node

namespace SearchQuery

-- Where a query stands inside another: the way down from the root, which enters one bucket of a
-- bool query at a time, at one of its entries.
abbrev Place := List (Connector × Nat)

namespace Node

def entries (node : Node) (bucket : Connector) : List Node :=
  match node, bucket with
  | .bool must _ _, .must => must
  | .bool _ should _, .should => should
  | .bool _ _ mustNot, .mustNot => mustNot
  | _, _ => []

def isBool : Node → Bool
  | .bool _ _ _ => true
  | _ => false

theorem entries_of_not_bool {node : Node} (single : node.isBool = false) (bucket : Connector) :
    node.entries bucket = [] := by
  cases node with
  | bool must should mustNot => cases single
  | _ => rfl

-- A bool query that asks for something of its own: it has two entries or more, or a single one that
-- must not match.
def WellFilled : Node → Prop
  | .bool must should mustNot =>
    2 ≤ must.length + should.length + mustNot.length ∨
      must = [] ∧ should = [] ∧ mustNot.length = 1
  | _ => False

def at? (node : Node) : Place → Option Node
  | [] => some node
  | (bucket, index) :: rest => (node.entries bucket)[index]?.bind fun entry => entry.at? rest

theorem at?_append (node : Node) (upper lower : Place) :
    node.at? (upper ++ lower) = (node.at? upper).bind fun inner => inner.at? lower := by
  induction upper generalizing node with
  | nil => rfl
  | cons step rest ih =>
    obtain ⟨bucket, index⟩ := step
    rw [List.cons_append, at?, at?]
    cases (node.entries bucket)[index]? with
    | none => rfl
    | some entry => exact ih entry

theorem eq_nil_of_at? {node inner : Node} {place : Place} (single : node.isBool = false)
    (found : node.at? place = some inner) : place = [] := by
  cases place with
  | nil => rfl
  | cons step rest => simp [at?, entries_of_not_bool single] at found

-- A leaf of a query in which raw queries stand at some places: a raw query whatever it is, and any
-- other query without buckets. What is inside a raw query does not count.
def LeafAt (root : Node) (raws : List Place) (place : Place) : Prop :=
  ∃ node, root.at? place = some node ∧ (place ∈ raws ∨ node.isBool = false) ∧
    ∀ raw ∈ raws, raw <+: place → raw = place

end Node

namespace Place

def negations (place : Place) : Nat := place.countP (·.1 = .mustNot)

-- Two ways that part. Where they part inside one bucket, the first one has the earlier entry.
inductive Before : Place → Place → Prop where
  | here {bucket other : Connector} {index later : Nat} {first second : Place}
      (ordered : bucket = other → index < later) :
      Before ((bucket, index) :: first) ((other, later) :: second)
  | deeper {first second : Place} (step : Connector × Nat) (parted : Before first second) :
      Before (step :: first) (step :: second)

theorem Before.append {first second : Place} (parted : Before first second)
    (lower other : Place) : Before (first ++ lower) (second ++ other) := by
  induction parted with
  | here ordered => exact .here ordered
  | deeper step _ ih => exact .deeper step ih

theorem Before.under {first second : Place} (upper : Place) (parted : Before first second) :
    Before (upper ++ first) (upper ++ second) := by
  induction upper with
  | nil => exact parted
  | cons step rest ih => exact .deeper step ih

theorem Before.not_above {first second : Place} (parted : Before first second) :
    ¬first <+: second ∧ ¬second <+: first := by
  induction parted with
  | here ordered =>
    constructor
    · intro above
      obtain ⟨rfl, rfl⟩ := Prod.mk.inj (List.cons_prefix_cons.mp above).1
      exact Nat.lt_irrefl _ (ordered rfl)
    · intro above
      obtain ⟨rfl, rfl⟩ := Prod.mk.inj (List.cons_prefix_cons.mp above).1
      exact Nat.lt_irrefl _ (ordered rfl)
  | deeper step _ ih =>
    constructor
    · intro above
      exact ih.1 (List.cons_prefix_cons.mp above).2
    · intro above
      exact ih.2 (List.cons_prefix_cons.mp above).2

end Place

end SearchQuery
