import SearchQuery.Proofs.Compile.Frontier
import SearchQuery.Proofs.Compile.Meaning

namespace SearchQuery

-- Compiling loses no leaf of a clause list, doubles none and turns none into its opposite: every
-- leaf has a place of its own in the query, under as many negations as in the list.

-- A leaf of a clause list and the connectors on the way down to it: those of the groups it is in,
-- from the outermost one, and then its own.
structure Route where
  connectors : List Connector
  leaf : Leaf

namespace Route

def under (connector : Connector) (route : Route) : Route :=
  ⟨connector :: route.connectors, route.leaf⟩

def negations (route : Route) : Nat := route.connectors.count .mustNot

theorem negations_under (connector : Connector) (route : Route) :
    (route.under connector).negations =
      (if connector = .mustNot then 1 else 0) + route.negations := by
  rw [negations, under, List.count_cons, Nat.add_comm]
  cases connector with
  | must => rfl
  | should => rfl
  | mustNot => rfl

end Route

mutual
def Clause.routes : Clause → List Route
  | .leaf connector query => [⟨[connector], query⟩]
  | .group connector clauses => (Clause.allRoutes clauses).map (Route.under connector)
def Clause.allRoutes : List Clause → List Route
  | [] => []
  | clause :: rest => Clause.routes clause ++ Clause.allRoutes rest
end

theorem allRoutes_eq_nil_iff {clauses : List Clause}
    (counts : ∀ clause ∈ clauses, (clause.routes = [] ↔ clause.hasLeaf = false)) :
    Clause.allRoutes clauses = [] ↔ Clause.someHasLeaf clauses = false := by
  induction clauses with
  | nil => exact ⟨fun _ => rfl, fun _ => rfl⟩
  | cons clause rest ih =>
    have first := counts clause List.mem_cons_self
    have others := ih fun other member => counts other (List.mem_cons_of_mem _ member)
    rw [Clause.allRoutes, Clause.someHasLeaf, List.append_eq_nil_iff, Bool.or_eq_false_iff, first,
      others]

theorem routes_eq_nil_iff (clause : Clause) : clause.routes = [] ↔ clause.hasLeaf = false := by
  induction clause with
  | leaf connector query => simp [Clause.routes, Clause.hasLeaf]
  | group connector clauses ih =>
    rw [Clause.routes, List.map_eq_nil_iff]
    exact allRoutes_eq_nil_iff ih

theorem node?_eq_none_iff_routes (clause : Clause) :
    clause.node? = none ↔ clause.routes = [] := by
  rw [node?_eq_none_iff, routes_eq_nil_iff]

theorem compile_eq_none_iff_routes (clauses : List Clause) :
    compile clauses = none ↔ Clause.allRoutes clauses = [] := by
  have whole := node?_eq_none_iff_routes (.group .must clauses)
  rwa [Clause.routes, List.map_eq_nil_iff] at whole

-- What a clause leaves behind in its list: the connector and the query, cut through by the leaves.
structure Piece where
  connector : Connector
  node : Node
  spread : List (Route × Place)
  cut : Frontier node (·.leaf.node) Route.negations spread

namespace Piece

def part (piece : Piece) : Connector × Node := (piece.connector, piece.node)

def routes (piece : Piece) : List Route := piece.spread.map (·.1.under piece.connector)

end Piece

def Clause.CutByLeaves (clause : Clause) : Prop :=
  ∀ node, clause.node? = some node → ∃ spread : List (Route × Place),
    spread.map (·.1.under clause.connector) = clause.routes ∧
      Frontier node (·.leaf.node) Route.negations spread

theorem exists_pieces {clauses : List Clause} (cut : ∀ clause ∈ clauses, clause.CutByLeaves) :
    ∃ pieces : List Piece, pieces.map Piece.part = Clause.parts clauses ∧
      pieces.flatMap Piece.routes = Clause.allRoutes clauses := by
  induction clauses with
  | nil => exact ⟨[], rfl, rfl⟩
  | cons clause rest ih =>
    have others := fun other member => cut other (List.mem_cons_of_mem clause member)
    obtain ⟨pieces, parts, routes⟩ := ih others
    cases compiled : clause.node? with
    | none =>
      have empty := (node?_eq_none_iff_routes clause).mp compiled
      refine ⟨pieces, ?_, ?_⟩
      · rw [parts, Clause.parts_cons_of_none compiled]
      · rw [routes, Clause.allRoutes, empty, List.nil_append]
    | some node =>
      obtain ⟨spread, ends, frontier⟩ := cut clause List.mem_cons_self node compiled
      refine ⟨⟨clause.connector, node, spread, frontier⟩ :: pieces, ?_, ?_⟩
      · rw [List.map_cons, parts, Clause.parts_cons_of_some compiled]
        rfl
      · rw [List.flatMap_cons, routes, Clause.allRoutes, ← ends]
        rfl

theorem compile_cut {clauses : List Clause} (cut : ∀ clause ∈ clauses, clause.CutByLeaves)
    {node : Node} (compiled : compile clauses = some node) : ∃ spread : List (Route × Place),
    spread.map (·.1) = Clause.allRoutes clauses ∧
      Frontier node (·.leaf.node) Route.negations spread := by
  obtain ⟨pieces, parts, routes⟩ := exists_pieces cut
  rw [compile, ← parts] at compiled
  obtain ⟨spread, items, outer⟩ := frontier_of_assemble compiled
  have whole : Frontier node (·.leaf.node) Route.negations
      (Frontier.grafted (fun piece route => route.under piece.connector) Piece.spread spread) :=
    outer.graft _ (fun entry _ => entry.1.cut) fun _ _ => ⟨rfl, Route.negations_under _ _⟩
  refine ⟨_, ?_, whole⟩
  rw [Frontier.map_fst_grafted, items, ← routes]
  rfl

theorem cutByLeaves (clause : Clause) : clause.CutByLeaves := by
  induction clause with
  | leaf connector query =>
    intro node compiled
    cases compiled
    exact ⟨[(⟨[], query⟩, [])], rfl, .root rfl rfl⟩
  | group connector clauses ih =>
    intro node compiled
    obtain ⟨spread, items, cut⟩ := compile_cut ih compiled
    refine ⟨spread, ?_, cut⟩
    rw [Clause.routes, ← items, List.map_map]
    rfl

namespace Leaf

inductive StandsFor : Leaf → Node → Prop where
  | term (field : String) (value : Json) : StandsFor (.term field value) (.term field value)
  | range (field : String) (bounds : RangeBounds) :
    StandsFor (.range field bounds) (.range field bounds)
  | matchPhrase (field : String) (phrase : Json) :
    StandsFor (.matchPhrase field phrase) (.matchPhrase field phrase)
  | present (field : String) : StandsFor (.present field) (.present field)
  | raw (node : Node) : StandsFor (.raw node) node

theorem standsFor_iff {leaf : Leaf} {node : Node} : leaf.StandsFor node ↔ node = leaf.node := by
  constructor
  · rintro (_ | _ | _ | _ | _) <;> rfl
  · rintro rfl
    cases leaf <;> constructor

def isRaw : Leaf → Bool
  | .raw _ => true
  | _ => false

theorem isBool_node {leaf : Leaf} (modelled : leaf.isRaw = false) : leaf.node.isBool = false := by
  cases leaf with
  | raw node => cases modelled
  | _ => rfl

end Leaf

def rawPlaces (placed : List (Route × Place)) : List Place :=
  (placed.filter (·.1.leaf.isRaw)).map (·.2)

theorem mem_rawPlaces {placed : List (Route × Place)} {place : Place} :
    place ∈ rawPlaces placed ↔
      ∃ entry, (entry ∈ placed ∧ entry.1.leaf.isRaw = true) ∧ entry.2 = place := by
  rw [rawPlaces, List.mem_map]
  simp only [List.mem_filter]

theorem Frontier.standing {root : Node} {placed : List (Route × Place)}
    (cut : Frontier root (·.leaf.node) Route.negations placed) {entry : Route × Place}
    (inside : entry ∈ placed) :
    ∃ node, root.at? entry.2 = some node ∧ entry.1.leaf.StandsFor node :=
  ⟨_, cut.found entry inside, Leaf.standsFor_iff.mpr rfl⟩

theorem Frontier.leafAt_iff {root : Node} {placed : List (Route × Place)}
    (cut : Frontier root (·.leaf.node) Route.negations placed) (place : Place) :
    place ∈ placed.map (·.2) ↔ root.LeafAt (rawPlaces placed) place := by
  constructor
  · intro member
    obtain ⟨entry, inside, rfl⟩ := List.mem_map.mp member
    refine ⟨_, cut.found entry inside, ?_, ?_⟩
    · cases modelled : entry.1.leaf.isRaw with
      | true => exact .inl (mem_rawPlaces.mpr ⟨entry, ⟨inside, modelled⟩, rfl⟩)
      | false => exact .inr (Leaf.isBool_node modelled)
    · intro raw member above
      obtain ⟨other, ⟨outside, _⟩, rfl⟩ := mem_rawPlaces.mp member
      exact cut.apart outside inside above
  · rintro ⟨node, found, single, alone⟩
    obtain ⟨entry, inside, above | ⟨rest, rfl⟩⟩ := cut.complete place node found
    · rcases single with raw | single
      · obtain ⟨other, ⟨outside, _⟩, rfl⟩ := mem_rawPlaces.mp raw
        exact List.mem_map_of_mem outside
      · obtain ⟨rest, whole⟩ := above
        have inner := cut.found entry inside
        rw [← whole, Node.at?_append, found, Option.bind_some] at inner
        rw [Node.eq_nil_of_at? single inner, List.append_nil] at whole
        rw [whole]
        exact List.mem_map_of_mem inside
    · rw [Node.at?_append, cut.found entry inside, Option.bind_some] at found
      cases modelled : entry.1.leaf.isRaw with
      | true =>
        have raw : entry.2 ∈ rawPlaces placed := mem_rawPlaces.mpr ⟨entry, ⟨inside, modelled⟩, rfl⟩
        rw [← alone _ raw (List.prefix_append _ _)]
        exact List.mem_map_of_mem inside
      | false =>
        rw [Node.eq_nil_of_at? (Leaf.isBool_node modelled) found, List.append_nil]
        exact List.mem_map_of_mem inside

-- Places are listed in the order of the clauses; all of them part, and no leaf of the query is
-- at any other place.
theorem compiled_leaves_correspond (clauses : List Clause) :
    (compile clauses = none ↔ Clause.allRoutes clauses = []) ∧
    ∀ root, compile clauses = some root → ∃ placed : List (Route × Place),
      placed.map (·.1) = Clause.allRoutes clauses ∧
      (∀ entry ∈ placed, (∃ node, root.at? entry.2 = some node ∧ entry.1.leaf.StandsFor node) ∧
        entry.2.negations = entry.1.negations) ∧
      placed.Pairwise (fun first second => first.2.Before second.2) ∧
      ∀ place, place ∈ placed.map (·.2) ↔ root.LeafAt (rawPlaces placed) place := by
  constructor
  · exact compile_eq_none_iff_routes clauses
  · intro root compiled
    obtain ⟨placed, items, cut⟩ := compile_cut (fun clause _ => cutByLeaves clause) compiled
    refine ⟨placed, items, ?_, cut.parted, cut.leafAt_iff⟩
    intro entry member
    exact ⟨cut.standing member, cut.negated entry member⟩

theorem leaf_of_negated_group_negated_twice :
    let adult : RangeBounds := ⟨some (.nat 18), none, none, some (.nat 65)⟩
    let clauses : List Clause := [.term "state" (.string "open"), .group .mustNot
      [.leaf .should (.range "age" adult), .leaf .mustNot (.matchPhrase "name" (.string "ann"))]]
    ∃ root, compile clauses = some root ∧ ∃ places : List Place,
      places.map root.at? = [some (.term "state" (.string "open")), some (.range "age" adult),
        some (.matchPhrase "name" (.string "ann"))] ∧
      places.map Place.negations = [0, 1, 2] := by
  intro adult clauses
  refine ⟨_, rfl, ?_⟩
  obtain ⟨placed, items, agree, _⟩ := (compiled_leaves_correspond clauses).2 _ rfl
  have nodes : placed.map (fun entry => some entry.1.leaf.node) =
      (Clause.allRoutes clauses).map (fun route => some route.leaf.node) := by
    rw [← items, List.map_map]
    rfl
  have counts : placed.map (·.1.negations) = (Clause.allRoutes clauses).map Route.negations := by
    rw [← items, List.map_map]
    rfl
  refine ⟨placed.map (·.2), ?_, ?_⟩
  · rw [List.map_map]
    refine (List.map_congr_left fun entry member => ?_).trans nodes
    obtain ⟨⟨node, found, stands⟩, _⟩ := agree entry member
    rw [Function.comp_apply, found, Leaf.standsFor_iff.mp stands]
  · rw [List.map_map]
    exact (List.map_congr_left fun entry member => (agree entry member).2).trans counts

end SearchQuery
