import Mathlib.Data.List.Pairwise
import SearchQuery.Clause.Compile
import SearchQuery.Node.Place

namespace SearchQuery

-- Items spread over a query: each stands for the part of the query at its place, and the places cut
-- the query through, so that whatever is in it is above, at or inside one of them.
structure Frontier {γ : Type} (root : Node) (stands : γ → Node) (negations : γ → Nat)
    (spread : List (γ × Place)) : Prop where
  found : ∀ entry ∈ spread, root.at? entry.2 = some (stands entry.1)
  negated : ∀ entry ∈ spread, entry.2.negations = negations entry.1
  parted : spread.Pairwise fun first second => first.2.Before second.2
  complete : ∀ place node, root.at? place = some node →
    ∃ entry ∈ spread, place <+: entry.2 ∨ entry.2 <+: place
  filled : ∀ entry ∈ spread, ∀ upper step lower, entry.2 = upper ++ step :: lower →
    ∃ node, root.at? upper = some node ∧ node.WellFilled

namespace Frontier

theorem root {γ : Type} {stands : γ → Node} {negations : γ → Nat} {item : γ} {node : Node}
    (same : stands item = node) (positive : negations item = 0) :
    Frontier node stands negations [(item, [])] where
  found := by simp [Node.at?, same]
  negated := by simp [Place.negations, positive]
  parted := List.pairwise_singleton _ _
  complete place _ _ := ⟨_, List.mem_singleton_self _, .inr List.nil_prefix⟩
  filled := by simp

section

variable {γ δ ε : Type} {root : Node} {stands : γ → Node} {negations : γ → Nat}
  {spread : List (γ × Place)} {part : δ → Node} {partNegations : δ → Nat}
  {inner : γ → List (δ × Place)} {joined : ε → Node} {joinedNegations : ε → Nat}

def grafted (join : γ → δ → ε) (inner : γ → List (δ × Place)) (spread : List (γ × Place)) :
    List (ε × Place) :=
  spread.flatMap fun entry => (inner entry.1).map fun below =>
    (join entry.1 below.1, entry.2 ++ below.2)

theorem map_fst_grafted (join : γ → δ → ε) :
    (grafted join inner spread).map (·.1) =
      (spread.map (·.1)).flatMap fun item => (inner item).map fun below => join item below.1 := by
  rw [grafted, List.map_flatMap, List.flatMap_map]
  simp only [List.map_map, Function.comp_def]

theorem mem_grafted {join : γ → δ → ε} {entry : ε × Place} :
    entry ∈ grafted join inner spread ↔ ∃ upper ∈ spread, ∃ below ∈ inner upper.1,
      (join upper.1 below.1, upper.2 ++ below.2) = entry := by
  simp only [grafted, List.mem_flatMap, List.mem_map]

theorem graft (join : γ → δ → ε) (outer : Frontier root stands negations spread)
    (inside : ∀ entry ∈ spread, Frontier (stands entry.1) part partNegations (inner entry.1))
    (joins : ∀ item below, joined (join item below) = part below ∧
      joinedNegations (join item below) = negations item + partNegations below) :
    Frontier root joined joinedNegations (grafted join inner spread) where
  found := by
    intro entry member
    obtain ⟨upper, above, below, within, rfl⟩ := mem_grafted.mp member
    rw [Node.at?_append, outer.found upper above, Option.bind_some,
      (inside upper above).found below within, (joins _ _).1]
  negated := by
    intro entry member
    obtain ⟨upper, above, below, within, rfl⟩ := mem_grafted.mp member
    rw [(joins _ _).2, ← outer.negated upper above, ← (inside upper above).negated below within]
    exact List.countP_append
  parted := by
    rw [grafted, List.pairwise_flatMap]
    constructor
    · intro upper above
      rw [List.pairwise_map]
      exact (inside upper above).parted.imp fun parted => parted.under upper.2
    · refine outer.parted.imp ?_
      intro first second parted one before two after
      obtain ⟨_, _, rfl⟩ := List.mem_map.mp before
      obtain ⟨_, _, rfl⟩ := List.mem_map.mp after
      exact parted.append _ _
  complete := by
    intro place node found
    obtain ⟨upper, above, higher | lower⟩ := outer.complete place node found
    · obtain ⟨below, within, _⟩ := (inside upper above).complete [] _ rfl
      exact ⟨_, mem_grafted.mpr ⟨upper, above, below, within, rfl⟩,
        .inl (higher.trans (List.prefix_append _ _))⟩
    · obtain ⟨rest, rfl⟩ := lower
      rw [Node.at?_append, outer.found upper above, Option.bind_some] at found
      obtain ⟨below, within, related⟩ := (inside upper above).complete rest node found
      refine ⟨_, mem_grafted.mpr ⟨upper, above, below, within, rfl⟩, ?_⟩
      simpa [List.prefix_append_right_inj] using related
  filled := by
    intro entry member upper step lower parts
    obtain ⟨higher, above, below, within, rfl⟩ := mem_grafted.mp member
    have deeper : ∀ rest, upper = higher.2 ++ rest → below.2 = rest ++ step :: lower →
        ∃ node, root.at? upper = some node ∧ node.WellFilled := by
      intro rest under split
      obtain ⟨node, found, full⟩ := (inside higher above).filled below within rest step lower split
      refine ⟨node, ?_, full⟩
      rw [under, Node.at?_append, outer.found higher above, Option.bind_some, found]
    -- What stands above an entry is inside the grafted part, or above the place that it is put at.
    rcases List.append_eq_append_iff.mp parts with ⟨rest, under, split⟩ | ⟨rest, extended, split⟩
    · exact deeper rest under split
    · cases rest with
      | nil => exact deeper [] (by simpa using extended.symm) (by simpa using split.symm)
      | cons first more =>
        obtain ⟨rfl, -⟩ := List.cons.inj split
        exact outer.filled higher above upper step more extended

end

theorem apart {γ : Type} {root : Node} {stands : γ → Node} {negations : γ → Nat}
    {spread : List (γ × Place)} (cut : Frontier root stands negations spread) {first second : γ × Place}
    (one : first ∈ spread) (other : second ∈ spread) (above : first.2 <+: second.2) :
    first.2 = second.2 := by
  let Apart (first second : γ × Place) : Prop :=
    (first.2 <+: second.2 → first.2 = second.2) ∧ (second.2 <+: first.2 → second.2 = first.2)
  have symmetric : Std.Symm Apart := ⟨fun _ _ apart => apart.symm⟩
  have pairs : spread.Pairwise Apart := cut.parted.imp fun parted =>
    ⟨fun above => absurd above parted.not_above.1, fun above => absurd above parted.not_above.2⟩
  exact (pairs.forall_of_forall (fun _ _ => ⟨fun _ => rfl, fun _ => rfl⟩) one other).1 above

end Frontier

theorem bucketOf_append (connector : Connector) (first second : List (Connector × Node)) :
    bucketOf connector (first ++ second) = bucketOf connector first ++ bucketOf connector second := by
  simp [bucketOf]

theorem length_bucketOf_snoc (connector : Connector) (parts : List (Connector × Node))
    (last : Connector × Node) :
    (bucketOf connector (parts ++ [last])).length =
      (bucketOf connector parts).length + if last.1 = connector then 1 else 0 := by
  rw [bucketOf_append, List.length_append]
  by_cases same : last.1 = connector <;> simp [bucketOf, same]

def bucketed (parts : List (Connector × Node)) : Node :=
  .bool (bucketOf .must parts) (bucketOf .should parts) (bucketOf .mustNot parts)

theorem entries_bucketed (parts : List (Connector × Node)) (connector : Connector) :
    (bucketed parts).entries connector = bucketOf connector parts := by
  cases connector with
  | must => rfl
  | should => rfl
  | mustNot => rfl

theorem length_buckets (parts : List (Connector × Node)) :
    (bucketOf .must parts).length + (bucketOf .should parts).length +
      (bucketOf .mustNot parts).length = parts.length := by
  induction parts with
  | nil => rfl
  | cons part rest ih =>
    obtain ⟨connector, node⟩ := part
    simp only [bucketOf_cons, List.length_append, List.length_cons]
    cases connector <;> simp <;> omega

theorem wellFilled_bucketed {parts : List (Connector × Node)}
    (mixed : parts.map (·.1) ∉ shortcuts) : (bucketed parts).WellFilled := by
  have total := length_buckets parts
  match parts with
  | [] => simp [shortcuts] at mixed
  | [(.must, node)] => simp [shortcuts] at mixed
  | [(.should, node)] => simp [shortcuts] at mixed
  | [(.mustNot, node)] => exact .inr ⟨rfl, rfl, rfl⟩
  | first :: second :: rest =>
    simp only [List.length_cons] at total
    exact .inl (by omega)

section

variable {γ : Type} {part : γ → Connector × Node} {before : List (Connector × Node)}
  {items : List γ}

-- Where items stand in a bool query: each at the end of what is in its bucket by then.
def slots (part : γ → Connector × Node) : List (Connector × Node) → List γ → List (γ × Place)
  | _, [] => []
  | before, item :: rest =>
    (item, [((part item).1, (bucketOf (part item).1 before).length)]) ::
      slots part (before ++ [part item]) rest

theorem map_fst_slots : (slots part before items).map (·.1) = items := by
  induction items generalizing before with
  | nil => rfl
  | cons item rest ih => rw [slots, List.map_cons, ih]

theorem slots_from {entry : γ × Place} (member : entry ∈ slots part before items) :
    ∃ index, entry.2 = [((part entry.1).1, index)] ∧
      (bucketOf (part entry.1).1 before).length ≤ index := by
  induction items generalizing before with
  | nil => cases member
  | cons item rest ih =>
    rcases List.mem_cons.mp member with rfl | later
    · exact ⟨_, rfl, Nat.le_refl _⟩
    · obtain ⟨index, placed, bound⟩ := ih later
      rw [length_bucketOf_snoc] at bound
      exact ⟨index, placed, by omega⟩

theorem slots_found {entry : γ × Place} (member : entry ∈ slots part before items) :
    (bucketed (before ++ items.map part)).at? entry.2 = some (part entry.1).2 := by
  induction items generalizing before with
  | nil => cases member
  | cons item rest ih =>
    rcases List.mem_cons.mp member with rfl | later
    · simp [Node.at?, entries_bucketed, bucketOf]
    · simpa using ih later

theorem slots_parted :
    (slots part before items).Pairwise fun first second => first.2.Before second.2 := by
  induction items generalizing before with
  | nil => exact .nil
  | cons item rest ih =>
    refine .cons ?_ ih
    intro entry later
    obtain ⟨index, placed, bound⟩ := slots_from later
    rw [placed]
    refine .here ?_
    intro same
    rw [← same, length_bucketOf_snoc, if_pos rfl] at bound
    omega

theorem slots_complete {connector : Connector} {index : Nat}
    (past : (bucketOf connector before).length ≤ index)
    (bound : index < (bucketOf connector (before ++ items.map part)).length) :
    ∃ entry ∈ slots part before items, entry.2 = [(connector, index)] := by
  induction items generalizing before with
  | nil =>
    rw [List.map_nil, List.append_nil] at bound
    omega
  | cons item rest ih =>
    rw [List.map_cons, List.append_cons] at bound
    -- An index that is free after this item is a later one's, any other is this item's own.
    by_cases later : (bucketOf connector (before ++ [part item])).length ≤ index
    · obtain ⟨entry, member, placed⟩ := ih later bound
      exact ⟨entry, List.mem_cons_of_mem _ member, placed⟩
    · rw [length_bucketOf_snoc] at later
      by_cases same : (part item).1 = connector
      · rw [if_pos same] at later
        have first : index = (bucketOf connector before).length := by omega
        exact ⟨_, List.mem_cons_self, by rw [first, same]⟩
      · rw [if_neg same] at later
        omega

theorem frontier_bucketed {negations : γ → Nat} (full : (bucketed (items.map part)).WellFilled)
    (counted : ∀ item ∈ items, negations item = if (part item).1 = .mustNot then 1 else 0) :
    Frontier (bucketed (items.map part)) (fun item => (part item).2) negations
      (slots part [] items) where
  found _ member := slots_found member
  negated := by
    intro entry member
    obtain ⟨index, placed, _⟩ := slots_from member
    have item : entry.1 ∈ (slots part [] items).map (·.1) := List.mem_map_of_mem member
    rw [map_fst_slots] at item
    rw [placed, counted _ item]
    by_cases negative : (part entry.1).1 = .mustNot <;> simp [Place.negations, negative]
  parted := slots_parted
  complete := by
    intro place node found
    cases place with
    | nil =>
      cases items with
      | nil => simp [bucketed, bucketOf, Node.WellFilled] at full
      | cons item rest => exact ⟨_, List.mem_cons_self, .inl List.nil_prefix⟩
    | cons step below =>
      obtain ⟨connector, index⟩ := step
      obtain ⟨entry, inside, _⟩ := Option.bind_eq_some_iff.mp found
      rw [entries_bucketed, ← List.nil_append (items.map part)] at inside
      obtain ⟨bound, _⟩ := List.getElem?_eq_some_iff.mp inside
      obtain ⟨slot, member, placed⟩ := slots_complete (Nat.zero_le _) bound
      refine ⟨slot, member, .inr ?_⟩
      rw [placed]
      exact ⟨below, rfl⟩
  filled := by
    intro entry member upper step lower split
    obtain ⟨index, placed, _⟩ := slots_from member
    have top : upper = [] := by
      rw [placed] at split
      cases upper with
      | nil => rfl
      | cons first rest => simp at split
    rw [top]
    exact ⟨_, rfl, full⟩

-- However a list is put together, its parts cut the query through: a single one is all of it, and
-- "first or second" is the bool query of two alternatives.
theorem frontier_of_assemble {root : Node} (compiled : assemble (items.map part) = some root) :
    ∃ spread, spread.map (·.1) = items ∧ Frontier root (fun item => (part item).2)
      (fun item => if (part item).1 = .mustNot then 1 else 0) spread := by
  rcases assemble_cases (items.map part) with ⟨_, nothing⟩ | ⟨connector, node, positive, one, bare⟩ |
    ⟨first, second, two, pair⟩ | ⟨mixed, buckets⟩
  · rw [nothing] at compiled
    cases compiled
  · rw [bare] at compiled
    cases compiled
    obtain ⟨item, rfl, single⟩ := List.map_eq_singleton_iff.mp one
    refine ⟨[(item, [])], rfl, .root ?_ ?_⟩
    · rw [single]
    · rw [single, if_neg positive]
  · rw [pair] at compiled
    cases compiled
    obtain ⟨one, _, rfl, must, more⟩ := List.map_eq_cons_iff.mp two
    obtain ⟨other, rfl, should⟩ := List.map_eq_singleton_iff.mp more
    -- Both are put into the bucket of alternatives, though the first has to match.
    let alternative (item : γ) : Connector × Node := (.should, (part item).2)
    have buckets : bucketed ([one, other].map alternative) = .bool [] [first, second] [] := by
      simp [bucketed, bucketOf, alternative, must, should]
    refine ⟨slots alternative [] [one, other], map_fst_slots, ?_⟩
    rw [← buckets]
    apply frontier_bucketed
    · rw [buckets]
      exact .inl (Nat.le_refl 2)
    · simp [alternative, must, should]
  · rw [buckets] at compiled
    cases compiled
    exact ⟨_, map_fst_slots, frontier_bucketed (wellFilled_bucketed mixed) fun _ _ => rfl⟩

end

end SearchQuery
