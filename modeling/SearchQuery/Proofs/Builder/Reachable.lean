import SearchQuery.Proofs.Builder.Depth
import SearchQuery.Proofs.Builder.Operators
import SearchQuery.Proofs.Compile.Meaning
import SearchQuery.Proofs.Storage.RoundTrip

namespace SearchQuery

-- What is true of the clauses of every builder that calls lead to. A clause that is put in as it is
-- may be anything, so the calls that do that are left out here, in groups and in scopes as well.

mutual
def Clause.groups : Clause → List (List Clause)
  | .leaf _ _ => []
  | .group _ clauses => clauses :: Clause.allGroups clauses
def Clause.allGroups : List Clause → List (List Clause)
  | [] => []
  | clause :: rest => Clause.groups clause ++ Clause.allGroups rest
end

theorem Clause.allGroups_eq_flatMap (clauses : List Clause) :
    Clause.allGroups clauses = clauses.flatMap Clause.groups := by
  induction clauses with
  | nil => rfl
  | cons clause rest ih => simp [Clause.allGroups, ih]

def GroupsFilled (clauses : List Clause) : Prop :=
  ∀ members ∈ Clause.allGroups clauses, members ≠ []

structure ClausesSound (clauses : List Clause) : Prop where
  ranges : RangesBounded clauses
  groups : GroupsFilled clauses

namespace ClausesSound

theorem nil : ClausesSound [] := ⟨nofun, nofun⟩

theorem append {first second : List Clause} (soundFirst : ClausesSound first)
    (soundSecond : ClausesSound second) : ClausesSound (first ++ second) := by
  constructor
  · intro field bounds member
    rw [Clause.allLeaves_eq_flatMap, List.flatMap_append, List.mem_append] at member
    simp only [← Clause.allLeaves_eq_flatMap] at member
    exact member.elim (soundFirst.ranges field bounds) (soundSecond.ranges field bounds)
  · intro members member
    rw [Clause.allGroups_eq_flatMap, List.flatMap_append, List.mem_append] at member
    simp only [← Clause.allGroups_eq_flatMap] at member
    exact member.elim (soundFirst.groups members) (soundSecond.groups members)

theorem leaf (connector : Connector) {query : Leaf} (bounded : query.bounded = true) :
    ClausesSound [.leaf connector query] := by
  constructor
  · intro field bounds member
    have same : Leaf.range field bounds = query := by
      simpa [Clause.allLeaves, Clause.leaves] using member
    subst same
    rw [← RangeBounds.isEmpty_eq_false_iff]
    simpa [Leaf.bounded] using bounded
  · intro members member
    simp [Clause.allGroups, Clause.groups] at member

theorem group (connector : Connector) {members : List Clause} (sound : ClausesSound members)
    (filled : members ≠ []) : ClausesSound [.group connector members] := by
  constructor
  · intro field bounds member
    exact sound.ranges field bounds (by simpa [Clause.allLeaves, Clause.leaves] using member)
  · intro others member
    have found : others = members ∨ others ∈ Clause.allGroups members := by
      simpa [Clause.allGroups, Clause.groups] using member
    rcases found with rfl | deeper
    · exact filled
    · exact sound.groups others deeper

end ClausesSound

theorem sound_of_normalize {field token : String} {value : Option Json} {connector : Connector}
    {clause : Clause} (made : Clause.normalize field token value connector = .ok clause) :
    ClausesSound [clause] := by
  rcases Clause.normalize_answers field token value with ⟨_, _, fails⟩ | ⟨_, query, leaf, makes⟩
  · rw [fails] at made
    cases made
  · rw [makes] at made
    cases made
    cases leaf with
    | term | phrase => exact .leaf _ rfl
    | range filled => exact .leaf _ (by simp [Leaf.bounded, filled])

namespace Call

theorem sound_of_clause {call : Call} {clause : Clause}
    (made : call.clause? = some (.ok clause)) (own : ∀ prepared, call ≠ .addClause prepared) :
    ClausesSound [clause] := by
  cases call with
  | addClause prepared => exact absurd rfl (own prepared)
  | whereOp | whereWith | whereText => exact sound_of_normalize (Option.some.inj made)
  | whereEq | whereNotNull | whereRaw => cases made; exact .leaf _ rfl
  | whereBetween =>
    cases made
    exact .leaf _ (by simp [Leaf.bounded, RangeBounds.isEmpty_between])
  | _ => cases made

-- No clause is put in as it is, neither by the call nor by what it is made of.
inductive Fluent : Call → Prop where
  | intro {call : Call} (own : ∀ prepared, call ≠ .addClause prepared)
      (inside : ∀ inner, Within inner call → Fluent inner) : Fluent call

theorem Fluent.own {call : Call} (fluent : call.Fluent) (prepared : Clause) :
    call ≠ .addClause prepared := by
  cases fluent with
  | intro own => exact own prepared

theorem Fluent.inside {call inner : Call} (fluent : call.Fluent) (within : inner.Within call) :
    inner.Fluent := by
  cases fluent with
  | intro _ inside => exact inside inner within

end Call

namespace Registry

def Fluent (registry : Registry) : Prop :=
  ∀ name scope, registry.lookup name = some scope → ∀ args, ∀ call ∈ scope args, call.Fluent

theorem fluent_nil : Fluent [] := nofun

theorem fluent_ofList {scopes : List (String × Scope)}
    (answers : ∀ entry ∈ scopes, ∀ args, ∀ call ∈ entry.2 args, call.Fluent) :
    (ofList scopes).Fluent := by
  intro name scope known
  exact answers _ (mem_of_lookup_ofList known)

end Registry

namespace Builder

structure Sound (b : Builder) : Prop where
  clauses : ClausesSound b.clauses
  scopes : b.scopes.Fluent

theorem Sound.newSearch {b : Builder} (sound : b.Sound) : b.newSearch.Sound := ⟨.nil, sound.scopes⟩

theorem Sound.addClause {b : Builder} (sound : b.Sound) {clause : Clause}
    (added : ClausesSound [clause]) : (b.addClause clause).Sound :=
  ⟨sound.clauses.append added, sound.scopes⟩

theorem Sound.absorb {b group : Builder} (sound : b.Sound) (connector : Connector)
    (grouped : group.Sound) : (b.absorb connector group).Sound := by
  unfold Builder.absorb
  split
  · exact sound
  · rename_i filled
    exact sound.addClause (.group connector grouped.clauses (by simpa using filled))

-- A sound builder beside itself: fluent calls leave it sound, whatever depth they need.
theorem lockstep_sound : Lockstep (fun b c => b = c ∧ b.Sound) Call.Fluent where
  inside fluent within := fluent.inside within
  scopes side := side.1 ▸ rfl
  answers side known := side.2.scopes _ _ known
  clause := by
    rintro b _ call clause ⟨rfl, sound⟩ fluent makes
    exact ⟨rfl, sound.addClause (Call.sound_of_clause makes fluent.own)⟩
  setting := by
    rintro b _ call change ⟨rfl, sound⟩ _ sets
    exact ⟨rfl, (Call.clauses_of_setting sets).symm ▸ sound.clauses,
      (Call.scopes_of_setting sets).symm ▸ sound.scopes⟩
  newSearch := by
    rintro b _ ⟨rfl, sound⟩
    exact ⟨rfl, sound.newSearch⟩
  absorb := by
    rintro b _ group _ ⟨rfl, sound⟩ connector ⟨rfl, grouped⟩
    exact ⟨rfl, sound.absorb connector grouped⟩
  withScopes := by
    rintro b _ scopes ⟨rfl, sound⟩ fluent
    exact ⟨rfl, sound.clauses, Registry.fluent_ofList
      fun entry member args call answered => fluent.inside (.scope member answered)⟩

inductive Start : Builder → Prop where
  | target (target : Target) : Start (.ofTarget target)
  | settings (settings : Settings) : Start (.ofSettings settings)
  | model (model : Searchable) (fluent : model.scopes.Fluent) : Start model.search

theorem Start.sound {b : Builder} (start : b.Start) : b.Sound := by
  cases start with
  | target => exact ⟨.nil, Registry.fluent_nil⟩
  | settings => exact ⟨.nil, Registry.fluent_nil⟩
  | model _ fluent => exact ⟨.nil, fluent⟩

def Reached (b : Builder) : Prop :=
  ∃ start calls, Start start ∧ (∀ call ∈ calls, call.Fluent) ∧ start.EndsIn calls b

theorem Reached.sound {b : Builder} (reached : b.Reached) : b.Sound := by
  obtain ⟨start, calls, begun, fluent, depth, ran⟩ := reached
  have kept := run_follows lockstep_sound (Nat.le_refl depth) fluent ⟨rfl, begun.sound⟩
  rw [ran] at kept
  cases kept with
  | ok side => exact side.2

end Builder

theorem isSome_compile (clauses : List Clause) :
    (compile clauses).isSome = clauses.any Clause.hasLeaf := by
  unfold compile
  rw [isSome_assemble, Clause.isEmpty_parts, Bool.not_not]
  simp only [isSome_node?]

theorem hasLeaf_of_filled (clause : Clause) (filled : GroupsFilled [clause]) :
    clause.hasLeaf = true := by
  induction clause with
  | leaf connector query => rfl
  | group connector members ih =>
    have first : members ≠ [] := filled members (by simp [Clause.allGroups, Clause.groups])
    obtain ⟨member, rest, rfl⟩ := List.exists_cons_of_ne_nil first
    have deeper : GroupsFilled [member] := by
      intro others inside
      refine filled others ?_
      simp only [Clause.allGroups, Clause.groups, List.append_nil] at inside ⊢
      exact List.mem_cons_of_mem _ (List.mem_append_left _ inside)
    rw [Clause.hasLeaf, Clause.someHasLeaf, ih member (List.mem_cons_self ..) deeper, Bool.true_or]

theorem isSome_compile_of_filled {clauses : List Clause} (filled : GroupsFilled clauses) :
    (compile clauses).isSome = !clauses.isEmpty := by
  rw [isSome_compile]
  cases clauses with
  | nil => rfl
  | cons clause rest =>
    have first : clause.hasLeaf = true := by
      refine hasLeaf_of_filled clause ?_
      intro members member
      refine filled members ?_
      simp only [Clause.allGroups, List.append_nil] at member ⊢
      exact List.mem_append_left _ member
    simp [first]

theorem reached_builder_sound {b : Builder} (reached : b.Reached) :
    RangesBounded b.clauses ∧ GroupsFilled b.clauses ∧
    (b.hasWhere = true ↔ ∃ query, b.compile = some query) ∧
    ∃ restored, clausesOfJson (clausesToJson b.clauses) = .ok restored ∧
      (compile restored).map Node.toJson = b.compile.map Node.toJson := by
  obtain ⟨ranges, groups⟩ := reached.sound.clauses
  refine ⟨ranges, groups, ?_, Clause.allSettled b.clauses, ?_, compile_allSettled b.clauses⟩
  · rw [← Option.isSome_iff_exists, Builder.compile, isSome_compile_of_filled groups]
    rfl
  · rw [clausesOfJson_clausesToJson, if_pos (all_bounded_iff.mpr ranges)]

theorem reached_through_scope_in_group :
    let adults : Scope := fun _ => [.whereOp .must "age" ">=" (.string "18")]
    let calls : List Call := [.withScopes [("adults", adults)],
      .tryWhereNested .should [.scope "adults" []], .whereNested .must [], .forPage 0 0]
    let start := Builder.ofTarget ⟨"people", none⟩
    ∃ b, start.EndsIn calls b ∧ b.Reached ∧ ∃ query, b.compile = some query := by
  intro adults calls start
  have fluent : ∀ call ∈ calls, call.Fluent := by
    simp only [calls, List.forall_mem_cons, List.not_mem_nil, false_imp_iff, implies_true, and_true]
    refine ⟨.intro nofun ?registry, .intro nofun ?group, .intro nofun nofun, .intro nofun nofun⟩
    case registry =>
      rintro inner (_ | _ | ⟨entry, member⟩)
      obtain ⟨_, rfl⟩ := Prod.mk.inj (List.mem_singleton.mp entry)
      cases List.mem_singleton.mp member
      exact .intro nofun nofun
    case group =>
      rintro inner (_ | ⟨member⟩ | _)
      cases List.mem_singleton.mp member
      exact .intro nofun nofun
  have ends : start.EndsIn calls _ := ⟨2, rfl⟩
  have reached : Builder.Reached _ := ⟨start, calls, .target _, fluent, ends⟩
  obtain ⟨_, _, filled, _⟩ := reached_builder_sound reached
  exact ⟨_, ends, reached, filled.mp rfl⟩

end SearchQuery
