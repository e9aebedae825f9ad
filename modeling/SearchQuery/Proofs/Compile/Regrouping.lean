import Mathlib.Logic.Relation
import SearchQuery.Proofs.Compile.Meaning
import SearchQuery.Proofs.Compile.Rendering

namespace SearchQuery

-- Groups that say nothing of their own. Taking one away or putting one in, at whatever depth,
-- leaves the compiled query as it is: what counts in a list is what its clauses leave behind.

namespace Clause

inductive Regroups : List Clause → List Clause → Prop where
  | drop (connector : Connector) {clauses : List Clause} (empty : someHasLeaf clauses = false)
      (rest : List Clause) : Regroups (.group connector clauses :: rest) rest
  | unwrap (connector : Connector) {child : Clause} (positive : child.connector ≠ .mustNot)
      (rest : List Clause) :
      Regroups (.group connector [child] :: rest) (child.withConnector connector :: rest)
  | inside (connector : Connector) {clauses others : List Clause}
      (step : Regroups clauses others) (rest : List Clause) :
      Regroups (.group connector clauses :: rest) (.group connector others :: rest)
  | later (clause : Clause) {rest others : List Clause} (step : Regroups rest others) :
      Regroups (clause :: rest) (clause :: others)

-- The same for a search as a whole, which may also become the only group of a list.
inductive Restates : List Clause → List Clause → Prop where
  | within {clauses others : List Clause} (step : Regroups clauses others) :
      Restates clauses others
  | whole {connector : Connector} (positive : connector ≠ .mustNot) (clauses : List Clause) :
      Restates clauses [.group connector clauses]

def Restated : List Clause → List Clause → Prop := Relation.EqvGen Restates

theorem parts_cons_congr {clause other : Clause} {rest others : List Clause}
    (connected : clause.connector = other.connector) (compiled : clause.node? = other.node?)
    (following : parts rest = parts others) : parts (clause :: rest) = parts (other :: others) := by
  cases left : other.node? with
  | none =>
    rw [parts_cons_of_none left, parts_cons_of_none (compiled.trans left)]
    exact following
  | some node =>
    rw [parts_cons_of_some left, parts_cons_of_some (compiled.trans left), connected, following]

@[simp] theorem node?_withConnector (clause : Clause) (connector : Connector) :
    (clause.withConnector connector).node? = clause.node? := by
  cases clause <;> rfl

-- A group of one clause is that clause, unless the clause must not match.
theorem node?_group_single {child : Clause} (positive : child.connector ≠ .mustNot)
    (connector : Connector) : (group connector [child]).node? = child.node? := by
  rw [node?]
  cases compiled : child.node? with
  | none =>
    rw [parts_cons_of_none compiled]
    rfl
  | some node =>
    rw [parts_cons_of_some compiled]
    exact assemble_bare positive node

theorem parts_regrouped {first second : List Clause} (step : Regroups first second) :
    parts first = parts second := by
  induction step with
  | @drop connector clauses empty rest =>
    have leafless : (group connector clauses).hasLeaf = false := empty
    exact parts_cons_of_none (node?_eq_none_iff.mpr leafless) rest
  | @unwrap connector child positive rest =>
    apply parts_cons_congr
    · exact (connector_withConnector child connector).symm
    · rw [node?_withConnector, node?_group_single positive]
    · rfl
  | @inside connector clauses others step rest same =>
    have compiled : (group connector clauses).node? = (group connector others).node? := by
      rw [node?, node?, same]
    exact parts_cons_congr rfl compiled rfl
  | later clause step same => exact parts_cons_congr rfl rfl same

theorem compile_of_restates {first second : List Clause} (step : Restates first second) :
    compile first = compile second := by
  cases step with
  | within step => rw [compile, compile, parts_regrouped step]
  | @whole connector positive =>
    have connected : (group connector first).connector ≠ .mustNot := positive
    exact (node?_group_single connected .must).symm

end Clause

theorem compile_ignores_regrouping {first second : List Clause}
    (related : Clause.Restated first second) : compile first = compile second := by
  induction related with
  | rel first second step => exact Clause.compile_of_restates step
  | refl clauses => rfl
  | symm first second _ same => exact same.symm
  | trans first middle last _ _ same next => exact same.trans next

theorem alternatives_through_groups :
    let first : List Clause := [.present "email",
      .group .should [.group .mustNot [.group .must []], .present "phone"]]
    let second : List Clause := [.group .should [.present "email", .leaf .should (.present "phone")]]
    Clause.Restated first second ∧ compile first = compile second ∧
      compile second = some (.bool [] [.present "email", .present "phone"] []) := by
  intro first second
  have emptied : Clause.Restates first
      [.present "email", .group .should [.present "phone"]] :=
    .within (.later _ (.inside _ (.drop _ rfl _) _))
  have unwrapped : Clause.Restates [.present "email", .group .should [.present "phone"]]
      [.present "email", .leaf .should (.present "phone")] :=
    .within (.later _ (.unwrap .should (by decide) []))
  have wrapped : Clause.Restates [.present "email", .leaf .should (.present "phone")] second :=
    .whole (by decide) _
  have related : Clause.Restated first second :=
    .trans _ _ _ (.rel _ _ emptied) (.trans _ _ _ (.rel _ _ unwrapped) (.rel _ _ wrapped))
  exact ⟨related, compile_ignores_regrouping related, rfl⟩

end SearchQuery
