import SearchQuery.Proofs.Storage.Grammar

namespace SearchQuery

namespace Clause
open Grammar

-- What comes of meeting some clauses in order: an answer if all are in order, else the error of the
-- first that is not.
def Reports {α : Type} (visited : List Json) (result : Except Error α) : Prop :=
  match visited.find? fun value => !locallyValid value with
  | none => ∃ answer, result = .ok answer
  | some offender => ∃ error, ofJson offender = .error error ∧ result = .error error

theorem Reports.append {α β γ : Type} {before after : List Json} {first : Except Error α}
    {second : Except Error β} (join : α → β → γ) (reports : Reports before first)
    (reportsNext : Reports after second) :
    Reports (before ++ after) (do
      let a ← first
      let b ← second
      return join a b) := by
  unfold Reports at *
  rw [List.find?_append]
  cases found : before.find? fun value => !locallyValid value with
  | some offender =>
    rw [found] at reports
    obtain ⟨error, alone, failed⟩ := reports
    exact ⟨error, alone, by rw [failed]; rfl⟩
  | none =>
    rw [found] at reports
    obtain ⟨a, passed⟩ := reports
    rw [Option.none_or, passed]
    cases later : after.find? fun value => !locallyValid value with
    | some offender =>
      rw [later] at reportsNext
      obtain ⟨error, alone, failed⟩ := reportsNext
      exact ⟨error, alone, by rw [failed]; rfl⟩
    | none =>
      rw [later] at reportsNext
      obtain ⟨b, passedNext⟩ := reportsNext
      exact ⟨join a b, by rw [passedNext]; rfl⟩

theorem Reports.map {α β : Type} {visited : List Json} {first : Except Error α} (wrap : α → β)
    (reports : Reports visited first) : Reports visited (do return wrap (← first)) := by
  have nothing : Reports [] (.ok () : Except Error Unit) := ⟨(), rfl⟩
  have whole := reports.append (fun answer _ => wrap answer) nothing
  rw [List.append_nil] at whole
  exact whole

theorem listOfItems_reports {items : List Json}
    (each : ∀ item ∈ items, Reports (preorder item) (ofJson item)) :
    Reports (preorderItems items) (listOfItems items) := by
  induction items with
  | nil => exact ⟨[], rfl⟩
  | cons item rest ih =>
    have first := each item (List.mem_cons_self ..)
    have others := ih fun other member => each other (List.mem_cons_of_mem _ member)
    exact first.append List.cons others

theorem reports_refused {value : Json} (refused : locallyValid value = false)
    (children : List Json) : Reports (value :: children) (ofJson value) := by
  obtain ⟨error, failed, _⟩ := ofJson_refused refused
  unfold Reports
  rw [List.find?_cons_of_pos (by simpa using refused)]
  exact ⟨error, failed, failed⟩

theorem reports_valid {α : Type} {value : Json} {children : List Json} {result : Except Error α}
    (valid : locallyValid value = true) (reports : Reports children result) :
    Reports (value :: children) result := by
  unfold Reports at *
  rwa [List.find?_cons_of_neg (by simpa using valid)]

theorem ofJson_reports (value : Json) : Reports (preorder value) (ofJson value) := by
  induction value using value_induction with
  | other value foreign =>
    obtain ⟨children, visited⟩ := preorder_head value
    rw [visited]
    refine reports_refused ?_ children
    cases value with
    | object fields => exact absurd rfl (foreign fields)
    | null | bool | number | string | array => rfl
  | object fields ih =>
    rw [preorder]
    cases valid : locallyValid (.object fields) with
    | false => exact reports_refused valid _
    | true =>
      refine reports_valid valid ?_
      rcases ofJson_valid valid with ⟨single, clause, read⟩ |
        ⟨nested, connector, items, found, read⟩
      · rw [if_neg single, read]
        exact ⟨clause, rfl⟩
      · rw [if_pos nested, preorderMember_eq_lookup, found, read]
        exact (listOfItems_reports (ih items found)).map _

end Clause

open Grammar in
-- A value is read if and only if it is an array whose clauses, met in preorder, are all in order.
-- Otherwise the first of them that is not in order is what is reported.
theorem first_offender_reported (value : Json) :
    ((∀ items, value ≠ .array items) →
      clausesOfJson value = .error (.invalidClause .notAList)) ∧
    ∀ items, value = .array items →
      ((∃ clauses, clausesOfJson value = .ok clauses) ↔
        ∀ clause ∈ preorderItems items, locallyValid clause = true) ∧
      ∀ offender, (preorderItems items).find? (fun clause => !locallyValid clause) = some offender →
        ∃ error, clausesOfJson value = .error error ∧ Clause.ofJson offender = .error error ∧
          Offence offender error := by
  refine ⟨?_, ?_⟩
  · intro foreign
    cases value with
    | array items => exact absurd rfl (foreign items)
    | null | bool | number | string | object => rfl
  · rintro items rfl
    have reports := Clause.listOfItems_reports fun item (_ : item ∈ items) =>
      Clause.ofJson_reports item
    unfold Clause.Reports at reports
    refine ⟨?_, ?_⟩
    · cases first : (preorderItems items).find? fun clause => !locallyValid clause with
      | none =>
        rw [first] at reports
        refine ⟨fun _ clause member => ?_, fun _ => reports⟩
        simpa using List.find?_eq_none.mp first clause member
      | some offender =>
        rw [first] at reports
        obtain ⟨error, _, failed⟩ := reports
        refine ⟨?_, ?_⟩
        · rintro ⟨clauses, read⟩
          cases failed.symm.trans read
        · intro valid
          have refused := List.find?_some first
          simp [valid offender (List.mem_of_find?_eq_some first)] at refused
    · intro offender first
      rw [first] at reports
      obtain ⟨error, alone, failed⟩ := reports
      have refused : locallyValid offender = false := by simpa using List.find?_some first
      obtain ⟨cause, caused, offence⟩ := Clause.ofJson_refused refused
      cases alone.symm.trans caused
      exact ⟨error, failed, alone, offence⟩

-- A fault below a group comes before one beside it.
example : clausesOfJson (.array [.object [("kind", .string "nested"),
      ("clauses", .array [.object [("kind", .string "geo_shape")]])], .null]) =
    .error (.unsupportedOperator "geo_shape") := rfl

end SearchQuery
