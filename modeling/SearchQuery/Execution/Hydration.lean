import SearchQuery.Execution.RecordStore

namespace SearchQuery

-- From ranked ids to records in the same order.

-- The last position of an id.
def rank? (ids : List String) (id : String) : Option Nat :=
  match ids with
  | [] => none
  | first :: rest =>
    match rank? rest id with
    | some position => some (position + 1)
    | none => if first = id then some 0 else none

theorem rank?_eq_none_iff {ids : List String} {id : String} : rank? ids id = none ↔ id ∉ ids := by
  induction ids with
  | nil => simp [rank?]
  | cons first rest ih =>
    cases later : rank? rest id with
    | some position => simp_all [rank?]
    | none =>
      have absent := ih.mp later
      by_cases same : first = id
      · simp [rank?, later, same]
      · simp [rank?, later, same, absent, Ne.symm same]

theorem getElem?_of_rank? {ids : List String} {id : String} {position : Nat}
    (ranked : rank? ids id = some position) : ids[position]? = some id := by
  induction ids generalizing position with
  | nil => simp [rank?] at ranked
  | cons first rest ih =>
    cases later : rank? rest id with
    | some found =>
      simp only [rank?, later] at ranked
      cases ranked
      simpa using ih later
    | none =>
      simp only [rank?, later] at ranked
      split at ranked
      · rename_i same
        cases ranked
        simp [same]
      · cases ranked

def reorder {ρ : Type} (recordId : ρ → String) (ids : List String) (records : List ρ) : List ρ :=
  let ranked := records.filterMap fun record =>
    (rank? ids (recordId record)).map fun rank => (rank, record)
  (ranked.mergeSort fun a b => a.1 ≤ b.1).map (·.2)

def hydrate {σ ρ : Type} [RecordStore σ ρ] (store : σ) (ids columns : List String) :
    Except Error (List ρ) × σ :=
  if ids.isEmpty then (.ok [], store)
  else
    let (found, after) :=
      (RecordStore.findFromCache store ids).getD (RecordStore.findMany store ids columns)
    (found.map (reorder (RecordStore.recordId store) ids), after)

end SearchQuery
