import SearchQuery.Execution.Basic

namespace SearchQuery

-- Executions as data. A session runs them one after the other on one transport and one store; an
-- execution that fails is answered like any other and does not end the session.
inductive Execution where
  | get (builder : Builder) (columns : List String)
  | first (builder : Builder) (columns : List String)
  | count (builder : Builder)
  | paginate (builder : Builder) (perPage : Option Int) (page : Int) (columns : List String)
  | getRecords (builder : Builder) (columns : List String)
  | firstRecord (builder : Builder) (columns : List String)
  | paginateRecords (builder : Builder) (perPage : Option Int) (page : Int)
      (columns : List String)

inductive Answer (ρ : Type) where
  | page (found : ResultPage)
  | hit (found : Option Hit)
  | number (matching : Nat)
  | hits (page : Paginator Hit)
  | collection (found : Collection ρ)
  | record (found : Option ρ)
  | records (page : Paginator ρ)

structure Session (τ σ : Type) where
  transport : τ
  store : σ

section

variable {τ σ ρ : Type} [Transport τ] [RecordStore σ ρ]

def Execution.perform (execution : Execution) (session : Session τ σ) :
    Except Error (Answer ρ) × Session τ σ :=
  match execution with
  | .get builder columns =>
    let (found, transport) := builder.get session.transport columns
    (found.map .page, { session with transport })
  | .first builder columns =>
    let (found, transport) := builder.first session.transport columns
    (found.map .hit, { session with transport })
  | .count builder =>
    let (found, transport) := builder.count session.transport
    (found.map .number, { session with transport })
  | .paginate builder perPage page columns =>
    let (found, transport) := builder.paginate session.transport perPage page columns
    (found.map .hits, { session with transport })
  | .getRecords builder columns =>
    let (found, transport, store) := builder.getRecords session.transport session.store columns
    (found.map .collection, ⟨transport, store⟩)
  | .firstRecord builder columns =>
    let (found, transport, store) := builder.firstRecord session.transport session.store columns
    (found.map .record, ⟨transport, store⟩)
  | .paginateRecords builder perPage page columns =>
    let (found, transport, store) :=
      builder.paginateRecords session.transport session.store perPage page columns
    (found.map .records, ⟨transport, store⟩)

namespace Session

def run (session : Session τ σ) : List Execution → List (Except Error (Answer ρ)) × Session τ σ
  | [] => ([], session)
  | execution :: rest =>
    let (answer, next) := execution.perform session
    let (answers, last) := run next rest
    (answer :: answers, last)

theorem run_append (session : Session τ σ) (first second : List Execution) :
    session.run (first ++ second) =
      ((session.run first).1 ++ ((session.run first).2.run second).1,
        ((session.run first).2.run second).2) := by
  induction first generalizing session with
  | nil => rfl
  | cons execution rest ih => simp [run, ih]

theorem length_run (session : Session τ σ) (executions : List Execution) :
    (session.run executions).1.length = executions.length := by
  induction executions generalizing session with
  | nil => rfl
  | cons execution rest ih => simp [run, ih]

end Session

end

end SearchQuery
