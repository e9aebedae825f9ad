import SearchQuery.Builder.Basic
import SearchQuery.Collection
import SearchQuery.Execution.Hydration
import SearchQuery.Execution.Transport
import SearchQuery.Paginator

namespace SearchQuery

-- Running a search. Columns and a page size that are not given are the builder's own, and what is
-- wrong with the arguments is found before anything is sent.
namespace Builder

variable {τ σ ρ : Type} [Transport τ] [RecordStore σ ρ]

def columnsOr (builder : Builder) (columns : List String) : List String :=
  if columns.isEmpty then builder.columns else columns

def get (builder : Builder) (transport : τ) (columns : List String) :
    Except Error ResultPage × τ :=
  Transport.search transport builder.target
    (builder.toRequest (.fields (builder.columnsOr columns))).toJson

def getIds (builder : Builder) (transport : τ) : Except Error ResultPage × τ :=
  Transport.search transport builder.target (builder.toRequest .disabled).toJson

def first (builder : Builder) (transport : τ) (columns : List String) :
    Except Error (Option Hit) × τ :=
  let (page, transport) := (builder.take 1).get transport columns
  (page.map fun page => page.hits.head?, transport)

def count (builder : Builder) (transport : τ) : Except Error Nat × τ :=
  Transport.count transport builder.target
    { Request.everything with query := builder.compile }.countJson

def pageSize (builder : Builder) (perPage : Option Int) : Except Error Int :=
  let size := perPage.getD builder.perPage
  if size ≤ 0 then .error (.invalidArgument (.pageSize size)) else .ok size

def paginator {α : Type} (builder : Builder) (items : List α) (total : Nat)
    (perPage page : Int) : Paginator α :=
  (Paginator.ofPage items total perPage.toNat (max page 1).toNat).withPageName builder.pageName

def paginate (builder : Builder) (transport : τ) (perPage : Option Int) (page : Int)
    (columns : List String) : Except Error (Paginator Hit) × τ :=
  match builder.pageSize perPage with
  | .error error => (.error error, transport)
  | .ok size =>
    let (found, transport) := (builder.forPage page size).get transport columns
    (found.map fun found => builder.paginator found.hits found.total size page, transport)

def hydrateHits (builder : Builder) (store : σ) (page : ResultPage) (columns : List String) :
    Except Error (List ρ) × σ :=
  hydrate store (page.hits.map builder.resolveId) (builder.columnsOr columns)

def records (builder : Builder) (transport : τ) (store : σ) (columns : List String) :
    Except Error (List ρ × ResultPage) × τ × σ :=
  match builder.getIds transport with
  | (.error error, transport) => (.error error, transport, store)
  | (.ok page, transport) =>
    let (records, store) := builder.hydrateHits store page columns
    (records.map fun records => (records, page), transport, store)

def getRecords (builder : Builder) (transport : τ) (store : σ) (columns : List String) :
    Except Error (Collection ρ) × τ × σ :=
  let (found, after) := builder.records transport store columns
  (found.map fun (records, page) => ⟨records, page.total⟩, after)

def firstRecord (builder : Builder) (transport : τ) (store : σ) (columns : List String) :
    Except Error (Option ρ) × τ × σ :=
  let (found, after) := (builder.take 1).records transport store columns
  (found.map fun (records, _) => records.head?, after)

def paginateRecords (builder : Builder) (transport : τ) (store : σ) (perPage : Option Int)
    (page : Int) (columns : List String) : Except Error (Paginator ρ) × τ × σ :=
  match builder.pageSize perPage with
  | .error error => (.error error, transport, store)
  | .ok size =>
    let (found, after) := (builder.forPage page size).records transport store columns
    (found.map fun (records, results) => builder.paginator records results.total size page, after)

end Builder

end SearchQuery
