import SearchQuery.Builder.Call
import SearchQuery.Clause.Codec
import SearchQuery.Clause.Compile
import SearchQuery.Clause.Operator
import SearchQuery.Request
import SearchQuery.Settings.Basic

namespace SearchQuery

-- A search in the making: its clauses in the order of the calls, and the window, order, scoring
-- and defaults that go with them.
structure Builder where
  target : Target
  scopes : Registry
  clauses : List Clause
  orders : List SortField
  script : Option ScoreScript
  limit : Option Nat
  offset : Option Nat
  idResolver : Option (Hit → String)
  perPage : Int
  pageName : String
  columns : List String

def saturate (n : Int) : Int := max Number.leastSigned (min n Number.greatestSigned)

namespace Builder

def ofTarget (target : Target) : Builder where
  target
  scopes := []
  clauses := []
  orders := []
  script := none
  limit := none
  offset := none
  idResolver := none
  perPage := defaultPerPage
  pageName := defaultPageName
  columns := defaultColumns

def ofSettings (settings : Settings) : Builder :=
  { ofTarget settings.target with
    perPage := settings.perPage
    pageName := settings.pageName
    columns := settings.columns }

def withScopes (builder : Builder) (scopes : Registry) : Builder := { builder with scopes }

def newSearch (builder : Builder) : Builder :=
  { ofTarget builder.target with
    scopes := builder.scopes
    perPage := builder.perPage
    pageName := builder.pageName
    columns := builder.columns }

def hasWhere (builder : Builder) : Bool := !builder.clauses.isEmpty

def addClause (builder : Builder) (clause : Clause) : Builder :=
  { builder with clauses := builder.clauses ++ [clause] }

def whereEq (builder : Builder) (connector : Connector) (field : String) (value : Json) :
    Builder :=
  builder.addClause (.equality field value connector)

def whereWith (builder : Builder) (connector : Connector) (field operator : String)
    (value : Option Json) : Except Error Builder :=
  (Clause.normalize field operator value connector).map builder.addClause

def nonNull : Json → Option Json
  | .null => none
  | value => some value

def whereOp (builder : Builder) (connector : Connector) (field operator : String)
    (value : Json) : Except Error Builder :=
  builder.whereWith connector field operator (nonNull value)

def whereText (builder : Builder) (connector : Connector) (field : String) (value : Json) :
    Except Error Builder :=
  builder.whereWith connector field "text" (nonNull value)

def whereBetween (builder : Builder) (connector : Connector) (field : String)
    (low high : Json) : Builder :=
  builder.addClause (.leaf connector (.range field (.between low high)))

def whereNotNull (builder : Builder) (connector : Connector) (field : String) : Builder :=
  builder.addClause (.leaf connector (.present field))

def whereRaw (builder : Builder) (connector : Connector) (node : Node) : Builder :=
  builder.addClause (.leaf connector (.raw node))

def absorb (builder : Builder) (connector : Connector) (group : Builder) : Builder :=
  if group.clauses.isEmpty then builder
  else builder.addClause (.group connector group.clauses)

def skip (builder : Builder) (value : Int) : Builder :=
  { builder with offset := some value.toNat }

def take (builder : Builder) (value : Int) : Builder :=
  if 0 < value then { builder with limit := some value.toNat } else builder

-- The window of a page, counted from one, in arithmetic on signed words that saturates.
def forPage (builder : Builder) (page perPage : Int) : Builder :=
  (builder.skip (saturate (saturate (page - 1) * perPage))).take perPage

def orderBy (builder : Builder) (field direction : String) : Builder :=
  { builder with orders := builder.orders ++ [⟨field, .ofText direction⟩] }

def setScriptScore (builder : Builder) (script : ScoreScript) : Builder :=
  { builder with script := some script }

def compile (builder : Builder) : Option Node := SearchQuery.compile builder.clauses

def toRequest (builder : Builder) (source : SourceFilter) : Request where
  query := match builder.script with
    | some script => some (.functionScore builder.compile script)
    | none => builder.compile
  sort := if builder.script.isSome then [] else builder.orders
  offset := builder.offset
  limit := builder.limit
  source

def resolveId (builder : Builder) (hit : Hit) : String :=
  match builder.idResolver with
  | some resolver => resolver hit
  | none => hit.id

@[simp] theorem clauses_ofTarget (target : Target) : (ofTarget target).clauses = [] := rfl

@[simp] theorem clauses_newSearch (builder : Builder) : builder.newSearch.clauses = [] := rfl

@[simp] theorem scopes_newSearch (builder : Builder) :
    builder.newSearch.scopes = builder.scopes := rfl

@[simp] theorem clauses_addClause (builder : Builder) (clause : Clause) :
    (builder.addClause clause).clauses = builder.clauses ++ [clause] := rfl

theorem foldl_addClause (clauses : List Clause) (builder : Builder) :
    clauses.foldl addClause builder = { builder with clauses := builder.clauses ++ clauses } := by
  induction clauses generalizing builder with
  | nil => simp
  | cons clause rest ih => simp [ih, addClause]

@[simp] theorem clauses_absorb (builder group : Builder) (connector : Connector) :
    (builder.absorb connector group).clauses =
      builder.clauses ++ if group.clauses.isEmpty then [] else [.group connector group.clauses] := by
  unfold absorb
  split <;> simp

@[simp] theorem scopes_absorb (builder group : Builder) (connector : Connector) :
    (builder.absorb connector group).scopes = builder.scopes := by
  unfold absorb
  split <;> rfl

@[simp] theorem clauses_skip (builder : Builder) (value : Int) :
    (builder.skip value).clauses = builder.clauses := rfl

@[simp] theorem clauses_take (builder : Builder) (value : Int) :
    (builder.take value).clauses = builder.clauses := by
  unfold take
  split <;> rfl

theorem forPage_eq (builder : Builder) (page perPage : Int) :
    builder.forPage page perPage =
      { builder with
        offset := some (saturate (saturate (page - 1) * perPage)).toNat
        limit := if 0 < perPage then some perPage.toNat else builder.limit } := by
  unfold forPage skip take
  split <;> rfl

@[simp] theorem clauses_forPage (builder : Builder) (page perPage : Int) :
    (builder.forPage page perPage).clauses = builder.clauses := by
  simp [forPage]

end Builder

-- A kind of record that can be searched: where it is indexed and which scopes it offers.
structure Searchable where
  index : String
  docType : Option String
  scopes : Registry

namespace Searchable

def ofIndex (index : String) : Searchable := ⟨index, some defaultDocType, []⟩

def search (model : Searchable) : Builder :=
  (Builder.ofTarget ⟨model.index, model.docType⟩).withScopes model.scopes

end Searchable

end SearchQuery
