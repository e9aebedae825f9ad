import SearchQuery.Settings.Basic

namespace SearchQuery

-- One page of items with what is needed to link to the other pages. Positions are counted in
-- words of 64 bits and stay at the greatest of them instead of passing it.
structure Paginator (α : Type) where
  items : List α
  total : Nat
  perPage : Nat
  currentPage : Nat
  pageName : String

def capWord (n : Nat) : Nat := min n Number.greatestWord

namespace Paginator

variable {α : Type}

def ofPage (items : List α) (total perPage currentPage : Nat) : Paginator α :=
  ⟨items, total, max perPage 1, max currentPage 1, defaultPageName⟩

def withPageName (page : Paginator α) (pageName : String) : Paginator α := { page with pageName }

def lastPage (page : Paginator α) : Nat :=
  max ((page.total + page.perPage - 1) / page.perPage) 1

def hasMorePages (page : Paginator α) : Bool := page.currentPage < page.lastPage

def onFirstPage (page : Paginator α) : Bool := page.currentPage ≤ 1

def firstItem? (page : Paginator α) : Option Nat :=
  if page.items.isEmpty then none
  else some (capWord (capWord ((page.currentPage - 1) * page.perPage) + 1))

def lastItem? (page : Paginator α) : Option Nat :=
  page.firstItem?.map fun first => capWord (first + (page.items.length - 1))

def map {β : Type} (f : α → β) (page : Paginator α) : Paginator β :=
  { page with items := page.items.map f }

def toJson (encode : α → Json) (page : Paginator α) : Json :=
  .object [("items", .array (page.items.map encode)), ("total", .nat page.total),
    ("per_page", .nat page.perPage), ("current_page", .nat page.currentPage),
    ("page_name", .string page.pageName)]

end Paginator

end SearchQuery
