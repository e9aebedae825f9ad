import SearchQuery.Error

namespace SearchQuery

-- Where the records behind the hits are kept. A store may count what it is asked, so every lookup
-- answers the store that comes after it.
class RecordStore (σ : Type) (ρ : outParam Type) where
  recordId : σ → ρ → String
  findMany : σ → List String → List String → Except Error (List ρ) × σ
  -- The records for some ids out of a cache; nothing when the store has none.
  findFromCache : σ → List String → Option (Except Error (List ρ) × σ)

-- Records in memory, found in the order in which they are kept and out of the cache in the
-- opposite order.
structure MemoryStore (ρ : Type) where
  records : List ρ
  key : ρ → String
  hasCache : Bool
  failure : Option String
  bulkLookups : Nat
  cacheLookups : Nat
  lastColumns : List String

namespace MemoryStore

variable {ρ : Type}

def ofRecords (key : ρ → String) (records : List ρ) : MemoryStore ρ :=
  ⟨records, key, false, none, 0, 0, []⟩

def matching (store : MemoryStore ρ) (ids : List String) : Except Error (List ρ) :=
  match store.failure with
  | some reason => .error (.recordStore reason)
  | none => .ok (store.records.filter fun record => ids.contains (store.key record))

def countBulk (store : MemoryStore ρ) (columns : List String) : MemoryStore ρ :=
  { store with bulkLookups := store.bulkLookups + 1, lastColumns := columns }

def countCache (store : MemoryStore ρ) : MemoryStore ρ :=
  { store with cacheLookups := store.cacheLookups + 1 }

end MemoryStore

instance {ρ : Type} : RecordStore (MemoryStore ρ) ρ where
  recordId store record := store.key record
  findMany store ids columns := (store.matching ids, store.countBulk columns)
  findFromCache store ids :=
    if store.hasCache then some ((store.matching ids).map List.reverse, store.countCache)
    else none

end SearchQuery
