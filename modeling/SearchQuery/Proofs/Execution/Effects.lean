import SearchQuery.Execution.Session
import SearchQuery.Proofs.Execution.HitOrder
import SearchQuery.Proofs.Execution.Requests

namespace SearchQuery

-- What a session leaves behind on a recording transport and a store in memory. What an execution
-- asks of them is said beforehand, without running it.

-- A search on the wire, by its members. A script scores what the clauses ask for and leaves no
-- order; an offset of zero is not written.
def Builder.searchBody (builder : Builder) (offset limit : Option Nat) (stored : Json) : Json :=
  let filter := (SearchQuery.compile builder.clauses).map Node.toJson
  let order (sort : SortField) : Json :=
    .object [(sort.field, .string (if sort.direction = .asc then "asc" else "desc"))]
  .object (Json.present
    [("query", match builder.script with
        | none => filter
        | some script => some (.object [("function_score", .object (Json.present
            (Node.scoredLayout filter (.object (Json.present script.layout)))))])),
      ("sort", match builder.script with
        | none => Json.filled (builder.orders.map order)
        | some _ => none),
      ("from", (offset.filter (0 < ·)).map .nat), ("size", limit.map .nat),
      ("_source", some stored)])

theorem Builder.searchBody_eq (builder : Builder) (offset limit : Option Nat)
    (source : SourceFilter) :
    builder.searchBody offset limit source.toJson =
      Request.toJson { builder.toRequest source with offset, limit } := by
  have orders (sort : SortField) : sort.toJson =
      .object [(sort.field, .string (if sort.direction = .asc then "asc" else "desc"))] := by
    obtain ⟨field, direction⟩ := sort
    cases direction <;> rfl
  rw [Request.toJson_eq_present]
  cases scripted : builder.script with
  | none => simp [searchBody, Request.layout, toRequest, Builder.compile, scripted, ← orders]
  | some script =>
    simp [searchBody, Request.layout, toRequest, Builder.compile, scripted, Json.filled,
      Node.toJson_functionScore, ScoreScript.toJson_eq_present]

namespace Execution

def builder : Execution → Builder
  | .get builder _ | .first builder _ | .count builder | .paginate builder _ _ _
  | .getRecords builder _ | .firstRecord builder _ | .paginateRecords builder _ _ _ => builder

def refusedSize? : Execution → Option Int
  | .paginate builder perPage _ _ | .paginateRecords builder perPage _ _ =>
    if perPage.getD builder.perPage ≤ 0 then some (perPage.getD builder.perPage) else none
  | _ => none

def kind : Execution → RequestKind
  | .count _ => .count
  | _ => .search

def given : Execution → List String
  | .get _ columns | .first _ columns | .paginate _ _ _ columns | .getRecords _ columns
  | .firstRecord _ columns | .paginateRecords _ _ _ columns => columns
  | .count _ => []

def columns (execution : Execution) : List String :=
  if execution.given = [] then execution.builder.columns else execution.given

def wantsRecords : Execution → Bool
  | .getRecords _ _ | .firstRecord _ _ | .paginateRecords _ _ _ _ => true
  | _ => false

def offset? : Execution → Option Nat
  | .paginate builder perPage page _ | .paginateRecords builder perPage page _ =>
    some (min (hitsBefore page (perPage.getD builder.perPage)) Number.greatestSigned).toNat
  | execution => execution.builder.offset

def limit? : Execution → Option Nat
  | .first _ _ | .firstRecord _ _ => some 1
  | .paginate builder perPage _ _ | .paginateRecords builder perPage _ _ =>
    some (perPage.getD builder.perPage).toNat
  | execution => execution.builder.limit

def body : Execution → Json
  | .count builder =>
    .object (Json.present [("query", (SearchQuery.compile builder.clauses).map Node.toJson)])
  | execution => execution.builder.searchBody execution.offset? execution.limit?
      (if execution.wantsRecords then .bool false else .array (execution.columns.map .string))

def request? (execution : Execution) : Option RecordedRequest :=
  match execution.refusedSize? with
  | some _ => none
  | none => some ⟨execution.kind, execution.builder.target, execution.body⟩

def recordColumns? (execution : Execution) : Option (List String) :=
  if execution.wantsRecords then some execution.columns else none

def lookup? (execution : Execution) (transport : RecordingTransport) : Option (List String) :=
  match execution.refusedSize?, transport.failure with
  | none, none => if transport.page.hits.isEmpty then none else execution.recordColumns?
  | _, _ => none

def failure? {ρ : Type} (execution : Execution)
    (session : Session RecordingTransport (MemoryStore ρ)) : Option Error :=
  match execution.refusedSize? with
  | some size => some (.invalidArgument (.pageSize size))
  | none => (session.transport.failure.map .transport).or
      ((execution.lookup? session.transport).bind fun _ =>
        session.store.failure.map .recordStore)

end Execution

namespace RecordingTransport

def after (transport : RecordingTransport) (requests : List RecordedRequest) :
    RecordingTransport :=
  { transport with requests := transport.requests ++ requests }

theorem after_append (transport : RecordingTransport) (first second : List RecordedRequest) :
    (transport.after first).after second = transport.after (first ++ second) := by
  simp [after]

theorem answer_eq_error_iff {α : Type} (transport : RecordingTransport) {value : α}
    {error : Error} :
    transport.answer value = .error error ↔ transport.failure.map .transport = some error := by
  unfold answer
  cases transport.failure <;> simp

end RecordingTransport

namespace MemoryStore

variable {ρ : Type}

def after (store : MemoryStore ρ) (lookups : List (List String)) : MemoryStore ρ :=
  if store.hasCache then { store with cacheLookups := store.cacheLookups + lookups.length }
  else { store with
    bulkLookups := store.bulkLookups + lookups.length
    lastColumns := lookups.getLast?.getD store.lastColumns }

theorem after_nil (store : MemoryStore ρ) : store.after [] = store := by
  unfold after
  split <;> rfl

theorem after_append (store : MemoryStore ρ) (first second : List (List String)) :
    (store.after first).after second = store.after (first ++ second) := by
  unfold after
  cases cached : store.hasCache with
  | true => simp [Nat.add_assoc]
  | false => cases second <;> simp [Nat.add_assoc, List.getLast?_append]

theorem hydrate_after (store : MemoryStore ρ) {ids : List String} (asked : ids ≠ [])
    (columns : List String) : (hydrate store ids columns).2 = store.after [columns] := by
  have some : ids.isEmpty = false := by simpa using asked
  unfold hydrate after
  rw [some]
  cases cached : store.hasCache <;>
    simp [RecordStore.findFromCache, RecordStore.findMany, cached, countBulk, countCache]

theorem hydrate_eq_error_iff (store : MemoryStore ρ) {ids : List String} (asked : ids ≠ [])
    {columns : List String} {error : Error} :
    (hydrate store ids columns).1 = .error error ↔
      store.failure.map .recordStore = some error := by
  rw [store.hydrate_of_ids asked, map_eq_error_iff]
  cases fault : store.failure with
  | none => cases store.hasCache <;> simp [store.matching_of_healthy ids fault, Except.map]
  | some reason => cases store.hasCache <;> simp [store.matching_of_failure ids fault, Except.map]

end MemoryStore

namespace Execution

variable {ρ : Type}

structure Effects (execution : Execution)
    (here : Session RecordingTransport (MemoryStore ρ))
    (outcome : Except Error (Answer ρ) × Session RecordingTransport (MemoryStore ρ)) : Prop where
  transport : outcome.2.transport = here.transport.after execution.request?.toList
  store : outcome.2.store = here.store.after (execution.lookup? here.transport).toList
  fails : ∀ error, outcome.1 = .error error ↔ execution.failure? here = some error

variable (execution : Execution) {here : Session RecordingTransport (MemoryStore ρ)}

theorem columns_eq_columnsOr :
    execution.columns = execution.builder.columnsOr execution.given :=
  (execution.builder.columnsOr_eq execution.given).symm

def searchRequest (source : SourceFilter) : Request :=
  { execution.builder.toRequest source with
    offset := execution.offset?
    limit := execution.limit? }

theorem body_of_hits (search : execution.kind = .search)
    (recordless : execution.wantsRecords = false) :
    execution.body =
      (execution.searchRequest (.fields (execution.builder.columnsOr execution.given))).toJson := by
  rw [← columns_eq_columnsOr, searchRequest, ← Builder.searchBody_eq]
  cases execution with
  | count builder => cases search
  | getRecords | firstRecord | paginateRecords => cases recordless
  | get | first | paginate => rfl

theorem body_of_records (records : execution.wantsRecords = true) :
    execution.body = (execution.searchRequest .disabled).toJson := by
  rw [searchRequest, ← Builder.searchBody_eq]
  cases execution with
  | getRecords | firstRecord | paginateRecords => rfl
  | _ => cases records

theorem body_of_count (builder : Builder) :
    (count builder).body =
      Request.countJson { Request.everything with query := builder.compile } := by
  simp [body, Request.countJson, Request.queryFields, Builder.compile, Json.present_cons,
    Json.present_nil, Option.toList_map, Function.comp_def]

theorem after_request? (transport : RecordingTransport)
    (accepted : execution.refusedSize? = none) :
    transport.after execution.request?.toList =
      transport.record execution.kind execution.builder.target execution.body := by
  simp [request?, accepted, RecordingTransport.after, RecordingTransport.record]

theorem Effects.of_refusal {size : Int} (refused : execution.refusedSize? = some size) :
    Effects execution here (.error (.invalidArgument (.pageSize size)), here) where
  transport := by simp [request?, refused, RecordingTransport.after]
  store := by simp [lookup?, refused, MemoryStore.after_nil]
  fails error := by simp [failure?, refused]

theorem Effects.of_answer {α : Type} {value : α} {answer : Except Error (Answer ρ)} {body : Json}
    (accepted : execution.refusedSize? = none) (recordless : execution.wantsRecords = false)
    (sent : execution.body = body)
    (passed : ∀ error, answer = .error error ↔ here.transport.answer value = .error error) :
    Effects execution here (answer,
      ⟨here.transport.record execution.kind execution.builder.target body, here.store⟩) := by
  subst sent
  have idle : execution.lookup? here.transport = none := by
    unfold lookup? recordColumns?
    rw [recordless]
    split <;> simp
  constructor
  · exact (execution.after_request? _ accepted).symm
  · simp [idle, MemoryStore.after_nil]
  · intro error
    rw [passed, RecordingTransport.answer_eq_error_iff]
    simp [failure?, accepted, idle]

theorem Effects.of_hydration {answer : Except Error (Answer ρ)}
    {found : Except Error (List ρ × ResultPage) × RecordingTransport × MemoryStore ρ}
    (accepted : execution.refusedSize? = none) (records : execution.wantsRecords = true)
    (hydrated : execution.builder.hydrateReply here.store execution.given
      (here.transport.answer here.transport.page,
        here.transport.record execution.kind execution.builder.target
          (execution.searchRequest .disabled).toJson) = found)
    (passed : ∀ error, answer = .error error ↔ found.1 = .error error) :
    Effects execution here (answer, ⟨found.2.1, found.2.2⟩) := by
  rw [← execution.body_of_records records] at hydrated
  cases fault : here.transport.failure with
  | some reason =>
    have failed : here.transport.answer here.transport.page = .error (.transport reason) := by
      rw [RecordingTransport.answer_eq_error_iff, fault]
      rfl
    have idle : execution.lookup? here.transport = none := by
      simp [lookup?, accepted, fault]
    rw [execution.builder.hydrateReply_failed here.store _ failed] at hydrated
    subst hydrated
    constructor
    · exact (execution.after_request? _ accepted).symm
    · simp [idle, MemoryStore.after_nil]
    · intro error
      rw [passed]
      simp [failure?, accepted, fault]
  | none =>
    have answered : here.transport.answer here.transport.page = .ok here.transport.page := by
      unfold RecordingTransport.answer
      rw [fault]
    rw [execution.builder.hydrateReply_answered here.store _ answered] at hydrated
    subst hydrated
    -- Without a hit nothing is looked up, so a store that fails goes unnoticed.
    by_cases hits : here.transport.page.hits = []
    · have idle : execution.lookup? here.transport = none := by
        simp [lookup?, accepted, fault, hits]
      constructor
      · exact (execution.after_request? _ accepted).symm
      · simp [idle, MemoryStore.after_nil, Builder.hydrateHits, hits, hydrate]
      · intro error
        rw [passed]
        simp [failure?, accepted, fault, idle, Builder.hydrateHits, hits, hydrate, Except.map]
    · have asks : execution.lookup? here.transport = some execution.columns := by
        simp [lookup?, accepted, fault, hits, recordColumns?, records]
      have ids : here.transport.page.hits.map execution.builder.resolveId ≠ [] := by
        simpa using hits
      constructor
      · exact (execution.after_request? _ accepted).symm
      · rw [asks, columns_eq_columnsOr]
        exact here.store.hydrate_after ids _
      · intro error
        rw [passed, map_eq_error_iff, Builder.hydrateHits, here.store.hydrate_eq_error_iff ids]
        simp [failure?, accepted, fault, asks]

theorem effects (execution : Execution) (here : Session RecordingTransport (MemoryStore ρ)) :
    Effects execution here (execution.perform here) := by
  cases execution with
  | get builder columns =>
    exact Effects.of_answer (.get builder columns) rfl rfl (body_of_hits _ rfl rfl) fun _ =>
      map_eq_error_iff
  | first builder columns =>
    exact Effects.of_answer (.first builder columns) rfl rfl (body_of_hits _ rfl rfl) fun _ =>
      map_eq_error_iff.trans map_eq_error_iff
  | count builder =>
    exact Effects.of_answer (.count builder) rfl rfl (body_of_count builder) fun _ =>
      map_eq_error_iff
  | paginate builder perPage page columns =>
    rcases Int.lt_or_le 0 (perPage.getD builder.perPage) with positive | refused
    · rw [perform, builder.paginate_eq perPage positive]
      exact Effects.of_answer (.paginate builder perPage page columns)
        (if_neg (by omega)) rfl (body_of_hits _ rfl rfl) fun _ =>
          map_eq_error_iff.trans map_eq_error_iff
    · rw [perform, builder.paginate_refused perPage refused]
      exact Effects.of_refusal (.paginate builder perPage page columns)
        (if_pos refused)
  | getRecords builder columns =>
    rw [perform, builder.getRecords_eq]
    exact Effects.of_hydration (.getRecords builder columns) rfl rfl rfl fun _ =>
      map_eq_error_iff.trans map_eq_error_iff
  | firstRecord builder columns =>
    rw [perform, builder.firstRecord_eq]
    exact Effects.of_hydration (.firstRecord builder columns) rfl rfl rfl fun _ =>
      map_eq_error_iff.trans map_eq_error_iff
  | paginateRecords builder perPage page columns =>
    rcases Int.lt_or_le 0 (perPage.getD builder.perPage) with positive | refused
    · rw [perform, builder.paginateRecords_eq perPage positive]
      exact Effects.of_hydration (.paginateRecords builder perPage page columns)
        (if_neg (by omega)) rfl rfl fun _ => map_eq_error_iff.trans map_eq_error_iff
    · rw [perform, builder.paginateRecords_refused perPage refused]
      exact Effects.of_refusal (.paginateRecords builder perPage page columns)
        (if_pos refused)

theorem isCaller_of_failure? {error : Error} (failed : execution.failure? here = some error) :
    error.isCaller = true ↔ execution.request? = none := by
  cases refused : execution.refusedSize? with
  | some size =>
    have caller : .invalidArgument (.pageSize size) = error := by
      simpa [failure?, refused] using failed
    simp [request?, refused, ← caller, Error.isCaller]
  | none =>
    have foreign : error.isCaller = false := by
      simp only [failure?, refused, Option.or_eq_some_iff, Option.map_eq_some_iff,
        Option.bind_eq_some_iff] at failed
      rcases failed with ⟨_, _, rfl⟩ | ⟨_, _, _, _, _, rfl⟩ <;> rfl
    simp [request?, refused, foreign]

end Execution

namespace Session

variable {ρ : Type}

-- Requests and lookups add up in the order of the executions. Neither the page of the transport nor
-- its failure changes on the way, so each execution asks what it would ask at the start.
theorem run_after (start : Session RecordingTransport (MemoryStore ρ))
    (executions : List Execution) :
    (start.run executions).2 =
      ⟨start.transport.after (executions.filterMap Execution.request?),
        start.store.after (executions.filterMap (·.lookup? start.transport))⟩ := by
  induction executions generalizing start with
  | nil => simp [run, RecordingTransport.after, MemoryStore.after_nil]
  | cons execution rest ih =>
    have step := execution.effects start
    have ahead : (execution.perform start).2 =
        ⟨start.transport.after execution.request?.toList,
          start.store.after (execution.lookup? start.transport).toList⟩ := by
      rw [← step.transport, ← step.store]
    have unmoved (other : Execution) :
        other.lookup? (start.transport.after execution.request?.toList) =
          other.lookup? start.transport := rfl
    have splits {α : Type} (asked : Execution → Option α) :
        (execution :: rest).filterMap asked =
          (asked execution).toList ++ rest.filterMap asked := by
      cases found : asked execution <;> simp [found]
    rw [run, ih, ahead, splits, splits, ← RecordingTransport.after_append,
      ← MemoryStore.after_append]
    rfl

end Session

-- Each execution leaves the one request that its arguments say, unless its page size is refused,
-- and the one lookup of the records behind its hits, if it needs any.
theorem session_effects {ρ : Type} (start : Session RecordingTransport (MemoryStore ρ))
    (executions : List Execution) :
    (start.run executions).2 =
      ⟨start.transport.after (executions.filterMap Execution.request?),
        start.store.after (executions.filterMap (·.lookup? start.transport))⟩ ∧
    ∀ before execution later, executions = before ++ execution :: later → ∃ outcome,
      (start.run executions).1[before.length]? = some outcome.1 ∧
      (start.run (before ++ [execution])).2 = outcome.2 ∧
      execution.Effects (start.run before).2 outcome ∧
      ∀ error, outcome.1 = .error error →
        (error.isCaller = true ↔ execution.request? = none) := by
  refine ⟨start.run_after executions, ?_⟩
  rintro before execution later rfl
  have step := execution.effects (start.run before).2
  refine ⟨execution.perform (start.run before).2, ?_, ?_, step, ?_⟩
  · rw [Session.run_append, List.getElem?_append_right (Nat.le_of_eq (Session.length_run ..)),
      Session.length_run, Nat.sub_self]
    rfl
  · rw [Session.run_append]
    rfl
  · intro error failed
    exact execution.isCaller_of_failure? ((step.fails error).mp failed)

theorem session_of_refused_page_and_records :
    let posts : Builder := { Builder.ofTarget ⟨"posts", none⟩ with
      clauses := [.present "email"], orders := [⟨"age", .desc⟩], offset := some 7
      columns := ["title"] }
    let scored : Builder := { posts with script := some (.ofSource "_score"), offset := some 0 }
    let start : Session RecordingTransport (MemoryStore String) :=
      ⟨{ RecordingTransport.empty with page := ⟨[.ofId "5"], 1⟩ }, .ofRecords id ["7", "5"]⟩
    let query := Json.object [("exists", .object [("field", .string "email")])]
    let scoring := Json.object [("query", query),
      ("functions", .array [.object [("script_score",
        .object [("script", .object [("source", .string "_score")])])]]),
      ("boost_mode", .string "replace")]
    (start.run [.paginate posts (some 0) 1 [], .getRecords posts [], .first scored []]).2 =
      ⟨{ start.transport with requests :=
          [⟨.search, posts.target, .object [("query", query),
              ("sort", .array [.object [("age", .string "desc")]]), ("from", .nat 7),
              ("_source", .bool false)]⟩,
            ⟨.search, posts.target, .object [("query", .object [("function_score", scoring)]),
              ("size", .nat 1), ("_source", .array [.string "title"])]⟩] },
        { start.store with bulkLookups := 1, lastColumns := ["title"] }⟩ := by
  intro posts scored start query scoring
  exact (session_effects start _).1

end SearchQuery
