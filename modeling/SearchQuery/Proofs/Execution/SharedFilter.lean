import SearchQuery.Proofs.Execution.Requests

namespace SearchQuery

-- The filter of a search in the bodies that count its matches and that get them. A score script
-- puts a query of its own around the filter; nothing else that a builder holds comes near it.

inductive Json.Filtered (body : Json) (filter : Option Json) : Option ScoreScript → Prop where
  | unscored (query : body.get? "query" = filter) : Filtered body filter none
  | scored {script : ScoreScript} {scoring : Json}
      (query : body.get? "query" = some (.object [("function_score", scoring)]))
      (inner : scoring.get? "query" = filter)
      (replaces : scoring.get? "boost_mode" = some (.string "replace"))
      (unsorted : body.get? "sort" = none) : Filtered body filter (some script)

namespace Builder

variable (b : Builder) (columns : List String)

def CountsBy (body : Json) : Prop :=
  ∀ {τ : Type} [Transport τ] (transport : τ),
    b.count transport = Transport.count transport b.target body

def SearchesBy (body : Json) : Prop :=
  ∀ {τ : Type} [Transport τ] (transport : τ),
    b.get transport columns = Transport.search transport b.target body

def filter : Option Json := b.compile.map Node.toJson

theorem countsBy_iff {body : Json} :
    b.CountsBy body ↔ body = .object (b.filter.toList.map (("query", ·))) := by
  have sent : Json.object (b.filter.toList.map (("query", ·))) =
      .object (b.compile.toList.map (("query", ·.toJson))) := by
    simp [filter, Option.toList_map, Function.comp_def]
  rw [sent]
  constructor
  · intro counts
    have recorded : [RecordedRequest.mk .count b.target _] = [⟨.count, b.target, body⟩] :=
      congrArg (·.2.requests) (counts RecordingTransport.empty)
    exact (RecordedRequest.mk.inj (List.cons.inj recorded).1).2.2.symm
  · rintro rfl τ _ transport
    rfl

theorem searchesBy_iff {body : Json} :
    b.SearchesBy columns body ↔ body = (b.toRequest (.fields (b.columnsOr columns))).toJson := by
  constructor
  · intro searches
    have recorded : [RecordedRequest.mk .search b.target _] = [⟨.search, b.target, body⟩] :=
      congrArg (·.2.requests) (searches RecordingTransport.empty)
    exact (RecordedRequest.mk.inj (List.cons.inj recorded).1).2.2.symm
  · rintro rfl τ _ transport
    exact b.get_eq transport columns

theorem filtered_search (source : SourceFilter) :
    (b.toRequest source).toJson.Filtered b.filter b.script := by
  cases scripted : b.script with
  | none =>
    refine .unscored ?_
    simp [Request.get?_query, toRequest, scripted, filter]
  | some script =>
    let layout := Node.scoredLayout b.filter script.toJson
    have distinct : (layout.map (·.1)).Nodup :=
      (by decide : ["query", "functions", "boost_mode"].Nodup)
    refine @Json.Filtered.scored _ _ script (.object (Json.present layout)) ?_ ?_ ?_ ?_
    · simp [Request.get?_query, toRequest, scripted, Node.toJson_functionScore, layout, filter]
    · exact Json.lookup_present distinct (by simp [layout, Node.scoredLayout])
    · exact Json.lookup_present distinct (by simp [layout, Node.scoredLayout])
    · simp [Request.get?_sort, toRequest, scripted, Json.filled]

end Builder

-- A count and a search go by one filter, the query of the clauses, and a builder that differs in
-- anything but its clauses counts the same. A script drops the order.
theorem counting_filters_like_searching (b : Builder) (columns : List String) :
    let filter := b.compile.map Node.toJson
    (∀ body, b.CountsBy body ↔ body = .object (filter.toList.map (("query", ·)))) ∧
    (∃ body, (∀ other, b.SearchesBy columns other ↔ other = body) ∧ body.Filtered filter b.script) ∧
    (∀ other : Builder, other.clauses = b.clauses →
      ∀ body, other.CountsBy body ↔ b.CountsBy body) ∧
    (b.script ≠ none → ∀ orders body,
      { b with orders }.SearchesBy columns body ↔ b.SearchesBy columns body) := by
  refine ⟨fun _ => b.countsBy_iff, ?_, ?_, ?_⟩
  · exact ⟨_, fun _ => b.searchesBy_iff columns, b.filtered_search _⟩
  · intro other same body
    have filters : other.filter = b.filter := by
      unfold Builder.filter Builder.compile
      rw [same]
    rw [other.countsBy_iff, b.countsBy_iff, filters]
  · intro scripted orders body
    have requests (source : SourceFilter) :
        { b with orders }.toRequest source = b.toRequest source := by
      cases script : b.script with
      | none => exact absurd script scripted
      | some script => simp [Builder.toRequest, Builder.compile, script]
    rw [Builder.searchesBy_iff, b.searchesBy_iff, requests]
    rfl

theorem filter_of_scored_and_plain_search :
    let plain : Builder := { Builder.ofTarget ⟨"people", none⟩ with
      clauses := [.group .should [.present "email", .group .must []]], limit := some 3 }
    let scored : Builder := { plain with
      target := ⟨"posts", some "_doc"⟩, script := some (.expression "_score * 2") }
    let query := Json.object [("exists", .object [("field", .string "email")])]
    plain.clauses = scored.clauses ∧ scored.script ≠ none ∧
    plain.CountsBy (.object [("query", query)]) ∧ scored.CountsBy (.object [("query", query)]) ∧
    ∃ body, scored.SearchesBy [] body ∧ (scored.orderBy "age" "asc").SearchesBy [] body := by
  intro plain scored query
  have same : plain.clauses = scored.clauses := rfl
  have scripted : scored.script ≠ none := nofun
  obtain ⟨counted, ⟨body, searched, _⟩, others, sorts⟩ := counting_filters_like_searching scored []
  have counts : scored.CountsBy (.object [("query", query)]) := (counted _).mpr rfl
  have searches : scored.SearchesBy [] body := (searched body).mpr rfl
  exact ⟨same, scripted, (others plain same _).mpr counts, counts, body, searches,
    (sorts scripted [⟨"age", .asc⟩] body).mpr searches⟩

end SearchQuery
