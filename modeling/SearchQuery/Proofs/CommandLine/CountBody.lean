import SearchQuery.Execution.Basic
import SearchQuery.Proofs.CommandLine.Search

namespace SearchQuery

namespace Options

theorem target_builder (options : Options) (settings : Settings) (clauses : List Clause) :
    (options.builder settings clauses).target = settings.target := by
  obtain ⟨offset, limit, same⟩ := options.builder_window settings clauses
  rw [same]
  rfl

theorem compile_builder (options : Options) (settings : Settings) (clauses : List Clause) :
    (options.builder settings clauses).compile = SearchQuery.compile clauses := by
  obtain ⟨offset, limit, same⟩ := options.builder_window settings clauses
  rw [same]
  rfl

theorem query_builder (options : Options) (settings : Settings) (clauses : List Clause)
    (source : SourceFilter) :
    ((options.builder settings clauses).toRequest source).query =
      match options.scriptScore with
      | some script => some (.functionScore (SearchQuery.compile clauses) (.expression script))
      | none => SearchQuery.compile clauses := by
  obtain ⟨offset, limit, same⟩ := options.builder_window settings clauses
  rw [same]
  unfold Builder.toRequest unpaged
  cases options.scriptScore <;> rfl

end Options

theorem requests_count (builder : Builder) (transport : RecordingTransport) :
    (builder.count transport).2.requests = transport.requests ++
      [⟨.count, builder.target, .object (builder.compile.toList.map (("query", ·.toJson)))⟩] := rfl

theorem scored_fields_ne (query : Option Node) (script : ScoreScript) :
    (some (Node.functionScore query script)).toList.map (("query", ·.toJson)) ≠
      query.toList.map (("query", Node.toJson ·)) := by
  cases query with
  | none => simp
  | some node =>
    intro same
    have whole : Node.scored (some node.toJson) script.toJson = node.toJson := by
      simpa [Node.toJson] using same
    exact Node.scored_ne _ _ whole

-- The printed body is the one that is sent exactly when no score script is given: the command
-- renders the query of the whole search, and a script is part of that.
theorem count_body_exact (options : Options) (counting : options.count = true)
    (settings : Settings) (clauses : List Clause) (transport : RecordingTransport) (depth : Nat) :
    (∀ file input, options.Finds file input settings clauses →
      options.run file input = .ok (options.body settings clauses)) ∧
    ∃ builder,
      Builder.run depth (.ofSettings settings) (options.calls settings clauses) =
        some (.ok builder) ∧
      ((builder.count transport).2.requests =
          transport.requests ++ [⟨.count, settings.target, options.body settings clauses⟩] ↔
        options.scriptScore = none) := by
  refine ⟨fun file input found => Options.run_eq_ok_iff.mpr ⟨settings, clauses, found, rfl⟩,
    _, options.run_calls depth settings clauses, ?_⟩
  have printed : options.body settings clauses =
      .object (((options.builder settings clauses).toRequest
        (.fields settings.columns)).query.toList.map (("query", ·.toJson))) := by
    unfold Options.body
    rw [if_pos counting]
    rfl
  rw [requests_count, options.target_builder, options.compile_builder, printed,
    options.query_builder]
  constructor
  · intro same
    cases scored : options.scriptScore with
    | none => rfl
    | some script =>
      rw [scored] at same
      have bodies := List.append_cancel_left same
      simp only [List.cons.injEq, RecordedRequest.mk.injEq, Json.object.injEq, true_and,
        and_true] at bodies
      exact absurd bodies.symm (scored_fields_ne _ _)
  · intro unscored
    rw [unscored]

theorem count_body_of_page :
    let options : Options := { Options.empty with
      count := true, page := some 3, orderBy := ["name:desc"] }
    options.count = true ∧ ∃ builder,
      Builder.run 0 (.ofSettings .default) (options.calls .default [.present "email"]) =
        some (.ok builder) ∧
      (builder.count RecordingTransport.empty).2.requests =
        [⟨.count, Settings.default.target, options.body .default [.present "email"]⟩] := by
  refine ⟨rfl, ?_⟩
  obtain ⟨_, builder, ran, agrees⟩ := count_body_exact
    { Options.empty with count := true, page := some 3, orderBy := ["name:desc"] } rfl
    .default [.present "email"] .empty 0
  exact ⟨builder, ran, agrees.mpr rfl⟩

theorem count_body_of_script_differs :
    let options : Options := { Options.empty with
      count := true, scriptScore := some "_score * 2" }
    let clauses := [Clause.term "status" (.string "active")]
    options.count = true ∧ ¬ ∃ builder,
      Builder.run 0 (.ofSettings .default) (options.calls .default clauses) =
        some (.ok builder) ∧
      (builder.count RecordingTransport.empty).2.requests =
        [⟨.count, Settings.default.target, options.body .default clauses⟩] := by
  refine ⟨rfl, ?_⟩
  rintro ⟨builder, ran, same⟩
  rw [Options.run_calls] at ran
  cases ran
  have bodies : [("query", Json.object [("term", _)])] =
      [("query", Json.object [("function_score", _)])] :=
    Json.object.inj (RecordedRequest.mk.inj (List.cons.inj same).1).2.2
  simp at bodies

end SearchQuery
