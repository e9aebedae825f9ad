import SearchQuery.Execution.Basic
import SearchQuery.Proofs.CommandLine.Search
import SearchQuery.Proofs.Execution.Requests
import SearchQuery.Proofs.Json.Reading

namespace SearchQuery

namespace Builder

variable (builder : Builder) (perPage : Option Int)

section

variable {τ : Type} [Transport τ]

theorem paginate_sends (positive : 0 < perPage.getD builder.perPage) (transport : τ)
    (page : Int) (columns : List String) :
    (builder.paginate transport perPage page columns).2 =
      ((builder.forPage page (perPage.getD builder.perPage)).get transport columns).2 := by
  rw [builder.paginate_eq perPage positive, builder.get_forPage transport columns positive]

end

theorem requests_get (transport : RecordingTransport) (columns : List String) :
    (builder.get transport columns).2.requests = transport.requests ++
      [⟨.search, builder.target,
        (builder.toRequest (.fields (builder.columnsOr columns))).toJson⟩] := rfl

end Builder

namespace Options

def withoutPage (options : Options) : Options := { options with page := none }

theorem run_withoutPage (depth : Nat) (options : Options) (settings : Settings)
    (clauses : List Clause) :
    Builder.run depth (.ofSettings settings) (options.withoutPage.calls settings clauses) =
      some (.ok (options.unpaged settings clauses)) := by
  rw [run_calls, builder_eq]
  rfl

theorem columnsOr_unpaged (options : Options) (settings : Settings) (clauses : List Clause) :
    (options.unpaged settings clauses).columnsOr [] = settings.columns := rfl

theorem body_of_search {options : Options} (searching : options.count = false)
    (settings : Settings) (clauses : List Clause) :
    options.body settings clauses =
      ((options.builder settings clauses).toRequest (.fields settings.columns)).toJson := by
  unfold body
  rw [searching]
  rfl

end Options

-- The printed body is the one that is sent, except that a page whose size is not positive is
-- printed like any other, while the execution refuses it and sends nothing.
theorem search_body_exact (options : Options) (searching : options.count = false)
    (settings : Settings) (clauses : List Clause) (transport : RecordingTransport) (depth : Nat) :
    (∀ file input, options.Finds file input settings clauses →
      options.run file input = .ok (options.body settings clauses)) ∧
    ∃ builder,
      Builder.run depth (.ofSettings settings) (options.withoutPage.calls settings clauses) =
        some (.ok builder) ∧
      (options.page = none → (builder.get transport []).2.requests =
        transport.requests ++ [⟨.search, settings.target, options.body settings clauses⟩]) ∧
      ∀ page, options.page = some page →
        ((builder.paginate transport none page []).2.requests =
            transport.requests ++ [⟨.search, settings.target, options.body settings clauses⟩] ↔
          0 < settings.perPage) ∧
        (settings.perPage ≤ 0 → builder.paginate transport none page [] =
          (.error (.invalidArgument (.pageSize settings.perPage)), transport)) := by
  refine ⟨fun file input found => Options.run_eq_ok_iff.mpr ⟨settings, clauses, found, rfl⟩,
    _, options.run_withoutPage depth settings clauses, ?_, ?_⟩
  · intro unpaged
    rw [Builder.requests_get, options.columnsOr_unpaged, Options.body_of_search searching,
      options.builder_eq, unpaged]
    rfl
  · intro page paged
    have refused (notPositive : settings.perPage ≤ 0) :=
      (options.unpaged settings clauses).paginate_refused none notPositive transport page []
    refine ⟨⟨?_, ?_⟩, refused⟩
    · intro same
      rcases Int.lt_or_le 0 settings.perPage with positive | notPositive
      · exact positive
      · rw [refused notPositive] at same
        simp at same
    · intro positive
      have sent :=
        (options.unpaged settings clauses).paginate_sends none positive transport page []
      rw [sent, Builder.requests_get, Options.body_of_search searching, options.builder_eq, paged]
      simp only [Builder.forPage_eq]
      rfl

theorem search_body_of_page :
    let options : Options := { Options.empty with page := some (-4), orderBy := ["name:desc"] }
    options.count = false ∧ ∃ builder,
      Builder.run 0 (.ofSettings .default)
        (options.withoutPage.calls .default [.present "email"]) = some (.ok builder) ∧
      (builder.paginate RecordingTransport.empty none (-4) []).2.requests =
        [⟨.search, Settings.default.target, options.body .default [.present "email"]⟩] := by
  refine ⟨rfl, ?_⟩
  obtain ⟨_, builder, ran, _, paged⟩ := search_body_exact
    { Options.empty with page := some (-4), orderBy := ["name:desc"] } rfl
    .default [.present "email"] .empty 0
  exact ⟨builder, ran, (paged (-4) rfl).1.mpr (by decide)⟩

-- An override is not judged like the settings of a file, so a page of no hits at all is printed
-- as if no page had been asked for.
theorem search_body_of_page_size_zero_printed :
    let options : Options := { Options.empty with page := some 3, perPage := some 0 }
    let settings := options.resolve .default
    let input := "[\x7b\"kind\":\"exists\",\"field\":\"email\"\x7d]"
    options.count = false ∧
    (∃ body, options.run (fun _ => .error "") (.ok input) = .ok body) ∧
    ∃ builder,
      Builder.run 0 (.ofSettings settings)
        (options.withoutPage.calls settings [.present "email"]) = some (.ok builder) ∧
      builder.paginate RecordingTransport.empty none 3 [] =
        (.error (.invalidArgument (.pageSize 0)), .empty) := by
  intro options settings input
  have accepted : Options.readClauses input = .ok [.present "email"] := by
    have written : input = (Json.array [.object
        [("kind", .string "exists"), ("field", .string "email")]]).text := by decide +kernel
    rw [written, Options.readClauses, Json.read, Document.read_text]
    rfl
  refine ⟨rfl, ?_, ?_⟩
  · exact ⟨_, Options.run_eq_ok_iff.mpr
      ⟨settings, [.present "email"], ⟨.default, _, rfl, rfl, rfl, accepted⟩, rfl⟩⟩
  · exact ⟨_, Options.run_withoutPage .., Builder.paginate_refused _ none (by decide) ..⟩

end SearchQuery
