import SearchQuery.Builder.Run
import SearchQuery.CommandLine.Run

namespace SearchQuery

namespace Options

def sortField (key : String) : SortField := ⟨(sortKey key).1, .ofText (sortKey key).2⟩

def calls (options : Options) (settings : Settings) (clauses : List Clause) : List Call :=
  clauses.map Call.addClause ++
    options.orderBy.map (fun key => Call.orderBy (sortKey key).1 (sortKey key).2) ++
    options.scriptScore.toList.map Call.orderByScriptScore ++
    options.page.toList.map (Call.forPage · settings.perPage)

def Finds (options : Options) (file : String → Except String String)
    (input : Except String String) (settings : Settings) (clauses : List Clause) : Prop :=
  ∃ stored text, options.fileSettings file = .ok stored ∧ settings = options.resolve stored ∧
    options.clauseText file input = .ok text ∧ readClauses text = .ok clauses

theorem run_eq_ok_iff {options : Options} {file : String → Except String String}
    {input : Except String String} {body : Json} :
    options.run file input = .ok body ↔
      ∃ settings clauses, options.Finds file input settings clauses ∧
        body = options.body settings clauses := by
  unfold run
  constructor
  · intro printed
    obtain ⟨stored, configured, rest⟩ := bind_eq_ok_iff.mp printed
    obtain ⟨text, given, later⟩ := bind_eq_ok_iff.mp rest
    obtain ⟨clauses, accepted, built⟩ := bind_eq_ok_iff.mp later
    cases built
    exact ⟨_, clauses, ⟨stored, text, mapError_eq_ok_iff.mp configured, rfl, given, accepted⟩, rfl⟩
  · rintro ⟨_, clauses, ⟨stored, text, configured, rfl, given, accepted⟩, rfl⟩
    refine bind_eq_ok_iff.mpr ⟨stored, mapError_eq_ok_iff.mpr configured, ?_⟩
    refine bind_eq_ok_iff.mpr ⟨text, given, ?_⟩
    exact bind_eq_ok_iff.mpr ⟨clauses, accepted, rfl⟩

theorem run_calls (depth : Nat) (options : Options) (settings : Settings)
    (clauses : List Clause) :
    Builder.run depth (.ofSettings settings) (options.calls settings clauses) =
      some (.ok (options.builder settings clauses)) := by
  unfold Builder.run calls builder
  rw [Call.performAll_append, Call.performAll_append, Call.performAll_append,
    Call.performAll_map _ _ Builder.addClause fun _ _ => rfl]
  simp only
  rw [Call.performAll_map _ _ (fun b key => b.orderBy (sortKey key).1 (sortKey key).2) fun _ _ => rfl]
  cases options.scriptScore <;> cases options.page <;> rfl

theorem foldl_orderBy (keys : List String) (b : Builder) :
    keys.foldl (fun b key => b.orderBy (sortKey key).1 (sortKey key).2) b =
      { b with orders := b.orders ++ keys.map sortField } := by
  induction keys generalizing b with
  | nil => simp
  | cons key rest ih =>
    rw [List.foldl_cons, ih]
    simp [Builder.orderBy, sortField]

def unpaged (options : Options) (settings : Settings) (clauses : List Clause) : Builder :=
  { Builder.ofSettings settings with
    clauses
    orders := options.orderBy.map sortField
    script := options.scriptScore.map .expression }

theorem builder_eq (options : Options) (settings : Settings) (clauses : List Clause) :
    options.builder settings clauses = match options.page with
      | some page => (options.unpaged settings clauses).forPage page settings.perPage
      | none => options.unpaged settings clauses := by
  unfold builder
  simp only [Builder.foldl_addClause, foldl_orderBy]
  unfold unpaged
  cases options.scriptScore <;> cases options.page <;>
    simp [Builder.setScriptScore, Builder.ofSettings, Builder.ofTarget]

theorem builder_window (options : Options) (settings : Settings) (clauses : List Clause) :
    ∃ offset limit, options.builder settings clauses =
      { options.unpaged settings clauses with offset, limit } := by
  rw [builder_eq]
  cases options.page with
  | some page => exact ⟨_, _, Builder.forPage_eq ..⟩
  | none => exact ⟨_, _, rfl⟩

end Options

end SearchQuery
