import SearchQuery.Proofs.Execution.Requests
import SearchQuery.Proofs.Json.Reading
import SearchQuery.Settings.Reader

namespace SearchQuery

namespace Document

theorem toSigned_ofJson {n : Int} (signed : Signed n) : (ofJson (.int n)).toSigned = .ok n := by
  have word : n ≤ Number.greatestWord := Int.le_trans signed.2 (by decide)
  have number := Number.number?_ofInteger signed.1 word
  simp [Json.int, ofJson, ofNumber, Number.numeral?, number, toSigned, Number.signed?, signed.1,
    signed.2]

theorem toText_ofJson (text : String) : (ofJson (.string text)).toText = .ok text := rfl

theorem mapM_toText (texts : List String) :
    (ofItems (texts.map .string)).mapM toText = .ok texts := by
  induction texts with
  | nil => rfl
  | cons text rest ih =>
    rw [List.map_cons, ofItems, List.mapM_cons, toText_ofJson, ih]
    rfl

theorem toTexts_ofJson (texts : List String) : (ofJson (.strings texts)).toTexts = .ok texts := by
  rw [Json.strings, ofJson, toTexts, mapM_toText]
  rfl

theorem toOptionalText_ofJson (text : Option String) :
    (ofJson (Settings.optionalText text)).toOptionalText = .ok text := by
  cases text <;> rfl

end Document

namespace Settings

def members (settings : Settings) : List (String × Json) := settings.toJson.fields?.getD []

def keeping (settings : Settings) (kept : List String) : Settings where
  index := if "index" ∈ kept then settings.index else default.index
  docType := if "doc_type" ∈ kept then settings.docType else default.docType
  perPage := if "per_page" ∈ kept then settings.perPage else default.perPage
  pageName := if "page_name" ∈ kept then settings.pageName else default.pageName
  columns := if "columns" ∈ kept then settings.columns else default.columns

def draft (settings : Settings) (taken : List String) : Draft where
  index := if "index" ∈ taken then some settings.index else none
  docType := if "doc_type" ∈ taken then some settings.docType else none
  perPage := if "per_page" ∈ taken then some settings.perPage else none
  pageName := if "page_name" ∈ taken then some settings.pageName else none
  columns := if "columns" ∈ taken then some settings.columns else none

variable (settings : Settings)

theorem complete_draft (taken : List String) :
    (settings.draft taken).complete = settings.keeping taken := by
  simp only [Draft.complete, draft, keeping]
  congr 1 <;> split <;> rfl

theorem take_member (signed : Signed settings.perPage) {field : String × Json}
    {taken : List String} (own : field.1 ∈ keys → field ∈ settings.members)
    (fresh : field.1 ∈ keys → field.1 ∉ taken) :
    (settings.draft taken).take field.1 (.ofJson field.2) =
      .ok (settings.draft (field.1 :: taken)) := by
  by_cases known : field.1 ∈ keys
  · have member := own known
    have absent := fresh known
    simp only [members, toJson, Json.fields?, Option.getD_some, List.mem_cons, List.not_mem_nil,
      or_false] at member
    rcases member with rfl | rfl | rfl | rfl | rfl <;>
      simp [Draft.take, draft, vacant, absent, Document.toText_ofJson,
        Document.toOptionalText_ofJson, Document.toSigned_ofJson signed, Document.toTexts_ofJson,
        bind, Except.bind, pure, Except.pure]
  · simp only [keys, List.mem_cons, List.not_mem_nil, or_false, not_or] at known
    obtain ⟨index, docType, perPage, pageName, columns⟩ := known
    simp [Draft.take, draft, index, docType, perPage, pageName, columns, Document.skip_ofJson,
      Ne.symm index, Ne.symm docType, Ne.symm perPage, Ne.symm pageName, Ne.symm columns]

def Apart (field other : String × Json) : Prop := field.1 ∈ keys → field.1 ≠ other.1

theorem Apart.symm {field other : String × Json} (apart : Apart field other) :
    Apart other field := by
  intro known same
  exact apart (same ▸ known) same.symm

theorem takeMembers_fields (signed : Signed settings.perPage) {fields : List (String × Json)}
    (taken : List String) (own : ∀ field ∈ fields, field.1 ∈ keys → field ∈ settings.members)
    (apart : fields.Pairwise Apart) (fresh : ∀ field ∈ fields, field.1 ∈ keys → field.1 ∉ taken) :
    takeMembers none (settings.draft taken) (Document.ofFields fields) =
      .ok (settings.draft ((fields.map (·.1)).reverse ++ taken)) := by
  induction fields generalizing taken with
  | nil => rfl
  | cons field rest ih =>
    obtain ⟨later, apartRest⟩ := List.pairwise_cons.mp apart
    have step := settings.take_member signed (own field (by simp)) (fresh field (by simp))
    have freshRest : ∀ other ∈ rest, other.1 ∈ keys → other.1 ∉ field.1 :: taken := by
      intro other member known among
      rcases List.mem_cons.mp among with same | before
      · exact (later other member).symm known same
      · exact fresh other (by simp [member]) known before
    have run := ih (field.1 :: taken) (fun other member => own other (by simp [member]))
      apartRest freshRest
    rw [Document.ofFields, takeMembers, step]
    simpa [bind, Except.bind] using run

theorem keeping_congr {kept others : List String}
    (same : ∀ key ∈ keys, key ∈ kept ↔ key ∈ others) :
    settings.keeping kept = settings.keeping others := by
  simp only [keys, List.forall_mem_cons] at same
  obtain ⟨index, docType, perPage, pageName, columns, _⟩ := same
  simp only [keeping, index, docType, perPage, pageName, columns]

theorem keeping_all {kept : List String} (all : keys ⊆ kept) :
    settings.keeping kept = settings := by
  have same : ∀ key ∈ keys, key ∈ kept ↔ key ∈ keys :=
    fun key known => iff_of_true (all known) known
  rw [settings.keeping_congr same]
  rfl

theorem names_members : settings.members.map (·.1) = keys := rfl

theorem apart_members : settings.members.Pairwise Apart := by
  have distinct : keys.Nodup := by decide
  rw [← settings.names_members] at distinct
  refine (List.pairwise_map.mp distinct).imp ?_
  intro field other differ _
  exact differ

structure StoredAs (kept : List String) (fields : List (String × Json)) : Prop where
  own : ∀ field ∈ fields, field.1 ∈ keys → field ∈ settings.members
  apart : fields.Pairwise Apart
  named : ∀ key ∈ keys, key ∈ fields.map (·.1) ↔ key ∈ kept

theorem storedAs_of_perm {kept : List String} {others fields : List (String × Json)}
    (unknown : ∀ other ∈ others, other.1 ∉ keys)
    (order : fields.Perm (settings.members.filter (·.1 ∈ kept) ++ others)) :
    settings.StoredAs kept fields where
  own field member known := by
    rcases List.mem_append.mp (order.subset member) with stored | other
    · exact List.mem_of_mem_filter stored
    · exact absurd known (unknown field other)
  apart := by
    refine (order.pairwise_iff Apart.symm).mpr (List.pairwise_append.mpr ⟨?_, ?_, ?_⟩)
    · exact settings.apart_members.filter _
    · exact List.pairwise_of_forall_mem_list fun other member _ _ known =>
        absurd known (unknown other member)
    · intro field _ other member known same
      exact unknown other member (same ▸ known)
  named key known := by
    rw [(order.map _).mem_iff]
    simp only [List.map_append, List.mem_append, List.mem_map, List.mem_filter, decide_eq_true_eq]
    constructor
    · rintro (⟨field, ⟨_, keeps⟩, rfl⟩ | ⟨other, member, rfl⟩)
      · exact keeps
      · exact absurd known (unknown other member)
    · intro keeps
      obtain ⟨field, member, rfl⟩ := List.mem_map.mp (settings.names_members ▸ known)
      exact .inl ⟨field, ⟨member, keeps⟩, rfl⟩

theorem decode_stored (signed : Signed settings.perPage) {kept : List String}
    {fields : List (String × Json)} (stored : settings.StoredAs kept fields) :
    decode (Json.object fields).text = .ok (settings.keeping kept) := by
  have run := settings.takeMembers_fields signed [] stored.own stored.apart (by simp)
  have same : ∀ key ∈ keys, key ∈ (fields.map (·.1)).reverse ++ [] ↔ key ∈ kept := by
    simpa using stored.named
  have taken : ofDocument (Document.ofJson (.object fields)) = .ok (settings.keeping kept) := by
    rw [← settings.keeping_congr same, ← settings.complete_draft]
    exact congrArg (Except.map Draft.complete) run
  simp only [decode, Document.read_text, taken]
  rfl

def Usable : Prop := isBlankText settings.index = false ∧ 0 < settings.perPage

variable {settings}

theorem validate_of_usable (usable : settings.Usable) : settings.validate = .ok settings := by
  obtain ⟨named, positive⟩ := usable
  have forward : ¬settings.perPage ≤ 0 := by omega
  simp [validate, named, forward]

theorem validate_refused (unusable : ¬settings.Usable) :
    ∃ fault, settings.validate = .error (.invalidArgument fault) := by
  unfold validate
  split
  · exact ⟨_, rfl⟩
  · next named =>
    have backward : settings.perPage ≤ 0 := by
      by_contra positive
      exact unusable ⟨by simpa using named, by omega⟩
    exact ⟨_, if_pos backward⟩

theorem usable_of_ofText {text : String} (accepted : ofText text = .ok settings) :
    settings.Usable := by
  unfold ofText at accepted
  split at accepted
  · next found _ =>
    by_cases usable : found.Usable
    · rw [validate_of_usable usable] at accepted
      cases accepted
      exact usable
    · obtain ⟨fault, refused⟩ := validate_refused usable
      rw [refused] at accepted
      cases accepted
  · cases accepted

theorem paginate_usable (usable : settings.Usable) (transport : RecordingTransport) (page : Int)
    (columns : List String) :
    ((Builder.ofSettings settings).paginate transport none page columns).1 =
      (transport.answer transport.page).map fun found =>
        (Builder.ofSettings settings).paginator found.hits found.total settings.perPage page := by
  have answered := (Builder.ofSettings settings).paginate_eq none usable.2 transport page columns
  rw [answered]
  rfl

end Settings

-- Settings are read back from any of their members; what is left out has its default. They are
-- accepted exactly when they are usable.
theorem stored_settings_restored (settings : Settings) (signed : Signed settings.perPage)
    (kept : List String) (others fields : List (String × Json))
    (unknown : ∀ other ∈ others, other.1 ∉ Settings.keys)
    (order : fields.Perm (settings.members.filter (·.1 ∈ kept) ++ others)) :
    ((settings.keeping kept).Usable →
      Settings.ofText (Json.object fields).text = .ok (settings.keeping kept)) ∧
    (¬(settings.keeping kept).Usable →
      ∃ fault, Settings.ofText (Json.object fields).text = .error (.invalidArgument fault)) ∧
    (Settings.keys ⊆ kept → settings.keeping kept = settings) ∧
    ∀ text accepted, Settings.ofText text = .ok accepted →
      ∀ (transport : RecordingTransport) (page : Int) (columns : List String),
        let answer := ((Builder.ofSettings accepted).paginate transport none page columns).1
        (∀ fault, answer ≠ .error (.invalidArgument fault)) ∧
        (transport.failure = none → ∃ paginator, answer = .ok paginator) ∧
        ∀ paginator, answer = .ok paginator →
          (paginator.perPage : Int) = accepted.perPage ∧
            paginator.pageName = accepted.pageName := by
  have stored := settings.storedAs_of_perm unknown order
  have decoded := settings.decode_stored signed stored
  refine ⟨fun usable => ?_, fun unusable => ?_, settings.keeping_all, ?_⟩
  · simp only [Settings.ofText, decoded, Settings.validate_of_usable usable]
  · obtain ⟨fault, refused⟩ := Settings.validate_refused unusable
    exact ⟨fault, by simp only [Settings.ofText, decoded, refused]⟩
  · intro text accepted taken transport page columns
    have usable := Settings.usable_of_ofText taken
    have positive := usable.2
    rw [Settings.paginate_usable usable]
    cases fault : transport.failure with
    | some reason => simp [RecordingTransport.answer, fault, Except.map]
    | none =>
      simp only [RecordingTransport.answer, fault, Except.map]
      refine ⟨nofun, fun _ => ⟨_, rfl⟩, ?_⟩
      rintro _ ⟨⟩
      refine ⟨?_, rfl⟩
      simp only [Builder.paginator, Paginator.withPageName, Paginator.ofPage]
      omega

theorem stored_settings_without_page_size :
    let settings : Settings := ⟨"posts", none, 25, "p", ["id"]⟩
    let note := ("note", Json.array [.null])
    Signed settings.perPage ∧
      Settings.ofText (Json.object
        [note, ("doc_type", .null), ("index", .string "posts")]).text =
          .ok ⟨"posts", none, 15, "page", ["*"]⟩ := by
  intro settings note
  have signed : Signed settings.perPage := by decide
  have kept : settings.members.filter (·.1 ∈ ["index", "doc_type"]) ++ [note] =
      [("index", .string "posts"), ("doc_type", .null), note] := rfl
  have order := List.reverse_perm [("index", Json.string "posts"), ("doc_type", .null), note]
  rw [← kept] at order
  have restored := stored_settings_restored settings signed ["index", "doc_type"] [note] _
    (by decide) order
  exact ⟨signed, restored.1 ⟨by decide, by decide⟩⟩

end SearchQuery
