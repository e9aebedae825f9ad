import SearchQuery.Execution.Basic
import SearchQuery.Proofs.Wire.Members

namespace SearchQuery

-- What executions send. Every search is one request; pages and first hits change its window, and
-- records come from a request that asks for no stored fields.

namespace Request

variable (request : Request)

def members : List (String × Json) :=
  request.queryFields ++ request.sortFields ++ request.offsetFields ++ request.limitFields

theorem members_eq_present :
    request.members ++ [("_source", request.source.toJson)] = Json.present request.layout :=
  Json.object.inj request.toJson_eq_present

theorem names_layout_nodup : (request.layout.map (·.1)).Nodup :=
  (by decide : ["query", "sort", "from", "size", "_source"].Nodup)

theorem source_notMem_members : "_source" ∉ request.members.map (·.1) := by
  have named := (Json.names_present request.layout).nodup request.names_layout_nodup
  rw [← members_eq_present, List.map_append] at named
  intro member
  exact List.disjoint_of_nodup_append named member List.mem_cons_self

theorem get?_query : request.toJson.get? "query" = request.query.map Node.toJson := by
  rw [toJson_eq_present]
  exact Json.lookup_present request.names_layout_nodup (by simp [layout])

theorem get?_sort :
    request.toJson.get? "sort" = Json.filled (request.sort.map SortField.toJson) := by
  rw [toJson_eq_present]
  exact Json.lookup_present request.names_layout_nodup (by simp [layout])

theorem get?_size : request.toJson.get? "size" = request.limit.map .nat := by
  rw [toJson_eq_present]
  exact Json.lookup_present request.names_layout_nodup (by simp [layout])

theorem get?_from : request.toJson.get? "from" = (request.offset.filter (0 < ·)).map .nat := by
  rw [toJson_eq_present]
  exact Json.lookup_present request.names_layout_nodup (by simp [layout])

end Request

def Signed (n : Int) : Prop := Number.leastSigned ≤ n ∧ n ≤ Number.greatestSigned

instance (n : Int) : Decidable (Signed n) := inferInstanceAs (Decidable (_ ∧ _))

theorem toNat_saturate (n : Int) :
    ((saturate n).toNat : Int) = max 0 (min n Number.greatestSigned) := by
  have bounds : Number.leastSigned ≤ 0 ∧ 0 ≤ Number.greatestSigned := by decide
  unfold saturate
  omega

-- A factor is cut only where the product lies beyond the same end of the words, or below zero.
theorem toNat_saturate_mul (a b : Int) :
    ((saturate (saturate a * b)).toNat : Int) = max 0 (min (a * b) Number.greatestSigned) := by
  have bounds : Number.greatestSigned = 9223372036854775807 ∧
      Number.leastSigned = -9223372036854775808 := ⟨rfl, rfl⟩
  rw [toNat_saturate]
  rcases Int.lt_or_le Number.greatestSigned a with above | within
  · have cut : saturate a = Number.greatestSigned := by unfold saturate; omega
    rw [cut]
    rcases Int.lt_or_le 0 b with positive | other
    · have grown := Int.mul_le_mul_of_nonneg_left (show 1 ≤ b from positive)
        (show 0 ≤ Number.greatestSigned by omega)
      have more := Int.mul_le_mul_of_nonneg_right (Int.le_of_lt above) (Int.le_of_lt positive)
      omega
    · have one := Int.mul_nonpos_of_nonneg_of_nonpos (show 0 ≤ Number.greatestSigned by omega) other
      have two := Int.mul_nonpos_of_nonneg_of_nonpos (show 0 ≤ a by omega) other
      omega
  · rcases Int.lt_or_le a Number.leastSigned with below | among
    · have cut : saturate a = Number.leastSigned := by unfold saturate; omega
      rw [cut]
      rcases Int.lt_or_le b 0 with negative | other
      · have grown := Int.mul_le_mul_of_nonpos_left (show Number.leastSigned ≤ 0 by omega)
          (show b ≤ -1 from Int.le_sub_one_of_lt negative)
        have more := Int.mul_le_mul_of_nonpos_right (Int.le_of_lt below) (Int.le_of_lt negative)
        omega
      · have one := Int.mul_nonpos_of_nonpos_of_nonneg (show Number.leastSigned ≤ 0 by omega) other
        have two := Int.mul_nonpos_of_nonpos_of_nonneg (show a ≤ 0 by omega) other
        omega
    · have uncut : saturate a = a := by unfold saturate; omega
      rw [uncut]

-- How many hits stand before a page, in exact numbers. A page below the first is the first.
def hitsBefore (page size : Int) : Int := (max page 1 - 1) * size

theorem hitsBefore_nonneg {size : Int} (positive : 0 < size) (page : Int) :
    0 ≤ hitsBefore page size :=
  Int.mul_nonneg (by omega) (by omega)

theorem toNat_saturate_page {size : Int} (positive : 0 < size) (page : Int) :
    ((saturate (saturate (page - 1) * size)).toNat : Int) =
      min (hitsBefore page size) Number.greatestSigned := by
  have bound : 0 ≤ Number.greatestSigned := by decide
  have before := hitsBefore_nonneg positive page
  rw [toNat_saturate_mul]
  rcases Int.lt_or_le 1 page with later | first
  · have exact : hitsBefore page size = (page - 1) * size := by
      rw [hitsBefore, Int.max_eq_left (Int.le_of_lt later)]
    omega
  · have none : hitsBefore page size = 0 := by
      rw [hitsBefore, Int.max_eq_right first, Int.sub_self, Int.zero_mul]
    have product := Int.mul_nonpos_of_nonpos_of_nonneg (show page - 1 ≤ 0 by omega)
      (Int.le_of_lt positive)
    omega

namespace Builder

variable (builder : Builder)

theorem columnsOr_eq (columns : List String) :
    builder.columnsOr columns = if columns = [] then builder.columns else columns := by
  unfold columnsOr
  cases columns <;> rfl

def firstRequest (source : SourceFilter) : Request :=
  { builder.toRequest source with limit := some 1 }

def pageRequest (size page : Int) (source : SourceFilter) : Request :=
  { builder.toRequest source with
    offset := some (min (hitsBefore page size) Number.greatestSigned).toNat
    limit := some size.toNat }

theorem toRequest_take_one (source : SourceFilter) :
    (builder.take 1).toRequest source = builder.firstRequest source := rfl

theorem toRequest_forPage {size : Int} (positive : 0 < size) (page : Int)
    (source : SourceFilter) :
    (builder.forPage page size).toRequest source = builder.pageRequest size page source := by
  have start : (saturate (saturate (page - 1) * size)).toNat =
      (min (hitsBefore page size) Number.greatestSigned).toNat := by
    have exact := toNat_saturate_page positive page
    omega
  rw [forPage_eq, start, if_pos positive]
  rfl

section

variable {τ σ ρ : Type} [RecordStore σ ρ] (store : σ) (columns : List String)

def hydrateReply (reply : Except Error ResultPage × τ) :
    Except Error (List ρ × ResultPage) × τ × σ :=
  match reply with
  | (.error error, after) => (.error error, after, store)
  | (.ok page, after) =>
    let (records, asked) := builder.hydrateHits store page columns
    (records.map fun records => (records, page), after, asked)

theorem hydrateReply_failed {reply : Except Error ResultPage × τ} {error : Error}
    (failed : reply.1 = .error error) :
    builder.hydrateReply store columns reply = (.error error, reply.2, store) := by
  obtain ⟨answer, after⟩ := reply
  cases failed
  rfl

theorem hydrateReply_answered {reply : Except Error ResultPage × τ} {page : ResultPage}
    (answered : reply.1 = .ok page) :
    builder.hydrateReply store columns reply =
      ((builder.hydrateHits store page columns).1.map fun records => (records, page), reply.2,
        (builder.hydrateHits store page columns).2) := by
  obtain ⟨answer, after⟩ := reply
  cases answered
  rfl

theorem hydrateReply_transport (reply : Except Error ResultPage × τ) :
    (builder.hydrateReply store columns reply).2.1 = reply.2 := by
  rcases reply with ⟨_ | _, _⟩ <;> rfl

end

section

variable {τ σ ρ : Type} [Transport τ] [RecordStore σ ρ]
variable (transport : τ) (store : σ) (columns : List String)

theorem get_eq : builder.get transport columns =
    Transport.search transport builder.target
      (builder.toRequest (.fields (builder.columnsOr columns))).toJson := rfl

theorem get_forPage {size : Int} (positive : 0 < size) (page : Int) :
    (builder.forPage page size).get transport columns =
      Transport.search transport builder.target
        (builder.pageRequest size page (.fields (builder.columnsOr columns))).toJson := by
  rw [get_eq, toRequest_forPage builder positive, forPage_eq]
  rfl

theorem first_eq : builder.first transport columns =
    let reply := Transport.search transport builder.target
      (builder.firstRequest (.fields (builder.columnsOr columns))).toJson
    (reply.1.map fun page => page.hits.head?, reply.2) := rfl

theorem records_eq : builder.records transport store columns =
    builder.hydrateReply store columns
      (Transport.search transport builder.target (builder.toRequest .disabled).toJson) := by
  unfold records hydrateReply getIds
  rcases Transport.search transport builder.target (builder.toRequest .disabled).toJson with
    ⟨_ | _, _⟩ <;> rfl

theorem records_forPage {size : Int} (positive : 0 < size) (page : Int) :
    (builder.forPage page size).records transport store columns =
      builder.hydrateReply store columns
        (Transport.search transport builder.target
          (builder.pageRequest size page .disabled).toJson) := by
  rw [records_eq, toRequest_forPage builder positive, forPage_eq]
  rfl

theorem getRecords_eq : builder.getRecords transport store columns =
    let found := builder.hydrateReply store columns
      (Transport.search transport builder.target (builder.toRequest .disabled).toJson)
    (found.1.map fun found => ⟨found.1, found.2.total⟩, found.2) := by
  unfold getRecords
  rw [records_eq]

theorem firstRecord_eq : builder.firstRecord transport store columns =
    let found := builder.hydrateReply store columns
      (Transport.search transport builder.target (builder.firstRequest .disabled).toJson)
    (found.1.map fun found => found.1.head?, found.2) := by
  unfold firstRecord
  rw [records_eq, toRequest_take_one]
  rfl

end

section

variable (perPage : Option Int)

theorem pageSize_of_pos (positive : 0 < perPage.getD builder.perPage) :
    builder.pageSize perPage = .ok (perPage.getD builder.perPage) := by
  unfold pageSize
  exact if_neg (by omega)

theorem pageSize_refused (refused : perPage.getD builder.perPage ≤ 0) :
    builder.pageSize perPage =
      .error (.invalidArgument (.pageSize (perPage.getD builder.perPage))) := by
  unfold pageSize
  exact if_pos refused

variable {τ σ ρ : Type} [Transport τ] [RecordStore σ ρ]

theorem paginate_eq (positive : 0 < perPage.getD builder.perPage) (transport : τ) (page : Int)
    (columns : List String) :
    builder.paginate transport perPage page columns =
      let reply := Transport.search transport builder.target
        (builder.pageRequest (perPage.getD builder.perPage) page
          (.fields (builder.columnsOr columns))).toJson
      (reply.1.map fun found =>
        builder.paginator found.hits found.total (perPage.getD builder.perPage) page, reply.2) := by
  unfold paginate
  rw [builder.pageSize_of_pos perPage positive, ← builder.get_forPage transport columns positive]

theorem paginate_refused (refused : perPage.getD builder.perPage ≤ 0) (transport : τ)
    (page : Int) (columns : List String) :
    builder.paginate transport perPage page columns =
      (.error (.invalidArgument (.pageSize (perPage.getD builder.perPage))), transport) := by
  unfold paginate
  rw [builder.pageSize_refused perPage refused]

theorem paginateRecords_eq (positive : 0 < perPage.getD builder.perPage) (transport : τ)
    (store : σ) (page : Int) (columns : List String) :
    builder.paginateRecords transport store perPage page columns =
      let found := builder.hydrateReply store columns (Transport.search transport builder.target
        (builder.pageRequest (perPage.getD builder.perPage) page .disabled).toJson)
      (found.1.map fun found =>
        builder.paginator found.1 found.2.total (perPage.getD builder.perPage) page, found.2) := by
  unfold paginateRecords
  rw [builder.pageSize_of_pos perPage positive,
    ← builder.records_forPage transport store columns positive]

theorem paginateRecords_refused (refused : perPage.getD builder.perPage ≤ 0) (transport : τ)
    (store : σ) (page : Int) (columns : List String) :
    builder.paginateRecords transport store perPage page columns =
      (.error (.invalidArgument (.pageSize (perPage.getD builder.perPage))), transport, store) := by
  unfold paginateRecords
  rw [builder.pageSize_refused perPage refused]

end

end Builder

end SearchQuery
