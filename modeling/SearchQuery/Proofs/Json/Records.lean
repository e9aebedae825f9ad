import Mathlib.Data.List.Forall2
import SearchQuery.Json.Shape
import SearchQuery.Proofs.Wire.Members

namespace SearchQuery

-- Records read from objects whose members stand in any order and among members of other names.
-- Each field is found by its name, so reading such a record is reading its fields one by one.

namespace Slot

def ofMember : Option Json → Slot
  | some value => .given value
  | none => .missing

def ofItem : Option Json → Slot
  | some value => .given value
  | none => .cut

def value? : Slot → Option Json
  | .given value => some value
  | _ => none

theorem value?_ofMember (member : Option Json) : (ofMember member).value? = member := by
  cases member <;> rfl

theorem value?_ofItem (item : Option Json) : (ofItem item).value? = item := by
  cases item <;> rfl

theorem slotOfField_eq (fields : List (String × Json)) (name : String) :
    Json.slotOfField fields name = ofMember (fields.lookup name) := rfl

end Slot

namespace Json

def Carries (value : Json) (layout : List (String × Option Json)) : Prop :=
  ∃ fields others, value = .object fields ∧ (∀ other ∈ others, other.1 ∉ layout.map (·.1)) ∧
    fields.Perm (present layout ++ others)

theorem carries_present (layout : List (String × Option Json)) :
    (Json.object (present layout)).Carries layout :=
  ⟨present layout, [], rfl, nofun, by rw [List.append_nil]⟩

section

variable {value : Json} {layout : List (String × Option Json)} (carried : value.Carries layout)
  (distinct : (layout.map (·.1)).Nodup)

include carried distinct

theorem get?_of_carries {name : String} {held : Option Json} (listed : (name, held) ∈ layout) :
    value.get? name = held := by
  obtain ⟨fields, others, rfl, unknown, order⟩ := carried
  refine lookup_eq_of_mem_iff fun given => ?_
  have elsewhere : (name, given) ∉ others := fun other =>
    unknown _ other (List.mem_map_of_mem listed)
  rw [order.mem_iff, List.mem_append, or_iff_left elsewhere]
  exact mem_present_iff_of_listed distinct listed

theorem slots_of_carries :
    value.slots (layout.map (·.1)) = some (layout.map fun member => .ofMember member.2) := by
  have holds {name : String} {held : Option Json} (listed : (name, held) ∈ layout) :=
    get?_of_carries carried distinct listed
  obtain ⟨fields, _, rfl, _⟩ := carried
  simp only [slots, List.map_map, Option.some.injEq, List.map_inj_left]
  intro member listed
  exact congrArg Slot.ofMember (holds listed)

end

def unlessNull : Option Json → Option Json
  | some .null => none
  | member => member

theorem unlessNull_eq_none_iff {member : Option Json} :
    unlessNull member = none ↔ member = none ∨ member = some .null := by
  rcases member with _ | value
  · simp [unlessNull]
  · cases value <;> simp [unlessNull]

theorem unlessNull_eq_self_iff {member : Option Json} :
    unlessNull member = member ↔ member ≠ some .null := by
  rcases member with _ | value
  · simp [unlessNull]
  · cases value <;> simp [unlessNull]

theorem nullable_anyValue (value : Json) :
    nullable anyValue value = some (unlessNull (some value)) := by
  cases value <;> rfl

theorem word?_nat {n : Nat} (word : n ≤ Number.greatestWord) : (Json.nat n).word? = some n := by
  have bound : (n : Int) ≤ Number.greatestWord := by exact_mod_cast word
  simp [nat, Json.word?, Number.word?, bound]

theorem signed?_int {n : Int} (signed : Number.leastSigned ≤ n ∧ n ≤ Number.greatestSigned) :
    (Json.int n).signed? = some n := by
  simp [int, Json.signed?, Number.signed?, signed]

section

variable {α : Type} {decode : Json → Option α}

theorem mapM_eq_some_iff {items : List Json} {values : List α} :
    items.mapM decode = some values ↔
      List.Forall₂ (fun item value => decode item = some value) items values := by
  induction items generalizing values with
  | nil => simp [eq_comm]
  | cons item rest ih =>
    rw [List.mapM_cons, List.forall₂_cons_left_iff]
    simp only [Option.bind_eq_bind, Option.bind_eq_some_iff, Option.pure_def, Option.some.injEq, ih]
    constructor
    · rintro ⟨value, read, values, others, rfl⟩
      exact ⟨value, values, read, others, rfl⟩
    · rintro ⟨value, values, read, others, rfl⟩
      exact ⟨value, read, values, others, rfl⟩

theorem items?_eq_some_iff {list : Json} {values : List α} :
    items? decode list = some values ↔ ∃ items, list = .array items ∧
      List.Forall₂ (fun item value => decode item = some value) items values := by
  cases list <;> simp [items?, mapM_eq_some_iff]

theorem items?_map {encode : α → Json} {settled : α → α} {values : List α}
    (reads : ∀ value ∈ values, decode (encode value) = some (settled value)) :
    items? decode (.array (values.map encode)) = some (values.map settled) := by
  refine items?_eq_some_iff.mpr ⟨_, rfl, ?_⟩
  rw [List.forall₂_map_left_iff, List.forall₂_map_right_iff, List.forall₂_same]
  exact reads

end

end Json

namespace Slot

theorem required_string_iff {slot : Slot} {text : String} :
    slot.required Json.string? = some text ↔ slot.value? = some (.string text) := by
  cases slot with
  | given value => cases value <;> simp [required, value?, Json.string?]
  | missing | cut => exact iff_of_false nofun nofun

theorem withDefault_anyValue (slot : Slot) :
    slot.withDefault none (Json.nullable Json.anyValue) = some (Json.unlessNull slot.value?) := by
  cases slot with
  | given value => exact Json.nullable_anyValue value
  | missing | cut => rfl

theorem optional_anyValue (member : Option Json) :
    (ofMember member).optional (Json.nullable Json.anyValue) = some (Json.unlessNull member) := by
  cases member with
  | some value => exact Json.nullable_anyValue value
  | none => rfl

end Slot

end SearchQuery
