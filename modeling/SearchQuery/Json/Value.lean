import SearchQuery.Number.Literal

namespace SearchQuery

-- JSON values. Members of an object keep the order in which they were written, and that order is
-- part of what a request body says.
inductive Json where
  | null
  | bool (value : Bool)
  | number (value : Number)
  | string (value : String)
  | array (items : List Json)
  | object (fields : List (String × Json))

instance : Inhabited Json := ⟨.null⟩

namespace Json

@[induction_eliminator]
theorem induction {motive : Json → Prop} (null : motive .null)
    (bool : ∀ value, motive (.bool value)) (number : ∀ value, motive (.number value))
    (string : ∀ value, motive (.string value))
    (array : ∀ items, (∀ item ∈ items, motive item) → motive (.array items))
    (object : ∀ fields, (∀ field ∈ fields, motive field.2) → motive (.object fields))
    (value : Json) : motive value := by
  refine @Json.rec motive
    (fun items => ∀ item ∈ items, motive item)
    (fun fields => ∀ field ∈ fields, motive field.2)
    (fun field => motive field.2)
    null bool number string array object ?_ ?_ ?_ ?_ (fun _ _ holds => holds) value
  · intro item member
    cases member
  · intro first rest holdsFirst holdsRest item member
    rcases List.mem_cons.mp member with rfl | later
    · exact holdsFirst
    · exact holdsRest item later
  · intro field member
    cases member
  · intro first rest holdsFirst holdsRest field member
    rcases List.mem_cons.mp member with rfl | later
    · exact holdsFirst
    · exact holdsRest field later

def nat (n : Nat) : Json := .number (.integer n)

def int (n : Int) : Json := .number (.integer n)

def strings (values : List String) : Json := .array (values.map .string)

def put (fields : List (String × Json)) (name : String) (value : Json) : List (String × Json) :=
  match fields with
  | [] => [(name, value)]
  | (key, old) :: rest =>
    if key = name then (key, value) :: rest else (key, old) :: put rest name value

def get? (value : Json) (name : String) : Option Json :=
  match value with
  | .object fields => fields.lookup name
  | _ => none

def string? : Json → Option String
  | .string value => some value
  | _ => none

def word? : Json → Option Nat
  | .number value => value.word?
  | _ => none

def signed? : Json → Option Int
  | .number value => value.signed?
  | _ => none

theorem mem_of_lookup {fields : List (String × Json)} {name : String} {value : Json}
    (found : fields.lookup name = some value) : (name, value) ∈ fields := by
  obtain ⟨before, after, rfl, _⟩ := List.lookup_eq_some_iff.mp found
  simp

theorem first_eq_lookup {α : Type} {first : List (String × Json) → α} {name : String}
    {found : Json → α} {missing : α} (empty : first [] = missing)
    (step : ∀ key value rest,
      first ((key, value) :: rest) = if key = name then found value else first rest)
    (fields : List (String × Json)) :
    first fields = match fields.lookup name with
      | some value => found value
      | none => missing := by
  induction fields with
  | nil => exact empty
  | cons field rest ih =>
    obtain ⟨key, value⟩ := field
    rw [step]
    by_cases same : key = name
    · simp [same]
    · have missed : (name == key) = false := by simpa using Ne.symm same
      simp [same, List.lookup_cons, missed, ih]

end Json

end SearchQuery
