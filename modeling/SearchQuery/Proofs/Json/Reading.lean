import Mathlib.Tactic.SplitIfs
import SearchQuery.Proofs.Json.NumberText

namespace SearchQuery

-- Reading takes a compact text back to the value it was written from. The fuel of the reader is
-- measured by the text: every value and every place between two values has a character of its own.
namespace Document

open Reader

def ofNumber (value : Number) : Document :=
  match value.numeral? with
  | some numeral => .number numeral.literal.number?
  | none => .null

mutual
def ofJson : Json → Document
  | .null => .null
  | .bool value => .bool value
  | .number value => ofNumber value
  | .string value => .string (some value)
  | .array items => .array (ofItems items) none
  | .object fields => .object (ofFields fields) none
def ofItems : List Json → List Document
  | [] => []
  | item :: rest => ofJson item :: ofItems rest
def ofFields : List (String × Json) → List (Option String × Document)
  | [] => []
  | (name, value) :: rest => (some name, ofJson value) :: ofFields rest
end

theorem codeUnit?_control : ∀ unit < 32,
    codeUnit? '0' '0' (Json.hexDigit (unit / 16)) (Json.hexDigit (unit % 16)) = some unit := by
  decide

theorem scan_escape (c : Char) (rest : List Char) :
    scan none (Json.escape c ++ rest) = (scan none rest).push c := by
  unfold Json.escape
  split_ifs with quote slash _ _ _ _ _ control
  iterate 7
    · subst c
      rfl
  · have lead : isLead c.toNat = false := by simp [isLead]; omega
    have trail : isTrail c.toNat = false := by simp [isTrail]; omega
    simp [scan, codeUnit?_control c.toNat control, lead, trail]
  · simp [scan, slash, control]

theorem scan_escaped (chars rest : List Char) :
    scan none (chars.flatMap Json.escape ++ '"' :: rest) = ⟨.ok chars, .ok rest⟩ := by
  induction chars with
  | nil => rfl
  | cons c chars ih =>
    rw [List.flatMap_cons, List.append_assoc, scan_escape, ih]
    rfl

theorem quoted_escaped (text : String) (rest : List Char) :
    quoted (text.toList.flatMap Json.escape ++ '"' :: rest) = .ok (some text, rest) := by
  simp [quoted, scan_escaped, Except.toOption]

theorem numberText_cases (value : Number) :
    (∃ numeral : Numeral, numeral.WellFormed ∧ Json.numberText value = numeral.text ∧
      ofNumber value = .number numeral.literal.number?) ∨
    (Json.numberText value = Json.nullText ∧ ofNumber value = .null) := by
  cases written : value.numeral? with
  | none =>
    refine .inr ⟨?_, ?_⟩
    · simp [Json.numberText, value.digits?_eq, written]
    · simp [ofNumber, written]
  | some numeral =>
    refine .inl ⟨numeral, Number.numeral?_wellFormed written, ?_, ?_⟩
    · simp [Json.numberText, value.digits?_eq, written]
    · simp [ofNumber, written]

theorem compact_start (value : Json) : ∃ first rest, value.compact = first :: rest ∧
    isBlank first = false ∧ first ≠ ']' := by
  cases value with
  | null => exact ⟨_, _, rfl, by decide, by decide⟩
  | bool value => cases value <;> exact ⟨_, _, rfl, by decide, by decide⟩
  | number value =>
    rcases numberText_cases value with ⟨numeral, wellFormed, written, _⟩ | ⟨written, _⟩
    · rw [Json.compact, written]
      exact Numeral.text_start wellFormed
    · exact ⟨_, _, written, by decide, by decide⟩
  | string value => exact ⟨_, _, rfl, by decide, by decide⟩
  | array items => cases items <;> exact ⟨_, _, rfl, by decide, by decide⟩
  | object fields => cases fields <;> exact ⟨_, _, rfl, by decide, by decide⟩

-- What reading answers for the text of a value with any rest that does not continue a number.
def Reads (written : Json) : Prop :=
  ∀ fuel rest, written.compact.length ≤ fuel → Numeral.Ends rest →
    value fuel (written.compact ++ rest) = (ofJson written, some rest)

theorem ends_items (items : List Json) (rest : List Char) :
    Numeral.Ends (Json.compactItems items ++ rest) := by
  cases items <;> simp [Json.compactItems, Numeral.Ends, isDigit]

theorem ends_fields (fields : List (String × Json)) (rest : List Char) :
    Numeral.Ends (Json.compactFields fields ++ rest) := by
  cases fields <;> simp [Json.compactFields, Numeral.Ends, isDigit]

theorem items_start (item : Json) (fuel : Nat) (rest : List Char) :
    items (fuel + 1) true (item.compact ++ rest) = Reader.item fuel (item.compact ++ rest) := by
  obtain ⟨first, more, start, solid, other⟩ := compact_start item
  simp [start, items, skipBlanks, solid]

theorem items_next (next : Json) (fuel : Nat) (rest : List Char) :
    items (fuel + 1) false (',' :: (next.compact ++ rest)) = item fuel (next.compact ++ rest) := by
  obtain ⟨first, more, start, solid, other⟩ := compact_start next
  have comma : isBlank ',' = false := by decide
  simp [start, items, skipBlanks, solid, comma, other]

theorem members_start (name : String) (fuel : Nat) (rest : List Char) :
    members (fuel + 1) true (Json.quote name ++ rest) = member fuel (Json.quote name ++ rest) := by
  have quote : isBlank '"' = false := by decide
  simp [Json.quote, members, skipBlanks, quote]

theorem members_next (name : String) (fuel : Nat) (rest : List Char) :
    members (fuel + 1) false (',' :: (Json.quote name ++ rest)) =
      member fuel (Json.quote name ++ rest) := by
  have quote : isBlank '"' = false := by decide
  have comma : isBlank ',' = false := by decide
  simp [Json.quote, members, skipBlanks, quote, comma]

theorem item_read {next : Json} {others : List Json} {fuel : Nat} {rest : List Char}
    (readNext : Reads next) (fits : next.compact.length ≤ fuel)
    (readOthers : items fuel false (Json.compactItems others ++ rest) =
      (ofItems others, none, some rest)) :
    item fuel (next.compact ++ (Json.compactItems others ++ rest)) =
      (ofItems (next :: others), none, some rest) := by
  rw [item, readNext fuel _ fits (ends_items others rest)]
  simp only [readOthers, ofItems]

theorem items_read {written : List Json} (reads : ∀ item ∈ written, Reads item) (fuel : Nat)
    (rest : List Char) (fits : (Json.compactItems written).length ≤ fuel) :
    items fuel false (Json.compactItems written ++ rest) = (ofItems written, none, some rest) := by
  induction written generalizing fuel with
  | nil =>
    cases fuel with
    | zero => simp [Json.compactItems] at fits
    | succ fuel => simp [Json.compactItems, items, skipBlanks, isBlank, ofItems]
  | cons next others ih =>
    cases fuel with
    | zero => simp [Json.compactItems] at fits
    | succ fuel =>
      simp only [Json.compactItems, List.length_cons, List.length_append] at fits
      have readOthers := ih (fun item member => reads item (by simp [member])) fuel (by omega)
      rw [Json.compactItems, List.cons_append, List.append_assoc, items_next]
      exact item_read (reads next (by simp)) (by omega) readOthers

theorem member_read (name : String) {next : Json} {others : List (String × Json)} {fuel : Nat}
    {rest : List Char} (readNext : Reads next) (fits : next.compact.length ≤ fuel)
    (readOthers : members fuel false (Json.compactFields others ++ rest) =
      (ofFields others, none, some rest)) :
    member fuel (Json.quote name ++ ':' :: (next.compact ++ (Json.compactFields others ++ rest))) =
      (ofFields ((name, next) :: others), none, some rest) := by
  have colon : isBlank ':' = false := by decide
  have readName := quoted_escaped name
    (':' :: (next.compact ++ (Json.compactFields others ++ rest)))
  have readValue := readNext fuel _ fits (ends_fields others rest)
  simp [Json.quote, member, readName, skipBlanks, colon, readValue, readOthers, ofFields]

theorem members_read {written : List (String × Json)} (reads : ∀ field ∈ written, Reads field.2)
    (fuel : Nat) (rest : List Char) (fits : (Json.compactFields written).length ≤ fuel) :
    members fuel false (Json.compactFields written ++ rest) =
      (ofFields written, none, some rest) := by
  induction written generalizing fuel with
  | nil =>
    cases fuel with
    | zero => simp [Json.compactFields] at fits
    | succ fuel => simp [Json.compactFields, members, skipBlanks, isBlank, ofFields]
  | cons field others ih =>
    obtain ⟨name, next⟩ := field
    cases fuel with
    | zero => simp [Json.compactFields] at fits
    | succ fuel =>
      simp only [Json.compactFields, List.length_cons, List.length_append] at fits
      have readNext : Reads next := reads (name, next) (by simp)
      have readOthers := ih (fun item member => reads item (by simp [member])) fuel (by omega)
      simp only [Json.compactFields, List.cons_append, List.append_assoc, members_next]
      exact member_read name readNext (by omega) readOthers

theorem value_null (fuel : Nat) (rest : List Char) :
    value (fuel + 1) (Json.nullText ++ rest) = (.null, some rest) := by
  simp [Json.nullText, value, skipBlanks, isBlank, word]

theorem value_bool (flag : Bool) (fuel : Nat) (rest : List Char) :
    value (fuel + 1) (Json.boolText flag ++ rest) = (.bool flag, some rest) := by
  cases flag <;> simp [Json.boolText, value, skipBlanks, isBlank, word]

theorem value_string (text : String) (fuel : Nat) (rest : List Char) :
    value (fuel + 1) (Json.quote text ++ rest) = (.string (some text), some rest) := by
  have read := quoted_escaped text rest
  simp [Json.quote, value, skipBlanks, isBlank, read]

theorem value_number (number : Number) (fuel : Nat) {rest : List Char} (ends : Numeral.Ends rest) :
    value (fuel + 1) (Json.numberText number ++ rest) = (ofNumber number, some rest) := by
  rcases numberText_cases number with ⟨numeral, wellFormed, written, document⟩ | ⟨written, document⟩
  · rw [written, document]
    exact Numeral.value_append wellFormed ends fuel
  · rw [written, document]
    exact value_null fuel rest

theorem compact_pos (written : Json) : 0 < written.compact.length := by
  obtain ⟨first, rest, start, _, _⟩ := compact_start written
  simp [start]

theorem reads_array {written : List Json} (reads : ∀ item ∈ written, Reads item) :
    Reads (.array written) := by
  intro fuel rest fits _
  cases written with
  | nil =>
    obtain ⟨fuel, rfl⟩ : ∃ less, fuel = less + 2 := Nat.exists_eq_add_of_le' fits
    simp [Json.compact, value, items, skipBlanks, isBlank, ofItems, ofJson]
  | cons first others =>
    have some := compact_pos first
    have more : 0 < (Json.compactItems others).length := by
      cases others <;> simp [Json.compactItems]
    simp only [Json.compact, List.length_cons, List.length_append] at fits
    -- One level of fuel is for the array and one for the place before its first item.
    obtain ⟨fuel, rfl⟩ : ∃ less, fuel = less + 2 := Nat.exists_eq_add_of_le' (by omega)
    have readOthers := items_read (fun item member => reads item (List.mem_cons_of_mem _ member))
      fuel rest (by omega)
    have readAll := item_read (reads first (by simp)) (by omega) readOthers
    simp [Json.compact, value, skipBlanks, isBlank, items_start, readAll, ofJson]

theorem reads_object {written : List (String × Json)} (reads : ∀ field ∈ written, Reads field.2) :
    Reads (.object written) := by
  intro fuel rest fits _
  cases written with
  | nil =>
    obtain ⟨fuel, rfl⟩ : ∃ less, fuel = less + 2 := Nat.exists_eq_add_of_le' fits
    simp [Json.compact, value, members, skipBlanks, isBlank, ofFields, ofJson]
  | cons first others =>
    obtain ⟨name, first⟩ := first
    have some := compact_pos first
    simp only [Json.compact, List.length_cons, List.length_append] at fits
    obtain ⟨fuel, rfl⟩ : ∃ less, fuel = less + 2 := Nat.exists_eq_add_of_le' (by omega)
    have readFirst : Reads first := reads (name, first) (by simp)
    have readOthers := members_read (fun item member => reads item (List.mem_cons_of_mem _ member))
      fuel rest (by omega)
    have readAll := member_read name readFirst (by omega) readOthers
    simp [Json.compact, value, skipBlanks, isBlank, members_start, readAll, ofJson]

theorem reads (written : Json) : Reads written := by
  have positive {fuel : Nat} (scalar : Json) (fits : scalar.compact.length ≤ fuel) :
      ∃ less, fuel = less + 1 :=
    Nat.exists_eq_add_of_le' (Nat.le_trans (compact_pos scalar) fits)
  induction written with
  | null =>
    intro fuel rest fits _
    obtain ⟨fuel, rfl⟩ := positive _ fits
    exact value_null fuel rest
  | bool flag =>
    intro fuel rest fits _
    obtain ⟨fuel, rfl⟩ := positive _ fits
    exact value_bool flag fuel rest
  | number number =>
    intro fuel rest fits ends
    obtain ⟨fuel, rfl⟩ := positive _ fits
    exact value_number number fuel ends
  | string text =>
    intro fuel rest fits _
    obtain ⟨fuel, rfl⟩ := positive _ fits
    exact value_string text fuel rest
  | array items readItems => exact reads_array readItems
  | object fields readFields => exact reads_object readFields

theorem read_text (written : Json) : read written.text = (ofJson written, false) := by
  have answer := reads written (2 * written.compact.length + 2) [] (by omega) Numeral.ends_nil
  rw [List.append_nil] at answer
  simp [read, Json.text, answer, skipBlanks]

theorem skip_ofJson (written : Json) : (ofJson written).skip = .ok () := by
  induction written with
  | number value =>
    rcases numberText_cases value with ⟨_, _, _, document⟩ | ⟨_, document⟩ <;>
      simp [ofJson, document, skip]
  | array items skipped =>
    rw [ofJson, skip]
    induction items with
    | nil => rfl
    | cons item rest ih =>
      have others := ih fun other member => skipped other (by simp [member])
      rw [ofItems, skipItems, skipped item (by simp)]
      exact others
  | object fields skipped =>
    rw [ofJson, skip]
    induction fields with
    | nil => rfl
    | cons field rest ih =>
      have others := ih fun other member => skipped other (by simp [member])
      rw [ofFields, skipMembers, skipped field (by simp)]
      exact others
  | _ => rfl

end Document

end SearchQuery
