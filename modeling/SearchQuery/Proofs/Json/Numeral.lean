import SearchQuery.Json.Printer
import SearchQuery.Json.Reader

namespace SearchQuery

-- The text of a number as a numeral with its parts: reading takes the numeral back into the parts
-- it was written from, and every number that is written is written as such a numeral.
open Document Document.Reader

structure Numeral where
  negative : Bool
  whole : List Char
  fraction : Option (List Char)
  exponent : Option Int

namespace Numeral

def fractionText : Option (List Char) → List Char
  | none => []
  | some digits => '.' :: digits

def exponentText : Option Int → List Char
  | none => []
  | some power => 'e' :: ((if 0 ≤ power then ['+'] else []) ++ intDigits power)

def magnitude (numeral : Numeral) : List Char :=
  numeral.whole ++ (fractionText numeral.fraction ++ exponentText numeral.exponent)

def text (numeral : Numeral) : List Char :=
  (if numeral.negative then ['-'] else []) ++ numeral.magnitude

def literal (numeral : Numeral) : Literal :=
  ⟨numeral.negative, numeral.whole.map digitValue, numeral.fraction.map (·.map digitValue),
    numeral.exponent⟩

def IsDigits (chars : List Char) : Prop := chars ≠ [] ∧ ∀ c ∈ chars, isDigit c = true

structure WellFormed (numeral : Numeral) : Prop where
  whole : IsDigits numeral.whole
  unpadded : numeral.whole.head? = some '0' → numeral.whole = ['0']
  fraction : ∀ digits ∈ numeral.fraction, IsDigits digits

def Ends (rest : List Char) : Prop :=
  ∀ c ∈ rest.head?, isDigit c = false ∧ c ≠ '.' ∧ c ≠ 'e' ∧ c ≠ 'E'

variable {chars rest : List Char}

theorem ends_nil : Ends [] := by simp [Ends]

theorem undigit_of_ends (ends : Ends rest) : ∀ c ∈ rest.head?, isDigit c = false :=
  fun c first => (ends c first).1

theorem digits_append (isDigits : IsDigits chars)
    (stops : ∀ c ∈ rest.head?, isDigit c = false) :
    digits (chars ++ rest) = (chars.map digitValue, rest) := by
  have taken : rest.takeWhile isDigit = [] := by
    cases rest <;> simp_all
  have dropped : rest.dropWhile isDigit = rest := by
    cases rest <;> simp_all
  simp only [digits, List.takeWhile_append_of_pos isDigits.2, taken,
    List.dropWhile_append_of_pos isDigits.2, dropped, List.append_nil]

theorem wholePart_append (isDigits : IsDigits chars)
    (unpadded : chars.head? = some '0' → chars = ['0'])
    (stops : ∀ c ∈ rest.head?, isDigit c = false) :
    wholePart (chars ++ rest) = .ok (chars.map digitValue, rest) := by
  have scanned := digits_append isDigits stops
  obtain ⟨some, _⟩ := isDigits
  cases chars with
  | nil => exact absurd rfl some
  | cons first more =>
    by_cases zero : first = '0'
    · obtain ⟨rfl, rfl⟩ : first = '0' ∧ more = [] := by simpa [zero] using unpadded (by simp [zero])
      cases rest <;> simp_all [wholePart, digitValue]
    · simp only [List.cons_append] at scanned ⊢
      rw [wholePart]
      · simp [scanned]
      · simpa using zero

theorem fractionPart_append {fraction : Option (List Char)}
    (isDigits : ∀ digits ∈ fraction, IsDigits digits)
    (stops : ∀ c ∈ rest.head?, isDigit c = false ∧ c ≠ '.') :
    fractionPart (fractionText fraction ++ rest) =
      .ok (fraction.map (·.map digitValue), rest) := by
  cases fraction with
  | none =>
    cases rest with
    | nil => rfl
    | cons c more =>
      have other : c ≠ '.' := (stops c (by simp)).2
      simp [fractionText, fractionPart, other]
  | some chars =>
    have some := isDigits chars (by simp)
    have scanned := digits_append some fun c first => (stops c first).1
    simp [fractionText, fractionPart, scanned, some.1]

theorem isDigits_natDigits (n : Nat) : IsDigits (natDigits n) := by
  refine ⟨Nat.toDigits_ne_nil, fun c member => ?_⟩
  exact Nat.isDigit_of_mem_toDigits (by decide) (by decide) member

theorem value_natDigits (n : Nat) :
    ((natDigits n).map digitValue).foldl (fun (n : Nat) digit => n * 10 + digit) 0 = n := by
  have value : Nat.ofDigitChars 10 (natDigits n) 0 = n := Nat.ofDigitChars_ten_toDigits
  simpa [Nat.ofDigitChars_eq_foldl, List.foldl_map, digitValue, Nat.mul_comm] using value

theorem exponentDigits_append (negative : Bool) (n : Nat)
    (stops : ∀ c ∈ rest.head?, isDigit c = false) :
    exponentDigits negative (natDigits n ++ rest) =
      .ok (some (if negative then -(n : Int) else n), rest) := by
  have isDigits := isDigits_natDigits n
  simp [exponentDigits, digits_append isDigits stops, isDigits.1, value_natDigits]

theorem exponentPart_append (exponent : Option Int) (ends : Ends rest) :
    exponentPart (exponentText exponent ++ rest) = .ok (exponent, rest) := by
  have stops := undigit_of_ends ends
  match exponent with
  | none =>
    cases rest with
    | nil => rfl
    | cons c more =>
      obtain ⟨_, _, small, large⟩ := ends c (by simp)
      simp [exponentText, exponentPart, small, large]
  | some (.ofNat n) =>
    exact exponentDigits_append false n stops
  | some (.negSucc n) =>
    exact exponentDigits_append true (n + 1) stops

-- Each part ends where the next one starts, whether the parts between are written or not.
theorem head_exponentText (exponent : Option Int) (ends : Ends rest) :
    ∀ c ∈ (exponentText exponent ++ rest).head?, isDigit c = false ∧ c ≠ '.' := by
  cases exponent with
  | none => exact fun c first => ⟨(ends c first).1, (ends c first).2.1⟩
  | some power => simp [exponentText, isDigit]

theorem head_fractionText (fraction : Option (List Char))
    (stops : ∀ c ∈ rest.head?, isDigit c = false) :
    ∀ c ∈ (fractionText fraction ++ rest).head?, isDigit c = false := by
  cases fraction with
  | none => exact stops
  | some digits => simp [fractionText, isDigit]

theorem literal_append {numeral : Numeral} (wellFormed : numeral.WellFormed) (ends : Ends rest) :
    Document.Reader.literal numeral.negative (numeral.magnitude ++ rest) =
      .ok (numeral.literal, rest) := by
  obtain ⟨whole, unpadded, fraction⟩ := wellFormed
  have point := head_exponentText numeral.exponent ends
  have afterWhole := wholePart_append whole unpadded
    (head_fractionText numeral.fraction fun c first => (point c first).1)
  have afterFraction := fractionPart_append fraction point
  have afterExponent := exponentPart_append numeral.exponent ends
  simp only [magnitude, List.append_assoc, Document.Reader.literal, bind, Except.bind, afterWhole,
    afterFraction, afterExponent]
  rfl

theorem solid_of_digit {c : Char} (digit : isDigit c = true) : isBlank c = false := by
  cases blank : isBlank c with
  | false => rfl
  | true =>
    simp only [isBlank, Bool.or_eq_true, decide_eq_true_eq] at blank
    rcases blank with ((rfl | rfl) | rfl) | rfl <;> simp [isDigit] at digit

theorem text_start {numeral : Numeral} (wellFormed : numeral.WellFormed) :
    ∃ first rest, numeral.text = first :: rest ∧ isBlank first = false ∧ first ≠ ']' := by
  cases sign : numeral.negative with
  | true => exact ⟨'-', numeral.magnitude, by simp [text, sign], by decide, by decide⟩
  | false =>
    obtain ⟨some, isDigits⟩ := wellFormed.whole
    obtain ⟨first, more, whole⟩ := List.exists_cons_of_ne_nil some
    have digit := isDigits first (by simp [whole])
    have begins : numeral.text =
        first :: (more ++ (fractionText numeral.fraction ++ exponentText numeral.exponent)) := by
      simp [text, magnitude, sign, whole]
    refine ⟨first, _, begins, solid_of_digit digit, ?_⟩
    rintro rfl
    simp [isDigit] at digit

theorem value_digit {c : Char} (digit : isDigit c = true) (fuel : Nat) (rest : List Char) :
    value (fuel + 1) (c :: rest) = Reader.number false (c :: rest) := by
  have start : skipBlanks (c :: rest) = c :: rest := by simp [skipBlanks, solid_of_digit digit]
  rw [value, start]
  split
  case h_9 first more _ _ _ _ _ _ _ same =>
    obtain ⟨rfl, rfl⟩ := List.cons.inj same
    rw [if_pos digit]
  all_goals simp_all [isDigit]

theorem value_append {numeral : Numeral} (wellFormed : numeral.WellFormed) (ends : Ends rest)
    (fuel : Nat) :
    value (fuel + 1) (numeral.text ++ rest) =
      (.number numeral.literal.number?, some rest) := by
  have read : Reader.number numeral.negative (numeral.magnitude ++ rest) =
      (.number numeral.literal.number?, some rest) := by
    rw [Reader.number, literal_append wellFormed ends]
  cases sign : numeral.negative with
  | true =>
    rw [sign] at read
    simpa [text, sign, value, skipBlanks, isBlank] using read
  | false =>
    obtain ⟨some, isDigits⟩ := wellFormed.whole
    obtain ⟨c, more, whole⟩ := List.exists_cons_of_ne_nil some
    have digit := isDigits c (by simp [whole])
    simpa [text, magnitude, sign, whole, value_digit digit] using read

end Numeral

end SearchQuery
