import Mathlib.Data.List.DropRight
import SearchQuery.Proofs.Json.Numeral

namespace SearchQuery

-- Every number that has a text is written as a well-formed numeral, and the numeral of an integer
-- that fits 64 bits stands for that integer.
open Numeral Document.Reader

theorem div_le_roundRatio (num den : Nat) : num / den ≤ roundRatio num den := by
  unfold roundRatio
  dsimp only
  split
  · exact Nat.le_refl _
  · split <;> omega

namespace Binary

theorem step_lt_twice {format : BinaryFormat} {units : Nat} (wide : 0 < format.precision)
    (positive : 0 < units) : step format units < 2 * units := by
  unfold step
  split
  · omega
  · have shorter : units.log2 + 1 - format.precision ≤ units.log2 := by omega
    have power : twoPower units.log2 ≤ units := Nat.log2_self_le (by omega)
    have grows : twoPower (units.log2 + 1 - format.precision) ≤ twoPower units.log2 :=
      Nat.pow_le_pow_right (by decide) shorter
    omega

end Binary

namespace Shortest

theorem interval_low_pos {format : BinaryFormat} {units : Nat} (wide : 0 < format.precision)
    (positive : 0 < units) : 0 < (interval format units).low := by
  have below := Binary.step_lt_twice wide positive
  simp only [interval]
  split <;> omega

theorem pos_of_holds {range : Interval} {factor den x : Nat} (low : 0 < range.low)
    (scaled : 0 < factor) (held : range.holds factor den x = true) : 0 < x := by
  have least : 0 < range.low * factor := Nat.mul_pos low scaled
  cases x with
  | zero => simp [Interval.holds] at held; omega
  | succ x => omega

theorem onGrid_pos {range : Interval} {den point : Nat} {power : Int} (low : 0 < range.low)
    (found : onGrid range den power = some point) : 0 < point := by
  have scaled : 0 < tenPower (-power).toNat := Nat.pow_pos (by decide)
  unfold onGrid at found
  dsimp only at found
  split at found
  case h_1 below _ =>
    cases found
    exact Nat.lt_of_lt_of_le (pos_of_holds low scaled below) (div_le_roundRatio _ _)
  case h_2 below _ =>
    cases found
    exact pos_of_holds low scaled below
  case h_3 =>
    cases found
    exact Nat.succ_pos _
  case h_4 => cases found

end Shortest

theorem isDigits_zero : IsDigits ['0'] := by simp [IsDigits, isDigit]

theorem isDigit_zeros (n : Nat) : ∀ c ∈ List.replicate n '0', isDigit c = true := by
  intro c member
  rw [List.eq_of_mem_replicate member]
  rfl

theorem head_natDigits {n : Nat} (positive : 0 < n) : (natDigits n).head? ≠ some '0' := by
  induction n using Nat.strongRecOn with
  | ind n ih =>
    by_cases short : n < 10
    · have nonzero : n ≠ 0 := by omega
      simp [natDigits, Nat.toDigits_of_lt_base short, nonzero]
    · have split : natDigits n = natDigits (n / 10) ++ [Nat.digitChar (n % 10)] :=
        Nat.toDigits_of_base_le (by decide) (by omega)
      have leading := ih (n / 10) (by omega) (by omega)
      obtain ⟨some, _⟩ := isDigits_natDigits (n / 10)
      rw [split, List.head?_append_of_ne_nil _ some]
      exact leading

namespace Scientific

structure Proper (number : Scientific) : Prop where
  isDigits : IsDigits number.digits
  unpadded : number.digits.head? = some '0' → number = ⟨['0'], 0⟩

theorem zero_proper : Proper ⟨['0'], 0⟩ := ⟨isDigits_zero, fun _ => rfl⟩

-- Zeros are cut off behind the digits only, so they begin as the grid point does.
theorem ofGrid_proper {point : Nat} (positive : 0 < point) (power : Int) :
    (ofGrid point power).Proper := by
  have leading := head_natDigits positive
  obtain ⟨some, isDigits⟩ := isDigits_natDigits point
  have kept : (ofGrid point power).digits = (natDigits point).rdropWhile (· = '0') := rfl
  have part : (ofGrid point power).digits <+: natDigits point := by
    rw [kept]
    exact List.rdropWhile_prefix _ _
  have left : (ofGrid point power).digits ≠ [] := by
    intro none
    have zeros := List.rdropWhile_eq_nil_iff.mp (kept.symm.trans none)
    obtain ⟨first, more, begins⟩ := List.exists_cons_of_ne_nil some
    have zero := zeros first (by simp [begins])
    simp_all
  have same : (ofGrid point power).digits.head? = (natDigits point).head? := by
    obtain ⟨rest, whole⟩ := part
    rw [← whole, List.head?_append_of_ne_nil _ left]
  exact ⟨⟨left, fun c member => isDigits c (part.subset member)⟩,
    fun zero => absurd (same.symm.trans zero) leading⟩

theorem shortest_proper {format : BinaryFormat} {units : Nat} (wide : 0 < format.precision)
    (positive : 0 < units) : (shortest format units).Proper := by
  have low := Shortest.interval_low_pos wide positive
  unfold shortest
  dsimp only
  cases hit : List.findSome? _ (List.range 17) with
  | none => exact zero_proper
  | some number =>
    obtain ⟨more, _, found⟩ := List.exists_of_findSome?_eq_some hit
    obtain ⟨point, onGrid, rfl⟩ := Option.map_eq_some_iff.mp found
    exact ofGrid_proper (Shortest.onGrid_pos low onGrid) _

end Scientific

namespace DecimalLayout

structure Numeric (layout : DecimalLayout) : Prop where
  emptyFraction : layout.emptyFraction = ['.', '0']
  exponentMark : layout.exponentMark = ['e']
  plus : layout.plus = ['+']

theorem body_numeric : body.Numeric := ⟨rfl, rfl, rfl⟩

theorem score_numeric : score.Numeric := ⟨rfl, rfl, rfl⟩

def numeral (layout : DecimalLayout) (negative : Bool) (number : Scientific) : Numeral :=
  if layout.plainFrom ≤ number.exponent ∧ number.exponent < layout.plainBelow then
    match number.exponent with
    | .negSucc before => ⟨negative, ['0'], some (List.replicate before '0' ++ number.digits), none⟩
    | .ofNat last =>
      let whole := number.digits.take (last + 1)
      let fraction := number.digits.drop (last + 1)
      ⟨negative, whole ++ List.replicate (last + 1 - whole.length) '0',
        some (if fraction.isEmpty then ['0'] else fraction), none⟩
  else
    ⟨negative, number.digits.take 1,
      if (number.digits.drop 1).isEmpty then none else some (number.digits.drop 1),
      some number.exponent⟩

theorem magnitude_numeral {layout : DecimalLayout} (numeric : layout.Numeric) (negative : Bool)
    (number : Scientific) :
    (layout.numeral negative number).magnitude = layout.write number := by
  obtain ⟨emptyFraction, exponentMark, plus⟩ := numeric
  obtain ⟨digits, exponent⟩ := number
  unfold write numeral
  dsimp only
  split
  · unfold positional
    cases exponent with
    | ofNat last =>
      cases fraction : (digits.drop (last + 1)).isEmpty <;>
        simp [magnitude, fractionText, exponentText, fraction, emptyFraction]
    | negSucc before => simp [magnitude, fractionText, exponentText]
  · unfold withExponent
    cases digits.drop 1 <;>
      simp [magnitude, fractionText, exponentText, exponentMark, plus]

theorem numeral_wellFormed (layout : DecimalLayout) (negative : Bool) {number : Scientific}
    (proper : number.Proper) : (layout.numeral negative number).WellFormed := by
  obtain ⟨digits, exponent⟩ := number
  obtain ⟨⟨some, isDigits⟩, unpadded⟩ := proper
  obtain ⟨first, more, rfl⟩ := List.exists_cons_of_ne_nil some
  unfold numeral
  dsimp only
  split
  · cases exponent with
    | ofNat last =>
      have part : ∀ c ∈ (first :: more).take (last + 1), isDigit c = true :=
        fun c member => isDigits c (List.mem_of_mem_take member)
      refine ⟨⟨by simp, List.forall_mem_append.mpr ⟨part, isDigit_zeros _⟩⟩, fun padded => ?_, ?_⟩
      · have zero := unpadded (by simpa using padded)
        simp_all
      · rintro _ ⟨⟩
        split
        · exact isDigits_zero
        · rename_i left
          exact ⟨by simpa using left, fun c member => isDigits c (List.mem_of_mem_drop member)⟩
    | negSucc before =>
      refine ⟨isDigits_zero, fun _ => rfl, ?_⟩
      rintro _ ⟨⟩
      exact ⟨by simp, List.forall_mem_append.mpr ⟨isDigit_zeros before, isDigits⟩⟩
  · refine ⟨⟨by simp, fun c member => isDigits c (List.mem_of_mem_take member)⟩,
      fun padded => by simpa using padded, fun fraction written => ?_⟩
    split at written
    · cases written
    · cases written
      rename_i left
      exact ⟨by simpa using left, fun c member => isDigits c (List.mem_of_mem_drop member)⟩

@[simp] theorem negative_numeral (layout : DecimalLayout) (negative : Bool)
    (number : Scientific) : (layout.numeral negative number).negative = negative := by
  unfold numeral
  split
  · split <;> rfl
  · rfl

def binaryNumeral? {format : BinaryFormat} (layout : DecimalLayout) :
    Binary format → Option Numeral
  | .infinite _ => none
  | .finite negative units =>
    some (layout.numeral negative (if units = 0 then ⟨['0'], 0⟩ else .shortest format units))

theorem writeBinary_eq {format : BinaryFormat} {layout : DecimalLayout} (numeric : layout.Numeric)
    (value : Binary format) :
    layout.writeBinary value = (layout.binaryNumeral? value).map Numeral.text := by
  cases value with
  | infinite negative => rfl
  | finite negative units =>
    simp only [writeBinary, binaryNumeral?, Option.map_some, text, negative_numeral,
      magnitude_numeral numeric]

theorem binaryNumeral_wellFormed {format : BinaryFormat} {layout : DecimalLayout}
    (wide : 0 < format.precision) {value : Binary format} {numeral : Numeral}
    (written : layout.binaryNumeral? value = some numeral) : numeral.WellFormed := by
  cases value with
  | infinite negative => cases written
  | finite negative units =>
    cases written
    apply numeral_wellFormed
    split
    · exact Scientific.zero_proper
    · exact Scientific.shortest_proper wide (by omega)

end DecimalLayout

namespace Number

def ofInteger (value : Int) : Numeral :=
  ⟨decide (value < 0), natDigits value.natAbs, none, none⟩

def numeral? : Number → Option Numeral
  | .integer value => some (ofInteger value)
  | .double value => DecimalLayout.body.binaryNumeral? value
  | .single value => DecimalLayout.score.binaryNumeral? value

theorem digits?_eq (value : Number) : value.digits? = value.numeral?.map Numeral.text := by
  cases value with
  | integer value =>
    cases value <;>
      simp [digits?, numeral?, ofInteger, text, magnitude, fractionText, exponentText, intDigits]
  | double value => exact DecimalLayout.writeBinary_eq DecimalLayout.body_numeric value
  | single value => exact DecimalLayout.writeBinary_eq DecimalLayout.score_numeric value

theorem ofInteger_wellFormed (value : Int) : (ofInteger value).WellFormed := by
  refine ⟨isDigits_natDigits _, fun padded => ?_, fun _ none => by cases none⟩
  have zero : value.natAbs = 0 := by
    by_contra nonzero
    exact head_natDigits (by omega) padded
  simp [ofInteger, zero, natDigits]

theorem numeral?_wellFormed {value : Number} {numeral : Numeral}
    (written : value.numeral? = some numeral) : numeral.WellFormed := by
  cases value with
  | integer value =>
    cases written
    exact ofInteger_wellFormed value
  | double value => exact DecimalLayout.binaryNumeral_wellFormed (by decide) written
  | single value => exact DecimalLayout.binaryNumeral_wellFormed (by decide) written

theorem le_foldl_digits (digits : List Nat) (n : Nat) :
    n ≤ digits.foldl (fun n digit => n * 10 + digit) n := by
  induction digits generalizing n with
  | nil => exact Nat.le_refl n
  | cons digit rest ih =>
    have further := ih (n * 10 + digit)
    simp only [List.foldl_cons]
    omega

theorem gather_of_fits {digits : List Nat} {n : Nat}
    (fits : digits.foldl (fun n digit => n * 10 + digit) n ≤ greatestWord) :
    Literal.gather n digits = (digits.foldl (fun n digit => n * 10 + digit) n, 0) := by
  induction digits generalizing n with
  | nil => rfl
  | cons digit rest ih =>
    have step := Nat.le_trans (le_foldl_digits rest (n * 10 + digit)) fits
    simp only [Literal.gather, step, if_true, List.foldl_cons]
    exact ih fits

theorem gather_natDigits {n : Nat} (fits : n ≤ greatestWord) :
    Literal.gather 0 ((natDigits n).map digitValue) = (n, 0) := by
  have value := value_natDigits n
  rw [gather_of_fits (by rw [value]; exact fits), value]

theorem number?_ofInteger {value : Int} (low : leastSigned ≤ value)
    (high : value ≤ greatestWord) :
    (ofInteger value).literal.number? = some (.integer value) := by
  have word : value.natAbs ≤ greatestWord := by
    simp only [leastSigned, greatestWord] at *
    omega
  simp only [ofInteger, Numeral.literal, Literal.number?, Option.map_none, gather_natDigits word]
  by_cases negative : value < 0
  · have size : -(value.natAbs : Int) = value := by omega
    have some : 0 < value.natAbs := by omega
    simp only [negative, decide_true, not_true_eq_false, and_false, if_false, size, some, low,
      and_self, if_true]
  · have size : (value.natAbs : Int) = value := by omega
    simp only [negative, decide_false, Bool.false_eq_true, not_false_eq_true, and_self, if_true,
      size]

end Number

end SearchQuery
