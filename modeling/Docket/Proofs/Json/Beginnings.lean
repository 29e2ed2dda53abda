import Docket.Json.Printer
import Mathlib.Data.String.Basic
import Mathlib.Order.Compare

/-!
# How the text of a value begins

The first character of the text of a value tells the kind of the value. A string begins with a
quotation mark, a number with a sign or a digit, an array and an object with their brackets, and
a truth value with the letter of its word (`characters_begin`). In the order of characters these
come one after another without overlap, but for null, which is among the truth values. So values
of different kinds that are not null have the order of their kinds as texts
(`text_lt_of_kind_lt`), whatever they hold.
-/

set_option autoImplicit false

namespace Docket

/-! ## Numbers -/

/-- A text that begins like a number: with a sign or with a digit. -/
def BeginsAsNumber (text : List Char) : Prop :=
  ∃ first rest, text = first :: rest ∧ '-' ≤ first ∧ first ≤ '9'

namespace BeginsAsNumber

theorem of_digit {first : Char} (isDigit : first.isDigit = true) (rest : List Char) :
    BeginsAsNumber (first :: rest) := by
  simp only [Char.isDigit, Bool.and_eq_true, decide_eq_true_eq] at isDigit
  have sign : '-' ≤ '0' := by decide
  exact ⟨first, rest, rfl, sign.trans isDigit.1, isDigit.2⟩

theorem of_sign (rest : List Char) : BeginsAsNumber ('-' :: rest) :=
  ⟨'-', rest, rfl, by decide, by decide⟩

theorem append {text : List Char} (begins : BeginsAsNumber text) (more : List Char) :
    BeginsAsNumber (text ++ more) := by
  obtain ⟨first, rest, rfl, range⟩ := begins
  exact ⟨first, rest ++ more, rfl, range⟩

theorem of_digits {digits : List Char} (nonempty : digits ≠ [])
    (areDigits : ∀ digit ∈ digits, digit.isDigit = true) : BeginsAsNumber digits := by
  obtain ⟨first, rest, rfl⟩ := List.exists_cons_of_ne_nil nonempty
  exact of_digit (areDigits first List.mem_cons_self) rest

end BeginsAsNumber

namespace Double

/-- The digits of a double are decimal ones. -/
theorem lt_ten_of_mem_shortest {number : Double} {digit : Nat}
    (isDigit : digit ∈ number.shortest.digits) : digit < 10 := by
  unfold shortest at isDigit
  split at isDigit
  · cases isDigit
  · split at isDigit
    · cases isDigit
    · next count power _ =>
        have among := List.mem_reverse.mp
          ((List.dropWhile_sublist _).mem (List.mem_reverse.mp isDigit))
        obtain ⟨character, written, rfl⟩ := List.mem_map.mp among
        have decimal := Nat.isDigit_of_mem_toDigits (by decide) (by decide) written
        simp only [Char.isDigit, Bool.and_eq_true, decide_eq_true_eq] at decimal
        have greatest : character.toNat ≤ 57 := decimal.2
        have zero : '0'.toNat = 48 := rfl
        omega

theorem isDigit_of_mem_digitText {number : Double} {character : Char}
    (written : character ∈ digitText number.shortest.digits) : character.isDigit = true := by
  obtain ⟨digit, isDigit, rfl⟩ := List.mem_map.mp written
  have decimal : ∀ digit < 10, (Nat.digitChar digit).isDigit = true := by decide
  exact decimal digit (lt_ten_of_mem_shortest isDigit)

theorem text_begins (number : Double) : BeginsAsNumber number.text.toList := by
  unfold text
  dsimp only
  rw [String.toList_ofList]
  split
  · exact .of_sign _
  · rw [List.nil_append]
    have zero : ∀ rest, BeginsAsNumber ('0' :: rest) := BeginsAsNumber.of_digit (by decide)
    split
    · exact zero _
    · next nonempty =>
        have nonempty : digitText number.shortest.digits ≠ [] := by simpa using nonempty
        have digits : ∀ {count : Nat}, count ≠ 0 →
            BeginsAsNumber ((digitText number.shortest.digits).take count) := by
          intro count positive
          refine .of_digits (by simp [positive, nonempty]) fun _ taken => ?_
          exact isDigit_of_mem_digitText (List.mem_of_mem_take taken)
        split
        · split
          · exact zero _
          · simp only [List.append_assoc]
            exact (digits (Nat.succ_ne_zero _)).append _
        · simp only [List.append_assoc]
          exact (digits Nat.one_ne_zero).append _

end Double

theorem Number.text_begins (number : Number) : BeginsAsNumber number.text.toList := by
  cases number with
  | float value => exact value.text_begins
  | integer value fits =>
      rw [text, Int.toString_eq_repr, Int.repr_eq_if]
      split
      · rw [Nat.toList_repr]
        refine .of_digits Nat.toDigits_ne_nil fun _ => ?_
        exact Nat.isDigit_of_mem_toDigits (by decide) (by decide)
      · rw [String.toList_append]
        exact .of_sign _

/-! ## Values -/

namespace Json

/-- The least and the greatest character that the texts of a kind of values begin with. -/
def span : Json → Char × Char
  | .null => ('n', 'n')
  | .boolean _ => ('f', 't')
  | .number _ => ('-', '9')
  | .string _ => ('"', '"')
  | .array _ => ('[', '[')
  | .object _ => ('\x7b', '\x7b')

/-- The kind of a value, at its place in the order of kinds. -/
def kind (value : Json) : Nat :=
  value.span.1.toNat

/-- **The text of a value begins** with a character of its kind. -/
theorem characters_begin (value : Json) :
    ∃ first rest, value.characters = first :: rest ∧ value.span.1 ≤ first ∧
      first ≤ value.span.2 := by
  cases value with
  | null => exact ⟨'n', _, rfl, by decide, by decide⟩
  | boolean value =>
      cases value
      · exact ⟨'f', _, rfl, by decide, by decide⟩
      · exact ⟨'t', _, rfl, by decide, by decide⟩
  | number value => exact value.text_begins
  | string value => exact ⟨'"', _, rfl, le_rfl, le_rfl⟩
  | array items => exact ⟨'[', _, rfl, le_rfl, le_rfl⟩
  | object members => exact ⟨'\x7b', _, rfl, le_rfl, le_rfl⟩

/-- The characters of different kinds do not overlap, null apart. -/
theorem span_lt_of_kind_lt {left right : Json} (leftPresent : left.isNull = false)
    (rightPresent : right.isNull = false) (less : left.kind < right.kind) :
    left.span.2 < right.span.1 := by
  cases left <;> cases right <;> revert leftPresent rightPresent less <;>
    simp only [isNull, kind, span] <;> decide

/-- **Values of different kinds have the order of their kinds as texts.** -/
theorem text_lt_of_kind_lt {left right : Json} (leftPresent : left.isNull = false)
    (rightPresent : right.isNull = false) (less : left.kind < right.kind) :
    left.text < right.text := by
  obtain ⟨first, rest, leftText, _, greatest⟩ := characters_begin left
  obtain ⟨other, others, rightText, least, _⟩ := characters_begin right
  rw [String.lt_iff_toList_lt, text, text, String.toList_ofList, String.toList_ofList, leftText,
    rightText, List.cons_lt_cons_iff]
  exact .inl (greatest.trans_lt
    ((span_lt_of_kind_lt leftPresent rightPresent less).trans_le least))

end Json

end Docket
