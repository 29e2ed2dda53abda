import Docket.Proofs.Text.DigitOrder
import Docket.RecordId
import Mathlib.Data.String.Basic

/-!
# The text of identifiers

The text of an identifier is 32 hexadecimal digits in lower case, and each text of this
form is that of one identifier (`isText_iff`). Reading undoes writing (`parse_text`), and
writing undoes reading, as reading accepts no other text (`text_of_parse`). The order of
identifiers is that of their sixteen bytes (`compare_eq_lt_iff_bytes`) and that of their texts
(`compare_eq_lt_iff_text`), so that the texts represent them in every respect
(`text_represents`).
-/

set_option autoImplicit false

namespace Docket.RecordId

theorem utf8ByteSize_text (id : RecordId) : id.text.utf8ByteSize = encodedLength :=
  Text.utf8ByteSize_padded (by decide) (by decide) _ _

/-- An identifier is read back from its text. -/
theorem parse_text (id : RecordId) : parse id.text = .ok id := by
  have read : Text.valueOf? 16 Text.lowerHexDigit? id.text.toList = some id.value := by
    rw [text, String.toList_ofList]
    exact Text.valueOf?_padded (fun _ => Text.lowerHexDigit?_digitChar) id.value_lt
  rw [parse, if_neg (not_not_intro id.utf8ByteSize_text), read]
  exact dif_pos id.value_lt

/-- Identifiers with the same text are the same. -/
theorem eq_of_text_eq {id other : RecordId} (sameText : id.text = other.text) : id = other := by
  have read := id.parse_text
  rw [sameText, other.parse_text] at read
  exact (Except.ok.inj read).symm

theorem text_ne_empty (id : RecordId) : id.text ≠ "" := by
  intro empty
  have size := id.utf8ByteSize_text
  rw [empty] at size
  cases size

/-- Digits in 32 bytes are the text of the identifier that they count, as each takes one byte. -/
theorem text_of_valueOf? {text : String} (size : text.utf8ByteSize = encodedLength) {value : Nat}
    (isValue : Text.valueOf? 16 Text.lowerHexDigit? text.toList = some value) :
    ∃ fits, (⟨value, fits⟩ : RecordId).text = text := by
  obtain ⟨fits, digits⟩ :=
    Text.padded_of_valueOf? (fun _ _ => Text.digitChar_of_lowerHexDigit?) isValue
  have length : text.toList.length = encodedLength := by
    rw [← size, ← String.ofList_toList (s := text), ← digits,
      Text.utf8ByteSize_padded (by decide) (by decide), digits, String.toList_ofList]
  rw [length] at fits digits
  refine ⟨fits, ?_⟩
  rw [RecordId.text, characters, digits, String.ofList_toList]

/-- **A text that is read is the text of what was read.** -/
theorem text_of_parse {text : String} {id : RecordId} (read : parse text = .ok id) :
    id.text = text := by
  unfold parse at read
  split at read
  · cases read
  · next size =>
      split at read
      · cases read
      · next value isValue =>
          obtain ⟨fits, isText⟩ := text_of_valueOf? (Decidable.not_not.mp size) isValue
          rw [dif_pos fits] at read
          obtain rfl := Except.ok.inj read
          exact isText

/-- A text of 32 hexadecimal digits in lower case. -/
def IsText (text : String) : Prop :=
  text.length = 32 ∧ ∀ character ∈ text.toList,
    '0' ≤ character ∧ character ≤ '9' ∨ 'a' ≤ character ∧ character ≤ 'f'

theorem isSome_lowerHexDigit?_iff (character : Char) :
    (Text.lowerHexDigit? character).isSome = true ↔
      '0' ≤ character ∧ character ≤ '9' ∨ 'a' ≤ character ∧ character ≤ 'f' := by
  unfold Text.lowerHexDigit? Text.decimalDigit?
  split
  · next isLetter => exact iff_of_true rfl (.inr isLetter)
  · next noLetter =>
      split
      · next isDecimal => exact iff_of_true rfl (.inl isDecimal)
      · next noDigit => exact iff_of_false Bool.false_ne_true (not_or_intro noDigit noLetter)

/-- **The texts of identifiers are those of 32 hexadecimal digits in lower case.** -/
theorem isText_iff {text : String} : IsText text ↔ ∃ id : RecordId, id.text = text := by
  constructor
  · rintro ⟨length, areHex⟩
    have sized : text.toList.length = encodedLength := by
      rw [String.length_toList, length]
      rfl
    obtain ⟨value, isValue⟩ := Text.exists_valueOf? 16
      fun character isCharacter =>
        (isSome_lowerHexDigit?_iff character).mpr (areHex character isCharacter)
    obtain ⟨fits, digits⟩ :=
      Text.padded_of_valueOf? (fun _ _ => Text.digitChar_of_lowerHexDigit?) isValue
    rw [sized] at fits digits
    refine ⟨⟨value, fits⟩, ?_⟩
    rw [RecordId.text, characters, digits, String.ofList_toList]
  · rintro ⟨id, rfl⟩
    refine ⟨?_, fun character isCharacter => ?_⟩
    · rw [RecordId.text, String.length_ofList]
      exact Text.length_padded 16 encodedLength id.value
    · rw [RecordId.text, String.toList_ofList] at isCharacter
      obtain ⟨digit, isHex, rfl⟩ := Text.exists_digit_of_mem_padded (by decide) isCharacter
      rw [← isSome_lowerHexDigit?_iff, Text.lowerHexDigit?_digitChar isHex]
      rfl

theorem parse_of_utf8ByteSize_ne {text : String} (wrongSize : text.utf8ByteSize ≠ encodedLength) :
    parse text = .error (.invalidLength encodedLength text.utf8ByteSize) :=
  if_pos wrongSize

/-- What has the size of a text but is none is refused for its characters, and never for the
number that they count. -/
theorem parse_of_not_isText {text : String} (size : text.utf8ByteSize = encodedLength)
    (notText : ¬ IsText text) : parse text = .error (.invalidCharacter text) := by
  rw [parse, if_neg (not_not_intro size)]
  cases isValue : Text.valueOf? 16 Text.lowerHexDigit? text.toList with
  | none => rfl
  | some value =>
      obtain ⟨fits, isText⟩ := text_of_valueOf? size isValue
      exact absurd (isText_iff.mpr ⟨⟨value, fits⟩, isText⟩) notText

theorem parse_ne_unparsable (text reason : String) :
    parse text ≠ .error (.unparsable reason) := by
  intro refused
  by_cases size : text.utf8ByteSize = encodedLength
  · by_cases isText : IsText text
    · obtain ⟨id, rfl⟩ := isText_iff.mp isText
      rw [parse_text] at refused
      cases refused
    · rw [parse_of_not_isText size isText] at refused
      cases refused
  · rw [parse_of_utf8ByteSize_ne size] at refused
    cases refused

/-- The sixteen bytes of an identifier, with the leading one first. -/
def bytes (id : RecordId) : List UInt8 :=
  (Text.places 256 16 id.value).map UInt8.ofNat

/-- **Identifiers are ordered as their bytes.** -/
theorem compare_eq_lt_iff_bytes (first second : RecordId) :
    compare first second = .lt ↔ first.bytes < second.bytes := by
  have ordered : ∀ first < 256, ∀ second < 256,
      (UInt8.ofNat first < UInt8.ofNat second ↔ first < second) ∧
        (UInt8.ofNat first = UInt8.ofNat second ↔ first = second) := by
    intro first firstFits second secondFits
    rw [UInt8.ofNat_lt_iff_lt firstFits secondFits, ← UInt8.toNat_inj,
      UInt8.toNat_ofNat_of_lt' firstFits, UInt8.toNat_ofNat_of_lt' secondFits]
    exact ⟨Iff.rfl, Iff.rfl⟩
  rw [compare, Nat.compare_eq_lt, bytes, bytes]
  exact (Text.map_places_lt_iff (by decide) ordered first.value_lt second.value_lt).symm

/-- **Identifiers are ordered as their texts.** -/
theorem compare_eq_lt_iff_text (first second : RecordId) :
    compare first second = .lt ↔ first.text < second.text := by
  rw [compare, Nat.compare_eq_lt, String.lt_iff_toList_lt, text, text, String.toList_ofList,
    String.toList_ofList, characters, characters]
  exact (Text.padded_lt_iff (by decide) (by decide) first.value_lt second.value_lt).symm

/-- **Texts represent identifiers.** Each identifier is read back from its text. What is read is
exactly the texts of 32 hexadecimal digits in lower case, and each is the text of what is read
from it; what has another size in bytes is refused for its length, and anything else for its
characters. The order of identifiers is that of their texts. -/
theorem text_represents :
    (∀ id : RecordId, parse id.text = .ok id) ∧
      (∀ text : String,
        ((∃ id, parse text = .ok id) ↔ IsText text) ∧
        (∀ id, parse text = .ok id → id.text = text) ∧
        (text.utf8ByteSize ≠ 32 → parse text = .error (.invalidLength 32 text.utf8ByteSize)) ∧
        (text.utf8ByteSize = 32 → ¬ IsText text →
          parse text = .error (.invalidCharacter text)) ∧
        ∀ reason, parse text ≠ .error (.unparsable reason)) ∧
      ∀ first second : RecordId, compare first second = .lt ↔ first.text < second.text := by
  refine ⟨parse_text, fun text => ⟨?_, fun _ => text_of_parse, parse_of_utf8ByteSize_ne,
    parse_of_not_isText, parse_ne_unparsable text⟩, compare_eq_lt_iff_text⟩
  rw [isText_iff]
  constructor
  · rintro ⟨id, read⟩
    exact ⟨id, text_of_parse read⟩
  · rintro ⟨id, rfl⟩
    exact ⟨id, parse_text id⟩

/-- Sixteen letters of two bytes each. -/
def accented : String :=
  String.ofList (List.replicate 16 'é')

theorem text_represents_accented :
    parse accented = .error (.invalidCharacter accented) ∧
      parse "é" = .error (.invalidLength 32 2) := by
  obtain ⟨_, reads, _⟩ := text_represents
  refine ⟨(reads accented).2.2.2.1 (by decide) ?_, (reads "é").2.2.1 (by decide)⟩
  rintro ⟨length, _⟩
  exact absurd length (by decide)

end Docket.RecordId
