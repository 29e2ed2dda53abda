import Docket.Criteria.QueryField
import Docket.Proofs.Json.Document
import Docket.Proofs.Text.Words

/-!
# What tagged fields add to a filter

Each field of a tagged query adds one member to the filter or none. The members of
all fields are written over the filter for live documents in their order
(`addConditions_eq`), so what the filter asks under a name is decided by the last
field that is stored under it.

What is asked of `id` moves to the primary key only at the end, and nothing else moves
(`get?_targetPrimaryKey`, `get?_targetPrimaryKey_of_ne`).

A tag of an operator and a name behind a comma means that operator and that name
(`condition?_tagged`), whatever commas the name has itself.
-/

set_option autoImplicit false

namespace Docket

theorem Text.splitOnce_append {cut : Char} {left : List Char} (absent : cut ∉ left)
    (right : List Char) : splitOnce cut (left ++ cut :: right) = some (left, right) := by
  induction left with
  | nil => simp [splitOnce]
  | cons character rest ih =>
      have differ : character ≠ cut := fun equal => absent (equal ▸ List.mem_cons_self)
      have behind := ih fun member => absent (List.mem_cons_of_mem _ member)
      simp [splitOnce, differ, behind]

/-- A word with a word behind it is a word. -/
theorem Text.IsWord.append {left right : List Char} (first : IsWord left)
    (second : IsWord right) : IsWord (left ++ right) := by
  refine ⟨List.append_ne_nil_of_left_ne_nil first.ne_nil right, ?_⟩
  intro character isCharacter
  rcases List.mem_append.mp isCharacter with inLeft | inRight
  · exact first.noBlank character inLeft
  · exact second.noBlank character inRight

namespace FilterOperator

theorem token_isWord (operator : FilterOperator) : Text.IsWord operator.token.toList := by
  cases operator <;> decide

theorem comma_not_mem_token (operator : FilterOperator) : ',' ∉ operator.token.toList := by
  cases operator <;> decide

theorem ofTag_token (operator : FilterOperator) : ofTag operator.token = operator := by
  cases operator <;> decide

end FilterOperator

namespace QueryField

/-! ## Tags -/

section

variable {operator field : String} (operatorWord : Text.IsWord operator.toList)
  (noComma : ',' ∉ operator.toList) (fieldWord : Text.IsWord field.toList)

include operatorWord fieldWord

/-- There is nothing to trim at a tag of two words. -/
theorem trim_tag : Text.trim (operator ++ "," ++ field) = operator ++ "," ++ field := by
  have comma : Text.IsWord ",".toList := by decide
  have isWord : Text.IsWord (operator ++ "," ++ field).toList := by
    rw [String.toList_append, String.toList_append]
    exact (operatorWord.append comma).append fieldWord
  rw [Text.trim, isWord.trimmed_eq, String.ofList_toList]

include noComma

/-- A tag is cut at the comma between its words. -/
theorem splitTag_tag : splitTag (operator ++ "," ++ field) = (operator, some field) := by
  have characters : (operator ++ "," ++ field).toList =
      operator.toList ++ ',' :: field.toList := by
    rw [String.toList_append, String.toList_append, List.append_assoc]
    rfl
  have nonempty : field.toList.isEmpty = false := by
    simpa [List.isEmpty_iff] using fieldWord.ne_nil
  rw [splitTag, characters, Text.splitOnce_append noComma]
  simp only [operatorWord.trimmed_eq, fieldWord.trimmed_eq, nonempty, String.ofList_toList]
  rfl

variable (name : String) (value : Json)

theorem operatorPart_tagged :
    (tagged name (operator ++ "," ++ field) value).operatorPart = operator := by
  rw [operatorPart, tagged, trim_tag operatorWord fieldWord,
    splitTag_tag operatorWord noComma fieldWord]

theorem key_tagged : (tagged name (operator ++ "," ++ field) value).key = field := by
  rw [key, tagged, trim_tag operatorWord fieldWord, splitTag_tag operatorWord noComma fieldWord]

omit noComma in
/-- A tag with a comma leaves no field out. -/
theorem isSkipped_tagged :
    (tagged name (operator ++ "," ++ field) value).isSkipped = false := by
  rw [isSkipped, tagged, trim_tag operatorWord fieldWord, beq_eq_false_iff_ne]
  intro equal
  have noComma : ',' ∉ skipTag.toList := by decide
  rw [← equal, String.toList_append, String.toList_append] at noComma
  simp at noComma

end

/-- **A tag of an operator and a name asks by that operator under that name.** -/
theorem condition?_tagged {field : String} (isWord : Text.IsWord field.toList) (name : String)
    (operator : FilterOperator) {value : Json} (notZero : value.isZero = false) :
    (tagged name (operator.token ++ "," ++ field) value).condition? =
      (operator.constrain field value).map some := by
  have operatorWord := operator.token_isWord
  have noComma := operator.comma_not_mem_token
  have present : (tagged name (operator.token ++ "," ++ field) value).zero = false := notZero
  rw [condition?, isSkipped_tagged operatorWord isWord, present,
    operatorPart_tagged operatorWord noComma isWord, key_tagged operatorWord noComma isWord,
    operator.ofTag_token]
  rfl

/-! ## The members of all fields -/

/-- The members that fields add to a filter, in their order. -/
def contributions : List QueryField → Except CriteriaError Document
  | [] => .ok []
  | field :: rest => do
      let condition ← field.condition?
      let others ← contributions rest
      return (condition.map fun asked => (field.key, asked)).toList ++ others

theorem contributions_cons {field : QueryField} {condition : Option Json}
    (asks : field.condition? = .ok condition) (rest : List QueryField) :
    contributions (field :: rest) = (contributions rest).map fun others =>
      (condition.map fun asked => (field.key, asked)).toList ++ others := by
  rw [contributions, asks]
  cases contributions rest <;> rfl

theorem contributions_cons_error {field : QueryField} {error : CriteriaError}
    (fails : field.condition? = .error error) (rest : List QueryField) :
    contributions (field :: rest) = .error error := by
  rw [contributions, fails]
  rfl

/-- **Fields write their members over the filter**, one after another. -/
theorem addConditions_eq (fields : List QueryField) (filter : Document) :
    addConditions fields filter = (contributions fields).map (Document.extend filter) := by
  induction fields generalizing filter with
  | nil => rfl
  | cons field rest ih =>
      rw [addConditions]
      cases asks : field.condition? with
      | error error =>
          rw [contributions_cons_error asks]
          rfl
      | ok condition =>
          rw [contributions_cons asks]
          cases condition with
          | none =>
              show addConditions rest filter = _
              rw [ih]
              cases contributions rest <;> rfl
          | some asked =>
              show addConditions rest (Document.insert filter field.key asked) = _
              rw [ih]
              cases contributions rest with
              | error error => rfl
              | ok others =>
                  exact congrArg Except.ok
                    (Document.extend_cons filter field.key asked others).symm

/-- A member is added if and only if some field asks for it. -/
theorem mem_contributions_iff {fields : List QueryField} {members : Document}
    (contributed : contributions fields = .ok members) (member : String × Json) :
    member ∈ members ↔ ∃ field ∈ fields,
      field.key = member.1 ∧ field.condition? = .ok (some member.2) := by
  induction fields generalizing members with
  | nil =>
      obtain rfl := Except.ok.inj contributed
      simp
  | cons field rest ih =>
      cases asks : field.condition? with
      | error error =>
          rw [contributions_cons_error asks] at contributed
          cases contributed
      | ok condition =>
          rw [contributions_cons asks] at contributed
          cases behind : contributions rest with
          | error error =>
              rw [behind] at contributed
              cases contributed
          | ok others =>
              rw [behind] at contributed
              obtain rfl := Except.ok.inj contributed
              rw [List.mem_append, ih behind, List.exists_mem_cons_iff, asks]
              refine or_congr_left ?_
              cases condition with
              | none => simp
              | some asked => simp [Prod.ext_iff, eq_comm]

end QueryField

/-! ## The primary key -/

namespace QueryField

theorem sorted_targetPrimaryKey {filter : Document} (sorted : Document.Sorted filter) :
    Document.Sorted (targetPrimaryKey filter) := by
  unfold targetPrimaryKey
  split
  · exact sorted
  · split
    · exact sorted
    · split
      · exact sorted
      · exact (sorted.erase _).insert _ _

/-- Only what is asked of the identifier and of the primary key can change. -/
theorem get?_targetPrimaryKey_of_ne {filter : Document} {name : String}
    (notIdentifier : name ≠ FieldName.identifier) (notKey : name ≠ FieldName.primaryKey) :
    Document.get? (targetPrimaryKey filter) name = Document.get? filter name := by
  unfold targetPrimaryKey
  split
  · rfl
  · split
    · rfl
    · split
      · rfl
      · rw [Document.get?_insert_of_ne _ _ notKey, Document.get?_erase_of_ne _ notIdentifier]

theorem targetPrimaryKey_of_keyed {filter : Document} {value : Json}
    (keyed : Document.get? filter FieldName.primaryKey = some value) :
    targetPrimaryKey filter = filter := by
  rw [targetPrimaryKey, Document.contains, keyed]
  rfl

/-- What is asked of the identifier and is not null is asked of the primary key, and no
longer of the identifier. -/
theorem get?_targetPrimaryKey {filter : Document}
    (unkeyed : Document.get? filter FieldName.primaryKey = none)
    (notNull : ∀ value, Document.get? filter FieldName.identifier = some value →
      value.isNull = false) :
    Document.get? (targetPrimaryKey filter) FieldName.primaryKey =
        Document.get? filter FieldName.identifier ∧
      Document.get? (targetPrimaryKey filter) FieldName.identifier = none := by
  have differ : FieldName.identifier ≠ FieldName.primaryKey := by decide
  rw [targetPrimaryKey, Document.contains, unkeyed]
  cases found : Document.get? filter FieldName.identifier with
  | none => exact ⟨unkeyed, found⟩
  | some value =>
      simp only [notNull value found]
      refine ⟨Document.get?_insert_self _ _ _, ?_⟩
      show Document.get? (Document.insert _ _ _) _ = none
      rw [Document.get?_insert_of_ne _ _ differ, Document.get?_erase_self]

end QueryField

end Docket
