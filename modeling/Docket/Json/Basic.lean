import Docket.Number.Double

/-!
# JSON values

Filters, updates and records are all JSON. Numbers keep two things apart that
text alone does not: an integer and a float with the same value are different
values. An integer has 64 bits, signed below zero and unsigned above it; a float
is a finite double.

There are two notions of sameness. Equality of values (`=`) tells negative zero
from zero. `Json.same` does not: it is the sameness by which a stored value is
said to have changed and by which two keys collide. It compares the values after
every negative zero was replaced by zero, and is an equivalence for that reason.
-/

set_option autoImplicit false

namespace Docket

/-- An integer of 64 bits: signed if it is negative, unsigned otherwise. -/
def FitsInteger (value : Int) : Prop :=
  -0x8000000000000000 ≤ value ∧ value < 0x10000000000000000

instance (value : Int) : Decidable (FitsInteger value) :=
  inferInstanceAs (Decidable (_ ∧ _))

/-- A JSON number. -/
inductive Number where
  | integer (value : Int) (fits : FitsInteger value)
  | float (value : Double)
  deriving DecidableEq

namespace Number

/-- The number of an integer; one that does not fit is the nearest float. -/
def ofInt (value : Int) : Number :=
  if fits : FitsInteger value then .integer value fits else .float (.ofInt value)

/-- A number as a double: an integer is rounded to the nearest one. -/
def toDouble : Number → Double
  | .integer value _ => .ofInt value
  | .float value => value

/-- The position of a number on the line of doubles. -/
def rank (number : Number) : Int :=
  number.toDouble.rank

/-- A number with negative zero replaced by zero. -/
def unsignedZero : Number → Number
  | .integer value fits => .integer value fits
  | .float value => .float value.unsignedZero

/-- The value of a number that is an integer of 64 bits with a sign. -/
def toInt64? : Number → Option Int
  | .integer value _ => if value < 0x8000000000000000 then some value else none
  | .float _ => none

end Number

/-- A JSON value. The members of an object are kept in ascending order of their
names. -/
inductive Json where
  | null
  | boolean (value : Bool)
  | number (value : Number)
  | string (value : String)
  | array (items : List Json)
  | object (members : List (String × Json))
  deriving Inhabited

/-- The members of an object: a filter, an update or a record. -/
abbrev Document := List (String × Json)

namespace Json

mutual

/-- Values are equal. -/
def beq : Json → Json → Bool
  | .null, .null => true
  | .boolean left, .boolean right => left == right
  | .number left, .number right => decide (left = right)
  | .string left, .string right => decide (left = right)
  | .array left, .array right => beqItems left right
  | .object left, .object right => beqMembers left right
  | _, _ => false

/-- Lists of values are equal. -/
def beqItems : List Json → List Json → Bool
  | [], [] => true
  | left :: lefts, right :: rights => beq left right && beqItems lefts rights
  | _, _ => false

/-- Lists of members are equal. -/
def beqMembers : List (String × Json) → List (String × Json) → Bool
  | [], [] => true
  | (name, left) :: lefts, (other, right) :: rights =>
      decide (name = other) && beq left right && beqMembers lefts rights
  | _, _ => false

end

mutual

theorem beq_iff : (left right : Json) → (beq left right = true ↔ left = right)
  | .null, right => by cases right <;> simp [beq]
  | .boolean left, right => by cases right <;> simp [beq]
  | .number left, right => by cases right <;> simp [beq]
  | .string left, right => by cases right <;> simp [beq]
  | .array left, right => by
      cases right with
      | array right => simp [beq, beqItems_iff left right]
      | _ => simp [beq]
  | .object left, right => by
      cases right with
      | object right => simp [beq, beqMembers_iff left right]
      | _ => simp [beq]

theorem beqItems_iff : (left right : List Json) → (beqItems left right = true ↔ left = right)
  | [], right => by cases right <;> simp [beqItems]
  | left :: lefts, [] => by simp [beqItems]
  | left :: lefts, right :: rights => by
      simp [beqItems, beq_iff left right, beqItems_iff lefts rights]

theorem beqMembers_iff : (left right : List (String × Json)) →
    (beqMembers left right = true ↔ left = right)
  | [], right => by cases right <;> simp [beqMembers]
  | (_, _) :: _, [] => by simp [beqMembers]
  | (name, left) :: lefts, (other, right) :: rights => by
      simp [beqMembers, beq_iff left right, beqMembers_iff lefts rights, and_assoc]

end

instance : DecidableEq Json := fun left right =>
  decidable_of_iff (beq left right = true) (beq_iff left right)

mutual

/-- A value with every negative zero in it replaced by zero. -/
def unsignedZeros : Json → Json
  | .null => .null
  | .boolean value => .boolean value
  | .number value => .number value.unsignedZero
  | .string value => .string value
  | .array items => .array (unsignedZerosOfItems items)
  | .object members => .object (unsignedZerosOfMembers members)

/-- A list of values with every negative zero in it replaced by zero. -/
def unsignedZerosOfItems : List Json → List Json
  | [] => []
  | item :: rest => unsignedZeros item :: unsignedZerosOfItems rest

/-- A list of members with every negative zero in it replaced by zero. -/
def unsignedZerosOfMembers : List (String × Json) → List (String × Json)
  | [] => []
  | (name, value) :: rest => (name, unsignedZeros value) :: unsignedZerosOfMembers rest

end

/-- Values are the same up to the sign of zeros. -/
def same (left right : Json) : Bool :=
  decide (left.unsignedZeros = right.unsignedZeros)

theorem same_refl (value : Json) : same value value = true := by
  simp [same]

theorem same_comm (left right : Json) : same left right = same right left := by
  simp [same, eq_comm]

theorem same_trans {left middle right : Json} (first : same left middle = true)
    (second : same middle right = true) : same left right = true := by
  simp only [same, decide_eq_true_eq] at *
  exact first.trans second

/-- A value is null. -/
def isNull : Json → Bool
  | .null => true
  | _ => false

/-- The text of a string. -/
def string? : Json → Option String
  | .string value => some value
  | _ => none

/-- The items of an array. -/
def array? : Json → Option (List Json)
  | .array items => some items
  | _ => none

/-- The members of an object. -/
def object? : Json → Option Document
  | .object members => some members
  | _ => none

/-- The value of an integer of 64 bits with a sign. -/
def toInt64? : Json → Option Int
  | .number value => value.toInt64?
  | _ => none

/-- The number of an integer. -/
def ofInt (value : Int) : Json :=
  .number (.ofInt value)

/-- The zero value of its kind: null, false, the number zero, and the empty
string, array and object. -/
def isZero : Json → Bool
  | .null => true
  | .boolean value => !value
  | .number value => value.toDouble.isZero
  | .string value => value.isEmpty
  | .array items => items.isEmpty
  | .object members => members.isEmpty

end Json

namespace Document

/-- The value of a member. -/
def get? : Document → String → Option Json
  | [], _ => none
  | (other, value) :: rest, name => if other = name then some value else get? rest name

/-- A document has a member. -/
def contains (document : Document) (name : String) : Bool :=
  (get? document name).isSome

/-- Adds a member at its place in the order of names, or replaces its value. -/
def insert : Document → String → Json → Document
  | [], name, value => [(name, value)]
  | (other, old) :: rest, name, value =>
      if other = name then (name, value) :: rest
      else if name < other then (name, value) :: (other, old) :: rest
      else (other, old) :: insert rest name value

/-- Takes a member away. -/
def erase (document : Document) (name : String) : Document :=
  document.filter fun member => decide (member.1 ≠ name)

/-- Writes every member of a document over another one. -/
def extend (document additions : Document) : Document :=
  additions.foldl (fun extended member => insert extended member.1 member.2) document

/-- A document of one member. -/
def single (name : String) (value : Json) : Document :=
  [(name, value)]

/-- Documents are the same up to the sign of zeros. -/
def same (left right : Document) : Bool :=
  Json.same (.object left) (.object right)

theorem get?_insert_self (document : Document) (name : String) (value : Json) :
    get? (insert document name value) name = some value := by
  induction document with
  | nil => simp [insert, get?]
  | cons member rest ih =>
      obtain ⟨other, old⟩ := member
      simp only [insert]
      split
      · simp [get?]
      · split
        · simp [get?]
        · next differs _ => simp [get?, differs, ih]

theorem get?_insert_of_ne (document : Document) {name other : String} (value : Json)
    (differs : other ≠ name) : get? (insert document name value) other = get? document other := by
  induction document with
  | nil => simp [insert, get?, differs.symm]
  | cons member rest ih =>
      obtain ⟨first, old⟩ := member
      simp only [insert]
      split
      · next equal => subst equal; simp [get?, differs.symm]
      · split
        · simp [get?, differs.symm]
        · simp [get?, ih]

theorem get?_erase_self (document : Document) (name : String) :
    get? (erase document name) name = none := by
  induction document with
  | nil => rfl
  | cons member rest ih =>
      obtain ⟨first, old⟩ := member
      by_cases equal : first = name
      · simpa [erase, equal] using ih
      · simpa [erase, equal, get?] using ih

theorem get?_erase_of_ne (document : Document) {name other : String} (differs : other ≠ name) :
    get? (erase document name) other = get? document other := by
  induction document with
  | nil => rfl
  | cons member rest ih =>
      obtain ⟨first, old⟩ := member
      by_cases equal : first = name
      · subst equal
        simpa [erase, get?, differs.symm] using ih
      · by_cases found : first = other
        · subst found
          simp [erase, get?, equal]
        · simpa [erase, equal, get?, found] using ih

end Document

end Docket
