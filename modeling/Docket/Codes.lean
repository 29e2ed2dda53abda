import Docket.Failure

/-!
# Business codes

A business code pairs a number with the status of an answer and a message. A
registry is built by adding codes to a table in ascending order of their
numbers. A number can be added once; the number 9999 can never be added, because
it stands for unknown errors in every registry. A look-up of a number that is
not there finds that code.
-/

set_option autoImplicit false

namespace Docket

/-- A business code. -/
structure Code where
  number : Int
  status : Nat
  message : String
  deriving DecidableEq

namespace Code

/-- The number of the code for unknown errors. -/
def reservedNumber : Int := 9999

/-- The number of the code for faulty requests. -/
def parameterNumber : Int := 10001

/-- The number of the code for records that are there already. -/
def repeatNumber : Int := 10002

/-- The number of the code for records that are not there. -/
def notFoundNumber : Int := 10003

/-- The code for unknown errors. -/
def unknown : Code :=
  ⟨reservedNumber, 500, "An internal server error occurred"⟩

/-- The codes that reports of success have. -/
def isSuccess (code : Code) : Bool :=
  decide (0 ≤ code.number ∧ code.number ≤ 3)

/-- The text of a code. -/
def text (code : Code) : String :=
  s!"[{code.number}] {code.message}"

/-- The codes of a new table. -/
def builtin : List Code :=
  [ ⟨0, 200, "ok"⟩,
    ⟨1, 201, "created"⟩,
    ⟨2, 200, "updated"⟩,
    ⟨3, 204, "deleted"⟩,
    ⟨10001, 400, "parameter error"⟩,
    ⟨10002, 302, "resource repeat"⟩,
    ⟨10003, 404, "resource notfound"⟩,
    ⟨10004, 401, "auth header required"⟩,
    ⟨10005, 401, "auth header is invalid"⟩,
    ⟨10006, 403, "forbidden"⟩,
    ⟨10007, 400, "request body required"⟩,
    ⟨10008, 401, "token invalid"⟩,
    ⟨10009, 401, "token required"⟩,
    ⟨10010, 403, "permission denied"⟩ ]

end Code

/-- Why a code was not added. -/
inductive CodeError where
  | reserved (number : Int)
  | duplicate (number : Int)
  deriving DecidableEq

namespace CodeError

/-- The message of an error. -/
def message : CodeError → String
  | .reserved number => s!"code {number} is reserved for unknown errors"
  | .duplicate number => s!"code {number} is already registered"

end CodeError

/-- Codes in ascending order of their numbers. -/
structure CodeTable where
  codes : List Code
  deriving DecidableEq

namespace CodeTable

/-- A table without codes. -/
def empty : CodeTable :=
  ⟨[]⟩

/-- The table of the built-in codes. -/
def builtin : CodeTable :=
  ⟨Code.builtin⟩

/-- The code of a number, among those that were added. -/
def added? (table : CodeTable) (number : Int) : Option Code :=
  table.codes.find? fun code => code.number == number

/-- Puts a code at its place in a list. -/
def place (code : Code) : List Code → List Code
  | [] => [code]
  | other :: rest => if code.number < other.number then code :: other :: rest
      else other :: place code rest

/-- Adds a code. -/
def register (table : CodeTable) (code : Code) : Except CodeError CodeTable :=
  if code.number = Code.reservedNumber then .error (.reserved Code.reservedNumber)
  else if (table.added? code.number).isSome then .error (.duplicate code.number)
  else .ok ⟨place code table.codes⟩

/-- The code of a number; the reserved number always has one. -/
def get? (table : CodeTable) (number : Int) : Option Code :=
  if number = Code.reservedNumber then some .unknown else table.added? number

/-- The code of a number, or the code for unknown errors. -/
def lookUp (table : CodeTable) (number : Int) : Code :=
  (table.get? number).getD .unknown

/-- A number has a code. -/
def contains (table : CodeTable) (number : Int) : Bool :=
  (table.get? number).isSome

/-- The number under which a failure is reported. -/
def numberFor : Failure → Int
  | .criteria _ => Code.parameterNumber
  | .id _ => Code.parameterNumber
  | .store cause =>
      match cause.kind with
      | .notFound => Code.notFoundNumber
      | .alreadyExists => Code.repeatNumber
      | _ => Code.reservedNumber
  | _ => Code.reservedNumber

/-- The code under which a failure is reported, with the failure's own message. -/
def codeFor (table : CodeTable) (failure : Failure) : Code :=
  { table.lookUp (numberFor failure) with message := failure.message }

end CodeTable

end Docket
