import Mathlib

/-!
# Client JSON and the exceptions reading it can raise (`json.hpp`)

The server reads every request through the vendored nlohmann `json`:
`json::parse` on the received bytes, `value(key, default)` and the `const`
`operator[]` on the parsed document. What the modelled code relies on is the
library's documented behaviour, stated here as definitions over a JSON value:

* `value` on a non-object throws `type_error` 306; a present member is
  converted with `get<T>`, and a member of the wrong type throws
  `type_error` 302 (`get<int>` accepts numbers and booleans, `get<string>`
  only strings, `get<bool>` only booleans);
* the `const operator[]` on a non-object throws `type_error` 305, and on a
  missing key fails `JSON_ASSERT`, which aborts the process.

Numbers are kept as what `get<int>` reads of them: an integer, or for a float
its truncation. Objects produced by `parse` have distinct keys.

The exception classes are those the server's `catch` clauses name; which
clause catches which class is `CppException.caughtBy`.
-/

set_option autoImplicit false

namespace RaspiServer.Server

/-- A parsed JSON value. -/
inductive Json where
  | null
  | boolean (b : Bool)
  | numberInteger (i : Int)
  | numberUnsigned (n : Nat)
  | numberFloat (truncated : Int)
  | string (s : String)
  | array (items : List Json)
  | object (members : List (String × Json))
  deriving Repr, Inhabited

/-- The exceptions the modelled code can raise. `assertionFailure` stands for
a failed `JSON_ASSERT`: an abort, which no handler catches. -/
inductive CppException where
  | parseError
  | typeError (code : Nat)
  | runtimeError
  | lengthError
  | invalidArgument
  | outOfRange
  | logicError
  | badAlloc
  | assertionFailure
  deriving DecidableEq, Repr

/-- The `catch` clauses of the server. -/
inductive CatchClause where
  /-- `catch (const json::parse_error&)` -/
  | jsonParseError
  /-- `catch (const std::runtime_error&)` -/
  | runtimeError
  /-- `catch (const std::exception&)` -/
  | stdException
  deriving DecidableEq, Repr

/-- Whether a clause catches an exception. `json::parse_error` and
`json::type_error` derive from `json::exception`, itself a `std::exception`
but not a `std::runtime_error`; `qrcodegen::data_too_long` is a
`std::length_error`, a `std::logic_error`. -/
def CppException.caughtBy : CppException → CatchClause → Bool
  | .assertionFailure, _ => false
  | .parseError, .jsonParseError => true
  | _, .jsonParseError => false
  | .runtimeError, .runtimeError => true
  | _, .runtimeError => false
  | _, .stdException => true

/-! ## Reading members -/

/-- `static_cast<int>` of a 64-bit value: its low 32 bits, two's complement. -/
def wrapInt (i : Int) : Int :=
  let low := i % 2 ^ 32
  if low < 2 ^ 31 then low else low - 2 ^ 32

namespace Json

/-- The member `key` of an object. -/
def find? (members : List (String × Json)) (key : String) : Option Json :=
  (members.find? fun member => member.1 = key).map (·.2)

/-- `get<int>()`. -/
def getInt : Json → Except CppException Int
  | .numberUnsigned n => .ok (wrapInt n)
  | .numberInteger i => .ok (wrapInt i)
  | .numberFloat t => .ok (wrapInt t)
  | .boolean b => .ok (if b then 1 else 0)
  | _ => .error (.typeError 302)

/-- `get<std::string>()`. -/
def getString : Json → Except CppException String
  | .string s => .ok s
  | _ => .error (.typeError 302)

/-- `get<bool>()`. -/
def getBool : Json → Except CppException Bool
  | .boolean b => .ok b
  | _ => .error (.typeError 302)

/-- `value(key, default)` with the conversion `get` of the default's type. -/
def value {α : Type} (j : Json) (key : String) (default : α) (get : Json → Except CppException α) :
    Except CppException α :=
  match j with
  | .object members =>
      match find? members key with
      | some member => get member
      | none => .ok default
  | _ => .error (.typeError 306)

/-- The `const operator[](key)`. -/
def index (j : Json) (key : String) : Except CppException Json :=
  match j with
  | .object members =>
      match find? members key with
      | some member => .ok member
      | none => .error .assertionFailure
  | _ => .error (.typeError 305)

variable {α : Type}

theorem value_of_not_object (j : Json) (notObject : ∀ members, j ≠ .object members) (key : String)
    (default : α) (get : Json → Except CppException α) :
    j.value key default get = .error (.typeError 306) := by
  cases j with
  | object members => exact absurd rfl (notObject members)
  | _ => rfl

theorem value_object_found (members : List (String × Json)) (key : String) (member : Json)
    (default : α) (get : Json → Except CppException α) (found : find? members key = some member) :
    (Json.object members).value key default get = get member := by
  simp [value, found]

end Json

end RaspiServer.Server
