import RaspiServer.Otp.Manager
import RaspiServer.Metadata.Tracking

/-!
# Reading an `otpauth://` URI back (`otp/otp_uri.cpp`, `otp/otp_factory.cpp`)

`OTP_factory::create(uri)` builds an `OTP_URI` from the text and hands it to
the creator registered for its type. `OTP_URI::parse` matches
`^otpauth:\/\/(totp|hotp)\/([^\?]*)\?(.*)`, percent-decodes the label and
splits it at its first `:` into issuer and account, and reads the parameters
with `get_params`. That loop cuts the query at every `&`, but it looks for the
`=` of a parameter with `param.find('=', p)`, where `p` is the parameter's
offset in the whole query: past the first parameter the search starts beyond
the key, and a parameter whose value holds no `=` there is dropped.

Texts are the bytes of a `std::string`; a `String` of the model stands for its
UTF-8 bytes (`bytesOf`). `size_t` and `unsigned long` are 64 bits wide.
-/

set_option autoImplicit false

namespace RaspiServer.Otp

open RaspiServer.Metadata (isDigit decimalValue)

/-- The exceptions of this path: `std::logic_error` with its text, and those of `std::stoul`. -/
inductive UriError where
  | logicError (what : String)
  | invalidArgument
  | outOfRange
  deriving DecidableEq, Repr

/-- The bytes of a `std::string` that holds `s`. -/
def bytesOf (s : String) : List UInt8 := s.toList.flatMap String.utf8EncodeChar

/-! ## Decoding -/

def h2d (c : UInt8) : Except UriError UInt8 :=
  if 48 ≤ c ∧ c ≤ 57 then .ok (c - 48)
  else if 97 ≤ c ∧ c ≤ 102 then .ok (c + 10 - 97)
  else if 65 ≤ c ∧ c ≤ 70 then .ok (c + 10 - 65)
  else .error (.logicError "non-hex char")

/-- `urldecode(str)`: a `%` needs two more bytes, both hexadecimal digits. -/
def urldecode : List UInt8 → Except UriError (List UInt8)
  | [] => .ok []
  | c :: rest =>
      if c ≠ 37 then (c :: ·) <$> urldecode rest
      else
        match rest with
        | hi :: lo :: after => do
            let hi ← h2d hi
            let lo ← h2d lo
            ((hi <<< 4 ||| lo) :: ·) <$> urldecode after
        | _ => .error (.logicError "premature end")

/-- `std::string::find(c, pos)`. -/
def findFrom (c : UInt8) (pos : Nat) (s : List UInt8) : Option Nat :=
  ((s.drop pos).idxOf? c).map (· + pos)

/-- The map `get_params` fills; `std::map` is read only through `find`, so
the order of its entries does not matter. -/
abbrev ParamMap := List (List UInt8 × List UInt8)

/-- The `while (p < params_size)` loop of `get_params`, `rest` being the query
from offset `p` on. -/
def getParamsFrom (p : Nat) (rest : List UInt8) (paramMap : ParamMap) : Except UriError ParamMap :=
  match rest with
  | [] => .ok paramMap
  | b :: more =>
      let param := (b :: more).takeWhile (· ≠ 38)
      let next := getParamsFrom (p + param.length + 1) ((b :: more).drop (param.length + 1))
      -- `param.find('=', p)`: `p` is an offset into the query, not into `param`
      match findFrom 61 p param with
      | none => next paramMap
      | some eqsign => do
          let key := param.take eqsign
          let value ← urldecode (param.drop (eqsign + 1))
          if (paramMap.lookup key).isSome then .error (.logicError "ambiguous parameter")
          else next (paramMap ++ [(key, value)])
termination_by rest.length
decreasing_by
  simp only [List.length_drop, List.length_cons]
  omega

def getParams (params : List UInt8) : Except UriError ParamMap :=
  if params.isEmpty then .ok [] else getParamsFrom 0 params []

def isSpace (b : UInt8) : Bool := b = 32 || (9 ≤ b && b ≤ 13)

/-- `std::stoul` (and `std::stoull`, the same on this target): `strtoul` in base
ten skips white space, takes a sign, and wraps a negated value. -/
def stoul (text : List UInt8) : Except UriError Nat :=
  let afterSpace := text.dropWhile isSpace
  let negative := afterSpace.head? = some 45
  let afterSign := if afterSpace.head? = some 43 ∨ negative then afterSpace.drop 1 else afterSpace
  let digits := afterSign.takeWhile isDigit
  if digits.isEmpty then .error .invalidArgument
  else if 2 ^ 64 ≤ decimalValue digits then .error .outOfRange
  else .ok (if negative then (2 ^ 64 - decimalValue digits) % 2 ^ 64 else decimalValue digits)

/-! ## `OTP_URI::parse` -/

/-- `^otpauth:\/\/(totp|hotp)\/([^\?]*)\?(.*)`: the type, the label and the
query. `^` holds only at the start, and `.` stops at a line break. -/
def matchUri (uri : List UInt8) : Option (List UInt8 × List UInt8 × List UInt8) :=
  if (bytesOf "otpauth://").isPrefixOf uri then
    let afterScheme := uri.drop 10
    let type := afterScheme.take 4
    if (type = bytesOf "totp" ∨ type = bytesOf "hotp") ∧ (afterScheme.drop 4).head? = some 47 then
      let afterType := afterScheme.drop 5
      let label := afterType.takeWhile (· ≠ 63)
      let afterLabel := afterType.drop label.length
      if afterLabel.head? = some 63 then
        some (type, label, (afterLabel.drop 1).takeWhile fun b => b ≠ 10 ∧ b ≠ 13)
      else none
    else none
  else none

/-- The members of an `OTP_URI`, as bytes. -/
structure ParsedUri where
  type : List UInt8
  account : List UInt8
  secret : List UInt8
  issuer : List UInt8
  algorithm : List UInt8
  digits : Nat
  counter : Nat
  period : Nat
  deriving DecidableEq, Repr

/-- The member initialisers of `OTP_URI::OTP_URI(uri)`. -/
def ParsedUri.init : ParsedUri := ⟨[], [], [], [], bytesOf "SHA1", 6, 0, 30⟩

/-- `OTP_URI::OTP_URI(uri)`, that is `parse(uri)` on the initialised members. -/
def ParsedUri.parse (uri : List UInt8) : Except UriError ParsedUri := do
  let some (type, label, query) := matchUri uri | .error (.logicError "uri not match")
  let u := { ParsedUri.init with type }
  let label ← urldecode label
  let u := match findFrom 58 0 label with
    | none => { u with account := label }
    | some colon => { u with issuer := label.take colon, account := label.drop (colon + 1) }
  let params ← getParams query
  let u ← match params.lookup (bytesOf "issuer") with
    | some paramIssuer =>
        if u.issuer ≠ [] ∧ u.issuer ≠ paramIssuer then .error (.logicError "ambiguous issuer")
        else pure { u with issuer := paramIssuer }
    | none => pure u
  let some secret := params.lookup (bytesOf "secret") | .error (.logicError "secret missing")
  let u := { u with secret }
  let u := match params.lookup (bytesOf "algorithm") with
    | some algorithm => { u with algorithm }
    | none => u
  let u ← match params.lookup (bytesOf "digits") with
    | some digits => (fun digits => { u with digits }) <$> stoul digits
    | none => pure u
  let u ← match params.lookup (bytesOf "counter") with
    | some counter => (fun counter => { u with counter }) <$> stoul counter
    | none => if u.type = bytesOf "hotp" then .error (.logicError "missing counter") else pure u
  match params.lookup (bytesOf "period") with
  | some period => (fun period => { u with period }) <$> stoul period
  | none => pure u

example : ParsedUri.parse (bytesOf "otpauth://totp/Acme:bob?secret=JBSWY3DP&digits=8") =
    .ok ⟨bytesOf "totp", bytesOf "bob", bytesOf "JBSWY3DP", bytesOf "Acme", bytesOf "SHA1", 6, 0, 30⟩ := by
  decide +kernel

/-! ## What `urlencode` writes for one byte -/

end RaspiServer.Otp
