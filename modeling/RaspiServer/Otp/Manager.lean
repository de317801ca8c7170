import RaspiServer.Otp.Totp

/-!
# The server's OTP manager (`otp/otp_manager.cpp`, `otp/otp_uri.cpp`)

`OTPManager` keeps two maps keyed by account id: `user_otps`, the TOTP
objects `verify_otp` consults, and `user_secrets`, the base32 secrets they were
built from. `generate_otp_uri` draws a fresh secret with `random_base32(16)`,
builds the `otpauth://` URI an authenticator scans, and overwrites both
entries; `register_otp` does the same from a stored secret.

URIs are `OTP_URI::get_uri` over the fields `OTP::build_uri` sets. Texts are
percent-encoded byte by byte by `urlencode`, over the UTF-8 bytes of the text.
-/

set_option autoImplicit false

namespace RaspiServer.Otp

/-! ## `OTP_URI` -/

/-- The characters `urlencode` escapes besides control bytes: the string
`to_test` of `otp_uri.cpp`. -/
def urlencodeEscaped : List Char :=
  ['"', '<', '>', '#', '%', '@', '\x7b', '\x7d', '|', '\\', '^', '~', '[', ']', Char.ofNat 96, ' ', '?', '&']

/-- A lowercase hexadecimal digit. -/
def hexDigit (d : Nat) : Char := if d < 10 then Char.ofNat (48 + d) else Char.ofNat (87 + d)

/-- One byte of `urlencode`: a (signed) `char` below `0x20`, which covers the
bytes from `0x80`, or one of `to_test` becomes `%` and two lowercase hex digits. -/
def urlencodeByte (b : UInt8) : List Char :=
  if b.toNat < 0x20 ∨ 0x80 ≤ b.toNat ∨ Char.ofNat b.toNat ∈ urlencodeEscaped then
    ['%', hexDigit (b.toNat / 16), hexDigit (b.toNat % 16)]
  else [Char.ofNat b.toNat]

/-- `urlencode(text)`. -/
def urlencode (text : String) : String :=
  String.ofList (text.toList.flatMap fun c => (String.utf8EncodeChar c).flatMap urlencodeByte)

/-- The fields of an `OTP_URI`. -/
structure OtpUri where
  type : String
  account : String
  secret : String
  issuer : String
  algorithm : String
  digits : Nat
  counter : Nat
  period : Nat

/-- `OTP_URI::OTP_URI()`. -/
def OtpUri.empty : OtpUri :=
  { type := "", account := "", secret := "", issuer := "", algorithm := "SHA1",
    digits := 6, counter := 0, period := 30 }

/-- `OTP_URI::get_uri()`: empty unless issuer, account and type are all set. -/
def OtpUri.getUri (uri : OtpUri) : String :=
  if uri.issuer = "" ∨ uri.account = "" ∨ uri.type = "" then ""
  else
    let cissuer := urlencode uri.issuer
    let secret := urlencode uri.secret
    let digest := urlencode uri.algorithm
    let args := "?secret=" ++ secret ++ "&issuer=" ++ cissuer ++ "&algorithm=" ++ digest ++
      "&digits=" ++ uri.digits.repr
    let args := if uri.type = "hotp" then args ++ "&counter=" ++ uri.counter.repr else args
    let args := if uri.type = "totp" then args ++ "&period=" ++ uri.period.repr else args
    "otpauth://" ++ uri.type ++ "/" ++ cissuer ++ ":" ++ urlencode uri.account ++ args

/-- `TOTP::build_uri()`, that is `OTP::build_uri("totp", {{"period", …}})`.
That function hands the period to `set_counter`, so the URI keeps the default
period of 30 whatever the object's interval. -/
def Totp.buildUri (totp : Totp) : String :=
  let uri := { OtpUri.empty with type := "totp" }
  let uri := { uri with account := totp.account }
  let uri := { uri with secret := totp.base32Secret }
  let uri := { uri with issuer := totp.issuer }
  let uri := { uri with algorithm := "SHA1" }
  let uri := { uri with digits := totp.digits }
  let uri := { uri with counter := totp.interval }
  uri.getUri

/-! ## `OTPManager` -/

/-- `user_otps` and `user_secrets`; an absent key is `none`. -/
structure OtpManager where
  userOtps : String → Option Totp
  userSecrets : String → Option String

/-- The manager at start-up: no objects. -/
def OtpManager.empty : OtpManager := ⟨fun _ => none, fun _ => none⟩

/-- The issuer every manager object carries. -/
def otpIssuer : String := "OTP Console Program"

/-- `OTPManager::generate_otp_uri(id)`, with `rand` the values `rand()`
returns to `random_base32`. -/
def OtpManager.generateOtpUri (m : OtpManager) (id : String) (rand : Nat → Nat) :
    Except String (OtpManager × String) := do
  let secret := randomBase32 16 rand
  let totp ← Totp.create secret 6 30
  let totp := { totp with account := id }
  let totp := { totp with issuer := otpIssuer }
  let uri := totp.buildUri
  pure ({ userOtps := Function.update m.userOtps id (some totp),
          userSecrets := Function.update m.userSecrets id (some secret) }, uri)

/-- `OTPManager::register_otp(id, secret)`: nothing for an empty secret. -/
def OtpManager.registerOtp (m : OtpManager) (id secret : String) : Except String OtpManager :=
  if secret = "" then pure m
  else do
    let totp ← Totp.create secret 6 30
    let totp := { totp with account := id }
    let totp := { totp with issuer := otpIssuer }
    pure { userOtps := Function.update m.userOtps id (some totp),
           userSecrets := Function.update m.userSecrets id (some secret) }

/-- `OTPManager::verify_otp(id, otp)` at Unix time `now`: the `int` code goes
to `TOTP::verify(uint64_t, time, 0)`. -/
def OtpManager.verifyOtp (hmac : Hmac) (m : OtpManager) (id : String) (otp : Int) (now : Nat) :
    Except String Bool :=
  match m.userOtps id with
  | some totp => totp.verifyNumber hmac (toUnsigned64 otp) now 0
  | none => pure false

/-- `OTPManager::get_secret(id)`. -/
def OtpManager.getSecret (m : OtpManager) (id : String) : String := (m.userSecrets id).getD ""

/-- `user_otps[id] = totp; user_secrets[id] = secret`, the two writes of
`generate_otp_uri` and `register_otp`. -/
def OtpManager.put (m : OtpManager) (id : String) (totp : Totp) (secret : String) : OtpManager :=
  { userOtps := Function.update m.userOtps id (some totp),
    userSecrets := Function.update m.userSecrets id (some secret) }

@[simp] theorem OtpManager.put_userOtps_self (m : OtpManager) (id : String) (totp : Totp) (secret : String) :
    (m.put id totp secret).userOtps id = some totp := Function.update_self ..

@[simp] theorem OtpManager.put_userSecrets_self (m : OtpManager) (id : String) (totp : Totp) (secret : String) :
    (m.put id totp secret).userSecrets id = some secret := Function.update_self ..

@[simp] theorem OtpManager.put_getSecret_self (m : OtpManager) (id : String) (totp : Totp) (secret : String) :
    (m.put id totp secret).getSecret id = secret := by
  simp [OtpManager.getSecret]

/-! ## URIs -/

theorem urlencodeByte_base32 {c : Char} (member : c ∈ base32Chars) :
    (String.utf8EncodeChar c).flatMap urlencodeByte = [c] := by
  simp only [base32Chars, List.mem_cons, List.not_mem_nil, or_false] at member
  rcases member with rfl | rfl | rfl | rfl | rfl | rfl | rfl | rfl | rfl | rfl | rfl | rfl | rfl | rfl | rfl | rfl |
    rfl | rfl | rfl | rfl | rfl | rfl | rfl | rfl | rfl | rfl | rfl | rfl | rfl | rfl | rfl | rfl <;> decide

theorem urlencode_base32 (cs : List Char) (valid : ∀ c ∈ cs, c ∈ base32Chars) :
    urlencode (String.ofList cs) = String.ofList cs := by
  rw [urlencode, String.toList_ofList]
  congr 1
  induction cs with
  | nil => rfl
  | cons c rest ih =>
      rw [List.flatMap_cons, urlencodeByte_base32 (valid c (by simp)),
        ih fun c member => valid c (List.mem_cons_of_mem _ member)]
      rfl

theorem urlencode_otpIssuer : urlencode otpIssuer = "OTP%20Console%20Program" := by decide

/-- The URI of a TOTP object with an account and an issuer. Its period is the
default 30, not the interval. -/
theorem buildUri_eq (totp : Totp) (account : totp.account ≠ "") (issuer : totp.issuer ≠ "") :
    totp.buildUri = "otpauth://totp/" ++ urlencode totp.issuer ++ ":" ++ urlencode totp.account ++
      "?secret=" ++ urlencode totp.base32Secret ++ "&issuer=" ++ urlencode totp.issuer ++
      "&algorithm=SHA1&digits=" ++ totp.digits.repr ++ "&period=30" := by
  have sha1 : urlencode "SHA1" = "SHA1" := by decide
  rw [Totp.buildUri, OtpUri.getUri]
  dsimp only [OtpUri.empty]
  -- the `totp` branch is taken and the `hotp` one is not
  rw [if_neg (by simp [account, issuer]), if_pos rfl, if_neg (by decide), sha1]
  simp only [String.append_assoc]
  rfl

/-! ## Issuing and verifying -/

/-- The URI `generate_otp_uri(id)` returns for the drawn secret: empty for an
empty id, since `get_uri` needs an account. -/
def issuedUri (id secret : String) : String :=
  if id = "" then ""
  else "otpauth://totp/OTP%20Console%20Program:" ++ urlencode id ++ "?secret=" ++ secret ++
    "&issuer=OTP%20Console%20Program&algorithm=SHA1&digits=6&period=30"

/-- The URI and the manager after `generate_otp_uri(id)`: both maps hold the
drawn secret for `id`, and a non-empty id gets the URI carrying that secret. -/
theorem generateOtpUri_eq (m : OtpManager) (id : String) (rand : Nat → Nat) :
    ∃ totp : Totp, totp.base32Secret = randomBase32 16 rand ∧ totp.account = id ∧ totp.digits = 6 ∧
      totp.interval = 30 ∧ m.generateOtpUri id rand =
        .ok ({ userOtps := Function.update m.userOtps id (some totp),
               userSecrets := Function.update m.userSecrets id (some (randomBase32 16 rand)) },
             issuedUri id (randomBase32 16 rand)) := by
  obtain ⟨sixteen, valid⟩ := randomBase32_spec 16 rand
  have nonempty : randomBase32 16 rand ≠ "" := fun empty => by
    rw [empty] at sixteen
    simp at sixteen
  have created : Totp.create (randomBase32 16 rand) 6 30 =
      .ok { base32Secret := randomBase32 16 rand, digits := 6, interval := 30, account := "", issuer := "",
            secret_ne := nonempty, digits_ge := by decide, digits_le := by decide } := by
    rw [Totp.create, dif_pos ⟨nonempty, by decide, by decide⟩]
  refine ⟨{ base32Secret := randomBase32 16 rand, digits := 6, interval := 30,
            account := id, issuer := otpIssuer,
            secret_ne := nonempty, digits_ge := by decide, digits_le := by decide },
    rfl, rfl, rfl, rfl, ?_⟩
  rw [OtpManager.generateOtpUri, created]
  simp only [bind, Except.bind, pure, Except.pure, Except.ok.injEq, Prod.mk.injEq, true_and, issuedUri]
  split
  · rename_i empty
    subst empty
    simp [Totp.buildUri, OtpUri.getUri]
  · rename_i named
    rw [buildUri_eq _ named (show otpIssuer ≠ "" by decide)]
    have plain : urlencode (randomBase32 16 rand) = randomBase32 16 rand := by
      have text := urlencode_base32 (randomBase32 16 rand).toList valid
      rwa [String.ofList_toList] at text
    simp only [urlencode_otpIssuer, plain, String.append_assoc]
    rfl

/-- `random_base32(16)` can draw `JBSWY3DAEHPK3PXP`. The URI carries it and
RFC 4648 decodes it to `48 65 6c 6c 60 21 de ad be ef`, but `verify_otp` keys
the HMAC with `48 65 6c 6c 60 00 00 00 00 00`: `byte_secret` stops after the
first group because its last character, `A`, has a value below 5. -/
theorem verifyOtp_JBSWY3DAEHPK3PXP (hmac : Hmac) (m : OtpManager) (otp : Int) :
    ∃ issued : OtpManager × String,
      m.generateOtpUri "alice" (fun i => [9, 1, 18, 22, 24, 27, 3, 0, 4, 7, 15, 10, 27, 15, 23, 15].getD i 0) =
        .ok issued ∧
      issued.2 = "otpauth://totp/OTP%20Console%20Program:alice?secret=JBSWY3DAEHPK3PXP" ++
        "&issuer=OTP%20Console%20Program&algorithm=SHA1&digits=6&period=30" ∧
      rfc4648Decode "JBSWY3DAEHPK3PXP" = some [72, 101, 108, 108, 96, 33, 222, 173, 190, 239] ∧
      issued.1.verifyOtp hmac "alice" otp 59 =
        .ok (decide (toUnsigned64 otp = rfc6238 hmac [72, 101, 108, 108, 96, 0, 0, 0, 0, 0] 59)) := by
  have drawn : randomBase32 16 (fun i => [9, 1, 18, 22, 24, 27, 3, 0, 4, 7, 15, 10, 27, 15, 23, 15].getD i 0) =
      "JBSWY3DAEHPK3PXP" := by decide
  have key : byteSecret "JBSWY3DAEHPK3PXP" = [72, 101, 108, 108, 96, 0, 0, 0, 0, 0] := by decide +kernel
  obtain ⟨totp, secret, -, six, thirty, issued⟩ := generateOtpUri_eq m "alice"
    (fun i => [9, 1, 18, 22, 24, 27, 3, 0, 4, 7, 15, 10, 27, 15, 23, 15].getD i 0)
  refine ⟨_, issued, ?_, by decide +kernel, ?_⟩
  · have encoded : urlencode "alice" = "alice" := by decide
    rw [drawn, issuedUri, if_neg (by decide), encoded]
    rfl
  · simp only [OtpManager.verifyOtp, Function.update_self]
    rw [verifyNumber_zero_eq_rfc6238 hmac totp _ 59 thirty six (by decide), secret, drawn, key]

end RaspiServer.Otp
