import RaspiServer.Otp.Base32

/-!
# TOTP codes (`otp/cotp.cpp`)

`OTP::to_bytes`, `OTP::generate`, `TOTP::timecode`, `TOTP::code_at`,
`TOTP::compare` and `TOTP::verify` of the in-tree cotp copy, for the `SHA1`
algorithm the server asks for. The digest is OpenSSL's HMAC-SHA1, a parameter
here that returns 20 bytes. RFC 6238 is stated beside the code over the same
HMAC, so that the two differ only where the code does.

Integer conversions follow the source types: `timecode` returns an `int` (the
low 32 bits, two's complement), and an `int` added to a `size_t` or passed as
a `uint64_t` is taken modulo `2^64`.
-/

set_option autoImplicit false

namespace RaspiServer.Otp

/-- HMAC-SHA1 as `hmac_algo_sha1` returns it: the 20-byte digest of a message
under a key. -/
structure Hmac where
  run : List UInt8 → List UInt8 → List UInt8
  length_run : ∀ key message, (run key message).length = 20

/-- `OTP_MIN_DIGITS`. -/
def otpMinDigits : Nat := 3

/-- `OTP_MAX_DIGITS`. -/
def otpMaxDigits : Nat := 8

/-- A `cotp::TOTP` object with the `SHA1` algorithm (`m_bits = 160`). The
constructor's parameter checks are fields: only objects it accepts exist. -/
structure Totp where
  base32Secret : String
  digits : Nat
  interval : Nat
  account : String
  issuer : String
  secret_ne : base32Secret ≠ ""
  digits_ge : otpMinDigits ≤ digits
  digits_le : digits ≤ otpMaxDigits

/-- `TOTP(base32_secret, "SHA1", digits, interval)`. The `OTP` constructor
throws `std::logic_error("otp invalid param")` on an empty secret or a digit
count out of range; its tests on the algorithm (`160 % 8 = 0`,
`160 ≥ 8 * 19`, a non-null digest) hold for `SHA1`. -/
def Totp.create (base32Secret : String) (digits interval : Nat) : Except String Totp :=
  if valid : base32Secret ≠ "" ∧ otpMinDigits ≤ digits ∧ digits ≤ otpMaxDigits then
    .ok { base32Secret, digits, interval, account := "", issuer := "",
          secret_ne := valid.1, digits_ge := valid.2.1, digits_le := valid.2.2 }
  else .error "otp invalid param"

/-! ## Code generation -/

/-- `OTP::to_bytes(value)`: eight zero bytes, of which
`for (size_t i = 7; i > 7 - sizeof(int); --i)` fills the last four, storing
`value & 0xff` and shifting `value` right by eight each time. -/
def toBytes (value : Nat) : List UInt8 :=
  ([7, 6, 5, 4].foldl (fun (acc : List UInt8 × Nat) i => (acc.1.set i acc.2.toUInt8, acc.2 >>> 8))
    (List.replicate 8 0, value)).1

/-- `while (s.size() < digits) s = "0" + s;` -/
def zeroPad (digits : Nat) (s : String) : String :=
  String.ofList (List.replicate (digits - s.length) '0') ++ s

/-- `OTP::generate(input)`: HMAC of the `to_bytes` counter under the
`byte_secret` key, the size check against `m_bits / 8`, dynamic truncation and
`m_digits` zero-padded decimal digits (`std::to_string`). -/
def Totp.generate (hmac : Hmac) (totp : Totp) (input : Nat) : Except String String :=
  let hash := hmac.run (byteSecret totp.base32Secret) (toBytes input)
  if hash.length ≠ 160 / 8 then .error "hmac size mismatch"
  else
    let offset := (hash.getD (hash.length - 1) 0 &&& 0xF).toNat
    let byte k := (hash.getD (offset + k) 0).toNat
    let code := (byte 0 &&& 0x7F) <<< 24 ||| (byte 1 &&& 0xFF) <<< 16 |||
      (byte 2 &&& 0xFF) <<< 8 ||| (byte 3 &&& 0xFF)
    .ok (zeroPad totp.digits (code % 10 ^ totp.digits).repr)

/-- The `int` a `uint64_t` becomes: its low 32 bits, two's complement. -/
def toInt32 (n : Nat) : Int :=
  if n % 2 ^ 32 < 2 ^ 31 then ((n % 2 ^ 32 : Nat) : Int) else ((n % 2 ^ 32 : Nat) : Int) - 2 ^ 32

/-- A signed value converted to `uint64_t` or `size_t`. -/
def toUnsigned64 (i : Int) : Nat := (i % 2 ^ 64).toNat

/-- `TOTP::timecode(for_time)`: `for_time / m_interval`, returned as `int`. -/
def Totp.timecode (totp : Totp) (forTime : Nat) : Int := toInt32 (forTime / totp.interval)

/-- `TOTP::code_at(for_time, counter_offset)`. -/
def Totp.codeAt (hmac : Hmac) (totp : Totp) (forTime counterOffset : Nat) : Except String String :=
  totp.generate hmac (toUnsigned64 (totp.timecode forTime + counterOffset))

/-- `TOTP::compare(key, increment, for_time)` on a string key. -/
def Totp.compare (hmac : Hmac) (totp : Totp) (key : String) (increment forTime : Nat) :
    Except String Bool := do
  let timeStr ← totp.codeAt hmac forTime increment
  pure (key == timeStr)

/-- The window loop of `TOTP::verify`: the first offset whose code matches
returns `true`. -/
def Totp.verifyWindow (hmac : Hmac) (totp : Totp) (key : String) (forTime : Nat) :
    List Int → Except String Bool
  | [] => pure false
  | i :: rest => do
      if ← totp.compare hmac key (toUnsigned64 i) forTime then pure true
      else totp.verifyWindow hmac key forTime rest

/-- `TOTP::verify(key, for_time, valid_window)` on a string key. The test
`valid_window < 0` never holds for a `size_t`; a positive window tries the
offsets `-valid_window, …, valid_window - 1`. -/
def Totp.verify (hmac : Hmac) (totp : Totp) (key : String) (forTime validWindow : Nat) :
    Except String Bool :=
  if validWindow > 0 then
    totp.verifyWindow hmac key forTime
      ((List.range (2 * validWindow)).map fun j => (j : Int) - validWindow)
  else totp.compare hmac key 0 forTime

/-- `TOTP::verify(uint64_t key, for_time, valid_window)`: the key printed and
zero-padded to `m_digits`, then the string form. -/
def Totp.verifyNumber (hmac : Hmac) (totp : Totp) (key forTime validWindow : Nat) :
    Except String Bool :=
  totp.verify hmac (zeroPad totp.digits key.repr) forTime validWindow

/-! ## RFC 4226 and RFC 6238 -/

/-- The 8-byte big-endian counter of RFC 4226 §5.2. -/
def counterBytes (counter : Nat) : List UInt8 :=
  (List.range 8).map fun k => (counter >>> (8 * (7 - k))).toUInt8

/-- RFC 4226 §5.3 dynamic truncation of a 20-byte HMAC-SHA1 value, reduced to
`digits` decimal digits. -/
def truncate (digits : Nat) (hash : List UInt8) : Nat :=
  let offset := (hash.getD 19 0).toNat % 16
  let byte k := (hash.getD (offset + k) 0).toNat
  (byte 0 % 128 * 2 ^ 24 + byte 1 * 2 ^ 16 + byte 2 * 2 ^ 8 + byte 3) % 10 ^ digits

/-- The RFC 6238 TOTP value with HMAC-SHA1, six digits, a 30-second step and
`T0 = 0`, at Unix time `time`, under the key bytes `key`. -/
def rfc6238 (hmac : Hmac) (key : List UInt8) (time : Nat) : Nat :=
  truncate 6 (hmac.run key (counterBytes (time / 30)))

/-! ## Counter encoding -/

theorem toBytes_eq (value : Nat) :
    toBytes value = [(0 : UInt8), 0, 0, 0, (value >>> 24).toUInt8, (value >>> 16).toUInt8,
      (value >>> 8).toUInt8, value.toUInt8] := by
  simp [toBytes, ← Nat.shiftRight_add]

theorem toUInt8_shiftRight_congr {a b : Nat} (k : Nat) (small : k ≤ 24)
    (low : a % 2 ^ 32 = b % 2 ^ 32) : (a >>> k).toUInt8 = (b >>> k).toUInt8 := by
  have dvd : 2 ^ k * 2 ^ 8 ∣ 2 ^ 32 := by
    rw [← Nat.pow_add]
    exact Nat.pow_dvd_pow 2 (by omega)
  -- the byte above bit `k` is read from the low 32 bits only
  have byte : ∀ n : Nat, n / 2 ^ k % 2 ^ 8 = n % 2 ^ 32 % (2 ^ k * 2 ^ 8) / 2 ^ k := fun n => by
    rw [Nat.mod_mod_of_dvd n dvd, Nat.mod_mul_right_div_self]
  apply UInt8.toNat_inj.mp
  simp only [Nat.toUInt8, UInt8.toNat_ofNat', Nat.shiftRight_eq_div_pow]
  rw [byte a, byte b, low]

theorem toBytes_congr {a b : Nat} (low : a % 2 ^ 32 = b % 2 ^ 32) : toBytes a = toBytes b := by
  rw [toBytes_eq, toBytes_eq, toUInt8_shiftRight_congr 24 (by omega) low,
    toUInt8_shiftRight_congr 16 (by omega) low, toUInt8_shiftRight_congr 8 (by omega) low]
  have zero := toUInt8_shiftRight_congr 0 (by omega) low
  simp only [Nat.shiftRight_zero] at zero
  rw [zero]

theorem toBytes_eq_counterBytes {counter : Nat} (small : counter < 2 ^ 32) :
    toBytes counter = counterBytes counter := by
  have vanish : ∀ k, 32 ≤ k → (counter >>> k).toUInt8 = 0 := fun k big => by
    rw [Nat.shiftRight_eq_div_pow, Nat.div_eq_of_lt (lt_of_lt_of_le small (Nat.pow_le_pow_right (by omega) big))]
    rfl
  simp only [toBytes_eq, counterBytes, List.range_succ, List.range_zero, List.map_cons, List.map_nil,
    List.nil_append, List.cons_append, Nat.reduceSub, Nat.reduceMul]
  rw [vanish 56 (by omega), vanish 48 (by omega), vanish 40 (by omega), vanish 32 (by omega),
    Nat.shiftRight_zero]

/-- The `int` time code, widened back to 64 bits, keeps the low 32 bits of the
counter. -/
theorem toUnsigned64_toInt32_mod (n : Nat) : toUnsigned64 (toInt32 n) % 2 ^ 32 = n % 2 ^ 32 := by
  unfold toUnsigned64 toInt32
  split <;> omega

/-! ## Truncation -/

theorem and_low_mask (x k : Nat) : x &&& (2 ^ k - 1) = x % 2 ^ k := Nat.and_two_pow_sub_one_eq_mod x k

/-- The source's shifts and ors build the same 31-bit number as RFC 4226's sum. -/
theorem truncation_bits (b0 b1 b2 b3 : Nat) (bounds : b1 < 256 ∧ b2 < 256 ∧ b3 < 256) :
    (b0 &&& 0x7F) <<< 24 ||| (b1 &&& 0xFF) <<< 16 ||| (b2 &&& 0xFF) <<< 8 ||| (b3 &&& 0xFF) =
      b0 % 128 * 2 ^ 24 + b1 * 2 ^ 16 + b2 * 2 ^ 8 + b3 := by
  obtain ⟨s1, s2, s3⟩ := bounds
  have masks : ∀ b, b < 256 → b &&& 0xFF = b := fun b small => by
    rw [show (0xFF : Nat) = 2 ^ 8 - 1 from rfl, and_low_mask]
    omega
  rw [show (0x7F : Nat) = 2 ^ 7 - 1 from rfl, and_low_mask, masks b1 s1, masks b2 s2, masks b3 s3]
  simp only [Nat.shiftLeft_eq]
  -- each `|||` joins a multiple of `2^k` with a value below `2^k`
  rw [or_eq_add_of_low_clear (b0 % 2 ^ 7 * 2 ^ 24) (b1 * 2 ^ 16) 24 (by omega) (by omega),
    or_eq_add_of_low_clear (b0 % 2 ^ 7 * 2 ^ 24 + b1 * 2 ^ 16) (b2 * 2 ^ 8) 16 (by omega) (by omega),
    or_eq_add_of_low_clear (b0 % 2 ^ 7 * 2 ^ 24 + b1 * 2 ^ 16 + b2 * 2 ^ 8) b3 8 (by omega) (by omega)]
  rfl

theorem getD_toNat_lt (hash : List UInt8) (k : Nat) : (hash.getD k 0).toNat < 256 :=
  (hash.getD k 0).toNat_lt

theorem generate_eq (hmac : Hmac) (totp : Totp) (input : Nat) :
    totp.generate hmac input =
      .ok (zeroPad totp.digits
        (truncate totp.digits (hmac.run (byteSecret totp.base32Secret) (toBytes input))).repr) := by
  have twenty := hmac.length_run (byteSecret totp.base32Secret) (toBytes input)
  simp only [Totp.generate, twenty, ne_eq, Nat.reduceDiv, not_true_eq_false, if_false, truncate,
    Nat.reduceSub]
  rw [truncation_bits _ _ _ _ ⟨getD_toNat_lt _ _, getD_toNat_lt _ _, getD_toNat_lt _ _⟩]
  -- `hash[size - 1] & 0xF` is the low nibble of byte 19
  have nibble : ((hmac.run (byteSecret totp.base32Secret) (toBytes input)).getD 19 0 &&& 0xF).toNat =
      ((hmac.run (byteSecret totp.base32Secret) (toBytes input)).getD 19 0).toNat % 16 := by
    simp only [UInt8.toNat_and]
    exact and_low_mask _ 4
  rw [nibble]

/-! ## Verification -/

theorem zeroPad_repr_injective (digits : Nat) {a b : Nat}
    (same : zeroPad digits a.repr = zeroPad digits b.repr) : a = b := by
  have value : ∀ n : Nat, Nat.ofDigitChars 10 (zeroPad digits n.repr).toList 0 = n := fun n => by
    simp [zeroPad, Nat.ofDigitChars_append]
  rw [← value a, same, value b]

theorem zeroPad_repr_beq (digits a b : Nat) :
    (zeroPad digits a.repr == zeroPad digits b.repr) = decide (a = b) := by
  by_cases same : a = b
  · subst same
    simp
  · have differ : zeroPad digits a.repr ≠ zeroPad digits b.repr :=
      fun texts => same (zeroPad_repr_injective digits texts)
    simp [same, differ]

theorem compare_zero_eq (hmac : Hmac) (totp : Totp) (key forTime : Nat) :
    totp.compare hmac (zeroPad totp.digits key.repr) 0 forTime =
      .ok (decide (key = truncate totp.digits
        (hmac.run (byteSecret totp.base32Secret) (toBytes (toUnsigned64 (totp.timecode forTime)))))) := by
  rw [Totp.compare, Totp.codeAt, Nat.cast_zero, add_zero, generate_eq, ← zeroPad_repr_beq]
  rfl

/-- `verify(key, for_time, 0)`, the call `verify_otp` makes, on an object with
a 30-second interval and six digits: below `2^32` time steps it accepts exactly
the RFC 6238 value for the object's `byte_secret` key. -/
theorem verifyNumber_zero_eq_rfc6238 (hmac : Hmac) (totp : Totp) (key forTime : Nat)
    (thirty : totp.interval = 30) (six : totp.digits = 6) (small : forTime / 30 < 2 ^ 32) :
    totp.verifyNumber hmac key forTime 0 =
      .ok (decide (key = rfc6238 hmac (byteSecret totp.base32Secret) forTime)) := by
  have counter : toBytes (toUnsigned64 (totp.timecode forTime)) = counterBytes (forTime / 30) := by
    rw [← toBytes_eq_counterBytes small]
    apply toBytes_congr
    rw [Totp.timecode, toUnsigned64_toInt32_mod, thirty]
  rw [Totp.verifyNumber, Totp.verify, if_neg (by omega), compare_zero_eq, counter, six]
  rfl

end RaspiServer.Otp
