import Mathlib

/-!
# Base32 secrets (`otp/cotp.cpp`)

`OTP::random_base32` draws the secret and `OTP::byte_secret` turns it into the
HMAC key. The decoder is the source's nested loop: eight characters per outer
step, a carried value `n` that is not reset between characters, and an exit
test `n < 5` after every group. RFC 4648 decoding is stated separately, as the
40-bit big-endian reading of each group, so that the two can be compared.

`out_bytes` is a `std::vector<char>` of `size * 5 / 8` bytes. Reads of the
secret go through `std::string::operator[]`, which yields `'\0'` at the index
equal to the size; the model answers `'\0'` for every index past the end.
Writes past the end of `out_bytes` (the loop clears `out_bytes[10]` of a
16-character secret before it stops) leave the list unchanged.
-/

set_option autoImplicit false

namespace RaspiServer.Otp

/-- `OTP::base32_chars`, the string `"ABCDEFGHIJKLMNOPQRSTUVWXYZ234567"`. -/
def base32Chars : List Char :=
  ['A', 'B', 'C', 'D', 'E', 'F', 'G', 'H', 'I', 'J', 'K', 'L', 'M', 'N', 'O', 'P',
   'Q', 'R', 'S', 'T', 'U', 'V', 'W', 'X', 'Y', 'Z', '2', '3', '4', '5', '6', '7']

/-- `OTP::random_base32(len)`: `len > 0 ? len : 16` characters, the `i`-th
being `base32_chars[rand() % 32]` for the `i`-th value `rand i` of `rand()`. -/
def randomBase32 (len : Nat) (rand : Nat → Nat) : String :=
  let len := if len > 0 then len else 16
  String.ofList ((List.range len).map fun i => base32Chars.getD (rand i % 32) 'A')

/-! ## `OTP::byte_secret` -/

/-- The value `n` after reading character `c`, given the value carried from the
previous character: the two range tests of the inner loop, in source order. -/
def charValue (c : Char) (carried : Int) : Int :=
  let n : Int := if 'A' ≤ c ∧ c ≤ 'Z' then ((c.toNat - 'A'.toNat : Nat) : Int) else carried
  if '2' ≤ c ∧ c ≤ '7' then ((26 + c.toNat - '2'.toNat : Nat) : Int) else n

/-- `-offset > 0 ? n >> -offset : n << offset`, stored into a `char`. -/
def shiftBy (n : Nat) (offset : Int) : UInt8 :=
  (if -offset > 0 then n >>> (-offset).toNat else n <<< offset.toNat).toUInt8

/-- The inner loop over `block` for group `i`, from the value `n` and the
bytes so far to the value `n` after the loop and the bytes written. An
invalid character at `block` sets `n = octet` and leaves the loop. -/
def decodeBlocks (secret : List Char) (i : Nat) : List Nat → Int → List UInt8 → Int × List UInt8
  | [], n, out => (n, out)
  | block :: rest, n, out =>
      let offset : Int := 3 - ((5 * block) % 8 : Nat)
      let octet := block * 5 / 8
      let n := charValue (secret.getD (i * 8 + block) (Char.ofNat 0)) n
      if n < 0 then ((octet : Int), out)
      else
        let slot := i * 5 + octet
        let out := out.set slot (out.getD slot 0 ||| shiftBy n.toNat offset)
        let out := if offset < 0 then out.set (slot + 1) (shiftBy n.toNat (8 + offset)) else out
        decodeBlocks secret i rest n out

/-- The outer loop `for (size_t i = 0; ; i++)`, run for at most `fuel` groups.
Each group starts from `n = -1` and `out_bytes[i*5] = 0`; the loop stops once
`n < 5` after a group. -/
def byteSecretLoop (secret : List Char) : Nat → Nat → List UInt8 → List UInt8
  | 0, _, out => out
  | fuel + 1, i, out =>
      let group := decodeBlocks secret i (List.range 8) (-1) (out.set (i * 5) 0)
      if group.1 < 5 then group.2 else byteSecretLoop secret fuel (i + 1) group.2

/-- `OTP::byte_secret()`. The source loop has no bound; it has always stopped
by the group that starts at or past the end of the secret, which is within
`size / 8 + 2` groups. -/
def byteSecret (secret : String) : List UInt8 :=
  byteSecretLoop secret.toList (secret.length / 8 + 2) 0
    (List.replicate (secret.length * 5 / 8) 0)

/-! ## RFC 4648 decoding -/

/-- The RFC 4648 value of a base32 character, its position in the alphabet. -/
def base32Value? (c : Char) : Option Nat := base32Chars.idxOf? c

/-- The big-endian number spelled by a list of 5-bit values. -/
def bitValue (values : List Nat) : Nat := values.foldl (fun acc v => acc * 32 + v) 0

/-- RFC 4648 §6 base32 decoding of an unpadded text: the `5 * n` bits of its
characters, most significant first, read as `5 * n / 8` whole bytes; the
leftover low bits are discarded. A character outside the alphabet is an error. -/
def rfc4648Decode (secret : String) : Option (List UInt8) := do
  let values ← secret.toList.mapM base32Value?
  let count := 5 * values.length / 8
  let v := bitValue values >>> (5 * values.length - 8 * count)
  pure ((List.range count).map fun k => (v >>> (8 * (count - 1 - k))).toUInt8)

theorem or_eq_add_of_low_clear (a b k : Nat) (low : a % 2 ^ k = 0) (small : b < 2 ^ k) :
    a ||| b = a + b := by
  obtain ⟨q, rfl⟩ : ∃ q, a = 2 ^ k * q :=
    ⟨a / 2 ^ k, (Nat.mul_div_cancel' (Nat.dvd_of_mod_eq_zero low)).symm⟩
  exact (Nat.two_pow_add_eq_or_of_lt small q).symm

/-- `JBSWY3DAEHPK3PXP` ends its first group in `A`: the source stops there. -/
example : byteSecret "JBSWY3DAEHPK3PXP" = [72, 101, 108, 108, 96, 0, 0, 0, 0, 0] ∧
    rfc4648Decode "JBSWY3DAEHPK3PXP" = some [72, 101, 108, 108, 96, 33, 222, 173, 190, 239] := by
  constructor <;> decide +kernel

/-- Every secret `random_base32` draws has the requested length (16 for 0)
and only alphabet characters. -/
theorem randomBase32_spec (len : Nat) (rand : Nat → Nat) :
    (randomBase32 len rand).toList.length = (if len > 0 then len else 16) ∧
      ∀ c ∈ (randomBase32 len rand).toList, c ∈ base32Chars := by
  simp only [randomBase32, String.toList_ofList, List.length_map, List.length_range, true_and]
  intro c member
  obtain ⟨i, -, rfl⟩ := List.mem_map.mp member
  have inside : rand i % 32 < base32Chars.length := Nat.mod_lt _ (by decide)
  rw [List.getD_eq_getElem _ _ inside]
  exact List.getElem_mem inside

end RaspiServer.Otp
