import Mathlib

/-!
# Base64 (RFC 4648, section 4)

The encoding reads the input in groups of three bytes, a 24-bit value, and
writes each group as four characters of the 64-character alphabet, most
significant six bits first. A final group of one or two bytes is filled with
zero bits to a whole number of characters and completed with `=` to four.
The decoder reads four characters at a time; only the last group may hold
`=`. Decoding an encoding gives back the bytes, and the length of the
encoding is `4 * ⌈n / 3⌉`.
-/

set_option autoImplicit false

namespace Base64

/-- The base64 alphabet: `A`-`Z`, `a`-`z`, `0`-`9`, `+`, `/`. -/
def alphabet : List Char := "ABCDEFGHIJKLMNOPQRSTUVWXYZabcdefghijklmnopqrstuvwxyz0123456789+/".toList

/-- The character of a six-bit value. -/
def char (v : Nat) : Char := alphabet.getD v '='

def value? (c : Char) : Option Nat := alphabet.idxOf? c

def encode : List UInt8 → List Char
  | [] => []
  | [a] =>
      let g := a.toNat * 16
      [char (g / 64), char (g % 64), '=', '=']
  | [a, b] =>
      let g := (a.toNat * 256 + b.toNat) * 4
      [char (g / 4096), char (g / 64 % 64), char (g % 64), '=']
  | a :: b :: c :: rest =>
      let g := a.toNat * 65536 + b.toNat * 256 + c.toNat
      [char (g / 262144), char (g / 4096 % 64), char (g / 64 % 64), char (g % 64)] ++ encode rest

def decode : List Char → Option (List UInt8)
  | [] => some []
  | c₁ :: c₂ :: c₃ :: c₄ :: rest =>
      if rest = [] ∧ c₃ = '=' ∧ c₄ = '=' then do
        let g := (← value? c₁) * 64 + (← value? c₂)
        pure [(g / 16).toUInt8]
      else if rest = [] ∧ c₄ = '=' then do
        let g := ((← value? c₁) * 64 + (← value? c₂)) * 64 + (← value? c₃)
        pure [(g / 1024).toUInt8, (g / 4 % 256).toUInt8]
      else do
        let g := (((← value? c₁) * 64 + (← value? c₂)) * 64 + (← value? c₃)) * 64 + (← value? c₄)
        pure ([(g / 65536).toUInt8, (g / 256 % 256).toUInt8, (g % 256).toUInt8] ++ (← decode rest))
  | _ => none

example : encode [0x4D, 0x61, 0x6E, 0x4D, 0x61] = "TWFuTWE=".toList := by decide

/-! ## The alphabet -/

theorem value?_char : ∀ v, v < 64 → value? (char v) = some v := by
  decide +kernel

theorem char_ne_pad : ∀ v, v < 64 → char v ≠ '=' := by
  decide +kernel

/-! ## Round trip and length -/

theorem length_encode (bytes : List UInt8) : (encode bytes).length = 4 * ((bytes.length + 2) / 3) := by
  induction bytes using encode.induct with
  | case1 => rfl
  | case2 a => simp [encode]
  | case3 a b => simp [encode]
  | case4 a b c rest ih =>
      rw [encode, List.length_append, ih]
      simp only [List.length_cons, List.length_nil]
      omega

theorem toUInt8_toNat (a : UInt8) : a.toNat.toUInt8 = a := by
  rw [Nat.toUInt8, UInt8.ofNat_toNat]

/-- The four characters of a full group decode to its three bytes. -/
theorem decode_full_group {g : Nat} (lt : g < 2 ^ 24) (rest : List Char) :
    decode ([char (g / 262144), char (g / 4096 % 64), char (g / 64 % 64), char (g % 64)] ++ rest) =
      (decode rest).map ([(g / 65536).toUInt8, (g / 256 % 256).toUInt8, (g % 256).toUInt8] ++ ·) := by
  have notPad₃ : char (g / 64 % 64) ≠ '=' := char_ne_pad _ (Nat.mod_lt _ (by decide))
  have notPad₄ : char (g % 64) ≠ '=' := char_ne_pad _ (Nat.mod_lt _ (by decide))
  simp only [List.cons_append, List.nil_append, decode, notPad₃, notPad₄, and_false, if_false,
    Option.bind_eq_bind, Option.bind_some, Option.pure_def, value?_char _ (show g / 262144 < 64 by omega),
    value?_char _ (show g / 4096 % 64 < 64 by omega), value?_char _ (show g / 64 % 64 < 64 by omega),
    value?_char _ (show g % 64 < 64 by omega)]
  -- the four sextets put back together are the group
  rw [show ((g / 262144 * 64 + g / 4096 % 64) * 64 + g / 64 % 64) * 64 + g % 64 = g by omega]
  cases decode rest <;> rfl

/-- A final group of two bytes, three characters and one `=`. -/
theorem decode_two_group {g : Nat} (lt : g < 2 ^ 18) :
    decode [char (g / 4096), char (g / 64 % 64), char (g % 64), '='] =
      some [(g / 1024).toUInt8, (g / 4 % 256).toUInt8] := by
  -- the third character is a value, so the group is not the one-byte one
  have notPad₃ : char (g % 64) ≠ '=' := char_ne_pad _ (Nat.mod_lt _ (by decide))
  simp only [decode, notPad₃, and_false, false_and, if_false, and_self, if_true, Option.bind_eq_bind,
    Option.bind_some, Option.pure_def, value?_char _ (show g / 4096 < 64 by omega),
    value?_char _ (show g / 64 % 64 < 64 by omega), value?_char _ (show g % 64 < 64 by omega)]
  rw [show (g / 4096 * 64 + g / 64 % 64) * 64 + g % 64 = g by omega]

/-- A final group of one byte, two characters and two `=`. -/
theorem decode_one_group {g : Nat} (lt : g < 2 ^ 12) :
    decode [char (g / 64), char (g % 64), '=', '='] = some [(g / 16).toUInt8] := by
  simp only [decode, and_self, if_true, Option.bind_eq_bind, Option.bind_some, Option.pure_def,
    value?_char _ (show g / 64 < 64 by omega), value?_char _ (show g % 64 < 64 by omega)]
  rw [show g / 64 * 64 + g % 64 = g by omega]

theorem decode_encode (bytes : List UInt8) : decode (encode bytes) = some bytes := by
  induction bytes using encode.induct with
  | case1 => rfl
  | case2 a =>
      have byte := a.toNat_lt
      simp only [encode]
      rw [decode_one_group (by omega), show a.toNat * 16 / 16 = a.toNat by omega, toUInt8_toNat]
  | case3 a b =>
      have first := a.toNat_lt
      have second := b.toNat_lt
      simp only [encode]
      rw [decode_two_group (by omega), show (a.toNat * 256 + b.toNat) * 4 / 1024 = a.toNat by omega,
        show (a.toNat * 256 + b.toNat) * 4 / 4 % 256 = b.toNat by omega, toUInt8_toNat, toUInt8_toNat]
  | case4 a b c rest ih =>
      have first := a.toNat_lt
      have second := b.toNat_lt
      have third := c.toNat_lt
      simp only [encode]
      rw [decode_full_group (by omega), ih, Option.map_some,
        show (a.toNat * 65536 + b.toNat * 256 + c.toNat) / 65536 = a.toNat by omega,
        show (a.toNat * 65536 + b.toNat * 256 + c.toNat) / 256 % 256 = b.toNat by omega,
        show (a.toNat * 65536 + b.toNat * 256 + c.toNat) % 256 = c.toNat by omega,
        toUInt8_toNat, toUInt8_toNat, toUInt8_toNat]
      rfl

end Base64
