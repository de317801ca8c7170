import RaspiServer.Server.Json
import RaspiServer.Library.Base64

/-!
# `base64_encode` (`utils.cpp`)

`handle_detection_request` sends every stored image through `base64_encode`.
The encoder keeps a bit accumulator `val` in a 32-bit `int`, shifted left by
eight for every byte, and the count `valb` of bits in it not yet written, less
six. The shift wraps once four bytes have been read; the characters only read
the low bits of `val`, which the wrap keeps. Between bytes `valb` is `-6`,
`-4` or `-2`, so after a whole group of three bytes the encoder has written
the group's four characters and is back at `-6`, whatever `val` holds. The
model reads `val << 8` as a wrapping shift (`wrapInt`) and `>>` on the signed
value as the arithmetic shift.
-/

set_option autoImplicit false

namespace RaspiServer.Server

def b64Chars : List Char := "ABCDEFGHIJKLMNOPQRSTUVWXYZabcdefghijklmnopqrstuvwxyz0123456789+/".toList

/-- `b64_chars[i & 0x3F]`; `& 0x3F` on the two's-complement value is its
residue modulo 64. -/
def b64Char (i : Int) : Char := b64Chars.getD (i % 64).toNat '='

/-- The inner `while (valb >= 0)` loop. -/
def drainSextets (val valb : Int) (out : List Char) : List Char × Int :=
  if 0 ≤ valb then drainSextets val (valb - 6) (out ++ [b64Char (val >>> valb.toNat)]) else (out, valb)
termination_by (valb + 1).toNat
decreasing_by omega

structure EncodeState where
  out : List Char
  val : Int
  valb : Int

/-- One iteration of the loop over `in`. -/
def encodeByte (s : EncodeState) (c : UInt8) : EncodeState :=
  let val := wrapInt (wrapInt (s.val <<< (8 : Nat)) + c.toNat)
  let drained := drainSextets val (s.valb + 8) s.out
  ⟨drained.1, val, drained.2⟩

/-- `while (out.size() % 4) out.push_back('=')`. -/
def padEquals (out : List Char) : List Char :=
  if out.length % 4 ≠ 0 then padEquals (out ++ ['=']) else out
termination_by (4 - out.length % 4) % 4
decreasing_by
  simp only [List.length_append, List.length_singleton]
  omega

/-- What follows the loop: the last bits, filled with zeros, then the padding. -/
def base64Finish (s : EncodeState) : List Char :=
  padEquals (if s.valb > -6 then s.out ++ [b64Char (wrapInt (s.val <<< (8 : Nat)) >>> (s.valb + 8).toNat)] else s.out)

def base64Encode (input : List UInt8) : List Char := base64Finish (input.foldl encodeByte ⟨[], 0, -6⟩)

/-! ## The two loops -/

theorem drainSextets_neg {val valb : Int} (out : List Char) (negative : valb < 0) :
    drainSextets val valb out = (out, valb) := by
  rw [drainSextets, if_neg (by omega)]

theorem drainSextets_nonneg {val valb : Int} (out : List Char) (nonneg : 0 ≤ valb) :
    drainSextets val valb out = drainSextets val (valb - 6) (out ++ [b64Char (val >>> valb.toNat)]) := by
  rw [drainSextets, if_pos nonneg]

theorem padEquals_eq (out : List Char) :
    padEquals out = out ++ List.replicate ((4 - out.length % 4) % 4) '=' := by
  induction out using padEquals.induct with
  | case1 out unaligned ih =>
      rw [padEquals, if_pos unaligned, ih, List.append_assoc, List.singleton_append, ← List.replicate_succ]
      congr 2
      simp only [List.length_append, List.length_singleton]
      omega
  | case2 out aligned =>
      rw [padEquals, if_neg aligned]
      simp only [not_not] at aligned
      simp [aligned]

/-! ## Characters from the low bits of `val` -/

theorem wrapInt_emod (i : Int) : wrapInt i % 2 ^ 32 = i % 2 ^ 32 := by
  unfold wrapInt
  dsimp only
  split <;> omega

theorem wrapInt_shiftLeft_emod (x : Int) : wrapInt (x <<< (8 : Nat)) % 2 ^ 32 = x * 256 % 2 ^ 32 := by
  rw [wrapInt_emod, Int.shiftLeft_eq]
  norm_num

theorem encodeByte_val (s : EncodeState) (c : UInt8) :
    (encodeByte s c).val % 2 ^ 32 = (s.val * 256 + c.toNat) % 2 ^ 32 := by
  have shifted := wrapInt_shiftLeft_emod s.val
  have added := wrapInt_emod (wrapInt (s.val <<< (8 : Nat)) + c.toNat)
  simp only [encodeByte]
  omega

/-- The character of six bits of `x` at `k`, as the RFC alphabet's. -/
theorem b64Char_shift {x : Int} {k v : Nat} (bits : x / 2 ^ k % 64 = v) :
    b64Char (x >>> k) = Base64.char v := by
  rw [b64Char, Int.shiftRight_eq_div_pow, Nat.cast_pow, Nat.cast_ofNat, bits, Int.toNat_natCast]
  rfl

/-! ## One byte from each value of `valb` -/

theorem encodeByte_six (out : List Char) (val : Int) (c : UInt8) :
    ∃ v, v % 2 ^ 32 = (val * 256 + c.toNat) % 2 ^ 32 ∧
      encodeByte ⟨out, val, -6⟩ c = ⟨out ++ [b64Char (v >>> (2 : Nat))], v, -4⟩ := by
  refine ⟨_, encodeByte_val ⟨out, val, -6⟩ c, ?_⟩
  simp only [encodeByte]
  rw [drainSextets_nonneg _ (by omega), drainSextets_neg _ (by omega)]
  simp

theorem encodeByte_four (out : List Char) (val : Int) (c : UInt8) :
    ∃ v, v % 2 ^ 32 = (val * 256 + c.toNat) % 2 ^ 32 ∧
      encodeByte ⟨out, val, -4⟩ c = ⟨out ++ [b64Char (v >>> (4 : Nat))], v, -2⟩ := by
  refine ⟨_, encodeByte_val ⟨out, val, -4⟩ c, ?_⟩
  simp only [encodeByte]
  rw [drainSextets_nonneg _ (by omega), drainSextets_neg _ (by omega)]
  simp

theorem encodeByte_two (out : List Char) (val : Int) (c : UInt8) :
    ∃ v, v % 2 ^ 32 = (val * 256 + c.toNat) % 2 ^ 32 ∧
      encodeByte ⟨out, val, -2⟩ c = ⟨out ++ [b64Char (v >>> (6 : Nat)), b64Char (v >>> (0 : Nat))], v, -6⟩ := by
  refine ⟨_, encodeByte_val ⟨out, val, -2⟩ c, ?_⟩
  simp only [encodeByte]
  rw [drainSextets_nonneg _ (by omega), drainSextets_nonneg _ (by omega), drainSextets_neg _ (by omega),
    List.append_assoc]
  simp

/-- A group of three bytes from `valb = -6` writes the group's four characters
and comes back to `-6`, whatever `val` held. -/
theorem encodeByte_group (out : List Char) (val : Int) (a b c : UInt8) :
    ∃ v, encodeByte (encodeByte (encodeByte ⟨out, val, -6⟩ a) b) c =
      ⟨out ++ Base64.encode [a, b, c], v, -6⟩ := by
  have first := a.toNat_lt
  have second := b.toNat_lt
  have third := c.toNat_lt
  obtain ⟨v₁, low₁, stepped₁⟩ := encodeByte_six out val a
  obtain ⟨v₂, low₂, stepped₂⟩ := encodeByte_four (out ++ [b64Char (v₁ >>> (2 : Nat))]) v₁ b
  obtain ⟨v₃, low₃, stepped₃⟩ := encodeByte_two (out ++ [b64Char (v₁ >>> (2 : Nat))] ++ [b64Char (v₂ >>> (4 : Nat))]) v₂ c
  refine ⟨v₃, ?_⟩
  rw [stepped₁, stepped₂, stepped₃]
  -- each character reads six of the 24 bits that `val` holds modulo `2 ^ 32`
  rw [b64Char_shift (show v₁ / 2 ^ 2 % 64 = ((a.toNat * 65536 + b.toNat * 256 + c.toNat) / 262144 : Nat) by omega),
    b64Char_shift (show v₂ / 2 ^ 4 % 64 = ((a.toNat * 65536 + b.toNat * 256 + c.toNat) / 4096 % 64 : Nat) by omega),
    b64Char_shift (show v₃ / 2 ^ 6 % 64 = ((a.toNat * 65536 + b.toNat * 256 + c.toNat) / 64 % 64 : Nat) by omega),
    b64Char_shift (show v₃ / 2 ^ 0 % 64 = ((a.toNat * 65536 + b.toNat * 256 + c.toNat) % 64 : Nat) by omega)]
  simp [Base64.encode]

/-! ## The whole encoding -/

theorem padEquals_aligned_append {out : List Char} (tail : List Char) (aligned : out.length % 4 = 0)
    (short : tail.length < 4) :
    padEquals (out ++ tail) = out ++ tail ++ List.replicate ((4 - tail.length) % 4) '=' := by
  rw [padEquals_eq, List.length_append]
  congr 3
  omega

theorem base64Finish_foldl (input : List UInt8) :
    ∀ out val, out.length % 4 = 0 → base64Finish (input.foldl encodeByte ⟨out, val, -6⟩) = out ++ Base64.encode input := by
  induction input using Base64.encode.induct with
  | case1 =>
      intro out val aligned
      rw [List.foldl_nil]
      simp only [base64Finish]
      rw [if_neg (by decide), padEquals_eq, aligned]
      rfl
  | case2 a =>
      intro out val aligned
      have first := a.toNat_lt
      obtain ⟨v₁, low₁, stepped₁⟩ := encodeByte_six out val a
      have shifted := wrapInt_shiftLeft_emod v₁
      -- the four bits left over, filled with zeros, then two `=`
      rw [List.foldl_cons, List.foldl_nil, stepped₁]
      simp only [base64Finish, Int.reduceAdd, Int.reduceToNat]
      rw [if_pos (by decide), List.append_assoc, padEquals_aligned_append _ aligned (by simp),
        b64Char_shift (show v₁ / 2 ^ 2 % 64 = (a.toNat * 16 / 64 : Nat) by omega),
        b64Char_shift (show wrapInt (v₁ <<< (8 : Nat)) / 2 ^ 4 % 64 = (a.toNat * 16 % 64 : Nat) by omega)]
      simp [Base64.encode]
  | case3 a b =>
      intro out val aligned
      have first := a.toNat_lt
      have second := b.toNat_lt
      obtain ⟨v₁, low₁, stepped₁⟩ := encodeByte_six out val a
      obtain ⟨v₂, low₂, stepped₂⟩ := encodeByte_four (out ++ [b64Char (v₁ >>> (2 : Nat))]) v₁ b
      have shifted := wrapInt_shiftLeft_emod v₂
      -- the two bits left over, filled with zeros, then one `=`
      rw [List.foldl_cons, List.foldl_cons, List.foldl_nil, stepped₁, stepped₂]
      simp only [base64Finish, Int.reduceAdd, Int.reduceToNat]
      rw [if_pos (by decide), List.append_assoc, List.append_assoc, padEquals_aligned_append _ aligned (by simp),
        b64Char_shift (show v₁ / 2 ^ 2 % 64 = ((a.toNat * 256 + b.toNat) * 4 / 4096 : Nat) by omega),
        b64Char_shift (show v₂ / 2 ^ 4 % 64 = ((a.toNat * 256 + b.toNat) * 4 / 64 % 64 : Nat) by omega),
        b64Char_shift (show wrapInt (v₂ <<< (8 : Nat)) / 2 ^ 6 % 64 = ((a.toNat * 256 + b.toNat) * 4 % 64 : Nat) by omega)]
      simp [Base64.encode]
  | case4 a b c rest ih =>
      intro out val aligned
      obtain ⟨v, grouped⟩ := encodeByte_group out val a b c
      have stillAligned : (out ++ Base64.encode [a, b, c]).length % 4 = 0 := by
        simp [Base64.encode, aligned]
      rw [List.foldl_cons, List.foldl_cons, List.foldl_cons, grouped, ih _ v stillAligned, List.append_assoc]
      simp [Base64.encode]

/-- `base64_encode` is RFC 4648 base64 for every byte vector, with its
32-bit `int` accumulator wrapping: its length is `4 * ⌈n / 3⌉` and the
standard decoder gives the bytes back. -/
theorem base64Encode_rfc4648 (input : List UInt8) :
    base64Encode input = Base64.encode input ∧ (base64Encode input).length = 4 * ((input.length + 2) / 3) ∧
      Base64.decode (base64Encode input) = some input := by
  have standard : base64Encode input = Base64.encode input := base64Finish_foldl input [] 0 rfl
  exact ⟨standard, standard ▸ Base64.length_encode input, standard ▸ Base64.decode_encode input⟩

-- `val` is negative from the fourth byte on
example : base64Encode [0xFF, 0xFF, 0xFF, 0xFF, 0xFF] = "//////8=".toList := by decide +kernel

end RaspiServer.Server
