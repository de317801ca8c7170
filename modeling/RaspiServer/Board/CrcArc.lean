import RaspiServer.Board.Crc
import RaspiServer.Library.BitReverse

/-!
# `crc16` is CRC-16/ARC

CRC-16/ARC is a least-significant-bit-first register with the reflected
polynomial `0xA001`, initial value `0` and no final exclusive or. The control
program's `crc16` runs the most-significant-bit-first register with `0x8005`
on bit-reversed bytes and reverses the result. Through
`BitReverse.reverse_msbStep`, the reversal of its register after every byte
is the CRC-16/ARC register (`reverse16_crcByte`), so the two agree on every
byte sequence, and so does `send_time.cpp`'s copy.
-/

set_option autoImplicit false

namespace RaspiServer.Board

/-! ## CRC-16/ARC -/

/-- One step of the CRC-16/ARC register. -/
def arcShift (crc : UInt16) : UInt16 :=
  if crc &&& 1 ≠ 0 then (crc >>> 1) ^^^ 0xA001 else crc >>> 1

/-- A byte enters the low end of the register, then eight steps. -/
def arcByte (crc : UInt16) (b : UInt8) : UInt16 :=
  (List.range 8).foldl (fun crc _ => arcShift crc) (crc ^^^ b.toUInt16)

/-- CRC-16/ARC of a byte sequence. -/
def crc16Arc (data : List UInt8) : UInt16 := data.foldl arcByte 0

-- the check value of CRC-16/ARC, on ASCII `123456789`
example : crc16Arc [0x31, 0x32, 0x33, 0x34, 0x35, 0x36, 0x37, 0x38, 0x39] = 0xBB3D := by decide +kernel

/-! ## The source's loops as register operations -/

theorem reverse_toNat (val : UInt8) (bits : Nat) :
    (reverse val bits).toNat = BitReverse.reverseLoop 8 val.toNat bits := by
  unfold reverse BitReverse.reverseLoop
  refine (List.foldl_hom UInt8.toNat fun res i => ?_).symm
  rw [Nat.toUInt8, UInt8.toNat_ofNat']

theorem reverse16_toNat (val : UInt16) (bits : Nat) :
    (reverse16 val bits).toNat = BitReverse.reverseLoop 16 val.toNat bits := by
  unfold reverse16 BitReverse.reverseLoop
  refine (List.foldl_hom UInt16.toNat fun res i => ?_).symm
  rw [Nat.toUInt16, UInt16.toNat_ofNat']

theorem crcShift_toNat (crc : UInt16) : (crcShift crc).toNat = BitReverse.msbStep 16 0x8005 crc.toNat := by
  -- `crc & 0x8000` tests bit 15
  have top : crc &&& 0x8000 ≠ 0 ↔ crc.toNat.testBit 15 = true := by
    rw [ne_eq, ← UInt16.toNat_inj, UInt16.toNat_and, show (0x8000 : UInt16).toNat = 2 ^ 15 from rfl,
      Nat.and_two_pow]
    cases crc.toNat.testBit 15 <;> simp
  unfold crcShift BitReverse.msbStep
  by_cases high : crc.toNat.testBit 15
  · rw [if_pos (top.mpr high), if_pos high, UInt16.toNat_xor, UInt16.toNat_shiftLeft]
    rfl
  · rw [if_neg (fun set => high (top.mp set)), if_neg high, UInt16.toNat_shiftLeft]
    rfl

theorem arcShift_toNat (crc : UInt16) : (arcShift crc).toNat = BitReverse.lsbStep 0xA001 crc.toNat := by
  -- `crc & 1` tests bit 0
  have low : crc &&& 1 ≠ 0 ↔ crc.toNat.testBit 0 = true := by
    rw [ne_eq, ← UInt16.toNat_inj, UInt16.toNat_and, show (1 : UInt16).toNat = 2 ^ 0 from rfl, Nat.and_two_pow]
    cases crc.toNat.testBit 0 <;> simp
  unfold arcShift BitReverse.lsbStep
  by_cases odd : crc.toNat.testBit 0
  · rw [if_pos (low.mpr odd), if_pos odd, UInt16.toNat_xor, UInt16.toNat_shiftRight]
    rfl
  · rw [if_neg (fun set => odd (low.mp set)), if_neg odd, UInt16.toNat_shiftRight]
    rfl

theorem crcByte_toNat (crc : UInt16) (b : UInt8) :
    (crcByte crc b).toNat = (List.range 8).foldl (fun y _ => BitReverse.msbStep 16 0x8005 y)
      (crc.toNat ^^^ (BitReverse.reverse 8 b.toNat <<< 8) % 2 ^ 16) := by
  have entered : (crc ^^^ ((reverse b 8).toUInt16 <<< 8)).toNat =
      crc.toNat ^^^ (BitReverse.reverse 8 b.toNat <<< 8) % 2 ^ 16 := by
    rw [UInt16.toNat_xor, UInt16.toNat_shiftLeft, UInt8.toNat_toUInt16, reverse_toNat]
    rfl
  unfold crcByte
  rw [← entered]
  exact (List.foldl_hom UInt16.toNat fun y _ => (crcShift_toNat y).symm).symm

theorem arcByte_toNat (crc : UInt16) (b : UInt8) :
    (arcByte crc b).toNat = (List.range 8).foldl (fun y _ => BitReverse.lsbStep 0xA001 y) (crc.toNat ^^^ b.toNat) := by
  unfold arcByte
  rw [← UInt8.toNat_toUInt16 b, ← UInt16.toNat_xor]
  exact (List.foldl_hom UInt16.toNat fun y _ => (arcShift_toNat y).symm).symm

/-! ## The reflection, byte by byte -/

/-- After every byte, the reversal of `crc16`'s register is the CRC-16/ARC register. -/
theorem reverse16_crcByte (crc : UInt16) (b : UInt8) :
    reverse16 (crcByte crc b) 16 = arcByte (reverse16 crc 16) b := by
  apply UInt16.toNat_inj.mp
  have polynomial : BitReverse.reverse 16 0x8005 = 0xA001 := by decide
  have byte : BitReverse.reverse (8 + 8) ((BitReverse.reverse 8 b.toNat <<< 8) % 2 ^ (8 + 8)) = b.toNat :=
    BitReverse.reverse_shiftLeft_reverse 8 8 b.toNat b.toNat_lt
  rw [reverse16_toNat, crcByte_toNat, ← BitReverse.reverse, BitReverse.reverse_foldl_msbStep (by norm_num),
    polynomial, BitReverse.reverse_xor, byte, arcByte_toNat, reverse16_toNat]
  rfl

theorem reverse16_foldl_crcByte (data : List UInt8) (crc : UInt16) :
    reverse16 (data.foldl crcByte crc) 16 = data.foldl arcByte (reverse16 crc 16) :=
  (List.foldl_hom (fun c => reverse16 c 16) fun c b => (reverse16_crcByte c b).symm).symm

/-- `crc16` of `board_control.cpp`, and its copy in `send_time.cpp`, compute
CRC-16/ARC of every byte sequence; on ASCII `123456789` it is `0xBB3D`. -/
theorem crc16_eq_crc16Arc (data : List UInt8) :
    crc16 data = crc16Arc data ∧ SendTime.crc16 data = crc16Arc data ∧
      crc16 [0x31, 0x32, 0x33, 0x34, 0x35, 0x36, 0x37, 0x38, 0x39] = 0xBB3D := by
  -- the final `& 0xFFFF` keeps all sixteen bits
  have masked : ∀ x : UInt16, x &&& 0xFFFF = x := fun x => by
    apply UInt16.toNat_inj.mp
    rw [UInt16.toNat_and, show (0xFFFF : UInt16).toNat = 2 ^ 16 - 1 from rfl, Nat.and_two_pow_sub_one_eq_mod,
      Nat.mod_eq_of_lt x.toNat_lt]
  have reflected : crc16 data = crc16Arc data := by
    rw [crc16, masked, reverse16_foldl_crcByte, show reverse16 0 16 = 0 by decide]
    rfl
  exact ⟨reflected, reflected, by decide +kernel⟩

end RaspiServer.Board
