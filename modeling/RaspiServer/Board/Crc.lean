import Mathlib

/-!
# Board CRC (`metadata/board_control.cpp`, `metadata/send_time.cpp`)

`reverse`, `reverse16` and `crc16` as the control program computes them. The
loops are folds over the loop index; every intermediate value is the C++
`int` the expression promotes to, truncated back to the variable's width on
assignment. `send_time.cpp` carries an identical copy of all three functions.
-/

set_option autoImplicit false

namespace RaspiServer.Board

/-- `reverse(val, bits)`: `res = (res << 1) | ((val >> i) & 1)` for `i < bits`,
kept to the eight bits of the `uint8_t` accumulator. -/
def reverse (val : UInt8) (bits : Nat) : UInt8 :=
  (List.range bits).foldl
    (fun res i => ((res.toNat <<< 1) ||| ((val.toNat >>> i) &&& 1)).toUInt8) 0

/-- `reverse16(val, bits)`, the same loop over a `uint16_t` accumulator. -/
def reverse16 (val : UInt16) (bits : Nat) : UInt16 :=
  (List.range bits).foldl
    (fun res i => ((res.toNat <<< 1) ||| ((val.toNat >>> i) &&& 1)).toUInt16) 0

/-- One conditional shift of the register:
`crc = (crc & 0x8000) ? (crc << 1) ^ 0x8005 : crc << 1`. The shift is done in
`int` and truncated on assignment, which is the `uint16_t` shift. -/
def crcShift (crc : UInt16) : UInt16 :=
  if crc &&& 0x8000 ≠ 0 then (crc <<< 1) ^^^ 0x8005 else crc <<< 1

/-- The body of `crc16`'s outer loop for one byte `b`:
`crc ^= reverse(b, 8) << 8`, then eight conditional shifts. -/
def crcByte (crc : UInt16) (b : UInt8) : UInt16 :=
  (List.range 8).foldl (fun crc _ => crcShift crc) (crc ^^^ ((reverse b 8).toUInt16 <<< 8))

/-- `crc16(data)`: the register starts at zero and the result is
`reverse16(crc, 16) & 0xFFFF`. -/
def crc16 (data : List UInt8) : UInt16 :=
  reverse16 (data.foldl crcByte 0) 16 &&& 0xFFFF

-- send_time.cpp's copies, textually identical to the board controller's.
namespace SendTime

def reverse (val : UInt8) (bits : Nat) : UInt8 := Board.reverse val bits

def reverse16 (val : UInt16) (bits : Nat) : UInt16 := Board.reverse16 val bits

def crc16 (data : List UInt8) : UInt16 := Board.crc16 data

end SendTime

end RaspiServer.Board
