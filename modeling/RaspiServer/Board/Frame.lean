import RaspiServer.Board.Crc
import RaspiServer.Library.Stuffing

/-!
# Serial command frames (`metadata/board_control.cpp`, `metadata/send_time.cpp`)

`BoardController::encode_frame` and `send_time.cpp`'s `encode_frame` build
`DLE STX`, the stuffed payload `[dst_mask, command] ++ extra_data ++ crc`, and
`DLE ETX`. Both are instances of `Stuffing.frame`, so the reference receiver
recovers every payload of any concatenation of frames, whatever bytes the
payload, the board mask or the CRC contain.
-/

set_option autoImplicit false

namespace RaspiServer.Board

/-! ## Markers (`board_control.h`) -/

def dle : UInt8 := 0x10
def stx : UInt8 := 0x02
def etx : UInt8 := 0x03
def ack : UInt8 := 0xAA
def nack : UInt8 := 0x55
def cmdLcdOn : UInt8 := 0x01
def cmdLcdOff : UInt8 := 0x02
def cmdSyncTime : UInt8 := 0x03

/-- `uint8_t dst_mask = 1 << (id - 1)`. Board ids start at 1 in the source; the
`int` shift is truncated to the mask's eight bits. -/
def dstMask (boardId : Nat) : UInt8 := (1 <<< (boardId - 1) : Nat).toUInt8

/-- The board controller's state that framing reads: its board id. -/
structure BoardController where
  id : Nat

/-- The unstuffed payload of a frame: mask, command, extra data, and the CRC
of those, high byte first. -/
def framePayload (boardId : Nat) (command : UInt8) (extraData : List UInt8) : List UInt8 :=
  let payload := [dstMask boardId, command] ++ extraData
  let crc := crc16 payload
  payload ++ [((crc >>> 8) &&& 0xFF).toUInt8, (crc &&& 0xFF).toUInt8]

/-- `BoardController::encode_frame`. -/
def BoardController.encodeFrame (controller : BoardController) (command : UInt8)
    (extraData : List UInt8) : List UInt8 :=
  let payload := [dstMask controller.id, command] ++ extraData
  let crc := crc16 payload
  let payload := payload ++ [((crc >>> 8) &&& 0xFF).toUInt8, (crc &&& 0xFF).toUInt8]
  [dle, stx] ++ payload.flatMap (fun b => if b = dle then [dle, dle] else [b]) ++ [dle, etx]

/-- `encode_frame(cmd, board_id, extra_data)` of `send_time.cpp`, with its own
copy of `crc16`. -/
def SendTime.encodeFrame (cmd : UInt8) (boardId : Nat) (extraData : List UInt8) : List UInt8 :=
  let payload := [dstMask boardId, cmd] ++ extraData
  let crc := SendTime.crc16 payload
  let payload := payload ++ [((crc >>> 8) &&& 0xFF).toUInt8, (crc &&& 0xFF).toUInt8]
  [dle, stx] ++ payload.flatMap (fun b => if b = dle then [dle, dle] else [b]) ++ [dle, etx]

/-- The reference deframer over serial bytes. -/
def deframe (stream : List UInt8) : List (List UInt8) := Stuffing.deframe dle stx etx stream

theorem encodeFrame_eq_frame (controller : BoardController) (command : UInt8)
    (extraData : List UInt8) :
    controller.encodeFrame command extraData =
      Stuffing.frame dle stx etx (framePayload controller.id command extraData) := rfl

/-- Both encoders emit the same bytes for the same board, command and data. -/
theorem sendTime_encodeFrame_eq (cmd : UInt8) (boardId : Nat) (extraData : List UInt8) :
    SendTime.encodeFrame cmd boardId extraData = (BoardController.mk boardId).encodeFrame cmd extraData :=
  rfl

theorem etx_ne_dle : etx ≠ dle := by decide

/-- Round trip over a serial stream: for every list of (board id, command,
extra data) triples, deframing the concatenation of the board controller's
frames returns, in order, the payloads `[1 << (id - 1), command] ++ extra_data`
followed by their CRC high byte first, and `send_time.cpp`'s encoder emits the
same stream. -/
theorem deframe_encodeFrame_stream (frames : List (Nat × UInt8 × List UInt8)) :
    deframe (frames.flatMap fun f => (BoardController.mk f.1).encodeFrame f.2.1 f.2.2) =
        frames.map (fun f =>
          [(1 <<< (f.1 - 1) : Nat).toUInt8, f.2.1] ++ f.2.2 ++
            [((crc16 ([(1 <<< (f.1 - 1) : Nat).toUInt8, f.2.1] ++ f.2.2) >>> 8) &&& 0xFF).toUInt8,
              (crc16 ([(1 <<< (f.1 - 1) : Nat).toUInt8, f.2.1] ++ f.2.2) &&& 0xFF).toUInt8]) ∧
      (frames.flatMap fun f => SendTime.encodeFrame f.2.1 f.1 f.2.2) =
        frames.flatMap fun f => (BoardController.mk f.1).encodeFrame f.2.1 f.2.2 := by
  have stream : (frames.flatMap fun f => (BoardController.mk f.1).encodeFrame f.2.1 f.2.2) =
      (frames.map fun f => framePayload f.1 f.2.1 f.2.2).flatMap (Stuffing.frame dle stx etx) := by
    rw [List.flatMap_map]
    simp only [encodeFrame_eq_frame]
  refine ⟨?_, by simp only [sendTime_encodeFrame_eq]⟩
  rw [stream, deframe, Stuffing.deframe_flatMap_frame etx_ne_dle]
  rfl

/-- Board 5's mask is `DLE` itself; its frame still comes back whole. -/
example : deframe ((BoardController.mk 5).encodeFrame dle [dle, etx]) = [framePayload 5 dle [dle, etx]] := by
  decide +kernel

end RaspiServer.Board
