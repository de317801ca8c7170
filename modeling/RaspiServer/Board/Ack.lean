import RaspiServer.Board.Frame

/-!
# The ACK receiver of `send_frame_with_ack` (`metadata/board_control.cpp`)

One attempt of `BoardController::send_frame_with_ack` reads the board's answer
one byte at a time through a four-state `switch`: `WAIT_DLE`, `WAIT_STX`,
`IN_FRAME` and `WAIT_ETX`. It does not undo the stuffing, and it accepts a
frame whose payload is three bytes, a command and its CRC. An ACK returns
`true`. For a NACK the `break` leaves the `switch` before the reset below it,
so the machine stays in `WAIT_ETX` with the NACK payload; the next byte, the
`DLE` of a following ACK frame, then resets it to `WAIT_DLE` without moving to
`WAIT_STX`, and that ACK goes unseen. Timeouts are not modelled: an attempt is
the bytes that arrive before it gives up.
-/

set_option autoImplicit false

namespace RaspiServer.Board

inductive RxState
  | waitDle
  | waitStx
  | inFrame
  | waitEtx
  deriving DecidableEq, Repr

/-- The receiver's `state` and `payload`. -/
structure Receiver where
  state : RxState
  payload : List UInt8
  deriving DecidableEq, Repr

/-- The start of every attempt. -/
def Receiver.init : Receiver := ⟨.waitDle, []⟩

/-- The `switch` on one received byte; `none` is `return true`. -/
def Receiver.step (r : Receiver) (rx : UInt8) : Option Receiver :=
  match r.state with
  | .waitDle => if rx = dle then some ⟨.waitStx, r.payload⟩ else some r
  | .waitStx =>
      if rx = stx then some ⟨.inFrame, []⟩
      else if rx ≠ dle then some ⟨.waitDle, r.payload⟩
      else some r
  | .inFrame => if rx = dle then some ⟨.waitEtx, r.payload⟩ else some ⟨.inFrame, r.payload ++ [rx]⟩
  | .waitEtx =>
      if rx = etx ∧ r.payload.length = 3 then
        let respCmd := r.payload.getD 0 0
        let recvCrc := (r.payload.getD 1 0).toNat <<< 8 ||| (r.payload.getD 2 0).toNat
        if recvCrc = (crc16 [respCmd]).toNat then
          if respCmd = ack then none
          -- `break` leaves the `switch` before the reset
          else if respCmd = nack then some r
          else some ⟨.waitDle, []⟩
        else some ⟨.waitDle, []⟩
      else some ⟨.waitDle, []⟩

/-- How an attempt ends on the bytes that arrive: `true` with the bytes left
unread, or still waiting when they run out. -/
inductive Attempt where
  | acked (rest : List UInt8)
  | waiting (r : Receiver)
  deriving DecidableEq, Repr

/-- The receive loop of one attempt. -/
def Receiver.receive (r : Receiver) : List UInt8 → Attempt
  | [] => .waiting r
  | rx :: rest =>
      match r.step rx with
      | none => .acked rest
      | some next => next.receive rest

/-- A well-formed answer of the board: `DLE STX`, the stuffed command and its
CRC high byte first, `DLE ETX`. -/
def responseFrame (c : UInt8) : List UInt8 :=
  Stuffing.frame dle stx etx [c, (crc16 [c] >>> 8).toUInt8, (crc16 [c]).toUInt8]

/-- The seven bytes of the ACK frame. -/
def ackFrame : List UInt8 := [dle, stx, ack, (crc16 [ack] >>> 8).toUInt8, (crc16 [ack]).toUInt8, dle, etx]

example : ackFrame = [0x10, 0x02, 0xAA, 0x7F, 0x80, 0x10, 0x03] := by decide +kernel

theorem receive_append (r : Receiver) (xs ys : List UInt8) :
    r.receive (xs ++ ys) =
      match r.receive xs with
      | .acked rest => .acked (rest ++ ys)
      | .waiting next => next.receive ys := by
  induction xs generalizing r with
  | nil => rfl
  | cons rx xs ih =>
      simp only [List.cons_append, Receiver.receive]
      cases r.step rx with
      | none => rfl
      | some next => exact ih next

/-! ## Soundness -/

/-- What a state says of the bytes consumed so far: after `DLE`, waiting for
`STX`; inside a frame, `DLE STX` then the payload; waiting for `ETX`, the same
and a `DLE`, or the payload of a NACK the `break` kept. -/
def Receiver.Consistent (consumed : List UInt8) (r : Receiver) : Prop :=
  match r.state with
  | .waitDle => True
  | .waitStx => consumed.getLast? = some dle
  | .inFrame => (∃ before, consumed = before ++ [dle, stx] ++ r.payload) ∧ dle ∉ r.payload
  | .waitEtx => (∃ before, consumed = before ++ [dle, stx] ++ r.payload ++ [dle]) ∨ r.payload.head? = some nack

/-- The CRC test on the ACK command fixes the two CRC bytes. -/
theorem ack_crc_bytes {hi lo : UInt8} (matched : hi.toNat <<< 8 ||| lo.toNat = (crc16 [ack]).toNat) :
    hi = (crc16 [ack] >>> 8).toUInt8 ∧ lo = (crc16 [ack]).toUInt8 := by
  have value : (crc16 [ack]).toNat = 0x7F80 := by decide +kernel
  rw [value, ← Nat.shiftLeft_add_eq_or_of_lt (by simpa using lo.toNat_lt), Nat.shiftLeft_eq] at matched
  have high : hi.toNat = 0x7F := by have := lo.toNat_lt; omega
  have low : lo.toNat = 0x80 := by omega
  constructor
  · exact UInt8.toNat_inj.mp (by rw [high]; decide +kernel)
  · exact UInt8.toNat_inj.mp (by rw [low]; decide +kernel)

theorem Receiver.Consistent.step {consumed : List UInt8} {r next : Receiver} {rx : UInt8}
    (consistent : r.Consistent consumed) (stepped : r.step rx = some next) :
    next.Consistent (consumed ++ [rx]) := by
  obtain ⟨state, payload⟩ := r
  cases state with
  | waitDle =>
      simp only [Receiver.step] at stepped
      split at stepped <;> cases stepped
      · rename_i isDle
        simp [Receiver.Consistent, isDle]
      · trivial
  | waitStx =>
      simp only [Receiver.step] at stepped
      split at stepped
      case isTrue isStx =>
        cases stepped
        obtain ⟨before, rfl⟩ := List.getLast?_eq_some_iff.mp consistent
        exact ⟨⟨before, by simp [isStx]⟩, List.not_mem_nil⟩
      case isFalse =>
        split at stepped
        case isTrue =>
          cases stepped
          trivial
        case isFalse isDle =>
          cases stepped
          simp only [not_not] at isDle
          simp [Receiver.Consistent, isDle]
  | inFrame =>
      obtain ⟨⟨before, rfl⟩, noDle⟩ := consistent
      simp only [Receiver.step] at stepped
      split at stepped <;> cases stepped
      · rename_i isDle
        exact .inl ⟨before, by simp [isDle]⟩
      · rename_i notDle
        exact ⟨⟨before, by simp⟩, by simpa [Ne.symm notDle] using noDle⟩
  | waitEtx =>
      simp only [Receiver.step] at stepped
      split at stepped
      case isTrue framed =>
        split at stepped
        case isTrue =>
          split at stepped
          case isTrue => cases stepped
          case isFalse =>
            split at stepped
            case isTrue isNack =>
              cases stepped
              right
              match payload, framed.2 with
              | [c, _, _], _ => simpa using isNack
            case isFalse =>
              cases stepped
              trivial
        case isFalse =>
          cases stepped
          trivial
      case isFalse =>
        cases stepped
        trivial

theorem Receiver.Consistent.step_none {consumed : List UInt8} {r : Receiver} {rx : UInt8}
    (consistent : r.Consistent consumed) (stopped : r.step rx = none) :
    ∃ before, consumed ++ [rx] = before ++ ackFrame := by
  obtain ⟨state, payload⟩ := r
  cases state with
  | waitDle => simp only [Receiver.step] at stopped; split at stopped <;> cases stopped
  | waitStx =>
      simp only [Receiver.step] at stopped
      split at stopped
      · cases stopped
      · split at stopped <;> cases stopped
  | inFrame => simp only [Receiver.step] at stopped; split at stopped <;> cases stopped
  | waitEtx =>
      simp only [Receiver.step] at stopped
      split at stopped
      · rename_i framed
        obtain ⟨isEtx, three⟩ := framed
        split at stopped
        · rename_i matched
          split at stopped
          · rename_i isAck
            match payload, three with
            | [c, hi, lo], _ =>
                simp only [List.getD_cons_zero, List.getD_cons_succ] at isAck matched
                subst isAck
                obtain ⟨rfl, rfl⟩ := ack_crc_bytes matched
                -- an ACK payload is not a kept NACK, so the frame is in the bytes
                rcases consistent with ⟨before, rfl⟩ | kept
                · exact ⟨before, by simp [ackFrame, isEtx]⟩
                · simp [ack, nack] at kept
          · split at stopped <;> cases stopped
        · cases stopped
      · cases stopped

theorem Receiver.Consistent.receive {consumed : List UInt8} {r : Receiver} {s rest : List UInt8}
    (consistent : r.Consistent consumed) (acked : r.receive s = .acked rest) :
    ∃ taken, s = taken ++ rest ∧ ∃ before, consumed ++ taken = before ++ ackFrame := by
  induction s generalizing consumed r with
  | nil => cases acked
  | cons rx s ih =>
      simp only [Receiver.receive] at acked
      cases stepped : r.step rx with
      | none =>
          rw [stepped] at acked
          cases acked
          obtain ⟨before, found⟩ := consistent.step_none stepped
          exact ⟨[rx], rfl, before, found⟩
      | some next =>
          rw [stepped] at acked
          obtain ⟨taken, rfl, before, found⟩ := ih (consistent.step stepped) acked
          exact ⟨rx :: taken, rfl, before, by simpa using found⟩

/-! ## Completeness -/

/-- A frame of any command other than NACK and ACK takes the receiver from the
start back to the start; the ACK frame is accepted; a NACK frame leaves it
waiting for `ETX` with the NACK payload. -/
theorem receive_responseFrame :
    (∀ n, n < 256 → n.toUInt8 ≠ nack → n.toUInt8 ≠ ack →
      Receiver.init.receive (responseFrame n.toUInt8) = .waiting Receiver.init) ∧
      Receiver.init.receive (responseFrame ack) = .acked [] := by
  decide +kernel

theorem receive_frames_ack (commands : List UInt8) (noNack : ∀ c ∈ commands, c ≠ nack) :
    ∃ rest, Receiver.init.receive (commands.flatMap responseFrame ++ responseFrame ack) = .acked rest := by
  induction commands with
  | nil => exact ⟨[], by simpa using receive_responseFrame.2⟩
  | cons c commands ih =>
      have later := ih fun c' member => noNack c' (List.mem_cons_of_mem c member)
      rw [List.flatMap_cons, List.append_assoc, receive_append]
      by_cases isAck : c = ack
      · subst isAck
        rw [receive_responseFrame.2]
        exact ⟨_, rfl⟩
      · have reset := receive_responseFrame.1 c.toNat c.toNat_lt (by simpa using noNack c List.mem_cons_self)
          (by simpa using isAck)
        rw [Nat.toUInt8, UInt8.ofNat_toNat] at reset
        rw [reset]
        exact later

/-- One attempt accepts only the ACK frame: whatever bytes arrive, it returns
`true` only right after `DLE STX 0xAA hi lo DLE ETX` with `hi lo` the CRC of
`0xAA`. And it accepts the ACK after any list of well-formed answers none of
which is a NACK. -/
theorem receive_ack_frames :
    (∀ s rest, Receiver.init.receive s = .acked rest →
      ∃ taken, s = taken ++ rest ∧ ∃ before, taken = before ++ ackFrame) ∧
    ∀ commands : List UInt8, (∀ c ∈ commands, c ≠ nack) →
      ∃ rest, Receiver.init.receive (commands.flatMap responseFrame ++ responseFrame ack) = .acked rest :=
  ⟨fun _ _ acked => by simpa using (show Receiver.init.Consistent [] from trivial).receive acked,
    receive_frames_ack⟩

theorem receive_ack_frames_sample :
    (∀ c ∈ [cmdLcdOn, cmdLcdOff], c ≠ nack) ∧
      ∃ rest, Receiver.init.receive ([cmdLcdOn, cmdLcdOff].flatMap responseFrame ++ responseFrame ack) = .acked rest :=
  ⟨by decide +kernel, receive_ack_frames.2 [cmdLcdOn, cmdLcdOff] (by decide +kernel)⟩

/-- A NACK frame and then the ACK frame: the `DLE` that opens the ACK frame
resets the machine stuck in `WAIT_ETX`, and the attempt never accepts. -/
theorem nack_then_ack_missed :
    Receiver.init.receive (responseFrame nack ++ responseFrame ack) = .waiting ⟨.waitDle, []⟩ := by
  decide +kernel

end RaspiServer.Board
