import RaspiServer.Metadata.BboxBuffer

/-!
# Bbox streaming across connections (`request_handlers.cpp`, `metadata_parser.cpp`)

Each connection has its own `bbox_push_enabled`, push thread and parser
thread. Request 31 (`handle_bbox_start_request`) on a connection whose push is
off sets the process-wide `parser_running`, starts a new `parse_metadata`
thread with its own `ffmpeg` pipe, and starts the push thread. Request 32
(`handle_bbox_stop_request`) clears the connection's flag, joins its push
thread, clears `parser_running`, joins its parser and calls
`clear_bbox_buffer`. `parser_running`, `bbox_buffer` and its clear are shared
by all connections.

A parser takes the metadata packets of the camera's live stream from the
packet at which its pipe started, and pushes the boxes of each into the
buffer; the model tags every box with the index of its packet. Each call of a
thread is one atomic step; request 32 is one step too, which is one of its
schedules.
-/

set_option autoImplicit false

namespace RaspiServer.Server

open RaspiServer.Metadata

variable {α : Type}

/-- One connection: `bbox_push_enabled`, its parser thread (the next packet
its pipe delivers, `none` when it has none or it has left its loop), and the
box lists its client received. -/
structure Connection (α : Type) where
  enabled : Bool
  parser : Option Nat
  received : List (List (Nat × α))
  deriving DecidableEq

/-- The shared state and the connections. -/
structure Push (n : Nat) (α : Type) where
  parserRunning : Bool
  buffer : List (TimestampedBBox (Nat × α))
  now : Nat
  connections : Fin n → Connection α

inductive PushEvent (n : Nat)
  /-- Request 31 on connection `i`; the new parser's pipe starts at packet `live`. -/
  | start (i : Fin n) (live : Nat)
  /-- Request 32 on connection `i`. -/
  | stop (i : Fin n)
  /-- One packet of connection `i`'s parser. -/
  | parse (i : Fin n)
  /-- One `send_bboxes_to_client` of connection `i`'s push thread. -/
  | push (i : Fin n)
  /-- The clock advances, in nanoseconds. -/
  | tick (elapsed : Nat)

variable {n : Nat} (packets : Nat → List α)

/-- One step; `packets k` are the boxes the regex stage parses from packet `k`. -/
def Push.step (s : Push n α) : PushEvent n → Push n α
  | .start i live =>
      if (s.connections i).enabled then s
      else
        { s with parserRunning := true,
                 connections := Function.update s.connections i
                   { s.connections i with enabled := true, parser := some live } }
  | .stop i =>
      if (s.connections i).enabled then
        { s with parserRunning := false, buffer := [],
                 connections := Function.update s.connections i
                   { s.connections i with enabled := false, parser := none } }
      else s
  | .parse i =>
      match (s.connections i).parser with
      | none => s
      | some k =>
          if s.parserRunning then
            { s with buffer := updateBboxBuffer s.buffer ((packets k).map fun box => (k, box)) s.now s.now,
                     connections := Function.update s.connections i { s.connections i with parser := some (k + 1) } }
          -- the loop test `parser_running` fails: the thread ends
          else { s with connections := Function.update s.connections i { s.connections i with parser := none } }
  | .push i =>
      if (s.connections i).enabled then
        let sent := sendBboxesToClient s.buffer s.now
        { s with buffer := sent.1,
                 connections := Function.update s.connections i
                   { s.connections i with received := (s.connections i).received ++ sent.2.toList } }
      else s
  | .tick elapsed => { s with now := s.now + elapsed }

def Push.run (s : Push n α) (events : List (PushEvent n)) : Push n α := events.foldl (Push.step packets) s

/-- No connection streaming, the parser flag off, an empty buffer. -/
def Push.init : Push n α := ⟨false, [], 0, fun _ => ⟨false, none, []⟩⟩

/-- A stop on one connection ends the parser feeding any other: the shared
flag is cleared, so that parser leaves its loop at its next packet while the
other connection's push stays enabled, and the shared buffer is emptied. -/
theorem Push.stop_starves (s : Push n α) {i j : Fin n} {k : Nat} (other : j ≠ i)
    (stopping : (s.connections i).enabled = true) (feeding : (s.connections j).parser = some k) :
    (((s.step packets (.stop i)).step packets (.parse j)).connections j).enabled = (s.connections j).enabled ∧
      (((s.step packets (.stop i)).step packets (.parse j)).connections j).parser = none ∧
      ((s.step packets (.stop i)).step packets (.parse j)).buffer = [] := by
  have stopped : s.step packets (.stop i) =
      { s with parserRunning := false, buffer := [],
               connections := Function.update s.connections i
                 { s.connections i with enabled := false, parser := none } } := by
    simp [Push.step, stopping]
  rw [stopped]
  simp [Push.step, Function.update_of_ne other, feeding]

/-- One box in every packet. -/
def onePerPacket : Nat → List Unit := fun _ => [()]

/-- Connections 0 and 1 start streaming while the camera is at packet 0; both
parsers push packet 0; three seconds later connection 1's push thread sends
twice; connection 0's parser pushes packet 1. -/
def bothStreaming : Push 2 Unit :=
  Push.init.run onePerPacket
    [.start 0 0, .start 1 0, .parse 0, .parse 1, .tick 3000000000, .push 1, .push 1, .parse 0]

/-- Connection 1 has received the boxes of packet 0 twice, and the buffer holds
packet 1. Then request 32 on connection 0: connection 1's push is still
enabled, but its parser leaves its loop at its next packet and the buffer it
reads is empty. -/
theorem bbox_push_not_isolated :
    (bothStreaming.connections 1).received = [[(0, ())], [(0, ())]] ∧ bothStreaming.buffer ≠ [] ∧
      (((bothStreaming.step onePerPacket (.stop 0)).step onePerPacket (.parse 1)).connections 1).enabled = true ∧
      (((bothStreaming.step onePerPacket (.stop 0)).step onePerPacket (.parse 1)).connections 1).parser = none ∧
      ((bothStreaming.step onePerPacket (.stop 0)).step onePerPacket (.parse 1)).buffer = [] := by
  have stopping : (bothStreaming.connections 0).enabled = true := by decide +kernel
  have feeding : (bothStreaming.connections 1).parser = some 1 := by decide +kernel
  obtain ⟨kept, stopped, emptied⟩ :=
    Push.stop_starves onePerPacket bothStreaming (by decide : (1 : Fin 2) ≠ 0) stopping feeding
  exact ⟨by decide +kernel, by decide +kernel, kept.trans (by decide +kernel), stopped, emptied⟩

end RaspiServer.Server
