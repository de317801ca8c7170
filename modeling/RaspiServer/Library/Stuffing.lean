import Mathlib

/-!
# Escape-symbol framing

A frame is `esc start`, the payload with every escape symbol doubled, and
`esc stop`. The reference receiver hunts for `esc start`, undoes the doubling,
and closes the frame at the first `esc stop` whose escape is not itself
escaped. The alphabet and the three markers are parameters; only `stop ≠ esc`
is needed for the receiver to recover every frame of a concatenated stream.
-/

set_option autoImplicit false

namespace Stuffing

variable {α : Type} [DecidableEq α]

/-- Double every escape symbol of a payload. -/
def stuff (esc : α) (payload : List α) : List α :=
  payload.flatMap fun b => if b = esc then [esc, esc] else [b]

/-- One frame on the wire. -/
def frame (esc start stop : α) (payload : List α) : List α :=
  [esc, start] ++ stuff esc payload ++ [esc, stop]

@[simp] theorem stuff_nil (esc : α) : stuff esc [] = [] := rfl

theorem stuff_cons (esc b : α) (payload : List α) :
    stuff esc (b :: payload) = (if b = esc then [esc, esc] else [b]) ++ stuff esc payload := rfl

/-! ## The reference receiver -/

/-- Receiver states: hunting for a frame start (possibly just after an escape),
or inside a frame with the symbols received so far (possibly just after an
escape). -/
inductive Receiver (α : Type) where
  | hunt
  | huntEscape
  | body (received : List α)
  | bodyEscape (received : List α)
  deriving DecidableEq, Repr

namespace Receiver

/-- One symbol: the next state and the payload closed by it, if any. An escape
followed by anything but `esc` or `stop` inside a frame is malformed; a fresh
`start` resynchronises and any other symbol drops the frame. -/
def step (esc start stop : α) : Receiver α → α → Receiver α × Option (List α)
  | .hunt, b => (if b = esc then .huntEscape else .hunt, none)
  | .huntEscape, b =>
      (if b = start then .body [] else if b = esc then .huntEscape else .hunt, none)
  | .body received, b =>
      (if b = esc then .bodyEscape received else .body (received ++ [b]), none)
  | .bodyEscape received, b =>
      if b = esc then (.body (received ++ [esc]), none)
      else if b = stop then (.hunt, some received)
      else if b = start then (.body [], none)
      else (.hunt, none)

/-- Feed a stream symbol by symbol; the final state and every closed payload. -/
def feed (esc start stop : α) : Receiver α → List α → Receiver α × List (List α)
  | state, [] => (state, [])
  | state, b :: rest =>
      let later := (state.step esc start stop b).1.feed esc start stop rest
      (later.1, (state.step esc start stop b).2.toList ++ later.2)

variable (esc start stop : α)

@[simp] theorem feed_nil (state : Receiver α) : state.feed esc start stop [] = (state, []) := rfl

theorem feed_cons (state : Receiver α) (b : α) (rest : List α) :
    state.feed esc start stop (b :: rest) =
      (((state.step esc start stop b).1.feed esc start stop rest).1,
        (state.step esc start stop b).2.toList ++
          ((state.step esc start stop b).1.feed esc start stop rest).2) := rfl

theorem feed_append (state : Receiver α) (first second : List α) :
    state.feed esc start stop (first ++ second) =
      (((state.feed esc start stop first).1.feed esc start stop second).1,
        (state.feed esc start stop first).2 ++
          ((state.feed esc start stop first).1.feed esc start stop second).2) := by
  induction first generalizing state with
  | nil => simp
  | cons b rest ih =>
      simp only [List.cons_append, feed_cons, ih, List.append_assoc]

/-- Inside a frame, a stuffed payload is received literally and closes nothing. -/
theorem feed_body_stuff (received payload : List α) :
    (body received).feed esc start stop (stuff esc payload) = (body (received ++ payload), []) := by
  induction payload generalizing received with
  | nil => simp
  | cons b payload ih =>
      rw [stuff_cons]
      by_cases escaped : b = esc
      · subst escaped
        simp only [if_true, List.cons_append, List.nil_append, feed_cons, step, ih,
          Option.toList_none, List.nil_append, List.append_assoc]
      · simp only [escaped, if_false, List.cons_append, List.nil_append, feed_cons, step, ih,
          Option.toList_none, List.append_assoc]

end Receiver

/-- Every payload the receiver closes on a stream, in order. -/
def deframe (esc start stop : α) (stream : List α) : List (List α) :=
  (Receiver.hunt.feed esc start stop stream).2

section RoundTrip

variable {esc start stop : α} (distinct : stop ≠ esc)
include distinct

theorem feed_frame (payload : List α) :
    Receiver.hunt.feed esc start stop (frame esc start stop payload) = (.hunt, [payload]) := by
  have opened : Receiver.hunt.feed esc start stop [esc, start] = (.body [], []) := by
    simp [Receiver.feed_cons, Receiver.step]
  have closed : (Receiver.body payload).feed esc start stop [esc, stop] = (.hunt, [payload]) := by
    simp [Receiver.feed_cons, Receiver.step, distinct]
  rw [frame, Receiver.feed_append, Receiver.feed_append, opened]
  simp only [Receiver.feed_body_stuff, List.nil_append, closed, List.append_nil]

/-- Any concatenation of frames is received as exactly its payloads, in order. -/
theorem feed_flatMap_frame (payloads : List (List α)) :
    Receiver.hunt.feed esc start stop (payloads.flatMap (frame esc start stop)) = (.hunt, payloads) := by
  induction payloads with
  | nil => rfl
  | cons payload rest ih =>
      rw [List.flatMap_cons, Receiver.feed_append, feed_frame distinct, ih]
      rfl

theorem deframe_flatMap_frame (payloads : List (List α)) :
    deframe esc start stop (payloads.flatMap (frame esc start stop)) = payloads := by
  rw [deframe, feed_flatMap_frame distinct]

end RoundTrip

end Stuffing
