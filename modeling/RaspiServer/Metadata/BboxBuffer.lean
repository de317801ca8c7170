import RaspiServer.Library.Fifo

/-!
# The bbox delay buffer (`metadata_parser.cpp`)

`bbox_buffer` is a `std::queue` of timestamped box lists under
`bbox_buffer_mutex`. The parser thread's `update_bbox_buffer` pushes the boxes
of a packet with the time of the push, then pops entries older than 10000 ms
and then entries beyond 50. The push thread's `send_bboxes_to_client` pops the
oldest entry once it is `bbox_buffer_delay_ms` old and sends its boxes unless
there are none. `clear_bbox_buffer` empties the queue.

Every call is atomic under the mutex, so a run of the two threads is the
sequence of calls in the order they took the lock. Times are
`steady_clock` readings in nanoseconds, and ages are
`duration_cast<milliseconds>`, which truncates. The buffer never looks inside a
box, so the boxes are of any type. The log of what was sent keeps, for the
statements, the entry each list came from and the time of its send.
-/

set_option autoImplicit false

namespace RaspiServer.Metadata

variable {α : Type}

/-- `TimestampedBBox`. -/
structure TimestampedBBox (α : Type) where
  timestamp : Nat
  bboxes : List α

/-- `duration_cast<milliseconds>(later - earlier).count()`, for `earlier ≤ later`. -/
def millisecondsBetween (earlier later : Nat) : Nat := (later - earlier) / 1000000

/-- `bbox_buffer_delay_ms`; no code writes it after its initialisation. -/
def bboxBufferDelayMs : Nat := 2000

/-- The first loop of `update_bbox_buffer`: pop while the oldest entry is more
than 10000 ms old. -/
def trimByAge (now : Nat) : List (TimestampedBBox α) → List (TimestampedBBox α)
  | [] => []
  | oldest :: rest =>
      if millisecondsBetween oldest.timestamp now > 10000 then trimByAge now rest else oldest :: rest

/-- The second loop: pop while more than 50 entries are left. -/
def trimBySize : List (TimestampedBBox α) → List (TimestampedBBox α)
  | [] => []
  | oldest :: rest => if rest.length + 1 > 50 then trimBySize rest else oldest :: rest

/-- `update_bbox_buffer`: `pushed` and `now` are its two `steady_clock::now()`
readings. -/
def updateBboxBuffer (buffer : List (TimestampedBBox α)) (newBboxes : List α) (pushed now : Nat) :
    List (TimestampedBBox α) :=
  trimBySize (trimByAge now (buffer ++ [⟨pushed, newBboxes⟩]))

/-- The critical section of `send_bboxes_to_client` and its check of
`bboxes_to_send.empty()`: the queue left, and the boxes sent, if any. -/
def sendBboxesToClient (buffer : List (TimestampedBBox α)) (now : Nat) :
    List (TimestampedBBox α) × Option (List α) :=
  match buffer with
  | [] => ([], none)
  | oldest :: rest =>
      if millisecondsBetween oldest.timestamp now ≥ bboxBufferDelayMs then
        (rest, if oldest.bboxes.isEmpty then none else some oldest.bboxes)
      else (oldest :: rest, none)

/-- A call on the buffer with its clock readings. -/
inductive BufferCall (α : Type)
  | update (newBboxes : List α) (pushed now : Nat)
  | send (now : Nat)
  | clear

def BufferCall.clockReads : BufferCall α → List Nat
  | .update _ pushed now => [pushed, now]
  | .send now => [now]
  | .clear => []

/-- The queue, and what the client has been sent: each entry whose boxes were
sent, with the time of the send. -/
structure BufferState (α : Type) where
  buffer : List (TimestampedBBox α)
  sent : List (TimestampedBBox α × Nat)

def BufferState.call (s : BufferState α) : BufferCall α → BufferState α
  | .update newBboxes pushed now => { s with buffer := updateBboxBuffer s.buffer newBboxes pushed now }
  | .send now =>
      match s.buffer with
      | [] => s
      | oldest :: _ =>
          let sent := sendBboxesToClient s.buffer now
          ⟨sent.1, s.sent ++ (sent.2.map fun _ => (oldest, now)).toList⟩
  | .clear => { s with buffer := [] }

def runBuffer (calls : List (BufferCall α)) : BufferState α := calls.foldl BufferState.call ⟨[], []⟩

/-- The entries the parser pushed, in order. -/
def pushedEntries (calls : List (BufferCall α)) : List (TimestampedBBox α) :=
  calls.filterMap fun
    | .update newBboxes pushed _ => some ⟨pushed, newBboxes⟩
    | _ => none

/-- The time at which the last update trimmed the buffer. -/
def lastUpdate (calls : List (BufferCall α)) : Option Nat :=
  (calls.filterMap fun
    | .update _ _ now => some now
    | _ => none).getLast?

/-! ## The two trimming loops -/

theorem trimByAge_eq_drop (now : Nat) (buffer : List (TimestampedBBox α)) :
    ∃ m, trimByAge now buffer = buffer.drop m := by
  induction buffer with
  | nil => exact ⟨0, rfl⟩
  | cons oldest rest ih =>
      unfold trimByAge
      split
      · obtain ⟨m, trimmed⟩ := ih
        exact ⟨m + 1, trimmed⟩
      · exact ⟨0, rfl⟩

theorem trimBySize_eq_drop (buffer : List (TimestampedBBox α)) : ∃ m, trimBySize buffer = buffer.drop m := by
  induction buffer with
  | nil => exact ⟨0, rfl⟩
  | cons oldest rest ih =>
      unfold trimBySize
      split
      · obtain ⟨m, trimmed⟩ := ih
        exact ⟨m + 1, trimmed⟩
      · exact ⟨0, rfl⟩

theorem length_trimBySize_le (buffer : List (TimestampedBBox α)) : (trimBySize buffer).length ≤ 50 := by
  induction buffer with
  | nil => simp [trimBySize]
  | cons oldest rest ih =>
      unfold trimBySize
      split
      · exact ih
      · rename_i small
        simp only [List.length_cons]
        omega

theorem millisecondsBetween_le_of_le {earlier earlier' : Nat} (now : Nat) (later : earlier ≤ earlier') :
    millisecondsBetween earlier' now ≤ millisecondsBetween earlier now :=
  Nat.div_le_div_right (by omega)

/-- In a buffer pushed in time order, the first loop leaves only entries at most
10000 ms old. -/
theorem trimByAge_young (now : Nat) (buffer : List (TimestampedBBox α))
    (ordered : (buffer.map (·.timestamp)).Pairwise (· ≤ ·)) :
    ∀ e ∈ trimByAge now buffer, millisecondsBetween e.timestamp now ≤ 10000 := by
  induction buffer with
  | nil => simp [trimByAge]
  | cons oldest rest ih =>
      rw [List.map_cons, List.pairwise_cons] at ordered
      unfold trimByAge
      split
      case isTrue => exact ih ordered.2
      case isFalse young =>
        intro e member
        rcases List.mem_cons.mp member with rfl | later
        · omega
        · have pushedLater := ordered.1 e.timestamp (List.mem_map_of_mem later)
          exact (millisecondsBetween_le_of_le now pushedLater).trans (by omega)

/-! ## Runs -/

section Runs

variable (calls : List (BufferCall α))

@[simp] theorem runBuffer_append (c : BufferCall α) : runBuffer (calls ++ [c]) = (runBuffer calls).call c := by
  simp [runBuffer, List.foldl_append]

theorem pushedEntries_append_update (newBboxes : List α) (pushed now : Nat) :
    pushedEntries (calls ++ [.update newBboxes pushed now]) = pushedEntries calls ++ [⟨pushed, newBboxes⟩] := by
  simp [pushedEntries, List.filterMap_append]

theorem pushedEntries_append_send (now : Nat) : pushedEntries (calls ++ [.send now]) = pushedEntries calls := by
  simp [pushedEntries, List.filterMap_append]

theorem pushedEntries_append_clear : pushedEntries (calls ++ [.clear]) = pushedEntries calls := by
  simp [pushedEntries, List.filterMap_append]

theorem lastUpdate_append_update (newBboxes : List α) (pushed now : Nat) :
    lastUpdate (calls ++ [.update newBboxes pushed now]) = some now := by
  simp [lastUpdate, List.filterMap_append]

theorem lastUpdate_append_send (now : Nat) : lastUpdate (calls ++ [.send now]) = lastUpdate calls := by
  simp [lastUpdate, List.filterMap_append]

theorem pushedEntries_timestamps_sublist :
    List.Sublist ((pushedEntries calls).map (·.timestamp)) (calls.flatMap BufferCall.clockReads) := by
  induction calls with
  | nil => exact List.Sublist.slnil
  | cons c calls ih =>
      cases c with
      | update newBboxes pushed now =>
          simp only [pushedEntries, List.filterMap_cons, List.map_cons, List.flatMap_cons, BufferCall.clockReads]
          exact (ih.cons_cons pushed).trans (List.Sublist.cons_cons pushed (List.sublist_append_right [now] _))
      | send now =>
          simp only [pushedEntries, List.filterMap_cons, List.flatMap_cons, BufferCall.clockReads]
          exact ih.trans (List.sublist_append_right [now] _)
      | clear =>
          simpa [pushedEntries, BufferCall.clockReads] using ih

end Runs

/-! ## The invariant of a run -/

/-- What holds after every call: at most 50 entries, the queue is what is left
of the pushes after the first `k` and the sent entries are among those `k` in
push order, every entry is at most 10000 ms old at the last update, and every
sent list was non-empty and at least `bbox_buffer_delay_ms` old. -/
structure BufferState.Invariant (s : BufferState α) (calls : List (BufferCall α)) : Prop where
  bounded : s.buffer.length ≤ 50
  window : Fifo.Window (pushedEntries calls) (s.sent.map Prod.fst) s.buffer
  young : ∀ e ∈ s.buffer, ∃ t, lastUpdate calls = some t ∧ millisecondsBetween e.timestamp t ≤ 10000
  delayed : ∀ x ∈ s.sent, x.1.bboxes ≠ [] ∧ bboxBufferDelayMs ≤ millisecondsBetween x.1.timestamp x.2

section Invariant

variable {calls : List (BufferCall α)}

theorem window_ordered {left queue : List (TimestampedBBox α)}
    (window : Fifo.Window (pushedEntries calls) left queue)
    (clocked : (calls.flatMap BufferCall.clockReads).Pairwise (· ≤ ·)) :
    (queue.map (·.timestamp)).Pairwise (· ≤ ·) :=
  clocked.sublist ((window.queue_sublist.map _).trans (pushedEntries_timestamps_sublist calls))

theorem BufferState.Invariant.update {s : BufferState α} (invariant : s.Invariant calls) (newBboxes : List α)
    (pushed now : Nat)
    (clocked : ((calls ++ [BufferCall.update newBboxes pushed now]).flatMap BufferCall.clockReads).Pairwise (· ≤ ·)) :
    (s.call (.update newBboxes pushed now)).Invariant (calls ++ [.update newBboxes pushed now]) := by
  have pushedWindow : Fifo.Window (pushedEntries (calls ++ [.update newBboxes pushed now])) (s.sent.map Prod.fst)
      (s.buffer ++ [⟨pushed, newBboxes⟩]) := by
    rw [pushedEntries_append_update]
    exact invariant.window.push _
  obtain ⟨byAge, agedOut⟩ := trimByAge_eq_drop now (s.buffer ++ [⟨pushed, newBboxes⟩])
  obtain ⟨bySize, sizedOut⟩ := trimBySize_eq_drop (trimByAge now (s.buffer ++ [⟨pushed, newBboxes⟩]))
  refine ⟨length_trimBySize_le _, ?_, fun e member => ⟨now, lastUpdate_append_update calls _ _ _, ?_⟩,
    invariant.delayed⟩
  · simp only [BufferState.call, updateBboxBuffer]
    rw [sizedOut, agedOut]
    exact (pushedWindow.drop byAge).drop bySize
  · simp only [BufferState.call, updateBboxBuffer] at member
    rw [sizedOut] at member
    exact trimByAge_young now _ (window_ordered pushedWindow clocked) e (List.mem_of_mem_drop member)

theorem BufferState.Invariant.send {s : BufferState α} (invariant : s.Invariant calls) (now : Nat) :
    (s.call (.send now)).Invariant (calls ++ [.send now]) := by
  obtain ⟨bounded, window, young, delayed⟩ := invariant
  rw [← pushedEntries_append_send calls now] at window
  rw [← lastUpdate_append_send calls now] at young
  obtain ⟨buffer, sent⟩ := s
  dsimp only at bounded window young delayed
  cases buffer with
  | nil => exact ⟨bounded, window, young, delayed⟩
  | cons oldest rest =>
      simp only [BufferState.call, sendBboxesToClient]
      split
      case isTrue old =>
        simp only [List.length_cons] at bounded
        cases empty : oldest.bboxes.isEmpty with
        | true =>
            -- an entry with no boxes leaves without a send
            simp only [if_true, Option.map_none, Option.toList_none, List.append_nil]
            exact ⟨by simp only; omega, window.drop 1, fun e member => young e (List.mem_cons_of_mem _ member),
              delayed⟩
        | false =>
            simp only [Bool.false_eq_true, if_false, Option.map_some, Option.toList_some]
            refine ⟨by simp only; omega, by simpa using window.pop,
              fun e member => young e (List.mem_cons_of_mem _ member), fun x member => ?_⟩
            rcases List.mem_append.mp member with earlier | sentNow
            · exact delayed x earlier
            · rw [List.mem_singleton.mp sentNow]
              simp only [List.isEmpty_eq_false_iff] at empty
              exact ⟨empty, old⟩
      case isFalse =>
        simp only [Option.map_none, Option.toList_none, List.append_nil]
        exact ⟨bounded, window, young, delayed⟩

theorem BufferState.Invariant.clear {s : BufferState α} (invariant : s.Invariant calls) :
    (s.call .clear).Invariant (calls ++ [.clear]) := by
  obtain ⟨-, window, -, delayed⟩ := invariant
  rw [← pushedEntries_append_clear calls] at window
  exact ⟨by simp [BufferState.call], window.clear, fun e member => by simp [BufferState.call] at member, delayed⟩

theorem BufferState.Invariant.run (calls : List (BufferCall α))
    (clocked : (calls.flatMap BufferCall.clockReads).Pairwise (· ≤ ·)) : (runBuffer calls).Invariant calls := by
  induction calls using List.reverseRecOn with
  | nil => exact ⟨by simp [runBuffer], by simpa [runBuffer, pushedEntries] using Fifo.Window.nil,
      fun e member => by simp [runBuffer] at member, fun x member => by simp [runBuffer] at member⟩
  | append_singleton calls c ih =>
      have earlier := ih (by rw [List.flatMap_append] at clocked; exact (List.pairwise_append.mp clocked).1)
      rw [runBuffer_append]
      cases c with
      | update newBboxes pushed now => exact earlier.update newBboxes pushed now clocked
      | send now => exact earlier.send now
      | clear => exact earlier.clear

end Invariant

/-- For every run of `update_bbox_buffer`, `send_bboxes_to_client` and
`clear_bbox_buffer` with non-decreasing clock readings: the buffer holds at most
50 entries, pushed in time order, each at most 10000 whole milliseconds old at
the last update; it is what is left of the pushes after some first `k`, and the
entries whose lists were sent are among those `k`, in push order, each sent at
most once; and every list sent was non-empty and at least
`bbox_buffer_delay_ms` old when it was sent. -/
theorem runBuffer_bounded_fifo (calls : List (BufferCall α))
    (clocked : (calls.flatMap BufferCall.clockReads).Pairwise (· ≤ ·)) :
    (runBuffer calls).buffer.length ≤ 50 ∧
      ((runBuffer calls).buffer.map (·.timestamp)).Pairwise (· ≤ ·) ∧
      (∀ e ∈ (runBuffer calls).buffer, ∃ t, lastUpdate calls = some t ∧ millisecondsBetween e.timestamp t ≤ 10000) ∧
      (∃ k, (runBuffer calls).buffer = (pushedEntries calls).drop k ∧
        List.Sublist ((runBuffer calls).sent.map Prod.fst) ((pushedEntries calls).take k)) ∧
      ∀ x ∈ (runBuffer calls).sent, x.1.bboxes ≠ [] ∧ bboxBufferDelayMs ≤ millisecondsBetween x.1.timestamp x.2 := by
  have invariant := BufferState.Invariant.run calls clocked
  obtain ⟨k, -, remaining, selected⟩ := invariant.window
  exact ⟨invariant.bounded, window_ordered invariant.window clocked, invariant.young, ⟨k, remaining, selected⟩,
    invariant.delayed⟩

/-- A push at time 0, sent three seconds later. -/
def sampleCalls : List (BufferCall Unit) := [.update [()] 0 0, .send 3000000000]

theorem runBuffer_bounded_fifo_sample :
    (sampleCalls.flatMap BufferCall.clockReads).Pairwise (· ≤ ·) ∧
      (runBuffer sampleCalls).buffer.length ≤ 50 ∧
      ((runBuffer sampleCalls).buffer.map (·.timestamp)).Pairwise (· ≤ ·) ∧
      (∀ e ∈ (runBuffer sampleCalls).buffer, ∃ t, lastUpdate sampleCalls = some t ∧
        millisecondsBetween e.timestamp t ≤ 10000) ∧
      (∃ k, (runBuffer sampleCalls).buffer = (pushedEntries sampleCalls).drop k ∧
        List.Sublist ((runBuffer sampleCalls).sent.map Prod.fst) ((pushedEntries sampleCalls).take k)) ∧
      ∀ x ∈ (runBuffer sampleCalls).sent, x.1.bboxes ≠ [] ∧
        bboxBufferDelayMs ≤ millisecondsBetween x.1.timestamp x.2 := by
  have clocked : (sampleCalls.flatMap BufferCall.clockReads).Pairwise (· ≤ ·) := by decide
  exact ⟨clocked, runBuffer_bounded_fifo sampleCalls clocked⟩

/-- Two updates 10000.5 ms apart: the first entry's age truncates to 10000 ms,
so the second update keeps it, more than 10000 ms older than that update. -/
theorem bbox_entry_kept_past_10000ms :
    (([.update [()] 0 0, .update [()] 10000500000 10000500000] : List (BufferCall Unit)).flatMap
        BufferCall.clockReads).Pairwise (· ≤ ·) ∧
      ∃ e ∈ (runBuffer ([.update [()] 0 0, .update [()] 10000500000 10000500000] : List (BufferCall Unit))).buffer,
        ∃ t, lastUpdate ([.update [()] 0 0, .update [()] 10000500000 10000500000] : List (BufferCall Unit)) = some t ∧
          10000 * 1000000 < t - e.timestamp :=
  ⟨by decide, ⟨0, [()]⟩, List.mem_cons_self, 10000500000, rfl, by norm_num⟩

end RaspiServer.Metadata
