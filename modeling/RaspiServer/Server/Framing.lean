import RaspiServer.Library.Interleaving
import RaspiServer.Server.Client

/-!
# Response framing on a connection (`request_handlers.cpp`, `metadata_parser.cpp`, `ssl.cpp`)

`send_json_response` and `send_bboxes_to_client` both send a document as two
`sendAll` calls: the 4-byte big-endian length (`htonl` of the `uint32_t`
length), then the bytes. `sendAll` loops over `SSL_write`, each call writing a
non-empty prefix of what is left. The request thread and the bbox push thread
of one connection write to the same `SSL` object; `ssl.cpp` declares
`ssl_write_mutex` for this, but no code locks it, so the two threads' writes
interleave call by call.
-/

set_option autoImplicit false

namespace RaspiServer.Server

/-- `htonl(len)` of the `uint32_t` length. -/
def lengthPrefix (length : Nat) : List UInt8 :=
  [(length >>> 24).toUInt8, (length >>> 16).toUInt8, (length >>> 8).toUInt8, length.toUInt8]

/-- One document on the wire. -/
def frame (document : List UInt8) : List UInt8 := lengthPrefix document.length ++ document

/-- The client's reader: a length, then that many bytes, as long as the stream
holds whole frames. -/
def readFrames : List UInt8 → List (List UInt8)
  | b0 :: b1 :: b2 :: b3 :: rest =>
      let length := frameLength b0 b1 b2 b3
      if length ≤ rest.length then rest.take length :: readFrames (rest.drop length) else []
  | _ => []
termination_by stream => stream.length
decreasing_by simp only [List.length_drop, List.length_cons]; omega

/-- The `SSL_write` calls of one `sendAll(buffer)`: non-empty pieces that spell
the buffer in order. -/
def SendAllWrites (buffer : List UInt8) (writes : List (List UInt8)) : Prop :=
  writes.flatten = buffer ∧ ∀ piece ∈ writes, piece ≠ []

/-- The writes of one thread sending its documents in order, each as the
prefix's `sendAll` then the body's. -/
inductive ThreadWrites : List (List UInt8) → List (List UInt8) → Prop
  | nil : ThreadWrites [] []
  | send {document : List UInt8} {documents : List (List UInt8)} {prefixWrites bodyWrites rest : List (List UInt8)} :
      SendAllWrites (lengthPrefix document.length) prefixWrites → SendAllWrites document bodyWrites →
      ThreadWrites documents rest → ThreadWrites (document :: documents) (prefixWrites ++ bodyWrites ++ rest)

/-! ## One writer -/

/-- However `SSL_write` splits the calls, one thread's bytes are its frames. -/
theorem ThreadWrites.flatten_eq {documents : List (List UInt8)} {writes : List (List UInt8)}
    (sent : ThreadWrites documents writes) : writes.flatten = documents.flatMap frame := by
  induction sent with
  | nil => rfl
  | send prefixSent bodySent _ ih =>
      rw [List.flatten_append, List.flatten_append, prefixSent.1, bodySent.1, ih, List.flatMap_cons, frame,
        List.append_assoc]

/-- `ntohl` undoes `htonl` below `2^32`. -/
theorem lengthPrefix_value (length : Nat) (small : length < 2 ^ 32) :
    frameLength ((lengthPrefix length).getD 0 0) ((lengthPrefix length).getD 1 0) ((lengthPrefix length).getD 2 0)
      ((lengthPrefix length).getD 3 0) = length := by
  simp only [frameLength, lengthPrefix, List.getD_cons_zero, List.getD_cons_succ, Nat.toUInt8, UInt8.toNat_ofNat',
    Nat.shiftRight_eq_div_pow]
  omega

/-- The reader recovers every sequence of documents shorter than `2^32` bytes
from their frames. -/
theorem readFrames_flatMap_frame (documents : List (List UInt8)) (small : ∀ d ∈ documents, d.length < 2 ^ 32) :
    readFrames (documents.flatMap frame) = documents := by
  induction documents with
  | nil => simp [readFrames]
  | cons document rest ih =>
      have value := lengthPrefix_value document.length (small document (by simp))
      simp only [List.flatMap_cons, frame, lengthPrefix, List.cons_append, List.nil_append] at value ⊢
      rw [readFrames]
      simp only [List.getD_cons_zero, List.getD_cons_succ] at value
      rw [value, if_pos (by simp), List.take_left' rfl, List.drop_left' rfl,
        ih fun d member => small d (List.mem_cons_of_mem _ member)]

/-- With one writer, however `SSL_write` splits its sends, the client reads
back exactly its documents. -/
theorem ThreadWrites.readFrames_flatten {documents : List (List UInt8)} {writes : List (List UInt8)}
    (sent : ThreadWrites documents writes) (small : ∀ d ∈ documents, d.length < 2 ^ 32) :
    readFrames writes.flatten = documents := by
  rw [sent.flatten_eq]
  exact readFrames_flatMap_frame documents small

theorem readFrames_flatten_single :
    ThreadWrites [[0x41]] [[0, 0], [0, 1], [0x41]] ∧ (∀ d ∈ [[(0x41 : UInt8)]], d.length < 2 ^ 32) ∧
      readFrames [[0, 0], [0, 1], [(0x41 : UInt8)]].flatten = [[0x41]] := by
  -- the prefix goes out in two `SSL_write` calls
  have prefixSent : SendAllWrites (lengthPrefix [(0x41 : UInt8)].length) [[0, 0], [0, 1]] := ⟨by decide, by decide⟩
  have bodySent : SendAllWrites [(0x41 : UInt8)] [[0x41]] := ⟨rfl, by decide⟩
  have sent : ThreadWrites [[0x41]] [[0, 0], [0, 1], [0x41]] := .send prefixSent bodySent .nil
  have small : ∀ d ∈ [[(0x41 : UInt8)]], d.length < 2 ^ 32 := by decide
  exact ⟨sent, small, sent.readFrames_flatten small⟩

/-! ## The server's reader on well-formed frames -/

section Server

variable (parse : List UInt8 → Except CppException Json) (memory : Nat)
  (handlers : Int → Json → Except CppException Unit)

/-- A message `handle_client` gets through and stays in its loop: a non-empty
body that fits the memory and the length prefix, parsed, and routed without an
exception other than a caught `parse_error`. -/
def Survives (document : List UInt8) : Prop :=
  0 < document.length ∧ document.length ≤ memory ∧ document.length < 2 ^ 32 ∧
    ∃ json, parse document = .ok json ∧
      ∀ e, routeRequest handlers json = .error e → e.caughtBy .jsonParseError = true

theorem handleClient_frame_append {document : List UInt8} (survives : Survives parse memory handlers document)
    (rest : List UInt8) :
    handleClient parse memory handlers (frame document ++ rest) = handleClient parse memory handlers rest := by
  obtain ⟨nonempty, room, small, json, parsed, caught⟩ := survives
  have value := lengthPrefix_value document.length small
  simp only [lengthPrefix, List.getD_cons_zero, List.getD_cons_succ] at value
  have received : receiveBody parse memory document.length (document ++ rest) = .message json document.length := by
    simp only [receiveBody, List.take_left' rfl, parsed]
    rw [if_neg (by omega), if_neg (by omega), if_neg (by simp)]
  simp only [frame, lengthPrefix, List.cons_append, List.nil_append]
  rw [handleClient, value, received]
  simp only [List.drop_left' rfl]
  -- the dispatch returns, or throws a `parse_error` that the `try` catches
  cases routed : routeRequest handlers json with
  | ok u => rfl
  | error e => simp [caught e routed]

/-- A client that sends only messages the thread gets through never ends the
process: over any number of frames the thread reads each in turn and leaves
its loop when the stream ends. -/
theorem handleClient_flatMap_frame (documents : List (List UInt8))
    (survive : ∀ d ∈ documents, Survives parse memory handlers d) :
    handleClient parse memory handlers (documents.flatMap frame) = .closed := by
  induction documents with
  | nil => simp [handleClient]
  | cons document rest ih =>
      rw [List.flatMap_cons, handleClient_frame_append parse memory handlers (survive document (by simp))]
      exact ih fun d member => survive d (List.mem_cons_of_mem _ member)

end Server

theorem handleClient_flatMap_frame_sample :
    (∀ d ∈ [[(0x78 : UInt8)], [0x79, 0x7a]],
        Survives (fun _ => .ok (.object [("request_id", .numberInteger 8)])) 2 (fun _ _ => .ok ()) d) ∧
      handleClient (fun _ => .ok (.object [("request_id", .numberInteger 8)])) 2 (fun _ _ => .ok ())
          ([[(0x78 : UInt8)], [0x79, 0x7a]].flatMap frame) = .closed := by
  have survive : ∀ d ∈ [[(0x78 : UInt8)], [0x79, 0x7a]],
      Survives (fun _ => .ok (.object [("request_id", .numberInteger 8)])) 2 (fun _ _ => .ok ()) d := by
    intro d member
    simp only [List.mem_cons, List.not_mem_nil, or_false] at member
    rcases member with rfl | rfl
    · exact ⟨by decide, by decide, by decide, _, rfl, fun e routed => by cases routed⟩
    · exact ⟨by decide, by decide, by decide, _, rfl, fun e routed => by cases routed⟩
  exact ⟨survive, handleClient_flatMap_frame _ 2 (fun _ _ => .ok ()) _ survive⟩

/-! ## Two writers -/

/-- The request thread answers `[0x41]` while the push thread sends
`[0x42, 0x43]`, each prefix and body in one `SSL_write`. With the writes
scheduled prefix, prefix, body, body in the opposite order, the stream is
neither order of the two frames: the reader takes the first byte of the push
thread's prefix as the first document, then reads a length of 578 and waits. -/
theorem two_writers_split_frames :
    ThreadWrites [[0x41]] [[0, 0, 0, 1], [0x41]] ∧ ThreadWrites [[0x42, 0x43]] [[0, 0, 0, 2], [0x42, 0x43]] ∧
      Interleaving [[0, 0, 0, 1], [0x41]] [[0, 0, 0, 2], [0x42, 0x43]]
        [[0, 0, 0, 1], [0, 0, 0, 2], [0x42, 0x43], [0x41]] ∧
      (∀ documents, Interleaving [[0x41]] [[0x42, 0x43]] documents →
        [[0, 0, 0, 1], [0, 0, 0, 2], [0x42, 0x43], [0x41]].flatten ≠ documents.flatMap frame) ∧
      readFrames [[0, 0, 0, 1], [0, 0, 0, 2], [0x42, 0x43], [0x41]].flatten = [[0]] := by
  have single : ∀ piece : List UInt8, piece ≠ [] → SendAllWrites piece [piece] :=
    fun piece nonempty => ⟨by simp, by simpa using nonempty⟩
  refine ⟨?_, ?_, .left (.right (.right (.left .nil))), ?_, by simp [readFrames, frameLength]⟩
  · exact .send (single _ (by decide)) (single _ (by decide)) .nil
  · exact .send (single _ (by decide)) (single _ (by decide)) .nil
  · intro documents shuffle
    rcases Interleaving.singletons shuffle with rfl | rfl <;> decide

end RaspiServer.Server
