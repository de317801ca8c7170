import RaspiServer.Server.Auth

/-!
# The connection thread (`tcp_server.cpp`)

`handle_client` reads one message at a time with `receive_json_message`: a
4-byte big-endian length `n`, then `n` bytes, then `json::parse` of them. The
`try` around the dispatch catches only `json::parse_error`; the parse itself
runs before that `try`. An exception that leaves the thread function calls
`std::terminate`, which ends the whole process and every other connection.

The parser, the memory available for the body buffer and the handlers are
parameters: the model fixes only how the thread reacts to what they do. The
stream is what the client sends before it closes the connection, so
`recvAll` fails exactly when the stream ends early.
-/

set_option autoImplicit false

namespace RaspiServer.Server

/-- What `receive_json_message` does with a frame whose length bytes have
been read. -/
inductive Received where
  /-- `false`: a zero length, or the stream ended inside the body. -/
  | closed
  /-- `true`, with the parsed document and the body's length. -/
  | message (document : Json) (length : Nat)
  /-- An exception left the function: `bad_alloc` for the buffer, or the
  parser's. -/
  | thrown (e : CppException)

/-- `ntohl` of the four length bytes. -/
def frameLength (b0 b1 b2 b3 : UInt8) : Nat :=
  ((b0.toNat * 256 + b1.toNat) * 256 + b2.toNat) * 256 + b3.toNat

/-- `receive_json_message` after the length prefix: `vector<char>
json_buffer(json_len)` needs `json_len` bytes of memory, `recvAll` the whole
body, and `json::parse` runs unguarded. -/
def receiveBody (parse : List UInt8 → Except CppException Json) (memory : Nat) (length : Nat)
    (body : List UInt8) : Received :=
  if length = 0 then .closed
  else if memory < length then .thrown .badAlloc
  else if body.length < length then .closed
  else
    match parse (body.take length) with
    | .ok document => .message document length
    | .error e => .thrown e

/-- `route_request`: `received_json.value("request_id", -1)` and the handler
it selects. -/
def routeRequest (handlers : Int → Json → Except CppException Unit) (received : Json) :
    Except CppException Unit := do
  let requestId ← received.value "request_id" (-1) Json.getInt
  handlers requestId received

/-- How a connection thread ends: the loop left on a failed receive, or an
exception escaped and terminated the process. -/
inductive ThreadEnd where
  | closed
  | terminated (e : CppException)
  deriving DecidableEq, Repr

/-- The loop of `handle_client` over the bytes a client sends. -/
def handleClient (parse : List UInt8 → Except CppException Json) (memory : Nat)
    (handlers : Int → Json → Except CppException Unit) : List UInt8 → ThreadEnd
  | b0 :: b1 :: b2 :: b3 :: body =>
      match receiveBody parse memory (frameLength b0 b1 b2 b3) body with
      | .closed => .closed
      | .thrown e => .terminated e
      | .message document length =>
          match routeRequest handlers document with
          | .ok () => handleClient parse memory handlers (body.drop length)
          | .error e =>
              if e.caughtBy .jsonParseError then handleClient parse memory handlers (body.drop length)
              else .terminated e
  | _ => .closed
termination_by stream => stream.length
decreasing_by all_goals simp only [List.length_drop, List.length_cons]; omega

/-! ## Which inputs end the process -/

section Thread

variable (parse : List UInt8 → Except CppException Json) (memory : Nat)
  (handlers : Int → Json → Except CppException Unit)

/-- A well-framed message the parser rejects ends the process, whatever
follows it: the parse runs outside the `try`. -/
theorem handleClient_parse_error (b0 b1 b2 b3 : UInt8) (body : List UInt8) (e : CppException)
    (nonempty : 0 < frameLength b0 b1 b2 b3) (room : frameLength b0 b1 b2 b3 ≤ memory)
    (complete : frameLength b0 b1 b2 b3 ≤ body.length)
    (rejected : parse (body.take (frameLength b0 b1 b2 b3)) = .error e) :
    handleClient parse memory handlers (b0 :: b1 :: b2 :: b3 :: body) = .terminated e := by
  have received : receiveBody parse memory (frameLength b0 b1 b2 b3) body = .thrown e := by
    simp only [receiveBody, rejected]
    rw [if_neg (by omega), if_neg (by omega), if_neg (by omega)]
  rw [handleClient, received]

/-- A parsed message whose dispatch throws anything but a `parse_error` ends
the process. -/
theorem handleClient_route_error (b0 b1 b2 b3 : UInt8) (body : List UInt8) (document : Json)
    (e : CppException) (received : receiveBody parse memory (frameLength b0 b1 b2 b3) body =
      .message document (frameLength b0 b1 b2 b3))
    (thrown : routeRequest handlers document = .error e) (uncaught : e.caughtBy .jsonParseError = false) :
    handleClient parse memory handlers (b0 :: b1 :: b2 :: b3 :: body) = .terminated e := by
  rw [handleClient, received]
  simp only [thrown, uncaught, Bool.false_eq_true, if_false]

/-- A `request_id` that is not a number or a boolean is a `type_error` of
`route_request`, before any handler runs. -/
theorem routeRequest_string_id (members : List (String × Json)) (text : String)
    (found : Json.find? members "request_id" = some (.string text)) :
    routeRequest handlers (.object members) = .error (.typeError 302) := by
  simp only [routeRequest, Json.value_object_found _ _ _ _ _ found, Json.getInt, bind, Except.bind]

theorem routeRequest_not_object (document : Json) (notObject : ∀ members, document ≠ .object members) :
    routeRequest handlers document = .error (.typeError 306) := by
  simp only [routeRequest, Json.value_of_not_object document notObject, bind, Except.bind]

end Thread

/-- A well-framed object whose `request_id` is a string ends the process with
the `type_error` of `route_request`, whatever the handlers do. -/
theorem handleClient_string_request_id (parse : List UInt8 → Except CppException Json) (memory : Nat)
    (handlers : Int → Json → Except CppException Unit) (b0 b1 b2 b3 : UInt8) (body : List UInt8)
    (members : List (String × Json)) (text : String)
    (received : receiveBody parse memory (frameLength b0 b1 b2 b3) body = .message (.object members) (frameLength b0 b1 b2 b3))
    (found : Json.find? members "request_id" = some (.string text)) :
    handleClient parse memory handlers (b0 :: b1 :: b2 :: b3 :: body) = .terminated (.typeError 302) :=
  handleClient_route_error parse memory handlers b0 b1 b2 b3 body _ _ received
    (routeRequest_string_id handlers members text found) rfl

theorem handleClient_string_request_id_sample :
    receiveBody (fun _ => .ok (.object [("request_id", .string "8")])) 1 (frameLength 0 0 0 1) [0x78] =
        .message (.object [("request_id", .string "8")]) (frameLength 0 0 0 1) ∧
      Json.find? [("request_id", .string "8")] "request_id" = some (.string "8") ∧
      handleClient (fun _ => .ok (.object [("request_id", .string "8")])) 1 (fun _ _ => .ok ()) [0, 0, 0, 1, 0x78] =
        .terminated (.typeError 302) := by
  have received : receiveBody (fun _ => .ok (.object [("request_id", .string "8")])) 1 (frameLength 0 0 0 1) [0x78] =
      .message (.object [("request_id", .string "8")]) (frameLength 0 0 0 1) := by
    simp [receiveBody, frameLength]
  have found : Json.find? [("request_id", .string "8")] "request_id" = some (.string "8") := by
    simp [Json.find?]
  exact ⟨received, found, handleClient_string_request_id _ 1 (fun _ _ => .ok ()) 0 0 0 1 [0x78] _ "8" received found⟩

/-- A well-framed document that is not an object, such as an array, ends the
process with the `type_error` 306 of `route_request`'s first `value`, whatever
the handlers do. -/
theorem handleClient_not_object (parse : List UInt8 → Except CppException Json) (memory : Nat)
    (handlers : Int → Json → Except CppException Unit) (b0 b1 b2 b3 : UInt8) (body : List UInt8) (document : Json)
    (received : receiveBody parse memory (frameLength b0 b1 b2 b3) body = .message document (frameLength b0 b1 b2 b3))
    (notObject : ∀ members, document ≠ .object members) :
    handleClient parse memory handlers (b0 :: b1 :: b2 :: b3 :: body) = .terminated (.typeError 306) :=
  handleClient_route_error parse memory handlers b0 b1 b2 b3 body _ _ received
    (routeRequest_not_object handlers document notObject) rfl

theorem handleClient_not_object_sample :
    receiveBody (fun _ => .ok (.array [])) 2 (frameLength 0 0 0 2) [0x5B, 0x5D] = .message (.array []) (frameLength 0 0 0 2) ∧
      (∀ members, Json.array [] ≠ .object members) ∧
      handleClient (fun _ => .ok (.array [])) 2 (fun _ _ => .ok ()) [0, 0, 0, 2, 0x5B, 0x5D] = .terminated (.typeError 306) := by
  have received : receiveBody (fun _ => .ok (.array [])) 2 (frameLength 0 0 0 2) [0x5B, 0x5D] =
      .message (.array []) (frameLength 0 0 0 2) := by
    simp [receiveBody, frameLength]
  have notObject : ∀ members, Json.array [] ≠ .object members := fun _ => Json.noConfusion
  exact ⟨received, notObject, handleClient_not_object _ 2 (fun _ _ => .ok ()) 0 0 0 2 [0x5B, 0x5D] _ received notObject⟩

/-- The one-byte body `x`: the parser throws `parse_error` outside the `try`,
and the process ends. -/
theorem handleClient_x (parse : List UInt8 → Except CppException Json) (memory : Nat)
    (handlers : Int → Json → Except CppException Unit) (malformed : parse [0x78] = .error .parseError)
    (room : 1 ≤ memory) :
    handleClient parse memory handlers [0, 0, 0, 1, 0x78] = .terminated .parseError :=
  handleClient_parse_error parse memory handlers 0 0 0 1 [0x78] .parseError (by decide) room (by decide) malformed

theorem handleClient_x_sample :
    (fun _ => .error .parseError : List UInt8 → Except CppException Json) [0x78] = .error .parseError ∧ 1 ≤ 1 ∧
      handleClient (fun _ => .error .parseError) 1 (fun _ _ => .ok ()) [0, 0, 0, 1, 0x78] =
        .terminated .parseError :=
  ⟨rfl, le_refl 1, handleClient_x (fun _ => .error .parseError) 1 (fun _ _ => .ok ()) rfl (le_refl 1)⟩

end RaspiServer.Server
