import RaspiServer.Library.Delimited

/-!
# The two metadata stream splitters (`metadata_parser.cpp`, `metadata/main_control.cpp`)

Both programs read the output of `ffmpeg ... -f data -` from a pipe and cut it
at `</tt:MetadataStream>`. The server's `parse_metadata` appends each `fread`
chunk to `xml_buffer` and, while the buffer holds the delimiter, hands the
text before it to the regex stage and erases it together with the delimiter.
The control program's `metadata_thread` appends each `fgets` line and, once
the buffer holds the delimiter anywhere, hands the whole buffer on and clears
it. Both append the read as a C string, so a NUL byte cuts it short.

A run of `parse_metadata` is a list of chunks, however the pipe delivers them;
`fgets` decides its own reads, so a run of `metadata_thread` is the stream.
Both loops are modelled with `parser_running` set throughout.
-/

set_option autoImplicit false

namespace RaspiServer.Metadata

open Delimited

/-- The bytes of an ASCII text. -/
def ascii (text : String) : List UInt8 := text.toList.map fun c => c.toNat.toUInt8

/-- `"</tt:MetadataStream>"`, where both programs cut. -/
def metadataStreamEnd : Delimiter UInt8 := ⟨ascii "</tt:MetadataStream>", by simp [ascii]⟩

/-- `xml_buffer += buffer` of a NUL-terminated read. -/
def appendCString (xmlBuffer buffer : List UInt8) : List UInt8 := xmlBuffer ++ buffer.takeWhile (· ≠ 0)

theorem appendCString_of_not_mem {xmlBuffer buffer : List UInt8} (noNul : 0 ∉ buffer) :
    appendCString xmlBuffer buffer = xmlBuffer ++ buffer := by
  rw [appendCString, List.takeWhile_eq_self_iff.mpr fun b member => by simpa using ne_of_mem_of_not_mem member noNul]

/-! ## `parse_metadata` -/

/-- The inner loop of `parse_metadata`: `substr(0, end_pos)` is the packet and
`erase(0, end_pos + strlen("</tt:MetadataStream>"))` drops it with the
delimiter; the second component is what stays in `xml_buffer`. -/
def extractPackets (xmlBuffer : List UInt8) : List (List UInt8) × List UInt8 :=
  match found : find? metadataStreamEnd.text xmlBuffer with
  | none => ([], xmlBuffer)
  | some endPos =>
      let rest := extractPackets (xmlBuffer.drop (endPos + metadataStreamEnd.text.length))
      (xmlBuffer.take endPos :: rest.1, rest.2)
termination_by xmlBuffer.length
decreasing_by
  have fits := find?_add_length_le metadataStreamEnd.nonempty found
  have positive := List.length_pos_iff.mpr metadataStreamEnd.nonempty
  simp only [List.length_drop]
  omega

/-- The packets handed to the regex stage so far, and `xml_buffer`. -/
structure ParserState where
  packets : List (List UInt8)
  xmlBuffer : List UInt8

/-- One pass of the outer loop: a read of `bytes > 0` bytes, then the inner
loop. -/
def ParserState.read (s : ParserState) (chunk : List UInt8) : ParserState :=
  if chunk = [] then s
  else
    let cut := extractPackets (appendCString s.xmlBuffer chunk)
    ⟨s.packets ++ cut.1, cut.2⟩

/-- `parse_metadata` over the chunks the pipe delivers. -/
def parseMetadata (chunks : List (List UInt8)) : ParserState :=
  chunks.foldl ParserState.read ⟨[], []⟩

theorem extractPackets_splits (xmlBuffer : List UInt8) :
    Splits metadataStreamEnd xmlBuffer (extractPackets xmlBuffer).1 (extractPackets xmlBuffer).2 := by
  induction xmlBuffer using extractPackets.induct with
  | case1 xmlBuffer nowhere =>
      rw [extractPackets, nowhere]
      exact .stop nowhere
  | case2 xmlBuffer endPos found ih =>
      rw [extractPackets, found]
      exact .cut found ih

theorem ParserState.read_splits {consumed : List UInt8} {s : ParserState}
    (cut : Splits metadataStreamEnd consumed s.packets s.xmlBuffer) {chunk : List UInt8} (noNul : 0 ∉ chunk) :
    Splits metadataStreamEnd (consumed ++ chunk) (s.read chunk).packets (s.read chunk).xmlBuffer := by
  unfold ParserState.read
  split
  · rename_i empty
    rw [empty, List.append_nil]
    exact cut
  · rw [appendCString_of_not_mem noNul]
    exact cut.append (extractPackets_splits _)

theorem foldl_read_splits (chunks : List (List UInt8)) (noNul : ∀ chunk ∈ chunks, 0 ∉ chunk) :
    ∀ (consumed : List UInt8) (s : ParserState), Splits metadataStreamEnd consumed s.packets s.xmlBuffer →
      Splits metadataStreamEnd (consumed ++ chunks.flatten) (chunks.foldl ParserState.read s).packets
        (chunks.foldl ParserState.read s).xmlBuffer := by
  induction chunks with
  | nil =>
      intro consumed s cut
      simpa using cut
  | cons chunk chunks ih =>
      intro consumed s cut
      have next := s.read_splits cut (noNul chunk List.mem_cons_self)
      rw [List.flatten_cons, ← List.append_assoc, List.foldl_cons]
      exact ih (fun c member => noNul c (List.mem_cons_of_mem _ member)) _ _ next

/-- Whatever the chunking of a NUL-free stream, `parse_metadata` has handed
on exactly the cut of the stream at its delimiters, and keeps the rest. -/
theorem parseMetadata_splits (chunks : List (List UInt8)) (noNul : ∀ chunk ∈ chunks, 0 ∉ chunk) :
    Splits metadataStreamEnd chunks.flatten (parseMetadata chunks).packets (parseMetadata chunks).xmlBuffer := by
  simpa [parseMetadata] using foldl_read_splits chunks noNul [] ⟨[], []⟩ Splits.nil

/-- Two chunkings of one NUL-free stream hand on the same packets and keep the
same buffer. -/
theorem parseMetadata_chunking (chunks chunks' : List (List UInt8)) (noNul : ∀ chunk ∈ chunks, 0 ∉ chunk)
    (noNul' : ∀ chunk ∈ chunks', 0 ∉ chunk) (same : chunks.flatten = chunks'.flatten) :
    (parseMetadata chunks).packets = (parseMetadata chunks').packets ∧
      (parseMetadata chunks).xmlBuffer = (parseMetadata chunks').xmlBuffer := by
  have second := parseMetadata_splits chunks' noNul'
  rw [← same] at second
  exact (parseMetadata_splits chunks noNul).unique second

theorem parseMetadata_chunking_sample :
    (∀ chunk ∈ [ascii "A</tt:Meta", ascii "dataStream>B"], 0 ∉ chunk) ∧
      (∀ chunk ∈ [ascii "A</tt:MetadataStream>B"], 0 ∉ chunk) ∧
      [ascii "A</tt:Meta", ascii "dataStream>B"].flatten = [ascii "A</tt:MetadataStream>B"].flatten ∧
      (parseMetadata [ascii "A</tt:Meta", ascii "dataStream>B"]).packets =
          (parseMetadata [ascii "A</tt:MetadataStream>B"]).packets ∧
        (parseMetadata [ascii "A</tt:Meta", ascii "dataStream>B"]).xmlBuffer =
          (parseMetadata [ascii "A</tt:MetadataStream>B"]).xmlBuffer := by
  have noNul : ∀ chunk ∈ [ascii "A</tt:Meta", ascii "dataStream>B"], 0 ∉ chunk := by decide +kernel
  have noNul' : ∀ chunk ∈ [ascii "A</tt:MetadataStream>B"], 0 ∉ chunk := by decide +kernel
  have same : [ascii "A</tt:Meta", ascii "dataStream>B"].flatten = [ascii "A</tt:MetadataStream>B"].flatten := by
    decide +kernel
  exact ⟨noNul, noNul', same, parseMetadata_chunking _ _ noNul noNul' same⟩

/-! ## `metadata_thread` -/

/-- `BUFFER_SIZE`. -/
def bufferSize : Nat := 8192

/-- `fgets` with room for `room` bytes: up to `room` bytes, through the first
newline. -/
def fgets : Nat → List UInt8 → List UInt8 × List UInt8
  | 0, stream => ([], stream)
  | _ + 1, [] => ([], [])
  | room + 1, b :: stream =>
      if b = 10 then ([b], stream)
      else
        let line := fgets room stream
        (b :: line.1, line.2)

theorem fgets_append (room : Nat) (stream : List UInt8) : (fgets room stream).1 ++ (fgets room stream).2 = stream := by
  induction room generalizing stream with
  | zero => rfl
  | succ room ih =>
      cases stream with
      | nil => rfl
      | cons b stream =>
          unfold fgets
          split
          · rfl
          · simp [ih stream]

theorem fgets_rest_length_lt {room : Nat} {stream : List UInt8} (positive : 0 < room) (nonempty : stream ≠ []) :
    (fgets room stream).2.length < stream.length := by
  obtain ⟨room, rfl⟩ : ∃ r, room = r + 1 := ⟨room - 1, by omega⟩
  obtain ⟨b, stream, rfl⟩ := List.exists_cons_of_ne_nil nonempty
  have whole := congrArg List.length (fgets_append room stream)
  rw [List.length_append] at whole
  unfold fgets
  split
  · simp
  · simp only [List.length_cons]
    omega

theorem fgets_of_no_newline {room : Nat} {stream : List UInt8} (noNewline : 10 ∉ stream)
    (fits : stream.length ≤ room) : fgets room stream = (stream, []) := by
  induction stream generalizing room with
  | nil => cases room <;> rfl
  | cons b stream ih =>
      obtain ⟨room, rfl⟩ : ∃ r, room = r + 1 := ⟨room - 1, by simp at fits; omega⟩
      have notNewline : b ≠ 10 := fun same => noNewline (same ▸ List.mem_cons_self)
      rw [fgets, if_neg notNewline, ih (fun member => noNewline (List.mem_cons_of_mem _ member))
        (by simp at fits; omega)]

/-- The blocks handed to the frame and event handlers so far, and
`xml_buffer`. -/
structure ThreadState where
  blocks : List (List UInt8)
  xmlBuffer : List UInt8

/-- The body of the loop after one `fgets`: a buffer that holds the delimiter
anywhere is handed on whole and cleared. -/
def ThreadState.read (s : ThreadState) (line : List UInt8) : ThreadState :=
  let xmlBuffer := appendCString s.xmlBuffer line
  if (find? metadataStreamEnd.text xmlBuffer).isSome then ⟨s.blocks ++ [xmlBuffer], []⟩
  else ⟨s.blocks, xmlBuffer⟩

/-- `while (fgets(buffer, BUFFER_SIZE, pipe))` until the end of the stream. -/
def metadataThread (s : ThreadState) (stream : List UInt8) : ThreadState :=
  match stream with
  | [] => s
  | b :: rest =>
      let line := fgets (bufferSize - 1) (b :: rest)
      metadataThread (s.read line.1) line.2
termination_by stream.length
decreasing_by exact fgets_rest_length_lt (by decide) (List.cons_ne_nil b rest)

/-- What `metadata_thread` keeps over a run: its blocks and its buffer spell
what it read, every block holds the delimiter and the buffer holds none. -/
def ThreadState.Faithful (consumed : List UInt8) (s : ThreadState) : Prop :=
  s.blocks.flatten ++ s.xmlBuffer = consumed ∧
    (∀ block ∈ s.blocks, (find? metadataStreamEnd.text block).isSome) ∧
    find? metadataStreamEnd.text s.xmlBuffer = none

theorem ThreadState.read_faithful {consumed : List UInt8} {s : ThreadState} (faithful : s.Faithful consumed)
    {line : List UInt8} (noNul : 0 ∉ line) : (s.read line).Faithful (consumed ++ line) := by
  obtain ⟨spelled, closed, open_⟩ := faithful
  unfold ThreadState.read
  rw [appendCString_of_not_mem noNul]
  dsimp only
  split
  · rename_i found
    refine ⟨by simp [← spelled], fun block member => ?_, find?_nil metadataStreamEnd.nonempty⟩
    rcases List.mem_append.mp member with earlier | last
    · exact closed block earlier
    · rw [List.mem_singleton.mp last]
      exact found
  · rename_i nowhere
    exact ⟨by simp [← spelled], closed, by simpa using nowhere⟩

theorem metadataThread_faithful (s : ThreadState) (stream : List UInt8) (noNul : 0 ∉ stream) {consumed : List UInt8}
    (faithful : s.Faithful consumed) : (metadataThread s stream).Faithful (consumed ++ stream) := by
  induction s, stream using metadataThread.induct generalizing consumed with
  | case1 s =>
      rw [metadataThread, List.append_nil]
      exact faithful
  | case2 s b rest line ih =>
      have whole := fgets_append (bufferSize - 1) (b :: rest)
      have lineNoNul : 0 ∉ (fgets (bufferSize - 1) (b :: rest)).1 :=
        fun member => noNul (whole ▸ List.mem_append_left _ member)
      have restNoNul : 0 ∉ (fgets (bufferSize - 1) (b :: rest)).2 :=
        fun member => noNul (whole ▸ List.mem_append_right _ member)
      have target : consumed ++ b :: rest =
          consumed ++ (fgets (bufferSize - 1) (b :: rest)).1 ++ (fgets (bufferSize - 1) (b :: rest)).2 := by
        rw [List.append_assoc, whole]
      rw [metadataThread, target]
      exact ih restNoNul (s.read_faithful faithful lineNoNul)

theorem metadataThread_faithful_sample :
    0 ∉ ascii "A</tt:MetadataStream>\nB" ∧ ThreadState.Faithful [] ⟨[], []⟩ ∧
      (metadataThread ⟨[], []⟩ (ascii "A</tt:MetadataStream>\nB")).Faithful ([] ++ ascii "A</tt:MetadataStream>\nB") := by
  have noNul : 0 ∉ ascii "A</tt:MetadataStream>\nB" := by decide +kernel
  have start : ThreadState.Faithful [] ⟨[], []⟩ := ⟨rfl, by simp, find?_nil metadataStreamEnd.nonempty⟩
  exact ⟨noNul, start, metadataThread_faithful _ _ noNul start⟩

/-- A single read that holds the delimiter, from an empty buffer, is handed on
as one block, however many packets it holds. -/
theorem metadataThread_one_line {line : List UInt8} (nonempty : line ≠ []) (noNewline : 10 ∉ line)
    (fits : line.length ≤ bufferSize - 1) (noNul : 0 ∉ line)
    (found : (find? metadataStreamEnd.text line).isSome) :
    metadataThread ⟨[], []⟩ line = ⟨[line], []⟩ := by
  obtain ⟨b, rest, rfl⟩ := List.exists_cons_of_ne_nil nonempty
  have read : (⟨[], []⟩ : ThreadState).read (b :: rest) = ⟨[b :: rest], []⟩ := by
    unfold ThreadState.read
    rw [appendCString_of_not_mem noNul, List.nil_append]
    simp only [found, if_true, List.nil_append]
  rw [metadataThread, fgets_of_no_newline noNewline fits]
  dsimp only
  rw [read, metadataThread]

/-- The line `A</tt:MetadataStream>B</tt:MetadataStream>`, read by one
`fgets`, is one block holding two packets; `parse_metadata` cuts the same
bytes into `A` and `B`. -/
theorem metadataThread_two_packets_one_block :
    (metadataThread ⟨[], []⟩ (ascii "A</tt:MetadataStream>B</tt:MetadataStream>")).blocks =
        [ascii "A</tt:MetadataStream>B</tt:MetadataStream>"] ∧
      (parseMetadata [ascii "A</tt:MetadataStream>B</tt:MetadataStream>"]).packets = [ascii "A", ascii "B"] := by
  have noNul : 0 ∉ ascii "A</tt:MetadataStream>B</tt:MetadataStream>" := by decide +kernel
  have cut : Splits metadataStreamEnd (ascii "A</tt:MetadataStream>B</tt:MetadataStream>")
      [ascii "A", ascii "B"] [] :=
    splits_iff.mpr ⟨by decide +kernel, by decide +kernel, by decide +kernel⟩
  constructor
  · rw [metadataThread_one_line (by decide +kernel) (by decide +kernel) (by decide +kernel) noNul
      (by decide +kernel)]
  · have whole := parseMetadata_splits [ascii "A</tt:MetadataStream>B</tt:MetadataStream>"]
      (fun chunk member => List.mem_singleton.mp member ▸ noNul)
    rw [List.flatten_singleton] at whole
    exact (whole.unique cut).1

end RaspiServer.Metadata
