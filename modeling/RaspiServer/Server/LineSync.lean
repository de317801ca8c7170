import RaspiServer.Server.Json

/-!
# Line synchronisation against concurrent inserts (`request_handlers.cpp`, `db_management.cpp`)

`handle_line_select_all_request` (request 3) reads the camera's line list with
`getLines`, then, each in its own critical section of `db_mutex`, selects the
`lines` table, empties it, and inserts back, one statement at a time, the rows
whose index the camera lists. `handle_line_insert_request` (request 2) inserts
its line under `db_mutex` and then, for `camera_type` `CCTV`, puts it to the
camera with `putLines`, outside the lock.

The system is one request 3 and `n` requests 2, each a thread that takes one
atomic step at a time; a schedule is any sequence of thread choices. The
camera is the list of lines put so far. A request 2 records, as a ghost of the
model, how far request 3 had got when it inserted and when it put; the source
keeps no such record, and no step reads it.
-/

set_option autoImplicit false

namespace RaspiServer.Server

/-- A row of `lines` (`struct CrossLine`). -/
structure CrossLine where
  index : Int
  x1 : Int
  y1 : Int
  x2 : Int
  y2 : Int
  name : String
  mode : String
  deriving DecidableEq, Repr

/-- `insert_data_lines`: `indexNum` is the primary key and `name` is `UNIQUE`,
so the insert fails when either is taken. -/
def insertDataLines (lines : List CrossLine) (crossLine : CrossLine) : Bool × List CrossLine :=
  if lines.any (fun row => row.index = crossLine.index ∨ row.name = crossLine.name) then (false, lines)
  else (true, lines ++ [crossLine])

/-- `select_all_data_lines`: `SELECT * FROM lines ORDER BY name`. -/
def selectAllDataLines (lines : List CrossLine) : List CrossLine :=
  lines.insertionSort fun a b => a.name ≤ b.name

/-- `delete_all_data_lines`: `true` when a row was deleted. -/
def deleteAllDataLines (lines : List CrossLine) : Bool × List CrossLine := (!lines.isEmpty, [])

/-- `realLines`: for each line of the camera, in the camera's order, the rows
of the table with its index. -/
def matchLines (httpLines dbLines : List CrossLine) : List CrossLine :=
  httpLines.flatMap fun httpLine => dbLines.filter fun dbLine => httpLine.index = dbLine.index

/-- `curlCrossLine`: the camera takes coordinates at four times the client's. -/
def CrossLine.toCamera (line : CrossLine) : CrossLine :=
  { line with x1 := wrapInt (line.x1 * 4), y1 := wrapInt (line.y1 * 4), x2 := wrapInt (line.x2 * 4),
              y2 := wrapInt (line.y2 * 4) }

/-! ## The threads -/

/-- How far request 3 has got. -/
inductive SyncStage
  | beforeRead
  | beforeDelete
  | afterDelete
  deriving DecidableEq, Repr

def SyncStage.rank : SyncStage → Nat
  | .beforeRead => 0
  | .beforeDelete => 1
  | .afterDelete => 2

/-- The program counter of request 3 and its locals: the camera's list, the
rows to re-insert, and those not yet re-inserted. -/
inductive SyncPc
  | start
  | cameraRead (httpLines : List CrossLine)
  | selected (httpLines realLines : List CrossLine)
  | inserting (httpLines realLines pending : List CrossLine)
  deriving DecidableEq, Repr

def SyncPc.stage : SyncPc → SyncStage
  | .start => .beforeRead
  | .cameraRead _ => .beforeDelete
  | .selected _ _ => .beforeDelete
  | .inserting _ _ _ => .afterDelete

/-- The program counter of a request 2: `mappingSuccess`, and the ghost stages
of request 3 at the insert and at the put (`none`: no put). -/
inductive InsertPc
  | start
  | inserted (mappingSuccess : Bool) (insertedAt : SyncStage)
  | finished (mappingSuccess : Bool) (insertedAt : SyncStage) (putAt : Option SyncStage)
  deriving DecidableEq, Repr

def InsertPc.insertedAt : InsertPc → Option (Bool × SyncStage)
  | .start => none
  | .inserted success insertedAt => some (success, insertedAt)
  | .finished success insertedAt _ => some (success, insertedAt)

/-- A request 2: the decoded `insertCrossLine`, `camera_type` and its progress. -/
structure Inserter where
  crossLine : CrossLine
  cameraType : String
  pc : InsertPc

/-- The table, the camera's list and the threads. -/
structure System (n : Nat) where
  lines : List CrossLine
  camera : List CrossLine
  sync : SyncPc
  inserters : Fin n → Inserter

inductive Thread (n : Nat)
  | sync
  | inserter (i : Fin n)

variable {n : Nat}

/-- The next atomic step of request 3. -/
def System.syncStep (s : System n) : System n :=
  match s.sync with
  | .start => { s with sync := .cameraRead s.camera }
  | .cameraRead httpLines =>
      { s with sync := .selected httpLines (matchLines httpLines (selectAllDataLines s.lines)) }
  | .selected httpLines realLines =>
      { s with lines := (deleteAllDataLines s.lines).2, sync := .inserting httpLines realLines realLines }
  | .inserting httpLines realLines (line :: pending) =>
      { s with lines := (insertDataLines s.lines line).2, sync := .inserting httpLines realLines pending }
  | .inserting _ _ [] => s

/-- The next atomic step of request 2 number `i`. With another `camera_type`
it selects the table instead of putting, which changes nothing. -/
def System.inserterStep (s : System n) (i : Fin n) : System n :=
  let inserter := s.inserters i
  match inserter.pc with
  | .start =>
      let inserted := insertDataLines s.lines inserter.crossLine
      { s with lines := inserted.2,
               inserters := Function.update s.inserters i
                 { inserter with pc := .inserted inserted.1 s.sync.stage } }
  | .inserted mappingSuccess insertedAt =>
      if inserter.cameraType = "CCTV" then
        { s with camera := s.camera ++ [inserter.crossLine.toCamera],
                 inserters := Function.update s.inserters i
                   { inserter with pc := .finished mappingSuccess insertedAt (some s.sync.stage) } }
      else
        { s with inserters := Function.update s.inserters i
                   { inserter with pc := .finished mappingSuccess insertedAt none } }
  | .finished _ _ _ => s

def System.step (s : System n) : Thread n → System n
  | .sync => s.syncStep
  | .inserter i => s.inserterStep i

def System.run (s : System n) (schedule : List (Thread n)) : System n := schedule.foldl System.step s

/-- Request 3 not started, and request `i` not started with the line and
camera type `requests i`. -/
def System.init (lines camera : List CrossLine) (requests : Fin n → CrossLine × String) : System n :=
  ⟨lines, camera, .start, fun i => ⟨(requests i).1, (requests i).2, .start⟩⟩

/-- Every thread has completed. -/
def System.Completed (s : System n) : Prop :=
  (∃ httpLines realLines, s.sync = .inserting httpLines realLines []) ∧
    ∀ i, ∃ mappingSuccess insertedAt putAt, (s.inserters i).pc = .finished mappingSuccess insertedAt putAt

/-! ## The statements on the table -/

section Table

variable {lines : List CrossLine} {line row : CrossLine}

theorem mem_insertDataLines_of_mem (member : row ∈ lines) : row ∈ (insertDataLines lines line).2 := by
  unfold insertDataLines
  split
  · exact member
  · exact List.mem_append_left _ member

theorem insertDataLines_true (inserted : (insertDataLines lines line).1 = true) : line ∈ (insertDataLines lines line).2 := by
  unfold insertDataLines at inserted ⊢
  split at inserted
  · cases inserted
  · rw [if_neg ‹_›]
    exact List.mem_append_right _ (List.mem_singleton_self line)

theorem insertDataLines_false (refused : (insertDataLines lines line).1 = false) :
    ∃ row ∈ lines, row.index = line.index ∨ row.name = line.name := by
  unfold insertDataLines at refused
  split at refused
  · rename_i taken
    simpa using taken
  · cases refused

theorem mem_insertDataLines (member : row ∈ (insertDataLines lines line).2) :
    row ∈ lines ∨ (row = line ∧ (insertDataLines lines line).1 = true) := by
  unfold insertDataLines at member ⊢
  split at member
  · exact .inl member
  · rw [if_neg ‹_›]
    rcases List.mem_append.mp member with old | new
    · exact .inl old
    · exact .inr ⟨List.mem_singleton.mp new, rfl⟩

theorem mem_selectAllDataLines : row ∈ selectAllDataLines lines ↔ row ∈ lines :=
  (List.perm_insertionSort _ lines).mem_iff

theorem mem_matchLines {httpLines : List CrossLine} :
    row ∈ matchLines httpLines lines ↔ row ∈ lines ∧ ∃ httpLine ∈ httpLines, httpLine.index = row.index := by
  simp only [matchLines, List.mem_flatMap, List.mem_filter, decide_eq_true_eq]
  constructor
  · rintro ⟨httpLine, listed, member, same⟩
    exact ⟨member, httpLine, listed, same⟩
  · rintro ⟨member, httpLine, listed, same⟩
    exact ⟨httpLine, listed, member, same⟩

/-- The table holds `line`, or a row with its index or name, which refuses it. -/
def Kept (lines : List CrossLine) (line : CrossLine) : Prop :=
  line ∈ lines ∨ ∃ row ∈ lines, row.index = line.index ∨ row.name = line.name

theorem Kept.mono {lines' : List CrossLine} (grown : ∀ row ∈ lines, row ∈ lines') (kept : Kept lines line) :
    Kept lines' line := by
  rcases kept with member | ⟨row, member, clash⟩
  · exact .inl (grown line member)
  · exact .inr ⟨row, grown row member, clash⟩

/-- Whatever its outcome, an insert leaves its line kept. -/
theorem kept_insertDataLines (lines : List CrossLine) (line : CrossLine) : Kept (insertDataLines lines line).2 line := by
  cases outcome : (insertDataLines lines line).1 with
  | true => exact .inl (insertDataLines_true outcome)
  | false =>
      obtain ⟨row, member, clash⟩ := insertDataLines_false outcome
      exact .inr ⟨row, mem_insertDataLines_of_mem member, clash⟩

end Table

/-! ## Frames of the steps -/

section Frames

variable (s : System n)

@[simp] theorem System.syncStep_camera : s.syncStep.camera = s.camera := by
  unfold System.syncStep
  split <;> rfl

@[simp] theorem System.syncStep_inserters : s.syncStep.inserters = s.inserters := by
  unfold System.syncStep
  split <;> rfl

@[simp] theorem System.inserterStep_sync (j : Fin n) : (s.inserterStep j).sync = s.sync := by
  unfold System.inserterStep
  dsimp only
  split
  · rfl
  · split <;> rfl
  · rfl

theorem System.inserterStep_other {i j : Fin n} (other : i ≠ j) : (s.inserterStep j).inserters i = s.inserters i := by
  unfold System.inserterStep
  dsimp only
  split
  · exact Function.update_of_ne other _ _
  · split <;> exact Function.update_of_ne other _ _
  · rfl

@[simp] theorem System.inserterStep_crossLine (i j : Fin n) :
    ((s.inserterStep j).inserters i).crossLine = (s.inserters i).crossLine := by
  by_cases same : i = j
  · subst same
    unfold System.inserterStep
    dsimp only
    split
    · simp
    · split <;> simp
    · rfl
  · rw [s.inserterStep_other same]

theorem System.inserterStep_insertedAt {i j : Fin n} {recorded : Bool × SyncStage}
    (was : (s.inserters i).pc.insertedAt = some recorded) :
    ((s.inserterStep j).inserters i).pc.insertedAt = some recorded := by
  by_cases same : i = j
  · subst same
    unfold System.inserterStep
    dsimp only
    split
    · rename_i start
      rw [start] at was
      cases was
    · rename_i mappingSuccess insertedAt pc
      rw [pc] at was
      split <;> simpa [InsertPc.insertedAt] using was
    · exact was
  · rw [s.inserterStep_other same]
    exact was

theorem System.inserterStep_lines_grow (j : Fin n) : ∀ row ∈ s.lines, row ∈ (s.inserterStep j).lines := by
  intro row member
  unfold System.inserterStep
  dsimp only
  split
  · exact mem_insertDataLines_of_mem member
  · split <;> exact member
  · exact member

theorem System.inserterStep_camera_grow (j : Fin n) : ∀ row ∈ s.camera, row ∈ (s.inserterStep j).camera := by
  intro row member
  unfold System.inserterStep
  dsimp only
  split
  · exact member
  · split
    · exact List.mem_append_left _ member
    · exact member
  · exact member

end Frames

/-! ## What one request 2 can rely on -/

/-- Where request 3 holds a line inserted and put before it read the camera:
in the table and on the camera, then in the table and the list it read, then
among the rows to re-insert, and once re-inserted, kept by the table. -/
def Carried (sync : SyncPc) (lines camera : List CrossLine) (line : CrossLine) : Prop :=
  match sync with
  | .start => line ∈ lines ∧ line.toCamera ∈ camera
  | .cameraRead httpLines => line ∈ lines ∧ line.toCamera ∈ httpLines
  | .selected _ realLines => line ∈ realLines
  | .inserting _ _ pending => line ∈ pending ∨ Kept lines line

/-- The invariant of one request 2: its recorded stage is not ahead of request
3; a line inserted after the delete is in the table; a line inserted before the
camera read is in the table until the read; a line inserted and put before the
read is carried by request 3. -/
structure Tracked (sync : SyncPc) (lines camera : List CrossLine) (inserter : Inserter) : Prop where
  ordered : ∀ success insertedAt, inserter.pc.insertedAt = some (success, insertedAt) →
    insertedAt.rank ≤ sync.stage.rank
  afterDelete : inserter.pc.insertedAt = some (true, .afterDelete) → inserter.crossLine ∈ lines
  beforeRead : inserter.pc.insertedAt = some (true, .beforeRead) → sync = .start → inserter.crossLine ∈ lines
  carried : inserter.pc = .finished true .beforeRead (some .beforeRead) → Carried sync lines camera inserter.crossLine

section Tracked

variable {sync : SyncPc} {lines lines' camera camera' : List CrossLine} {line : CrossLine} {inserter : Inserter}

theorem Carried.mono (grownLines : ∀ row ∈ lines, row ∈ lines') (grownCamera : ∀ row ∈ camera, row ∈ camera')
    (carried : Carried sync lines camera line) : Carried sync lines' camera' line := by
  cases sync with
  | start => exact ⟨grownLines _ carried.1, grownCamera _ carried.2⟩
  | cameraRead httpLines => exact ⟨grownLines _ carried.1, carried.2⟩
  | selected _ _ => exact carried
  | inserting _ _ _ => exact carried.imp id (Kept.mono grownLines)

/-- Steps of the other threads that leave request 3 where it is only add rows
and lines. -/
theorem Tracked.mono (grownLines : ∀ row ∈ lines, row ∈ lines') (grownCamera : ∀ row ∈ camera, row ∈ camera')
    (tracked : Tracked sync lines camera inserter) : Tracked sync lines' camera' inserter :=
  ⟨tracked.ordered, fun recorded => grownLines _ (tracked.afterDelete recorded),
    fun recorded started => grownLines _ (tracked.beforeRead recorded started),
    fun finished => (tracked.carried finished).mono grownLines grownCamera⟩

theorem Tracked.not_afterDelete (tracked : Tracked sync lines camera inserter) (early : sync.stage ≠ .afterDelete) :
    inserter.pc.insertedAt ≠ some (true, .afterDelete) := by
  intro recorded
  have ahead := tracked.ordered _ _ recorded
  cases sync <;> simp_all [SyncPc.stage, SyncStage.rank]

/-- A step of request 2 that keeps its line and its recorded insert keeps
what the invariant says of the insert; only the carried line is left to show. -/
theorem Tracked.keepRecord {inserter' : Inserter} (tracked : Tracked sync lines camera inserter)
    (sameLine : inserter'.crossLine = inserter.crossLine) (sameRecord : inserter'.pc.insertedAt = inserter.pc.insertedAt)
    (carried : inserter'.pc = .finished true .beforeRead (some .beforeRead) →
      Carried sync lines camera' inserter'.crossLine) :
    Tracked sync lines camera' inserter' where
  ordered success insertedAt recorded := tracked.ordered success insertedAt (sameRecord ▸ recorded)
  afterDelete recorded := sameLine ▸ tracked.afterDelete (sameRecord ▸ recorded)
  beforeRead recorded started := sameLine ▸ tracked.beforeRead (sameRecord ▸ recorded) started
  carried := carried

theorem Tracked.syncStep {s : System n} (tracked : Tracked s.sync s.lines s.camera inserter) :
    Tracked s.syncStep.sync s.syncStep.lines s.syncStep.camera inserter := by
  cases sync : s.sync with
  | start =>
      rw [sync] at tracked
      simp only [System.syncStep, sync]
      refine ⟨fun success insertedAt recorded => ?_, fun recorded => absurd recorded
        (tracked.not_afterDelete (by simp [SyncPc.stage])), (fun _ read => by cases read), tracked.carried⟩
      have ahead := tracked.ordered success insertedAt recorded
      simp only [SyncPc.stage, SyncStage.rank] at ahead ⊢
      omega
  | cameraRead httpLines =>
      rw [sync] at tracked
      simp only [System.syncStep, sync]
      refine ⟨tracked.ordered, fun recorded => absurd recorded (tracked.not_afterDelete (by simp [SyncPc.stage])),
        (fun _ selected => by cases selected), fun finished => ?_⟩
      obtain ⟨member, listed⟩ := tracked.carried finished
      exact mem_matchLines.mpr ⟨mem_selectAllDataLines.mpr member, _, listed, rfl⟩
  | selected httpLines realLines =>
      rw [sync] at tracked
      simp only [System.syncStep, sync]
      refine ⟨fun success insertedAt recorded => ?_, fun recorded => absurd recorded
        (tracked.not_afterDelete (by simp [SyncPc.stage])), (fun _ deleted => by cases deleted),
        fun finished => .inl (tracked.carried finished)⟩
      have ahead := tracked.ordered success insertedAt recorded
      simp only [SyncPc.stage, SyncStage.rank] at ahead ⊢
      omega
  | inserting httpLines realLines pending =>
      rw [sync] at tracked
      cases pending with
      | nil =>
          simp only [System.syncStep, sync]
          exact tracked
      | cons line pending =>
          simp only [System.syncStep, sync]
          refine ⟨tracked.ordered, fun recorded => mem_insertDataLines_of_mem (tracked.afterDelete recorded),
            (fun _ started => by cases started), fun finished => ?_⟩
          rcases tracked.carried finished with queued | kept
          · rcases List.mem_cons.mp queued with next | later
            · exact .inr (next ▸ kept_insertDataLines s.lines line)
            · exact .inl later
          · exact .inr (kept.mono fun row => mem_insertDataLines_of_mem)

theorem SyncPc.stage_eq_beforeRead {sync : SyncPc} (early : sync.stage = .beforeRead) : sync = .start := by
  cases sync <;> simp_all [SyncPc.stage]

theorem Tracked.inserterStep {s : System n} {i : Fin n} (tracked : Tracked s.sync s.lines s.camera (s.inserters i)) :
    Tracked (s.inserterStep i).sync (s.inserterStep i).lines (s.inserterStep i).camera
      ((s.inserterStep i).inserters i) := by
  cases pc : (s.inserters i).pc with
  | start =>
      simp only [System.inserterStep, pc, Function.update_self]
      refine ⟨fun success insertedAt recorded => ?_, fun recorded => ?_, fun recorded _ => ?_,
        fun finished => by cases finished⟩
      all_goals simp only [InsertPc.insertedAt, Option.some.injEq, Prod.mk.injEq] at recorded
      · rw [← recorded.2]
      · exact insertDataLines_true recorded.1
      · exact insertDataLines_true recorded.1
  | inserted mappingSuccess insertedAt =>
      have recordedBefore : (s.inserters i).pc.insertedAt = some (mappingSuccess, insertedAt) := by
        rw [pc]
        rfl
      simp only [System.inserterStep, pc]
      split
      case isTrue cctv =>
        simp only [Function.update_self]
        refine tracked.keepRecord rfl recordedBefore.symm fun finished => ?_
        simp only [InsertPc.finished.injEq, Option.some.injEq] at finished
        obtain ⟨rfl, rfl, early⟩ := finished
        have started := SyncPc.stage_eq_beforeRead early
        have member := tracked.beforeRead recordedBefore started
        rw [started]
        exact ⟨member, List.mem_append_right _ (List.mem_singleton_self _)⟩
      case isFalse other =>
        simp only [Function.update_self]
        exact tracked.keepRecord rfl recordedBefore.symm fun finished => by cases finished
  | finished mappingSuccess insertedAt putAt =>
      simp only [System.inserterStep, pc]
      exact tracked

end Tracked

/-! ## The invariant of the system -/

/-- What request 3 keeps of its locals: every row it will re-insert has an
index of the camera's list, and the rows pending are among them. -/
def SyncPc.Consistent : SyncPc → Prop
  | .start => True
  | .cameraRead _ => True
  | .selected httpLines realLines => ∀ row ∈ realLines, ∃ httpLine ∈ httpLines, httpLine.index = row.index
  | .inserting httpLines realLines pending =>
      (∀ row ∈ realLines, ∃ httpLine ∈ httpLines, httpLine.index = row.index) ∧ ∀ row ∈ pending, row ∈ realLines

/-- After the delete, every row of the table is one request 3 re-inserts, or
the line of a request 2 that inserted it after the delete. -/
def System.Sourced (s : System n) : Prop :=
  ∀ httpLines realLines pending, s.sync = .inserting httpLines realLines pending →
    ∀ row ∈ s.lines, row ∈ realLines ∨
      ∃ i, (s.inserters i).crossLine = row ∧ (s.inserters i).pc.insertedAt = some (true, .afterDelete)

structure System.Invariant (s : System n) : Prop where
  consistent : s.sync.Consistent
  sourced : s.Sourced
  tracked : ∀ i, Tracked s.sync s.lines s.camera (s.inserters i)

theorem SyncPc.Consistent.syncStep {s : System n} (consistent : s.sync.Consistent) : s.syncStep.sync.Consistent := by
  unfold System.syncStep
  split
  · trivial
  · intro row member
    obtain ⟨-, listed⟩ := mem_matchLines.mp member
    exact listed
  · rename_i httpLines realLines selected
    rw [selected] at consistent
    exact ⟨consistent, fun _ member => member⟩
  · rename_i httpLines realLines line pending inserting
    rw [inserting] at consistent
    exact ⟨consistent.1, fun row member => consistent.2 row (List.mem_cons_of_mem _ member)⟩
  · exact consistent

theorem System.Sourced.syncStep {s : System n} (consistent : s.sync.Consistent) (sourced : s.Sourced) :
    s.syncStep.Sourced := by
  obtain ⟨lines, camera, sync, inserters⟩ := s
  intro httpLines realLines pending now row member
  cases sync with
  | start => cases now
  | cameraRead httpLines' => cases now
  | selected httpLines' realLines' => cases member
  | inserting httpLines' realLines' pending' =>
      cases pending' with
      | nil => exact sourced _ _ _ now row member
      | cons line pending' =>
          simp only [System.syncStep, SyncPc.inserting.injEq] at now
          obtain ⟨rfl, rfl, rfl⟩ := now
          -- a row just inserted by request 3 is one of `realLines`
          rcases mem_insertDataLines member with old | ⟨rfl, -⟩
          · exact sourced _ _ _ rfl row old
          · exact .inl (consistent.2 row List.mem_cons_self)

theorem System.Sourced.inserterStep {s : System n} (sourced : s.Sourced) (j : Fin n) : (s.inserterStep j).Sourced := by
  intro httpLines realLines pending now row member
  rw [System.inserterStep_sync] at now
  -- a row already there keeps its source; a new row is `j`'s, inserted after the delete
  have old : row ∈ s.lines → row ∈ realLines ∨ ∃ i, ((s.inserterStep j).inserters i).crossLine = row ∧
      ((s.inserterStep j).inserters i).pc.insertedAt = some (true, .afterDelete) := by
    intro present
    rcases sourced _ _ _ now row present with realLine | ⟨i, owner, recorded⟩
    · exact .inl realLine
    · exact .inr ⟨i, by rw [System.inserterStep_crossLine, owner], s.inserterStep_insertedAt recorded⟩
  revert member old
  unfold System.inserterStep
  dsimp only
  split
  · intro member old
    rcases mem_insertDataLines member with present | ⟨rfl, inserted⟩
    · exact old present
    · refine .inr ⟨j, by simp, ?_⟩
      simp [InsertPc.insertedAt, inserted, now, SyncPc.stage]
  · split
    · intro member old
      exact old member
    · intro member old
      exact old member
  · intro member old
    exact old member

theorem System.Invariant.step {s : System n} (invariant : s.Invariant) (t : Thread n) : (s.step t).Invariant := by
  cases t with
  | sync =>
      refine ⟨invariant.consistent.syncStep, invariant.sourced.syncStep invariant.consistent, fun i => ?_⟩
      rw [System.step, System.syncStep_inserters]
      exact (invariant.tracked i).syncStep
  | inserter j =>
      refine ⟨by rw [System.step, System.inserterStep_sync]; exact invariant.consistent,
        invariant.sourced.inserterStep j, fun i => ?_⟩
      rw [System.step]
      by_cases same : i = j
      · subst same
        exact (invariant.tracked i).inserterStep
      · rw [s.inserterStep_other same, System.inserterStep_sync]
        exact (invariant.tracked i).mono (s.inserterStep_lines_grow j) (s.inserterStep_camera_grow j)

theorem System.Invariant.run {s : System n} (invariant : s.Invariant) (schedule : List (Thread n)) :
    (s.run schedule).Invariant := by
  induction schedule generalizing s with
  | nil => exact invariant
  | cons t schedule ih => exact ih (invariant.step t)

theorem System.invariant_init (lines camera : List CrossLine) (requests : Fin n → CrossLine × String) :
    (System.init lines camera requests).Invariant := by
  refine ⟨trivial, (fun _ _ _ now => by cases now), fun i => ⟨?_, ?_, ?_, ?_⟩⟩
  · intro success insertedAt recorded
    cases recorded
  · intro recorded
    cases recorded
  · intro recorded
    cases recorded
  · intro finished
    cases finished

/-! ## Once every request has completed -/

/-- The states a schedule reaches from a start. -/
def System.Reachable (s : System n) : Prop :=
  ∃ lines camera requests schedule, s = (System.init lines camera requests).run schedule

/-- Once request 3 and every request 2 have completed, under any schedule: a
line that a request 2 inserted after request 3's delete is in the table; a line
that a request 2 inserted and put before request 3 read the camera is in the
table, or a row with its index or name is; and every row of the table has an
index of the list request 3 read, or is the line of a request 2 that inserted it
after the delete. -/
theorem lineSync_completed {s : System n} (reachable : s.Reachable) (completed : s.Completed) :
    (∀ i, (s.inserters i).pc.insertedAt = some (true, .afterDelete) → (s.inserters i).crossLine ∈ s.lines) ∧
      (∀ i, (s.inserters i).pc = .finished true .beforeRead (some .beforeRead) →
        Kept s.lines (s.inserters i).crossLine) ∧
      ∃ httpLines realLines, s.sync = .inserting httpLines realLines [] ∧
        ∀ row ∈ s.lines, (∃ httpLine ∈ httpLines, httpLine.index = row.index) ∨
          ∃ i, (s.inserters i).crossLine = row ∧ (s.inserters i).pc.insertedAt = some (true, .afterDelete) := by
  obtain ⟨lines, camera, requests, schedule, rfl⟩ := reachable
  have invariant := (System.invariant_init lines camera requests).run schedule
  obtain ⟨⟨httpLines, realLines, finished⟩, -⟩ := completed
  have consistent := invariant.consistent
  rw [finished] at consistent
  refine ⟨fun i recorded => (invariant.tracked i).afterDelete recorded, fun i done => ?_, httpLines, realLines,
    finished, fun row member => ?_⟩
  · have carried := (invariant.tracked i).carried done
    rw [finished] at carried
    rcases carried with pending | kept
    · cases pending
    · exact kept
  · rcases invariant.sourced _ _ _ finished row member with realLine | inserted
    · exact .inl (consistent.1 row realLine)
    · exact .inr inserted

/-- One request 2 with the line `name1` for the camera. -/
def sampleLines : System 1 :=
  System.init [] [] fun _ => (⟨1, 10, 10, 20, 20, "name1", "BothDirections"⟩, "CCTV")

/-- The request 2 inserts and puts before request 3 starts. -/
def syncedLines : System 1 :=
  sampleLines.run [.inserter 0, .inserter 0, .sync, .sync, .sync, .sync]

theorem lineSync_completed_sample :
    syncedLines.Reachable ∧ syncedLines.Completed ∧
      ((∀ i, (syncedLines.inserters i).pc.insertedAt = some (true, .afterDelete) →
          (syncedLines.inserters i).crossLine ∈ syncedLines.lines) ∧
        (∀ i, (syncedLines.inserters i).pc = .finished true .beforeRead (some .beforeRead) →
          Kept syncedLines.lines (syncedLines.inserters i).crossLine) ∧
        ∃ httpLines realLines, syncedLines.sync = .inserting httpLines realLines [] ∧
          ∀ row ∈ syncedLines.lines, (∃ httpLine ∈ httpLines, httpLine.index = row.index) ∨
            ∃ i, (syncedLines.inserters i).crossLine = row ∧
              (syncedLines.inserters i).pc.insertedAt = some (true, .afterDelete)) := by
  have reachable : syncedLines.Reachable := ⟨_, _, _, _, rfl⟩
  have completed : syncedLines.Completed := by
    refine ⟨⟨_, _, rfl⟩, fun i => ⟨true, .beforeRead, some .beforeRead, ?_⟩⟩
    obtain rfl : i = 0 := Subsingleton.elim _ _
    rfl
  exact ⟨reachable, completed, lineSync_completed reachable completed⟩

/-- Request 3 reads the camera and selects the table, both empty; then a
request 2 inserts and puts its line; then request 3 deletes. Everyone has
completed, the camera holds the line and the table has lost it. -/
theorem line_insert_lost :
    ∃ s : System 1, s.Reachable ∧ s.Completed ∧ (s.inserters 0).pc = .finished true .beforeDelete (some .beforeDelete) ∧
      (s.inserters 0).crossLine.toCamera ∈ s.camera ∧ (s.inserters 0).crossLine ∉ s.lines := by
  refine ⟨sampleLines.run [.sync, .sync, .inserter 0, .inserter 0, .sync], ⟨_, _, _, _, rfl⟩,
    ⟨⟨_, _, rfl⟩, fun i => ⟨true, .beforeDelete, some .beforeDelete, ?_⟩⟩, rfl, by decide, by decide⟩
  obtain rfl : i = 0 := Subsingleton.elim _ _
  rfl

end RaspiServer.Server
