import RaspiServer.Metadata.Splitter
import RaspiServer.Metadata.Reload
import RaspiServer.Server.Json

/-!
# Vehicle tracking (`update_vehicle_positions`, `metadata/main_control.cpp`)

`metadata_thread` pushes every frame block onto `frame_cache`, dropping the
oldest past `frame_cache_size`, and calls `update_vehicle_positions`. That
function walks the block's `<tt:Object ObjectId="(\d+)">…</tt:Object>`
matches. It reads the id with `stoi`, and for an object of type `Vehicle`
(or `Vehical`) with a `CenterOfGravity` it reads the two coordinates with
`stof`. It appends them to the id's history, dropping the oldest point past
`history_size`. It then erases every tracked id not seen in this block whose
text `<tt:Object ObjectId="` + `to_string(id)` + `"` occurs in no cached
block.

The id is compared as an integer while parsing and as text while pruning. An
object written `ObjectId="007"` is tracked as `7`, and then erased while its
block is still cached. `stoi` and `stof` throw on an id above `INT_MAX`, on
a coordinate without digits, and on one that `strtof` finds out of range;
nothing catches that on the way to `main`, which ends the program.

Each regex is modelled as a match anchored at a position, and `regex_search`
as the leftmost position where it matches. Coordinates are the exact decimal
values `stof` reads and its rounding is not modelled; its range errors are.
-/

set_option autoImplicit false

namespace RaspiServer.Metadata

open RaspiServer.Server (CppException)

/-! ## Matching -/

/-- `regex_search`: the match at the leftmost position where `matchAt` matches. -/
def searchFirst {β : Type} (matchAt : List UInt8 → Option β) : List UInt8 → Option β
  | [] => matchAt []
  | s@(_ :: rest) => (matchAt s).orElse fun _ => searchFirst matchAt rest

def isDigit (b : UInt8) : Bool := 48 ≤ b && b ≤ 57

/-- `[\d.]`. -/
def isNumberChar (b : UInt8) : Bool := isDigit b || b = 46

def objectOpen : List UInt8 := ascii "<tt:Object ObjectId=\""

def objectClose : List UInt8 := ascii "</tt:Object>"

/-- `<tt:Object ObjectId="(\d+)">([\s\S]*?)</tt:Object>` at the start of `s`:
the id's digits, the content up to the first closing tag, and what follows. -/
def objectAt (s : List UInt8) : Option (List UInt8 × List UInt8 × List UInt8) :=
  if objectOpen.isPrefixOf s then
    let afterOpen := s.drop objectOpen.length
    let digits := afterOpen.takeWhile isDigit
    let afterDigits := afterOpen.drop digits.length
    if !digits.isEmpty && (ascii "\">").isPrefixOf afterDigits then
      let body := afterDigits.drop 2
      (Delimited.find? objectClose body).map fun k => (digits, body.take k, body.drop (k + objectClose.length))
    else none
  else none

theorem objectAt_rest_lt {s digits content rest : List UInt8} (found : objectAt s = some (digits, content, rest)) :
    rest.length < s.length := by
  unfold objectAt at found
  split at found
  case isTrue opens =>
    have opening : objectOpen.length ≤ s.length := (List.isPrefixOf_iff_prefix.mp opens).length_le
    dsimp only at found
    split at found
    case isTrue =>
      obtain ⟨k, -, found⟩ := Option.map_eq_some_iff.mp found
      cases found
      simp only [List.length_drop]
      have : 0 < objectOpen.length := by decide
      omega
    case isFalse => cases found
  case isFalse => cases found

theorem searchFirst_objectAt_lt {s digits content rest : List UInt8}
    (found : searchFirst objectAt s = some (digits, content, rest)) : rest.length < s.length := by
  induction s with
  | nil =>
      simp only [searchFirst] at found
      exact absurd (objectAt_rest_lt found) (Nat.not_lt_zero _)
  | cons b s ih =>
      simp only [searchFirst] at found
      cases here : objectAt (b :: s) with
      | some m =>
          rw [here, Option.orElse_some] at found
          cases found
          exact objectAt_rest_lt here
      | none =>
          rw [here, Option.orElse_none] at found
          have := ih found
          simp only [List.length_cons]
          omega

/-- The successive matches of `sregex_iterator` over the object regex. -/
def objectBlocks (s : List UInt8) : List (List UInt8 × List UInt8) :=
  match _found : searchFirst objectAt s with
  | some (digits, content, rest) => (digits, content) :: objectBlocks rest
  | none => []
termination_by s.length
decreasing_by exact searchFirst_objectAt_lt _found

/-- `<tt:Type[^>]*>([^<]*)</tt:Type>` at the start of `s`. -/
def typeAt (s : List UInt8) : Option (List UInt8) :=
  if (ascii "<tt:Type").isPrefixOf s then
    let afterName := s.drop (ascii "<tt:Type").length
    let afterAttributes := afterName.drop (afterName.takeWhile (· ≠ 62)).length
    if afterAttributes.head? = some 62 then
      let value := (afterAttributes.drop 1).takeWhile (· ≠ 60)
      if (ascii "</tt:Type>").isPrefixOf ((afterAttributes.drop 1).drop value.length) then some value else none
    else none
  else none

/-- `x="([\d.]+)" y="([\d.]+)"` at the start of `s`. -/
def coordinatesAt (s : List UInt8) : Option (List UInt8 × List UInt8) :=
  if (ascii "x=\"").isPrefixOf s then
    let afterX := s.drop 3
    let xs := afterX.takeWhile isNumberChar
    let afterXs := afterX.drop xs.length
    if !xs.isEmpty && (ascii "\" y=\"").isPrefixOf afterXs then
      let afterY := afterXs.drop 5
      let ys := afterY.takeWhile isNumberChar
      if !ys.isEmpty && (afterY.drop ys.length).head? = some 34 then some (xs, ys) else none
    else none
  else none

/-- `<tt:CenterOfGravity[^>]*x="([\d.]+)" y="([\d.]+)"` at the start of `s`;
the greedy `[^>]*` takes the last start inside the tag at which the rest matches. -/
def cogAt (s : List UInt8) : Option (List UInt8 × List UInt8) :=
  if (ascii "<tt:CenterOfGravity").isPrefixOf s then
    let afterName := s.drop (ascii "<tt:CenterOfGravity").length
    (List.range ((afterName.takeWhile (· ≠ 62)).length + 1)).reverse.findSome? fun q =>
      coordinatesAt (afterName.drop q)
  else none

/-! ## Conversions -/

def decimalValue (digits : List UInt8) : Nat := digits.foldl (fun n b => n * 10 + (b.toNat - 48)) 0

/-- `stoi` on the digits of `\d+`. -/
def stoi (digits : List UInt8) : Except CppException Int :=
  if decimalValue digits > 2147483647 then .error .outOfRange else .ok (decimalValue digits)

/-- `stof` on the text of `[\d.]+`: the longest prefix `digits [. digits]`
with a digit, as an exact decimal. Where `strtof` sets `ERANGE` it is
`out_of_range`: past the float range, and on underflow, a nonzero value below
`FLT_MIN = 2 ^ -126` that no float holds exactly (tininess is detected before
rounding). -/
def stof (text : List UInt8) : Except CppException ℚ :=
  let whole := text.takeWhile isDigit
  let afterWhole := text.drop whole.length
  let fraction := if afterWhole.head? = some 46 then (afterWhole.drop 1).takeWhile isDigit else []
  let value : ℚ := decimalValue whole + (decimalValue fraction : ℚ) / ((10 ^ fraction.length : ℕ) : ℚ)
  if whole.isEmpty ∧ fraction.isEmpty then .error .invalidArgument
  -- halfway between `FLT_MAX` and `2 ^ 128`, where rounding reaches infinity
  else if value ≥ ((2 ^ 128 - 2 ^ 103 : ℕ) : ℚ) then .error .outOfRange
  -- the floats below `FLT_MIN` are the multiples of the least subnormal `2 ^ -149`
  else if value ≠ 0 ∧ value * 2 ^ 126 < 1 ∧ (value * 2 ^ 149).den ≠ 1 then .error .outOfRange
  else .ok value

/-- `1e-46`, below the least subnormal: `strtof` underflows to zero and sets `ERANGE`. -/
example : stof (ascii ("0." ++ String.ofList (List.replicate 45 '0') ++ "1")) = .error .outOfRange := by
  decide +kernel

/-- `to_string` of an `int`. -/
def toDecimal (id : Int) : List UInt8 := ascii (toString id)

/-! ## `update_vehicle_positions` -/

/-- `push_back`, then `pop_front` once the size passes `bound`. -/
def boundedPush {α : Type} (bound : Nat) (xs : List α) (x : α) : List α :=
  if (xs ++ [x]).length > bound then (xs ++ [x]).drop 1 else xs ++ [x]

def isVehicle (type : List UInt8) : Bool := type = ascii "Vehicle" || type = ascii "Vehical"

/-- Steps [1] to [3] for one object: its id, and its centre of gravity if it is
a vehicle that has one. -/
def vehicleObservation (object : List UInt8 × List UInt8) : Except CppException (Option (Int × Point ℚ)) := do
  let id ← stoi object.1
  match searchFirst typeAt object.2 with
  | none => pure none
  | some type =>
      if isVehicle type then
        match searchFirst cogAt object.2 with
        | none => pure none
        | some (xs, ys) => pure (some (id, ⟨← stof xs, ← stof ys⟩))
      else pure none

abbrev Histories := Int → Option (List (Point ℚ))

/-- The push onto `vehicle_trajectory_history[id]`, which creates an empty
history for a new id. -/
def pushVehicle (historySize : Nat) (histories : Histories) (observation : Int × Point ℚ) : Histories :=
  Function.update histories observation.1
    (some (boundedPush historySize ((histories observation.1).getD []) observation.2))

/-- `seen_vehicles[id] = true` and the push. -/
def recordObservation (historySize : Nat) (acc : List Int × Histories) : Option (Int × Point ℚ) → List Int × Histories
  | none => acc
  | some observation => (acc.1 ++ [observation.1], pushVehicle historySize acc.2 observation)

def trackObject (historySize : Nat) (acc : List Int × Histories) (object : List UInt8 × List UInt8) :
    Except CppException (List Int × Histories) :=
  recordObservation historySize acc <$> vehicleObservation object

def objectIdText (id : Int) : List UInt8 := objectOpen ++ toDecimal id ++ ascii "\""

/-- `cached_frame.find("<tt:Object ObjectId=\"" + to_string(id) + "\"") != npos` for some cached block. -/
def foundInCache (frameCache : List (List UInt8)) (id : Int) : Bool :=
  frameCache.any fun cached => (Delimited.find? (objectIdText id) cached).isSome

/-- Step [4], id by id: erasing one entry of the map does not change the others'. -/
def prune (frameCache : List (List UInt8)) (seen : List Int) (histories : Histories) : Histories :=
  fun id => if id ∉ seen ∧ foundInCache frameCache id = false then none else histories id

def updateVehiclePositions (historySize : Nat) (frameBlock : List UInt8) (frameCache : List (List UInt8))
    (histories : Histories) : Except CppException Histories := do
  let (seen, histories) ← (objectBlocks frameBlock).foldlM (trackObject historySize) ([], histories)
  pure (prune frameCache seen histories)

/-! ## `metadata_thread` -/

def containsFrameBlock (block : List UInt8) : Bool :=
  (Delimited.find? (ascii "<tt:VideoAnalytics>") block).isSome && (Delimited.find? (ascii "<tt:Frame") block).isSome

structure Tracker where
  frameCache : List (List UInt8)
  histories : Histories

def Tracker.init : Tracker := ⟨[], fun _ => none⟩

/-- The frame part of `metadata_thread`'s handling of one block. -/
def processBlock (frameCacheSize historySize : Nat) (t : Tracker) (block : List UInt8) : Except CppException Tracker :=
  if containsFrameBlock block then do
    let frameCache := boundedPush frameCacheSize t.frameCache block
    let histories ← updateVehiclePositions historySize block frameCache t.histories
    pure ⟨frameCache, histories⟩
  else pure t

def trackBlocks (frameCacheSize historySize : Nat) (blocks : List (List UInt8)) : Except CppException Tracker :=
  blocks.foldlM (processBlock frameCacheSize historySize) Tracker.init

/-! ## An id written with a leading zero -/

/-- A frame with one vehicle, `ObjectId="007"`. -/
def frameWith007 : List UInt8 :=
  ascii ("<tt:VideoAnalytics><tt:Frame UtcTime=\"t1\"><tt:Object ObjectId=\"007\"><tt:Appearance>" ++
    "<tt:Shape><tt:CenterOfGravity x=\"1.5\" y=\"2\"/></tt:Shape>" ++
    "<tt:Class><tt:Type Likelihood=\"0.9\">Vehicle</tt:Type></tt:Class></tt:Appearance></tt:Object></tt:Frame></tt:VideoAnalytics>")

/-- The next frame, with no object. -/
def emptyFrame : List UInt8 := ascii "<tt:VideoAnalytics><tt:Frame UtcTime=\"t2\"></tt:Frame></tt:VideoAnalytics>"

/-- With `frame_cache_size = 2` and `history_size = 5`: after the first frame
vehicle `7` is tracked at `(1.5, 2)`. After the second it is erased, although
the first frame is still cached and holds an object whose `ObjectId` is `7`. -/
theorem leading_zero_id_erased :
    (trackBlocks 2 5 [frameWith007]).toOption.map (·.histories 7) = some (some [⟨3 / 2, 2⟩]) ∧
      (trackBlocks 2 5 [frameWith007, emptyFrame]).toOption.map (·.histories 7) = some none ∧
      (trackBlocks 2 5 [frameWith007, emptyFrame]).toOption.map (·.frameCache) = some [frameWith007, emptyFrame] ∧
      (objectBlocks frameWith007).map (decimalValue ·.1) = [7] := by
  decide +kernel

/-! ## The bounded pushes -/

theorem boundedPush_drop {α : Type} (bound : Nat) (log : List α) (x : α) :
    boundedPush bound (log.drop (log.length - bound)) x = (log ++ [x]).drop ((log ++ [x]).length - bound) := by
  unfold boundedPush
  by_cases fits : log.length < bound
  case pos =>
    rw [show log.length - bound = 0 by omega, List.drop_zero, if_neg (by simp; omega),
      show (log ++ [x]).length - bound = 0 by simp; omega, List.drop_zero]
  case neg =>
    have full : (log.drop (log.length - bound) ++ [x]).length = bound + 1 := by simp; omega
    rw [if_pos (by omega), ← List.drop_append_of_le_length (by simp), List.drop_drop]
    congr 1
    simp
    omega

theorem boundedPush_bounded {α : Type} {bound : Nat} (one : 1 ≤ bound) {xs : List α} (short : xs.length ≤ bound)
    (x : α) : 1 ≤ (boundedPush bound xs x).length ∧ (boundedPush bound xs x).length ≤ bound := by
  have grown : (xs ++ [x]).length = xs.length + 1 := by simp
  unfold boundedPush
  split <;> simp only [List.length_drop, grown] <;> omega

theorem boundedPush_getLast? {α : Type} {bound : Nat} (one : 1 ≤ bound) (xs : List α) (x : α) :
    (boundedPush bound xs x).getLast? = some x := by
  unfold boundedPush
  split
  case isTrue past =>
    -- past a bound of one or more, `xs` was not empty, and the front it loses is not `x`
    cases xs with
    | nil => simp at past; omega
    | cons y ys => simp
  case isFalse => simp

/-! ## Histories -/

/-- Every tracked id has between one and `historySize` points. -/
def Bounded (historySize : Nat) (histories : Histories) : Prop :=
  ∀ id points, histories id = some points → 1 ≤ points.length ∧ points.length ≤ historySize

theorem foldl_pushVehicle_absent (historySize : Nat) (observations : List (Int × Point ℚ)) (histories : Histories)
    {id : Int} (absent : ∀ observation ∈ observations, observation.1 ≠ id) :
    observations.foldl (pushVehicle historySize) histories id = histories id := by
  induction observations generalizing histories with
  | nil => rfl
  | cons observation observations ih =>
      rw [List.foldl_cons, ih _ fun later member => absent later (List.mem_cons_of_mem _ member), pushVehicle,
        Function.update_of_ne (absent observation List.mem_cons_self).symm]

theorem foldl_pushVehicle_present {historySize : Nat} (one : 1 ≤ historySize) (observations : List (Int × Point ℚ))
    (histories : Histories) {id : Int} (present : ∃ observation ∈ observations, observation.1 = id) :
    ∃ points, observations.foldl (pushVehicle historySize) histories id = some points ∧
      points.getLast? = ((observations.filter (·.1 = id)).getLast?).map Prod.snd := by
  induction observations using List.reverseRecOn with
  | nil => simp at present
  | append_singleton observations last ih =>
      rw [List.foldl_append, List.foldl_cons, List.foldl_nil, List.filter_append]
      by_cases same : last.1 = id
      · subst same
        refine ⟨_, by rw [pushVehicle, Function.update_self], ?_⟩
        rw [boundedPush_getLast? one]
        simp
      · obtain ⟨earlier, member, named⟩ := present
        have before : earlier ∈ observations := by
          rcases List.mem_append.mp member with inside | isLast
          · exact inside
          · exact absurd (List.mem_singleton.mp isLast ▸ named) same
        obtain ⟨points, found, lastPoint⟩ := ih ⟨earlier, before, named⟩
        refine ⟨points, by rw [pushVehicle, Function.update_of_ne (Ne.symm same), found], ?_⟩
        simp [same, lastPoint]

/-- The pushes never erase: an id tracked before, or observed, is tracked after. -/
theorem foldl_pushVehicle_ne_none {historySize : Nat} (one : 1 ≤ historySize) (observations : List (Int × Point ℚ))
    (histories : Histories) {id : Int}
    (tracked : histories id ≠ none ∨ ∃ observation ∈ observations, observation.1 = id) :
    observations.foldl (pushVehicle historySize) histories id ≠ none := by
  by_cases present : ∃ observation ∈ observations, observation.1 = id
  · obtain ⟨points, pushed, -⟩ := foldl_pushVehicle_present one observations histories present
    rw [pushed]
    simp
  · rw [foldl_pushVehicle_absent _ _ _ fun observation member named => present ⟨observation, member, named⟩]
    exact tracked.resolve_right present

theorem foldl_pushVehicle_bounded {historySize : Nat} (one : 1 ≤ historySize) (observations : List (Int × Point ℚ))
    {histories : Histories} (bounded : Bounded historySize histories) :
    Bounded historySize (observations.foldl (pushVehicle historySize) histories) := by
  induction observations generalizing histories with
  | nil => exact bounded
  | cons observation observations ih =>
      apply ih
      intro id points found
      rw [pushVehicle, Function.update_apply] at found
      split at found
      case isTrue =>
        cases found
        have short : ((histories observation.1).getD []).length ≤ historySize := by
          cases tracked : histories observation.1 with
          | none => simp
          | some before => simpa using (bounded _ _ tracked).2
        exact boundedPush_bounded one short _
      case isFalse => exact bounded id points found

/-! ## One frame block -/

/-- The vehicles of a frame block with a centre of gravity, in order. -/
def frameObservations (block : List UInt8) : Except CppException (List (Int × Point ℚ)) :=
  (fun observations => observations.filterMap id) <$> (objectBlocks block).mapM vehicleObservation

theorem foldlM_trackObject (historySize : Nat) (objects : List (List UInt8 × List UInt8)) (seen : List Int)
    (histories : Histories) :
    objects.foldlM (trackObject historySize) (seen, histories) =
      (fun observations => (seen ++ (observations.filterMap id).map Prod.fst,
        (observations.filterMap id).foldl (pushVehicle historySize) histories)) <$>
        objects.mapM vehicleObservation := by
  induction objects generalizing seen histories with
  | nil => simp [Functor.map, Except.map, pure, Except.pure]
  | cons object objects ih =>
      simp only [List.foldlM_cons, List.mapM_cons, trackObject]
      cases vehicleObservation object with
      | error e => rfl
      | ok observation =>
          cases observation with
          | none =>
              simp only [recordObservation, Functor.map, Except.map, bind, Except.bind, pure, Except.pure] at ih ⊢
              rw [ih]
              cases objects.mapM vehicleObservation <;> simp
          | some observation =>
              simp only [recordObservation, Functor.map, Except.map, bind, Except.bind, pure, Except.pure] at ih ⊢
              rw [ih]
              cases objects.mapM vehicleObservation <;> simp

theorem processBlock_frame (frameCacheSize historySize : Nat) (t : Tracker) {block : List UInt8}
    (frame : containsFrameBlock block = true) :
    processBlock frameCacheSize historySize t block =
      (fun observations => (⟨boundedPush frameCacheSize t.frameCache block,
        prune (boundedPush frameCacheSize t.frameCache block) (observations.map Prod.fst)
          (observations.foldl (pushVehicle historySize) t.histories)⟩ : Tracker)) <$> frameObservations block := by
  simp only [processBlock, frame, if_true, updateVehiclePositions, foldlM_trackObject, frameObservations,
    List.nil_append]
  cases (objectBlocks block).mapM vehicleObservation <;> rfl

theorem processBlock_other (frameCacheSize historySize : Nat) (t : Tracker) {block : List UInt8}
    (other : containsFrameBlock block = false) : processBlock frameCacheSize historySize t block = .ok t := by
  simp only [processBlock, other, Bool.false_eq_true, if_false]
  rfl

theorem trackBlocks_append (frameCacheSize historySize : Nat) (blocks : List (List UInt8)) (block : List UInt8) :
    trackBlocks frameCacheSize historySize (blocks ++ [block]) =
      trackBlocks frameCacheSize historySize blocks >>= fun t => processBlock frameCacheSize historySize t block := by
  simp [trackBlocks, List.foldlM_append]

/-! ## What a run keeps -/

/-- The point of `id` in the latest frame that observed it: its last observation there. -/
def latestCog (perFrame : List (List (Int × Point ℚ))) (id : Int) : Option (Point ℚ) :=
  perFrame.reverse.findSome? fun observations => ((observations.filter (·.1 = id)).getLast?).map Prod.snd

/-- The state after the frame blocks `frames`, whose observations are
`perFrame`: the cache is the last `frameCacheSize` frames in order; every
tracked id has between one and `historySize` points, the last from the latest
frame that observed it; and every vehicle of the latest frame is tracked. -/
def Tracker.Consistent (frameCacheSize historySize : Nat) (frames : List (List UInt8))
    (perFrame : List (List (Int × Point ℚ))) (t : Tracker) : Prop :=
  t.frameCache = frames.drop (frames.length - frameCacheSize) ∧
    (∀ id points, t.histories id = some points →
      1 ≤ points.length ∧ points.length ≤ historySize ∧ points.getLast? = latestCog perFrame id) ∧
    ∀ latest ∈ perFrame.getLast?, ∀ observation ∈ latest, t.histories observation.1 ≠ none

section Run

variable {frameCacheSize historySize : Nat}

theorem Tracker.init_consistent : Tracker.init.Consistent frameCacheSize historySize [] [] :=
  ⟨by simp [Tracker.init], fun _ _ absent => absurd absent (by simp [Tracker.init]), by simp⟩

theorem Tracker.Consistent.frame (one : 1 ≤ historySize) {frames : List (List UInt8)}
    {perFrame : List (List (Int × Point ℚ))} {t t' : Tracker} {block : List UInt8}
    {observations : List (Int × Point ℚ)} (consistent : t.Consistent frameCacheSize historySize frames perFrame)
    (frame : containsFrameBlock block = true) (observed : frameObservations block = .ok observations)
    (processed : processBlock frameCacheSize historySize t block = .ok t') :
    t'.Consistent frameCacheSize historySize (frames ++ [block]) (perFrame ++ [observations]) := by
  rw [processBlock_frame _ _ _ frame, observed] at processed
  cases processed
  obtain ⟨cached, tracked, -⟩ := consistent
  have bounded : Bounded historySize t.histories := fun id points found => ⟨(tracked id points found).1,
    (tracked id points found).2.1⟩
  refine ⟨by rw [cached, boundedPush_drop], fun id points found => ?histories,
    fun latest isLast observation member => ?latestTracked⟩
  case histories =>
    -- an id that survives the pruning keeps the value the pushes gave it
    simp only [prune] at found
    split at found
    · cases found
    have sizes := foldl_pushVehicle_bounded one observations bounded id points found
    refine ⟨sizes.1, sizes.2, ?_⟩
    rw [latestCog, findSome?_append_singleton, ← latestCog]
    by_cases present : ∃ observation ∈ observations, observation.1 = id
    · obtain ⟨points', pushed, lastPoint⟩ := foldl_pushVehicle_present one observations t.histories present
      rw [pushed] at found
      cases found
      obtain ⟨observation, member, named⟩ := present
      obtain ⟨final, isFinal⟩ : ∃ final, (observations.filter (·.1 = id)).getLast? = some final :=
        Option.isSome_iff_exists.mp (List.getLast?_isSome.mpr (List.ne_nil_of_mem (by simpa using ⟨member, named⟩)))
      rw [lastPoint, isFinal]
      rfl
    · simp only [not_exists, not_and] at present
      rw [foldl_pushVehicle_absent _ _ _ present] at found
      have none : observations.filter (·.1 = id) = [] := List.filter_eq_nil_iff.mpr (by simpa using present)
      rw [none]
      exact (tracked id points found).2.2
  case latestTracked =>
    rw [List.getLast?_append, List.getLast?_singleton, Option.some_or] at isLast
    cases isLast
    simp only [prune]
    rw [if_neg fun erased => erased.1 (List.mem_map.mpr ⟨observation, member, rfl⟩)]
    exact foldl_pushVehicle_ne_none one observations t.histories (.inr ⟨observation, member, rfl⟩)

/-- A run one block longer succeeded: so did the run before it, and the block. -/
theorem trackBlocks_append_ok {blocks : List (List UInt8)} {block : List UInt8} {t : Tracker}
    (ran : trackBlocks frameCacheSize historySize (blocks ++ [block]) = .ok t) :
    ∃ t₀, trackBlocks frameCacheSize historySize blocks = .ok t₀ ∧
      processBlock frameCacheSize historySize t₀ block = .ok t := by
  rw [trackBlocks_append] at ran
  cases before : trackBlocks frameCacheSize historySize blocks with
  | error e => rw [before] at ran; cases ran
  | ok t₀ =>
      rw [before] at ran
      exact ⟨t₀, rfl, ran⟩

/-- A run one block longer failed: the run before it failed with the same
exception, or it succeeded and the block failed. -/
theorem trackBlocks_append_error {blocks : List (List UInt8)} {block : List UInt8} {e : CppException}
    (failed : trackBlocks frameCacheSize historySize (blocks ++ [block]) = .error e) :
    trackBlocks frameCacheSize historySize blocks = .error e ∨
      ∃ t₀, trackBlocks frameCacheSize historySize blocks = .ok t₀ ∧
        processBlock frameCacheSize historySize t₀ block = .error e := by
  rw [trackBlocks_append] at failed
  cases before : trackBlocks frameCacheSize historySize blocks with
  | error e' =>
      rw [before] at failed
      cases failed
      exact .inl rfl
  | ok t₀ =>
      rw [before] at failed
      exact .inr ⟨t₀, rfl, failed⟩

/-- A block fails only as a frame block whose objects make `stoi` or `stof` throw. -/
theorem processBlock_error {t : Tracker} {block : List UInt8} {e : CppException}
    (failed : processBlock frameCacheSize historySize t block = .error e) :
    containsFrameBlock block = true ∧ frameObservations block = .error e := by
  cases frame : containsFrameBlock block with
  | false =>
      rw [processBlock_other _ _ _ frame] at failed
      cases failed
  | true =>
      rw [processBlock_frame _ _ _ frame] at failed
      cases observed : frameObservations block with
      | error e' =>
          rw [observed] at failed
          cases failed
          exact ⟨rfl, rfl⟩
      | ok observations => rw [observed] at failed; cases failed

theorem trackBlocks_ok (one : 1 ≤ historySize) {blocks : List (List UInt8)} {t : Tracker}
    (ran : trackBlocks frameCacheSize historySize blocks = .ok t) :
    ∃ perFrame, (blocks.filter containsFrameBlock).mapM frameObservations = .ok perFrame ∧
      t.Consistent frameCacheSize historySize (blocks.filter containsFrameBlock) perFrame := by
  induction blocks using List.reverseRecOn generalizing t with
  | nil =>
      cases ran
      exact ⟨[], rfl, Tracker.init_consistent⟩
  | append_singleton blocks block ih =>
      obtain ⟨t₀, before, processed⟩ := trackBlocks_append_ok ran
      obtain ⟨perFrame, observedAll, consistent⟩ := ih before
      rw [List.filter_append]
      by_cases frame : containsFrameBlock block = true
      · cases observed : frameObservations block with
        | error e =>
            rw [processBlock_frame _ _ _ frame, observed] at processed
            cases processed
        | ok observations =>
            refine ⟨perFrame ++ [observations], ?_, ?_⟩
            · simp [List.mapM_append, observedAll, frame, observed, bind, Except.bind, pure, Except.pure]
            · simpa [frame] using consistent.frame one frame observed processed
      · rw [Bool.not_eq_true] at frame
        rw [processBlock_other _ _ _ frame] at processed
        cases processed
        exact ⟨perFrame, by simpa [frame] using observedAll, by simpa [frame] using consistent⟩

/-- A run fails only at a frame block whose objects make `stoi` or `stof`
throw, the first block at which the run fails: the run up to it succeeded. -/
theorem trackBlocks_error {blocks : List (List UInt8)} {e : CppException}
    (failed : trackBlocks frameCacheSize historySize blocks = .error e) :
    ∃ pre block post, blocks = pre ++ block :: post ∧ (∃ t, trackBlocks frameCacheSize historySize pre = .ok t) ∧
      containsFrameBlock block = true ∧ frameObservations block = .error e := by
  induction blocks using List.reverseRecOn with
  | nil => cases failed
  | append_singleton blocks block ih =>
      rcases trackBlocks_append_error failed with stoppedBefore | ⟨t, ran, processed⟩
      · obtain ⟨pre, first, post, split, ran, frame, observed⟩ := ih stoppedBefore
        exact ⟨pre, first, post ++ [block], by rw [split, List.append_assoc, List.cons_append], ran, frame, observed⟩
      · obtain ⟨frame, observed⟩ := processBlock_error processed
        exact ⟨blocks, block, [], rfl, ⟨t, ran⟩, frame, observed⟩

/-- At a frame block, a tracked id is erased exactly when it is not among the
block's vehicles and the text of `to_string(id)` is in no cached block. -/
theorem processBlock_erased (one : 1 ≤ historySize) {t t' : Tracker} {block : List UInt8}
    {observations : List (Int × Point ℚ)} (frame : containsFrameBlock block = true)
    (observed : frameObservations block = .ok observations)
    (processed : processBlock frameCacheSize historySize t block = .ok t') {id : Int} (tracked : t.histories id ≠ none) :
    t'.histories id = none ↔
      id ∉ observations.map Prod.fst ∧ ∀ cached ∈ t'.frameCache, Delimited.find? (objectIdText id) cached = none := by
  rw [processBlock_frame _ _ _ frame, observed] at processed
  cases processed
  have kept := foldl_pushVehicle_ne_none one observations t.histories (.inl tracked)
  simp only [prune, foundInCache, List.any_eq_false, Option.isSome_iff_ne_none, ne_eq, not_not]
  split
  case isTrue erased => exact ⟨fun _ => erased, fun _ => rfl⟩
  case isFalse survives => exact ⟨fun gone => absurd gone kept, fun erased => absurd erased survives⟩

end Run

/-- What a run of `metadata_thread` ends with: `Tracker.Consistent` after its
frame blocks, or the exception of the first frame block whose `stoi` or `stof`
throws, the blocks before it having been processed. -/
def RunOutcome (frameCacheSize historySize : Nat) (blocks : List (List UInt8)) : Except CppException Tracker → Prop
  | .ok t => ∃ perFrame, (blocks.filter containsFrameBlock).mapM frameObservations = .ok perFrame ∧
      t.Consistent frameCacheSize historySize (blocks.filter containsFrameBlock) perFrame
  | .error e => ∃ pre block post, blocks = pre ++ block :: post ∧
      (∃ t, trackBlocks frameCacheSize historySize pre = .ok t) ∧
      containsFrameBlock block = true ∧ frameObservations block = .error e

/-- Every run over metadata blocks, with `history_size` at least one, ends as
`RunOutcome` says. At every frame block a tracked id is erased exactly when it
is not among the block's vehicles and no cached block contains the text
`<tt:Object ObjectId="` + `to_string(id)` + `"`. -/
theorem trackBlocks_invariant (frameCacheSize historySize : Nat) (one : 1 ≤ historySize) :
    (∀ blocks, RunOutcome frameCacheSize historySize blocks (trackBlocks frameCacheSize historySize blocks)) ∧
    ∀ (t t' : Tracker) (block : List UInt8) (observations : List (Int × Point ℚ)),
      containsFrameBlock block = true → frameObservations block = .ok observations →
      processBlock frameCacheSize historySize t block = .ok t' → ∀ id, t.histories id ≠ none →
        (t'.histories id = none ↔
          id ∉ observations.map Prod.fst ∧ ∀ cached ∈ t'.frameCache, Delimited.find? (objectIdText id) cached = none) := by
  refine ⟨fun blocks => ?_, fun t t' block observations frame observed processed id tracked =>
    processBlock_erased one frame observed processed tracked⟩
  cases ran : trackBlocks frameCacheSize historySize blocks with
  | ok t => exact trackBlocks_ok one ran
  | error e => exact trackBlocks_error ran

/-- The run over the frame with vehicle `007` and the empty frame after it:
the erasure rule at the second block, for the id `7` tracked after the first. -/
theorem trackBlocks_invariant_sample :
    1 ≤ 5 ∧ RunOutcome 2 5 [frameWith007, emptyFrame] (trackBlocks 2 5 [frameWith007, emptyFrame]) ∧
      ∃ t t' : Tracker, trackBlocks 2 5 [frameWith007] = .ok t ∧ processBlock 2 5 t emptyFrame = .ok t' ∧
        containsFrameBlock emptyFrame = true ∧ frameObservations emptyFrame = .ok [] ∧ t.histories 7 ≠ none ∧
        (t'.histories 7 = none ↔ 7 ∉ ([] : List (Int × Point ℚ)).map Prod.fst ∧
          ∀ cached ∈ t'.frameCache, Delimited.find? (objectIdText 7) cached = none) := by
  obtain ⟨runs, erasure⟩ := trackBlocks_invariant 2 5 (by decide)
  have first : (trackBlocks 2 5 [frameWith007]).toOption.map (·.histories 7) = some (some [⟨3 / 2, 2⟩]) := by
    decide +kernel
  obtain ⟨t, ran, tracked⟩ : ∃ t, trackBlocks 2 5 [frameWith007] = .ok t ∧ t.histories 7 ≠ none := by
    cases ran : trackBlocks 2 5 [frameWith007] with
    | error e => rw [ran] at first; cases first
    | ok t =>
        rw [ran] at first
        simp only [Except.toOption, Option.map_some, Option.some.injEq] at first
        exact ⟨t, rfl, by simp [first]⟩
  have frame : containsFrameBlock emptyFrame = true := by decide +kernel
  have observed : frameObservations emptyFrame = .ok [] := by decide +kernel
  have processed : processBlock 2 5 t emptyFrame = .ok ⟨boundedPush 2 t.frameCache emptyFrame,
      prune (boundedPush 2 t.frameCache emptyFrame) [] t.histories⟩ := by
    rw [processBlock_frame _ _ _ frame, observed]
    rfl
  -- the run's outcome over a variable list: unifying it at the literal one would run the blocks
  generalize [frameWith007, emptyFrame] = blocks
  exact ⟨by decide, runs blocks, t, _, ran, processed, frame, observed, tracked,
    erasure t _ emptyFrame [] frame observed processed 7 tracked⟩

end RaspiServer.Metadata
