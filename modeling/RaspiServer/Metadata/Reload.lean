import Mathlib

/-!
# The configuration and its reload (`metadata/main_control.cpp`)

The control program keeps three globals built from the database:
`base_line_pairs`, `dot_center` and `rule_lines`. `main` loads them once, and
`metadata_thread` reloads them every thirty seconds, `load_dots_and_center`
first, then `load_rule_lines`. The two loaders reset differently.
`load_dots_and_center` clears `base_line_pairs` and reads the `baseLines`
rows, but it assigns `dot_center` only when a row was read.
`load_rule_lines` reads the first eight rows of `lines` and assigns
`rule_lines[name]` for each. It never erases a key, so a line deleted from
the table stays in effect.

Coordinates are elements of an ordered field, the scale factors
`g_config.scale_x / g_config.base_x` and `g_config.scale_y / g_config.base_y`
are parameters, and each loader is modelled with the rows its query returned.
-/

set_option autoImplicit false

namespace RaspiServer.Metadata

structure Point (R : Type) where
  x : R
  y : R
  deriving DecidableEq, Repr

structure Line (R : Type) where
  start : Point R
  «end» : Point R
  mode : String
  name : String
  deriving DecidableEq, Repr

/-- An element of `base_line_pairs`, a `tuple<int, Point, int, Point>`. -/
structure BasePair (R : Type) where
  id1 : Int
  p1 : Point R
  id2 : Int
  p2 : Point R
  deriving DecidableEq, Repr

structure Config (R : Type) where
  basePairs : List (BasePair R)
  dotCenter : Point R
  ruleLines : String → Option (Line R)

/-- A row of `SELECT matrixNum1, x1, y1, matrixNum2, x2, y2 FROM baseLines`. -/
structure BaseLineRow where
  matrixNum1 : Int
  x1 : Int
  y1 : Int
  matrixNum2 : Int
  x2 : Int
  y2 : Int

/-- A row of `SELECT x1, y1, x2, y2, name, mode FROM lines`. -/
structure LineRow where
  x1 : Int
  y1 : Int
  x2 : Int
  y2 : Int
  name : String
  mode : String

/-- What one reload reads: the two tables, rows in the order the queries return them. -/
structure Tables where
  baseLines : List BaseLineRow
  lines : List LineRow

variable {R : Type} [Field R] [LinearOrder R]

/-! ## The loaders -/

/-- `calculate_intersection`; `none` is `return false`, for `|det| < 1e-5`. -/
def calculateIntersection (a1 a2 b1 b2 : Point R) : Option (Point R) :=
  let A1 := a2.y - a1.y
  let B1 := a1.x - a2.x
  let C1 := A1 * a1.x + B1 * a1.y
  let A2 := b2.y - b1.y
  let B2 := b1.x - b2.x
  let C2 := A2 * b1.x + B2 * b1.y
  let det := A1 * B2 - A2 * B1
  if |det| < 1 / 100000 then none else some ⟨(B2 * C1 - B1 * C2) / det, (A1 * C2 - A2 * C1) / det⟩

def midpoint (pair : BasePair R) : Point R := ⟨(pair.p1.x + pair.p2.x) / 2, (pair.p1.y + pair.p2.y) / 2⟩

/-- The value `load_dots_and_center` assigns to `dot_center`; `none` when it
assigns nothing. -/
def freshCenter : List (BasePair R) → Option (Point R)
  | [] => none
  | [pair] => some (midpoint pair)
  | first :: second :: _ => some ((calculateIntersection first.p1 first.p2 second.p1 second.p2).getD (midpoint first))

def scaleBaseLine (scaleX scaleY : R) (row : BaseLineRow) : BasePair R :=
  ⟨row.matrixNum1, ⟨row.x1 * scaleX, row.y1 * scaleY⟩, row.matrixNum2, ⟨row.x2 * scaleX, row.y2 * scaleY⟩⟩

def scaleLine (scaleX scaleY : R) (row : LineRow) : Line R :=
  ⟨⟨row.x1 * scaleX, row.y1 * scaleY⟩, ⟨row.x2 * scaleX, row.y2 * scaleY⟩, row.mode, row.name⟩

def loadDotsAndCenter (scaleX scaleY : R) (c : Config R) (rows : List BaseLineRow) : Config R :=
  let pairs := rows.map (scaleBaseLine scaleX scaleY)
  { c with basePairs := pairs, dotCenter := (freshCenter pairs).getD c.dotCenter }

/-- `LIMIT 8`, then `rule_lines[line.name] = line` for each row. -/
def loadRuleLines (scaleX scaleY : R) (c : Config R) (rows : List LineRow) : Config R :=
  let write (lines : String → Option (Line R)) (row : LineRow) :=
    Function.update lines row.name (some (scaleLine scaleX scaleY row))
  { c with ruleLines := (rows.take 8).foldl write c.ruleLines }

def reload (scaleX scaleY : R) (c : Config R) (tables : Tables) : Config R :=
  loadRuleLines scaleX scaleY (loadDotsAndCenter scaleX scaleY c tables.baseLines) tables.lines

/-- The globals before `main`'s first load. -/
def Config.init : Config R := ⟨[], ⟨0, 0⟩, fun _ => none⟩

/-- `main`'s load and the periodic reloads, one per element of `reads`. -/
def reloadRun (scaleX scaleY : R) (reads : List Tables) : Config R := reads.foldl (reload scaleX scaleY) Config.init

/-! ## What the configuration is after a run

The base pairs are the last read's rows; the centre is the one computed at
the last read with `baseLines` rows; the line of a name is the last row of
that name among the first eight rows of the last read that had one. -/

def latestCenter (scaleX scaleY : R) (reads : List Tables) : Point R :=
  (reads.reverse.findSome? fun tables => freshCenter (tables.baseLines.map (scaleBaseLine scaleX scaleY))).getD ⟨0, 0⟩

def latestLine (scaleX scaleY : R) (reads : List Tables) (name : String) : Option (Line R) :=
  reads.reverse.findSome? fun tables => ((tables.lines.take 8).reverse.find? (·.name = name)).map (scaleLine scaleX scaleY)

/-- Writing a list of keys one after another: the last write of a key wins. -/
theorem foldl_update_apply {α β γ : Type} [DecidableEq α] (key : γ → α) (value : γ → β) (rows : List γ)
    (init : α → β) (a : α) :
    rows.foldl (fun f row => Function.update f (key row) (value row)) init a =
      ((rows.reverse.find? (key · = a)).map value).getD (init a) := by
  induction rows generalizing init with
  | nil => rfl
  | cons row rows ih =>
      rw [List.foldl_cons, ih, List.reverse_cons, List.find?_append]
      cases found : rows.reverse.find? (key · = a) with
      | some later => rfl
      | none =>
          by_cases same : key row = a
          · subst same
            simp
          · simp [same, Function.update_of_ne (Ne.symm same)]

omit [LinearOrder R] in
theorem loadRuleLines_apply (scaleX scaleY : R) (c : Config R) (rows : List LineRow) (name : String) :
    (loadRuleLines scaleX scaleY c rows).ruleLines name =
      (((rows.take 8).reverse.find? (·.name = name)).map (scaleLine scaleX scaleY)).or (c.ruleLines name) := by
  simp only [loadRuleLines]
  rw [foldl_update_apply]
  cases (rows.take 8).reverse.find? (·.name = name) <;> rfl

theorem reloadRun_append (scaleX scaleY : R) (reads : List Tables) (tables : Tables) :
    reloadRun scaleX scaleY (reads ++ [tables]) = reload scaleX scaleY (reloadRun scaleX scaleY reads) tables := by
  rw [reloadRun, List.foldl_append]
  rfl

theorem findSome?_append_singleton {α β : Type} (f : α → Option β) (l : List α) (a : α) :
    (l ++ [a]).reverse.findSome? f = (f a).or (l.reverse.findSome? f) := by
  rw [List.reverse_append, List.reverse_singleton, List.singleton_append, List.findSome?_cons]
  cases f a <;> rfl

/-- After any sequence of reloads the base pairs are the last read's scaled
rows. `dot_center` is the centre of the last read that had `baseLines` rows,
`(0, 0)` if none had. `rule_lines` holds, for every name, the last row of that
name among the first eight of the last read that had one, and `none` only if
no read had one. -/
theorem reloadRun_config (scaleX scaleY : R) (reads : List Tables) :
    (reloadRun scaleX scaleY reads).basePairs =
        ((reads.getLast?.map Tables.baseLines).getD []).map (scaleBaseLine scaleX scaleY) ∧
      (reloadRun scaleX scaleY reads).dotCenter = latestCenter scaleX scaleY reads ∧
      ∀ name, (reloadRun scaleX scaleY reads).ruleLines name = latestLine scaleX scaleY reads name := by
  induction reads using List.reverseRecOn with
  | nil => exact ⟨rfl, rfl, fun _ => rfl⟩
  | append_singleton reads tables ih =>
      obtain ⟨-, center, lines⟩ := ih
      rw [reloadRun_append]
      refine ⟨by simp [reload, loadRuleLines, loadDotsAndCenter], ?center, fun name => ?ruleLines⟩
      case center =>
        -- a read without rows keeps the centre of the reads before it
        simp only [reload, loadRuleLines, loadDotsAndCenter, latestCenter, findSome?_append_singleton, center]
        cases freshCenter (tables.baseLines.map (scaleBaseLine scaleX scaleY)) <;> rfl
      case ruleLines =>
        rw [reload, loadRuleLines_apply, latestLine, findSome?_append_singleton, ← latestLine]
        exact congrArg _ (lines name)

/-! ## A deleted line stays in effect -/

/-- A reload that reads no row of a name and no `baseLines` row leaves that
name's rule line and `dot_center` as they were. So a line deleted by request 3
keeps driving alerts, and `dot_center` is not the `(0, 0)` the warning of
`load_dots_and_center` announces. -/
theorem reload_keeps_deleted_line (scaleX scaleY : R) (reads : List Tables) (tables : Tables) (name : String)
    (deleted : ∀ row ∈ tables.lines, row.name ≠ name) (noBaseLines : tables.baseLines = []) :
    (reloadRun scaleX scaleY (reads ++ [tables])).ruleLines name = (reloadRun scaleX scaleY reads).ruleLines name ∧
      (reloadRun scaleX scaleY (reads ++ [tables])).dotCenter = (reloadRun scaleX scaleY reads).dotCenter := by
  have unread : (tables.lines.take 8).reverse.find? (·.name = name) = none := by
    rw [List.find?_eq_none]
    intro row member
    simpa using deleted row (List.mem_of_mem_take (List.mem_reverse.mp member))
  rw [reloadRun_append]
  constructor
  · rw [reload, loadRuleLines_apply, unread]
    rfl
  · simp only [reload, loadRuleLines, loadDotsAndCenter, noBaseLines, List.map_nil, freshCenter, Option.getD_none]

/-- One base line and one rule line `A`. -/
def withLineA : Tables := ⟨[⟨1, 0, 0, 2, 2, 0⟩], [⟨0, 0, 4, 0, "A", "BothDirections"⟩]⟩

/-- Both tables emptied, as request 4 (`delete_all_data_lines`, `delete_all_data_baseLines`) leaves them. -/
def emptied : Tables := ⟨[], []⟩

/-- After the tables were emptied, the line `A` is still in `rule_lines` and
`dot_center` is still the old base line's midpoint, while a run that only read
the empty tables has neither. -/
theorem reload_keeps_deleted_line_sample :
    (∀ row ∈ emptied.lines, row.name ≠ "A") ∧ emptied.baseLines = [] ∧
      (reloadRun (1 : ℚ) 1 [withLineA, emptied]).ruleLines "A" = some ⟨⟨0, 0⟩, ⟨4, 0⟩, "BothDirections", "A"⟩ ∧
      (reloadRun (1 : ℚ) 1 [withLineA, emptied]).dotCenter = ⟨1, 0⟩ ∧
      (reloadRun (1 : ℚ) 1 [emptied]).ruleLines "A" = none ∧ (reloadRun (1 : ℚ) 1 [emptied]).dotCenter = ⟨0, 0⟩ := by
  have kept := reload_keeps_deleted_line (1 : ℚ) 1 [withLineA] emptied "A" (by simp [emptied]) rfl
  rw [show [withLineA, emptied] = [withLineA] ++ [emptied] from rfl, kept.1, kept.2]
  exact ⟨by simp [emptied], rfl, by decide +kernel⟩

end RaspiServer.Metadata
