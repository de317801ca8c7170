import RaspiServer.Metadata.Reload
import RaspiServer.Library.ArgMin

/-!
# The alert decision (`analyze_risk_and_alert`, `metadata/main_control.cpp`)

For a line-crossing event on `rule_name`, `analyze_risk_and_alert` looks at
every tracked vehicle with two positions or more. It finds the base-line dot
nearest to the vehicle's oldest position, replacing its best only on a strict
improvement on `numeric_limits<float>::max()`, and takes the board at the
other end of that dot's pair. It asks that the vehicle came closer to
`dot_center` by `dist_threshold`, and that the cosine of `dot_center` minus
the dot against the crossed line's direction is at least
`parallelism_threshold` in absolute value. If so it starts
`control_board_async` for the board.

`compute_cosine_similarity` returns `-2` when either vector is zero, and
`abs(-2)` passes every threshold up to `2`. With no base pairs the search
keeps `board_id = -1` and the uninitialised `closest_dot`. Coordinates are
real numbers; `uninit` stands for what `closest_dot` holds before the search.
-/

set_option autoImplicit false

namespace RaspiServer.Metadata

/-- `numeric_limits<float>::max()`, `(2 - 2 ^ (-23)) * 2 ^ 127`. -/
def floatMax : ℝ := 340282346638528859811704183484516925440

noncomputable def hypot (x y : ℝ) : ℝ := Real.sqrt (x ^ 2 + y ^ 2)

noncomputable def computeCosineSimilarity (a b : Point ℝ) : ℝ :=
  let dot := a.x * b.x + a.y * b.y
  let magA := Real.sqrt (a.x * a.x + a.y * a.y)
  let magB := Real.sqrt (b.x * b.x + b.y * b.y)
  -- `-2.0f`
  if magA = 0 ∨ magB = 0 then -((2 : ℕ) : ℝ) else dot / (magA * magB)

/-- The search's `closest_dot`, `matched_id`, `board_id` and `min_dist_sq`. -/
structure Nearest where
  closestDot : Point ℝ
  matchedId : Int
  boardId : Int
  minDistSq : ℝ

/-- `pow(a.x - b.x, 2) + pow(a.y - b.y, 2)`. -/
def distSq (a b : Point ℝ) : ℝ := (a.x - b.x) ^ 2 + (a.y - b.y) ^ 2

/-- The body of the loop over `base_line_pairs`: `p1`, then `p2`. -/
noncomputable def nearestStep (oldest : Point ℝ) (n : Nearest) (pair : BasePair ℝ) : Nearest :=
  let d1 := distSq oldest pair.p1
  let d2 := distSq oldest pair.p2
  let n := if d1 < n.minDistSq then ⟨pair.p1, pair.id1, pair.id2, d1⟩ else n
  if d2 < n.minDistSq then ⟨pair.p2, pair.id2, pair.id1, d2⟩ else n

noncomputable def findNearest (uninit : Point ℝ) (pairs : List (BasePair ℝ)) (oldest : Point ℝ) : Nearest :=
  pairs.foldl (nearestStep oldest) ⟨uninit, -1, -1, floatMax⟩

/-- One iteration of the loop over `vehicle_trajectory_history`: the board it
starts `control_board_async` for, if any. -/
noncomputable def vehicleAlert (cfg : Config ℝ) (distThreshold parallelismThreshold : ℝ) (uninit : Point ℝ)
    (lineVector : Point ℝ) : List (Point ℝ) → Option Int
  | [] | [_] => none
  | oldest :: second :: rest =>
      let newest := (second :: rest).getLast (List.cons_ne_nil second rest)
      let nearest := findNearest uninit cfg.basePairs oldest
      let distOld := hypot (oldest.x - cfg.dotCenter.x) (oldest.y - cfg.dotCenter.y)
      let distNew := hypot (newest.x - cfg.dotCenter.x) (newest.y - cfg.dotCenter.y)
      if distNew > distOld - distThreshold then none
      else
        let vehicleVector : Point ℝ := ⟨cfg.dotCenter.x - nearest.closestDot.x, cfg.dotCenter.y - nearest.closestDot.y⟩
        if |computeCosineSimilarity vehicleVector lineVector| ≥ parallelismThreshold then some nearest.boardId
        else none

/-- The boards `analyze_risk_and_alert` starts `control_board_async` for, in
the order it visits the vehicles; `uninit v` is what `closest_dot` holds in
vehicle `v`'s iteration. -/
noncomputable def analyzeRiskAndAlert (cfg : Config ℝ) (distThreshold parallelismThreshold : ℝ)
    (uninit : Int → Point ℝ) (vehicles : List (Int × List (Point ℝ))) (ruleName : String) : List Int :=
  match cfg.ruleLines ruleName with
  | none => []
  | some crossed =>
      let lineVector : Point ℝ := ⟨crossed.«end».x - crossed.start.x, crossed.«end».y - crossed.start.y⟩
      vehicles.filterMap fun vehicle =>
        vehicleAlert cfg distThreshold parallelismThreshold (uninit vehicle.1) lineVector vehicle.2

/-! ## The search is a strict-improvement scan -/

/-- The dots in the order the search visits them, each with its own id and its
partner's. -/
def dots (pairs : List (BasePair ℝ)) : List (Point ℝ × Int × Int) :=
  pairs.flatMap fun pair => [(pair.p1, pair.id1, pair.id2), (pair.p2, pair.id2, pair.id1)]

def Nearest.toScan (n : Nearest) : (Point ℝ × Int × Int) × ℝ := ((n.closestDot, n.matchedId, n.boardId), n.minDistSq)

theorem nearestStep_toScan (oldest : Point ℝ) (n : Nearest) (pair : BasePair ℝ) :
    (nearestStep oldest n pair).toScan =
      ArgMin.scan (fun dot => distSq oldest dot.1) n.toScan [(pair.p1, pair.id1, pair.id2), (pair.p2, pair.id2, pair.id1)] := by
  simp only [nearestStep, ArgMin.scan, List.foldl_cons, List.foldl_nil, ArgMin.step, Nearest.toScan]
  split_ifs <;> rfl

theorem foldl_nearestStep_toScan (oldest : Point ℝ) (pairs : List (BasePair ℝ)) (start : Nearest) :
    (pairs.foldl (nearestStep oldest) start).toScan = ArgMin.scan (fun dot => distSq oldest dot.1) start.toScan (dots pairs) := by
  induction pairs generalizing start with
  | nil => rfl
  | cons pair pairs ih =>
      rw [List.foldl_cons, ih, nearestStep_toScan, ← ArgMin.scan_append]
      rfl

theorem findNearest_toScan (uninit : Point ℝ) (pairs : List (BasePair ℝ)) (oldest : Point ℝ) :
    (findNearest uninit pairs oldest).toScan =
      ArgMin.scan (fun dot => distSq oldest dot.1) ((uninit, -1, -1), floatMax) (dots pairs) :=
  foldl_nearestStep_toScan oldest pairs _

/-- No dot nearer than `FLT_MAX`, in particular no base pair: the search
keeps `board_id = -1` and the uninitialised `closest_dot`. -/
theorem findNearest_unmatched (uninit : Point ℝ) (pairs : List (BasePair ℝ)) (oldest : Point ℝ)
    (far : ∀ dot ∈ dots pairs, floatMax ≤ distSq oldest dot.1) :
    (findNearest uninit pairs oldest).closestDot = uninit ∧ (findNearest uninit pairs oldest).boardId = -1 := by
  have kept := findNearest_toScan uninit pairs oldest
  rw [ArgMin.scan_of_forall_le _ _ _ far] at kept
  simp only [Nearest.toScan, Prod.mk.injEq] at kept
  exact ⟨kept.1.1, kept.1.2.2⟩

/-! ## When an alert is started -/

theorem computeCosineSimilarity_zero_right (a : Point ℝ) : computeCosineSimilarity a ⟨0, 0⟩ = -2 := by
  simp [computeCosineSimilarity]

/-- A rule line of length zero passes the cosine test for every vehicle that
came close enough, whatever dot the search found. -/
theorem vehicleAlert_zero_line (cfg : Config ℝ) {distThreshold parallelismThreshold : ℝ} (uninit : Point ℝ)
    (oldest second : Point ℝ) (rest : List (Point ℝ)) (small : parallelismThreshold ≤ 2)
    (approached : hypot (((second :: rest).getLast (List.cons_ne_nil second rest)).x - cfg.dotCenter.x)
        (((second :: rest).getLast (List.cons_ne_nil second rest)).y - cfg.dotCenter.y) ≤
      hypot (oldest.x - cfg.dotCenter.x) (oldest.y - cfg.dotCenter.y) - distThreshold) :
    vehicleAlert cfg distThreshold parallelismThreshold uninit ⟨0, 0⟩ (oldest :: second :: rest) =
      some (findNearest uninit cfg.basePairs oldest).boardId := by
  simp only [vehicleAlert]
  rw [if_neg (not_lt.mpr approached), computeCosineSimilarity_zero_right, if_pos]
  rw [abs_neg, abs_two]
  exact small

/-! ## An alert without a base line, for a line of length zero -/

/-- A rule line `L` from `(5, 5)` to `(5, 5)`, no base pairs, `dot_center` at the origin. -/
noncomputable def zeroLineConfig : Config ℝ :=
  ⟨[], ⟨0, 0⟩, fun name => if name = "L" then some ⟨⟨5, 5⟩, ⟨5, 5⟩, "BothDirections", "L"⟩ else none⟩

theorem hypot_zero_left {y : ℝ} (nonneg : 0 ≤ y) : hypot 0 y = y := by
  rw [hypot, zero_pow two_ne_zero, zero_add, Real.sqrt_sq nonneg]

/-- A vehicle moving from `(0, 10)` to `(0, 2)` toward `dot_center`, with
`dist_threshold = 1` and `parallelism_threshold = 0.9`: the crossing of `L`
starts `control_board_async(-1, t)`, whatever `closest_dot` held. There is no
base pair, `-1` is no board, and the crossed line has no direction. -/
theorem alert_without_base_line (uninit : Int → Point ℝ) :
    analyzeRiskAndAlert zeroLineConfig 1 (9 / 10) uninit [(7, [⟨0, 10⟩, ⟨0, 2⟩])] "L" = [-1] := by
  have approached : hypot ((((⟨0, 2⟩ : Point ℝ) :: []).getLast (List.cons_ne_nil _ _)).x - 0)
      ((((⟨0, 2⟩ : Point ℝ) :: []).getLast (List.cons_ne_nil _ _)).y - 0) ≤ hypot (0 - 0) (10 - 0) - 1 := by
    simp only [List.getLast_singleton, sub_zero, hypot_zero_left (show (0 : ℝ) ≤ 2 by norm_num),
      hypot_zero_left (show (0 : ℝ) ≤ 10 by norm_num)]
    norm_num
  have unmatched := findNearest_unmatched (uninit 7) [] ⟨0, 10⟩ (by simp [dots])
  simp only [analyzeRiskAndAlert, zeroLineConfig, if_pos, sub_self, List.filterMap_cons, List.filterMap_nil]
  rw [vehicleAlert_zero_line _ _ _ _ _ (by norm_num) approached, unmatched.2]

end RaspiServer.Metadata
