import Mathlib

/-!
# Strict-improvement scans

A scan starts from a candidate and a bound, and replaces its current best by
an element only when that element's value is strictly below the best value so
far. If some element is below the starting bound, the scan ends with the first
element of least value and that value; otherwise it ends where it started.
-/

set_option autoImplicit false

namespace ArgMin

variable {α β : Type} [LinearOrder β] (f : α → β)

def step (best : α × β) (a : α) : α × β := if f a < best.2 then (a, f a) else best

def scan (start : α × β) (l : List α) : α × β := l.foldl (step f) start

theorem scan_append (start : α × β) (l l' : List α) : scan f start (l ++ l') = scan f (scan f start l) l' :=
  List.foldl_append

theorem scan_append_singleton (start : α × β) (l : List α) (a : α) :
    scan f start (l ++ [a]) = step f (scan f start l) a :=
  scan_append f start l [a]

/-- No element below the starting bound: the scan keeps its start. -/
theorem scan_of_forall_le (start : α × β) (l : List α) (above : ∀ a ∈ l, start.2 ≤ f a) :
    scan f start l = start := by
  induction l using List.reverseRecOn with
  | nil => rfl
  | append_singleton l a ih =>
      rw [scan_append_singleton, ih fun b member => above b (List.mem_append_left _ member), step,
        if_neg (not_lt.mpr (above a (List.mem_append_right _ (List.mem_singleton_self a))))]

end ArgMin
