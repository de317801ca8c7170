import Mathlib

/-!
# A queue against the log of its pushes

A queue that only pushes at the back, leaves from the front and is cleared is
at every moment a suffix of the log of everything pushed; what has left it,
kept in the order it left, is an order-preserving selection of the log that
precedes that suffix. `Fifo.Window log left queue` states this; each
operation keeps it, and it gives the orders a consumer of the queue sees.
-/

set_option autoImplicit false

namespace Fifo

variable {α : Type}

/-- `queue` is the log after its first `k` entries, and `left` is a selection,
in order, of those `k`. -/
def Window (log left queue : List α) : Prop :=
  ∃ k, k ≤ log.length ∧ queue = log.drop k ∧ List.Sublist left (log.take k)

variable {log left queue : List α}

namespace Window

theorem nil : Window ([] : List α) [] [] := ⟨0, le_rfl, rfl, List.Sublist.slnil⟩

theorem push (window : Window log left queue) (x : α) : Window (log ++ [x]) left (queue ++ [x]) := by
  obtain ⟨k, bound, rfl, selected⟩ := window
  refine ⟨k, by simp; omega, (List.drop_append_of_le_length bound).symm, ?_⟩
  rw [List.take_append_of_le_length bound]
  exact selected

/-- Entries that leave from the front without being kept. -/
theorem drop (window : Window log left queue) (m : Nat) : Window log left (queue.drop m) := by
  obtain ⟨k, bound, rfl, selected⟩ := window
  refine ⟨min (k + m) log.length, min_le_right _ _, ?_, selected.trans (List.take_sublist_take_left (by omega))⟩
  rw [List.drop_drop]
  by_cases fits : k + m ≤ log.length
  · rw [min_eq_left fits]
  · rw [min_eq_right (by omega), List.drop_length, List.drop_eq_nil_of_le (by omega)]

theorem clear (window : Window log left queue) : Window log left [] := by
  simpa using window.drop queue.length

/-- The front entry leaves and is kept. -/
theorem pop {x : α} (window : Window log left (x :: queue)) : Window log (left ++ [x]) queue := by
  obtain ⟨k, bound, front, selected⟩ := window
  have at_k : log[k]? = some x := by
    have := congrArg List.head? front
    simpa [List.head?_drop] using this.symm
  have rest : log.drop (k + 1) = queue := by
    rw [← List.tail_drop, ← front]
    rfl
  have within : k + 1 ≤ log.length := by
    have := (List.getElem?_eq_some_iff.mp at_k).1
    omega
  refine ⟨k + 1, within, rest.symm, ?_⟩
  rw [List.take_add_one, at_k]
  exact selected.append (List.Sublist.refl [x])

theorem queue_sublist (window : Window log left queue) : List.Sublist queue log := by
  obtain ⟨k, -, rfl, -⟩ := window
  exact List.drop_sublist k log

end Window

end Fifo
