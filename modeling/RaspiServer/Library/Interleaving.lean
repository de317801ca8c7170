import Mathlib

/-!
# Interleavings of two sequences

`Interleaving xs ys zs`: `zs` is a shuffle of `xs` and `ys` that keeps the
order within each. This is the set of schedules of two threads whose steps
are atomic.
-/

set_option autoImplicit false

/-- `zs` interleaves `xs` and `ys`. -/
inductive Interleaving {α : Type} : List α → List α → List α → Prop
  | nil : Interleaving [] [] []
  | left {x : α} {xs ys zs : List α} : Interleaving xs ys zs → Interleaving (x :: xs) ys (x :: zs)
  | right {y : α} {xs ys zs : List α} : Interleaving xs ys zs → Interleaving xs (y :: ys) (y :: zs)

namespace Interleaving

variable {α : Type}

theorem singletons {x y : α} {zs : List α} (shuffle : Interleaving [x] [y] zs) : zs = [x, y] ∨ zs = [y, x] := by
  cases shuffle with
  | left rest =>
      cases rest with
      | right last =>
          cases last
          exact .inl rfl
  | right rest =>
      cases rest with
      | left last =>
          cases last
          exact .inr rfl

end Interleaving
