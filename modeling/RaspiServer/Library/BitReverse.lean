import Mathlib

/-!
# Bit reversal and reflected shift registers

The loop `res := (res << 1) | ((v >> i) & 1)` over `i < k`, each value kept to
`w` bits, reverses the low `k` bits of `v` (`testBit_reverseLoop`). Reversing
the `w` bits of a shift register turns a most-significant-bit-first register
with polynomial `p` into a least-significant-bit-first one with the reversed
polynomial (`reverse_msbStep`); a CRC computed on bit-reversed input and
reversed at the end is therefore the reflected CRC.
-/

set_option autoImplicit false

namespace BitReverse

/-- The reversal loop over `k` bits, each step kept to `w` bits. -/
def reverseLoop (w v k : Nat) : Nat :=
  (List.range k).foldl (fun res i => ((res <<< 1) ||| ((v >>> i) &&& 1)) % 2 ^ w) 0

/-- The `w`-bit reversal of `v`. -/
def reverse (w v : Nat) : Nat := reverseLoop w v w

/-- One step of a most-significant-bit-first register of `w` bits with polynomial `p`. -/
def msbStep (w p x : Nat) : Nat :=
  if x.testBit (w - 1) then ((x <<< 1) % 2 ^ w) ^^^ p else (x <<< 1) % 2 ^ w

/-- One step of a least-significant-bit-first register with polynomial `q`. -/
def lsbStep (q x : Nat) : Nat :=
  if x.testBit 0 then (x >>> 1) ^^^ q else x >>> 1

variable {w : Nat}

theorem testBit_one_succ (j : Nat) : (1 : Nat).testBit (j + 1) = false := by
  rw [Nat.testBit_succ]
  simp

theorem testBit_reverseLoop (v k j : Nat) :
    (reverseLoop w v k).testBit j = (decide (j < w) && decide (j < k) && v.testBit (k - 1 - j)) := by
  induction k generalizing j with
  | zero => simp [reverseLoop]
  | succ k ih =>
      have unfolded : reverseLoop w v (k + 1) = ((reverseLoop w v k <<< 1) ||| ((v >>> k) &&& 1)) % 2 ^ w := by
        simp only [reverseLoop, List.range_succ, List.foldl_append, List.foldl_cons, List.foldl_nil]
      rw [unfolded, Nat.testBit_mod_two_pow, Nat.testBit_or, Nat.testBit_shiftLeft, Nat.testBit_and,
        Nat.testBit_shiftRight]
      -- bit 0 is the new bit `v_k`; bit `j + 1` is bit `j` of the loop so far
      cases j with
      | zero => simp
      | succ j =>
          have index : k - (j + 1) = k - 1 - j := by omega
          simp only [ge_iff_le, Nat.le_add_left, decide_true, Bool.true_and, Nat.add_sub_cancel,
            testBit_one_succ, Bool.and_false, Bool.or_false]
          rw [ih j, index]
          by_cases inside : j + 1 < w <;> by_cases before : j < k <;> simp [inside, before]
          all_goals omega

theorem testBit_reverse (v j : Nat) : (reverse w v).testBit j = (decide (j < w) && v.testBit (w - 1 - j)) := by
  rw [reverse, testBit_reverseLoop]
  by_cases inside : j < w <;> simp [inside]

theorem reverse_xor (a b : Nat) : reverse w (a ^^^ b) = reverse w a ^^^ reverse w b := by
  apply Nat.eq_of_testBit_eq
  intro j
  simp only [testBit_reverse, Nat.testBit_xor]
  cases decide (j < w) <;> simp

/-- A value of `m` bits, reversed and moved to the top of a register of
`m + n` bits, reads back as itself once the register is reversed. -/
theorem reverse_shiftLeft_reverse (m n b : Nat) (small : b < 2 ^ m) :
    reverse (m + n) ((reverse m b <<< n) % 2 ^ (m + n)) = b := by
  apply Nat.eq_of_testBit_eq
  intro j
  rw [testBit_reverse, Nat.testBit_mod_two_pow, Nat.testBit_shiftLeft, testBit_reverse]
  by_cases low : j < m
  · have shifted : m + n - 1 - j - n = m - 1 - j := by omega
    have back : m - 1 - (m - 1 - j) = j := by omega
    simp [show j < m + n by omega, show m + n - 1 - j < m + n by omega, show n ≤ m + n - 1 - j by omega,
      shifted, show m - 1 - j < m by omega, back]
  · have beyond : b < 2 ^ j := lt_of_lt_of_le small (Nat.pow_le_pow_right (by norm_num) (Nat.not_lt.mp low))
    rw [Nat.testBit_lt_two_pow beyond]
    by_cases inside : j < m + n
    · simp [show ¬ n ≤ m + n - 1 - j by omega]
    · simp [inside]

/-- The top bit of the register is the bottom bit of its reversal. -/
theorem testBit_reverse_zero (positive : 0 < w) (x : Nat) : (reverse w x).testBit 0 = x.testBit (w - 1) := by
  rw [testBit_reverse]
  simp [positive]

/-- Reversing the register turns one most-significant-bit-first step into one
least-significant-bit-first step with the reversed polynomial. -/
theorem reverse_msbStep (positive : 0 < w) (p x : Nat) :
    reverse w (msbStep w p x) = lsbStep (reverse w p) (reverse w x) := by
  apply Nat.eq_of_testBit_eq
  intro j
  rw [msbStep, lsbStep, testBit_reverse_zero positive]
  -- bit `j` of the reversal is bit `w - 1 - j` of the register, and the shift
  -- moves bit `w - 2 - j` there
  have shifted : ∀ y, (reverse w ((y <<< 1) % 2 ^ w)).testBit j = ((reverse w y) >>> 1).testBit j := by
    intro y
    rw [testBit_reverse, Nat.testBit_shiftRight, testBit_reverse, Nat.testBit_mod_two_pow, Nat.testBit_shiftLeft]
    by_cases inside : 1 + j < w
    · have index : w - 1 - j - 1 = w - 1 - (1 + j) := by omega
      simp [inside, index, show j < w by omega, show w - 1 - j < w by omega, show 1 ≤ w - 1 - j by omega]
    · by_cases last : j < w
      · simp [inside, last, show ¬ 1 ≤ w - 1 - j by omega]
      · simp [inside, last]
  split
  · rw [reverse_xor, Nat.testBit_xor, Nat.testBit_xor, shifted]
  · exact shifted x

/-- Steps of a register, reflected: `k` most-significant-bit-first steps,
reversed, are `k` least-significant-bit-first steps of the reversal. -/
theorem reverse_foldl_msbStep {β : Type} (positive : 0 < w) (p x : Nat) (steps : List β) :
    reverse w (steps.foldl (fun y _ => msbStep w p y) x) =
      steps.foldl (fun y _ => lsbStep (reverse w p) y) (reverse w x) := by
  induction steps generalizing x with
  | nil => rfl
  | cons _ steps ih => simp only [List.foldl_cons, ih, reverse_msbStep positive]

end BitReverse
