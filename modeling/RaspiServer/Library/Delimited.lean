import Mathlib

/-!
# Cutting a stream at a delimiter

`find? d xs` is the first position at which `d` occurs in `xs`, as
`std::string::find` computes it. `Splits d xs packets rest` says that cutting
`xs` at the first occurrence of `d`, again and again, yields `packets` and
leaves `rest`. The cut is unique (`Splits.unique`), it can be computed a piece
of the stream at a time (`Splits.append`), and `splits_iff` says what it means:
`xs` is the packets, each closed by the delimiter, then a rest free of it,
where no packet holds the delimiter before its end.
-/

set_option autoImplicit false

namespace Delimited

variable {α : Type} [DecidableEq α]

/-- The first position at which `d` occurs in `xs`. -/
def find? (d : List α) (xs : List α) : Option Nat :=
  if d.isPrefixOf xs then some 0
  else
    match xs with
    | [] => none
    | _ :: rest => (find? d rest).map (· + 1)

/-- A delimiter is not empty, so every cut consumes input. -/
structure Delimiter (α : Type) where
  text : List α
  nonempty : text ≠ []

/-! ## `find?` -/

section Find

variable {d : List α}

omit [DecidableEq α] in
theorem some_zero_iff_first {ys : List α} (here : d <+: ys) {i : Nat} :
    some 0 = some i ↔ d <+: ys.drop i ∧ ∀ j < i, ¬ d <+: ys.drop j := by
  constructor
  · rintro ⟨⟩
    exact ⟨here, fun j below => absurd below (Nat.not_lt_zero j)⟩
  · rintro ⟨-, earlier⟩
    cases i with
    | zero => rfl
    | succ i => exact absurd here (earlier 0 (Nat.succ_pos i))

theorem find?_of_startsWith {xs : List α} (here : d <+: xs) : find? d xs = some 0 := by
  rw [find?.eq_def, if_pos (List.isPrefixOf_iff_prefix.mpr here)]

theorem find?_nil_of_not_startsWith (here : ¬ d <+: []) : find? d [] = none := by
  rw [find?.eq_def, if_neg (mt List.isPrefixOf_iff_prefix.mp here)]

theorem find?_cons_of_not_startsWith {x : α} {xs : List α} (here : ¬ d <+: x :: xs) :
    find? d (x :: xs) = (find? d xs).map (· + 1) := by
  rw [find?.eq_def, if_neg (mt List.isPrefixOf_iff_prefix.mp here)]

theorem find?_eq_some_iff {xs : List α} {i : Nat} :
    find? d xs = some i ↔ d <+: xs.drop i ∧ ∀ j < i, ¬ d <+: xs.drop j := by
  induction xs generalizing i with
  | nil =>
      by_cases here : d <+: []
      · rw [find?_of_startsWith here]
        exact some_zero_iff_first here
      · rw [find?_nil_of_not_startsWith here, List.drop_nil]
        exact ⟨(fun found => by cases found), fun found => absurd found.1 here⟩
  | cons x xs ih =>
      by_cases here : d <+: x :: xs
      · rw [find?_of_startsWith here]
        exact some_zero_iff_first here
      · rw [find?_cons_of_not_startsWith here]
        cases i with
        | zero => exact ⟨(fun shifted => by simp at shifted), fun found => absurd found.1 here⟩
        | succ i =>
            have shift : (find? d xs).map (· + 1) = some (i + 1) ↔ find? d xs = some i := by
              cases find? d xs <;> simp
            rw [shift, ih, List.drop_succ_cons]
            constructor
            · rintro ⟨found, earlier⟩
              refine ⟨found, fun j below => ?_⟩
              cases j with
              | zero => exact here
              | succ j => exact earlier j (by omega)
            · rintro ⟨found, earlier⟩
              exact ⟨found, fun j below => earlier (j + 1) (by omega)⟩

theorem find?_eq_none_iff {xs : List α} : find? d xs = none ↔ ∀ j, ¬ d <+: xs.drop j := by
  induction xs with
  | nil =>
      by_cases here : d <+: []
      · rw [find?_of_startsWith here]
        exact ⟨(fun found => by cases found), fun nowhere => absurd here (nowhere 0)⟩
      · rw [find?_nil_of_not_startsWith here]
        exact ⟨fun _ j => by rw [List.drop_nil]; exact here, fun _ => rfl⟩
  | cons x xs ih =>
      by_cases here : d <+: x :: xs
      · rw [find?_of_startsWith here]
        exact ⟨(fun found => by cases found), fun nowhere => absurd here (nowhere 0)⟩
      · rw [find?_cons_of_not_startsWith here, Option.map_eq_none_iff, ih]
        constructor
        · intro nowhere j
          cases j with
          | zero => exact here
          | succ j => exact nowhere j
        · intro nowhere j
          exact nowhere (j + 1)

theorem find?_add_length_le {xs : List α} {i : Nat} (nonempty : d ≠ []) (found : find? d xs = some i) :
    i + d.length ≤ xs.length := by
  have fits := (find?_eq_some_iff.mp found).1.length_le
  have positive : 0 < d.length := List.length_pos_iff.mpr nonempty
  rw [List.length_drop] at fits
  omega

theorem find?_split {xs : List α} {i : Nat} (found : find? d xs = some i) :
    xs = xs.take i ++ d ++ xs.drop (i + d.length) := by
  have atI := (find?_eq_some_iff.mp found).1
  obtain ⟨after, atIEq⟩ := atI
  have dropEq : xs.drop (i + d.length) = after := by
    rw [← List.drop_drop, ← atIEq, List.drop_left]
  rw [dropEq, List.append_assoc, atIEq, List.take_append_drop]

theorem find?_append_of_some {xs ys : List α} {i : Nat} (nonempty : d ≠ []) (found : find? d xs = some i) :
    find? d (xs ++ ys) = some i := by
  have fits := find?_add_length_le nonempty found
  obtain ⟨atI, earlier⟩ := find?_eq_some_iff.mp found
  rw [find?_eq_some_iff, List.drop_append_of_le_length (by omega)]
  refine ⟨atI.trans (List.prefix_append _ _), fun j below atJ => earlier j below ?_⟩
  rw [List.drop_append_of_le_length (by omega)] at atJ
  exact (List.isPrefix_append_of_length (by rw [List.length_drop]; omega)).mp atJ

theorem find?_nil (nonempty : d ≠ []) : find? d [] = none :=
  find?_eq_none_iff.mpr fun j atJ => nonempty (List.prefix_nil.mp (by simpa using atJ))

end Find

/-! ## Cutting at every occurrence -/

/-- `Splits d xs packets rest`: cutting `xs` at each first occurrence of the
delimiter yields `packets`, and `rest` holds no occurrence. -/
inductive Splits (d : Delimiter α) : List α → List (List α) → List α → Prop
  | stop {xs : List α} : find? d.text xs = none → Splits d xs [] xs
  | cut {xs : List α} {i : Nat} {packets : List (List α)} {rest : List α} :
      find? d.text xs = some i → Splits d (xs.drop (i + d.text.length)) packets rest →
      Splits d xs (xs.take i :: packets) rest

namespace Splits

variable {d : Delimiter α}

theorem nil : Splits d [] [] [] := .stop (find?_nil d.nonempty)

theorem unique {xs : List α} {packets packets' : List (List α)} {rest rest' : List α}
    (first : Splits d xs packets rest) (second : Splits d xs packets' rest') :
    packets = packets' ∧ rest = rest' := by
  induction first generalizing packets' with
  | stop nowhere =>
      cases second with
      | stop _ => exact ⟨rfl, rfl⟩
      | cut found _ => rw [nowhere] at found; cases found
  | cut found _ ih =>
      cases second with
      | stop nowhere => rw [nowhere] at found; cases found
      | cut found' tail =>
          rw [found] at found'
          cases found'
          obtain ⟨rfl, rfl⟩ := ih tail
          exact ⟨rfl, rfl⟩

/-- Cutting a stream in two reads: the packets of the first part, then those of
its rest followed by the second part. -/
theorem append {xs ys : List α} {packets packets' : List (List α)} {rest rest' : List α}
    (first : Splits d xs packets rest) (second : Splits d (rest ++ ys) packets' rest') :
    Splits d (xs ++ ys) (packets ++ packets') rest' := by
  induction first with
  | stop _ => exact second
  | @cut xs i packets rest found _ ih =>
      have fits := find?_add_length_le d.nonempty found
      have taken : (xs ++ ys).take i = xs.take i := List.take_append_of_le_length (by omega)
      have dropped : (xs ++ ys).drop (i + d.text.length) = xs.drop (i + d.text.length) ++ ys :=
        List.drop_append_of_le_length fits
      rw [List.cons_append, ← taken]
      exact .cut (find?_append_of_some d.nonempty found) (dropped ▸ ih second)

theorem rest_eq_none {xs : List α} {packets : List (List α)} {rest : List α}
    (split : Splits d xs packets rest) : find? d.text rest = none := by
  induction split with
  | stop nowhere => exact nowhere
  | cut _ _ ih => exact ih

theorem flatten_eq {xs : List α} {packets : List (List α)} {rest : List α}
    (split : Splits d xs packets rest) : xs = (packets.map (· ++ d.text)).flatten ++ rest := by
  induction split with
  | stop _ => rfl
  | @cut xs i packets rest found _ ih =>
      conv => lhs; rw [find?_split found, ih]
      simp

theorem packet_closed {xs : List α} {packets : List (List α)} {rest : List α}
    (split : Splits d xs packets rest) : ∀ packet ∈ packets, find? d.text (packet ++ d.text) = some packet.length := by
  induction split with
  | stop _ => simp
  | @cut xs i packets rest found _ ih =>
      intro packet member
      rcases List.mem_cons.mp member with rfl | later
      · have fits := find?_add_length_le d.nonempty found
        have closed : xs.take i ++ d.text <+: xs := by
          conv => rhs; rw [find?_split found]
          exact List.prefix_append _ _
        rw [List.length_take_of_le (by omega), find?_eq_some_iff, List.drop_left' (by simp; omega)]
        refine ⟨List.prefix_refl _, fun j below atJ => ?_⟩
        exact (find?_eq_some_iff.mp found).2 j below (atJ.trans (closed.drop j))
      · exact ih packet later

end Splits

/-- What the cut means: the stream is the packets, each closed by the
delimiter, then the rest; no packet holds the delimiter before its end, and
the rest holds none. -/
theorem splits_iff {d : Delimiter α} {xs : List α} {packets : List (List α)} {rest : List α} :
    Splits d xs packets rest ↔
      xs = (packets.map (· ++ d.text)).flatten ++ rest ∧
        (∀ packet ∈ packets, find? d.text (packet ++ d.text) = some packet.length) ∧ find? d.text rest = none := by
  constructor
  · intro split
    exact ⟨split.flatten_eq, split.packet_closed, split.rest_eq_none⟩
  · rintro ⟨rfl, closed, nowhere⟩
    induction packets with
    | nil => exact .stop nowhere
    | cons packet packets ih =>
        have found := closed packet List.mem_cons_self
        have tail : Splits d ((packets.map (· ++ d.text)).flatten ++ rest) packets rest :=
          ih fun p member => closed p (List.mem_cons_of_mem _ member)
        have whole : find? d.text (packet ++ d.text ++ ((packets.map (· ++ d.text)).flatten ++ rest)) =
            some packet.length :=
          find?_append_of_some d.nonempty found
        have cutAt := Splits.cut whole (by rw [List.drop_left' (by simp)]; exact tail)
        rw [List.append_assoc, List.take_left' rfl, ← List.append_assoc] at cutAt
        simpa using cutAt

end Delimited
