import RaspiServer.Board.Frame

/-!
# Concurrent alerts on one display (`metadata/main_control.cpp`)

`analyze_risk_and_alert` starts a detached thread running
`control_board_async(b, t)` for every matching vehicle, and every later event
starts more. A run sends LCD ON (`0x01`) to board `b`, starts the capture
thread, waits five seconds and sends LCD OFF (`0x02`) to `b`. Runs for the same
board share nothing: each opens its own `BoardController`, and no count of
the alerts still active is kept. The model takes each of a run's three actions
as one atomic step, the wait being only an ordering point, and records the
last display command the board received.
-/

set_option autoImplicit false

namespace RaspiServer.Metadata

open RaspiServer.Board

/-- Where a run of `control_board_async` is: not started, after LCD ON, after
starting the capture, after LCD OFF. -/
inductive RunPc
  | start
  | lit
  | capturing
  | done
  deriving DecidableEq, Repr

/-- `n` runs for one board, and the last display command it received. -/
structure Display (n : Nat) where
  runs : Fin n → RunPc
  last : Option UInt8

variable {n : Nat}

/-- The next step of run `i`. -/
def Display.step (d : Display n) (i : Fin n) : Display n :=
  match d.runs i with
  | .start => ⟨Function.update d.runs i .lit, some cmdLcdOn⟩
  | .lit => ⟨Function.update d.runs i .capturing, d.last⟩
  | .capturing => ⟨Function.update d.runs i .done, some cmdLcdOff⟩
  | .done => d

def Display.run (d : Display n) (schedule : List (Fin n)) : Display n := schedule.foldl Display.step d

/-- No run started, nothing sent. -/
def Display.init : Display n := ⟨fun _ => .start, none⟩

/-- Run `i` has sent its ON and not yet its OFF: its alert is active. -/
def Display.Active (d : Display n) (i : Fin n) : Prop := d.runs i = .lit ∨ d.runs i = .capturing

instance (d : Display n) (i : Fin n) : Decidable (d.Active i) := inferInstanceAs (Decidable (_ ∨ _))

theorem Display.step_other (d : Display n) {i j : Fin n} (other : j ≠ i) : (d.step i).runs j = d.runs j := by
  unfold Display.step
  split <;> simp [Function.update_of_ne other]

/-- Whatever the other runs do, a run's OFF switches the display off while
another run's alert is still active: nothing in a run looks at the others. -/
theorem Display.step_off_while_active (d : Display n) {i j : Fin n} (other : j ≠ i)
    (closing : d.runs i = .capturing) (active : d.Active j) :
    (d.step i).last = some cmdLcdOff ∧ (d.step i).Active j := by
  have stepped : d.step i = ⟨Function.update d.runs i .done, some cmdLcdOff⟩ := by
    simp [Display.step, closing]
  refine ⟨by rw [stepped], ?_⟩
  unfold Display.Active
  rw [d.step_other other]
  exact active

/-- The display shows ON only while some alert is active. -/
def Display.OnSound (d : Display n) : Prop := d.last = some cmdLcdOn → ∃ i, d.Active i

theorem Display.OnSound.step {d : Display n} (sound : d.OnSound) (i : Fin n) : (d.step i).OnSound := by
  unfold Display.step
  cases pc : d.runs i with
  | start => exact fun _ => ⟨i, Or.inl (Function.update_self ..)⟩
  | lit =>
      -- run `i` moves on to its capture and stays active; the others are untouched
      rintro on
      obtain ⟨j, active⟩ := sound on
      refine ⟨j, ?_⟩
      by_cases same : j = i
      · subst same
        exact Or.inr (Function.update_self ..)
      · unfold Display.Active at active ⊢
        dsimp only
        rwa [Function.update_of_ne same]
  | capturing => exact fun off => absurd (Option.some.inj off) (by decide)
  | done => exact sound

/-- Over every schedule, the display is on only while an alert is active: the
runs fail the other way, turning it off too early. -/
theorem Display.OnSound.run {d : Display n} (sound : d.OnSound) (schedule : List (Fin n)) :
    (d.run schedule).OnSound := by
  induction schedule generalizing d with
  | nil => exact sound
  | cons i schedule ih => exact ih (sound.step i)

/-- Two runs for the board: run 0 sends ON, run 1 sends ON, run 0 starts its
capture and sends OFF. Run 1's alert is active and the display is off. -/
theorem display_off_while_alert_active :
    ((Display.init : Display 2).run [0, 1, 0, 0]).Active 1 ∧
      ((Display.init : Display 2).run [0, 1, 0, 0]).last = some cmdLcdOff := by
  -- the fourth step is run 0's OFF, taken while run 1 has sent its ON
  have closing : ((Display.init : Display 2).run [0, 1, 0]).runs 0 = .capturing := by decide
  have active : ((Display.init : Display 2).run [0, 1, 0]).Active 1 := by decide
  obtain ⟨off, stillActive⟩ :=
    ((Display.init : Display 2).run [0, 1, 0]).step_off_while_active (by decide : (1 : Fin 2) ≠ 0) closing active
  exact ⟨stillActive, off⟩

end RaspiServer.Metadata
