import PortfolioShell.Proofs.Sessions

/-!
# What output changes

The setting of a session, its theme and the epoch of its screen stay as they are until a command in
normal mode gives output that is acted on: clearing begins a new epoch, and a theme is chosen. Other
lines, the keys at the prompt and the full-screen programs leave them alone. The setting is not even
changed by output.
-/
namespace PortfolioShell

/-- The parts of a session that output is acted on with. -/
structure Surface where
  setting : Setting
  theme : Theme
  epoch : Nat

/-- The surface after output. -/
def Surface.after (surface : Surface) : Option Output → Surface
  | some .clear => { surface with epoch := surface.epoch + 1 }
  | some (.directive (.setTheme theme)) => { surface with theme }
  | _ => surface

theorem Surface.setting_after (surface : Surface) (output : Option Output) :
    (surface.after output).setting = surface.setting := by
  unfold after
  split <;> rfl

theorem Surface.epoch_after (surface : Surface) (output : Option Output) :
    (surface.after output).epoch = surface.epoch + if output = some .clear then 1 else 0 := by
  unfold after
  split
  · simp
  · simp
  · rename_i other _
    rw [if_neg other]
    rfl

namespace Session

variable {σ : Type}

/-- The surface of a session. -/
def surface (s : Session σ) : Surface := ⟨s.setting, s.theme, s.epoch⟩

theorem surface_accept (s : Session σ) (output : Output) :
    (s.accept output).surface = s.surface.after (some output) := by
  cases output with
  | text text =>
    rw [accept]
    split <;> rfl
  | rich blocks =>
    rw [accept]
    split <;> rfl
  | clear => rfl
  | directive directive => cases directive <;> rfl

theorem surface_acting (s : Session σ) (outcome : Dispatch) :
    (s.acting outcome).surface = s.surface.after outcome.output := by
  rw [acting]
  split
  · rename_i output given
    rw [surface_accept, given]
    rfl
  · rename_i none
    rw [none]
    rfl

theorem surface_historyUp (s : Session σ) : s.historyUp.surface = s.surface := by
  rw [historyUp]
  split <;> rfl

theorem surface_historyDown (s : Session σ) : s.historyDown.surface = s.surface := by
  rw [historyDown]
  split <;> rfl

theorem surface_exitProgram (s : Session σ) : s.exitProgram.surface = s.surface := by
  rw [exitProgram]
  split <;> rfl

theorem surface_cancelEdit (s : Session σ) : s.cancelEdit.surface = s.surface := by
  rw [cancelEdit]
  split
  · exact s.surface_exitProgram
  · rfl

variable [Backend σ]

theorem surface_saveEdit (s : Session σ) (content : String) :
    (s.saveEdit content).surface = s.surface := by
  rw [saveEdit]
  split
  · simp only [ask_eq]
    split <;> rfl
  · rfl

theorem surface_tab (s : Session σ) : s.tab.surface = s.surface := by
  cases h : s.mode.takesCommands with
  | true =>
    rw [tab_of_commands h, completed]
    split <;> rfl
  | false => rw [tab_of_no_commands h]

theorem surface_runTutorial (s : Session σ) (step : Nat) (line : String) :
    (s.runTutorial step line).surface = s.surface := by
  rw [runTutorial]
  split
  · rfl
  · split
    · rfl
    · rfl
    · rw [runAccepted_eq]
      rfl

/-- Only in normal mode is the output of a line acted on. -/
theorem surface_submitLine_of_not_normal {s : Session σ} (busy : s.mode ≠ .normal)
    (line : String) : (s.submitLine line).surface = s.surface := by
  cases mode : s.mode with
  | normal => exact absurd mode busy
  | password action =>
    rw [submitLine_password mode, submitPassword_eq]
    rfl
  | running program =>
    rw [submitLine_running mode]
    rfl
  | tutorial step =>
    rw [submitLine_tutorial mode]
    cases blank : Text.isBlankText line with
    | true =>
      rw [submitText_blank blank]
      rfl
    | false =>
      rw [submitText_told blank]
      exact ((s.setInput "").taking line).surface_runTutorial step line

theorem surface_submitLine {s : Session σ} (normal : s.mode = .normal) (line : String) :
    (s.submitLine line).surface =
      s.surface.after (dispatch line s.setting s.cwd s.backend).1.output := by
  rw [submitLine_normal normal]
  cases blank : Text.isBlankText line with
  | true =>
    rw [submitText_blank blank, dispatch_of_blank blank]
    rfl
  | false =>
    rw [submitText_told blank, runCommand_eq]
    exact surface_acting (((s.setInput "").taking line).withBackend
      (dispatch line s.setting s.cwd s.backend).2) _

/-- Of what submits no line, only the choice of a theme is seen. -/
theorem surface_step_of_not_submitted {s : Session σ} {event : Event}
    (quiet : s.submitted? event = none) :
    ∃ theme, (s.step event).surface = { s.surface with theme } := by
  cases event with
  | submit => cases quiet
  | submitLine line => cases quiet
  | tab => exact ⟨s.theme, s.surface_tab⟩
  | setInput input => exact ⟨s.theme, rfl⟩
  | historyUp => exact ⟨s.theme, s.surface_historyUp⟩
  | historyDown => exact ⟨s.theme, s.surface_historyDown⟩
  | exitProgram => exact ⟨s.theme, s.surface_exitProgram⟩
  | saveEdit content => exact ⟨s.theme, s.surface_saveEdit content⟩
  | cancelEdit => exact ⟨s.theme, s.surface_cancelEdit⟩
  | sync => exact ⟨s.theme, rfl⟩
  | setTheme theme => exact ⟨theme, rfl⟩

end Session

end PortfolioShell
