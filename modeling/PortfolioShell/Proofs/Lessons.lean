import PortfolioShell.Proofs.Lookalikes
import PortfolioShell.Proofs.Modes
import PortfolioShell.Proofs.WorkingDirectory

/-!
# Lines in the tutorial

A line that a step of the tutorial accepts is carried out as a command: the directory and the
backend are afterwards what they would be had the line been submitted in normal mode. The output is
shown and not acted on, so nothing is cleared, no theme is chosen and no program starts. Any other
line is shown with a text behind it and changes nothing else.
-/
namespace PortfolioShell.Session

variable {σ : Type}

/-- The session as it is, but in normal mode. -/
def inNormal (s : Session σ) : Session σ := { s with mode := .normal }

/-- A line and what is told in answer to it have been added to the lines of a session. -/
structure Answers (s : Session σ) (line : String) (data : LineData) (after : Session σ) :
    Prop where
  items : after.lines.items = Ring.newest s.lines.capacity
    (s.lines.items ++ [⟨s.nextId, .input, .prompt s.prompt line⟩, ⟨s.nextId + 1, .output, data⟩])
  capacity : after.lines.capacity = s.lines.capacity
  nextId : after.nextId = s.nextId + 2
  epoch : after.epoch = s.epoch

/-- The blocks that show an output itself. What is asked of the session is not shown. -/
inductive ShownAs : Option Output → Rich → Prop
  | text {text : String} (told : text ≠ "") : ShownAs (some (.text text)) [.text text]
  | rich (blocks : Rich) : ShownAs (some (.rich blocks)) blocks
  | silent : ShownAs (some (.text "")) []
  | clear : ShownAs (some .clear) []
  | directive (directive : Directive) : ShownAs (some (.directive directive)) []
  | nothing : ShownAs none []

theorem shownAs_shownInTutorial (output : Option Output) :
    ShownAs output (shownInTutorial output) := by
  cases output with
  | none => exact .nothing
  | some output =>
    cases output with
    | text text =>
      by_cases empty : text = ""
      · subst empty
        exact .silent
      · have shown : shownInTutorial (some (.text text)) = [.text text] := by
          simp [shownInTutorial, empty]
        exact shown ▸ .text empty
    | rich blocks => exact .rich blocks
    | clear => exact .clear
    | directive directive => exact .directive directive

/-- Two prints in a row: an echo and its answer. -/
theorem answers_of_lines {s after : Session σ} {line : String} {data : LineData}
    (lines : after.lines =
      s.lines.extend [⟨s.nextId, .input, .prompt s.prompt line⟩, ⟨s.nextId + 1, .output, data⟩])
    (nextId : after.nextId = s.nextId + 2) (epoch : after.epoch = s.epoch) :
    s.Answers line data after where
  items := by rw [lines, Ring.items_extend]
  capacity := by simp [lines, Ring.extend]
  nextId := nextId
  epoch := epoch

variable [Backend σ]

/-- A line has been carried out as a command, and its output was shown with what the step says. -/
structure CarriesOut (s : Session σ) (step : Nat) (line : String) (after : Session σ) : Prop where
  cwd : after.cwd = (s.inNormal.submitLine line).cwd
  backend : after.backend = (s.inNormal.submitLine line).backend
  theme : after.theme = s.theme
  answer : ∃ own next, ShownAs (dispatch line s.setting s.cwd s.backend).1.output own ∧
    s.Answers line (.rich (own ++ Tutorial.acceptance step next)) after

/-- A line has been shown with a text behind it and was not carried out. The backend was asked who
is signed in, as after every line. -/
structure TurnsDown (s : Session σ) (step : Nat) (line : String) (after : Session σ) : Prop where
  cwd : after.cwd = s.cwd
  asked : after.backend = (Backend.currentUser s.backend).2
  backend : (∀ b : σ, (Backend.currentUser b).2 = b) → after.backend = s.backend
  theme : after.theme = s.theme
  answer : s.Answers line (.text (if Text.words line = ["exit"] then "Exited tutorial."
    else Tutorial.hint step)) after

section
variable {s : Session σ} {step : Nat} {line : String} {inv : Invocation}

theorem dispatch_of_ofLine? (hinv : Invocation.ofLine? line = some inv) (setting : Setting)
    (cwd : String) : dispatch (σ := σ) line setting cwd = inv.execute setting cwd := by
  rw [dispatch, hinv]

theorem submitLine_inNormal (told : Text.isBlankText line = false) :
    s.inNormal.submitLine line =
      ((((s.inNormal.setInput "").taking line).withBackend
        (dispatch line s.setting s.cwd s.backend).2).acting
          (dispatch line s.setting s.cwd s.backend).1).sync := by
  rw [submitLine_normal rfl, submitText_told told, runCommand_eq]
  rfl

/-! ### A line at a step -/

theorem submitLine_exit (learning : s.mode = .tutorial step)
    (hinv : Invocation.ofLine? line = some inv)
    (hadv : Tutorial.advance step inv s.cwd s.setting.tree = .exit) :
    s.submitLine line =
      ({ (s.setInput "").taking line with mode := .normal }.printText "Exited tutorial.").sync := by
  have told := Tutorial.told_of_ofLine? hinv
  have ran := runTutorial_exit (s := (s.setInput "").taking line) hinv hadv
  rw [submitLine_tutorial learning, submitText_told told, ran]

theorem submitLine_rejected (learning : s.mode = .tutorial step)
    (hinv : Invocation.ofLine? line = some inv)
    (hadv : Tutorial.advance step inv s.cwd s.setting.tree = .rejected) :
    s.submitLine line = (((s.setInput "").taking line).printText (Tutorial.hint step)).sync := by
  have told := Tutorial.told_of_ofLine? hinv
  have ran := runTutorial_rejected (s := (s.setInput "").taking line) hinv hadv
  rw [submitLine_tutorial learning, submitText_told told, ran]

theorem submitLine_accepted (learning : s.mode = .tutorial step) {next : Option Nat}
    (hinv : Invocation.ofLine? line = some inv)
    (hadv : Tutorial.advance step inv s.cwd s.setting.tree = .accepted next) :
    s.submitLine line =
      ((((s.setInput "").taking line).withBackend
        (inv.execute s.setting s.cwd s.backend).2).passing
          (inv.execute s.setting s.cwd s.backend).1 step next).sync := by
  have told := Tutorial.told_of_ofLine? hinv
  have ran := runTutorial_accepted (s := (s.setInput "").taking line) hinv hadv
  rw [submitLine_tutorial learning, submitText_told told, ran, runAccepted_eq]
  rfl

theorem carriesOut_of_accepted (learning : s.mode = .tutorial step) {next : Option Nat}
    (hinv : Invocation.ofLine? line = some inv)
    (hadv : Tutorial.advance step inv s.cwd s.setting.tree = .accepted next) :
    s.CarriesOut step line (s.submitLine line) := by
  have told := Tutorial.told_of_ofLine? hinv
  rw [submitLine_accepted learning hinv hadv, ← dispatch_of_ofLine? hinv]
  constructor
  case cwd =>
    rw [submitLine_inNormal told]
    have moved := standing_acting (((s.inNormal.setInput "").taking line).withBackend
      (dispatch line s.setting s.cwd s.backend).2) (dispatch line s.setting s.cwd s.backend).1
    exact (congrArg Prod.snd moved).symm
  case backend =>
    rw [submitLine_inNormal told, sync_eq, sync_eq]
    have kept := (ignores_acting (dispatch line s.setting s.cwd s.backend).1).backend_eq
      (((s.inNormal.setInput "").taking line).withBackend
        (dispatch line s.setting s.cwd s.backend).2)
    exact congrArg (fun b => (Backend.currentUser b).2) kept.symm
  case theme => rfl
  case answer => exact ⟨_, next, shownAs_shownInTutorial _, answers_of_lines rfl rfl rfl⟩

theorem turnsDown_of_exit (learning : s.mode = .tutorial step)
    (hinv : Invocation.ofLine? line = some inv)
    (hadv : Tutorial.advance step inv s.cwd s.setting.tree = .exit) :
    s.TurnsDown step line (s.submitLine line) := by
  obtain ⟨name, args⟩ := Tutorial.advance_eq_exit_iff.mp hadv
  have bare : Text.words line = ["exit"] := by rw [Tutorial.words_of_ofLine? hinv, name, args]
  rw [submitLine_exit learning hinv hadv]
  constructor
  case cwd => rfl
  case asked => rfl
  case backend => exact fun reads => reads s.backend
  case theme => rfl
  case answer =>
    rw [if_pos bare]
    exact answers_of_lines rfl rfl rfl

theorem turnsDown_of_rejected (learning : s.mode = .tutorial step)
    (hinv : Invocation.ofLine? line = some inv)
    (hadv : Tutorial.advance step inv s.cwd s.setting.tree = .rejected) :
    s.TurnsDown step line (s.submitLine line) := by
  have notBare : Text.words line ≠ ["exit"] := by
    intro bare
    rw [Tutorial.words_of_ofLine? hinv, List.cons.injEq] at bare
    have left : Tutorial.advance step inv s.cwd s.setting.tree = .exit :=
      Tutorial.advance_eq_exit_iff.mpr bare
    rw [hadv] at left
    cases left
  rw [submitLine_rejected learning hinv hadv]
  constructor
  case cwd => rfl
  case asked => rfl
  case backend => exact fun reads => reads s.backend
  case theme => rfl
  case answer =>
    rw [if_neg notBare]
    exact answers_of_lines rfl rfl rfl

end

/-- In the tutorial a line that is not blank is carried out like a command if the step accepts it,
and is turned down otherwise. -/
theorem lesson_of_submitted {s : Session σ} {step : Nat} (learning : s.mode = .tutorial step)
    {event : Event} {line : String} (submits : s.submitted? event = some line)
    (told : Text.isBlankText line = false) :
    (Tutorial.Accepts step line s.cwd s.setting.tree → s.CarriesOut step line (s.step event)) ∧
      (¬ Tutorial.Accepts step line s.cwd s.setting.tree →
        s.TurnsDown step line (s.step event)) := by
  rw [step_of_submitted submits]
  constructor
  · rintro ⟨inv, next, hinv, hadv⟩
    exact carriesOut_of_accepted learning hinv hadv
  · intro refused
    cases hinv : Invocation.ofLine? line with
    | none =>
      rw [Tutorial.ofLine?_eq_none_iff_blank, told] at hinv
      cases hinv
    | some inv =>
      cases hadv : Tutorial.advance step inv s.cwd s.setting.tree with
      | exit => exact turnsDown_of_exit learning hinv hadv
      | rejected => exact turnsDown_of_rejected learning hinv hadv
      | accepted next => exact absurd ⟨inv, next, hinv, hadv⟩ refused

/-- The first step where `pwd` has been registered to clear the screen. -/
theorem lesson_of_clearing :
    let s :=
      { ofBuiltin.register ⟨"pwd", "pwd", "", .files, .plain .clear⟩ with mode := .tutorial 0 }
    s.CarriesOut 0 "pwd" (s.step (.submitLine "pwd")) ∧
      s.TurnsDown 0 "ls" (s.step (.submitLine "ls")) := by
  intro s
  have accepted : Tutorial.Accepts 0 "pwd" s.cwd s.setting.tree :=
    ⟨⟨"pwd", []⟩, some 1, by decide +kernel, by decide +kernel⟩
  have refused : ¬ Tutorial.Accepts 0 "ls" s.cwd s.setting.tree := by
    rintro ⟨inv, next, hinv, hadv⟩
    have ls : Invocation.ofLine? "ls" = some ⟨"ls", []⟩ := by decide +kernel
    obtain rfl := Option.some.inj (ls.symm.trans hinv)
    cases hadv
  exact ⟨(lesson_of_submitted rfl rfl (by decide +kernel)).1 accepted,
    (lesson_of_submitted rfl rfl (by decide +kernel)).2 refused⟩

end PortfolioShell.Session
