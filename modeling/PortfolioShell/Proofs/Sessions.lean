import PortfolioShell.Backend.Store
import PortfolioShell.Proofs.Pieces
import PortfolioShell.Proofs.Steps
import PortfolioShell.Site.Builtin

/-!
# Runs of sessions

A session is reachable on a site if it comes from a new one by events and by what may happen between
them: another number of lines is kept, commands are registered, the clock goes on, and the backend
changes on its own. Submitting a line is taken apart by mode, so that later proofs name the case
they are about.
-/
namespace PortfolioShell

/-- Whether lines are commands, so that they can be completed. -/
def Mode.takesCommands : Mode → Bool
  | .normal | .tutorial _ => true
  | .password _ | .running _ => false

/-! ### Registered names -/

/-- A name runs a handler. -/
def Registry.Runs (registry : Registry) (name : String) (handler : Handler) : Prop :=
  (registry.get? name).map (·.handler) = some handler

instance (registry : Registry) (name : String) (handler : Handler) :
    Decidable (registry.Runs name handler) :=
  inferInstanceAs (Decidable ((registry.get? name).map (·.handler) = some handler))

section
variable {σ : Type} [Backend σ] {setting : Setting} {handler : Handler}

theorem Invocation.execute_of_runs {inv : Invocation}
    (runs : setting.registry.Runs inv.name handler) (cwd : String) :
    inv.execute (σ := σ) setting cwd = handler.run inv.args cwd setting := by
  obtain ⟨spec, found, rfl⟩ := Option.map_eq_some_iff.mp runs
  simp only [execute, found]

theorem dispatch_of_runs {name line : String} {args : List String}
    (words : Text.words line = name :: args) (runs : setting.registry.Runs name handler)
    (cwd : String) : dispatch (σ := σ) line setting cwd = handler.run args cwd setting := by
  rw [dispatch, Invocation.ofLine?, words]
  exact Invocation.execute_of_runs runs cwd

end

namespace Session

variable {σ : Type}

/-- The line that an event submits, if it submits one. -/
def submitted? (s : Session σ) : Event → Option String
  | .submit => some s.input
  | .submitLine line => some line
  | _ => none

/-- The session that hands a line on: the line is shown and remembered. -/
def taking (s : Session σ) (line : String) : Session σ :=
  { s.echo line with history := s.history.push line }

/-- The session that hands a password on: it is shown as stars and not remembered. -/
def handing (s : Session σ) (password : String) : Session σ :=
  { s.print .input (.prompt passwordPrompt (mask password)) with
    mode := .normal
    history := s.history.reset }

/-- The session that acts on the outcome of a command. -/
def acting (s : Session σ) (outcome : Dispatch) : Session σ :=
  match outcome.output with
  | some output => (s.moveTo outcome.cwd).accept output
  | none => s.moveTo outcome.cwd

/-- The session that has shown the outcome of a command inside the tutorial. -/
def passing (s : Session σ) (outcome : Dispatch) (step : Nat) (next : Option Nat) : Session σ :=
  { (s.moveTo outcome.cwd).print .output
      (.rich (shownInTutorial outcome.output ++ Tutorial.acceptance step next)) with
    mode := modeOfStep next }

/-- The session that has got a completion. -/
def completed (s : Session σ) (completion : Completion) : Session σ :=
  if completion.isEmpty then s
  else { s with
    input := completion.input.getD s.input
    suggestions := completion.suggestions }

/-- The session that has got the answer to what its editor saves. -/
def saving (s : Session σ) (post : Post) : Except BackendError Unit → Session σ
  | .ok () =>
    { s with mode := .normal }.print .system (.text s!"Post \"{post.title}\" saved successfully.")
  | .error e => s.print .system (.text s!"Failed to save post: {e.message}")

variable [Backend σ]

/-- The sessions that a new session on a site can become. -/
inductive Reachable (site : Site) : Session σ → Prop
  | start (backend : σ) (host : Host) : Reachable site (start backend site host)
  | withScrollback {s : Session σ} (capacity : Nat) :
      Reachable site s → Reachable site (s.withScrollback capacity)
  | register {s : Session σ} (spec : CommandSpec) :
      Reachable site s → Reachable site (s.register spec)
  | setClock {s : Session σ} (now : Time.LocalTime) :
      Reachable site s → Reachable site (s.setClock now)
  | changeBackend {s : Session σ} (backend : σ) :
      Reachable site s → Reachable site (s.withBackend backend)
  | step {s : Session σ} (event : Event) : Reachable site s → Reachable site (s.step event)

theorem Reachable.run {site : Site} {s : Session σ} (reach : Reachable site s)
    (events : List Event) : Reachable site (s.run events) := by
  induction events generalizing s with
  | nil => exact reach
  | cons event rest ih => exact ih (reach.step event)

/-- An event, or what may happen between events. -/
inductive Move (σ : Type) where
  | event (event : Event)
  | withScrollback (capacity : Nat)
  | register (spec : CommandSpec)
  | setClock (now : Time.LocalTime)
  | changeBackend (backend : σ)

/-- The session after a move. -/
def move (s : Session σ) : Move σ → Session σ
  | .event event => s.step event
  | .withScrollback capacity => s.withScrollback capacity
  | .register spec => s.register spec
  | .setClock now => s.setClock now
  | .changeBackend backend => s.withBackend backend

/-- The session after moves in order. -/
def moves (s : Session σ) (run : List (Move σ)) : Session σ := run.foldl move s

theorem moves_append (s : Session σ) (run more : List (Move σ)) :
    s.moves (run ++ more) = (s.moves run).moves more := List.foldl_append

/-- A new session on the site that comes with the terminal, over an empty store. -/
def ofBuiltin : Session Store :=
  start (.empty "" (.ticking ⟨0, 0⟩)) .builtin (.at ⟨⟨0, 0⟩, 0⟩)

theorem reachable_ofBuiltin : Reachable .builtin ofBuiltin := .start _ _

/-! ### Submitted lines -/

theorem step_of_submitted {s : Session σ} {event : Event} {line : String}
    (h : s.submitted? event = some line) : s.step event = s.submitLine line := by
  cases event with
  | submit =>
    obtain rfl : s.input = line := Option.some.inj h
    rfl
  | submitLine typed =>
    obtain rfl : typed = line := Option.some.inj h
    rfl
  | _ => cases h

theorem submitLine_running {s : Session σ} {program : Subprogram}
    (h : s.mode = .running program) (line : String) : s.submitLine line = s.setInput "" := by
  simp [submitLine, setInput, h]

theorem submitLine_password {s : Session σ} {action : AuthAction}
    (h : s.mode = .password action) (line : String) :
    s.submitLine line = (s.setInput "").submitPassword action line := by
  simp [submitLine, setInput, h]

theorem submitLine_normal {s : Session σ} (h : s.mode = .normal) (line : String) :
    s.submitLine line = (s.setInput "").submitText line (·.runCommand line) := by
  simp [submitLine, setInput, h]

theorem submitLine_tutorial {s : Session σ} {step : Nat} (h : s.mode = .tutorial step)
    (line : String) :
    s.submitLine line = (s.setInput "").submitText line (·.runTutorial step line) := by
  simp [submitLine, setInput, h]

theorem submitText_blank {line : String} (blank : Text.isBlankText line = true)
    (s : Session σ) (run : Session σ → Session σ) :
    s.submitText line run = { s.echo "" with history := s.history.reset } := by
  simp [submitText, blank, echo, print]

theorem submitText_told {line : String} (told : Text.isBlankText line = false)
    (s : Session σ) (run : Session σ → Session σ) :
    s.submitText line run = (run (s.taking line)).sync := by
  simp [submitText, told, taking, echo, print]

theorem submitPassword_eq (s : Session σ) (action : AuthAction) (password : String) :
    s.submitPassword action password =
      (((s.handing password).withBackend (Account.finish action password s.backend).2).printText
        (Account.finish action password s.backend).1).sync := by
  simp only [submitPassword, ask_eq]
  rfl

theorem runCommand_eq (s : Session σ) (line : String) :
    s.runCommand line =
      (s.withBackend (dispatch line s.setting s.cwd s.backend).2).acting
        (dispatch line s.setting s.cwd s.backend).1 := by
  simp only [runCommand, ask_eq]
  rfl

theorem dispatch_of_blank {line : String} (blank : Text.isBlankText line = true)
    (setting : Setting) (cwd : String) (backend : σ) :
    dispatch line setting cwd backend = (⟨none, none⟩, backend) := by
  rw [dispatch, Invocation.ofLine?, Text.words_of_blank blank]
  rfl

/-- Whatever has output is no blank line. -/
theorem submitLine_of_output {s : Session σ} (normal : s.mode = .normal) {line : String}
    {output : Output} {cwd : Option String} {backend : σ}
    (h : dispatch line s.setting s.cwd s.backend = (⟨some output, cwd⟩, backend)) :
    s.submitLine line =
      (((((s.setInput "").taking line).withBackend backend).moveTo cwd).accept output).sync := by
  cases blank : Text.isBlankText line with
  | true =>
    rw [dispatch_of_blank blank] at h
    cases h
  | false =>
    have ran : dispatch line ((s.setInput "").taking line).setting ((s.setInput "").taking line).cwd
        ((s.setInput "").taking line).backend = (⟨some output, cwd⟩, backend) := h
    rw [submitLine_normal normal, submitText_told blank, runCommand_eq, ran, acting]

theorem submitLine_of_text {s : Session σ} (normal : s.mode = .normal) {line text : String}
    {backend : σ} (told : text ≠ "")
    (h : dispatch line s.setting s.cwd s.backend = (⟨some (.text text), none⟩, backend)) :
    s.submitLine line =
      ((((s.setInput "").taking line).withBackend backend).printText text).sync := by
  have full : text.isEmpty = false := by simp [told]
  rw [submitLine_of_output normal h, moveTo_none, accept, full]
  simp only [Bool.false_eq_true, if_false]

/-! ### Answers in the tutorial -/

theorem runAccepted_eq (s : Session σ) (inv : Invocation) (step : Nat) (next : Option Nat) :
    s.runAccepted inv step next =
      (s.withBackend (inv.execute s.setting s.cwd s.backend).2).passing
        (inv.execute s.setting s.cwd s.backend).1 step next := by
  simp only [runAccepted, ask_eq]
  rfl

section
variable {s : Session σ} {step : Nat} {line : String} {inv : Invocation}

theorem runTutorial_none (hinv : Invocation.ofLine? line = none) : s.runTutorial step line = s := by
  simp only [runTutorial, hinv]

theorem runTutorial_exit (hinv : Invocation.ofLine? line = some inv)
    (hadv : Tutorial.advance step inv s.cwd s.setting.tree = .exit) :
    s.runTutorial step line = { s with mode := .normal }.printText "Exited tutorial." := by
  simp only [runTutorial, hinv, hadv]

theorem runTutorial_rejected (hinv : Invocation.ofLine? line = some inv)
    (hadv : Tutorial.advance step inv s.cwd s.setting.tree = .rejected) :
    s.runTutorial step line = s.printText (Tutorial.hint step) := by
  simp only [runTutorial, hinv, hadv]

theorem runTutorial_accepted {next : Option Nat} (hinv : Invocation.ofLine? line = some inv)
    (hadv : Tutorial.advance step inv s.cwd s.setting.tree = .accepted next) :
    s.runTutorial step line = s.runAccepted inv step next := by
  simp only [runTutorial, hinv, hadv]

end

/-! ### Saving from the editor -/

theorem saveEdit_editing {s : Session σ} {post : Post} (h : s.mode = .running (.editor post))
    (content : String) :
    s.saveEdit content =
      (s.withBackend (Backend.updateContent post.id content s.backend).2).saving post
        (Backend.updateContent post.id content s.backend).1 := by
  simp only [saveEdit, h, ask_eq]
  cases (Backend.updateContent post.id content s.backend).1 <;> rfl

theorem saveEdit_of_not_editing {s : Session σ} (h : ∀ post, s.mode ≠ .running (.editor post))
    (content : String) : s.saveEdit content = s := by
  rw [saveEdit]
  split
  · rename_i post hp
    exact absurd hp (h post)
  · rfl

/-! ### Completing a line -/

theorem tab_of_commands {s : Session σ} (h : s.mode.takesCommands = true) :
    s.tab = (s.withBackend (complete s.input s.cwd s.setting s.backend).2).completed
      (complete s.input s.cwd s.setting s.backend).1 := by
  cases hm : s.mode with
  | normal =>
    simp only [tab, hm, ask_eq]
    rfl
  | tutorial step =>
    simp only [tab, hm, ask_eq]
    rfl
  | password action => simp [hm, Mode.takesCommands] at h
  | running program => simp [hm, Mode.takesCommands] at h

theorem tab_of_no_commands {s : Session σ} (h : s.mode.takesCommands = false) : s.tab = s := by
  cases hm : s.mode with
  | normal => simp [hm, Mode.takesCommands] at h
  | tutorial step => simp [hm, Mode.takesCommands] at h
  | password action => simp only [tab, hm]
  | running program => simp only [tab, hm]

end Session

end PortfolioShell
