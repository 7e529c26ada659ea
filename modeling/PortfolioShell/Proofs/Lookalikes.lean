import PortfolioShell.Proofs.Guests
import PortfolioShell.Proofs.Sessions

/-!
# Sessions that look alike

Two sessions look alike if they differ in their backends only, and these are related. Whatever a
session does without asking its backend keeps them so, and so does asking if the backends answer
the same. Over backends that are alike to guests, two sessions therefore look alike after every
event, until a login succeeds.
-/
namespace PortfolioShell.Session

variable {σ α : Type} {R : σ → σ → Prop} {s t : Session σ}

/-- What acts on a session without regard to its backend. -/
def IgnoresBackend (act : Session σ → Session σ) : Prop :=
  ∀ (s : Session σ) (backend : σ), act (s.withBackend backend) = (act s).withBackend backend

/-- Sessions that differ in their backends only, which are related. -/
def Lookalike (R : σ → σ → Prop) (s t : Session σ) : Prop :=
  ∃ backend, R s.backend backend ∧ t = s.withBackend backend

theorem IgnoresBackend.backend_eq {act : Session σ → Session σ} (ignores : IgnoresBackend act)
    (s : Session σ) : (act s).backend = s.backend := by
  have same : act s = (act s).withBackend s.backend := ignores s s.backend
  exact congrArg (·.backend) same

namespace Lookalike

theorem act {act : Session σ → Session σ} (h : Lookalike R s t) (ignores : IgnoresBackend act) :
    Lookalike R (act s) (act t) := by
  obtain ⟨backend, related, rfl⟩ := h
  refine ⟨backend, ?_, ignores s backend⟩
  rw [ignores.backend_eq]
  exact related

theorem ask {step : StateM σ α} (h : Lookalike R s t) (blind : Blind R step) :
    (step s.backend).1 = (step t.backend).1 ∧
      Lookalike R (s.withBackend (step s.backend).2) (t.withBackend (step t.backend).2) := by
  obtain ⟨backend, related, rfl⟩ := h
  obtain ⟨answer, after⟩ := blind s.backend backend related
  exact ⟨answer, _, after, rfl⟩

/-- Sessions that act on a blind answer look alike still. -/
theorem answered {step : StateM σ α} {act : α → Session σ → Session σ} (h : Lookalike R s t)
    (blind : Blind R step) (ignores : ∀ answer, IgnoresBackend (act answer)) :
    Lookalike R (act (step s.backend).1 (s.withBackend (step s.backend).2))
      (act (step t.backend).1 (t.withBackend (step t.backend).2)) := by
  obtain ⟨answer, after⟩ := h.ask blind
  rw [← answer]
  exact after.act (ignores _)

theorem mode_eq (h : Lookalike R s t) : t.mode = s.mode := by
  obtain ⟨_, _, rfl⟩ := h
  rfl

end Lookalike

/-! ### Acting without the backend -/

theorem ignores_setInput (input : String) : IgnoresBackend (σ := σ) (·.setInput input) :=
  fun _ _ => rfl

theorem ignores_setTheme (theme : Theme) : IgnoresBackend (σ := σ) (·.setTheme theme) :=
  fun _ _ => rfl

theorem ignores_printText (text : String) : IgnoresBackend (σ := σ) (·.printText text) :=
  fun _ _ => rfl

theorem ignores_user (user : Option User) :
    IgnoresBackend (σ := σ) fun s => { s with user := user } :=
  fun _ _ => rfl

theorem ignores_taking (line : String) : IgnoresBackend (σ := σ) (·.taking line) :=
  fun _ _ => rfl

theorem ignores_bare :
    IgnoresBackend (σ := σ) fun s => { s.echo "" with history := s.history.reset } :=
  fun _ _ => rfl

theorem ignores_exitTutorial :
    IgnoresBackend (σ := σ) fun s => { s with mode := .normal }.printText "Exited tutorial." :=
  fun _ _ => rfl

theorem ignores_accept (output : Output) : IgnoresBackend (σ := σ) (·.accept output) := by
  intro s backend
  cases output with
  | text text =>
    simp only [accept]
    split <;> rfl
  | rich blocks =>
    simp only [accept]
    split <;> rfl
  | clear => rfl
  | directive directive => cases directive <;> rfl

theorem ignores_acting (outcome : Dispatch) : IgnoresBackend (σ := σ) (·.acting outcome) := by
  intro s backend
  simp only [acting]
  split
  · exact ignores_accept _ (s.moveTo outcome.cwd) backend
  · rfl

theorem ignores_passing (outcome : Dispatch) (step : Nat) (next : Option Nat) :
    IgnoresBackend (σ := σ) (·.passing outcome step next) :=
  fun _ _ => rfl

theorem ignores_saving (post : Post) (answer : Except BackendError Unit) :
    IgnoresBackend (σ := σ) (·.saving post answer) := by
  intro s backend
  cases answer <;> rfl

theorem ignores_completed (completion : Completion) :
    IgnoresBackend (σ := σ) (·.completed completion) := by
  intro s backend
  simp only [completed]
  split <;> rfl

theorem ignores_historyUp : IgnoresBackend (σ := σ) historyUp := by
  intro s backend
  cases hm : s.mode <;> simp [historyUp, withBackend, hm, showRecalled]

theorem ignores_historyDown : IgnoresBackend (σ := σ) historyDown := by
  intro s backend
  cases hm : s.mode <;> simp [historyDown, withBackend, hm, showRecalled]

theorem ignores_exitProgram : IgnoresBackend (σ := σ) exitProgram := by
  intro s backend
  cases hm : s.mode <;> simp [exitProgram, withBackend, hm, print]

theorem ignores_cancelEdit : IgnoresBackend (σ := σ) cancelEdit := by
  intro s backend
  unfold cancelEdit
  rw [mode_withBackend]
  split
  · exact ignores_exitProgram s backend
  · rfl

/-! ### Events -/

section
variable [Backend σ]

/-- A login that the backend accepts. -/
def LogsIn (s : Session σ) (event : Event) : Prop :=
  ∃ email password user, s.mode = .password ⟨.login, email⟩ ∧
    s.submitted? event = some password ∧
      (Backend.signIn email password s.backend).1 = .ok user

theorem not_logsIn_of_normal {s : Session σ} (h : s.mode = .normal) (event : Event) :
    ¬ s.LogsIn event := by
  rintro ⟨email, password, user, asked, _⟩
  rw [h] at asked
  cases asked

/-- No event in a row is a login that the backend accepts. -/
def NoLogin (s : Session σ) : List Event → Prop
  | [] => True
  | event :: rest => ¬ s.LogsIn event ∧ (s.step event).NoLogin rest

theorem NoLogin.take {s : Session σ} {events : List Event} (h : s.NoLogin events) (n : Nat) :
    s.NoLogin (events.take n) := by
  induction events generalizing s n with
  | nil => simp [NoLogin]
  | cons event rest ih =>
    cases n with
    | zero => trivial
    | succ n => exact ⟨h.1, ih h.2 n⟩

end

namespace Lookalike

variable [Backend σ]

theorem sync (h : Lookalike R s t) (alike : AlikeToGuests R) : Lookalike R s.sync t.sync :=
  h.answered alike.currentUser ignores_user

theorem runCommand (h : Lookalike R s t) (alike : AlikeToGuests R) (line : String) :
    Lookalike R (s.runCommand line) (t.runCommand line) := by
  have asked := h
  obtain ⟨backend, _, rfl⟩ := h
  rw [runCommand_eq, runCommand_eq, setting_withBackend, cwd_withBackend]
  exact asked.answered (alike.blind_dispatch line) ignores_acting

theorem runAccepted (h : Lookalike R s t) (alike : AlikeToGuests R) (inv : Invocation)
    (step : Nat) (next : Option Nat) :
    Lookalike R (s.runAccepted inv step next) (t.runAccepted inv step next) := by
  have asked := h
  obtain ⟨backend, _, rfl⟩ := h
  rw [runAccepted_eq, runAccepted_eq, setting_withBackend, cwd_withBackend]
  exact asked.answered (alike.blind_execute inv) fun outcome => ignores_passing outcome step next

theorem runTutorial (h : Lookalike R s t) (alike : AlikeToGuests R) (step : Nat)
    (line : String) : Lookalike R (s.runTutorial step line) (t.runTutorial step line) := by
  have asked := h
  obtain ⟨backend, _, rfl⟩ := h
  cases hinv : Invocation.ofLine? line with
  | none =>
    rw [runTutorial_none hinv, runTutorial_none hinv]
    exact asked
  | some inv =>
    cases hadv : Tutorial.advance step inv s.cwd s.setting.tree with
    | exit =>
      rw [runTutorial_exit hinv hadv,
        runTutorial_exit (s := s.withBackend backend) hinv hadv]
      exact asked.act ignores_exitTutorial
    | rejected =>
      rw [runTutorial_rejected hinv hadv,
        runTutorial_rejected (s := s.withBackend backend) hinv hadv]
      exact asked.act (ignores_printText _)
    | accepted next =>
      rw [runTutorial_accepted hinv hadv,
        runTutorial_accepted (s := s.withBackend backend) hinv hadv]
      exact asked.runAccepted alike inv step next

theorem submitText (h : Lookalike R s t) (alike : AlikeToGuests R) (line : String)
    {run : Session σ → Session σ}
    (kept : ∀ u v, Lookalike R u v → Lookalike R (run u) (run v)) :
    Lookalike R (s.submitText line run) (t.submitText line run) := by
  cases blank : Text.isBlankText line with
  | true =>
    rw [submitText_blank blank, submitText_blank blank]
    exact h.act ignores_bare
  | false =>
    rw [submitText_told blank, submitText_told blank]
    exact (kept _ _ (h.act (ignores_taking line))).sync alike

theorem submitPassword (h : Lookalike R s t) (alike : AlikeToGuests R) {action : AuthAction}
    {password : String} (refused : action.kind = .login →
      ∀ user, (Backend.signIn action.email password s.backend).1 ≠ .ok user) :
    Lookalike R (s.submitPassword action password) (t.submitPassword action password) := by
  obtain ⟨backend, related, rfl⟩ := h
  obtain ⟨answer, after⟩ := alike.finish_of_refused related refused
  have told : (Account.finish action password (s.withBackend backend).backend).1 =
      (Account.finish action password s.backend).1 := answer.symm
  have answered : Lookalike R
      ((s.handing password).withBackend (Account.finish action password s.backend).2)
      (((s.withBackend backend).handing password).withBackend
        (Account.finish action password backend).2) :=
    ⟨_, after, rfl⟩
  rw [submitPassword_eq, submitPassword_eq, told]
  exact (answered.act (ignores_printText _)).sync alike

theorem submitLine (h : Lookalike R s t) (alike : AlikeToGuests R) {line : String}
    (refused : ¬ s.LogsIn (.submitLine line)) :
    Lookalike R (s.submitLine line) (t.submitLine line) := by
  have cleared := h.act (ignores_setInput "")
  have same := h.mode_eq
  cases hm : s.mode with
  | normal =>
    rw [submitLine_normal hm, submitLine_normal (same.trans hm)]
    exact cleared.submitText alike line fun _ _ kept => kept.runCommand alike line
  | password action =>
    rw [submitLine_password hm, submitLine_password (same.trans hm)]
    refine cleared.submitPassword alike ?_
    intro login user accepted
    obtain ⟨kind, email⟩ := action
    obtain rfl : kind = .login := login
    exact refused ⟨email, line, user, hm, rfl, accepted⟩
  | tutorial step =>
    rw [submitLine_tutorial hm, submitLine_tutorial (same.trans hm)]
    exact cleared.submitText alike line fun _ _ kept => kept.runTutorial alike step line
  | running program =>
    rw [submitLine_running hm, submitLine_running (same.trans hm)]
    exact cleared

theorem tab (h : Lookalike R s t) (alike : AlikeToGuests R) : Lookalike R s.tab t.tab := by
  have asked := h
  obtain ⟨backend, _, rfl⟩ := h
  cases commands : s.mode.takesCommands with
  | true =>
    rw [tab_of_commands commands, tab_of_commands (s := s.withBackend backend) commands,
      input_withBackend, cwd_withBackend, setting_withBackend]
    have blind : Blind R (complete s.input s.cwd s.setting) := alike.blind_complete s.input
    -- Stated apart from the goal, whose unification would open the completion.
    have completed := asked.answered blind ignores_completed
    exact completed
  | false =>
    rw [tab_of_no_commands commands, tab_of_no_commands (s := s.withBackend backend) commands]
    exact asked

theorem saveEdit (h : Lookalike R s t) (alike : AlikeToGuests R) (content : String) :
    Lookalike R (s.saveEdit content) (t.saveEdit content) := by
  have asked := h
  obtain ⟨backend, _, rfl⟩ := h
  by_cases editing : ∃ post, s.mode = .running (.editor post)
  · obtain ⟨post, hm⟩ := editing
    rw [saveEdit_editing hm, saveEdit_editing (s := s.withBackend backend) hm]
    exact asked.answered (alike.updateContent post.id content) (ignores_saving post)
  · have idle : ∀ post, s.mode ≠ .running (.editor post) := fun post hm => editing ⟨post, hm⟩
    rw [saveEdit_of_not_editing idle, saveEdit_of_not_editing (s := s.withBackend backend) idle]
    exact asked

/-- Every event but a login that succeeds. -/
theorem step (h : Lookalike R s t) (alike : AlikeToGuests R) {event : Event}
    (refused : ¬ s.LogsIn event) : Lookalike R (s.step event) (t.step event) := by
  cases event with
  | submit =>
    have same : t.input = s.input := by
      obtain ⟨_, _, rfl⟩ := h
      rfl
    rw [Session.step, Session.step, submit, submit, same]
    exact h.submitLine alike refused
  | submitLine line => exact h.submitLine alike refused
  | tab => exact h.tab alike
  | setInput input => exact h.act (ignores_setInput input)
  | historyUp => exact h.act ignores_historyUp
  | historyDown => exact h.act ignores_historyDown
  | exitProgram => exact h.act ignores_exitProgram
  | saveEdit content => exact h.saveEdit alike content
  | cancelEdit => exact h.act ignores_cancelEdit
  | sync => exact h.sync alike
  | setTheme theme => exact h.act (ignores_setTheme theme)

theorem run (h : Lookalike R s t) (alike : AlikeToGuests R) {events : List Event}
    (refused : s.NoLogin events) : Lookalike R (s.run events) (t.run events) := by
  induction events generalizing s t with
  | nil => exact h
  | cons event rest ih => exact ih (h.step alike refused.1) refused.2

end Lookalike

end PortfolioShell.Session
