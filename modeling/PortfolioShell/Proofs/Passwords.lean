import PortfolioShell.Proofs.Sessions

/-!
# Passwords

A password is typed into the input like any line, and browsing the history may stash it half-typed.
When it is submitted, the input and the stash are forgotten and stars are shown in its place. What
is left depends on the length of the password and on the answer of the backend only.
-/
namespace PortfolioShell

/-- Whether an event edits the input or browses the history. -/
def Event.isEdit : Event → Bool
  | .setInput _ | .historyUp | .historyDown | .tab => true
  | _ => false

/-- Two calls of a backend that answer the same and leave the same user signed in. -/
def AnswerAlike {σ α : Type} [Backend σ] (backend : σ) (first second : Call σ α) : Prop :=
  (first backend).1 = (second backend).1 ∧
    (Backend.currentUser (first backend).2).1 = (Backend.currentUser (second backend).2).1

/-- Two passwords between which the answer to a login or signup makes no difference. -/
def AuthAction.SameAnswer {σ : Type} [Backend σ] (action : AuthAction) (backend : σ)
    (first second : String) : Prop :=
  match action.kind with
  | .login =>
    AnswerAlike backend (Backend.signIn action.email first)
      (Backend.signIn action.email second)
  | .signup =>
    AnswerAlike backend (Backend.signUp action.email first)
      (Backend.signUp action.email second)

namespace History

theorem reset_older (history : History) (live : String) :
    (history.older live).2.reset = history.reset := by
  rw [older]
  split
  · rfl
  · split <;> rfl

theorem reset_newer (history : History) : history.newer.2.reset = history.reset := by
  rw [newer]
  split <;> rfl

end History

namespace Session
variable {σ : Type}

/-- The session before anything was typed and browsed. -/
def untyped (s : Session σ) : Session σ :=
  { s.setInput "" with history := s.history.reset }

theorem untyped_showRecalled (s : Session σ) {found : Option String × History}
    (same : found.2.reset = s.history.reset) : (s.showRecalled found).untyped = s.untyped := by
  simp only [untyped, showRecalled, setInput, same]

theorem untyped_historyUp (s : Session σ) : s.historyUp.untyped = s.untyped := by
  rw [historyUp]
  split
  · rfl
  · exact s.untyped_showRecalled (s.history.reset_older s.input)

theorem untyped_historyDown (s : Session σ) : s.historyDown.untyped = s.untyped := by
  rw [historyDown]
  split
  · rfl
  · exact s.untyped_showRecalled s.history.reset_newer

theorem mask_eq {p q : String} (size : p.length = q.length) : mask p = mask q := by
  rw [mask, mask, size]

theorem handing_eq (s : Session σ) {p q : String} (size : p.length = q.length) :
    s.handing p = s.handing q := by
  rw [handing, handing, mask_eq size]

variable [Backend σ] {s : Session σ} {action : AuthAction}

theorem untyped_step (pending : s.mode = .password action) {event : Event}
    (edit : event.isEdit = true) : (s.step event).untyped = s.untyped := by
  cases event with
  | setInput input => rfl
  | historyUp => exact s.untyped_historyUp
  | historyDown => exact s.untyped_historyDown
  | tab => rw [step, tab_of_no_commands (by rw [pending]; rfl)]
  | _ => cases edit

/-- Editing leaves its traces in the input and in the place where the history is browsed only. -/
theorem untyped_run (pending : s.mode = .password action) {events : List Event}
    (edits : ∀ event ∈ events, event.isEdit = true) : (s.run events).untyped = s.untyped := by
  induction events generalizing s with
  | nil => rfl
  | cons event rest ih =>
    have same := untyped_step pending (edits event List.mem_cons_self)
    have still : (s.step event).mode = .password action :=
      (congrArg Session.mode same).trans pending
    exact (ih still fun e he => edits e (List.mem_cons_of_mem event he)).trans same

/-- A password is handed on from the session before it was typed. -/
theorem submitLine_untyped (pending : s.mode = .password action) (password : String) :
    s.untyped.submitLine password = s.submitLine password := by
  rw [submitLine_password pending, submitLine_password (s := s.untyped) pending,
    submitPassword_eq, submitPassword_eq]
  rfl

/-! ### The answer to a password -/

/-- What is told about a login or signup, and who is signed in then, are matters of the answer. -/
theorem finish_of_sameAnswer {backend : σ} {p q : String}
    (same : action.SameAnswer backend p q) :
    (Account.finish action p backend).1 = (Account.finish action q backend).1 ∧
      (Backend.currentUser (Account.finish action p backend).2).1 =
        (Backend.currentUser (Account.finish action q backend).2).1 := by
  rw [AuthAction.SameAnswer] at same
  unfold Account.finish
  cases hk : action.kind with
  | login =>
    simp only [hk] at same ⊢
    obtain ⟨answer, user⟩ := same
    simp only [bind_apply, answer]
    cases (Backend.signIn action.email q backend).1 with
    | ok _ => exact ⟨rfl, user⟩
    | error _ => exact ⟨rfl, user⟩
  | signup =>
    simp only [hk] at same ⊢
    obtain ⟨answer, user⟩ := same
    simp only [bind_apply, answer]
    cases (Backend.signUp action.email q backend).1 with
    | ok _ => exact ⟨rfl, user⟩
    | error _ => exact ⟨rfl, user⟩

theorem submitPassword_told (s : Session σ) (action : AuthAction) (password : String) :
    s.submitPassword action password =
      { (s.handing password).printText (Account.finish action password s.backend).1 with
        backend := (Backend.currentUser (Account.finish action password s.backend).2).2
        user := (Backend.currentUser (Account.finish action password s.backend).2).1 } := by
  rw [submitPassword_eq, sync_eq]
  rfl

theorem submitLine_of_sameAnswer (pending : s.mode = .password action) {p q : String}
    (size : p.length = q.length) (same : action.SameAnswer s.backend p q) :
    s.submitLine q = (s.submitLine p).withBackend (s.submitLine q).backend := by
  have cleared : action.SameAnswer (s.setInput "").backend p q := same
  obtain ⟨told, user⟩ := finish_of_sameAnswer cleared
  rw [submitLine_password pending, submitLine_password pending, submitPassword_told,
    submitPassword_told, handing_eq _ size, told, user]
  rfl

/-- Two passwords of one length that the backend answers alike leave the same session, whatever
was edited and browsed before either was submitted. -/
theorem submitted_of_sameAnswer (pending : s.mode = .password action) {p q : String}
    (size : p.length = q.length) (same : action.SameAnswer s.backend p q)
    {first second : List Event} (edits : ∀ event ∈ first ++ second, event.isEdit = true)
    {typed guessed : Event} (typing : (s.run first).submitted? typed = some p)
    (guessing : (s.run second).submitted? guessed = some q) :
    ∃ backend, (s.run second).step guessed = ((s.run first).step typed).withBackend backend ∧
      ((s.run second).step guessed).prompt = ((s.run first).step typed).prompt := by
  have untyped_first : (s.run first).untyped = s.untyped :=
    untyped_run pending fun e he => edits e (List.mem_append_left second he)
  have untyped_second : (s.run second).untyped = s.untyped :=
    untyped_run pending fun e he => edits e (List.mem_append_right first he)
  have pending_first : (s.run first).mode = .password action :=
    (congrArg Session.mode untyped_first).trans pending
  have pending_second : (s.run second).mode = .password action :=
    (congrArg Session.mode untyped_second).trans pending
  have submitted_first : (s.run first).step typed = s.untyped.submitLine p := by
    rw [step_of_submitted typing, ← submitLine_untyped pending_first, untyped_first]
  have submitted_second : (s.run second).step guessed = s.untyped.submitLine q := by
    rw [step_of_submitted guessing, ← submitLine_untyped pending_second, untyped_second]
  have alike := submitLine_of_sameAnswer (s := s.untyped) pending size same
  refine ⟨(s.untyped.submitLine q).backend, ?_, ?_⟩
  · rw [submitted_first, submitted_second]
    exact alike
  · rw [submitted_first, submitted_second, alike, prompt_withBackend]

/-- A wrong password that was stashed half-typed, and another one that was not. -/
theorem submitted_of_stashed :
    let s := ofBuiltin.run [.submitLine "login a@b.c"]
    let browsed := s.run [.setInput "hunt", .historyUp]
    let entered := s.run [.setInput "secret"]
    browsed.history.stash = "hunt" ∧ ∃ store,
      browsed.step (.submitLine "hunter") = (entered.step .submit).withBackend store ∧
        (browsed.step (.submitLine "hunter")).prompt = (entered.step .submit).prompt := by
  refine ⟨by decide +kernel, ?_⟩
  have pending : (ofBuiltin.run [.submitLine "login a@b.c"]).mode =
      .password ⟨.login, "a@b.c"⟩ := by decide +kernel
  exact submitted_of_sameAnswer (p := "secret") (q := "hunter") pending (by decide)
    ⟨rfl, rfl⟩ (by decide) rfl rfl

end Session

end PortfolioShell
