import PortfolioShell.Proofs.Pieces
import PortfolioShell.Proofs.Sessions

/-!
# Changes of mode

Normal mode is left by commands, a password request by the next line, a step of the tutorial by what
it accepts or by a bare `exit`, and a full-screen program by its own ending. No other event changes
the mode. While a full-screen program runs, lines and keys at the prompt change nothing but the
input.
-/
namespace PortfolioShell

/-- The modes that commands lead to from normal mode. -/
inductive Mode.IsEntered : Mode → Prop
  | password (action : AuthAction) : IsEntered (.password action)
  | tutorial : IsEntered (.tutorial 0)
  | running (program : Subprogram) : IsEntered (.running program)

/-- The tutorial is at one of its steps, if it is on. -/
def Mode.IsBounded (mode : Mode) : Prop := ∀ step, mode = .tutorial step → step < 7

/-- Whether an event is a line or a key at the prompt. -/
def Event.isAtPrompt : Event → Bool
  | .submit | .submitLine _ | .tab | .historyUp | .historyDown => true
  | _ => false

/-- A line that a step of the tutorial accepts. -/
def Tutorial.Accepts (step : Nat) (line cwd : String) (tree : Tree) : Prop :=
  ∃ inv next, Invocation.ofLine? line = some inv ∧ advance step inv cwd tree = .accepted next

theorem Tutorial.length_steps : steps.length = 7 := rfl

/-! ### The tutorial -/

namespace Tutorial

variable {step : Nat} {line cwd : String} {tree : Tree} {inv : Invocation}

theorem ofLine?_of_blank (blank : Text.isBlankText line = true) :
    Invocation.ofLine? line = none := by
  simp [Invocation.ofLine?, Text.words_of_blank blank]

theorem ofLine?_eq_none_iff : Invocation.ofLine? line = none ↔ Text.words line = [] := by
  rw [Invocation.ofLine?]
  split
  · rename_i hw
    simp [hw]
  · rename_i hw
    simp [hw]

theorem ofLine?_eq_none_iff_blank :
    Invocation.ofLine? line = none ↔ Text.isBlankText line = true := by
  refine ⟨fun h => ?_, ofLine?_of_blank⟩
  cases told : Text.isBlankText line with
  | true => rfl
  | false => exact absurd (ofLine?_eq_none_iff.mp h) (Text.words_ne_nil told)

theorem told_of_ofLine? (h : Invocation.ofLine? line = some inv) :
    Text.isBlankText line = false := by
  cases blank : Text.isBlankText line with
  | false => rfl
  | true => cases (ofLine?_of_blank blank).symm.trans h

theorem words_of_ofLine? (h : Invocation.ofLine? line = some inv) :
    Text.words line = inv.name :: inv.args := by
  rw [Invocation.ofLine?] at h
  split at h
  · cases h
  · rename_i hw
    obtain rfl := Option.some.inj h
    exact hw

/-- A bare `exit` leaves at every step, and nothing else does. -/
theorem advance_eq_exit_iff :
    advance step inv cwd tree = .exit ↔ inv.name = "exit" ∧ inv.args = [] := by
  rw [advance]
  constructor
  · intro h
    split at h
    · assumption
    · split at h
      · cases h
      · split at h <;> cases h
  · intro h
    rw [if_pos h]

/-- All that an accepted command says about the step it was accepted at. -/
theorem accepted_cases {next : Option Nat} (h : advance step inv cwd tree = .accepted next) :
    next = following step ∧
      ∀ current : Step, steps[step]? = some current → current.accepts inv cwd tree = true := by
  rw [advance] at h
  split at h
  · cases h
  · split at h
    · rename_i beyond
      have last : ¬ step + 1 < steps.length := by
        rw [List.getElem?_eq_none_iff] at beyond
        omega
      refine ⟨?_, ?_⟩
      · rw [following, if_neg last]
        exact (Advance.accepted.inj h).symm
      · intro current found
        rw [beyond] at found
        cases found
    · rename_i current found
      split at h
      · rename_i accepts
        refine ⟨(Advance.accepted.inj h).symm, ?_⟩
        intro other same
        rw [found] at same
        exact Option.some.inj same ▸ accepts
      · cases h

/-- What is accepted leads one step on, and after the last step to the end. -/
theorem next_of_accepted {next : Option Nat} (bound : step < 7)
    (h : advance step inv cwd tree = .accepted next) :
    next = if step = 6 then none else some (step + 1) := by
  rw [(accepted_cases h).1, following, length_steps]
  by_cases last : step = 6
  · simp [last]
  · have more : step + 1 < 7 := by omega
    simp [last, more]

end Tutorial

namespace Session
variable {σ : Type}

/-! ### Modes after operations -/

theorem mode_accept (s : Session σ) (output : Output) :
    (s.accept output).mode = s.mode ∨ (s.accept output).mode.IsEntered := by
  cases output with
  | text t =>
    left
    simp only [accept]
    split <;> rfl
  | rich blocks =>
    left
    simp only [accept]
    split <;> rfl
  | clear => exact Or.inl rfl
  | directive d =>
    cases d with
    | requestPassword action => exact Or.inr (.password action)
    | setTheme theme => exact Or.inl rfl
    | startTutorial => exact Or.inr .tutorial
    | startGame => exact Or.inr (.running .game)
    | openViewer filename content => exact Or.inr (.running (.viewer filename content))
    | openEditor post => exact Or.inr (.running (.editor post))

theorem mode_historyUp (s : Session σ) : s.historyUp.mode = s.mode := by
  rw [historyUp]
  split <;> rfl

theorem mode_historyDown (s : Session σ) : s.historyDown.mode = s.mode := by
  rw [historyDown]
  split <;> rfl

theorem historyUp_running {s : Session σ} {program : Subprogram} (h : s.mode = .running program) :
    s.historyUp = s := by
  simp only [historyUp, h]

theorem historyDown_running {s : Session σ} {program : Subprogram}
    (h : s.mode = .running program) : s.historyDown = s := by
  simp only [historyDown, h]

theorem exitProgram_of_not_running {s : Session σ} (h : ∀ p, s.mode ≠ .running p) :
    s.exitProgram = s := by
  rw [exitProgram]
  split
  · rename_i program hp
    exact absurd hp (h program)
  · rfl

theorem mode_exitProgram {s : Session σ} {program : Subprogram} (h : s.mode = .running program) :
    s.exitProgram.mode = .normal := by
  simp [exitProgram, h, print]

theorem cancelEdit_of_not_editing {s : Session σ} (h : ∀ post, s.mode ≠ .running (.editor post)) :
    s.cancelEdit = s := by
  rw [cancelEdit]
  split
  · rename_i post hp
    exact absurd hp (h post)
  · rfl

variable [Backend σ]

theorem mode_tab (s : Session σ) : s.tab.mode = s.mode := by
  cases h : s.mode.takesCommands with
  | true =>
    rw [tab_of_commands h, completed]
    split <;> rfl
  | false => rw [tab_of_no_commands h]

theorem mode_runCommand (s : Session σ) (line : String) :
    (s.runCommand line).mode = s.mode ∨ (s.runCommand line).mode.IsEntered := by
  rw [runCommand_eq, acting]
  split
  · exact mode_accept _ _
  · exact Or.inl rfl

theorem mode_submitPassword (s : Session σ) (action : AuthAction) (password : String) :
    (s.submitPassword action password).mode = .normal := by
  rw [submitPassword_eq]
  rfl

/-- An event that submits nothing changes the mode of full-screen programs only. -/
theorem mode_step_of_not_submitted {s : Session σ} {event : Event}
    (quiet : s.submitted? event = none) (h : ∀ p, s.mode ≠ .running p) :
    (s.step event).mode = s.mode := by
  cases event with
  | submit => cases quiet
  | submitLine line => cases quiet
  | tab => exact s.mode_tab
  | setInput input => rfl
  | historyUp => exact s.mode_historyUp
  | historyDown => exact s.mode_historyDown
  | exitProgram => rw [step, exitProgram_of_not_running h]
  | saveEdit content => rw [step, saveEdit_of_not_editing fun post => h (.editor post)]
  | cancelEdit => rw [step, cancelEdit_of_not_editing fun post => h (.editor post)]
  | sync => rfl
  | setTheme theme => rfl

/-! ### Each mode -/

/-- What a line does to the mode at a step of the tutorial, seen from the mode after it. -/
def TutorialLaw (step : Nat) (line cwd : String) (tree : Tree) (after : Mode) : Prop :=
  (Text.words line = ["exit"] ∧ after = .normal) ∨
  (Tutorial.Accepts step line cwd tree ∧
    after = if step = 6 then .normal else .tutorial (step + 1)) ∨
  (Text.words line ≠ ["exit"] ∧ ¬ Tutorial.Accepts step line cwd tree ∧ after = .tutorial step)

theorem tutorialLaw_of_blank {step : Nat} {line cwd : String} {tree : Tree}
    (blank : Text.isBlankText line = true) :
    TutorialLaw step line cwd tree (.tutorial step) := by
  refine Or.inr (Or.inr ⟨?_, ?_, rfl⟩)
  · simp [Text.words_of_blank blank]
  · rintro ⟨inv, next, hinv, _⟩
    rw [Tutorial.ofLine?_of_blank blank] at hinv
    cases hinv

theorem tutorialLaw_runTutorial {s : Session σ} {step : Nat} (h : s.mode = .tutorial step)
    (bound : step < 7) (line : String) :
    TutorialLaw step line s.cwd s.setting.tree (s.runTutorial step line).mode := by
  cases hinv : Invocation.ofLine? line with
  | none =>
    rw [runTutorial_none hinv]
    refine Or.inr (Or.inr ⟨?_, ?_, h⟩)
    · simp [Tutorial.ofLine?_eq_none_iff.mp hinv]
    · rintro ⟨inv, next, hsome, _⟩
      rw [hinv] at hsome
      cases hsome
  | some inv =>
    have hwords := Tutorial.words_of_ofLine? hinv
    cases hadv : Tutorial.advance step inv s.cwd s.setting.tree with
    | exit =>
      rw [runTutorial_exit hinv hadv]
      obtain ⟨hname, hargs⟩ := Tutorial.advance_eq_exit_iff.mp hadv
      exact Or.inl ⟨by rw [hwords, hname, hargs], rfl⟩
    | rejected =>
      rw [runTutorial_rejected hinv hadv]
      refine Or.inr (Or.inr ⟨?_, ?_, h⟩)
      · intro bare
        rw [hwords] at bare
        have hexit : Tutorial.advance step inv s.cwd s.setting.tree = .exit :=
          Tutorial.advance_eq_exit_iff.mpr (List.cons.inj bare)
        rw [hadv] at hexit
        cases hexit
      · rintro ⟨other, next, hother, hacc⟩
        obtain rfl : inv = other := Option.some.inj (hinv.symm.trans hother)
        rw [hadv] at hacc
        cases hacc
    | accepted next =>
      rw [runTutorial_accepted hinv hadv]
      refine Or.inr (Or.inl ⟨⟨inv, next, hinv, hadv⟩, ?_⟩)
      rw [Tutorial.next_of_accepted bound hadv]
      rw [runAccepted_eq, passing]
      split <;> rfl

theorem tutorialLaw_submitLine {s : Session σ} {step : Nat} (h : s.mode = .tutorial step)
    (bound : step < 7) (line : String) :
    TutorialLaw step line s.cwd s.setting.tree (s.submitLine line).mode := by
  rw [submitLine_tutorial h]
  cases blank : Text.isBlankText line with
  | true =>
    rw [submitText_blank blank]
    exact h ▸ tutorialLaw_of_blank blank
  | false =>
    rw [submitText_told blank]
    exact tutorialLaw_runTutorial (s := (s.setInput "").taking line) h bound line

theorem mode_submitLine_normal {s : Session σ} (h : s.mode = .normal) (line : String)
    (left : (s.submitLine line).mode ≠ .normal) :
    (s.submitLine line).mode.IsEntered ∧ Text.isBlankText line = false := by
  rw [submitLine_normal h] at left ⊢
  cases blank : Text.isBlankText line with
  | true =>
    rw [submitText_blank blank] at left
    exact absurd h left
  | false =>
    rw [submitText_told blank] at left ⊢
    refine ⟨?_, rfl⟩
    rcases ((s.setInput "").taking line).mode_runCommand line with same | entered
    · exact absurd (same.trans h) left
    · exact entered

/-- A full-screen program ends when it is left, the editor also when it is cancelled and when the
backend takes what it saves. -/
def Ends (s : Session σ) (program : Subprogram) (event : Event) : Prop :=
  event = .exitProgram ∨ ∃ post, program = .editor post ∧
    (event = .cancelEdit ∨ ∃ content, event = .saveEdit content ∧
      (Backend.updateContent post.id content s.backend).1 = .ok ())

theorem mode_saveEdit {s : Session σ} {post : Post} (h : s.mode = .running (.editor post))
    (content : String) :
    ((Backend.updateContent post.id content s.backend).1 = .ok () ∧
      (s.saveEdit content).mode = .normal) ∨
    ((Backend.updateContent post.id content s.backend).1 ≠ .ok () ∧
      (s.saveEdit content).mode = .running (.editor post)) := by
  rw [saveEdit_editing h]
  cases (Backend.updateContent post.id content s.backend).1 with
  | ok done => exact Or.inl ⟨rfl, rfl⟩
  | error e => exact Or.inr ⟨by simp, h⟩

theorem mode_step_running {s : Session σ} {program : Subprogram} (h : s.mode = .running program)
    (event : Event) :
    (s.Ends program event → (s.step event).mode = .normal) ∧
      (¬ s.Ends program event → (s.step event).mode = .running program) := by
  have stays : ¬ s.Ends program event → (s.step event).mode = s.mode →
      (s.Ends program event → (s.step event).mode = .normal) ∧
        (¬ s.Ends program event → (s.step event).mode = .running program) :=
    fun goesOn same => ⟨fun ends => absurd ends goesOn, fun _ => same.trans h⟩
  cases event with
  | submit => exact stays (by simp [Ends]) (by rw [step, submit, submitLine_running h]; rfl)
  | submitLine line => exact stays (by simp [Ends]) (by rw [step, submitLine_running h]; rfl)
  | tab => exact stays (by simp [Ends]) s.mode_tab
  | setInput input => exact stays (by simp [Ends]) rfl
  | historyUp => exact stays (by simp [Ends]) s.mode_historyUp
  | historyDown => exact stays (by simp [Ends]) s.mode_historyDown
  | sync => exact stays (by simp [Ends]) rfl
  | setTheme theme => exact stays (by simp [Ends]) rfl
  | exitProgram => exact ⟨fun _ => mode_exitProgram h, fun goesOn => absurd (Or.inl rfl) goesOn⟩
  | cancelEdit =>
    cases program with
    | editor post =>
      have ends : s.Ends (.editor post) .cancelEdit := Or.inr ⟨post, rfl, Or.inl rfl⟩
      have after : s.cancelEdit.mode = .normal := by
        simp only [cancelEdit, h]
        exact mode_exitProgram h
      exact ⟨fun _ => after, fun goesOn => absurd ends goesOn⟩
    | game =>
      exact stays (by simp [Ends]) (by rw [step, cancelEdit_of_not_editing (by simp [h])])
    | viewer filename content =>
      exact stays (by simp [Ends]) (by rw [step, cancelEdit_of_not_editing (by simp [h])])
  | saveEdit content =>
    cases program with
    | editor post =>
      rcases mode_saveEdit h content with ⟨saved, after⟩ | ⟨failed, after⟩
      · have ends : s.Ends (.editor post) (.saveEdit content) :=
          Or.inr ⟨post, rfl, Or.inr ⟨content, rfl, saved⟩⟩
        exact ⟨fun _ => after, fun goesOn => absurd ends goesOn⟩
      · exact stays (by simp [Ends, failed]) (after.trans h.symm)
    | game =>
      exact stays (by simp [Ends]) (by rw [step, saveEdit_of_not_editing (by simp [h])])
    | viewer filename text =>
      exact stays (by simp [Ends]) (by rw [step, saveEdit_of_not_editing (by simp [h])])

/-! ### Asleep at the prompt -/

/-- The prompt of a running program: whatever is typed there moves the input and nothing else. -/
theorem step_asleep {s : Session σ} {program : Subprogram} (h : s.mode = .running program)
    {event : Event} (typed : event.isAtPrompt = true) :
    ∃ input suggestions,
      s.step event = { s with input := input, suggestions := suggestions } := by
  have asleep : s.mode.takesCommands = false := by simp [h, Mode.takesCommands]
  cases event with
  | submit => exact ⟨"", [], by rw [step, submit, submitLine_running h]; rfl⟩
  | submitLine line => exact ⟨"", [], by rw [step, submitLine_running h]; rfl⟩
  | tab => exact ⟨s.input, s.suggestions, by rw [step, tab_of_no_commands asleep]⟩
  | historyUp => exact ⟨s.input, s.suggestions, historyUp_running h⟩
  | historyDown => exact ⟨s.input, s.suggestions, historyDown_running h⟩
  | _ => cases typed

theorem run_asleep {s : Session σ} {program : Subprogram} (h : s.mode = .running program)
    {events : List Event} (typed : ∀ event ∈ events, event.isAtPrompt = true) :
    ∃ input suggestions, s.run events = { s with input := input, suggestions := suggestions } := by
  induction events generalizing s with
  | nil => exact ⟨s.input, s.suggestions, rfl⟩
  | cons event rest ih =>
    obtain ⟨input, suggestions, hstep⟩ := step_asleep h (typed event List.mem_cons_self)
    have hmode : (s.step event).mode = .running program := by rw [hstep]; exact h
    obtain ⟨last, listed, hrun⟩ := ih hmode fun e he => typed e (List.mem_cons_of_mem event he)
    refine ⟨last, listed, ?_⟩
    have hcons : s.run (event :: rest) = (s.step event).run rest := rfl
    rw [hcons, hrun, hstep]

/-! ### The law of modes -/

/-- What events do to the mode of a session. -/
structure ModeLaw (s : Session σ) : Prop where
  /-- A line that is not blank leads out of normal mode, and nothing else does. -/
  normal : s.mode = .normal → ∀ event, (s.step event).mode ≠ .normal →
    (s.step event).mode.IsEntered ∧
      ∃ line, s.submitted? event = some line ∧ Text.isBlankText line = false
  /-- Every line ends the request for a password, and nothing else does. -/
  password : ∀ action, s.mode = .password action → ∀ event,
    (s.step event).mode = if (s.submitted? event).isSome then .normal else .password action
  tutorial : ∀ step, s.mode = .tutorial step → step < 7 ∧ ∀ event,
    (∀ line, s.submitted? event = some line →
      TutorialLaw step line s.cwd s.setting.tree (s.step event).mode) ∧
    (s.submitted? event = none → (s.step event).mode = .tutorial step)
  running : ∀ program, s.mode = .running program → ∀ event,
    (s.Ends program event → (s.step event).mode = .normal) ∧
      (¬ s.Ends program event → (s.step event).mode = .running program)
  asleep : ∀ program, s.mode = .running program → ∀ events : List Event,
    (∀ event ∈ events, event.isAtPrompt = true) →
      ∃ input suggestions, s.run events = { s with input := input, suggestions := suggestions }

theorem mode_step_normal {s : Session σ} (h : s.mode = .normal) {event : Event}
    (left : (s.step event).mode ≠ .normal) :
    (s.step event).mode.IsEntered ∧
      ∃ line, s.submitted? event = some line ∧ Text.isBlankText line = false := by
  cases submits : s.submitted? event with
  | none =>
    have same := mode_step_of_not_submitted submits (by simp [h])
    exact absurd (same.trans h) left
  | some line =>
    rw [step_of_submitted submits] at left ⊢
    obtain ⟨entered, told⟩ := mode_submitLine_normal h line left
    exact ⟨entered, line, rfl, told⟩

theorem mode_step_password {s : Session σ} {action : AuthAction} (h : s.mode = .password action)
    (event : Event) :
    (s.step event).mode = if (s.submitted? event).isSome then .normal else .password action := by
  cases submits : s.submitted? event with
  | none => exact (mode_step_of_not_submitted submits (by simp [h])).trans h
  | some line =>
    rw [step_of_submitted submits, submitLine_password h]
    exact mode_submitPassword _ action line

theorem mode_step_tutorial {s : Session σ} {step : Nat} (h : s.mode = .tutorial step)
    (bound : step < 7) (event : Event) :
    (∀ line, s.submitted? event = some line →
      TutorialLaw step line s.cwd s.setting.tree (s.step event).mode) ∧
    (s.submitted? event = none → (s.step event).mode = .tutorial step) := by
  constructor
  · intro line submits
    rw [step_of_submitted submits]
    exact tutorialLaw_submitLine h bound line
  · intro submits
    exact (mode_step_of_not_submitted submits (by simp [h])).trans h

theorem isBounded_step {s : Session σ} (h : s.mode.IsBounded) (event : Event) :
    (s.step event).mode.IsBounded := by
  intro next hnext
  cases hm : s.mode with
  | normal =>
    have left : (s.step event).mode ≠ .normal := by simp [hnext]
    have entered := (mode_step_normal hm left).1
    rw [hnext] at entered
    cases entered
    omega
  | password action =>
    have hp := mode_step_password hm event
    rw [hnext] at hp
    split at hp <;> cases hp
  | running program =>
    obtain ⟨ends, goesOn⟩ := mode_step_running hm event
    by_cases he : s.Ends program event
    · rw [ends he] at hnext
      cases hnext
    · rw [goesOn he] at hnext
      cases hnext
  | tutorial step =>
    have bound := h step hm
    obtain ⟨told, quiet⟩ := mode_step_tutorial hm bound event
    cases submits : s.submitted? event with
    | none =>
      rw [quiet submits] at hnext
      cases hnext
      exact bound
    | some line =>
      rcases told line submits with ⟨_, after⟩ | ⟨_, after⟩ | ⟨_, _, after⟩
      · rw [hnext] at after
        cases after
      · rw [hnext] at after
        split at after
        · cases after
        · cases after
          omega
      · rw [hnext] at after
        cases after
        exact bound

theorem Reachable.isBounded {site : Site} {s : Session σ} (reach : Reachable site s) :
    s.mode.IsBounded := by
  induction reach with
  | start backend host => intro step h; cases h
  | withScrollback _ _ ih => exact ih
  | register _ _ ih => exact ih
  | setClock _ _ ih => exact ih
  | changeBackend _ _ ih => exact ih
  | step event _ ih => exact isBounded_step ih event

/-- Every reachable session keeps the law of modes. -/
theorem modeLaw_of_reachable {site : Site} {s : Session σ} (reach : Reachable site s) :
    ModeLaw s where
  normal h _ left := mode_step_normal h left
  password _ h event := mode_step_password h event
  tutorial step h := ⟨reach.isBounded step h, mode_step_tutorial h (reach.isBounded step h)⟩
  running _ h event := mode_step_running h event
  asleep _ h _ typed := run_asleep h typed

/-- A session at the second step of the tutorial. -/
theorem modeLaw_after_pwd :
    ∃ s : Session Store, Reachable .builtin s ∧ s.mode = .tutorial 1 ∧ ModeLaw s := by
  have reach := reachable_ofBuiltin.run [.submitLine "tutorial", .submitLine "pwd"]
  exact ⟨_, reach, by decide +kernel, modeLaw_of_reachable reach⟩

end Session

end PortfolioShell
