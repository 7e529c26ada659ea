import PortfolioShell.Proofs.Sessions
import PortfolioShell.Proofs.Trees

/-!
# The working directory

The directory of a session is written in normal form and names a directory of the site's tree, in
every reachable session. Commands are the only way to another directory. The invariant is kept
because `cd` looks up the very path that it resolves, and because the directory of projects is in
every tree of a site.
-/
namespace PortfolioShell

/-- A path in normal form that names a directory. -/
def Tree.IsPlace (tree : Tree) (path : String) : Prop :=
  Path.IsNormal path ∧ ∃ children, tree.node? path Path.root = some (.directory children)

namespace Tree

theorem isPlace_root (tree : Tree) : tree.IsPlace Path.root :=
  ⟨Path.isNormal_root, tree.children, node?_root tree Path.root⟩

theorem isPlace_projectsDir {tree : Tree} (h : tree.HasDirectory projectsName) :
    tree.IsPlace projectsDir :=
  ⟨isNormal_projectsDir, node?_projectsDir h Path.root⟩

/-- What a path finds from a directory is found from the root once the path is resolved. -/
theorem isPlace_resolve {tree : Tree} {path cwd : String} {children : List (String × Node)}
    (found : tree.node? path cwd = some (.directory children)) :
    tree.IsPlace (Path.resolve path cwd) :=
  ⟨Path.isNormal_resolve path cwd, children, (node?_resolve tree path cwd Path.root).trans found⟩

end Tree

/-! ### Commands -/

theorem Files.isPlace_cd {args : List String} {cwd target : String} {tree : Tree}
    (h : (cd args cwd tree).2 = some target) : tree.IsPlace target := by
  unfold cd at h
  simp only at h
  split at h
  · cases h
  · cases h
  · rename_i children found
    obtain rfl := Option.some.inj h
    exact Tree.isPlace_resolve found

section
variable {σ : Type} [Backend σ]

/-- Two commands only ask for a directory to change to. -/
theorem FileCommand.stays_run {command : FileCommand} (notProjects : command ≠ .projects)
    (notCd : command ≠ .cd) (args : List String) (cwd : String) (setting : Setting) (backend : σ) :
    (command.run args cwd setting backend).1.cwd = none := by
  cases command with
  | projects => exact absurd rfl notProjects
  | cd => exact absurd rfl notCd
  | ls => rfl
  | pwd => rfl
  | cat => rfl
  | grep => rfl
  | vim => rfl

/-- A directory that a file command asks for is a place of its tree. -/
theorem FileCommand.isPlace_run {command : FileCommand} {args : List String}
    {cwd target : String} {setting : Setting} {backend : σ}
    (projects : setting.tree.HasDirectory Tree.projectsName)
    (h : (command.run args cwd setting backend).1.cwd = some target) :
    setting.tree.IsPlace target := by
  by_cases isProjects : command = .projects
  · subst isProjects
    simp only [FileCommand.run, Files.projects, pure_apply, Option.some.injEq] at h
    exact h ▸ Tree.isPlace_projectsDir projects
  by_cases isCd : command = .cd
  · subst isCd
    simp only [FileCommand.run, pure_apply] at h
    exact Files.isPlace_cd h
  rw [FileCommand.stays_run isProjects isCd] at h
  cases h

/-- No matter under which name and from where: a command only asks for places. -/
theorem Invocation.isPlace_execute {inv : Invocation} {setting : Setting} {cwd target : String}
    {backend : σ} (projects : setting.tree.HasDirectory Tree.projectsName)
    (h : (inv.execute setting cwd backend).1.cwd = some target) :
    setting.tree.IsPlace target := by
  cases hg : setting.registry.get? inv.name with
  | none => simp [execute, hg, pure_apply] at h
  | some spec =>
    simp only [execute, hg] at h
    cases hh : spec.handler with
    | plain command => simp [hh, Handler.run, staying_apply] at h
    | file command =>
      simp only [hh, Handler.run] at h
      exact FileCommand.isPlace_run projects h

end

/-! ### Sessions -/

namespace Session
variable {σ : Type}

/-- Where a session stands: what its commands may read, and its directory. -/
def standing (s : Session σ) : Setting × String := (s.setting, s.cwd)

theorem standing_accept (s : Session σ) (output : Output) :
    (s.accept output).standing = s.standing := by
  cases output with
  | text t =>
    simp only [accept]
    split <;> rfl
  | rich blocks =>
    simp only [accept]
    split <;> rfl
  | clear => rfl
  | directive d => cases d <;> rfl

theorem standing_acting (s : Session σ) (outcome : Dispatch) :
    (s.acting outcome).standing = (s.setting, outcome.cwd.getD s.cwd) := by
  rw [acting]
  split
  · rw [standing_accept]
    rfl
  · rfl

theorem standing_historyUp (s : Session σ) : s.historyUp.standing = s.standing := by
  rw [historyUp]
  split <;> rfl

theorem standing_historyDown (s : Session σ) : s.historyDown.standing = s.standing := by
  rw [historyDown]
  split <;> rfl

theorem standing_exitProgram (s : Session σ) : s.exitProgram.standing = s.standing := by
  rw [exitProgram]
  split <;> rfl

theorem standing_cancelEdit (s : Session σ) : s.cancelEdit.standing = s.standing := by
  rw [cancelEdit]
  split
  · exact s.standing_exitProgram
  · rfl

variable [Backend σ]

theorem standing_tab (s : Session σ) : s.tab.standing = s.standing := by
  cases h : s.mode.takesCommands with
  | true =>
    rw [tab_of_commands h, completed]
    split <;> rfl
  | false => rw [tab_of_no_commands h]

theorem standing_saveEdit (s : Session σ) (content : String) :
    (s.saveEdit content).standing = s.standing := by
  rw [saveEdit]
  split
  · simp only [ask_eq]
    split <;> rfl
  · rfl

theorem standing_runCommand (s : Session σ) (line : String) :
    (s.runCommand line).standing =
      (s.setting, (dispatch line s.setting s.cwd s.backend).1.cwd.getD s.cwd) := by
  rw [runCommand_eq, standing_acting]
  rfl

theorem standing_runAccepted (s : Session σ) (inv : Invocation) (step : Nat) (next : Option Nat) :
    (s.runAccepted inv step next).standing =
      (s.setting, (inv.execute s.setting s.cwd s.backend).1.cwd.getD s.cwd) := by
  rw [runAccepted_eq]
  rfl

/-- Without a line a session stays where it is. -/
theorem standing_step_of_not_submitted {s : Session σ} {event : Event}
    (quiet : s.submitted? event = none) : (s.step event).standing = s.standing := by
  cases event with
  | submit => cases quiet
  | submitLine line => cases quiet
  | tab => exact s.standing_tab
  | setInput input => rfl
  | historyUp => exact s.standing_historyUp
  | historyDown => exact s.standing_historyDown
  | exitProgram => exact s.standing_exitProgram
  | saveEdit content => exact s.standing_saveEdit content
  | cancelEdit => exact s.standing_cancelEdit
  | sync => rfl
  | setTheme theme => rfl

/-! ### The invariant -/

/-- The tree is that of a site, and the directory is a place of it. -/
def Settled (site : Site) (standing : Setting × String) : Prop :=
  standing.1.tree = .ofSite site ∧ standing.1.tree.IsPlace standing.2

variable {site : Site} {setting : Setting} {cwd : String}

omit [Backend σ] in
theorem Settled.hasProjects (h : Settled site (setting, cwd)) :
    setting.tree.HasDirectory Tree.projectsName := by
  obtain ⟨tree, _⟩ := h
  exact tree ▸ Tree.hasDirectory_ofSite site

theorem Settled.execute (h : Settled site (setting, cwd)) (inv : Invocation) (backend : σ) :
    Settled site (setting, (inv.execute setting cwd backend).1.cwd.getD cwd) := by
  cases asked : (inv.execute setting cwd backend).1.cwd with
  | none => exact h
  | some target => exact ⟨h.1, Invocation.isPlace_execute h.hasProjects asked⟩

theorem Settled.dispatch (h : Settled site (setting, cwd)) (line : String) (backend : σ) :
    Settled site (setting, (dispatch line setting cwd backend).1.cwd.getD cwd) := by
  rw [PortfolioShell.dispatch]
  cases Invocation.ofLine? line with
  | none => exact h
  | some inv => exact h.execute inv backend

theorem settled_runTutorial {s : Session σ} (h : Settled site s.standing) (step : Nat)
    (line : String) : Settled site (s.runTutorial step line).standing := by
  rw [runTutorial]
  split
  · exact h
  · rename_i inv _
    split
    · exact h
    · exact h
    · rw [standing_runAccepted]
      exact h.execute inv s.backend

theorem settled_submitText {s : Session σ} (h : Settled site s.standing) (line : String)
    {run : Session σ → Session σ}
    (kept : ∀ t : Session σ, Settled site t.standing → Settled site (run t).standing) :
    Settled site (s.submitText line run).standing := by
  cases blank : Text.isBlankText line with
  | true =>
    rw [submitText_blank blank]
    exact h
  | false =>
    rw [submitText_told blank]
    exact kept (s.taking line) h

theorem settled_submitLine {s : Session σ} (h : Settled site s.standing) (line : String) :
    Settled site (s.submitLine line).standing := by
  have cleared : Settled site (s.setInput "").standing := h
  cases hm : s.mode with
  | normal =>
    rw [submitLine_normal hm]
    refine settled_submitText cleared line fun t ht => ?_
    rw [standing_runCommand]
    exact Settled.dispatch ht line t.backend
  | password action =>
    rw [submitLine_password hm]
    exact h
  | tutorial step =>
    rw [submitLine_tutorial hm]
    exact settled_submitText cleared line fun t ht => settled_runTutorial ht step line
  | running program =>
    rw [submitLine_running hm]
    exact h

/-- Every event leaves a session settled. -/
theorem settled_step {s : Session σ} (h : Settled site s.standing) (event : Event) :
    Settled site (s.step event).standing := by
  cases submits : s.submitted? event with
  | some line =>
    rw [step_of_submitted submits]
    exact settled_submitLine h line
  | none =>
    rw [standing_step_of_not_submitted submits]
    exact h

theorem Reachable.settled {s : Session σ} (reach : Reachable site s) :
    Settled site s.standing := by
  induction reach with
  | start backend host => exact ⟨rfl, Tree.isPlace_root _⟩
  | withScrollback _ _ ih => exact ih
  | register _ _ ih => exact ih
  | setClock _ _ ih => exact ih
  | changeBackend _ _ ih => exact ih
  | step event _ ih => exact settled_step ih event

/-- In every reachable session the directory is in normal form and names a directory of the tree
of the site, and so does every directory that a command asks to change to. -/
theorem directory_of_reachable {s : Session σ} (reach : Reachable site s) :
    s.setting.tree = .ofSite site ∧ s.setting.tree.IsPlace s.cwd ∧
      ∀ (inv : Invocation) (backend : σ) (target : String),
        (inv.execute s.setting s.cwd backend).1.cwd = some target →
          s.setting.tree.IsPlace target := by
  have settled := reach.settled
  refine ⟨settled.1, settled.2, ?_⟩
  intro inv backend target asked
  exact Invocation.isPlace_execute settled.hasProjects asked

/-- A session that has gone to its projects by way of another directory. -/
theorem directory_after_cd :
    ∃ s : Session Store, Reachable .builtin s ∧ s.cwd = "/projects" ∧
      s.setting.tree = .ofSite .builtin ∧ s.setting.tree.IsPlace s.cwd ∧
        ∀ (inv : Invocation) (backend : Store) (target : String),
          (inv.execute s.setting s.cwd backend).1.cwd = some target →
            s.setting.tree.IsPlace target := by
  have reach := reachable_ofBuiltin.run [.submitLine "cd mycode/../projects"]
  exact ⟨_, reach, by decide +kernel, directory_of_reachable reach⟩

end Session

end PortfolioShell
