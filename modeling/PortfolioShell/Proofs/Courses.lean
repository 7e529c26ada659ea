import PortfolioShell.Proofs.Lessons

/-!
# Courses of the tutorial

Two steps of the tutorial announce where the session has come to. They accept a line by its words,
while `cd` goes by the tree, so that an announcement can fail. During a course the directory is the
one the course was begun in, and behind `cd projects` the one that this led to from there. Whether
an announcement holds then depends on the first directory and on the word that is accepted.
-/
namespace PortfolioShell

/-! ### Where `cd` leads -/

namespace Tree

/-- The directory after `cd`: the one that the path names, and the old one if it names none. -/
def landing (tree : Tree) (path cwd : String) : String :=
  if tree.isDirectory path cwd then Path.resolve path cwd else cwd

theorem landing_root (tree : Tree) (cwd : String) : tree.landing Path.root cwd = Path.root := by
  have there : tree.isDirectory Path.root cwd = true :=
    isDirectory_iff.mpr ⟨tree.children, node?_root tree cwd⟩
  rw [landing, if_pos there]
  exact Path.resolve_of_isNormal Path.isNormal_root cwd

theorem segments_root : Path.segments Path.root = [] := rfl

theorem landing_of_absent {tree : Tree} {path cwd : String} (absent : tree.node? path cwd = none) :
    tree.landing path cwd = cwd := by
  have nowhere : ¬ tree.isDirectory path cwd = true := by
    rw [isDirectory_iff, absent]
    rintro ⟨children, found⟩
    cases found
  rw [landing, if_neg nowhere]

/-- No site has a directory under the name that the tutorial takes for the root. -/
theorem node?_home (site : Site) (cwd : String) : (ofSite site).node? "/home" cwd = none := by
  have plain : Path.IsPlain "home" := by refine ⟨?_, ?_, ?_, ?_⟩ <;> decide
  have normal : Path.IsNormal "/home" :=
    ⟨["home"], rfl, fun s hs => List.mem_singleton.mp hs ▸ plain⟩
  have parted : Path.segments "/home" = ["home"] :=
    (Path.segments_slash_append "home").trans (Path.segments_of_isSegment plain.isSegment)
  have missing : Node.child? (ofSite site).children "home" = none := by
    rw [child?_ofSite site (by decide) (by decide)]
    simp [base, Node.child?]
  rw [node?, Path.resolve_of_isNormal normal, parted, root, Node.descend?, missing]
  rfl

section
variable {tree : Tree} {cwd : String}

theorem IsPlace.eq_root_iff (place : tree.IsPlace cwd) :
    cwd = Path.root ↔ Path.segments cwd = [] := by
  constructor
  · rintro rfl
    rfl
  · intro none
    exact place.1.eq_of_segments Path.isNormal_root none

theorem IsPlace.eq_projectsDir_iff (place : tree.IsPlace cwd) :
    cwd = projectsDir ↔ Path.segments cwd = [projectsName] := by
  constructor
  · rintro rfl
    exact segments_projectsDir
  · intro one
    exact place.1.eq_of_segments isNormal_projectsDir (one.trans segments_projectsDir.symm)

/-- The parent of a place is a directory, so `cd ..` always leads there. -/
theorem landing_parent (place : tree.IsPlace cwd) :
    tree.landing ".." cwd = Path.resolve ".." cwd := by
  obtain ⟨normal, children, found⟩ := place
  have there : tree.isDirectory ".." cwd = true := by
    rw [isDirectory_iff, node?, Path.segments_parent normal]
    rw [node?, Path.resolve_of_isNormal normal] at found
    rcases List.eq_nil_or_concat (Path.segments cwd) with empty | ⟨above, last, parted⟩
    · exact ⟨tree.children, by rw [empty]; rfl⟩
    · rw [List.concat_eq_append] at parted
      rw [parted] at found ⊢
      rw [List.dropLast_concat]
      exact Node.exists_directory_of_descend? found
  rw [landing, if_pos there]

theorem segments_resolve_projectsName (place : tree.IsPlace cwd) :
    Path.segments (Path.resolve projectsName cwd) = Path.segments cwd ++ [projectsName] :=
  Path.segments_child place.1 isPlain_projectsName rfl

theorem isPlace_landing (place : tree.IsPlace cwd) (path : String) :
    tree.IsPlace (tree.landing path cwd) := by
  rw [landing]
  split
  · rename_i there
    obtain ⟨children, found⟩ := isDirectory_iff.mp there
    exact isPlace_resolve found
  · exact place

/-! ### Where `cd projects` leads -/

theorem isDirectory_projectsName_root (projects : tree.HasDirectory projectsName) :
    tree.isDirectory projectsName Path.root = true := by
  have same : Path.resolve projectsName Path.root = projectsDir := by decide +kernel
  obtain ⟨inner, found⟩ := node?_projectsDir projects Path.root
  rw [isDirectory_iff, ← node?_resolve tree projectsName Path.root Path.root, same]
  exact ⟨inner, found⟩

theorem ne_root_of_no_projects (projects : tree.HasDirectory projectsName)
    (nowhere : tree.isDirectory projectsName cwd = false) : cwd ≠ Path.root := by
  rintro rfl
  rw [isDirectory_projectsName_root projects] at nowhere
  cases nowhere

/-- It leads to the projects from the root, and leaves a session that is there already, unless the
projects have a directory of their name. -/
theorem landing_projectsName_eq_iff (projects : tree.HasDirectory projectsName)
    (place : tree.IsPlace cwd) :
    tree.landing projectsName cwd = projectsDir ↔
      cwd = Path.root ∨ cwd = projectsDir ∧ tree.isDirectory projectsName cwd = false := by
  have placed := isPlace_landing place projectsName
  rw [placed.eq_projectsDir_iff, landing]
  cases there : tree.isDirectory projectsName cwd with
  | true =>
    rw [if_pos rfl, segments_resolve_projectsName place, place.eq_root_iff]
    simp
  | false =>
    have notRoot := ne_root_of_no_projects projects there
    rw [if_neg Bool.false_ne_true, place.eq_projectsDir_iff]
    simp [notRoot]

/-- Where it leads is one level below the root if it was begun at the root, or begun one level below
it where no directory has that name. -/
theorem parent_landing_projectsName_iff (projects : tree.HasDirectory projectsName)
    (place : tree.IsPlace cwd) :
    Path.resolve ".." (tree.landing projectsName cwd) = Path.root ↔
      cwd = Path.root ∨
        tree.isDirectory projectsName cwd = false ∧ Path.resolve ".." cwd = Path.root := by
  cases there : tree.isDirectory projectsName cwd with
  | true =>
    have back : Path.resolve ".." (Path.resolve projectsName cwd) = cwd := by
      have below := Path.isNormal_resolve projectsName cwd
      refine (Path.isNormal_resolve _ _).eq_of_segments place.1 ?_
      rw [Path.segments_parent below, segments_resolve_projectsName place, List.dropLast_concat]
    rw [landing, if_pos there, back]
    simp
  | false =>
    have notRoot := ne_root_of_no_projects projects there
    rw [landing, there, if_neg Bool.false_ne_true]
    simp [notRoot]

theorem landing_projectsName_ne_root (projects : tree.HasDirectory projectsName)
    (place : tree.IsPlace cwd) : tree.landing projectsName cwd ≠ Path.root := by
  rw [landing]
  cases there : tree.isDirectory projectsName cwd with
  | true =>
    rw [if_pos rfl]
    intro atRoot
    have below := segments_resolve_projectsName place
    rw [atRoot, segments_root] at below
    simp at below
  | false =>
    rw [if_neg Bool.false_ne_true]
    exact ne_root_of_no_projects projects there

end

end Tree

theorem Files.cd_getD (path : String) (rest : List String) (cwd : String) (tree : Tree) :
    (cd (path :: rest) cwd tree).2.getD cwd = tree.landing path cwd := by
  cases found : tree.node? path cwd with
  | none => simp [cd, Tree.landing, Tree.isDirectory, found]
  | some node => cases node <;> simp [cd, Tree.landing, Tree.isDirectory, Node.isDirectory, found]

/-! ### The commands of the tutorial -/

/-- The commands that the tutorial takes up to its way home run under their own names. -/
structure Registry.Teaches (registry : Registry) : Prop where
  pwd : registry.Runs "pwd" (.file .pwd)
  ls : registry.Runs "ls" (.file .ls)
  cd : registry.Runs "cd" (.file .cd)
  cat : registry.Runs "cat" (.file .cat)

theorem Registry.teaches_builtin : Registry.builtin.Teaches where
  pwd := by decide +kernel
  ls := by decide +kernel
  cd := by decide +kernel
  cat := by decide +kernel

section
variable {σ : Type} [Backend σ] {setting : Setting} {inv : Invocation} {cwd : String}

theorem Invocation.execute_cd (runs : setting.registry.Runs "cd" (.file .cd)) {path : String}
    (name : inv.name = "cd") (head : inv.args.head? = some path) (backend : σ) :
    (inv.execute setting cwd backend).1.cwd.getD cwd = setting.tree.landing path cwd := by
  obtain ⟨rest, args⟩ := List.head?_eq_some_iff.mp head
  rw [execute_of_runs (name ▸ runs), args]
  simp only [Handler.run, FileCommand.run, pure_apply]
  exact Files.cd_getD path rest cwd setting.tree

end

namespace Tutorial

variable {step : Nat} {inv : Invocation} {cwd : String} {tree : Tree} {next : Option Nat}

theorem accepts_of_accepted {current : Step} (h : advance step inv cwd tree = .accepted next)
    (found : steps[step]? = some current) : current.accepts inv cwd tree = true :=
  (accepted_cases h).2 current found

theorem eq_succ_of_accepted {later : Nat}
    (h : advance step inv cwd tree = .accepted (some later)) : later = step + 1 := by
  have followed := (accepted_cases h).1
  rw [following] at followed
  split at followed
  · exact Option.some.inj followed
  · cases followed

theorem cd_of_accepted_two (h : advance 2 inv cwd tree = .accepted next) :
    inv.name = "cd" ∧ inv.args.head? = some Tree.projectsName := by
  have accepts := accepts_of_accepted h rfl
  simpa [Tree.projectsName] using accepts

theorem cd_of_accepted_five (h : advance 5 inv cwd tree = .accepted next) :
    inv.name = "cd" ∧ ∃ path, inv.args.head? = some path ∧
      (path = ".." ∨ path = "/home" ∨ path = "/") := by
  have accepts : goesHome inv cwd tree = true := accepts_of_accepted h rfl
  rw [goesHome] at accepts
  obtain ⟨name, word⟩ := Bool.and_eq_true_iff.mp accepts
  refine ⟨by simpa using name, ?_⟩
  split at word
  · cases word
  · rename_i path rest args
    refine ⟨path, by simp [args], ?_⟩
    simpa [or_assoc] using word

/-- The other steps up to the fifth take commands that stay where they are. -/
theorem stays_of_accepted {registry : Registry} (teaches : registry.Teaches) (early : step < 5)
    (notTwo : step ≠ 2) (h : advance step inv cwd tree = .accepted next) :
    ∃ command, registry.Runs inv.name (.file command) ∧ command ≠ .projects ∧ command ≠ .cd := by
  match step with
  | 0 =>
    have accepts := accepts_of_accepted h rfl
    have name : inv.name = "pwd" := by simpa using accepts
    exact ⟨.pwd, name ▸ teaches.pwd, by decide, by decide⟩
  | 1 | 3 =>
    have accepts := accepts_of_accepted h rfl
    have name : inv.name = "ls" := by simpa using accepts
    exact ⟨.ls, name ▸ teaches.ls, by decide, by decide⟩
  | 2 => exact absurd rfl notTwo
  | 4 =>
    have accepts : namesFile inv cwd tree = true := accepts_of_accepted h rfl
    rw [namesFile] at accepts
    have name : inv.name = "cat" := by simpa using (Bool.and_eq_true_iff.mp accepts).1
    exact ⟨.cat, name ▸ teaches.cat, by decide, by decide⟩
  | later + 5 => omega

end Tutorial

namespace Session

variable {σ : Type} [Backend σ]

/-! ### One event in the tutorial -/

/-- A line that has been accepted at a step is carried out and leads to another step. -/
structure Passes (s : Session σ) (step : Nat) (line : String) (next : Option Nat)
    (inv : Invocation) (after : Session σ) : Prop where
  words : Invocation.ofLine? line = some inv
  accepted : Tutorial.advance step inv s.cwd s.setting.tree = .accepted next
  standing : after.standing =
    (s.setting, (inv.execute s.setting s.cwd s.backend).1.cwd.getD s.cwd)
  mode : after.mode = modeOfStep next

section
variable {s after : Session σ} {step : Nat} {line : String} {next : Option Nat} {inv : Invocation}

theorem Passes.setting_eq (passes : s.Passes step line next inv after) :
    after.setting = s.setting := congrArg Prod.fst passes.standing

theorem Passes.cwd_eq (passes : s.Passes step line next inv after) :
    after.cwd = (inv.execute s.setting s.cwd s.backend).1.cwd.getD s.cwd :=
  congrArg Prod.snd passes.standing

/-- An accepted `cd projects` goes where `cd` leads. -/
theorem Passes.cwd_two (passes : s.Passes 2 line next inv after)
    (teaches : s.setting.registry.Teaches) :
    after.cwd = s.setting.tree.landing Tree.projectsName s.cwd := by
  obtain ⟨name, head⟩ := Tutorial.cd_of_accepted_two passes.accepted
  rw [passes.cwd_eq, Invocation.execute_cd teaches.cd name head]

/-- An accepted way home goes where `cd` leads. -/
theorem Passes.cwd_five (passes : s.Passes 5 line next inv after)
    (teaches : s.setting.registry.Teaches) :
    ∃ path, (Text.words line)[1]? = some path ∧ (path = ".." ∨ path = "/home" ∨ path = "/") ∧
      after.cwd = s.setting.tree.landing path s.cwd := by
  obtain ⟨name, path, head, among⟩ := Tutorial.cd_of_accepted_five passes.accepted
  refine ⟨path, ?_, among, ?_⟩
  · rw [Tutorial.words_of_ofLine? passes.words, List.getElem?_cons_succ, ← List.head?_eq_getElem?]
    exact head
  · rw [passes.cwd_eq, Invocation.execute_cd teaches.cd name head]

/-- The other steps up to the fifth stay where they are. -/
theorem Passes.cwd_other (passes : s.Passes step line next inv after)
    (teaches : s.setting.registry.Teaches) (early : step < 5) (notTwo : step ≠ 2) :
    after.cwd = s.cwd := by
  obtain ⟨command, runs, notProjects, notCd⟩ :=
    Tutorial.stays_of_accepted teaches early notTwo passes.accepted
  rw [passes.cwd_eq, Invocation.execute_of_runs runs, Handler.run,
    FileCommand.stays_run notProjects notCd, Option.getD_none]

theorem passes_of_accepted (learning : s.mode = .tutorial step)
    (hinv : Invocation.ofLine? line = some inv)
    (hadv : Tutorial.advance step inv s.cwd s.setting.tree = .accepted next) :
    s.Passes step line next inv (s.submitLine line) := by
  rw [submitLine_accepted learning hinv hadv]
  exact ⟨hinv, hadv, rfl, rfl⟩

end

/-- Nothing but an accepted line leads on or to another directory. -/
theorem passes_or_stays {s : Session σ} {step : Nat} (learning : s.mode = .tutorial step)
    (event : Event) :
    (∃ line next inv, s.submitted? event = some line ∧ s.Passes step line next inv (s.step event)) ∨
      (s.step event).standing = s.standing ∧
        ((s.step event).mode = .tutorial step ∨ (s.step event).mode = .normal) := by
  cases submits : s.submitted? event with
  | none =>
    have same : (s.step event).mode = s.mode :=
      mode_step_of_not_submitted submits (by simp [learning])
    exact Or.inr ⟨standing_step_of_not_submitted submits, Or.inl (same.trans learning)⟩
  | some line =>
    rw [step_of_submitted submits]
    cases hinv : Invocation.ofLine? line with
    | none =>
      have blank := Tutorial.ofLine?_eq_none_iff_blank.mp hinv
      rw [submitLine_tutorial learning, submitText_blank blank]
      exact Or.inr ⟨rfl, Or.inl learning⟩
    | some inv =>
      cases hadv : Tutorial.advance step inv s.cwd s.setting.tree with
      | accepted next => exact Or.inl ⟨line, next, inv, rfl, passes_of_accepted learning hinv hadv⟩
      | exit =>
        rw [submitLine_exit learning hinv hadv]
        exact Or.inr ⟨rfl, Or.inr rfl⟩
      | rejected =>
        rw [submitLine_rejected learning hinv hadv]
        exact Or.inr ⟨rfl, Or.inl learning⟩

/-! ### Courses -/

/-- The sessions of a course: it is begun in a directory of a site, and goes on event by event for
as long as the tutorial is not left. -/
inductive Course (site : Site) (first : String) : Session σ → Prop
  | begin {s : Session σ} : Reachable site s → s.setting.registry.Teaches →
      s.mode = .tutorial 0 → s.cwd = first → Course site first s
  | step {s : Session σ} (event : Event) (step : Nat) : Course site first s →
      (s.step event).mode = .tutorial step → Course site first (s.step event)

section
variable {site : Site} {first : String} {s : Session σ}

/-- The command of its name begins a course where the session is. -/
theorem course_of_tutorial (reach : Reachable site s) (builtin : s.setting.registry = .builtin)
    (normal : s.mode = .normal) : Course site s.cwd (s.step (.submitLine "tutorial")) := by
  have words : Text.words "tutorial" = ["tutorial"] := by decide
  have runs : Registry.builtin.Runs "tutorial" (.plain .tutorial) := by decide
  have asked : dispatch "tutorial" s.setting s.cwd s.backend =
      (⟨some (.directive .startTutorial), none⟩, s.backend) := by
    rw [dispatch_of_runs words (builtin ▸ runs)]
    rfl
  have answer := submitLine_of_output normal asked
  refine .begin (reach.step _) ?_ ?_ ?_
  · rw [step, answer]
    exact builtin ▸ Registry.teaches_builtin
  · rw [step, answer]
    rfl
  · rw [step, answer]
    rfl

theorem Course.learning (course : Course site first s) : ∃ step, s.mode = .tutorial step := by
  cases course with
  | begin _ _ mode _ => exact ⟨0, mode⟩
  | step _ step _ mode => exact ⟨step, mode⟩

/-- Whether the tutorial goes on through events. -/
def staysLearning (s : Session σ) : List Event → Bool
  | [] => true
  | event :: rest =>
    match (s.step event).mode with
    | .tutorial _ => (s.step event).staysLearning rest
    | _ => false

theorem Course.run (course : Course site first s) {events : List Event}
    (stays : s.staysLearning events = true) : Course site first (s.run events) := by
  induction events generalizing s with
  | nil => exact course
  | cons event rest ih =>
    rw [staysLearning] at stays
    split at stays
    · rename_i step mode
      exact ih (course.step event step mode) stays
    · cases stays

theorem Course.reachable (course : Course site first s) : Reachable site s := by
  induction course with
  | begin reach _ _ _ => exact reach
  | step event _ _ _ ih => exact ih.step event

theorem Course.setting_step (course : Course site first s) (event : Event) :
    (s.step event).setting = s.setting := by
  obtain ⟨step, learning⟩ := course.learning
  rcases passes_or_stays learning event with ⟨_, _, _, _, passes⟩ | ⟨same, _⟩
  · exact passes.setting_eq
  · exact congrArg Prod.fst same

theorem Course.teaches (course : Course site first s) : s.setting.registry.Teaches := by
  induction course with
  | begin _ teaches _ _ => exact teaches
  | step event _ before _ ih => exact before.setting_step event ▸ ih

theorem Course.tree_eq (course : Course site first s) : s.setting.tree = .ofSite site :=
  course.reachable.settled.1

theorem Course.isPlace_first (course : Course site first s) : (Tree.ofSite site).IsPlace first := by
  induction course with
  | begin reach _ _ atFirst =>
    obtain ⟨tree, place⟩ := reach.settled
    exact atFirst ▸ tree ▸ place
  | step _ _ _ _ ih => exact ih

/-- The directory of a course at its steps up to the fifth. -/
def directoryAt (site : Site) (first : String) (step : Nat) : String :=
  if step ≤ 2 then first else (Tree.ofSite site).landing Tree.projectsName first

theorem directoryAt_of_le {step : Nat} (early : step ≤ 2) : directoryAt site first step = first :=
  if_pos early

theorem directoryAt_of_lt {step : Nat} (late : 2 < step) :
    directoryAt site first step = (Tree.ofSite site).landing Tree.projectsName first :=
  if_neg (by omega)

/-- What one accepted line does to the directory of a course. -/
theorem directoryAt_of_passes (tree : s.setting.tree = .ofSite site)
    (teaches : s.setting.registry.Teaches) {step later : Nat} {line : String} {inv : Invocation}
    {after : Session σ} (atStep : s.cwd = directoryAt site first step)
    (passes : s.Passes step line (some later) inv after) (early : later ≤ 5) :
    after.cwd = directoryAt site first later := by
  obtain rfl := Tutorial.eq_succ_of_accepted passes.accepted
  by_cases two : step = 2
  · subst two
    rw [passes.cwd_two teaches, atStep, tree, directoryAt_of_le (by omega),
      directoryAt_of_lt (by omega)]
  · rw [passes.cwd_other teaches (by omega) two, atStep]
    rcases Nat.lt_or_gt_of_ne two with before | behind
    · rw [directoryAt_of_le (by omega), directoryAt_of_le (by omega)]
    · rw [directoryAt_of_lt (by omega), directoryAt_of_lt (by omega)]

/-- During a course the directory depends on the step alone. -/
theorem Course.cwd_eq (course : Course site first s) {step : Nat}
    (learning : s.mode = .tutorial step) (early : step ≤ 5) :
    s.cwd = directoryAt site first step := by
  induction course generalizing step with
  | begin _ _ mode atFirst =>
    obtain rfl := Mode.tutorial.inj (mode.symm.trans learning)
    exact atFirst
  | @step s event _ before _ ih =>
    obtain ⟨earlier, was⟩ := before.learning
    -- The invariant is used at the step before, which differs from this one by a line that passes.
    rcases passes_or_stays was event with ⟨line, next, inv, _, passes⟩ | ⟨same, stays⟩
    · cases next with
      | none => cases passes.mode.symm.trans learning
      | some later =>
        obtain rfl := Mode.tutorial.inj (passes.mode.symm.trans learning)
        have succ := Tutorial.eq_succ_of_accepted passes.accepted
        exact directoryAt_of_passes before.tree_eq before.teaches (ih was (by omega)) passes early
    · have stayed : (s.step event).cwd = s.cwd := congrArg Prod.snd same
      rcases stays with mode | mode
      · obtain rfl := Mode.tutorial.inj (mode.symm.trans learning)
        exact stayed.trans (ih was early)
      · cases mode.symm.trans learning

/-- What is announced when `cd projects` has been accepted holds of the courses begun at the root,
and of those begun among the projects unless these have a directory of their name. What is announced
when the way home has been accepted holds of every course for the root itself, of no course for
`/home`, and for `..` of the courses that have come one level below the root. -/
theorem announced_of_course (course : Course site first s) {event : Event} {line : String}
    (submits : s.submitted? event = some line) :
    (s.mode = .tutorial 2 → Tutorial.Accepts 2 line s.cwd s.setting.tree →
      ((s.step event).cwd = "/projects" ↔
        first = "/" ∨ first = "/projects" ∧
          (Tree.ofSite site).isDirectory "projects" first = false)) ∧
    (s.mode = .tutorial 5 → Tutorial.Accepts 5 line s.cwd s.setting.tree →
      ((s.step event).cwd = "/" ↔
        (Text.words line)[1]? = some "/" ∨ (Text.words line)[1]? = some ".." ∧
          (first = "/" ∨ (Tree.ofSite site).isDirectory "projects" first = false ∧
            Path.resolve ".." first = "/"))) := by
  have projects := Tree.hasDirectory_ofSite site
  have place := course.isPlace_first
  rw [step_of_submitted submits]
  constructor
  · rintro learning ⟨inv, next, hinv, hadv⟩
    have passes := passes_of_accepted learning hinv hadv
    have here := (course.cwd_eq learning (by omega)).trans (directoryAt_of_le (by omega))
    rw [passes.cwd_two course.teaches, here, course.tree_eq]
    exact Tree.landing_projectsName_eq_iff projects place
  · rintro learning ⟨inv, next, hinv, hadv⟩
    have passes := passes_of_accepted learning hinv hadv
    have here := (course.cwd_eq learning (by omega)).trans (directoryAt_of_lt (by omega))
    obtain ⟨path, word, among, moved⟩ := passes.cwd_five course.teaches
    rw [moved, here, course.tree_eq, word]
    have landed := Tree.isPlace_landing place Tree.projectsName
    -- One case for each word that is accepted as the way home.
    rcases among with rfl | rfl | rfl
    · rw [Tree.landing_parent landed]
      refine (Tree.parent_landing_projectsName_iff projects place).trans ?_
      simp [Path.root, Tree.projectsName]
    · rw [Tree.landing_of_absent (Tree.node?_home site _)]
      have below : _ ≠ "/" := Tree.landing_projectsName_ne_root projects place
      simp [below]
    · have back (dir : String) : (Tree.ofSite site).landing "/" dir = "/" :=
        Tree.landing_root _ dir
      simp [back]

end

/-! ### Two courses on the site that comes with the terminal -/

/-- A session that began the tutorial in the directory of code samples, behind two steps. -/
def behindTwo : Session Store :=
  ((ofBuiltin.run [.submitLine "cd mycode"]).step (.submitLine "tutorial")).run
    [.submitLine "pwd", .submitLine "ls"]

/-- A session that began the tutorial at the root, behind five steps. -/
def behindFive : Session Store :=
  (ofBuiltin.step (.submitLine "tutorial")).run
    [.submitLine "pwd", .submitLine "ls", .submitLine "cd projects", .submitLine "ls",
      .submitLine "cat project-alpha.txt"]

theorem course_behindTwo : Course .builtin "/mycode" behindTwo := by
  have there : (ofBuiltin.run [.submitLine "cd mycode"]).cwd = "/mycode" := by decide +kernel
  have begun := course_of_tutorial (reachable_ofBuiltin.run [.submitLine "cd mycode"]) rfl
    (by decide +kernel)
  exact there ▸ begun.run (by decide +kernel)

theorem mode_behindFive : behindFive.mode = .tutorial 5 := by decide +kernel

theorem course_behindFive : Course .builtin "/" behindFive :=
  (course_of_tutorial reachable_ofBuiltin rfl rfl).run (by decide +kernel)

/-- Both ways home are accepted, and only one of them leads there. -/
theorem announced_behindFive :
    (behindFive.step (.submitLine "cd ..")).cwd = "/" ∧
      (behindFive.step (.submitLine "cd /home")).cwd ≠ "/" := by
  have parent : Tutorial.Accepts 5 "cd .." behindFive.cwd behindFive.setting.tree :=
    ⟨⟨"cd", [".."]⟩, some 6, by decide +kernel, by decide +kernel⟩
  have home : Tutorial.Accepts 5 "cd /home" behindFive.cwd behindFive.setting.tree :=
    ⟨⟨"cd", ["/home"]⟩, some 6, by decide +kernel, by decide +kernel⟩
  constructor
  · rw [(announced_of_course course_behindFive rfl).2 mode_behindFive parent]
    exact Or.inr ⟨by decide +kernel, Or.inl rfl⟩
  · rw [Ne, (announced_of_course course_behindFive rfl).2 mode_behindFive home]
    decide +kernel

/-- Two accepted lines after which the session is not where it is told to be. -/
theorem announced_in_vain :
    (Course .builtin "/mycode" behindTwo ∧ behindTwo.mode = .tutorial 2 ∧
      Tutorial.Accepts 2 "cd projects" behindTwo.cwd behindTwo.setting.tree ∧
        (behindTwo.step (.submitLine "cd projects")).cwd = "/mycode") ∧
    (Course .builtin "/" behindFive ∧ behindFive.mode = .tutorial 5 ∧
      Tutorial.Accepts 5 "cd /home" behindFive.cwd behindFive.setting.tree ∧
        (behindFive.step (.submitLine "cd /home")).cwd = "/projects") :=
  ⟨⟨course_behindTwo, by decide +kernel,
      ⟨⟨"cd", ["projects"]⟩, some 3, by decide +kernel, by decide +kernel⟩, by decide +kernel⟩,
    ⟨course_behindFive, mode_behindFive,
      ⟨⟨"cd", ["/home"]⟩, some 6, by decide +kernel, by decide +kernel⟩, by decide +kernel⟩⟩

end Session

end PortfolioShell
