import PortfolioShell.Proofs.Lookalikes

/-!
# What sessions leave alone

A session reaches its backend through calls only, and nothing but a submitted password signs anybody
in or up. So a relation between a state of the backend and later ones that holds across every other
call holds across every event of a session. A submitted password makes one call more.
-/
namespace PortfolioShell

variable {σ α β : Type} {R : σ → σ → Prop}

/-- A step that leaves a state related to the one it begins in. -/
def Along (R : σ → σ → Prop) (step : StateM σ α) : Prop := ∀ b, R b (step b).2

/-- A relation to later states that holds across every call but signing in and up. -/
structure IsFrame [Backend σ] (R : σ → σ → Prop) : Prop where
  refl : ∀ b, R b b
  trans : ∀ {b c d}, R b c → R c d → R b d
  currentUser : Along R Backend.currentUser
  signOut : Along R Backend.signOut
  about : Along R Backend.about
  publishedPosts : Along R Backend.publishedPosts
  allPosts : Along R Backend.allPosts
  findPost : ∀ slug, Along R (Backend.findPost slug)
  createPost : ∀ draft, Along R (Backend.createPost draft)
  publishPost : ∀ slug, Along R (Backend.publishPost slug)
  updateContent : ∀ id content, Along R (Backend.updateContent id content)
  tagPost : ∀ slug tags, Along R (Backend.tagPost slug tags)
  untagPost : ∀ slug tags, Along R (Backend.untagPost slug tags)
  searchSlugs : ∀ start, Along R (Backend.searchSlugs start)

/-- What only tells an answer takes no step of its own. -/
theorem Along.told {step : StateM σ α} (along : Along R step) {next : α → StateM σ β}
    (tells : ∀ answer, ∃ said, next answer = pure said) : Along R (step >>= next) := by
  intro b
  obtain ⟨said, told⟩ := tells (step b).1
  rw [bind_apply, told]
  exact along b

theorem Along.staying {output : StateM σ Output} (along : Along R output) :
    Along R (staying output) := along.told fun _ => ⟨_, rfl⟩

namespace IsFrame

variable [Backend σ]

theorem pure (frame : IsFrame R) (answer : α) : Along R (pure answer) := frame.refl

theorem bind (frame : IsFrame R) {step : StateM σ α} {next : α → StateM σ β}
    (first : Along R step) (second : ∀ answer, Along R (next answer)) :
    Along R (step >>= next) :=
  fun b => frame.trans (first b) (second (step b).1 (step b).2)

/-! ### Commands -/

theorem along_logout (frame : IsFrame R) : Along R (Account.logout (σ := σ)) :=
  frame.signOut.told fun answer => by cases answer <;> exact ⟨_, rfl⟩

theorem along_infoAbout (frame : IsFrame R) : Along R (Info.about (σ := σ)) :=
  frame.about.told fun answer => by cases answer <;> exact ⟨_, rfl⟩

theorem along_blog (frame : IsFrame R) : Along R (Blog.blog (σ := σ)) :=
  frame.publishedPosts.told fun answer => by split <;> exact ⟨_, rfl⟩

theorem along_showPost (frame : IsFrame R) (signedIn : Bool) (args : List String) :
    Along R (Blog.show? (σ := σ) signedIn args) := by
  cases args with
  | nil => exact frame.pure _
  | cons slug rest =>
    refine (frame.findPost slug).told fun answer => ?_
    split
    · split <;> exact ⟨_, rfl⟩
    all_goals exact ⟨_, rfl⟩

theorem along_new (frame : IsFrame R) (normalizer : Text.Normalizer) (user : User)
    (words : List String) : Along R (Blog.new (σ := σ) normalizer user words) := by
  unfold Blog.new
  dsimp only
  split
  · exact frame.pure _
  · split
    · exact frame.pure _
    · exact (frame.createPost _).told fun answer => by split <;> exact ⟨_, rfl⟩

theorem along_publish (frame : IsFrame R) (args : List String) :
    Along R (Blog.publish (σ := σ) args) := by
  cases args with
  | nil => exact frame.pure _
  | cons slug rest =>
    exact (frame.publishPost slug).told fun answer => by split <;> exact ⟨_, rfl⟩

theorem along_list (frame : IsFrame R) : Along R (Blog.list (σ := σ)) :=
  frame.allPosts.told fun answer => by split <;> exact ⟨_, rfl⟩

theorem along_edit (frame : IsFrame R) (args : List String) :
    Along R (Blog.edit (σ := σ) args) := by
  cases args with
  | nil => exact frame.pure _
  | cons slug rest =>
    exact (frame.findPost slug).told fun answer => by split <;> exact ⟨_, rfl⟩

theorem along_tag (frame : IsFrame R) (args : List String) : Along R (Blog.tag (σ := σ) args) := by
  unfold Blog.tag
  split
  · exact (frame.tagPost _ _).told fun answer => by split <;> exact ⟨_, rfl⟩
  · exact frame.pure _

theorem along_untag (frame : IsFrame R) (args : List String) :
    Along R (Blog.untag (σ := σ) args) := by
  unfold Blog.untag
  split
  · exact (frame.untagPost _ _).told fun answer => by split <;> exact ⟨_, rfl⟩
  · exact frame.pure _

theorem along_post (frame : IsFrame R) (normalizer : Text.Normalizer) (args : List String) :
    Along R (Blog.post (σ := σ) normalizer args) := by
  refine frame.bind frame.currentUser fun user => ?_
  cases user with
  | none =>
    dsimp only [Blog.forGuest]
    split
    · exact frame.along_showPost false args.tail
    · exact frame.pure _
  | some user =>
    dsimp only [Blog.forUser]
    split
    · exact frame.along_new normalizer user args.tail
    · exact frame.along_publish args.tail
    · exact frame.along_list
    · exact frame.along_showPost true args.tail
    · exact frame.along_edit args.tail
    · exact frame.along_tag args.tail
    · exact frame.along_untag args.tail
    · exact frame.pure _

theorem along_read (frame : IsFrame R) (site : Site) (content : FileContent) :
    Along R (Files.read (σ := σ) site content) := by
  cases content with
  | stored s => exact frame.pure _
  | produced source =>
    cases source with
    | contact => exact frame.pure _
    | about => exact frame.about.told fun answer => by cases answer <;> exact ⟨_, rfl⟩

variable {args : List String} {cwd : String} {setting : Setting}

theorem along_cat (frame : IsFrame R) : Along R (Files.cat (σ := σ) args cwd setting) := by
  unfold Files.cat
  split
  · exact frame.pure _
  · split
    · exact frame.pure _
    · exact frame.pure _
    · exact frame.pure _
    · exact (frame.along_read setting.site _).told fun answer => by split <;> exact ⟨_, rfl⟩

theorem along_grep (frame : IsFrame R) : Along R (Files.grep (σ := σ) args cwd setting) := by
  unfold Files.grep
  split
  · split
    · exact frame.pure _
    · exact frame.pure _
    · refine (frame.along_read setting.site _).told fun answer => ?_
      split
      · exact ⟨_, rfl⟩
      · exact ⟨_, rfl⟩
      · split <;> exact ⟨_, rfl⟩
  · exact frame.pure _

theorem along_vim (frame : IsFrame R) : Along R (Files.vim (σ := σ) args cwd setting) := by
  unfold Files.vim
  split
  · exact frame.pure _
  · split
    · exact frame.pure _
    · exact frame.pure _
    · exact (frame.along_read setting.site _).told fun answer => by split <;> exact ⟨_, rfl⟩

theorem along_plainCommand (frame : IsFrame R) (command : PlainCommand) :
    Along R (command.run (σ := σ) args setting) := by
  cases command with
  | about => exact frame.along_infoAbout
  | logout => exact frame.along_logout
  | whoami => exact frame.currentUser.told fun _ => ⟨_, rfl⟩
  | blog => exact frame.along_blog
  | post => exact frame.along_post setting.host.normalizer args
  | neofetch => exact frame.currentUser.told fun _ => ⟨_, rfl⟩
  | _ => exact frame.pure _

theorem along_fileCommand (frame : IsFrame R) (command : FileCommand) :
    Along R (command.run (σ := σ) args cwd setting) := by
  cases command with
  | cat => exact frame.along_cat.staying
  | grep => exact frame.along_grep.staying
  | vim => exact frame.along_vim.staying
  | _ => exact frame.pure _

theorem along_execute (frame : IsFrame R) (inv : Invocation) :
    Along R (inv.execute (σ := σ) setting cwd) := by
  unfold Invocation.execute
  split
  · exact frame.pure _
  · rename_i spec _
    cases spec.handler with
    | plain command => exact (frame.along_plainCommand command).staying
    | file command => exact frame.along_fileCommand command

theorem along_dispatch (frame : IsFrame R) (line : String) :
    Along R (dispatch (σ := σ) line setting cwd) := by
  unfold dispatch
  split
  · exact frame.pure _
  · exact frame.along_execute _

theorem along_ofSlug (frame : IsFrame R) (sub word : String) :
    Along R (Completion.ofSlug (σ := σ) sub word) := by
  unfold Completion.ofSlug
  split
  · exact frame.pure _
  · refine frame.bind frame.currentUser fun user => ?_
    dsimp only
    split
    · exact frame.pure _
    · exact (frame.searchSlugs word).told fun answer => by split <;> exact ⟨_, rfl⟩

theorem along_complete (frame : IsFrame R) (line : String) :
    Along R (complete (σ := σ) line cwd setting) := by
  unfold complete
  dsimp only
  split
  · exact frame.pure _
  · exact frame.pure _
  · exact frame.pure _
  · exact frame.along_ofSlug _ _
  · exact frame.pure _

end IsFrame

namespace Session

/-- The login or signup that an event finishes, with its password. -/
def submittedPassword? (s : Session σ) (event : Event) : Option (AuthAction × String) :=
  match s.mode, s.submitted? event with
  | .password action, some password => some (action, password)
  | _, _ => none

theorem submittedPassword?_eq_some {s : Session σ} {event : Event} {action : AuthAction}
    {password : String} : s.submittedPassword? event = some (action, password) ↔
      s.mode = .password action ∧ s.submitted? event = some password := by
  unfold submittedPassword?
  split
  · rename_i pending submits
    simp [pending, submits]
  · rename_i neither
    simp only [reduceCtorEq, false_iff]
    exact fun both => neither action password both.1 both.2

variable [Backend σ] (frame : IsFrame R)
include frame

/-! ### Lines -/

theorem along_sync {s : Session σ} {b : σ} (related : R b s.backend) : R b s.sync.backend :=
  frame.trans related (frame.currentUser s.backend)

theorem along_runCommand (s : Session σ) (line : String) :
    R s.backend (s.runCommand line).backend := by
  rw [runCommand_eq, (ignores_acting _).backend_eq]
  exact frame.along_dispatch line s.backend

theorem along_runTutorial (s : Session σ) (step : Nat) (line : String) :
    R s.backend (s.runTutorial step line).backend := by
  cases hinv : Invocation.ofLine? line with
  | none =>
    rw [runTutorial_none hinv]
    exact frame.refl s.backend
  | some inv =>
    cases hadv : Tutorial.advance step inv s.cwd s.setting.tree with
    | exit =>
      rw [runTutorial_exit hinv hadv]
      exact frame.refl s.backend
    | rejected =>
      rw [runTutorial_rejected hinv hadv]
      exact frame.refl s.backend
    | accepted next =>
      rw [runTutorial_accepted hinv hadv, runAccepted_eq]
      exact frame.along_execute inv s.backend

theorem along_submitText (s : Session σ) (line : String) {run : Session σ → Session σ}
    (ran : ∀ t, R t.backend (run t).backend) : R s.backend (s.submitText line run).backend := by
  cases told : Text.isBlankText line with
  | true =>
    rw [submitText_blank told]
    exact frame.refl s.backend
  | false =>
    rw [submitText_told told]
    exact along_sync frame (ran (s.taking line))

theorem along_submitLine {s : Session σ} (asked : ∀ action, s.mode ≠ .password action)
    (line : String) : R s.backend (s.submitLine line).backend := by
  cases mode : s.mode with
  | normal =>
    rw [submitLine_normal mode]
    exact along_submitText frame (s.setInput "") line fun t => along_runCommand frame t line
  | password action => exact absurd mode (asked action)
  | tutorial step =>
    rw [submitLine_tutorial mode]
    exact along_submitText frame (s.setInput "") line fun t => along_runTutorial frame t step line
  | running program =>
    rw [submitLine_running mode]
    exact frame.refl s.backend

/-! ### Events -/

theorem along_tab (s : Session σ) : R s.backend s.tab.backend := by
  cases takes : s.mode.takesCommands with
  | false =>
    rw [tab_of_no_commands takes]
    exact frame.refl s.backend
  | true =>
    rw [tab_of_commands takes, (ignores_completed _).backend_eq]
    exact frame.along_complete s.input s.backend

theorem along_saveEdit (s : Session σ) (content : String) :
    R s.backend (s.saveEdit content).backend := by
  by_cases editing : ∃ post, s.mode = .running (.editor post)
  · obtain ⟨post, mode⟩ := editing
    rw [saveEdit_editing mode, (ignores_saving post _).backend_eq]
    exact frame.updateContent post.id content s.backend
  · rw [saveEdit_of_not_editing fun post mode => editing ⟨post, mode⟩]
    exact frame.refl s.backend

/-- An event that hands no password on keeps within the frame. -/
theorem along_step {s : Session σ} {event : Event} (quiet : s.submittedPassword? event = none) :
    R s.backend (s.step event).backend := by
  have line : ∀ {text}, s.submitted? event = some text →
      R s.backend (s.submitLine text).backend := by
    intro text submits
    refine along_submitLine frame (fun action pending => ?_) text
    have handed := submittedPassword?_eq_some.mpr ⟨pending, submits⟩
    cases handed.symm.trans quiet
  have alone : ∀ {act : Session σ → Session σ}, IgnoresBackend act →
      R s.backend (act s).backend := by
    intro act ignores
    rw [ignores.backend_eq]
    exact frame.refl s.backend
  cases event with
  | submit => exact line rfl
  | submitLine text => exact line rfl
  | tab => exact along_tab frame s
  | setInput input => exact alone (ignores_setInput input)
  | historyUp => exact alone ignores_historyUp
  | historyDown => exact alone ignores_historyDown
  | exitProgram => exact alone ignores_exitProgram
  | saveEdit content => exact along_saveEdit frame s content
  | cancelEdit => exact alone ignores_cancelEdit
  | sync => exact along_sync frame (frame.refl s.backend)
  | setTheme theme => exact alone (ignores_setTheme theme)

/-- A password that is handed on makes one call before. -/
theorem along_step_of_password {s : Session σ} {event : Event} {action : AuthAction}
    {password : String} (handed : s.submittedPassword? event = some (action, password)) :
    R (Account.finish action password s.backend).2 (s.step event).backend := by
  obtain ⟨pending, submits⟩ := submittedPassword?_eq_some.mp handed
  rw [step_of_submitted submits, submitLine_password pending, submitPassword_eq]
  exact along_sync frame (frame.refl _)

end Session

end PortfolioShell
