import PortfolioShell.Proofs.Modes
import PortfolioShell.Proofs.Recording

/-!
# Failures of the backend

No command makes more than one call that can fail, and none goes on after a failure: it says in
words what has happened. So a failure is shown as one text behind the echo of the line, and the
session and the backend are otherwise as they would be without the command. A save that fails keeps
the editor open, and a search that fails completes nothing.
-/
namespace PortfolioShell

/-- Output that is a text with something in it. -/
def Output.IsMessage (output : Output) : Prop := ∃ text, output = .text text ∧ text ≠ ""

/-- An outcome that is such a text and nothing else. -/
def Dispatch.IsMessage (outcome : Dispatch) : Prop :=
  ∃ text, outcome = ⟨some (.text text), none⟩ ∧ text ≠ ""

theorem Dispatch.isMessage_of_output {output : Output} (message : output.IsMessage) :
    IsMessage ⟨some output, none⟩ := by
  obtain ⟨text, rfl, told⟩ := message
  exact ⟨text, rfl, told⟩

theorem Contained.staying {σ : Type} {output : StateM σ Output}
    {recorded : StateM (Recorded σ) Output}
    (contained : Contained Output.IsMessage output recorded) :
    Contained Dispatch.IsMessage (staying output) (staying recorded) where
  answer r := congrArg (fun told => Dispatch.mk (some told) none) (contained.answer r)
  inner := contained.inner
  failing r failed := (contained.failing r failed).imp_right Dispatch.isMessage_of_output

namespace FailsClean

variable {σ : Type} [Backend σ] {args : List String} {cwd : String} {setting : Setting}

/-! ### Commands -/

theorem contained_logout (clean : FailsClean σ) :
    Contained Output.IsMessage (Account.logout (σ := σ)) Account.logout := by
  refine (Contained.call clean.signOut).bind (fun e => ?_) (fun done => ⟨_, rfl, rfl⟩)
  exact ⟨_, rfl, rfl, _, rfl, by simp [toString]⟩

theorem contained_whoami (clean : FailsClean σ) :
    Contained Output.IsMessage (Account.whoami (σ := σ)) Account.whoami :=
  .afterUser clean fun _ => .pure _

theorem contained_infoAbout (clean : FailsClean σ) :
    Contained Output.IsMessage (Info.about (σ := σ)) Info.about := by
  refine (Contained.call clean.about).bind (fun e => ?_) (fun text => ⟨_, rfl, rfl⟩)
  exact ⟨_, rfl, rfl, _, rfl, by simp [toString]⟩

theorem contained_neofetch (clean : FailsClean σ) (host : Host) :
    Contained Output.IsMessage (Info.neofetch (σ := σ) host) (Info.neofetch host) :=
  .afterUser clean fun _ => .pure _

theorem contained_blog (clean : FailsClean σ) :
    Contained Output.IsMessage (Blog.blog (σ := σ)) Blog.blog := by
  refine (Contained.call clean.publishedPosts).bind (fun e => ?_) (fun posts => ?_)
  · exact ⟨_, rfl, rfl, _, rfl, by simp [toString]⟩
  · cases posts with
    | nil => exact ⟨_, rfl, rfl⟩
    | cons post rest => exact ⟨_, rfl, rfl⟩

/-! ### Posts -/

theorem isMessage_notFound (slug : String) : (Blog.notFound slug).IsMessage :=
  ⟨_, rfl, by simp [toString]⟩

theorem isMessage_notAllowed (verb : String) : (Blog.notAllowed verb).IsMessage :=
  ⟨_, rfl, by simp [toString]⟩

/-- How a user is told that a call on a post has failed. -/
def refusal (verb slug failed : String) : BackendError → Output
  | .notFound => Blog.notFound slug
  | .permissionDenied => Blog.notAllowed verb
  | e => .text (failed ++ e.message)

theorem isMessage_refusal {verb slug failed : String} (named : failed ≠ "") (e : BackendError) :
    (refusal verb slug failed e).IsMessage := by
  cases e with
  | notFound => exact isMessage_notFound slug
  | permissionDenied => exact isMessage_notAllowed verb
  | _ => exact ⟨_, rfl, by simp [named]⟩

theorem contained_showPost (clean : FailsClean σ) (signedIn : Bool) (args : List String) :
    Contained Output.IsMessage (Blog.show? (σ := σ) signedIn args) (Blog.show? signedIn args) := by
  cases args with
  | nil => exact .pure _
  | cons slug rest =>
    refine (Contained.call (clean.findPost slug)).bind (fun e => ?_) (fun found => ?_)
    · cases e with
      | notFound => exact ⟨_, rfl, rfl, isMessage_notFound slug⟩
      | _ => exact ⟨_, rfl, rfl, _, rfl, by simp [toString]⟩
    · cases found with
      | none => exact ⟨_, rfl, rfl⟩
      | some post =>
        dsimp only
        split
        · exact ⟨_, rfl, rfl⟩
        · exact ⟨_, rfl, rfl⟩

theorem contained_newPost (clean : FailsClean σ) (normalizer : Text.Normalizer) (user : User)
    (words : List String) : Contained Output.IsMessage (Blog.new (σ := σ) normalizer user words)
      (Blog.new normalizer user words) := by
  unfold Blog.new
  dsimp only
  split
  · exact .pure _
  · split
    · exact .pure _
    · refine (Contained.call (clean.createPost _)).bind (fun e => ?_) (fun post => ⟨_, rfl, rfl⟩)
      cases e <;> exact ⟨_, rfl, rfl, _, rfl, by simp [toString]⟩

theorem contained_publish (clean : FailsClean σ) (args : List String) :
    Contained Output.IsMessage (Blog.publish (σ := σ) args) (Blog.publish args) := by
  cases args with
  | nil => exact .pure _
  | cons slug rest =>
    refine (Contained.call (clean.publishPost slug)).bind (fun e => ?_) (fun post => ⟨_, rfl, rfl⟩)
    exact ⟨refusal "publish" slug "Error publishing post: " e, by cases e <;> rfl,
      by cases e <;> rfl, isMessage_refusal (by decide) e⟩

theorem contained_listPosts (clean : FailsClean σ) :
    Contained Output.IsMessage (Blog.list (σ := σ)) Blog.list := by
  refine (Contained.call clean.allPosts).bind (fun e => ?_) (fun posts => ?_)
  · cases e <;> exact ⟨_, rfl, rfl, _, rfl, by simp [toString]⟩
  · cases posts with
    | nil => exact ⟨_, rfl, rfl⟩
    | cons post rest => exact ⟨_, rfl, rfl⟩

theorem contained_editPost (clean : FailsClean σ) (args : List String) :
    Contained Output.IsMessage (Blog.edit (σ := σ) args) (Blog.edit args) := by
  cases args with
  | nil => exact .pure _
  | cons slug rest =>
    refine (Contained.call (clean.findPost slug)).bind (fun e => ?_) (fun found => ?_)
    · exact ⟨refusal "edit" slug "Error fetching post: " e, by cases e <;> rfl,
        by cases e <;> rfl, isMessage_refusal (by decide) e⟩
    · cases found with
      | none => exact ⟨_, rfl, rfl⟩
      | some post => exact ⟨_, rfl, rfl⟩

theorem contained_tag (clean : FailsClean σ) (args : List String) :
    Contained Output.IsMessage (Blog.tag (σ := σ) args) (Blog.tag args) := by
  unfold Blog.tag
  split
  · rename_i slug first more
    refine (Contained.call (clean.tagPost slug (first :: more))).bind (fun e => ?_)
      (fun done => ⟨_, rfl, rfl⟩)
    exact ⟨refusal "tag" slug "Error adding tags to post: " e, by cases e <;> rfl,
      by cases e <;> rfl, isMessage_refusal (by decide) e⟩
  · exact .pure _

theorem contained_untag (clean : FailsClean σ) (args : List String) :
    Contained Output.IsMessage (Blog.untag (σ := σ) args) (Blog.untag args) := by
  unfold Blog.untag
  split
  · rename_i slug first more
    refine (Contained.call (clean.untagPost slug (first :: more))).bind (fun e => ?_) (fun n => ?_)
    · exact ⟨refusal "untag" slug "Error removing tags: " e, by cases e <;> rfl,
        by cases e <;> rfl, isMessage_refusal (by decide) e⟩
    · cases n with
      | zero => exact ⟨_, rfl, rfl⟩
      | succ n => exact ⟨_, rfl, rfl⟩
  · exact .pure _

theorem contained_post (clean : FailsClean σ) (normalizer : Text.Normalizer)
    (args : List String) : Contained Output.IsMessage (Blog.post (σ := σ) normalizer args)
      (Blog.post normalizer args) := by
  refine .afterUser clean fun user => ?_
  cases user with
  | none =>
    simp only [Blog.forGuest]
    split
    · exact clean.contained_showPost false args.tail
    · exact .pure _
  | some user =>
    simp only [Blog.forUser]
    split
    · exact clean.contained_newPost normalizer user args.tail
    · exact clean.contained_publish args.tail
    · exact clean.contained_listPosts
    · exact clean.contained_showPost true args.tail
    · exact clean.contained_editPost args.tail
    · exact clean.contained_tag args.tail
    · exact clean.contained_untag args.tail
    · exact .pure _

/-! ### Files -/

theorem contained_read (clean : FailsClean σ) (site : Site) (content : FileContent) :
    Contained IsFailure (Files.read (σ := σ) site content) (Files.read site content) := by
  cases content with
  | stored s => exact .pure _
  | produced source =>
    cases source with
    | contact => exact .pure _
    | about =>
      exact (Contained.call clean.about).bind (fun e => ⟨_, rfl, rfl, e, rfl⟩)
        (fun text => ⟨_, rfl, rfl⟩)

theorem contained_cat (clean : FailsClean σ) :
    Contained Output.IsMessage (Files.cat (σ := σ) args cwd setting)
      (Files.cat args cwd setting) := by
  unfold Files.cat
  split
  · exact .pure _
  · split
    · exact .pure _
    · exact .pure _
    · exact .pure _
    · refine (clean.contained_read setting.site _).bind (fun e => ?_) (fun readable => ?_)
      · exact ⟨_, rfl, rfl, _, rfl, by simp [toString]⟩
      · cases readable <;> exact ⟨_, rfl, rfl⟩

theorem contained_grep (clean : FailsClean σ) :
    Contained Output.IsMessage (Files.grep (σ := σ) args cwd setting)
      (Files.grep args cwd setting) := by
  unfold Files.grep
  split
  · split
    · exact .pure _
    · exact .pure _
    · refine (clean.contained_read setting.site _).bind (fun e => ?_) (fun readable => ?_)
      · exact ⟨_, rfl, rfl, _, rfl, by simp [toString]⟩
      · cases readable with
        | rich blocks => exact ⟨_, rfl, rfl⟩
        | text s =>
          dsimp only
          split <;> exact ⟨_, rfl, rfl⟩
  · exact .pure _

theorem contained_vim (clean : FailsClean σ) :
    Contained Output.IsMessage (Files.vim (σ := σ) args cwd setting)
      (Files.vim args cwd setting) := by
  unfold Files.vim
  split
  · exact .pure _
  · split
    · exact .pure _
    · exact .pure _
    · refine (clean.contained_read setting.site _).bind (fun e => ?_) (fun readable => ?_)
      · exact ⟨_, rfl, rfl, _, rfl, by simp [toString]⟩
      · cases readable <;> exact ⟨_, rfl, rfl⟩

/-! ### Lines -/

theorem contained_plainCommand (clean : FailsClean σ) (command : PlainCommand) :
    Contained Output.IsMessage (command.run (σ := σ) args setting) (command.run args setting) := by
  cases command with
  | about => exact clean.contained_infoAbout
  | logout => exact clean.contained_logout
  | whoami => exact clean.contained_whoami
  | blog => exact clean.contained_blog
  | post => exact clean.contained_post setting.host.normalizer args
  | neofetch => exact clean.contained_neofetch setting.host
  | _ => exact .pure _

theorem contained_fileCommand (clean : FailsClean σ) (command : FileCommand) :
    Contained Dispatch.IsMessage (command.run (σ := σ) args cwd setting)
      (command.run args cwd setting) := by
  cases command with
  | cat => exact clean.contained_cat.staying
  | grep => exact clean.contained_grep.staying
  | vim => exact clean.contained_vim.staying
  | _ => exact .pure _

theorem contained_execute (clean : FailsClean σ) (inv : Invocation) :
    Contained Dispatch.IsMessage (inv.execute (σ := σ) setting cwd) (inv.execute setting cwd) := by
  unfold Invocation.execute
  split
  · exact .pure _
  · rename_i spec _
    cases spec.handler with
    | plain command => exact (clean.contained_plainCommand command).staying
    | file command => exact clean.contained_fileCommand command

theorem contained_dispatch (clean : FailsClean σ) (line : String) :
    Contained Dispatch.IsMessage (dispatch (σ := σ) line setting cwd)
      (dispatch line setting cwd) := by
  unfold PortfolioShell.dispatch
  split
  · exact .pure _
  · exact clean.contained_execute _

theorem contained_finish (clean : FailsClean σ) (action : AuthAction) (password : String) :
    Contained (· ≠ "") (Account.finish (σ := σ) action password)
      (Account.finish action password) := by
  unfold Account.finish
  cases action.kind with
  | login =>
    refine (Contained.call (clean.signIn action.email password)).bind (fun e => ?_)
      (fun user => ⟨_, rfl, rfl⟩)
    exact ⟨_, rfl, rfl, by simp [toString]⟩
  | signup =>
    refine (Contained.call (clean.signUp action.email password)).bind (fun e => ?_)
      (fun done => ⟨_, rfl, rfl⟩)
    exact ⟨_, rfl, rfl, by simp [toString]⟩

/-! ### Completion -/

theorem contained_ofSlug (clean : FailsClean σ) (sub word : String) :
    Contained (· = Completion.nothing) (Completion.ofSlug (σ := σ) sub word)
      (Completion.ofSlug sub word) := by
  unfold Completion.ofSlug
  split
  · exact .pure _
  · refine .afterUser clean fun user => ?_
    dsimp only
    split
    · exact .pure _
    · exact (Contained.call (clean.searchSlugs word)).bind (fun e => ⟨_, rfl, rfl, rfl⟩)
        (fun hits => ⟨_, rfl, rfl⟩)

theorem contained_complete (clean : FailsClean σ) (line : String) :
    Contained (· = Completion.nothing) (complete (σ := σ) line cwd setting)
      (complete line cwd setting) := by
  unfold PortfolioShell.complete
  dsimp only
  split
  · exact .pure _
  · exact .pure _
  · exact .pure _
  · exact clean.contained_ofSlug _ _
  · exact .pure _

end FailsClean

namespace Session

open Recorded

variable {σ : Type} [Backend σ]

/-- The session that has shown a line and one text behind it, with nothing left of the input. -/
def answered (s : Session σ) (shown : LineData) (text : String) (history : History) : Session σ :=
  { s with
    lines := (s.lines.insert ⟨s.nextId, .input, shown⟩).insert ⟨s.nextId + 1, .output, .text text⟩
    nextId := s.nextId + 2
    user := (Backend.currentUser s.backend).1
    input := ""
    suggestions := []
    history := history }

/-- What becomes of a session when a call fails. -/
structure ContainsFailures (s : Session σ) : Prop where
  /-- A command shows its line and a text. -/
  command : s.mode = .normal → ∀ event line, s.submitted? event = some line →
    failuresOf (dispatch line s.setting s.cwd) s.backend ≠ [] → ∃ text, text ≠ "" ∧
      s.step event = s.answered (.prompt s.prompt line) text (s.history.push line)
  /-- A login or signup shows the masked password and a text, and is over. -/
  password : ∀ action, s.mode = .password action → ∀ event password,
    s.submitted? event = some password →
    failuresOf (Account.finish action password) s.backend ≠ [] → ∃ text, text ≠ "" ∧
      s.step event = { s.answered (.prompt passwordPrompt (mask password)) text s.history.reset with
        mode := .normal }
  /-- The editor stays open. -/
  save : ∀ post, s.mode = .running (.editor post) → ∀ content e,
    (Backend.updateContent post.id content s.backend).1 = .error e →
      s.saveEdit content = s.print .system (.text s!"Failed to save post: {e.message}")
  completion : failuresOf (complete s.input s.cwd s.setting) s.backend ≠ [] → s.tab = s

theorem sync_of_clean (clean : FailsClean σ) (s : Session σ) :
    s.sync = { s with user := (Backend.currentUser s.backend).1 } := by
  rw [sync_eq, clean.currentUser]
  rfl

theorem submitLine_failing (clean : FailsClean σ) {s : Session σ} (normal : s.mode = .normal)
    {line : String} (failed : failuresOf (dispatch line s.setting s.cwd) s.backend ≠ []) :
    ∃ text, text ≠ "" ∧
      s.submitLine line = s.answered (.prompt s.prompt line) text (s.history.push line) := by
  obtain ⟨same, text, outcome, told⟩ := (clean.contained_dispatch line).of_failures failed
  refine ⟨text, told, ?_⟩
  rw [submitLine_of_text normal told (Prod.ext outcome same), sync_of_clean clean]
  simp only [taking, echo, print, prompt_setInput]
  rfl

theorem submitPassword_failing (clean : FailsClean σ) {s : Session σ} {action : AuthAction}
    (pending : s.mode = .password action) {password : String}
    (failed : failuresOf (Account.finish action password) s.backend ≠ []) :
    ∃ text, text ≠ "" ∧ s.submitLine password =
      { s.answered (.prompt passwordPrompt (mask password)) text s.history.reset with
        mode := .normal } := by
  obtain ⟨same, told⟩ := (clean.contained_finish action password).of_failures failed
  refine ⟨(Account.finish action password s.backend).1, told, ?_⟩
  rw [submitLine_password pending, submitPassword_eq]
  change ((((s.setInput "").handing password).withBackend
    (Account.finish action password s.backend).2).printText
      (Account.finish action password s.backend).1).sync = _
  rw [same, sync_of_clean clean]
  rfl

theorem tab_failing (clean : FailsClean σ) {s : Session σ}
    (failed : failuresOf (complete s.input s.cwd s.setting) s.backend ≠ []) : s.tab = s := by
  cases commands : s.mode.takesCommands with
  | false => exact tab_of_no_commands commands
  | true =>
    obtain ⟨same, nothing⟩ := (clean.contained_complete s.input).of_failures failed
    rw [tab_of_commands commands, same, nothing]
    rfl

theorem containsFailures_of_clean (clean : FailsClean σ) (s : Session σ) :
    s.ContainsFailures where
  command := by
    intro normal event line submits failed
    rw [step_of_submitted submits]
    exact submitLine_failing clean normal failed
  password := by
    intro action pending event password submits failed
    rw [step_of_submitted submits]
    exact submitPassword_failing clean pending failed
  save := by
    intro post editing content e failed
    rw [saveEdit_editing editing, failed, clean.updateContent post.id content s.backend e failed]
    rfl
  completion := tab_failing clean

/-- Whatever fails in the store, by itself or by a fault that is put before it, is contained. -/
theorem containsFailures :
    (∀ s : Session Store, s.ContainsFailures) ∧
      ∀ s : Session (Faulty Store), s.ContainsFailures :=
  ⟨containsFailures_of_clean Store.failsClean,
    containsFailures_of_clean (Faulty.failsClean Store.failsClean)⟩

/-- The blog cannot be shown during an outage. -/
theorem containsFailures_in_outage :
    let s := start ((Store.empty "" (.ticking ⟨0, 0⟩)).setOutage (some "down")) .builtin (.at ⟨⟨0, 0⟩, 0⟩)
    failuresOf (dispatch "blog" s.setting s.cwd) s.backend = [.network "down"] ∧
      ∃ text, text ≠ "" ∧ s.step (.submitLine "blog") =
        s.answered (.prompt s.prompt "blog") text (s.history.push "blog") := by
  intro s
  have failed : failuresOf (dispatch "blog" s.setting s.cwd) s.backend = [.network "down"] := by
    decide +kernel
  refine ⟨failed, (containsFailures.1 s).command rfl (.submitLine "blog") "blog" rfl ?_⟩
  rw [failed]
  exact List.cons_ne_nil _ _

end Session

end PortfolioShell
