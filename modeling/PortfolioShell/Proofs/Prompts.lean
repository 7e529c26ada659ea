import PortfolioShell.Proofs.Editors

/-!
# Whose name the prompt shows

A session remembers who is signed in and asks the backend again at the end of every line that is not
blank, and after every password. Everything else leaves the session of the backend alone: looking up
slugs and saving posts do. So the prompt once names whoever is signed in, and from then on always,
as long as nobody signs in or out from outside.
-/
namespace PortfolioShell

section
variable {σ : Type} [Backend σ]

/-- Whoever is signed in to one state of a backend is signed in to the other. -/
def SameUser (b c : σ) : Prop := (Backend.currentUser c).1 = (Backend.currentUser b).1

theorem SameUser.trans {b c d : σ} (first : SameUser b c) (second : SameUser c d) : SameUser b d :=
  Eq.trans second first

end

/-- A backend where asking who is signed in, looking up slugs and saving posts sign nobody in or
out. -/
class KeepsUser (σ : Type) [Backend σ] : Prop where
  currentUser : ∀ b : σ, (Backend.currentUser b).2 = b
  updateContent : ∀ id content (b : σ), SameUser b (Backend.updateContent id content b).2
  searchSlugs : ∀ start (b : σ), SameUser b (Backend.searchSlugs start b).2

namespace Store

/-- A request that signs nobody in or out leaves the account of a session as it is. -/
theorem sameUser_perform {store : Store} (known : store.session.isSome → store.sessionAccount.isSome)
    {request : Request} (keeps : request.keepsSession = true) :
    SameUser store (store.perform request) :=
  (store.evolves_perform request).currentUser keeps known

instance : KeepsUser Store where
  currentUser _ := rfl
  updateContent id content store := by
    change SameUser store (Store.updateContent id content store).2
    unfold Store.updateContent adminOnly guarded
    split
    · rfl
    · dsimp only
      split
      · split <;> rfl
      · rfl
  searchSlugs start store := by
    change SameUser store (Store.searchSlugs start store).2
    unfold Store.searchSlugs guarded
    split <;> rfl

end Store

namespace Faulty

variable {σ α : Type} [Backend σ]

/-- A method that fails does not reach the inner backend. -/
theorem sameUser_guarded {call : Call σ α} (kept : ∀ b, SameUser b (call b).2) (method : Method)
    (b : Faulty σ) : SameUser b (guarded method call b).2 := by
  unfold guarded
  split
  · rfl
  · exact kept b.inner

instance [KeepsUser σ] : KeepsUser (Faulty σ) where
  currentUser b := by
    change { b with inner := (Backend.currentUser b.inner).2 } = b
    rw [KeepsUser.currentUser]
  updateContent id content := sameUser_guarded (KeepsUser.updateContent id content) .updateContent
  searchSlugs start := sameUser_guarded (KeepsUser.searchSlugs start) .searchSlugs

end Faulty

section
variable {σ : Type} [Backend σ] [KeepsUser σ]

theorem sameUser_ofSlug (sub word : String) (b : σ) :
    SameUser b (Completion.ofSlug sub word b).2 := by
  rw [Completion.ofSlug]
  split
  · rfl
  · rw [bind_apply, KeepsUser.currentUser]
    dsimp only
    split
    · rfl
    · rw [bind_apply]
      have searched := KeepsUser.searchSlugs word b
      cases (Backend.searchSlugs word b).1 with
      | error e => exact searched
      | ok hits => exact searched

theorem sameUser_complete (line cwd : String) (setting : Setting) (b : σ) :
    SameUser b (complete line cwd setting b).2 := by
  cases kind : Completion.kindOf (partialWords line) with
  | slug =>
    simp only [complete, kind]
    exact sameUser_ofSlug _ _ b
  | _ =>
    simp only [complete, kind]
    rfl

end

namespace Session

variable {σ : Type}

/-- The user that a session shows, and the backend that knows better. -/
def login (s : Session σ) : Option User × σ := (s.user, s.backend)

theorem login_exitProgram (s : Session σ) : s.exitProgram.login = s.login := by
  rw [exitProgram]
  split <;> rfl

theorem login_cancelEdit (s : Session σ) : s.cancelEdit.login = s.login := by
  rw [cancelEdit]
  split
  · exact s.login_exitProgram
  · rfl

theorem login_historyUp (s : Session σ) : s.historyUp.login = s.login := by
  rw [historyUp]
  split <;> rfl

theorem login_historyDown (s : Session σ) : s.historyDown.login = s.login := by
  rw [historyDown]
  split <;> rfl

theorem login_completed (s : Session σ) (completion : Completion) :
    (s.completed completion).login = s.login := by
  rw [completed]
  split <;> rfl

theorem login_saving (s : Session σ) (post : Post) (answer : Except BackendError Unit) :
    (s.saving post answer).login = s.login := by
  cases answer <;> rfl

/-- The prompt of a user in a directory. -/
def promptOf (user : Option User) (cwd : String) : String :=
  s!"{nameOf user}@{hostName}:{Path.promptText cwd}$"

variable [Backend σ]

/-- The session shows whoever is signed in. -/
def ShowsUser (s : Session σ) : Prop := s.user = (Backend.currentUser s.backend).1

theorem ShowsUser.of_same {s t : Session σ} (shows : s.ShowsUser) (same : t.login = s.login) :
    t.ShowsUser := by
  obtain ⟨user, backend⟩ := Prod.mk.inj same
  rw [ShowsUser, user, backend]
  exact shows

theorem ShowsUser.withBackend {s : Session σ} (shows : s.ShowsUser) {backend : σ}
    (same : SameUser s.backend backend) : (s.withBackend backend).ShowsUser :=
  Eq.trans shows same.symm

theorem ShowsUser.prompt {s : Session σ} (shows : s.ShowsUser)
    (shown : ∀ action, s.mode ≠ .password action) :
    s.prompt = promptOf (Backend.currentUser s.backend).1 s.cwd := by
  rw [Session.prompt, shows]
  split
  · rename_i action asked
    exact absurd asked (shown action)
  · rfl

/-- Over a backend where nobody is signed in a new session is a guest's. -/
theorem showsUser_start {backend : σ} (guest : (Backend.currentUser backend).1 = none) (site : Site)
    (host : Host) : (start backend site host).ShowsUser := guest.symm

variable [KeepsUser σ] {s : Session σ}

theorem showsUser_sync (s : Session σ) : s.sync.ShowsUser := by
  rw [sync_eq, ShowsUser, KeepsUser.currentUser]
  rfl

/-! ### Lines -/

/-- A line that is not blank ends with asking who is signed in. -/
theorem showsUser_submitText_told {line : String} (told : Text.isBlankText line = false)
    (s : Session σ) (run : Session σ → Session σ) : (s.submitText line run).ShowsUser := by
  rw [submitText_told told]
  exact showsUser_sync _

theorem showsUser_submitText (shows : s.ShowsUser) (line : String)
    (run : Session σ → Session σ) : (s.submitText line run).ShowsUser := by
  cases told : Text.isBlankText line with
  | false => exact showsUser_submitText_told told s run
  | true =>
    rw [submitText_blank told]
    exact shows

theorem showsUser_submitLine (shows : s.ShowsUser) (line : String) :
    (s.submitLine line).ShowsUser := by
  cases mode : s.mode with
  | running program =>
    rw [submitLine_running mode]
    exact shows
  | password action =>
    rw [submitLine_password mode, submitPassword_eq]
    exact showsUser_sync _
  | normal =>
    rw [submitLine_normal mode]
    exact showsUser_submitText (s := s.setInput "") shows line _
  | tutorial step =>
    rw [submitLine_tutorial mode]
    exact showsUser_submitText (s := s.setInput "") shows line _

/-! ### Events -/

theorem showsUser_tab (shows : s.ShowsUser) : s.tab.ShowsUser := by
  cases takes : s.mode.takesCommands with
  | false =>
    rw [tab_of_no_commands takes]
    exact shows
  | true =>
    rw [tab_of_commands takes]
    have kept := shows.withBackend (sameUser_complete s.input s.cwd s.setting s.backend)
    exact kept.of_same (login_completed _ _)

theorem showsUser_saveEdit (shows : s.ShowsUser) (content : String) :
    (s.saveEdit content).ShowsUser := by
  by_cases editing : ∃ post, s.mode = .running (.editor post)
  · obtain ⟨post, mode⟩ := editing
    rw [saveEdit_editing mode]
    have kept := shows.withBackend (KeepsUser.updateContent post.id content s.backend)
    exact kept.of_same (login_saving _ _ _)
  · rw [saveEdit_of_not_editing fun post mode => editing ⟨post, mode⟩]
    exact shows

theorem showsUser_step (shows : s.ShowsUser) (event : Event) : (s.step event).ShowsUser := by
  cases event with
  | submit => exact showsUser_submitLine shows s.input
  | submitLine line => exact showsUser_submitLine shows line
  | tab => exact showsUser_tab shows
  | setInput input => exact shows
  | historyUp => exact shows.of_same s.login_historyUp
  | historyDown => exact shows.of_same s.login_historyDown
  | exitProgram => exact shows.of_same s.login_exitProgram
  | saveEdit content => exact showsUser_saveEdit shows content
  | cancelEdit => exact shows.of_same s.login_cancelEdit
  | sync => exact s.showsUser_sync
  | setTheme theme => exact shows

/-! ### Runs -/

/-- Nobody is signed in or out from outside during a run. -/
def Private (s : Session σ) : List (Move σ) → Prop
  | [] => True
  | m :: rest =>
    (∀ backend, m = .changeBackend backend → SameUser s.backend backend) ∧ (s.move m).Private rest

theorem showsUser_move (shows : s.ShowsUser) {m : Move σ}
    (kept : ∀ backend, m = .changeBackend backend → SameUser s.backend backend) :
    (s.move m).ShowsUser := by
  cases m with
  | event event => exact showsUser_step shows event
  | changeBackend backend => exact shows.withBackend (kept backend rfl)
  | _ => exact shows

theorem showsUser_moves {run earlier : List (Move σ)} (shows : s.ShowsUser)
    (undisturbed : s.Private run) (upTo : earlier <+: run) : (s.moves earlier).ShowsUser := by
  induction run generalizing s earlier with
  | nil =>
    rw [List.prefix_nil.mp upTo]
    exact shows
  | cons m rest ih =>
    cases earlier with
    | nil => exact shows
    | cons first more =>
      obtain ⟨rfl, within⟩ := List.cons_prefix_cons.mp upTo
      change ((s.move first).moves more).ShowsUser
      exact ih (showsUser_move shows undisturbed.1) undisturbed.2 within

/-- Over a backend where nobody is signed in a new session shows whoever is signed in, and after
asking every session does. From then on it does so at every point of a run in which nobody signs in
or out from outside, and the prompt names whoever it is. -/
theorem user_of_run :
    (∀ (backend : σ) (site : Site) (host : Host), (Backend.currentUser backend).1 = none →
      (start backend site host).ShowsUser) ∧
    (∀ s : Session σ, s.sync.ShowsUser) ∧
    ∀ (s : Session σ) (run : List (Move σ)), s.ShowsUser → s.Private run →
      ∀ earlier, earlier <+: run → (s.moves earlier).ShowsUser ∧
        ((∀ action, (s.moves earlier).mode ≠ .password action) → (s.moves earlier).prompt =
          promptOf (Backend.currentUser (s.moves earlier).backend).1 (s.moves earlier).cwd) := by
  refine ⟨fun backend site host guest => showsUser_start guest site host, showsUser_sync, ?_⟩
  intro s run shows undisturbed earlier upTo
  have later := showsUser_moves shows undisturbed upTo
  exact ⟨later, later.prompt⟩

/-- A reader signs in, an outage begins, and the reader cannot sign out. -/
theorem user_of_refused_logout :
    let seed := ((Store.empty "" (.ticking ⟨10, 0⟩)).addAccount "r@b.c" "secret" false).addPost guide
    let s := start seed .builtin (.at ⟨⟨0, 0⟩, 0⟩)
    let run : List (Move Store) := [.event (.submitLine "login r@b.c"), .event (.submitLine "secret"),
      .changeBackend (ofReader.backend.setOutage (some "down")), .event (.submitLine "logout")]
    s.ShowsUser ∧ s.Private run ∧ (s.moves run).user = some ⟨1, "r@b.c"⟩ ∧
      (s.moves run).ShowsUser ∧ (s.moves run).prompt = "r@portfolio:~$" := by
  intro seed s run
  obtain ⟨started, _, law⟩ := user_of_run (σ := Store)
  have shows : s.ShowsUser := started seed .builtin _ rfl
  have same : SameUser ofReader.backend (ofReader.backend.perform (.setOutage (some "down"))) :=
    Store.sameUser_perform (by decide +kernel) rfl
  have undisturbed : s.Private run := by
    refine ⟨nofun, nofun, ?_, nofun, trivial⟩
    rintro backend ⟨⟩
    exact same
  obtain ⟨later, prompts⟩ := law s run shows undisturbed run (List.prefix_refl run)
  have normal : (s.moves run).mode = .normal := by decide +kernel
  refine ⟨shows, undisturbed, by decide +kernel, later, ?_⟩
  rw [prompts fun action asked => nomatch normal.symm.trans asked]
  decide +kernel

end Session

end PortfolioShell
