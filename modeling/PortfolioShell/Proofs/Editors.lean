import Mathlib.Data.List.Basic
import Mathlib.Data.List.Induction
import PortfolioShell.Backend.Faulty
import PortfolioShell.Proofs.Administrators
import PortfolioShell.Proofs.Demands
import PortfolioShell.Proofs.Failures
import PortfolioShell.Proofs.Integrity
import PortfolioShell.Proofs.Lookalikes

/-!
# Who edits posts

The editor is opened by reading a post, and whoever is signed in may read every post. Whether
somebody may write is asked for the first time when they save. So a reader gets the editor like an
administrator, and what the reader writes is never saved: each attempt is refused and the editor
stays open. The editor is left to administrators exactly as long as no reader asks for a post.
-/
namespace PortfolioShell

/-! ### Backends around a store -/

/-- A call that fails before it reaches the store, or that the store answers. -/
def Store.callThrough {σ α : Type} (store : σ → Store) (withStore : σ → Store → σ)
    (failure? : σ → Option BackendError) (call : Call Store α) : Call σ α := fun b =>
  match failure? b with
  | some e => (.error e, b)
  | none => ((call (store b)).1, withStore b (call (store b)).2)

/-- A backend around a store, as far as editing posts goes. -/
class HoldsStore (σ : Type) [Backend σ] where
  store : σ → Store
  /-- The backend around another store. -/
  withStore : σ → Store → σ
  /-- What every call of a method fails with. -/
  failure? : σ → Method → Option BackendError
  store_withStore : ∀ b next, store (withStore b next) = next
  withStore_store : ∀ b, withStore b (store b) = b
  working : ∀ b method, failure? b method = none → (store b).outage = none
  currentUser : ∀ b : σ, Backend.currentUser b = ((store b).currentUser.1, b)
  findPost : ∀ slug, Backend.findPost slug =
    Store.callThrough store withStore (failure? · .findPost) (Store.findPost slug)
  updateContent : ∀ id content, Backend.updateContent id content =
    Store.callThrough store withStore (failure? · .updateContent) (Store.updateContent id content)

namespace Store

variable {α : Type}

/-- What an outage makes every call fail with. -/
def outageError? (store : Store) : Option BackendError := store.outage.map .network

theorem guarded_eq_callThrough (act : Store → Except BackendError α × Store) :
    guarded act = callThrough id (fun _ next => next) outageError? (guarded act) := by
  funext store
  cases outage : store.outage <;> simp [guarded, callThrough, outageError?, outage]

instance : HoldsStore Store where
  store := id
  withStore _ next := next
  failure? store _ := store.outageError?
  store_withStore _ _ := rfl
  withStore_store _ := rfl
  working _ _ none := Option.map_eq_none_iff.mp none
  currentUser _ := rfl
  findPost _ := guarded_eq_callThrough _
  updateContent _ _ := guarded_eq_callThrough _

end Store

namespace Faulty

variable {α : Type}

/-- What a method fails with: its fault, or else the outage of the store. -/
def failure? (b : Faulty Store) (method : Method) : Option BackendError :=
  (b.fault? method).or b.inner.outageError?

theorem guarded_eq_callThrough (method : Method) (act : Store → Except BackendError α × Store) :
    guarded method (Store.guarded act) =
      Store.callThrough inner (fun b next => { b with inner := next }) (failure? · method)
        (Store.guarded act) := by
  funext b
  cases fault : b.fault? method <;> cases outage : b.inner.outage <;>
    simp [guarded, lift_apply, Store.guarded, Store.callThrough, failure?, Store.outageError?,
      fault, outage]

instance : HoldsStore (Faulty Store) where
  store := inner
  withStore b next := { b with inner := next }
  failure? := failure?
  store_withStore _ _ := rfl
  withStore_store _ := rfl
  working _ _ none := Option.map_eq_none_iff.mp (Option.or_eq_none_iff.mp none).2
  currentUser _ := rfl
  findPost _ := guarded_eq_callThrough .findPost _
  updateContent _ _ := guarded_eq_callThrough .updateContent _

end Faulty

namespace HoldsStore

variable {σ : Type} [Backend σ] [HoldsStore σ] {b : σ}

theorem findPost_failing {e : BackendError} (failing : failure? b .findPost = some e)
    (slug : String) : Backend.findPost slug b = (.error e, b) := by
  simp only [findPost, Store.callThrough, failing]

/-- Whoever is signed in finds every post. -/
theorem findPost_working {account : Account} (working : failure? b .findPost = none)
    (signedIn : (store b).sessionAccount = some account) (slug : String) :
    Backend.findPost slug b = (.ok ((store b).posts.find? (·.slug == slug)), b) := by
  have outage := HoldsStore.working b .findPost working
  have session : (store b).session.isSome = true :=
    Store.session_of_user (by rw [Store.currentUser, signedIn]; rfl)
  simp only [findPost, Store.callThrough, working, Store.findPost, Store.guarded, outage, session,
    Bool.or_true, Bool.and_true, withStore_store]

/-- A post that an account has found is the one of the store. -/
theorem eq_of_findPost {account : Account} (signedIn : (store b).sessionAccount = some account)
    {slug : String} {post : Post} {after : σ}
    (found : Backend.findPost slug b = (.ok (some post), after)) :
    after = b ∧ failure? b .findPost = none ∧
      (store b).posts.find? (·.slug == slug) = some post := by
  cases failure : failure? b .findPost with
  | some e =>
    rw [findPost_failing failure] at found
    cases found
  | none =>
    rw [findPost_working failure signedIn] at found
    obtain ⟨answer, rfl⟩ := Prod.mk.inj found
    exact ⟨rfl, rfl, Except.ok.inj answer⟩

theorem updateContent_failing {e : BackendError} (failing : failure? b .updateContent = some e)
    (id : Nat) (content : String) : Backend.updateContent id content b = (.error e, b) := by
  simp only [updateContent, Store.callThrough, failing]

theorem updateContent_working (working : failure? b .updateContent = none) (id : Nat)
    (content : String) : Backend.updateContent id content b =
      ((Store.updateContent id content (store b)).1,
        withStore b (Store.updateContent id content (store b)).2) := by
  simp only [updateContent, Store.callThrough, working]

end HoldsStore

namespace Store

/-! ### Requests while the editor is open -/

/-- Somebody is signed in, and the post is there, perhaps with other content. -/
structure Backs (store : Store) (post : Post) : Prop where
  signedIn : ∃ account, store.sessionAccount = some account
  stored : post.id ∈ store.posts.map (·.id)

variable {store next : Store} {request : Request}

theorem Evolves.isAdminSession (evolves : Evolves store request next)
    (keeps : request.keepsSession = true) (admin : store.isAdminSession = true) :
    next.isAdminSession = true := by
  obtain ⟨account, _, signedIn, isAdmin⟩ := exists_admin admin
  rw [Store.isAdminSession, evolves.sessionAccount keeps signedIn]
  exact isAdmin

theorem Backs.evolves {post : Post} (backs : store.Backs post)
    (evolves : Evolves store request next) (keeps : request.keepsSession = true) :
    next.Backs post where
  signedIn := by
    obtain ⟨account, signedIn⟩ := backs.signedIn
    exact ⟨account, evolves.sessionAccount keeps signedIn⟩
  stored := by
    have stored := backs.stored
    cases evolves with
    | created admin free => simp [stored]
    | changed clock admin revises =>
      exact (map_changeFirst (fun post => (revises post).id) _ _).symm ▸ stored
    | _ => exact stored

/-- Saving is refused to everybody but administrators, who save. -/
theorem updateContent_cases {post : Post} (working : store.outage = none)
    (backs : store.Backs post) (content : String) :
    updateContent post.id content store =
      if store.isAdminSession then
        (.ok (), store.changePost (·.id == post.id) fun p => { p with content := some content })
      else (.error .permissionDenied, store) := by
  have known : store.posts.any (·.id == post.id) = true := by
    obtain ⟨current, mem, same⟩ := List.mem_map.mp backs.stored
    exact List.any_eq_true.mpr ⟨current, mem, by simp [same]⟩
  simp only [updateContent, adminOnly, guarded, working, known, if_true]

end Store

namespace Session

open HoldsStore

variable {σ : Type}

/-! ### What opens the editor -/

theorem output_of_mode_acting {s : Session σ} (normal : s.mode = .normal) {outcome : Dispatch}
    {post : Post} (opened : (s.acting outcome).mode = .running (.editor post)) :
    outcome.output = some (.directive (.openEditor post)) := by
  have elsewhere : s.mode ≠ .running (.editor post) := by simp [normal]
  rw [acting] at opened
  split at opened
  · rename_i output given
    rw [given]
    cases output with
    | text text =>
      rw [accept] at opened
      split at opened <;> exact absurd opened elsewhere
    | rich blocks =>
      rw [accept] at opened
      split at opened <;> exact absurd opened elsewhere
    | clear => exact absurd opened elsewhere
    | directive directive =>
      cases directive with
      | setTheme theme => exact absurd opened elsewhere
      | openEditor other => cases opened; rfl
      | _ => cases opened
  · exact absurd opened elsewhere

variable [Backend σ]

theorem output_of_opened {s : Session σ} (normal : s.mode = .normal) {line : String} {post : Post}
    (opened : (s.submitLine line).mode = .running (.editor post)) :
    (dispatch line s.setting s.cwd s.backend).1.output =
      some (.directive (.openEditor post)) := by
  rw [submitLine_normal normal] at opened
  cases blank : Text.isBlankText line with
  | true =>
    rw [submitText_blank blank] at opened
    cases normal.symm.trans opened
  | false =>
    rw [submitText_told blank, runCommand_eq] at opened
    let t := ((s.setInput "").taking line).withBackend (dispatch line s.setting s.cwd s.backend).2
    exact output_of_mode_acting (s := t) normal opened

theorem mode_runTutorial {s : Session σ} {step : Nat} (h : s.mode = .tutorial step)
    (line : String) (program : Subprogram) :
    (s.runTutorial step line).mode ≠ .running program := by
  cases hinv : Invocation.ofLine? line with
  | none => simp [runTutorial_none hinv, h]
  | some inv =>
    cases hadv : Tutorial.advance step inv s.cwd s.setting.tree with
    | exit => simp [runTutorial_exit hinv hadv, printText, print]
    | rejected => simp [runTutorial_rejected hinv hadv, printText, print, h]
    | accepted next =>
      rw [runTutorial_accepted hinv hadv, runAccepted_eq]
      cases next <;> simp [passing, modeOfStep]

/-- No step of the tutorial opens a full-screen program. -/
theorem mode_step_of_tutorial {s : Session σ} {step : Nat} (h : s.mode = .tutorial step)
    (event : Event) (program : Subprogram) : (s.step event).mode ≠ .running program := by
  cases submits : s.submitted? event with
  | none =>
    rw [mode_step_of_not_submitted submits (by simp [h]), h]
    exact nofun
  | some line =>
    rw [step_of_submitted submits, submitLine_tutorial h]
    cases blank : Text.isBlankText line with
    | true =>
      rw [submitText_blank blank]
      simp [h, echo, print, setInput]
    | false =>
      rw [submitText_told blank]
      exact mode_runTutorial (s := (s.setInput "").taking line) h line program

/-! ### Who is told about a missing right -/

/-- The session shows as its last line that the right to edit is missing. -/
def IsDenied (s : Session σ) : Prop :=
  s.mode = .normal ∧ ∃ text, Blog.notAllowed "edit" = .text text ∧
    s.lines.items.getLast?.map (·.data) = some (.text text)

theorem isDenied_answered {s : Session σ} (normal : s.mode = .normal) {shown : LineData}
    {text : String} {history : History} :
    (s.answered shown text history).IsDenied ↔ .text text = Blog.notAllowed "edit" := by
  have shows : (s.answered shown text history).lines.items.getLast?.map (·.data) =
      some (.text text) := by
    rw [answered, Ring.items_insert, List.getLast?_concat]
    rfl
  rw [IsDenied, shows]
  constructor
  · rintro ⟨_, told, denied, same⟩
    rw [denied, LineData.text.inj (Option.some.inj same)]
  · exact fun denied => ⟨normal, text, denied.symm, rfl⟩

theorem notFound_ne_notAllowed (slug : String) : Blog.notFound slug ≠ Blog.notAllowed "edit" := by
  intro same
  have texts := congrArg (fun text : String => text.toList[7]?) (Output.text.inj same)
  simp [toString] at texts

theorem fetching_ne_notAllowed (message : String) :
    .text ("Error fetching post: " ++ message) ≠ Blog.notAllowed "edit" := by
  intro same
  have texts := congrArg (fun text : String => text.toList[5]?) (Output.text.inj same)
  simp [toString] at texts

theorem refusal_eq_notAllowed {slug : String} {e : BackendError} :
    FailsClean.refusal "edit" slug "Error fetching post: " e = Blog.notAllowed "edit" ↔
      e = .permissionDenied := by
  cases e with
  | permissionDenied => simp [FailsClean.refusal]
  | notFound => simpa [FailsClean.refusal] using notFound_ne_notAllowed slug
  | _ => simpa [FailsClean.refusal] using fetching_ne_notAllowed _

variable [HoldsStore σ]

/-! ### Lines that ask for the editor -/

/-- A line that asks to edit the post of a slug. -/
def AsksToEdit (s : Session σ) (line slug : String) : Prop :=
  ∃ name rest, Text.words line = name :: "edit" :: slug :: rest ∧
    s.setting.registry.Runs name (.plain .post)

/-- A line with which an account asks to edit a post that the backend finds. -/
structure FindsToEdit (s : Session σ) (line : String) (account : Account) (post : Post) :
    Prop where
  asks : ∃ slug, s.AsksToEdit line slug ∧
    (store s.backend).posts.find? (·.slug == slug) = some post
  signedIn : (store s.backend).sessionAccount = some account
  working : failure? s.backend .findPost = none

/-- What becomes of a session when an account asks to edit the post of a slug. Nothing is said of
the rights of the account. -/
structure AnswersEdit (s : Session σ) (line slug : String) (account : Account)
    (after : Session σ) : Prop where
  opens : failure? s.backend .findPost = none → ∀ post,
    (store s.backend).posts.find? (·.slug == slug) = some post →
      after = { (s.setInput "").taking line with
        mode := .running (.editor post), user := some account.user }
  missing : failure? s.backend .findPost = none →
    (store s.backend).posts.find? (·.slug == slug) = none →
      after = s.answered (.prompt s.prompt line)
        s!"Error: Post with slug '{slug}' not found." (s.history.push line)
  failing : ∀ e, failure? s.backend .findPost = some e → ∃ text,
    FailsClean.refusal "edit" slug "Error fetching post: " e = .text text ∧
      after = s.answered (.prompt s.prompt line) text (s.history.push line)

section
variable {s : Session σ} {line slug : String} {account : Account} {post : Post}

theorem dispatch_of_asks (asks : s.AsksToEdit line slug)
    (signedIn : (store s.backend).sessionAccount = some account) :
    ∃ rest, dispatch line s.setting s.cwd s.backend =
      (⟨some (Blog.edit (slug :: rest) s.backend).1, none⟩,
        (Blog.edit (slug :: rest) s.backend).2) := by
  obtain ⟨name, rest, words, runs⟩ := asks
  refine ⟨rest, ?_⟩
  have who : Backend.currentUser s.backend = (some account.user, s.backend) := by
    rw [currentUser, Store.currentUser, signedIn]
    rfl
  have edits : Blog.post s.setting.host.normalizer ("edit" :: slug :: rest) s.backend =
      Blog.edit (slug :: rest) s.backend := by
    rw [Blog.post, bind_apply, who]
    rfl
  rw [dispatch_of_runs words runs, Handler.run, PlainCommand.run, staying_apply, edits]

/-- A text that leaves the backend as it is. -/
theorem submitLine_answered (normal : s.mode = .normal) {text : String} (told : text ≠ "")
    (h : dispatch line s.setting s.cwd s.backend = (⟨some (.text text), none⟩, s.backend)) :
    s.submitLine line = s.answered (.prompt s.prompt line) text (s.history.push line) := by
  rw [submitLine_of_text normal told h, sync_eq, currentUser]
  simp only [answered, currentUser, taking, echo, print, prompt_setInput]
  rfl

theorem answersEdit_of_asks (normal : s.mode = .normal) (asks : s.AsksToEdit line slug)
    (signedIn : (store s.backend).sessionAccount = some account) :
    s.AnswersEdit line slug account (s.submitLine line) := by
  obtain ⟨rest, outcome⟩ := dispatch_of_asks asks signedIn
  rw [Blog.edit, bind_apply] at outcome
  constructor
  case opens =>
    intro working post found
    rw [findPost_working working signedIn, found] at outcome
    rw [submitLine_of_output normal outcome, sync_eq, currentUser]
    have user : (store s.backend).currentUser.1 = some account.user := by
      rw [Store.currentUser, signedIn]
      rfl
    exact congrArg (fun user => { (s.setInput "").taking line with
      mode := .running (.editor post), user := user }) user
  case missing =>
    intro working unknown
    rw [findPost_working working signedIn, unknown] at outcome
    exact submitLine_answered normal (by simp [toString]) outcome
  case failing =>
    intro e failing
    rw [findPost_failing failing] at outcome
    have message : (FailsClean.refusal "edit" slug "Error fetching post: " e).IsMessage :=
      FailsClean.isMessage_refusal (by decide) e
    obtain ⟨text, refusal, told⟩ := message
    refine ⟨text, refusal, submitLine_answered normal told ?_⟩
    rw [outcome, ← refusal]
    cases e <;> rfl

/-- Whoever asks for a post that is found gets the editor. -/
theorem FindsToEdit.opens (finds : s.FindsToEdit line account post) (normal : s.mode = .normal) :
    s.submitLine line = { (s.setInput "").taking line with
      mode := .running (.editor post), user := some account.user } := by
  obtain ⟨slug, asks, found⟩ := finds.asks
  exact (answersEdit_of_asks normal asks finds.signedIn).opens finds.working post found

/-- Nothing else opens it. -/
theorem findsToEdit_of_opened (normal : s.mode = .normal)
    (opened : (s.submitLine line).mode = .running (.editor post)) :
    ∃ account, s.FindsToEdit line account post := by
  have output := output_of_opened normal opened
  obtain ⟨inv, handler, words, runs, asks⟩ := asks_of_dispatch output nofun
  generalize hargs : inv.args = args at asks
  generalize (dispatch line s.setting s.cwd s.backend).2 = after at asks
  cases asks with
  | @editor slug user _ asked _ who found rest =>
    rw [currentUser] at who
    obtain ⟨current, rfl⟩ := Prod.mk.inj who
    obtain ⟨account, signedIn, _⟩ := Option.map_eq_some_iff.mp current
    obtain ⟨_, working, known⟩ := eq_of_findPost signedIn found
    have named := Tutorial.words_of_ofLine? words
    exact ⟨account, ⟨slug, ⟨inv.name, rest, hargs ▸ named, runs⟩, known⟩, signedIn, working⟩

/-- A missing right is told of only where the backend fails with it before it reaches the store. -/
theorem AnswersEdit.isDenied_iff (normal : s.mode = .normal) {after : Session σ}
    (answers : s.AnswersEdit line slug account after) :
    after.IsDenied ↔ failure? s.backend .findPost = some .permissionDenied := by
  cases failure : failure? s.backend .findPost with
  | some e =>
    obtain ⟨text, refusal, rfl⟩ := answers.failing e failure
    rw [isDenied_answered normal, ← refusal, refusal_eq_notAllowed, Option.some.injEq]
  | none =>
    refine iff_of_false ?_ nofun
    cases found : (store s.backend).posts.find? (·.slug == slug) with
    | some post =>
      rw [answers.opens failure post found]
      exact fun denied => nomatch denied.1
    | none =>
      rw [answers.missing failure found, isDenied_answered normal]
      exact notFound_ne_notAllowed slug

end

/-! ### What an open editor rests on -/

/-- The sessions that a new session can become while nobody signs in or out behind its back. -/
inductive Undisturbed : Session σ → Prop
  | start (backend : σ) (site : Site) (host : Host) : Undisturbed (start backend site host)
  | withScrollback {s : Session σ} (capacity : Nat) :
      Undisturbed s → Undisturbed (s.withScrollback capacity)
  | register {s : Session σ} (spec : CommandSpec) : Undisturbed s → Undisturbed (s.register spec)
  | setClock {s : Session σ} (now : Time.LocalTime) :
      Undisturbed s → Undisturbed (s.setClock now)
  | request {s : Session σ} {backend : σ} (request : Store.Request)
      (keeps : request.keepsSession = true)
      (asked : store backend = (store s.backend).perform request) :
      Undisturbed s → Undisturbed (s.withBackend backend)
  | step {s : Session σ} (event : Event) : Undisturbed s → Undisturbed (s.step event)

theorem Undisturbed.run {s : Session σ} (undisturbed : Undisturbed s) (events : List Event) :
    Undisturbed (s.run events) := by
  induction events generalizing s with
  | nil => exact undisturbed
  | cons event rest ih => exact ih (undisturbed.step event)

/-- An open editor rests on a session and on a post. -/
def EditorIsBacked (s : Session σ) : Prop :=
  ∀ post, s.mode = .running (.editor post) → (store s.backend).Backs post

/-- An open editor is an administrator's. -/
def EditorIsOwned (s : Session σ) : Prop :=
  ∀ post, s.mode = .running (.editor post) → (store s.backend).isAdminSession = true

/-- An account without rights asks to edit a post that the backend finds. -/
def LetsReaderIn (s : Session σ) (event : Event) : Prop :=
  s.mode = .normal ∧ ∃ line account post, s.submitted? event = some line ∧
    s.FindsToEdit line account post ∧ account.isAdmin = false

/-- While a program runs, a step is at most a save to the store. -/
theorem evolves_step_running {s : Session σ} {program : Subprogram} (h : s.mode = .running program)
    (event : Event) : ∃ id content, (store s.backend).Evolves (.updateContent id content)
      (store (s.step event).backend) := by
  have resting {after : σ} (same : after = s.backend) :
      ∃ id content, (store s.backend).Evolves (.updateContent id content) (store after) :=
    ⟨0, "", same ▸ .rests _⟩
  cases typed : event.isAtPrompt with
  | true =>
    obtain ⟨input, suggestions, same⟩ := step_asleep h typed
    exact resting (by rw [same])
  | false =>
    cases event with
    | setInput input => exact resting rfl
    | setTheme theme => exact resting rfl
    | sync => exact resting (by rw [step, sync_eq, currentUser]; rfl)
    | exitProgram => exact resting (ignores_exitProgram.backend_eq s)
    | cancelEdit => exact resting (ignores_cancelEdit.backend_eq s)
    | saveEdit content =>
      cases program with
      | editor post =>
        rw [step, saveEdit_editing h, (ignores_saving post _).backend_eq]
        cases failure : failure? s.backend .updateContent with
        | some e => exact resting (by rw [updateContent_failing failure]; rfl)
        | none =>
          refine ⟨post.id, content, ?_⟩
          have saved := store_withStore s.backend
            (Store.updateContent post.id content (store s.backend)).2
          rw [updateContent_working failure]
          exact saved.symm ▸ (store s.backend).evolves_updateContent post.id content
      | game => exact resting (by rw [step, saveEdit_of_not_editing (by simp [h])])
      | viewer filename text => exact resting (by rw [step, saveEdit_of_not_editing (by simp [h])])
    | _ => cases typed

section
variable {s : Session σ} {event : Event}

/-- An editor that is open after an event has been opened by it or was open before. -/
theorem editing_before {post : Post} (opened : (s.step event).mode = .running (.editor post)) :
    (s.mode = .normal ∧ ∃ line account, s.submitted? event = some line ∧
      s.FindsToEdit line account post ∧ (s.step event).backend = s.backend) ∨
    (s.mode = .running (.editor post) ∧ ∃ id content, (store s.backend).Evolves
      (.updateContent id content) (store (s.step event).backend)) := by
  cases mode : s.mode with
  | normal =>
    cases submits : s.submitted? event with
    | none =>
      have same := mode_step_of_not_submitted submits (by simp [mode])
      simp [opened, mode] at same
    | some line =>
      rw [step_of_submitted submits] at opened ⊢
      obtain ⟨account, finds⟩ := findsToEdit_of_opened mode opened
      refine Or.inl ⟨rfl, line, account, rfl, finds, ?_⟩
      rw [finds.opens mode]
      rfl
  | password action =>
    have after := mode_step_password mode event
    rw [opened] at after
    split at after <;> cases after
  | tutorial step => exact absurd opened (mode_step_of_tutorial mode event _)
  | running program =>
    obtain ⟨ends, goesOn⟩ := mode_step_running mode event
    by_cases ending : s.Ends program event
    · rw [ends ending] at opened
      cases opened
    · obtain rfl : program = .editor post := by
        rw [goesOn ending] at opened
        exact Mode.running.inj opened
      exact Or.inr ⟨rfl, evolves_step_running mode event⟩

theorem editorIsBacked_step (backed : s.EditorIsBacked) (event : Event) :
    (s.step event).EditorIsBacked := by
  intro post opened
  rcases editing_before opened with ⟨_, line, account, _, finds, same⟩ | ⟨editing, _, _, evolves⟩
  · obtain ⟨slug, _, found⟩ := finds.asks
    rw [same]
    exact ⟨⟨account, finds.signedIn⟩, List.mem_map_of_mem (List.mem_of_find?_eq_some found)⟩
  · exact (backed post editing).evolves evolves rfl

/-- One event leaves the editor to administrators exactly if it lets no reader in. -/
theorem editorIsOwned_step_iff (owned : s.EditorIsOwned) :
    (s.step event).EditorIsOwned ↔ ¬ s.LetsReaderIn event := by
  constructor
  · rintro after ⟨normal, line, account, post, submits, finds, reader⟩
    rw [step_of_submitted submits, finds.opens normal] at after
    have admin : (store s.backend).isAdminSession = true := after post rfl
    simp [Store.isAdminSession, finds.signedIn, reader] at admin
  · intro keepsOut post opened
    rcases editing_before opened with ⟨normal, line, account, submits, finds, same⟩ |
      ⟨editing, _, _, evolves⟩
    · have admin : account.isAdmin = true := by
        rw [← Bool.not_eq_false]
        exact fun reader => keepsOut ⟨normal, line, account, post, submits, finds, reader⟩
      rw [same, Store.isAdminSession, finds.signedIn]
      exact admin
    · exact evolves.isAdminSession rfl (owned post editing)

/-- So does a run, at every point of it. -/
theorem editorIsOwned_run_iff (owned : s.EditorIsOwned) (events : List Event) :
    (∀ earlier, earlier <+: events → (s.run earlier).EditorIsOwned) ↔
      ∀ earlier event, earlier ++ [event] <+: events → ¬ (s.run earlier).LetsReaderIn event := by
  constructor
  · intro always earlier event upTo
    have before := always earlier ((List.prefix_append earlier [event]).trans upTo)
    have after := always (earlier ++ [event]) upTo
    rw [run, List.foldl_concat] at after
    exact (editorIsOwned_step_iff before).mp after
  · intro keepsOut earlier upTo
    induction earlier using List.reverseRecOn with
    | nil => exact owned
    | append_singleton earlier event ih =>
      have before := ih ((List.prefix_append earlier [event]).trans upTo)
      rw [run, List.foldl_concat]
      exact (editorIsOwned_step_iff before).mpr (keepsOut earlier event upTo)

end

theorem Undisturbed.editorIsBacked {s : Session σ} (undisturbed : s.Undisturbed) :
    s.EditorIsBacked := by
  induction undisturbed with
  | start backend site host => exact fun _ => nofun
  | withScrollback _ _ ih => exact ih
  | register _ _ ih => exact ih
  | setClock _ _ ih => exact ih
  | @request s backend request keeps asked _ ih =>
    intro post editing
    have evolves := (store s.backend).evolves_perform request
    rw [← asked] at evolves
    exact (ih post editing).evolves evolves keeps
  | step event _ ih => exact editorIsBacked_step ih event

/-! ### What the editor does -/

/-- What a save fails with: a failure of the backend, or a missing permission. -/
def saveError? (s : Session σ) : Option BackendError :=
  (failure? s.backend .updateContent).or
    (if (store s.backend).isAdminSession then none else some .permissionDenied)

/-- What the editor is to whoever is signed in. Only saving asks for more than that. -/
structure EditorLaw (s : Session σ) : Prop where
  /-- While it is open somebody is signed in, and its post is there. -/
  backed : s.EditorIsBacked
  /-- Administrators save unless the backend fails, -/
  saves : ∀ post, s.mode = .running (.editor post) → s.saveError? = none → ∀ content,
    (s.saveEdit content).mode = .normal ∧ store (s.saveEdit content).backend =
      (store s.backend).changePost (·.id == post.id) fun p => { p with content := some content }
  /-- and otherwise it stays open, and nothing is saved. -/
  refuses : ∀ post, s.mode = .running (.editor post) → ∀ e, s.saveError? = some e → ∀ content,
    s.saveEdit content = s.print .system (.text s!"Failed to save post: {e.message}")
  answers : s.mode = .normal → ∀ event line slug, s.submitted? event = some line →
    s.AsksToEdit line slug → ∀ account, (store s.backend).sessionAccount = some account →
      s.AnswersEdit line slug account (s.step event) ∧
        ((s.step event).IsDenied ↔ failure? s.backend .findPost = some .permissionDenied)

theorem updateContent_of_editing {s : Session σ} {post : Post}
    (backs : (store s.backend).Backs post) (content : String) :
    Backend.updateContent post.id content s.backend = match s.saveError? with
      | some e => (.error e, s.backend)
      | none => (.ok (), withStore s.backend ((store s.backend).changePost (·.id == post.id)
          fun p => { p with content := some content })) := by
  rw [saveError?]
  cases failure : failure? s.backend .updateContent with
  | some e => exact updateContent_failing failure post.id content
  | none =>
    have served := Store.updateContent_cases (working s.backend _ failure) backs content
    rw [updateContent_working failure, served]
    cases admin : (store s.backend).isAdminSession with
    | true => rfl
    | false => simp [withStore_store]

theorem saves_of_backed {s : Session σ} (backed : s.EditorIsBacked) {post : Post}
    (editing : s.mode = .running (.editor post)) (allowed : s.saveError? = none)
    (content : String) :
    (s.saveEdit content).mode = .normal ∧ store (s.saveEdit content).backend =
      (store s.backend).changePost (·.id == post.id)
        fun p => { p with content := some content } := by
  have answer := updateContent_of_editing (backed post editing) content
  rw [allowed] at answer
  rw [saveEdit_editing editing, answer]
  exact ⟨rfl, store_withStore s.backend _⟩

theorem refuses_of_backed {s : Session σ} (backed : s.EditorIsBacked) {post : Post}
    (editing : s.mode = .running (.editor post)) {e : BackendError}
    (refused : s.saveError? = some e) (content : String) :
    s.saveEdit content = s.print .system (.text s!"Failed to save post: {e.message}") := by
  have answer := updateContent_of_editing (backed post editing) content
  rw [refused] at answer
  rw [saveEdit_editing editing, answer]
  rfl

theorem Undisturbed.editorLaw {s : Session σ} (undisturbed : s.Undisturbed) : s.EditorLaw where
  backed := undisturbed.editorIsBacked
  saves _ editing allowed := saves_of_backed undisturbed.editorIsBacked editing allowed
  refuses _ editing _ refused := refuses_of_backed undisturbed.editorIsBacked editing refused
  answers := by
    intro normal event line slug submits asks account signedIn
    have answers := answersEdit_of_asks normal asks signedIn
    rw [step_of_submitted submits]
    exact ⟨answers, answers.isDenied_iff normal⟩

/-- Over a backend around a store the editor keeps its law, and it is open for administrators only
exactly as long as no reader asks for a post that is found. -/
theorem editor_of_run {s : Session σ} (undisturbed : s.Undisturbed) (owned : s.EditorIsOwned)
    (events : List Event) :
    (s.run events).EditorLaw ∧
      ((∀ earlier, earlier <+: events → (s.run earlier).EditorIsOwned) ↔
        ∀ earlier event, earlier ++ [event] <+: events →
          ¬ (s.run earlier).LetsReaderIn event) :=
  ⟨(undisturbed.run events).editorLaw, editorIsOwned_run_iff owned events⟩

/-- A published post. -/
def guide : Post :=
  ⟨1, "Guide", "guide", some "Read on.", true, some ⟨3, 0⟩, ⟨2, 0⟩, 1, []⟩

/-- A session over a store with this post, in which a reader has signed in. -/
def ofReader : Session Store :=
  let seed := ((Store.empty "" (.ticking ⟨10, 0⟩)).addAccount "r@b.c" "secret" false).addPost guide
  (start seed .builtin (.at ⟨⟨0, 0⟩, 0⟩)).run [.submitLine "login r@b.c", .submitLine "secret"]

theorem undisturbed_ofReader : ofReader.Undisturbed := (Undisturbed.start _ _ _).run _

theorem mode_ofReader : ofReader.mode = .normal := by decide +kernel

/-- The reader gets the editor, although it was an administrator's so far, and cannot save. -/
theorem editor_of_run_of_reader :
    let s := ofReader.run [.submitLine "post edit guide"]
    s.mode = .running (.editor guide) ∧ ofReader.EditorIsOwned ∧ ¬ s.EditorIsOwned ∧
      s.saveEdit "Mine." = s.print .system (.text "Failed to save post: permission denied") := by
  intro s
  have editing : s.mode = .running (.editor guide) := by decide +kernel
  have refused : s.saveError? = some .permissionDenied := by decide +kernel
  have reader : (store s.backend).isAdminSession = false := by decide +kernel
  have owned : ofReader.EditorIsOwned := fun post editing =>
    nomatch mode_ofReader.symm.trans editing
  have law := (editor_of_run undisturbed_ofReader owned [.submitLine "post edit guide"]).1
  refine ⟨editing, owned, fun mine => ?_, law.refuses guide editing _ refused "Mine."⟩
  rw [mine guide editing] at reader
  cases reader

/-- So an open editor is no sign of an administrator, and its line is not answered by a refusal. -/
theorem editor_of_reader :
    ofReader.Undisturbed ∧ ofReader.mode = .normal ∧
      (store ofReader.backend).sessionAccount = some ⟨1, "r@b.c", "secret", false⟩ ∧
        (ofReader.step (.submitLine "post edit guide")).mode = .running (.editor guide) :=
  ⟨undisturbed_ofReader, mode_ofReader, by decide +kernel, by decide +kernel⟩

end Session

end PortfolioShell
