import PortfolioShell.Backend.Faulty
import PortfolioShell.Backend.Store
import PortfolioShell.Proofs.Steps

/-!
# Calls that fail

A call that fails leaves the backend as it is: whatever may refuse a write is asked before the first
change. A recording backend answers like the one inside it and writes down every failure, so it
tells which calls of a command have failed. A step is contained if after a failure the backend is as
it was and the step tells what it should.
-/
namespace PortfolioShell

variable {σ α β : Type}

/-- A call that changes nothing when it fails. -/
def Clean (call : Call σ α) : Prop := ∀ b e, (call b).1 = .error e → (call b).2 = b

/-- A backend that no failing call changes, nor the question who is signed in. -/
structure FailsClean (σ : Type) [Backend σ] : Prop where
  currentUser : ∀ b : σ, (Backend.currentUser b).2 = b
  signIn : ∀ email password, Clean (σ := σ) (Backend.signIn email password)
  signUp : ∀ email password, Clean (σ := σ) (Backend.signUp email password)
  signOut : Clean (σ := σ) Backend.signOut
  about : Clean (σ := σ) Backend.about
  publishedPosts : Clean (σ := σ) Backend.publishedPosts
  allPosts : Clean (σ := σ) Backend.allPosts
  findPost : ∀ slug, Clean (σ := σ) (Backend.findPost slug)
  createPost : ∀ draft, Clean (σ := σ) (Backend.createPost draft)
  publishPost : ∀ slug, Clean (σ := σ) (Backend.publishPost slug)
  updateContent : ∀ id content, Clean (σ := σ) (Backend.updateContent id content)
  tagPost : ∀ slug tags, Clean (σ := σ) (Backend.tagPost slug tags)
  untagPost : ∀ slug tags, Clean (σ := σ) (Backend.untagPost slug tags)
  searchSlugs : ∀ start, Clean (σ := σ) (Backend.searchSlugs start)

/-! ### The store -/

namespace Store

theorem clean_guarded {act : Store → Except BackendError α × Store} (clean : Clean act) :
    Clean (guarded act) := by
  intro b e failed
  unfold guarded at failed ⊢
  cases outage : b.outage with
  | some message => rfl
  | none =>
    rw [outage] at failed
    exact clean b e failed

theorem clean_adminOnly {act : Store → Except BackendError α × Store} (clean : Clean act) :
    Clean (adminOnly act) := by
  refine clean_guarded fun b e failed => ?_
  split
  · rename_i admin
    rw [if_pos admin] at failed
    exact clean b e failed
  · rfl

theorem clean_onPost {slug : String} {act : Post → Store → Except BackendError α × Store}
    (clean : ∀ post, Clean (act post)) : Clean (onPost slug act) := by
  refine clean_adminOnly fun b e failed => ?_
  cases found : b.posts.find? (·.slug == slug) with
  | some post =>
    simp only [found] at failed ⊢
    exact clean post b e failed
  | none => rfl

theorem failsClean : FailsClean Store where
  currentUser _ := rfl
  signIn email password := clean_guarded fun b e failed => by
    split
    · rename_i found
      rw [found] at failed
      cases failed
    · rfl
  signUp email password := clean_guarded fun b e failed => by
    split
    · rfl
    · rename_i free
      rw [if_neg free] at failed
      split
      · rfl
      · rename_i long
        rw [if_neg long] at failed
        cases failed
  signOut := clean_guarded fun _ _ failed => by cases failed
  about := clean_guarded fun _ _ failed => by cases failed
  publishedPosts := clean_guarded fun _ _ failed => by cases failed
  allPosts := clean_adminOnly fun _ _ failed => by cases failed
  findPost _ := clean_guarded fun _ _ failed => by cases failed
  createPost draft := clean_adminOnly fun b e failed => by
    split
    · rfl
    · rename_i free
      rw [if_neg free] at failed
      cases failed
  publishPost _ := clean_onPost fun _ _ _ failed => by cases failed
  updateContent id content := clean_adminOnly fun b e failed => by
    split
    · rename_i known
      rw [if_pos known] at failed
      cases failed
    · rfl
  tagPost _ _ := clean_onPost fun _ _ _ failed => by cases failed
  untagPost _ _ := clean_onPost fun _ _ _ failed => by cases failed
  searchSlugs _ := clean_guarded fun _ _ failed => by cases failed

end Store

/-! ### Faulty backends -/

namespace Faulty

theorem lift_apply (step : StateM σ α) (b : Faulty σ) :
    lift step b = ((step b.inner).1, { b with inner := (step b.inner).2 }) := rfl

theorem clean_guarded {method : Method} {call : Call σ α} (clean : Clean call) :
    Clean (guarded method call) := by
  intro b e failed
  unfold guarded at failed ⊢
  cases fault : b.fault? method with
  | some error => rfl
  | none =>
    rw [fault] at failed
    have inner : (call b.inner).2 = b.inner := clean b.inner e failed
    simp only [lift_apply, inner]

theorem failsClean [Backend σ] (clean : FailsClean σ) : FailsClean (Faulty σ) where
  currentUser b := by
    have inner := clean.currentUser b.inner
    simp only [Backend.currentUser, lift_apply, inner]
  signIn email password := clean_guarded (clean.signIn email password)
  signUp email password := clean_guarded (clean.signUp email password)
  signOut := clean_guarded clean.signOut
  about := clean_guarded clean.about
  publishedPosts := clean_guarded clean.publishedPosts
  allPosts := clean_guarded clean.allPosts
  findPost slug := clean_guarded (clean.findPost slug)
  createPost draft := clean_guarded (clean.createPost draft)
  publishPost slug := clean_guarded (clean.publishPost slug)
  updateContent id content := clean_guarded (clean.updateContent id content)
  tagPost slug tags := clean_guarded (clean.tagPost slug tags)
  untagPost slug tags := clean_guarded (clean.untagPost slug tags)
  searchSlugs start := clean_guarded (clean.searchSlugs start)

end Faulty

/-! ### Recording failures -/

/-- An inner backend with the failures of its calls so far. -/
structure Recorded (σ : Type) where
  inner : σ
  failures : List BackendError

namespace Recorded

/-- The failure of an answer, if it is one. -/
def failuresIn : Except BackendError α → List BackendError
  | .ok _ => []
  | .error e => [e]

/-- Runs a step that cannot fail. -/
def lift (step : StateM σ α) : StateM (Recorded σ) α := fun r =>
  let (answer, inner) := step r.inner
  (answer, { r with inner })

/-- Runs a call and writes down its failure. -/
def noting (call : Call σ α) : Call (Recorded σ) α := fun r =>
  let (answer, inner) := call r.inner
  (answer, ⟨inner, r.failures ++ failuresIn answer⟩)

instance [Backend σ] : Backend (Recorded σ) where
  currentUser := lift Backend.currentUser
  signIn email password := noting (Backend.signIn email password)
  signUp email password := noting (Backend.signUp email password)
  signOut := noting Backend.signOut
  about := noting Backend.about
  publishedPosts := noting Backend.publishedPosts
  allPosts := noting Backend.allPosts
  findPost slug := noting (Backend.findPost slug)
  createPost draft := noting (Backend.createPost draft)
  publishPost slug := noting (Backend.publishPost slug)
  updateContent id content := noting (Backend.updateContent id content)
  tagPost slug tags := noting (Backend.tagPost slug tags)
  untagPost slug tags := noting (Backend.untagPost slug tags)
  searchSlugs start := noting (Backend.searchSlugs start)

theorem noting_apply (call : Call σ α) (r : Recorded σ) :
    noting call r =
      ((call r.inner).1, ⟨(call r.inner).2, r.failures ++ failuresIn (call r.inner).1⟩) := rfl

/-- The failures of the calls that a program makes over a backend. -/
def failuresOf (program : StateM (Recorded σ) α) (backend : σ) : List BackendError :=
  (program ⟨backend, []⟩).2.failures

end Recorded

/-- An answer that is a failure. -/
def IsFailure (answer : Except BackendError α) : Prop := ∃ e, answer = .error e

/-- A step and the same step over a recording backend. If a call fails, the step changes nothing and
its answer tells of it. -/
structure Contained (Tells : α → Prop) (step : StateM σ α) (recorded : StateM (Recorded σ) α) :
    Prop where
  answer : ∀ r, (recorded r).1 = (step r.inner).1
  inner : ∀ r, (recorded r).2.inner = (step r.inner).2
  failing : ∀ r, (recorded r).2.failures ≠ r.failures →
    (step r.inner).2 = r.inner ∧ Tells (step r.inner).1

namespace Contained

variable {Tells : α → Prop}

theorem pure (answer : α) : Contained Tells (pure answer : StateM σ α) (pure answer) where
  answer _ := rfl
  inner _ := rfl
  failing _ failed := absurd rfl failed

theorem call {call : Call σ α} (clean : Clean call) :
    Contained IsFailure call (Recorded.noting call) where
  answer _ := rfl
  inner _ := rfl
  failing := by
    intro r failed
    cases answer : (call r.inner).1 with
    | ok result =>
      rw [Recorded.noting_apply, answer] at failed
      exact absurd (List.append_nil r.failures) failed
    | error e => exact ⟨clean r.inner e answer, e, rfl⟩

/-- What follows a call makes no other one. -/
theorem bind {step : Call σ β} {recorded : Call (Recorded σ) β}
    {next : Except BackendError β → StateM σ α}
    {nextRecorded : Except BackendError β → StateM (Recorded σ) α}
    (contained : Contained IsFailure step recorded)
    (onError : ∀ e, ∃ answer, next (.error e) = Pure.pure answer ∧
      nextRecorded (.error e) = Pure.pure answer ∧ Tells answer)
    (onOk : ∀ result, ∃ answer, next (.ok result) = Pure.pure answer ∧
      nextRecorded (.ok result) = Pure.pure answer) :
    Contained Tells (step >>= next) (recorded >>= nextRecorded) := by
  have told : ∀ reply, ∃ answer, next reply = Pure.pure answer ∧
      nextRecorded reply = Pure.pure answer ∧ (IsFailure reply → Tells answer) := by
    intro reply
    cases reply with
    | error e =>
      obtain ⟨answer, plain, noted, tells⟩ := onError e
      exact ⟨answer, plain, noted, fun _ => tells⟩
    | ok result =>
      obtain ⟨answer, plain, noted⟩ := onOk result
      refine ⟨answer, plain, noted, ?_⟩
      rintro ⟨e, absurd⟩
      cases absurd
  constructor
  case answer =>
    intro r
    obtain ⟨answer, plain, noted, _⟩ := told (step r.inner).1
    rw [bind_apply, bind_apply, contained.answer, plain, noted]
    rfl
  case inner =>
    intro r
    obtain ⟨answer, plain, noted, _⟩ := told (step r.inner).1
    rw [bind_apply, bind_apply, contained.answer, plain, noted]
    exact contained.inner r
  case failing =>
    intro r failed
    obtain ⟨answer, plain, noted, tells⟩ := told (step r.inner).1
    rw [bind_apply, contained.answer, noted] at failed
    obtain ⟨same, failure⟩ := contained.failing r failed
    rw [bind_apply, plain]
    exact ⟨same, tells failure⟩

/-- Who is signed in may be asked before. -/
theorem afterUser [Backend σ] (clean : FailsClean σ) {next : Option User → StateM σ α}
    {nextRecorded : Option User → StateM (Recorded σ) α}
    (contained : ∀ user, Contained Tells (next user) (nextRecorded user)) :
    Contained Tells (Backend.currentUser >>= next) (Backend.currentUser >>= nextRecorded) := by
  constructor
  case answer => exact fun r => (contained _).answer _
  case inner => exact fun r => (contained _).inner _
  case failing =>
    intro r failed
    have step := (contained _).failing _ failed
    rw [bind_apply]
    exact ⟨step.1.trans (clean.currentUser r.inner), step.2⟩

/-- Over a backend without recorded failures. -/
theorem of_failures {step : StateM σ α} {recorded : StateM (Recorded σ) α}
    (contained : Contained Tells step recorded) {backend : σ}
    (failed : Recorded.failuresOf recorded backend ≠ []) :
    (step backend).2 = backend ∧ Tells (step backend).1 :=
  contained.failing ⟨backend, []⟩ failed

end Contained

end PortfolioShell
