import PortfolioShell.Backend.Basic

/-!
# Faulty backends

A backend around another one that fails chosen methods. A failing method does not reach the inner
backend, so it leaves the state as it is.
-/
namespace PortfolioShell

/-- The calls of a backend that can fail. -/
inductive Method where
  | signIn
  | signUp
  | signOut
  | about
  | publishedPosts
  | allPosts
  | findPost
  | createPost
  | publishPost
  | updateContent
  | tagPost
  | untagPost
  | searchSlugs
deriving DecidableEq, Repr

/-- An inner backend and the failure of each method that fails. -/
structure Faulty (σ : Type) where
  inner : σ
  faults : List (Method × BackendError)

namespace Faulty
variable {σ : Type}

/-- The failure of a method. -/
def fault? (backend : Faulty σ) (method : Method) : Option BackendError :=
  backend.faults.lookup method

/-- Makes a method fail from now on, or work again. -/
def setFault (backend : Faulty σ) (method : Method) (fault : Option BackendError) : Faulty σ :=
  let others := backend.faults.filter (·.1 != method)
  match fault with
  | some error => { backend with faults := (method, error) :: others }
  | none => { backend with faults := others }

/-- Runs a step of the inner backend. -/
def lift {α : Type} (step : StateM σ α) : StateM (Faulty σ) α := fun backend =>
  let (answer, inner) := step backend.inner
  (answer, { backend with inner })

/-- Runs a call of the inner backend unless its method fails. -/
def guarded {α : Type} (method : Method) (call : Call σ α) : Call (Faulty σ) α := fun backend =>
  match backend.fault? method with
  | some error => (.error error, backend)
  | none => lift call backend

instance [Backend σ] : Backend (Faulty σ) where
  currentUser := lift Backend.currentUser
  signIn email password := guarded .signIn (Backend.signIn email password)
  signUp email password := guarded .signUp (Backend.signUp email password)
  signOut := guarded .signOut Backend.signOut
  about := guarded .about Backend.about
  publishedPosts := guarded .publishedPosts Backend.publishedPosts
  allPosts := guarded .allPosts Backend.allPosts
  findPost slug := guarded .findPost (Backend.findPost slug)
  createPost draft := guarded .createPost (Backend.createPost draft)
  publishPost slug := guarded .publishPost (Backend.publishPost slug)
  updateContent id content := guarded .updateContent (Backend.updateContent id content)
  tagPost slug tags := guarded .tagPost (Backend.tagPost slug tags)
  untagPost slug tags := guarded .untagPost (Backend.untagPost slug tags)
  searchSlugs start := guarded .searchSlugs (Backend.searchSlugs start)

end Faulty

end PortfolioShell
