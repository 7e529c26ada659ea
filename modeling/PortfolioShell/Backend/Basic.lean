import PortfolioShell.Post.Basic
import PortfolioShell.User

/-!
# Backends

Accounts and posts live behind a backend. A call is a step of the backend's state: it answers and
leaves a new state, also when the answer is a failure. Nothing else in the program is known to
fail, and every failure has a cause that is told to the user.
-/
namespace PortfolioShell

/-- Why a backend refused or failed a call. -/
inductive BackendError where
  | permissionDenied
  | notFound
  | conflict
  | auth (message : String)
  | network (message : String)
  | query (message : String)
deriving DecidableEq, Repr

/-- The wording of a failure; the last three kinds bring their own. -/
def BackendError.message : BackendError → String
  | permissionDenied => "permission denied"
  | notFound => "not found"
  | conflict => "already exists"
  | auth m | network m | query m => m

/-- A step of a backend in state `σ` that answers or fails. -/
abbrev Call (σ α : Type) := StateM σ (Except BackendError α)

/-- What a terminal asks of accounts and posts. -/
class Backend (σ : Type) where
  /-- Whoever is signed in. -/
  currentUser : StateM σ (Option User)
  /-- Starts a session. -/
  signIn : (email password : String) → Call σ User
  /-- Registers an account without starting a session. -/
  signUp : (email password : String) → Call σ Unit
  /-- Ends the session. -/
  signOut : Call σ Unit
  /-- The text about the owner. -/
  about : Call σ String
  /-- Published posts, latest publication first. -/
  publishedPosts : Call σ (List Post)
  /-- Every post, latest creation first. -/
  allPosts : Call σ (List Post)
  /-- The post of a slug; drafts are shown to users only. -/
  findPost : (slug : String) → Call σ (Option Post)
  /-- Stores a draft. -/
  createPost : (draft : Draft) → Call σ Post
  /-- Publishes the post of a slug. -/
  publishPost : (slug : String) → Call σ Post
  /-- Replaces the content of the post of a number. -/
  updateContent : (id : Nat) → (content : String) → Call σ Unit
  /-- Adds tags to the post of a slug. -/
  tagPost : (slug : String) → (tags : List String) → Call σ Unit
  /-- Takes tags off the post of a slug and counts those that were there. -/
  untagPost : (slug : String) → (tags : List String) → Call σ Nat
  /-- Slugs that begin with a text, in any case. -/
  searchSlugs : (start : String) → Call σ (List SlugHit)

end PortfolioShell
