import PortfolioShell.Backend.Basic
import PortfolioShell.Text.Lowercase

/-!
# The store

A backend that holds accounts and posts itself. Anyone reads published posts, users read drafts,
administrators write. The store looks at its clock each time it stamps a post.
-/
namespace PortfolioShell

/-- A registered account. -/
structure Account where
  id : Nat
  email : String
  password : String
  isAdmin : Bool
deriving DecidableEq, Repr

/-- The user that an account signs in as. -/
def Account.user (account : Account) : User := ⟨account.id, account.email⟩

/-- Accounts, posts and the session. While there is an outage every call that can fail does. -/
structure Store where
  accounts : List Account
  session : Option Nat
  posts : List Post
  aboutText : String
  outage : Option String
  clock : Time.Clock

namespace Store

/-- A store without accounts and posts. -/
def empty (aboutText : String) (clock : Time.Clock) : Store :=
  ⟨[], none, [], aboutText, none, clock⟩

/-- Registers an account under the next number. -/
def addAccount (store : Store) (email password : String) (isAdmin : Bool) : Store :=
  { store with
    accounts := store.accounts ++ [⟨store.accounts.length + 1, email, password, isAdmin⟩] }

/-- Adds a post under the next number, whatever number it had. -/
def addPost (store : Store) (post : Post) : Store :=
  { store with posts := store.posts ++ [{ post with id := store.posts.length + 1 }] }

/-- Begins an outage with a message, or ends it. -/
def setOutage (store : Store) (message : Option String) : Store := { store with outage := message }

/-- The account of the session. -/
def sessionAccount (store : Store) : Option Account :=
  store.session.bind fun id => store.accounts.find? (·.id == id)

/-- Whether the session is an administrator's. -/
def isAdminSession (store : Store) : Bool := (store.sessionAccount.map (·.isAdmin)).getD false

/-- Changes the first post of a list that passes a test. -/
def changeFirst (test : Post → Bool) (change : Post → Post) : List Post → List Post
  | [] => []
  | post :: rest => if test post then change post :: rest else post :: changeFirst test change rest

/-- Changes the first stored post that passes a test. -/
def changePost (store : Store) (test : Post → Bool) (change : Post → Post) : Store :=
  { store with posts := changeFirst test change store.posts }

/-- A call that an outage fails, and that otherwise goes on from the state. -/
def guarded {α : Type} (act : Store → Except BackendError α × Store) : Call Store α := fun store =>
  match store.outage with
  | some message => (.error (.network message), store)
  | none => act store

/-- A call that only administrators may make. -/
def adminOnly {α : Type} (act : Store → Except BackendError α × Store) : Call Store α :=
  guarded fun store =>
    if store.isAdminSession then act store else (.error .permissionDenied, store)

/-- A call by an administrator on the post of a slug. -/
def onPost {α : Type} (slug : String) (act : Post → Store → Except BackendError α × Store) :
    Call Store α :=
  adminOnly fun store =>
    match store.posts.find? (·.slug == slug) with
    | some post => act post store
    | none => (.error .notFound, store)

/-- What failed sign-ins are told. -/
def badCredentials : BackendError := .auth "Invalid login credentials"

/-- What a sign-up with a registered address is told. -/
def alreadyRegistered : BackendError := .auth "User already registered"

/-- What a sign-up with a short password is told. -/
def shortPassword : BackendError := .auth "Password should be at least 6 characters."

/-- The least size of a password in bytes. -/
def leastPasswordSize : Nat := 6

/-- Whoever is signed in. -/
def currentUser (store : Store) : Option User × Store :=
  (store.sessionAccount.map (·.user), store)

/-- Starts a session for the first account with this address and password. -/
def signIn (email password : String) : Call Store User := guarded fun store =>
  match store.accounts.find? fun a => a.email == email && a.password == password with
  | some account => (.ok account.user, { store with session := some account.id })
  | none => (.error badCredentials, store)

/-- Registers a plain account; a registered address is refused before a short password. -/
def signUp (email password : String) : Call Store Unit := guarded fun store =>
  if store.accounts.any (·.email == email) then (.error alreadyRegistered, store)
  else if password.utf8ByteSize < leastPasswordSize then (.error shortPassword, store)
  else (.ok (), store.addAccount email password false)

/-- Ends the session. -/
def signOut : Call Store Unit := guarded fun store => (.ok (), { store with session := none })

/-- The text about the owner. -/
def about : Call Store String := guarded fun store => (.ok store.aboutText, store)

/-- The order of optional instants, later ones first and none last; equals go by number, higher
first. -/
def laterFirst (stamp : Post → Option Time.Instant) (a b : Post) : Bool :=
  let order := match stamp b, stamp a with
    | none, none => Ordering.eq
    | none, some _ => .lt
    | some _, none => .gt
    | some tb, some ta => tb.compare ta
  (order.then (compare b.id a.id)) != .gt

/-- Published posts, latest publication first. -/
def publishedPosts : Call Store (List Post) := guarded fun store =>
  (.ok ((store.posts.filter (·.isPublished)).mergeSort (laterFirst (·.publishedAt))), store)

/-- Every post, latest creation first. -/
def allPosts : Call Store (List Post) := adminOnly fun store =>
  (.ok (store.posts.mergeSort (laterFirst (some ·.createdAt))), store)

/-- The first post of a slug that the session may read. -/
def findPost (slug : String) : Call Store (Option Post) := guarded fun store =>
  (.ok (store.posts.find? fun p => p.slug == slug && (p.isPublished || store.session.isSome)),
    store)

/-- One more than the highest number of a post. -/
def nextPostId (store : Store) : Nat := store.posts.foldl (fun top p => max top p.id) 0 + 1

/-- Stores a draft under the next number, stamped with the time. -/
def createPost (draft : Draft) : Call Store Post := adminOnly fun store =>
  if store.posts.any (·.slug == draft.slug) then (.error .conflict, store)
  else
    let post : Post := {
      id := store.nextPostId, title := draft.title, slug := draft.slug, content := none,
      isPublished := false, publishedAt := none, createdAt := store.clock.now,
      authorId := draft.authorId, tags := [] }
    (.ok post, { store with posts := store.posts ++ [post], clock := store.clock.next })

/-- Publishes a post, again if need be, and stamps it with the time. -/
def publishPost (slug : String) : Call Store Post := onPost slug fun post store =>
  let publish (p : Post) : Post := { p with isPublished := true, publishedAt := some store.clock.now }
  (.ok (publish post),
    { store.changePost (·.slug == slug) publish with clock := store.clock.next })

/-- Replaces the content of a post. -/
def updateContent (id : Nat) (content : String) : Call Store Unit := adminOnly fun store =>
  if store.posts.any (·.id == id) then
    (.ok (), store.changePost (·.id == id) fun p => { p with content := some content })
  else (.error .notFound, store)

/-- Adds a tag behind the others unless it is there. -/
def addTag (tags : List String) (tag : String) : List String :=
  if tags.contains tag then tags else tags ++ [tag]

/-- Adds tags to a post. -/
def tagPost (slug : String) (tags : List String) : Call Store Unit := onPost slug fun _ store =>
  (.ok (), store.changePost (·.slug == slug) fun p => { p with tags := tags.foldl addTag p.tags })

/-- Takes tags off a post and counts those that were there. -/
def untagPost (slug : String) (tags : List String) : Call Store Nat := onPost slug fun post store =>
  let keep (p : Post) : List String := p.tags.filter (!tags.contains ·)
  (.ok (post.tags.length - (keep post).length),
    store.changePost (·.slug == slug) fun p => { p with tags := keep p })

/-- Slugs that begin with a text once both are in lower case, in the order of the posts. -/
def searchSlugs (start : String) : Call Store (List SlugHit) := guarded fun store =>
  let isHit (p : Post) : Bool :=
    (Text.lower start.toList).isPrefixOf (Text.lower p.slug.toList)
  (.ok ((store.posts.filter isHit).map fun p => ⟨p.slug, p.isPublished⟩), store)

instance : Backend Store where
  currentUser := currentUser
  signIn := signIn
  signUp := signUp
  signOut := signOut
  about := about
  publishedPosts := publishedPosts
  allPosts := allPosts
  findPost := findPost
  createPost := createPost
  publishPost := publishPost
  updateContent := updateContent
  tagPost := tagPost
  untagPost := untagPost
  searchSlugs := searchSlugs

end Store

end PortfolioShell
