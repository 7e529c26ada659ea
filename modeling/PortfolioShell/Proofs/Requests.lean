import PortfolioShell.Proofs.Posts

/-!
# Requests to the store

A store is filled with accounts and posts and then asked for things in any order, while outages come
and go and its clock is set. A request leaves the store as it is or does one of a few things to it.
They are listed once, each with what the store has made sure of before, so that an invariant is
proved by going through the list and not by opening the calls again. The accounts are the first such
case: they are never changed, only added to, and their numbers count them. So the number of a
session stays that of the account whose owner has signed in.
-/
namespace PortfolioShell

/-- A later state of a post: what it was created with is the same, and it is not withdrawn. -/
structure Post.IsRevision (post later : Post) : Prop where
  id : later.id = post.id
  title : later.title = post.title
  slug : later.slug = post.slug
  authorId : later.authorId = post.authorId
  createdAt : later.createdAt = post.createdAt
  published : post.isPublished = true → later.isPublished = true

/-- A call of a store with its arguments, or a change of what surrounds the store. -/
inductive Store.Request where
  | currentUser
  | signIn (email password : String)
  | signUp (email password : String)
  | signOut
  | about
  | publishedPosts
  | allPosts
  | findPost (slug : String)
  | createPost (draft : Draft)
  | publishPost (slug : String)
  | updateContent (id : Nat) (content : String)
  | tagPost (slug : String) (tags : List String)
  | untagPost (slug : String) (tags : List String)
  | searchSlugs (start : String)
  | setOutage (message : Option String)
  | setClock (clock : Time.Clock)

namespace Store

/-- The store after a request. -/
def perform (store : Store) : Request → Store
  | .currentUser => store.currentUser.2
  | .signIn email password => (signIn email password store).2
  | .signUp email password => (signUp email password store).2
  | .signOut => (signOut store).2
  | .about => (about store).2
  | .publishedPosts => (publishedPosts store).2
  | .allPosts => (allPosts store).2
  | .findPost slug => (findPost slug store).2
  | .createPost draft => (createPost draft store).2
  | .publishPost slug => (publishPost slug store).2
  | .updateContent id content => (updateContent id content store).2
  | .tagPost slug tags => (tagPost slug tags store).2
  | .untagPost slug tags => (untagPost slug tags store).2
  | .searchSlugs start => (searchSlugs start store).2
  | .setOutage message => store.setOutage message
  | .setClock clock => { store with clock }

/-- The store after requests in order. -/
def run (store : Store) (requests : List Request) : Store := requests.foldl perform store

/-- What every request carries on holds after a run. It may speak of the requests so far. -/
theorem run_induction {P : List Request → Store → Prop} {seed : Store} (start : P [] seed)
    (step : ∀ past store request, P past store → P (past ++ [request]) (store.perform request))
    (requests : List Request) : P requests (seed.run requests) := by
  have onwards : ∀ {past store}, P past store → P (past ++ requests) (store.run requests) := by
    induction requests with
    | nil =>
      intro past store here
      simpa [run] using here
    | cons request rest ih =>
      intro past store here
      simpa [run] using ih (step past store request here)
  exact onwards start

/-- A store before its first request: accounts and posts have been put into it. -/
inductive Seeded : Store → Prop
  | empty (aboutText : String) (clock : Time.Clock) : Seeded (.empty aboutText clock)
  | addAccount {store : Store} (email password : String) (isAdmin : Bool) :
      Seeded store → Seeded (store.addAccount email password isAdmin)
  | addPost {store : Store} (post : Post) : Seeded store → Seeded (store.addPost post)

/-! ### What a request does -/

/-- All that requests do to a store. -/
inductive Evolves (store : Store) : Request → Store → Prop
  | rests (request : Request) : Evolves store request store
  | outage (message : Option String) :
      Evolves store (.setOutage message) (store.setOutage message)
  | clock (clock : Time.Clock) : Evolves store (.setClock clock) { store with clock }
  | signedIn {account : Account} (known : account ∈ store.accounts) :
      Evolves store (.signIn account.email account.password)
        { store with session := some account.id }
  | signedUp {email password : String} (free : ∀ account ∈ store.accounts, account.email ≠ email)
      (long : leastPasswordSize ≤ password.utf8ByteSize) :
      Evolves store (.signUp email password) (store.addAccount email password false)
  | signedOut : Evolves store .signOut { store with session := none }
  | created {draft : Draft} (admin : store.isAdminSession = true)
      (free : ∀ post ∈ store.posts, post.slug ≠ draft.slug) :
      Evolves store (.createPost draft)
        { store with posts := store.posts ++ [store.drafted draft], clock := store.clock.next }
  | changed {request : Request} {test : Post → Bool} {change : Post → Post} (clock : Time.Clock)
      (admin : store.isAdminSession = true)
      (revises : ∀ post : Post, post.IsRevision (change post)) :
      Evolves store request { store.changePost test change with clock := clock }

variable {α : Type} {store : Store} {request : Request}

theorem evolves_guarded {act : Store → Except BackendError α × Store}
    (acting : Evolves store request (act store).2) :
    Evolves store request (guarded act store).2 := by
  unfold guarded
  cases store.outage with
  | some message => exact .rests request
  | none => exact acting

theorem evolves_adminOnly {act : Store → Except BackendError α × Store}
    (acting : store.isAdminSession = true → Evolves store request (act store).2) :
    Evolves store request (adminOnly act store).2 := by
  refine evolves_guarded ?_
  cases admin : store.isAdminSession with
  | true => simpa using acting admin
  | false => exact .rests request

theorem evolves_onPost {slug : String} {act : Post → Store → Except BackendError α × Store}
    (acting : store.isAdminSession = true → ∀ post, Evolves store request (act post store).2) :
    Evolves store request (onPost slug act store).2 := by
  refine evolves_adminOnly fun admin => ?_
  cases store.posts.find? (·.slug == slug) with
  | some post => exact acting admin post
  | none => exact .rests request

theorem evolves_signIn (store : Store) (email password : String) :
    Evolves store (.signIn email password) (signIn email password store).2 := by
  refine evolves_guarded ?_
  cases found : store.accounts.find? fun a => a.email == email && a.password == password with
  | none => exact .rests _
  | some account =>
    have known := List.mem_of_find?_eq_some found
    have fits := List.find?_some found
    simp only [Bool.and_eq_true, beq_iff_eq] at fits
    obtain ⟨rfl, rfl⟩ := fits
    exact .signedIn known

theorem evolves_signUp (store : Store) (email password : String) :
    Evolves store (.signUp email password) (signUp email password store).2 := by
  refine evolves_guarded ?_
  split
  · exact .rests _
  · rename_i free
    split
    · exact .rests _
    · rename_i long
      exact .signedUp (by simpa using free) (Nat.le_of_not_lt long)

theorem evolves_createPost (store : Store) (draft : Draft) :
    Evolves store (.createPost draft) (createPost draft store).2 := by
  refine evolves_adminOnly fun admin => ?_
  split
  · exact .rests _
  · rename_i free
    exact .created admin (by simpa using free)

theorem evolves_updateContent (store : Store) (id : Nat) (content : String) :
    Evolves store (.updateContent id content) (updateContent id content store).2 := by
  refine evolves_adminOnly fun admin => ?_
  split
  · exact .changed store.clock admin fun post => ⟨rfl, rfl, rfl, rfl, rfl, fun h => h⟩
  · exact .rests _

/-- A request does nothing to a store that is not on the list. -/
theorem evolves_perform (store : Store) (request : Request) :
    Evolves store request (store.perform request) := by
  cases request with
  | currentUser => exact .rests _
  | signIn email password => exact store.evolves_signIn email password
  | signUp email password => exact store.evolves_signUp email password
  | signOut => exact evolves_guarded .signedOut
  | about => exact evolves_guarded (.rests _)
  | publishedPosts => exact evolves_guarded (.rests _)
  | allPosts => exact evolves_adminOnly fun _ => .rests _
  | findPost slug => exact evolves_guarded (.rests _)
  | createPost draft => exact store.evolves_createPost draft
  | publishPost slug =>
    exact evolves_onPost fun admin _ =>
      .changed store.clock.next admin fun post => ⟨rfl, rfl, rfl, rfl, rfl, fun _ => rfl⟩
  | updateContent id content => exact store.evolves_updateContent id content
  | tagPost slug tags =>
    exact evolves_onPost fun admin _ =>
      .changed store.clock admin fun post => ⟨rfl, rfl, rfl, rfl, rfl, fun h => h⟩
  | untagPost slug tags =>
    exact evolves_onPost fun admin _ =>
      .changed store.clock admin fun post => ⟨rfl, rfl, rfl, rfl, rfl, fun h => h⟩
  | searchSlugs start => exact evolves_guarded (.rests _)
  | setOutage message => exact .outage message
  | setClock clock => exact .clock clock

/-! ### Accounts -/

/-- Items whose numbers are their places, counted from one. -/
def CountedBy (number : α → Nat) (items : List α) : Prop :=
  ∀ i item, items[i]? = some item → number item = i + 1

namespace CountedBy

variable {number : α → Nat} {items : List α}

theorem nil (number : α → Nat) : CountedBy number [] := by
  intro i item found
  simp at found

theorem concat (counted : CountedBy number items) {item : α}
    (next : number item = items.length + 1) : CountedBy number (items ++ [item]) := by
  intro i other found
  rw [List.getElem?_append] at found
  split at found
  · exact counted i other found
  · rename_i beyond
    rw [List.getElem?_singleton] at found
    split at found
    · rename_i first
      obtain rfl := Option.some.inj found
      omega
    · cases found

theorem unique (counted : CountedBy number items) {a b : α} (ha : a ∈ items) (hb : b ∈ items)
    (same : number a = number b) : a = b := by
  obtain ⟨i, hi⟩ := List.mem_iff_getElem?.mp ha
  obtain ⟨j, hj⟩ := List.mem_iff_getElem?.mp hb
  have place : i = j := by
    have := counted i a hi
    have := counted j b hj
    omega
  subst place
  exact Option.some.inj (hi.symm.trans hj)

theorem nodup (counted : CountedBy number items) : (items.map number).Nodup := by
  rw [List.nodup_iff_pairwise_ne, List.pairwise_map, List.pairwise_iff_getElem]
  intro i j hi hj before same
  have := counted i items[i] (List.getElem?_eq_getElem hi)
  have := counted j items[j] (List.getElem?_eq_getElem hj)
  omega

end CountedBy

theorem Seeded.accountIds (seeded : store.Seeded) : CountedBy (·.id) store.accounts := by
  induction seeded with
  | empty aboutText clock => exact .nil _
  | addAccount email password isAdmin _ ih => exact ih.concat rfl
  | addPost post _ ih => exact ih

theorem Seeded.signedOut (seeded : store.Seeded) : store.session = none := by
  induction seeded with
  | empty aboutText clock => rfl
  | addAccount email password isAdmin _ ih => exact ih
  | addPost post _ ih => exact ih

variable {next seed : Store}

theorem Evolves.accountIds (evolves : Evolves store request next)
    (counted : CountedBy (·.id) store.accounts) : CountedBy (·.id) next.accounts := by
  cases evolves with
  | signedUp free long => exact counted.concat rfl
  | _ => exact counted

/-- Every account stays, and no new one is an administrator's. -/
theorem Evolves.accounts (evolves : Evolves store request next) :
    ∃ added, next.accounts = store.accounts ++ added ∧
      ∀ account ∈ added, account.isAdmin = false := by
  have same : ∃ added, store.accounts = store.accounts ++ added ∧
      ∀ account ∈ added, account.isAdmin = false := ⟨[], by simp⟩
  cases evolves with
  | signedUp free long => exact ⟨_, rfl, by simp⟩
  | _ => exact same

theorem accounts_run (seed : Store) (requests : List Request) :
    ∃ added, (seed.run requests).accounts = seed.accounts ++ added ∧
      ∀ account ∈ added, account.isAdmin = false := by
  refine run_induction (P := fun _ store => ∃ added, store.accounts = seed.accounts ++ added ∧
    ∀ account ∈ added, account.isAdmin = false) ⟨[], by simp⟩ ?_ requests
  rintro past store request ⟨added, before, plain⟩
  obtain ⟨more, after, plainMore⟩ := (store.evolves_perform request).accounts
  refine ⟨added ++ more, by rw [after, before, List.append_assoc], ?_⟩
  intro account mem
  exact (List.mem_append.mp mem).elim (plain account) (plainMore account)

/-! ### Sessions -/

/-- The accounts are numbered, and the session is that of an account whose owner has signed in
through one of the requests so far. -/
structure SignedIn (past : List Request) (store : Store) : Prop where
  accountIds : CountedBy (·.id) store.accounts
  session : ∀ id, store.session = some id → ∃ account ∈ store.accounts, account.id = id ∧
    .signIn account.email account.password ∈ past

namespace SignedIn

variable {past : List Request}

theorem of_seeded (seeded : seed.Seeded) : SignedIn [] seed where
  accountIds := seeded.accountIds
  session := by simp [seeded.signedOut]

theorem evolves (signedIn : SignedIn past store) (evolves : Evolves store request next) :
    SignedIn (past ++ [request]) next where
  accountIds := evolves.accountIds signedIn.accountIds
  session := by
    intro id session
    -- Whoever was signed in before still is an account and still has signed in.
    have before : store.session = some id → ∃ account ∈ next.accounts, account.id = id ∧
        .signIn account.email account.password ∈ past ++ [request] := by
      intro session
      obtain ⟨account, known, sameId, asked⟩ := signedIn.session id session
      obtain ⟨added, after, _⟩ := evolves.accounts
      exact ⟨account, after ▸ List.mem_append_left _ known, sameId, List.mem_append_left _ asked⟩
    cases evolves with
    | signedIn known =>
      obtain rfl := Option.some.inj session
      exact ⟨_, known, rfl, by simp⟩
    | signedOut => cases session
    | _ => exact before session

theorem run (seeded : seed.Seeded) (requests : List Request) :
    SignedIn requests (seed.run requests) :=
  run_induction (of_seeded seeded)
    (fun _ store request here => here.evolves (store.evolves_perform request)) requests

end SignedIn

/-- Whether a request signs nobody in or out. -/
def Request.keepsSession : Request → Bool
  | .signIn _ _ | .signOut => false
  | _ => true

theorem Evolves.session (evolves : Evolves store request next)
    (keeps : request.keepsSession = true) : next.session = store.session := by
  cases evolves with
  | signedIn known => cases keeps
  | signedOut => cases keeps
  | _ => rfl

theorem Evolves.sessionAccount (evolves : Evolves store request next)
    (keeps : request.keepsSession = true) {account : Account}
    (signedIn : store.sessionAccount = some account) : next.sessionAccount = some account := by
  obtain ⟨added, accounts, _⟩ := evolves.accounts
  obtain ⟨id, session, found⟩ := Option.bind_eq_some_iff.mp signedIn
  refine Option.bind_eq_some_iff.mpr ⟨id, (evolves.session keeps).trans session, ?_⟩
  rw [accounts, List.find?_append, found]
  rfl

/-- As long as sessions are accounts', such a request leaves whoever is signed in as they are. -/
theorem Evolves.currentUser (evolves : Evolves store request next)
    (keeps : request.keepsSession = true)
    (known : store.session.isSome → store.sessionAccount.isSome) :
    next.currentUser.1 = store.currentUser.1 := by
  simp only [Store.currentUser]
  cases session : store.session with
  | none =>
    have after : next.session = none := (evolves.session keeps).trans session
    simp [Store.sessionAccount, session, after]
  | some id =>
    obtain ⟨account, signedIn⟩ := Option.isSome_iff_exists.mp (known (by rw [session]; rfl))
    rw [signedIn, evolves.sessionAccount keeps signedIn]

end Store

end PortfolioShell
