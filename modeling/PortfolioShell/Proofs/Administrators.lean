import PortfolioShell.Proofs.Requests

/-!
# Who writes posts

Every call that writes posts asks first whether the session is an administrator's. Administrators
are only made before the first request, and whoever is found under the number of the session is the
one who has signed in. Posts therefore change only for an administrator of the seeded store who has
given the password, and a store that was seeded without administrators keeps its posts.
-/
namespace PortfolioShell.Store

variable {store next seed : Store} {request : Request}

theorem exists_admin (admin : store.isAdminSession = true) :
    ∃ account ∈ store.accounts, store.sessionAccount = some account ∧ account.isAdmin = true := by
  cases found : store.sessionAccount with
  | none => simp [isAdminSession, found] at admin
  | some account =>
    obtain ⟨id, _, byId⟩ := Option.bind_eq_some_iff.mp found
    have isAdmin : account.isAdmin = true := by simpa [isAdminSession, found] using admin
    exact ⟨account, List.mem_of_find?_eq_some byId, rfl, isAdmin⟩

/-- Only an administrator's session changes posts. -/
theorem Evolves.isAdminSession_of_posts (evolves : Evolves store request next)
    (written : next.posts ≠ store.posts) : store.isAdminSession = true := by
  cases evolves with
  | created admin free => exact admin
  | changed clock admin revises => exact admin
  | _ => exact absurd rfl written

/-- An administrator was one from the start. -/
theorem seeded_of_admin {requests : List Request} {account : Account}
    (mem : account ∈ (seed.run requests).accounts) (admin : account.isAdmin = true) :
    account ∈ seed.accounts := by
  obtain ⟨added, after, plain⟩ := accounts_run seed requests
  rw [after, List.mem_append] at mem
  rcases mem with known | new
  · exact known
  · rw [plain account new] at admin
    cases admin

/-- The account that a session is taken for is the one that has signed in. -/
theorem SignedIn.asked {past : List Request} (signedIn : SignedIn past store) {account : Account}
    (found : store.sessionAccount = some account) :
    .signIn account.email account.password ∈ past := by
  obtain ⟨id, session, byId⟩ := Option.bind_eq_some_iff.mp found
  obtain ⟨owner, known, ownId, asked⟩ := signedIn.session id session
  have mem := List.mem_of_find?_eq_some byId
  have sameId : account.id = id := by simpa using List.find?_some byId
  obtain rfl := signedIn.accountIds.unique mem known (sameId.trans ownId.symm)
  exact asked

theorem posts_run_of_no_admin (plain : ∀ account ∈ seed.accounts, account.isAdmin = false)
    (requests : List Request) : (seed.run requests).posts = seed.posts := by
  refine (run_induction (P := fun _ store => (∀ account ∈ store.accounts, account.isAdmin = false) ∧
    store.posts = seed.posts) ⟨plain, rfl⟩ ?_ requests).2
  rintro _ store request ⟨plain, same⟩
  have evolves := store.evolves_perform request
  constructor
  · obtain ⟨added, after, plainToo⟩ := evolves.accounts
    intro account mem
    rw [after, List.mem_append] at mem
    exact mem.elim (plain account) (plainToo account)
  · by_cases written : (store.perform request).posts = store.posts
    · exact written.trans same
    · obtain ⟨account, mem, _, admin⟩ := exists_admin (evolves.isAdminSession_of_posts written)
      rw [plain account mem] at admin
      cases admin

/-- After any requests to a seeded store: if the next one changes the posts, the session is that of
an administrator whom the store was seeded with and who has signed in with the password; the
accounts stay as they are, and none that is added is an administrator's. A store that was seeded
without administrators still has the posts that it was seeded with. -/
theorem posts_by_admins (seeded : seed.Seeded) (earlier : List Request) (request : Request) :
    (((seed.run earlier).perform request).posts ≠ (seed.run earlier).posts →
      ∃ account ∈ seed.accounts, account.isAdmin = true ∧
        (seed.run earlier).sessionAccount = some account ∧
          .signIn account.email account.password ∈ earlier) ∧
    (∃ added, ((seed.run earlier).perform request).accounts = (seed.run earlier).accounts ++ added ∧
      ∀ account ∈ added, account.isAdmin = false) ∧
    ((∀ account ∈ seed.accounts, account.isAdmin = false) →
      (seed.run earlier).posts = seed.posts) := by
  have evolves := (seed.run earlier).evolves_perform request
  refine ⟨fun written => ?_, evolves.accounts, fun plain => posts_run_of_no_admin plain earlier⟩
  obtain ⟨account, mem, found, admin⟩ := exists_admin (evolves.isAdminSession_of_posts written)
  have signedIn := SignedIn.run seeded earlier
  exact ⟨account, seeded_of_admin mem admin, admin, found, signedIn.asked found⟩

/-- An administrator drafts a post where a visitor has tried to. -/
theorem posts_by_admins_after_visitor :
    let seed := (empty "" (.ticking ⟨0, 0⟩)).addAccount "a@b.c" "secret" true
    let earlier := [.signUp "d@e.f" "password", .signIn "d@e.f" "password",
      .createPost ⟨"Mine", "mine", 2⟩, .signIn "a@b.c" "secret"]
    let drafting : Request := .createPost ⟨"Hello", "hello", 1⟩
    Seeded seed ∧ (seed.run earlier).posts.length = 0 ∧
      ((seed.run earlier).perform drafting).posts.length = 1 ∧
        ∃ account ∈ seed.accounts, account.isAdmin = true ∧
          (seed.run earlier).sessionAccount = some account ∧
            .signIn account.email account.password ∈ earlier := by
  intro seed earlier drafting
  have seeded : Seeded seed := .addAccount _ _ _ (.empty _ _)
  have before : (seed.run earlier).posts.length = 0 := by decide +kernel
  have after : ((seed.run earlier).perform drafting).posts.length = 1 := by decide +kernel
  refine ⟨seeded, before, after, (posts_by_admins seeded earlier drafting).1 fun same => ?_⟩
  rw [same, before] at after
  cases after

end PortfolioShell.Store
