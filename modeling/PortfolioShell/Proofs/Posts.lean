import PortfolioShell.Backend.Store

/-!
# Posts of the store

A draft that the store takes stands behind the other posts with a number and a slug that none of
them has. Whether a call looks a post up by its slug or
by its number, it finds this one, and it changes no other.
-/
namespace PortfolioShell

namespace Store

/-! ### The first post that passes a test -/

section
variable {test : Post → Bool} {others after : List Post} {post : Post}

theorem changeFirst_behind (other : ∀ p ∈ others, test p = false) (found : test post = true)
    (change : Post → Post) :
    changeFirst test change (others ++ post :: after) = others ++ change post :: after := by
  induction others with
  | nil => simp [changeFirst, found]
  | cons p rest ih =>
    have hp := other p List.mem_cons_self
    have hrest := ih fun q hq => other q (List.mem_cons_of_mem p hq)
    simp [changeFirst, hp, hrest]

theorem find?_behind (other : ∀ p ∈ others, test p = false) (found : test post = true) :
    (others ++ post :: after).find? test = some post := by
  rw [List.find?_append, List.find?_eq_none.mpr (by simpa using other)]
  simp [found]

end

/-! ### The last post -/

theorem le_foldl_max (posts : List Post) (top : Nat) :
    top ≤ posts.foldl (fun top p => max top p.id) top ∧
      ∀ p ∈ posts, p.id ≤ posts.foldl (fun top p => max top p.id) top := by
  induction posts generalizing top with
  | nil => simp
  | cons p rest ih =>
    obtain ⟨first, others⟩ := ih (max top p.id)
    simp only [List.foldl_cons, List.mem_cons]
    refine ⟨by omega, ?_⟩
    rintro q (rfl | hq)
    · omega
    · exact others q hq

theorem id_lt_nextPostId {store : Store} {p : Post} (h : p ∈ store.posts) :
    p.id < store.nextPostId :=
  Nat.lt_succ_of_le ((le_foldl_max store.posts 0).2 p h)

/-- A working store whose last post shares its number and its slug with no other. -/
structure Ends (store : Store) (others : List Post) (post : Post) : Prop where
  working : store.outage = none
  posts : store.posts = others ++ [post]
  otherId : ∀ p ∈ others, p.id ≠ post.id
  otherSlug : ∀ p ∈ others, p.slug ≠ post.slug

namespace Ends

variable {store : Store} {others : List Post} {post : Post}

theorem find? (ends : Ends store others post) :
    store.posts.find? (·.slug == post.slug) = some post := by
  rw [ends.posts]
  exact find?_behind (by simpa using ends.otherSlug) (by simp)

/-- The last post changes, but neither its number nor its slug. -/
theorem replaced (ends : Ends store others post) {next : Store} {new : Post}
    (working : next.outage = none) (posts : next.posts = others ++ [new])
    (sameId : new.id = post.id) (sameSlug : new.slug = post.slug) : Ends next others new where
  working := working
  posts := posts
  otherId p hp := sameId ▸ ends.otherId p hp
  otherSlug p hp := sameSlug ▸ ends.otherSlug p hp

/-! ### Calls on the last post -/

theorem findPost (ends : Ends store others post)
    (visible : (post.isPublished || store.session.isSome) = true) :
    findPost post.slug store = (.ok (some post), store) := by
  have found : store.posts.find? (fun p => p.slug == post.slug &&
      (p.isPublished || store.session.isSome)) = some post := by
    rw [ends.posts]
    refine find?_behind (fun p hp => ?_) (by simpa using visible)
    simp [ends.otherSlug p hp]
  simp [Store.findPost, guarded, ends.working, found]

theorem updateContent (ends : Ends store others post) (admin : store.isAdminSession = true)
    (content : String) :
    updateContent post.id content store =
      (.ok (), { store with posts := others ++ [{ post with content := some content }] }) := by
  have known : store.posts.any (·.id == post.id) = true := by simp [ends.posts]
  have changed : changeFirst (·.id == post.id) (fun p => { p with content := some content })
      store.posts = others ++ [{ post with content := some content }] := by
    rw [ends.posts]
    exact changeFirst_behind (by simpa using ends.otherId) (by simp) _
  simp only [Store.updateContent, adminOnly, guarded, ends.working, admin, known, if_true,
    changePost, changed]

theorem publishPost (ends : Ends store others post) (admin : store.isAdminSession = true) :
    let published := { post with isPublished := true, publishedAt := some store.clock.now }
    publishPost post.slug store = (.ok published,
      { store with posts := others ++ [published], clock := store.clock.next }) := by
  intro published
  have changed : changeFirst (·.slug == post.slug)
      (fun p => { p with isPublished := true, publishedAt := some store.clock.now }) store.posts =
      others ++ [published] := by
    rw [ends.posts]
    exact changeFirst_behind (by simpa using ends.otherSlug) (by simp) _
  simp only [Store.publishPost, onPost, adminOnly, guarded, ends.working, admin, if_true,
    ends.find?, changePost, changed]
  rfl

end Ends

/-- What the store makes of a draft. -/
def drafted (store : Store) (draft : Draft) : Post :=
  { id := store.nextPostId, title := draft.title, slug := draft.slug, content := none,
    isPublished := false, publishedAt := none, createdAt := store.clock.now,
    authorId := draft.authorId, tags := [] }

/-- A draft is refused because of its slug, or it is the last post from then on. -/
theorem createPost_cases {store : Store} (working : store.outage = none)
    (admin : store.isAdminSession = true) (draft : Draft) :
    createPost draft store = (.error .conflict, store) ∨
      let next := { store with
        posts := store.posts ++ [store.drafted draft], clock := store.clock.next }
      createPost draft store = (.ok (store.drafted draft), next) ∧
        Ends next store.posts (store.drafted draft) := by
  cases taken : store.posts.any (·.slug == draft.slug) with
  | true =>
    left
    simp [createPost, adminOnly, guarded, working, admin, taken]
  | false =>
    right
    refine ⟨?_, working, rfl, fun p hp => ?_, fun p hp => ?_⟩
    · simp [createPost, adminOnly, guarded, working, admin, taken, drafted]
    · exact Nat.ne_of_lt (id_lt_nextPostId hp)
    · have free := List.any_eq_false.mp taken p hp
      simpa [drafted] using free

/-! ### Who is signed in -/

theorem session_of_user {store : Store} {user : User} (h : store.currentUser.1 = some user) :
    store.session.isSome = true := by
  cases session : store.session with
  | none => simp [currentUser, sessionAccount, session] at h
  | some id => rfl

theorem user_of_admin {store : Store} (admin : store.isAdminSession = true) :
    ∃ user, store.currentUser.1 = some user := by
  cases account : store.sessionAccount with
  | none => simp [isAdminSession, account] at admin
  | some account' => exact ⟨account'.user, by simp [currentUser, account]⟩

end Store

end PortfolioShell
