import PortfolioShell.Proofs.Requests

/-!
# Integrity of the store

A store whose posts were put into it under different slugs stays intact: posts and accounts are
numbered by their places, slugs stay different, and the session is that of an account. A draft gets
the number after the highest one, which is the number of its place only because the posts before it
are numbered so. Posts are never taken out or moved, and keep what they were created with.
-/
namespace PortfolioShell

namespace Post.IsRevision

variable {post later last : Post}

theorem refl (post : Post) : post.IsRevision post := ⟨rfl, rfl, rfl, rfl, rfl, fun h => h⟩

theorem trans (first : post.IsRevision later) (second : later.IsRevision last) :
    post.IsRevision last where
  id := second.id.trans first.id
  title := second.title.trans first.title
  slug := second.slug.trans first.slug
  authorId := second.authorId.trans first.authorId
  createdAt := second.createdAt.trans first.createdAt
  published isPublished := second.published (first.published isPublished)

end Post.IsRevision

namespace Store

variable {store next later seed : Store} {request : Request}

/-- What holds of a store at any time. -/
structure Intact (store : Store) : Prop where
  postIds : CountedBy (·.id) store.posts
  slugs : (store.posts.map (·.slug)).Nodup
  accountIds : CountedBy (·.id) store.accounts
  session : ∀ id, store.session = some id → ∃ account ∈ store.accounts, account.id = id

/-- Every post is still in its place later on, though it may have been revised. -/
def Keeps (store later : Store) : Prop :=
  ∀ (i : Nat) (post : Post), store.posts[i]? = some post →
    ∃ after : Post, later.posts[i]? = some after ∧ post.IsRevision after

/-! ### Changing a post -/

theorem getElem?_changeFirst (test : Post → Bool) (change : Post → Post) (posts : List Post)
    (i : Nat) :
    (changeFirst test change posts)[i]? = posts[i]? ∨
      (changeFirst test change posts)[i]? = posts[i]?.map change := by
  induction posts generalizing i with
  | nil => exact Or.inl rfl
  | cons post rest ih =>
    rw [changeFirst]
    split
    · cases i with
      | zero => exact Or.inr rfl
      | succ i => exact Or.inl rfl
    · cases i with
      | zero => exact Or.inl rfl
      | succ i => exact ih i

theorem map_changeFirst {α : Type} {tell : Post → α} {change : Post → Post}
    (same : ∀ post, tell (change post) = tell post) (test : Post → Bool) (posts : List Post) :
    (changeFirst test change posts).map tell = posts.map tell := by
  apply List.ext_getElem?
  intro i
  rw [List.getElem?_map, List.getElem?_map]
  rcases getElem?_changeFirst test change posts i with kept | changed
  · rw [kept]
  · rw [changed, Option.map_map]
    congr 1
    funext post
    exact same post

theorem CountedBy.of_map_eq {α : Type} {number : α → Nat} {items others : List α}
    (counted : CountedBy number items) (same : others.map number = items.map number) :
    CountedBy number others := by
  intro i item found
  have place : (items.map number)[i]? = some (number item) := by
    rw [← same, List.getElem?_map, found]
    rfl
  rw [List.getElem?_map, Option.map_eq_some_iff] at place
  obtain ⟨before, here, number⟩ := place
  exact number ▸ counted i before here

/-! ### Posts over time -/

theorem Keeps.refl (store : Store) : store.Keeps store :=
  fun _ post found => ⟨post, found, .refl post⟩

theorem Keeps.trans (first : store.Keeps next) (second : next.Keeps later) :
    store.Keeps later := by
  intro i post found
  obtain ⟨revised, there, once⟩ := first i post found
  obtain ⟨last, after, twice⟩ := second i revised there
  exact ⟨last, after, once.trans twice⟩

theorem Evolves.keeps (evolves : Evolves store request next) : store.Keeps next := by
  cases evolves with
  | created admin free =>
    intro i post found
    exact ⟨post, by rw [List.getElem?_append_left (List.getElem?_eq_some_iff.mp found).1, found],
      .refl post⟩
  | changed clock admin revises =>
    intro i post found
    rename_i test change
    rcases getElem?_changeFirst test change store.posts i with kept | changed
    · exact ⟨post, kept.trans found, .refl post⟩
    · exact ⟨change post, by rw [changePost, changed, found, Option.map_some], revises post⟩
  | _ => exact .refl store

theorem keeps_run (store : Store) (requests : List Request) : store.Keeps (store.run requests) :=
  run_induction (P := fun _ later => store.Keeps later) (.refl store)
    (fun _ later request here => here.trans (later.evolves_perform request).keeps) requests

/-! ### Numbers of drafts -/

theorem foldl_max_le {posts : List Post} {top bound : Nat} (first : top ≤ bound)
    (others : ∀ p ∈ posts, p.id ≤ bound) :
    posts.foldl (fun top p => max top p.id) top ≤ bound := by
  induction posts generalizing top with
  | nil => exact first
  | cons p rest ih =>
    have here := others p List.mem_cons_self
    exact ih (Nat.max_le.mpr ⟨first, here⟩) fun q hq => others q (List.mem_cons_of_mem p hq)

/-- Among posts that are numbered by their places, the next number is the next place. -/
theorem nextPostId_eq (counted : CountedBy (·.id) store.posts) :
    store.nextPostId = store.posts.length + 1 := by
  refine congrArg (· + 1) (Nat.le_antisymm (foldl_max_le (Nat.zero_le _) ?_) ?_)
  · intro p hp
    obtain ⟨i, found⟩ := List.mem_iff_getElem?.mp hp
    have inside := (List.getElem?_eq_some_iff.mp found).1
    have place : p.id = i + 1 := counted i p found
    omega
  · cases size : store.posts.length with
    | zero => exact Nat.zero_le _
    | succ n =>
      obtain ⟨p, found⟩ : ∃ p, store.posts[n]? = some p :=
        ⟨_, List.getElem?_eq_getElem (by omega)⟩
      rw [← counted n p found]
      exact (le_foldl_max store.posts 0).2 p (List.mem_of_getElem? found)

/-! ### What holds at any time -/

theorem Seeded.postIds (seeded : seed.Seeded) : CountedBy (·.id) seed.posts := by
  induction seeded with
  | empty aboutText clock => exact .nil _
  | addAccount email password isAdmin _ ih => exact ih
  | addPost post _ ih => exact ih.concat rfl

theorem Evolves.postIds (evolves : Evolves store request next)
    (counted : CountedBy (·.id) store.posts) : CountedBy (·.id) next.posts := by
  cases evolves with
  | created admin free => exact counted.concat (nextPostId_eq counted)
  | changed clock admin revises =>
    exact counted.of_map_eq (map_changeFirst (fun post => (revises post).id) _ _)
  | _ => exact counted

theorem Evolves.slugs (evolves : Evolves store request next)
    (different : (store.posts.map (·.slug)).Nodup) : (next.posts.map (·.slug)).Nodup := by
  cases evolves with
  | created admin free =>
    rw [List.map_append, List.nodup_append]
    refine ⟨different, by simp, ?_⟩
    rintro _ old _ new rfl
    obtain ⟨post, mem, same⟩ := List.mem_map.mp old
    exact free post mem (same.trans (List.mem_singleton.mp new))
  | changed clock admin revises =>
    exact (map_changeFirst (fun post => (revises post).slug) _ _).symm ▸ different
  | _ => exact different

theorem intact_run (seeded : seed.Seeded) (different : (seed.posts.map (·.slug)).Nodup)
    (requests : List Request) : (seed.run requests).Intact where
  postIds := run_induction (P := fun _ store => CountedBy (·.id) store.posts) seeded.postIds
    (fun _ store request here => (store.evolves_perform request).postIds here) requests
  slugs := run_induction (P := fun _ store => (store.posts.map (·.slug)).Nodup) different
    (fun _ store request here => (store.evolves_perform request).slugs here) requests
  accountIds := (SignedIn.run seeded requests).accountIds
  session := by
    intro id session
    obtain ⟨account, known, sameId, _⟩ := (SignedIn.run seeded requests).session id session
    exact ⟨account, known, sameId⟩

/-- Whoever has a session is a user, so drafts are shown to users only. -/
theorem Intact.isSome_currentUser (intact : store.Intact) :
    store.currentUser.1.isSome = store.session.isSome := by
  cases session : store.session with
  | none => simp [currentUser, sessionAccount, session]
  | some id =>
    obtain ⟨account, known, sameId⟩ := intact.session id session
    have found : (store.accounts.find? (·.id == id)).isSome = true :=
      List.find?_isSome.mpr ⟨account, known, by simpa using sameId⟩
    simpa [currentUser, sessionAccount, session] using found

/-- A store that was seeded with different slugs is intact after any requests, and its posts are
still there after any more. -/
theorem intact_of_seeded (seeded : seed.Seeded) (different : (seed.posts.map (·.slug)).Nodup)
    (earlier later : List Request) :
    (seed.run earlier).Intact ∧
      ((seed.run earlier).posts.map (·.id)).Nodup ∧
      ((seed.run earlier).accounts.map (·.id)).Nodup ∧
      (seed.run earlier).currentUser.1.isSome = (seed.run earlier).session.isSome ∧
      (seed.run earlier).Keeps ((seed.run earlier).run later) := by
  have intact := intact_run seeded different earlier
  exact ⟨intact, intact.postIds.nodup, intact.accountIds.nodup, intact.isSome_currentUser,
    keeps_run _ later⟩

/-- A draft next to two seeded posts whose numbers have been put right is refused the slug of one
of them, and gets the third number under another slug. -/
theorem intact_after_drafts :
    let seed := (((empty "" (.ticking ⟨0, 0⟩)).addAccount "a@b.c" "secret" true).addPost
      ⟨7, "One", "one", none, false, none, ⟨1, 0⟩, 1, []⟩).addPost
      ⟨7, "Two", "two", none, true, none, ⟨2, 0⟩, 1, []⟩
    let earlier := [.signIn "a@b.c" "secret", .createPost ⟨"One", "one", 1⟩,
      .createPost ⟨"Three", "three", 1⟩]
    let later := [.publishPost "three", .signOut, .publishPost "one"]
    Seeded seed ∧ (seed.posts.map (·.slug)).Nodup ∧
      (seed.run earlier).posts.map (·.id) = [1, 2, 3] ∧ (seed.run earlier).Intact ∧
        (seed.run earlier).Keeps ((seed.run earlier).run later) := by
  intro seed earlier later
  have seeded : Seeded seed := .addPost _ (.addPost _ (.addAccount _ _ _ (.empty _ _)))
  have different : (seed.posts.map (·.slug)).Nodup := by decide +kernel
  obtain ⟨intact, _, _, _, keeps⟩ := intact_of_seeded seeded different earlier later
  exact ⟨seeded, different, by decide +kernel, intact, keeps⟩

end Store

end PortfolioShell
