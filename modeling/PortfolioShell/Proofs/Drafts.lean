import PortfolioShell.Proofs.Lookalikes

/-!
# Drafts and guests

While nobody is signed in, what the store answers depends on its accounts, its text about the owner,
its outage and its published posts. Drafts do not matter, and neither does the clock that stamps
posts. A session over the store therefore shows nothing of a draft before a login.
-/
namespace PortfolioShell

namespace Store

/-- The posts that everybody may read. -/
def published (store : Store) : List Post := store.posts.filter (·.isPublished)

/-- Two stores that may differ in their drafts and clocks while nobody is signed in. -/
structure DraftsApart (store other : Store) : Prop where
  signedOut : store.session = none
  otherSignedOut : other.session = none
  accounts : store.accounts = other.accounts
  aboutText : store.aboutText = other.aboutText
  outage : store.outage = other.outage
  published : store.published = other.published

variable {α : Type}

theorem currentUser_of_signedOut {store : Store} (signedOut : store.session = none) :
    store.currentUser = (none, store) := by
  simp [currentUser, sessionAccount, signedOut]

theorem isAdminSession_of_signedOut {store : Store} (signedOut : store.session = none) :
    store.isAdminSession = false := by
  simp [isAdminSession, sessionAccount, signedOut]

theorem blind_currentUser : Blind DraftsApart currentUser := by
  intro b c apart
  rw [currentUser_of_signedOut apart.signedOut, currentUser_of_signedOut apart.otherSignedOut]
  exact ⟨rfl, apart⟩

/-- Guarded calls on both stores fail together or go on together. -/
theorem guarded_apart {b c : Store} (apart : DraftsApart b c)
    {act : Store → Except BackendError α × Store}
    {P : Except BackendError α × Store → Except BackendError α × Store → Prop}
    (failing : ∀ message, P (.error (.network message), b) (.error (.network message), c))
    (acting : P (act b) (act c)) : P (guarded act b) (guarded act c) := by
  unfold guarded
  rw [← apart.outage]
  cases b.outage with
  | some message => exact failing message
  | none => exact acting

theorem blind_guarded {act : StateM Store (Except BackendError α)} (blind : Blind DraftsApart act) :
    Blind DraftsApart (guarded act) := by
  intro b c apart
  exact guarded_apart (P := fun x y => x.1 = y.1 ∧ DraftsApart x.2 y.2) apart
    (fun _ => ⟨rfl, apart⟩) (blind b c apart)

/-- Guests are refused whatever an administrator might learn. -/
theorem blind_adminOnly (act : StateM Store (Except BackendError α)) :
    Blind DraftsApart (adminOnly act) := by
  refine blind_guarded fun b c apart => ?_
  simp only [isAdminSession_of_signedOut apart.signedOut,
    isAdminSession_of_signedOut apart.otherSignedOut]
  exact ⟨rfl, apart⟩

theorem blind_signUp (email password : String) : Blind DraftsApart (signUp email password) := by
  refine blind_guarded fun b c apart => ?_
  rw [← apart.accounts]
  split
  · exact ⟨rfl, apart⟩
  · split
    · exact ⟨rfl, apart⟩
    · exact ⟨rfl, { apart with accounts := by simp [addAccount, apart.accounts] }⟩

theorem blind_signOut : Blind DraftsApart signOut :=
  blind_guarded fun _ _ apart => ⟨rfl, { apart with signedOut := rfl, otherSignedOut := rfl }⟩

theorem blind_about : Blind DraftsApart about :=
  blind_guarded fun _ _ apart => ⟨congrArg Except.ok apart.aboutText, apart⟩

theorem blind_publishedPosts : Blind DraftsApart publishedPosts := by
  refine blind_guarded fun b c apart => ⟨?_, apart⟩
  have same : b.posts.filter (·.isPublished) = c.posts.filter (·.isPublished) := apart.published
  rw [same]

/-- What a guest finds under a slug is found among the published posts. -/
theorem find?_of_signedOut {store : Store} (signedOut : store.session = none) (slug : String) :
    (store.posts.find? fun p => p.slug == slug && (p.isPublished || store.session.isSome)) =
      store.published.find? (·.slug == slug) := by
  rw [published, List.find?_filter, signedOut]
  congr 1
  funext post
  by_cases named : post.slug = slug <;> cases post.isPublished <;> simp [named]

theorem blind_findPost (slug : String) : Blind DraftsApart (findPost slug) := by
  refine blind_guarded fun b c apart => ⟨?_, apart⟩
  rw [find?_of_signedOut apart.signedOut, find?_of_signedOut apart.otherSignedOut, apart.published]

/-- The published slugs of a search are the slugs of a search of the published posts. -/
theorem filter_hits (posts : List Post) (isHit : Post → Bool) :
    ((posts.filter isHit).map fun p => SlugHit.mk p.slug p.isPublished).filter (·.isPublished) =
      ((posts.filter (·.isPublished)).filter isHit).map fun p => ⟨p.slug, p.isPublished⟩ := by
  simp [List.filter_map, Function.comp_def, Bool.and_comm]

theorem blind_searchSlugs (start : String) :
    Blind DraftsApart (publishedOf <$> searchSlugs start) := by
  intro b c apart
  rw [map_apply, map_apply]
  refine guarded_apart (P := fun x y => publishedOf x.1 = publishedOf y.1 ∧ DraftsApart x.2 y.2)
    apart (fun _ => ⟨rfl, apart⟩) ?_
  refine ⟨?_, apart⟩
  have published : b.posts.filter (·.isPublished) = c.posts.filter (·.isPublished) :=
    apart.published
  simp only [publishedOf, filter_hits, published]

theorem signIn_apart {b c : Store} (apart : DraftsApart b c) (email password : String) :
    (signIn email password b).1 = (signIn email password c).1 ∧
      ((∀ user, (signIn email password b).1 ≠ .ok user) →
        DraftsApart (signIn email password b).2 (signIn email password c).2) := by
  refine guarded_apart (P := fun x y => x.1 = y.1 ∧
    ((∀ user, x.1 ≠ .ok user) → DraftsApart x.2 y.2)) apart (fun _ => ⟨rfl, fun _ => apart⟩) ?_
  rw [← apart.accounts]
  split
  · rename_i account _
    exact ⟨rfl, fun refused => absurd rfl (refused account.user)⟩
  · exact ⟨rfl, fun _ => apart⟩

theorem alikeToGuests : AlikeToGuests DraftsApart where
  guest _ _ apart := congrArg Prod.fst (currentUser_of_signedOut apart.signedOut)
  currentUser := blind_currentUser
  signUp := blind_signUp
  signOut := blind_signOut
  about := blind_about
  publishedPosts := blind_publishedPosts
  findPost := blind_findPost
  updateContent _ _ := blind_adminOnly _
  searchSlugs := blind_searchSlugs
  signIn email password _ _ apart := signIn_apart apart email password

end Store

namespace Session

/-- Whoever does not log in sees the same over two stores whatever drafts there are in either, after
every one of a row of events. The session may be a new one or have a history of its own. -/
theorem run_over_drafts {s : Session Store} {other : Store} (apart : s.backend.DraftsApart other)
    {events : List Event} (refused : s.NoLogin events) (n : Nat) :
    ∃ store,
      (s.withBackend other).run (events.take n) = (s.run (events.take n)).withBackend store ∧
        ((s.withBackend other).run (events.take n)).prompt = (s.run (events.take n)).prompt := by
  have alike : Lookalike Store.DraftsApart s (s.withBackend other) := ⟨other, apart, rfl⟩
  obtain ⟨store, _, same⟩ := alike.run Store.alikeToGuests (refused.take n)
  refine ⟨store, same, ?_⟩
  rw [same, prompt_withBackend]

/-- A guest who asks for the only draft and completes its slug. -/
theorem run_over_one_draft :
    let drafted := ofBuiltin.backend.addPost
      ⟨0, "Secret", "secret", none, false, none, ⟨0, 0⟩, 1, []⟩
    let events := [.submitLine "post show secret", .setInput "post show s", .tab]
    drafted.posts.length = 1 ∧ ∀ n, ∃ store,
      (ofBuiltin.withBackend drafted).run (events.take n) =
          (ofBuiltin.run (events.take n)).withBackend store ∧
        ((ofBuiltin.withBackend drafted).run (events.take n)).prompt =
          (ofBuiltin.run (events.take n)).prompt := by
  intro drafted events
  have apart : ofBuiltin.backend.DraftsApart drafted := ⟨rfl, rfl, rfl, rfl, rfl, rfl⟩
  have refused : ofBuiltin.NoLogin events := by
    refine ⟨?_, ?_, ?_, trivial⟩
    · exact not_logsIn_of_normal rfl _
    · exact not_logsIn_of_normal (by decide +kernel) _
    · exact not_logsIn_of_normal (by decide +kernel) _
  exact ⟨rfl, run_over_drafts apart refused⟩

end Session

end PortfolioShell
