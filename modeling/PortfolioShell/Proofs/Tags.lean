import Mathlib.Data.List.Dedup
import Mathlib.Data.List.Induction
import PortfolioShell.Proofs.Posts

/-!
# Tags of a post

A tag is put behind those that a post has, unless it is there by then, be it from before or from
earlier in the same request. So what a request adds are the tags that the post did not have, each
once and where the request names it first, and it is all the same how tags are spread over requests.
Both calls change the tags of the first post of a slug and nothing else in the store.
-/
namespace PortfolioShell.Store

/-- The tags that a request adds to old ones: those that were not there, each once and in the order
in which the request names them first. -/
structure AreNew (old asked added : List String) : Prop where
  mem_iff : ∀ tag, tag ∈ added ↔ tag ∈ asked ∧ tag ∉ old
  order : added.Pairwise fun tag other => asked.idxOf tag < asked.idxOf other

variable {old asked added : List String}

/-! ### Adding tags to a list -/

namespace AreNew

theorem nil (old : List String) : AreNew old [] [] := ⟨by simp, .nil⟩

theorem nodup (new : AreNew old asked added) : added.Nodup := by
  refine new.order.imp fun before => ?_
  rintro rfl
  exact Nat.lt_irrefl _ before

theorem nodup_append (new : AreNew old asked added) (distinct : old.Nodup) :
    (old ++ added).Nodup := by
  refine List.nodup_append.mpr ⟨distinct, new.nodup, ?_⟩
  rintro tag known _ mem rfl
  exact ((new.mem_iff tag).mp mem).2 known

theorem unique (new : AreNew old asked added) {others : List String}
    (alike : AreNew old asked others) : added = others := by
  have same : added.Perm others :=
    (List.perm_ext_iff_of_nodup new.nodup alike.nodup).mpr fun tag =>
      (new.mem_iff tag).trans (alike.mem_iff tag).symm
  exact same.eq_of_pairwise (fun _ _ _ _ before after => absurd after (Nat.lt_asymm before))
    new.order alike.order

/-- Asking for more behind a request does not move what it has named. -/
theorem order_append (new : AreNew old asked added) (more : List String) :
    added.Pairwise fun tag other =>
      (asked ++ more).idxOf tag < (asked ++ more).idxOf other := by
  refine new.order.imp_of_mem fun mem memOther before => ?_
  rw [List.idxOf_append_of_mem ((new.mem_iff _).mp mem).1,
    List.idxOf_append_of_mem ((new.mem_iff _).mp memOther).1]
  exact before

/-- A tag that is there by now is asked for once more. -/
theorem concat_known (new : AreNew old asked added) {tag : String} (known : tag ∈ old ++ added) :
    AreNew old (asked ++ [tag]) added where
  mem_iff := by
    intro other
    rw [new.mem_iff, List.mem_append, List.mem_singleton]
    constructor
    · rintro ⟨mem, free⟩
      exact ⟨Or.inl mem, free⟩
    · rintro ⟨mem | rfl, free⟩
      · exact ⟨mem, free⟩
      · exact (new.mem_iff other).mp ((List.mem_append.mp known).resolve_left free)
  order := new.order_append [tag]

/-- A tag that is not there yet comes last. -/
theorem concat_free (new : AreNew old asked added) {tag : String} (free : tag ∉ old ++ added) :
    AreNew old (asked ++ [tag]) (added ++ [tag]) := by
  obtain ⟨unknown, notAdded⟩ := not_or.mp (mt List.mem_append.mpr free)
  have unasked : tag ∉ asked := fun mem => notAdded ((new.mem_iff tag).mpr ⟨mem, unknown⟩)
  constructor
  case mem_iff =>
    intro other
    rw [List.mem_append, List.mem_append, List.mem_singleton, new.mem_iff]
    constructor
    · rintro (⟨mem, stranger⟩ | rfl)
      · exact ⟨Or.inl mem, stranger⟩
      · exact ⟨Or.inr rfl, unknown⟩
    · rintro ⟨mem | rfl, stranger⟩
      · exact Or.inl ⟨mem, stranger⟩
      · exact Or.inr rfl
  case order =>
    rw [List.pairwise_append]
    refine ⟨new.order_append [tag], List.pairwise_singleton _ _, ?_⟩
    intro other mem _ last
    rw [List.mem_singleton.mp last]
    have named := ((new.mem_iff other).mp mem).1
    rw [List.idxOf_append_of_mem named, List.idxOf_append_of_notMem unasked]
    have := List.idxOf_lt_length_of_mem named
    omega

end AreNew

theorem addTag_of_mem {tags : List String} {tag : String} (known : tag ∈ tags) :
    addTag tags tag = tags := by
  simp [addTag, known]

theorem addTag_of_not_mem {tags : List String} {tag : String} (free : tag ∉ tags) :
    addTag tags tag = tags ++ [tag] := by
  simp [addTag, free]

/-- By induction on the request from its end: the list that a tag is looked for in is the one that
the tags before it have left. -/
theorem foldl_addTag (old asked : List String) :
    ∃ added, asked.foldl addTag old = old ++ added ∧ AreNew old asked added := by
  induction asked using List.reverseRecOn with
  | nil => exact ⟨[], by simp, .nil old⟩
  | append_singleton asked tag ih =>
    obtain ⟨added, grown, new⟩ := ih
    rw [List.foldl_concat, grown]
    by_cases known : tag ∈ old ++ added
    · exact ⟨added, addTag_of_mem known, new.concat_known known⟩
    · exact ⟨added ++ [tag], by rw [addTag_of_not_mem known, List.append_assoc],
        new.concat_free known⟩

theorem mem_foldl_addTag (old asked : List String) (tag : String) :
    tag ∈ asked.foldl addTag old ↔ tag ∈ old ∨ tag ∈ asked := by
  obtain ⟨added, grown, new⟩ := foldl_addTag old asked
  rw [grown, List.mem_append, new.mem_iff]
  by_cases known : tag ∈ old <;> simp [known]

theorem foldl_addTag_of_known {tags : List String} (known : ∀ tag ∈ asked, tag ∈ tags) :
    asked.foldl addTag tags = tags := by
  induction asked with
  | nil => rfl
  | cons tag rest ih =>
    rw [List.foldl_cons, addTag_of_mem (known tag List.mem_cons_self)]
    exact ih fun other mem => known other (List.mem_cons_of_mem tag mem)

/-- A request that is made again adds nothing. -/
theorem foldl_addTag_twice (old asked : List String) :
    asked.foldl addTag (asked.foldl addTag old) = asked.foldl addTag old :=
  foldl_addTag_of_known fun tag mem => (mem_foldl_addTag old asked tag).mpr (Or.inr mem)

/-- Without the tags of a request it is as if the request had not been made. -/
theorem filter_foldl_addTag (old asked : List String) :
    (asked.foldl addTag old).filter (· ∉ asked) = old.filter (· ∉ asked) := by
  obtain ⟨added, grown, new⟩ := foldl_addTag old asked
  have gone : added.filter (· ∉ asked) = [] := by
    rw [List.filter_eq_nil_iff]
    intro tag mem
    simp [((new.mem_iff tag).mp mem).1]
  rw [grown, List.filter_append, gone, List.append_nil]

/-- All that a request names is there afterwards, and once if nothing was there twice before. -/
theorem length_filter_foldl_addTag (distinct : old.Nodup) (asked : List String) :
    ((asked.foldl addTag old).filter (· ∈ asked)).length = asked.dedup.length := by
  obtain ⟨added, grown, new⟩ := foldl_addTag old asked
  have once : ((asked.foldl addTag old).filter (· ∈ asked)).Nodup := by
    rw [grown]
    exact (new.nodup_append distinct).filter _
  have same : ((asked.foldl addTag old).filter (· ∈ asked)).Perm asked.dedup := by
    rw [List.perm_ext_iff_of_nodup once asked.nodup_dedup]
    intro tag
    rw [List.mem_filter, mem_foldl_addTag, List.mem_dedup, decide_eq_true_iff]
    exact ⟨fun both => both.2, fun mem => ⟨Or.inr mem, mem⟩⟩
  exact same.length_eq

/-! ### The post of a slug -/

/-- A working store in an administrator's hands, parted at the first post of a slug. -/
structure PartsAt (store : Store) (slug : String) (before : List Post) (post : Post)
    (after : List Post) : Prop where
  working : store.outage = none
  admin : store.isAdminSession = true
  posts : store.posts = before ++ post :: after
  named : post.slug = slug
  first : ∀ p ∈ before, p.slug ≠ slug

/-- The store with other tags on a post between two parts. -/
def withTags (store : Store) (before : List Post) (post : Post) (after : List Post)
    (tags : List String) : Store :=
  { store with posts := before ++ { post with tags } :: after }

variable {store : Store} {slug : String} {before after : List Post} {post : Post}

theorem exists_partsAt (working : store.outage = none) (admin : store.isAdminSession = true)
    (found : store.posts.find? (·.slug == slug) = some post) :
    ∃ before after, store.PartsAt slug before post after := by
  obtain ⟨fits, before, after, posts, others⟩ := List.find?_eq_some_iff_append.mp found
  exact ⟨before, after, working, admin, posts, by simpa using fits, by simpa using others⟩

namespace PartsAt

theorem withTags (parts : store.PartsAt slug before post after) (tags : List String) :
    (store.withTags before post after tags).PartsAt slug before { post with tags } after :=
  ⟨parts.working, parts.admin, rfl, parts.named, parts.first⟩

/-- A call on the post finds it. -/
theorem onPost (parts : store.PartsAt slug before post after) {α : Type}
    (act : Post → Store → Except BackendError α × Store) :
    Store.onPost slug act store = act post store := by
  have found : store.posts.find? (·.slug == slug) = some post := by
    rw [parts.posts]
    exact find?_behind (by simpa using parts.first) (by simpa using parts.named)
  simp only [Store.onPost, adminOnly, guarded, parts.working, parts.admin, if_true, found]

theorem changePost (parts : store.PartsAt slug before post after) (change : Post → List String) :
    (store.changePost (·.slug == slug) fun p => { p with tags := change p }) =
      store.withTags before post after (change post) := by
  simp only [Store.changePost, Store.withTags, parts.posts]
  rw [changeFirst_behind (by simpa using parts.first) (by simpa using parts.named)]

theorem tagPost (parts : store.PartsAt slug before post after) (asked : List String) :
    Store.tagPost slug asked store =
      (.ok (), store.withTags before post after (asked.foldl addTag post.tags)) := by
  rw [Store.tagPost, parts.onPost, parts.changePost]

theorem untagPost (parts : store.PartsAt slug before post after) (asked : List String) :
    Store.untagPost slug asked store =
      (.ok (post.tags.filter (· ∈ asked)).length,
        store.withTags before post after (post.tags.filter (· ∉ asked))) := by
  have kept : post.tags.filter (!asked.contains ·) = post.tags.filter (· ∉ asked) := by simp
  have removed : post.tags.length - (post.tags.filter (· ∉ asked)).length =
      (post.tags.filter (· ∈ asked)).length := by
    have parted := post.tags.length_eq_length_filter_add (· ∈ asked)
    simp only [← decide_not] at parted
    omega
  rw [Store.untagPost, parts.onPost]
  dsimp only
  rw [parts.changePost fun p => p.tags.filter (!asked.contains ·), kept, removed]

end PartsAt

/-- What tagging and untagging do to the post of a slug. All else in the store stays. -/
structure TagLaw (store : Store) (slug : String) (before : List Post) (post : Post)
    (after : List Post) : Prop where
  tagged : ∀ asked, ∃ added, AreNew post.tags asked added ∧ (post.tags ++ added).Nodup ∧
    tagPost slug asked store =
      (.ok (), store.withTags before post after (post.tags ++ added))
  twice : ∀ asked, tagPost slug asked (tagPost slug asked store).2 = tagPost slug asked store
  inTurn : ∀ asked more,
    tagPost slug more (tagPost slug asked store).2 = tagPost slug (asked ++ more) store
  untagged : ∀ asked, untagPost slug asked store =
    (.ok (post.tags.filter (· ∈ asked)).length,
      store.withTags before post after (post.tags.filter (· ∉ asked)))
  undone : ∀ asked, untagPost slug asked (tagPost slug asked store).2 =
    (.ok asked.dedup.length, store.withTags before post after (post.tags.filter (· ∉ asked)))

theorem PartsAt.tagLaw (parts : store.PartsAt slug before post after)
    (distinct : post.tags.Nodup) : store.TagLaw slug before post after where
  tagged := by
    intro asked
    obtain ⟨added, grown, new⟩ := foldl_addTag post.tags asked
    exact ⟨added, new, new.nodup_append distinct, by rw [parts.tagPost, grown]⟩
  twice := by
    intro asked
    rw [parts.tagPost, (parts.withTags _).tagPost, foldl_addTag_twice]
    rfl
  inTurn := by
    intro asked more
    rw [parts.tagPost, (parts.withTags _).tagPost, parts.tagPost, List.foldl_append]
    rfl
  untagged := parts.untagPost
  undone := by
    intro asked
    rw [parts.tagPost, (parts.withTags _).untagPost, filter_foldl_addTag,
      length_filter_foldl_addTag distinct]
    rfl

/-- An administrator who tags and untags a post that has no tag twice, over a working store. -/
theorem tagLaw_of_admin (working : store.outage = none) (admin : store.isAdminSession = true)
    (found : store.posts.find? (·.slug == slug) = some post) (distinct : post.tags.Nodup) :
    ∃ before after, store.posts = before ++ post :: after ∧ (∀ p ∈ before, p.slug ≠ slug) ∧
      store.TagLaw slug before post after := by
  obtain ⟨before, after, parts⟩ := exists_partsAt working admin found
  exact ⟨before, after, parts.posts, parts.first, parts.tagLaw distinct⟩

/-- A draft with two tags. -/
def taggedDraft : Post :=
  ⟨2, "Guide", "guide", none, false, none, ⟨2, 0⟩, 1, ["rust", "web"]⟩

/-- A store in an administrator's hands where another post has the slug of this draft, too. -/
def twoGuides : Store :=
  { accounts := [⟨1, "a@b.c", "secret", true⟩], session := some 1, aboutText := "", outage := none
    clock := .ticking ⟨10, 0⟩
    posts := [⟨1, "News", "news", none, true, some ⟨3, 0⟩, ⟨1, 0⟩, 1, ["rust"]⟩, taggedDraft,
      ⟨3, "Guide", "guide", none, false, none, ⟨2, 0⟩, 1, []⟩] }

/-- A tag that is asked for twice and one that is there already. -/
theorem tagLaw_of_two_guides :
    let asked := ["lean", "rust", "cli", "lean"]
    twoGuides.outage = none ∧ twoGuides.isAdminSession = true ∧
      twoGuides.posts.find? (·.slug == "guide") = some taggedDraft ∧ taggedDraft.tags.Nodup ∧
      (tagPost "guide" asked twoGuides).2.posts.map (·.tags) =
        [["rust"], ["rust", "web", "lean", "cli"], []] ∧
      ∃ before after, twoGuides.TagLaw "guide" before taggedDraft after ∧
        tagPost "guide" asked twoGuides =
          (.ok (), twoGuides.withTags before taggedDraft after ["rust", "web", "lean", "cli"]) := by
  intro asked
  have admin : twoGuides.isAdminSession = true := by decide +kernel
  have found : twoGuides.posts.find? (·.slug == "guide") = some taggedDraft := by decide +kernel
  have distinct : taggedDraft.tags.Nodup := by decide
  obtain ⟨before, after, _, _, law⟩ := tagLaw_of_admin rfl admin found distinct
  refine ⟨rfl, admin, found, distinct, by decide +kernel, before, after, law, ?_⟩
  obtain ⟨added, new, _, tagged⟩ := law.tagged asked
  have expected : AreNew taggedDraft.tags asked ["lean", "cli"] := by
    refine ⟨fun tag => ?_, by decide⟩
    simp only [asked, taggedDraft, List.mem_cons, List.not_mem_nil, or_false]
    grind
  rw [tagged, new.unique expected]
  rfl

end PortfolioShell.Store
