import PortfolioShell.Proofs.Posts
import PortfolioShell.Proofs.Sessions
import PortfolioShell.Proofs.Slugs

/-!
# The life of a post

An administrator makes a draft, fills it in the editor, looks at it, publishes it and leaves; a
guest then sees the same page. The slug that the draft is announced with leads to this post at every
step, and no other post changes.
-/
namespace PortfolioShell

/-- What a new draft is announced with. -/
def Post.announcement (post : Post) : String :=
  s!"Draft created: \"{post.title}\"\nSlug: {post.slug}\n" ++ s!"Edit with: post edit {post.slug}"

theorem Post.announcement_ne_empty (post : Post) : post.announcement ≠ "" := by
  unfold announcement
  simp [toString]

/-- How a post without tags is shown with some content. -/
def Post.page (post : Post) (content : String) : String :=
  s!"\n{post.title}\n====================================\n\n" ++
    (if content = "" then "This post has no content yet." else content) ++
    s!"\n\n---\nView on site: {Blog.address}/{post.slug}"

theorem Blog.shown_ne_empty (post : Post) : Blog.shown post ≠ "" := by
  unfold Blog.shown
  simp [toString]

/-! ### Commands of the registry -/

section
variable {σ : Type} [Backend σ] {setting : Setting}

theorem dispatch_plain (builtin : setting.registry = .builtin) {line name : String}
    {args : List String} (words : Text.words line = name :: args) (command : PlainCommand)
    (known : (Registry.builtin.get? name).map (·.handler) = some (.plain command)) (cwd : String) :
    dispatch (σ := σ) line setting cwd = staying (command.run args setting) := by
  have runs : setting.registry.Runs name (.plain command) := builtin ▸ known
  rw [dispatch_of_runs words runs]
  rfl

theorem dispatch_post (builtin : setting.registry = .builtin) {line : String} {args : List String}
    (words : Text.words line = "post" :: args) (cwd : String) :
    dispatch (σ := σ) line setting cwd = staying (Blog.post setting.host.normalizer args) :=
  dispatch_plain builtin words .post (by decide) cwd

theorem dispatch_logout (builtin : setting.registry = .builtin) (cwd : String) :
    dispatch (σ := σ) "logout" setting cwd = staying Account.logout :=
  have words : Text.words "logout" = ["logout"] := by decide
  dispatch_plain builtin words .logout (by decide) cwd

end

theorem words_post_new (title : String) :
    Text.words ("post new " ++ title) = "post" :: "new" :: Text.words title := by
  have cut : "post new " = "post new" ++ " " := by decide
  have command : Text.words "post new" = ["post", "new"] := by decide
  rw [cut, Text.words_append_blank, command]
  rfl

/-- A subcommand of `post` with a slug. -/
theorem words_post {start command sub slug : String} (cut : start = command ++ " ")
    (parts : Text.words command = ["post", sub]) (word : Text.IsWord slug) :
    Text.words (start ++ slug) = ["post", sub, slug] := by
  rw [cut, Text.words_append_blank, parts, Text.words_of_isWord word]
  rfl

/-! ### Commands on the last post -/

namespace Store.Ends

variable {store : Store} {others : List Post} {post : Post} {normalizer : Text.Normalizer}

theorem shown_eq (h : post.tags = []) (content : String) :
    Blog.shown { post with content := some content } = post.page content := by
  simp [Blog.shown, Blog.shownContent, Blog.shownTags, Post.page, h]

theorem run_edit (ends : store.Ends others post) {user : User}
    (current : store.currentUser.1 = some user) :
    Blog.post normalizer ["edit", post.slug] store = (.directive (.openEditor post), store) := by
  have who : Backend.currentUser store = (some user, store) := Prod.ext current rfl
  have found : Backend.findPost post.slug store = (.ok (some post), store) :=
    ends.findPost (by simp [session_of_user current])
  rw [Blog.post, bind_apply, who]
  simp only [Blog.forUser, List.headD_cons, List.tail_cons, Blog.edit]
  rw [bind_apply, found]
  rfl

/-- A post is shown to everybody once it is published, and to users before. -/
theorem run_show (ends : store.Ends others post)
    (visible : post.isPublished = true ∨ ∃ user, store.currentUser.1 = some user) :
    Blog.post normalizer ["show", post.slug] store = (.text (Blog.shown post), store) := by
  have seen : (post.isPublished || store.session.isSome) = true := by
    rcases visible with published | ⟨user, current⟩
    · simp [published]
    · simp [session_of_user current]
  have found : Backend.findPost post.slug store = (.ok (some post), store) := ends.findPost seen
  have shows : ∀ signedIn, (post.isPublished || signedIn) = true →
      Blog.show? signedIn [post.slug] store = (.text (Blog.shown post), store) := by
    intro signedIn shown
    rw [Blog.show?, bind_apply, found]
    simp only [shown, if_true]
    rfl
  cases current : store.currentUser.1 with
  | some user =>
    have who : Backend.currentUser store = (some user, store) := Prod.ext current rfl
    rw [Blog.post, bind_apply, who]
    exact shows true (by simp)
  | none =>
    have who : Backend.currentUser store = (none, store) := Prod.ext current rfl
    have published : post.isPublished = true := by simpa [current] using visible
    rw [Blog.post, bind_apply, who]
    exact shows false (by simp [published])

theorem run_publish (ends : store.Ends others post) {user : User}
    (current : store.currentUser.1 = some user) (admin : store.isAdminSession = true) :
    let published := { post with isPublished := true, publishedAt := some store.clock.now }
    Blog.post normalizer ["publish", post.slug] store =
      (.text s!"Post \"{post.title}\" published successfully!",
        { store with posts := others ++ [published], clock := store.clock.next }) := by
  intro published
  have who : Backend.currentUser store = (some user, store) := Prod.ext current rfl
  have done : Backend.publishPost post.slug store = (.ok published,
      { store with posts := others ++ [published], clock := store.clock.next }) :=
    ends.publishPost admin
  rw [Blog.post, bind_apply, who]
  simp only [Blog.forUser, List.headD_cons, List.tail_cons, Blog.publish]
  rw [bind_apply, done]
  rfl

theorem run_logout (ends : store.Ends others post) :
    Account.logout store = (.text "Logged out successfully.", { store with session := none }) := by
  have done : Backend.signOut store = (.ok (), { store with session := none }) := by
    show Store.signOut store = _
    simp [signOut, guarded, ends.working]
  rw [Account.logout, bind_apply, done]
  rfl

end Store.Ends

/-- The draft that a user makes with a title. -/
def User.draftOf (user : User) (normalizer : Text.Normalizer) (title : String) : Draft :=
  ⟨title, Slug.make normalizer title, user.id⟩

section
variable {σ : Type} [Backend σ] {normalizer : Text.Normalizer} {user : User}
  {words : List String} {b c : σ}

theorem new_stored (titled : Text.join " " words ≠ "")
    (named : Slug.make normalizer (Text.join " " words) ≠ "") {post : Post}
    (stored : Backend.createPost (user.draftOf normalizer (Text.join " " words)) b =
      (.ok post, c)) :
    Blog.new normalizer user words b = (.text post.announcement, c) := by
  have hasTitle : ¬ (Text.join " " words).isEmpty = true := by simpa using titled
  have hasSlug : ¬ (Slug.make normalizer (Text.join " " words)).isEmpty = true := by
    simpa using named
  rw [User.draftOf] at stored
  rw [Blog.new, if_neg hasTitle, if_neg hasSlug, bind_apply, stored]
  rfl

/-- No refusal begins like an announcement. -/
theorem new_refused (refused : Text.join " " words = "" ∨
      Slug.make normalizer (Text.join " " words) = "" ∨
      Backend.createPost (user.draftOf normalizer (Text.join " " words)) b =
        (.error .conflict, b)) :
    ∃ text, Blog.new normalizer user words b = (.text text, b) ∧ text ≠ "" ∧
      Text.beginsWith "Draft created" text = false := by
  rw [Blog.new]
  by_cases untitled : (Text.join " " words).isEmpty = true
  · rw [if_pos untitled]
    exact ⟨_, rfl, by simp, by simp [Text.beginsWith, List.isPrefixOf]⟩
  rw [if_neg untitled]
  by_cases unnamed : (Slug.make normalizer (Text.join " " words)).isEmpty = true
  · rw [if_pos unnamed]
    exact ⟨_, rfl, by simp [toString], by simp [Text.beginsWith, toString, List.isPrefixOf]⟩
  rw [if_neg unnamed, bind_apply]
  have taken : Backend.createPost (user.draftOf normalizer (Text.join " " words)) b =
      (.error .conflict, b) := by
    rw [String.isEmpty_iff] at untitled unnamed
    exact (refused.resolve_left untitled).resolve_left unnamed
  rw [User.draftOf] at taken
  rw [taken]
  exact ⟨_, rfl, by simp [toString], by simp [Text.beginsWith, toString, List.isPrefixOf]⟩

end

/-- The store with a new draft behind the other posts. -/
def Store.withDraft (store : Store) (post : Post) : Store :=
  { store with posts := store.posts ++ [post], clock := store.clock.next }

/-- A new draft is announced, or the answer is another one and nothing has changed. -/
theorem Store.run_new {store : Store} (working : store.outage = none)
    (admin : store.isAdminSession = true) {user : User} (current : store.currentUser.1 = some user)
    (normalizer : Text.Normalizer) (words : List String) :
    (∃ text, Blog.post normalizer ("new" :: words) store = (.text text, store) ∧ text ≠ "" ∧
        Text.beginsWith "Draft created" text = false) ∨
      ∃ post, post = store.drafted (user.draftOf normalizer (Text.join " " words)) ∧
        Blog.post normalizer ("new" :: words) store =
          (.text post.announcement, store.withDraft post) ∧
        (store.withDraft post).Ends store.posts post ∧ Text.IsWord post.slug := by
  have who : Backend.currentUser store = (some user, store) := Prod.ext current rfl
  have ran : Blog.post normalizer ("new" :: words) store =
      Blog.new normalizer user words store := by
    rw [Blog.post, bind_apply, who]
    rfl
  rw [ran]
  by_cases titled : Text.join " " words = ""
  · exact Or.inl (new_refused (Or.inl titled))
  by_cases named : Slug.make normalizer (Text.join " " words) = ""
  · exact Or.inl (new_refused (Or.inr (Or.inl named)))
  rcases createPost_cases working admin (user.draftOf normalizer (Text.join " " words)) with
    taken | ⟨made, ends⟩
  · exact Or.inl (new_refused (Or.inr (Or.inr taken)))
  · exact Or.inr ⟨_, rfl, new_stored titled named made, ends, Slug.isWord_make named⟩

namespace Session

section
variable {σ : Type}

/-- The newest line is a text. -/
def Says (s : Session σ) (role : LineRole) (text : String) : Prop :=
  ∃ id, s.lines.items.getLast? = some ⟨id, role, .text text⟩

theorem says_print (s : Session σ) (role : LineRole) (text : String) :
    (s.print role (.text text)).Says role text := by
  obtain ⟨kept, _, hitems⟩ := s.lines.exists_kept ⟨s.nextId, role, .text text⟩
  exact ⟨s.nextId, by simp [print, hitems]⟩

theorem Says.unique {s : Session σ} {role : LineRole} {text other : String}
    (h : s.Says role text) (h' : s.Says role other) : text = other := by
  obtain ⟨id, last⟩ := h
  obtain ⟨id', last'⟩ := h'
  have same := Option.some.inj (last.symm.trans last')
  exact LineData.text.inj (congrArg Line.data same)

end

/-- A line of normal mode has been answered by a text and has left the store in some state. -/
structure Replied (s t : Session Store) (text : String) (store : Store) : Prop where
  normal : t.mode = .normal
  setting : t.setting = s.setting
  backend : t.backend = store
  user : t.user = store.currentUser.1
  newest : t.Says .output text

variable {s t : Session Store} {others : List Post} {post new : Post} {user : User}

theorem replied_submitLine (normal : s.mode = .normal) {line text : String} {store : Store}
    (told : text ≠ "")
    (h : dispatch line s.setting s.cwd s.backend = (⟨some (.text text), none⟩, store)) :
    s.Replied (s.submitLine line) text store := by
  rw [submitLine_of_text normal told h]
  exact ⟨normal, rfl, rfl, rfl, says_print _ .output text⟩

theorem opened_submitLine (normal : s.mode = .normal) {line : String} {store : Store}
    (h : dispatch line s.setting s.cwd s.backend =
      (⟨some (.directive (.openEditor post)), none⟩, store)) :
    (s.submitLine line).mode = .running (.editor post) ∧
      (s.submitLine line).setting = s.setting ∧ (s.submitLine line).backend = store := by
  rw [submitLine_of_output normal h]
  exact ⟨rfl, rfl, rfl⟩

/-- A session at the prompt, over a store that ends with a post. -/
structure Offers (s : Session Store) (others : List Post) (post : Post) : Prop where
  normal : s.mode = .normal
  builtin : s.setting.registry = .builtin
  ends : s.backend.Ends others post
  word : Text.IsWord post.slug

theorem Replied.offers {text : String} {store : Store} (replied : s.Replied t text store)
    (builtin : s.setting.registry = .builtin) (ends : store.Ends others post)
    (word : Text.IsWord post.slug) : t.Offers others post where
  normal := replied.normal
  builtin := replied.setting ▸ builtin
  ends := replied.backend ▸ ends
  word := word

/-! ### Lines about the last post -/

theorem replied_new (normal : s.mode = .normal) (builtin : s.setting.registry = .builtin)
    (working : s.backend.outage = none) (admin : s.backend.isAdminSession = true)
    (current : s.backend.currentUser.1 = some user) {title notice : String}
    (newest : (s.submitLine ("post new " ++ title)).Says .output notice)
    (announces : Text.beginsWith "Draft created" notice = true) :
    ∃ post, post = s.backend.drafted
        (user.draftOf s.setting.host.normalizer (Text.join " " (Text.words title))) ∧
      notice = post.announcement ∧
      s.Replied (s.submitLine ("post new " ++ title)) notice (s.backend.withDraft post) ∧
      (s.backend.withDraft post).Ends s.backend.posts post ∧ Text.IsWord post.slug := by
  have dispatched := dispatch_post (σ := Store) builtin (words_post_new title) s.cwd
  rcases Store.run_new working admin current s.setting.host.normalizer (Text.words title) with
    ⟨text, ran, told, silent⟩ | ⟨post, drafted, ran, ends, word⟩
  · have outcome : dispatch ("post new " ++ title) s.setting s.cwd s.backend =
        (⟨some (.text text), none⟩, s.backend) := by
      rw [dispatched, staying_apply, ran]
    obtain rfl := newest.unique (replied_submitLine normal told outcome).newest
    rw [silent] at announces
    cases announces
  · have outcome : dispatch ("post new " ++ title) s.setting s.cwd s.backend =
        (⟨some (.text post.announcement), none⟩, s.backend.withDraft post) := by
      rw [dispatched, staying_apply, ran]
    have replied := replied_submitLine normal post.announcement_ne_empty outcome
    obtain rfl := newest.unique replied.newest
    exact ⟨post, drafted, rfl, replied, ends, word⟩

theorem opened_edit (offers : s.Offers others post)
    (current : s.backend.currentUser.1 = some user) :
    (s.submitLine ("post edit " ++ post.slug)).mode = .running (.editor post) ∧
      (s.submitLine ("post edit " ++ post.slug)).setting = s.setting ∧
      (s.submitLine ("post edit " ++ post.slug)).backend = s.backend := by
  have words : Text.words ("post edit " ++ post.slug) = ["post", "edit", post.slug] :=
    words_post (by decide : "post edit " = "post edit" ++ " ") (by decide) offers.word
  refine opened_submitLine offers.normal ?_
  rw [dispatch_post offers.builtin words, staying_apply, offers.ends.run_edit current]

theorem saved_edit (editing : s.mode = .running (.editor post)) (ends : s.backend.Ends others post)
    (admin : s.backend.isAdminSession = true) (content : String) :
    (s.saveEdit content).mode = .normal ∧ (s.saveEdit content).setting = s.setting ∧
      (s.saveEdit content).backend =
        { s.backend with posts := others ++ [{ post with content := some content }] } ∧
      (s.saveEdit content).Says .system s!"Post \"{post.title}\" saved successfully." := by
  have stored : Backend.updateContent post.id content s.backend =
      (.ok (), { s.backend with posts := others ++ [{ post with content := some content }] }) :=
    ends.updateContent admin content
  rw [saveEdit_editing editing, stored]
  exact ⟨rfl, rfl, rfl, says_print _ .system _⟩

theorem replied_show (offers : s.Offers others post)
    (visible : post.isPublished = true ∨ ∃ user, s.backend.currentUser.1 = some user) :
    s.Replied (s.submitLine ("post show " ++ post.slug)) (Blog.shown post) s.backend := by
  have words : Text.words ("post show " ++ post.slug) = ["post", "show", post.slug] :=
    words_post (by decide : "post show " = "post show" ++ " ") (by decide) offers.word
  have outcome : dispatch ("post show " ++ post.slug) s.setting s.cwd s.backend =
      (⟨some (.text (Blog.shown post)), none⟩, s.backend) := by
    rw [dispatch_post offers.builtin words, staying_apply, offers.ends.run_show visible]
  exact replied_submitLine offers.normal (Blog.shown_ne_empty post) outcome

theorem replied_publish (offers : s.Offers others post)
    (current : s.backend.currentUser.1 = some user) (admin : s.backend.isAdminSession = true) :
    let published := { post with isPublished := true, publishedAt := some s.backend.clock.now }
    s.Replied (s.submitLine ("post publish " ++ post.slug))
      s!"Post \"{post.title}\" published successfully!"
      { s.backend with posts := others ++ [published], clock := s.backend.clock.next } := by
  intro published
  have words : Text.words ("post publish " ++ post.slug) = ["post", "publish", post.slug] :=
    words_post (by decide : "post publish " = "post publish" ++ " ") (by decide) offers.word
  refine replied_submitLine offers.normal (by simp [toString]) ?_
  rw [dispatch_post offers.builtin words, staying_apply, offers.ends.run_publish current admin]

theorem replied_logout (offers : s.Offers others post) :
    s.Replied (s.submitLine "logout") "Logged out successfully."
      { s.backend with session := none } := by
  refine replied_submitLine offers.normal (by simp) ?_
  rw [dispatch_logout offers.builtin, staying_apply, offers.ends.run_logout]

/-! ### From the draft to the guest -/

/-- A draft is opened and saved. -/
theorem saves_draft (offers : s.Offers others post) (admin : s.backend.isAdminSession = true)
    (content : String) :
    let editing := s.submitLine ("post edit " ++ post.slug)
    let saved := editing.saveEdit content
    let filled := { post with content := some content }
    editing.mode = .running (.editor post) ∧ editing.backend = s.backend ∧
      saved.Says .system s!"Post \"{post.title}\" saved successfully." ∧
      saved.backend.isAdminSession = true ∧ saved.backend.clock = s.backend.clock ∧
      saved.Offers others filled := by
  intro editing saved filled
  obtain ⟨user, current⟩ := Store.user_of_admin admin
  obtain ⟨opened, setting, unchanged⟩ := opened_edit offers current
  obtain ⟨mode, kept, stored, newest⟩ :=
    saved_edit opened (unchanged ▸ offers.ends) (unchanged ▸ admin) content
  rw [unchanged] at stored
  refine ⟨opened, unchanged, newest, ?_, ?_, mode, ?_, ?_, offers.word⟩
  · rw [stored]
    exact admin
  · rw [stored]
  · exact (congrArg Setting.registry (kept.trans setting)).trans offers.builtin
  · have filledEnds : Store.Ends { s.backend with posts := others ++ [filled] } others filled :=
      offers.ends.replaced offers.ends.working rfl rfl rfl
    exact stored ▸ filledEnds

/-- A post is shown and published, and shown again once nobody is signed in. -/
theorem goes_public (offers : s.Offers others post) (admin : s.backend.isAdminSession = true) :
    let shown := s.submitLine ("post show " ++ post.slug)
    let published := shown.submitLine ("post publish " ++ post.slug)
    let left := published.submitLine "logout"
    let visited := left.submitLine ("post show " ++ post.slug)
    let live := { post with isPublished := true, publishedAt := some s.backend.clock.now }
    (shown.Says .output (Blog.shown post) ∧ shown.backend = s.backend) ∧
      (published.Says .output s!"Post \"{post.title}\" published successfully!" ∧
        published.backend.posts = others ++ [live]) ∧
      (left.user = none ∧ left.backend.session = none ∧
        left.backend.posts = published.backend.posts) ∧
      visited.Says .output (Blog.shown live) ∧ visited.backend = left.backend := by
  intro shown published left visited live
  obtain ⟨user, current⟩ := Store.user_of_admin admin
  have shows : s.Replied shown (Blog.shown post) s.backend :=
    replied_show offers (Or.inr ⟨user, current⟩)
  have shownOffers : shown.Offers others post :=
    shows.offers offers.builtin offers.ends offers.word
  have publishes := replied_publish shownOffers (shows.backend ▸ current) (shows.backend ▸ admin)
  rw [shows.backend] at publishes
  have liveEnds : Store.Ends
      { s.backend with posts := others ++ [live], clock := s.backend.clock.next } others live :=
    offers.ends.replaced offers.ends.working rfl rfl rfl
  have publishedOffers : published.Offers others live :=
    publishes.offers shownOffers.builtin liveEnds offers.word
  have leaves := replied_logout publishedOffers
  have leftEnds : Store.Ends { published.backend with session := none } others live :=
    publishedOffers.ends.replaced publishedOffers.ends.working publishedOffers.ends.posts rfl rfl
  have leftOffers : left.Offers others live :=
    leaves.offers publishedOffers.builtin leftEnds offers.word
  have visits : left.Replied (left.submitLine ("post show " ++ live.slug)) (Blog.shown live)
      left.backend := replied_show leftOffers (Or.inl rfl)
  refine ⟨⟨shows.newest, shows.backend⟩, ⟨publishes.newest, publishedOffers.ends.posts⟩,
    ⟨leaves.user, ?_, ?_⟩, visits.newest, visits.backend⟩
  · rw [leaves.backend]
  · rw [leaves.backend]

/-! ### The whole life -/

/-- The sessions that the steps of a post's life lead to, one after the other. -/
structure Stages where
  drafted : Session Store
  editing : Session Store
  saved : Session Store
  shown : Session Store
  published : Session Store
  left : Session Store
  visited : Session Store

/-- A post is drafted, edited, saved, shown and published; its author leaves and a guest comes. -/
def stages (s : Session Store) (title slug content : String) : Stages :=
  let drafted := s.submitLine ("post new " ++ title)
  let editing := drafted.submitLine ("post edit " ++ slug)
  let saved := editing.saveEdit content
  let shown := saved.submitLine ("post show " ++ slug)
  let published := shown.submitLine ("post publish " ++ slug)
  let left := published.submitLine "logout"
  ⟨drafted, editing, saved, shown, published, left, left.submitLine ("post show " ++ slug)⟩

/-- What the stages show and what becomes of the posts. -/
structure Lifecycle (s : Session Store) (title content : String) (post : Post) (t : Stages) :
    Prop where
  title : post.title = Text.join " " (Text.words title)
  drafted : t.drafted.backend.posts = s.backend.posts ++ [post]
  editing : t.editing.mode = .running (.editor post) ∧
    t.editing.backend.posts = s.backend.posts ++ [post]
  saved : t.saved.mode = .normal ∧
    t.saved.Says .system s!"Post \"{post.title}\" saved successfully." ∧
    t.saved.backend.posts = s.backend.posts ++ [{ post with content := some content }]
  shown : t.shown.Says .output (post.page content) ∧
    t.shown.backend.posts = s.backend.posts ++ [{ post with content := some content }]
  /-- The post is public from here on, with the time of its second look at the clock, and nobody
  touches it any more. -/
  published : t.published.Says .output s!"Post \"{post.title}\" published successfully!" ∧
    t.published.backend.posts = s.backend.posts ++ [{ post with
      content := some content, isPublished := true, publishedAt := some s.backend.clock.next.now }]
  left : t.left.user = none ∧ t.left.backend.session = none ∧
    t.left.backend.posts = t.published.backend.posts
  visited : t.visited.Says .output (post.page content) ∧
    t.visited.backend.posts = t.published.backend.posts

/-- If an administrator's draft is announced, it can be edited, saved, shown and published under the
slug of the announcement, and guests see what the administrator saw. -/
theorem post_lifecycle (normal : s.mode = .normal) (builtin : s.setting.registry = .builtin)
    (working : s.backend.outage = none) (admin : s.backend.isAdminSession = true)
    (title content : String) {notice : String}
    (newest : (s.submitLine ("post new " ++ title)).Says .output notice)
    (announces : Text.beginsWith "Draft created" notice = true) :
    ∃ post, notice = post.announcement ∧
      s.Lifecycle title content post (s.stages title post.slug content) := by
  obtain ⟨user, current⟩ := Store.user_of_admin admin
  obtain ⟨post, made, announced, drafted, ends, word⟩ :=
    replied_new normal builtin working admin current newest announces
  have offers := drafted.offers builtin ends word
  have stillAdmin : (s.submitLine ("post new " ++ title)).backend.isAdminSession = true :=
    drafted.backend ▸ admin
  have untagged : post.tags = [] := by rw [made]; rfl
  obtain ⟨opened, unchanged, savedSays, savedAdmin, savedClock, filledOffers⟩ :=
    saves_draft offers stillAdmin content
  obtain ⟨shown, published, left, visited⟩ := goes_public filledOffers savedAdmin
  have page : Blog.shown { post with content := some content } = post.page content :=
    Store.Ends.shown_eq untagged content
  have clock := savedClock.trans (congrArg Store.clock drafted.backend)
  refine ⟨post, announced, ?_⟩
  constructor
  case title => rw [made]; rfl
  case drafted => exact congrArg Store.posts drafted.backend
  case editing => exact ⟨opened, congrArg Store.posts (unchanged.trans drafted.backend)⟩
  case saved => exact ⟨filledOffers.normal, savedSays, filledOffers.ends.posts⟩
  case shown =>
    exact ⟨page ▸ shown.1, (congrArg Store.posts shown.2).trans filledOffers.ends.posts⟩
  case published =>
    rw [clock] at published
    exact published
  case left => exact left
  case visited =>
    exact ⟨page ▸ visited.1, (congrArg Store.posts visited.2).trans left.2.2⟩

/-- A store where an administrator is signed in and a guide has been published. -/
def adminStore : Store :=
  { accounts := [⟨1, "a@b.c", "secret", true⟩], session := some 1, aboutText := "", outage := none
    clock := .ticking ⟨10, 0⟩
    posts := [⟨4, "Guide", "guide", some "Read on.", true, some ⟨3, 0⟩, ⟨2, 0⟩, 1, []⟩] }

/-- Spaces in a title are squeezed, and its slug is in lower case. -/
theorem post_lifecycle_hello :
    let s := start adminStore .builtin (.at ⟨⟨0, 0⟩, 0⟩)
    s.backend.isAdminSession = true ∧ ∃ post,
      "Draft created: \"Hello World\"\nSlug: hello-world\nEdit with: post edit hello-world" =
        post.announcement ∧
      s.Lifecycle " Hello  World" "One." post (s.stages " Hello  World" post.slug "One.") := by
  intro s
  have admin : s.backend.isAdminSession = true := by decide +kernel
  have newest : (s.submitLine ("post new " ++ " Hello  World")).Says .output
      "Draft created: \"Hello World\"\nSlug: hello-world\nEdit with: post edit hello-world" :=
    ⟨2, by decide +kernel⟩
  exact ⟨admin,
    post_lifecycle rfl rfl rfl admin " Hello  World" "One." newest (by decide +kernel)⟩

end Session

end PortfolioShell
