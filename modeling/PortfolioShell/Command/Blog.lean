import PortfolioShell.Backend.Basic
import PortfolioShell.Command.Output
import PortfolioShell.Slug
import PortfolioShell.Time.Format

/-!
# Blog commands

The blog for everyone and the management of posts for users. Whether a user may write is for the
backend to say; its refusals are told in words of their own.
-/
namespace PortfolioShell.Blog

/-- The public address that posts are found below. -/
def address : String := "/blog"

/-- One published post of the blog. -/
def publishedRow (post : Post) : String :=
  let date := (post.publishedAt.map (·.shortDate)).getD "N/A"
  s!"  - {date}: {post.title} (view with 'post show {post.slug}')" ++ post.tagsSuffix

/-- Published posts, newest first. -/
def blog {σ : Type} [Backend σ] : StateM σ Output := do
  match ← Backend.publishedPosts with
  | .error e => pure (.text s!"Error fetching blog posts: {e.message}")
  | .ok [] => pure (.text "No blog posts have been published yet. Check back soon!")
  | .ok posts =>
    pure (.text ("Latest Blog Posts:\n" ++ Text.join "\n" (posts.map publishedRow) ++
      s!"\n\nOr view all posts on the website: {address}"))

/-- What is said about a slug without a post. -/
def notFound (slug : String) : Output := .text s!"Error: Post with slug '{slug}' not found."

/-- What is said when a user is no administrator. -/
def notAllowed (verb : String) : Output :=
  .text s!"Error: You do not have permission to {verb} posts. Are you an admin?"

/-- The content of a post, or words for its absence. -/
def shownContent (post : Post) : String :=
  match post.content with
  | some content => if content.isEmpty then "This post has no content yet." else content
  | none => "This post has no content yet."

/-- The tags below the content of a post. -/
def shownTags (post : Post) : String :=
  if post.tags.isEmpty then "" else "\nTags: " ++ Text.join ", " post.tags

/-- A whole post. -/
def shown (post : Post) : String :=
  s!"\n{post.title}\n====================================\n\n" ++ shownContent post ++
    shownTags post ++ s!"\n\n---\nView on site: {address}/{post.slug}"

/-- Shows a post. Drafts are shown to users only. -/
def show? {σ : Type} [Backend σ] (signedIn : Bool) : List String → StateM σ Output
  | [] => pure (.text "Usage: post show <slug>")
  | slug :: _ => do
    match ← Backend.findPost slug with
    | .ok (some post) =>
      if post.isPublished || signedIn then pure (.text (shown post)) else pure (notFound slug)
    | .ok none => pure (notFound slug)
    | .error .notFound => pure (notFound slug)
    | .error e => pure (.text s!"Error fetching post: {e.message}")

/-- Makes a draft whose title is the words, under the slug of the title. -/
def new {σ : Type} [Backend σ] (normalizer : Text.Normalizer) (user : User)
    (words : List String) : StateM σ Output :=
  let title := Text.join " " words
  let slug := Slug.make normalizer title
  if title.isEmpty then pure (.text "Usage: post new <post title>")
  else if slug.isEmpty then
    pure (.text s!"Error: Cannot derive a slug from '{title}'. Please use letters or digits.")
  else do
    match ← Backend.createPost ⟨title, slug, user.id⟩ with
    | .ok post =>
      pure (.text (s!"Draft created: \"{post.title}\"\nSlug: {post.slug}\n" ++
        s!"Edit with: post edit {post.slug}"))
    | .error .permissionDenied =>
      pure (.text ("Error: You do not have permission to create posts. " ++
        "Make sure you are an admin."))
    | .error .conflict =>
      pure (.text (s!"Error: A post with the slug '{slug}' already exists. " ++
        "Please choose a different title."))
    | .error e => pure (.text s!"Error creating post: {e.message}")

/-- Publishes a post. -/
def publish {σ : Type} [Backend σ] : List String → StateM σ Output
  | [] => pure (.text "Usage: post publish <slug>")
  | slug :: _ => do
    match ← Backend.publishPost slug with
    | .ok post => pure (.text s!"Post \"{post.title}\" published successfully!")
    | .error .permissionDenied => pure (notAllowed "publish")
    | .error .notFound => pure (notFound slug)
    | .error e => pure (.text s!"Error publishing post: {e.message}")

/-- One post of the list of all. -/
def managedRow (post : Post) : String :=
  let sign := if post.isPublished then "✅" else "📝"
  s!"  - {sign} {post.title} ({post.slug})" ++ post.tagsSuffix

/-- Lists every post. -/
def list {σ : Type} [Backend σ] : StateM σ Output := do
  match ← Backend.allPosts with
  | .error .permissionDenied =>
    pure (.text "Error: You do not have permission to view all posts. Are you an admin?")
  | .error e => pure (.text s!"Error fetching posts: {e.message}")
  | .ok [] => pure (.text "No posts found. Create one with 'post new <title>'.")
  | .ok posts => pure (.text ("Your Posts:\n" ++ Text.join "\n" (posts.map managedRow)))

/-- Opens a post in the editor. -/
def edit {σ : Type} [Backend σ] : List String → StateM σ Output
  | [] => pure (.text "Usage: post edit <slug>")
  | slug :: _ => do
    match ← Backend.findPost slug with
    | .ok (some post) => pure (.directive (.openEditor post))
    | .ok none => pure (notFound slug)
    | .error .notFound => pure (notFound slug)
    | .error .permissionDenied => pure (notAllowed "edit")
    | .error e => pure (.text s!"Error fetching post: {e.message}")

/-- Adds tags to a post. -/
def tag {σ : Type} [Backend σ] : List String → StateM σ Output
  | slug :: first :: more => do
    let tags := first :: more
    match ← Backend.tagPost slug tags with
    | .ok () => pure (.text ("Tags [" ++ Text.join ", " tags ++ s!"] added to post '{slug}'."))
    | .error .notFound => pure (notFound slug)
    | .error .permissionDenied => pure (notAllowed "tag")
    | .error e => pure (.text s!"Error adding tags to post: {e.message}")
  | _ => pure (.text "Usage: post tag <slug> <tag-name-1> [tag-name-2] ...")

/-- Takes tags off a post. -/
def untag {σ : Type} [Backend σ] : List String → StateM σ Output
  | slug :: first :: more => do
    match ← Backend.untagPost slug (first :: more) with
    | .ok 0 => pure (.text "No matching tags found to remove.")
    | .ok _ => pure (.text s!"Tags removed successfully from post '{slug}'.")
    | .error .notFound => pure (notFound slug)
    | .error .permissionDenied => pure (notAllowed "untag")
    | .error e => pure (.text s!"Error removing tags: {e.message}")
  | _ => pure (.text "Usage: post untag <slug> <tag-name-1> [tag-name-2] ...")

/-- The subcommands, in the order of the help. -/
def subcommands : List String := ["new", "publish", "list", "show", "edit", "tag", "untag"]

/-- What a guest may do: show published posts. -/
def forGuest {σ : Type} [Backend σ] (sub : String) (rest : List String) : StateM σ Output :=
  if sub = "show" then show? false rest
  else pure (.text "You must be logged in to manage posts.")

/-- What a user may do, as far as the backend agrees. -/
def forUser {σ : Type} [Backend σ] (normalizer : Text.Normalizer) (user : User) (sub : String)
    (rest : List String) : StateM σ Output :=
  match sub with
  | "new" => new normalizer user rest
  | "publish" => publish rest
  | "list" => list
  | "show" => show? true rest
  | "edit" => edit rest
  | "tag" => tag rest
  | "untag" => untag rest
  | _ =>
    pure (.text ("Unknown 'post' subcommand. Available: " ++ Text.join ", " subcommands ++ "."))

/-- Manages posts with a subcommand. -/
def post {σ : Type} [Backend σ] (normalizer : Text.Normalizer) (args : List String) :
    StateM σ Output := do
  match ← Backend.currentUser with
  | none => forGuest (args.headD "") args.tail
  | some user => forUser normalizer user (args.headD "") args.tail

end PortfolioShell.Blog
