import PortfolioShell.Json.Record
import PortfolioShell.Post.Basic
import PortfolioShell.Time.Reading

/-!
# Post documents

Posts as records in JSON. Content, publication and tags may be left out.
-/
namespace PortfolioShell.Post

/-- An instant written as text. -/
def instantOfJson? (value : Json) : Option Time.Instant :=
  value.text?.bind Time.Reading.instant?

/-- The fields of a post record. -/
def fieldNames : List String :=
  ["id", "title", "slug", "content", "is_published", "published_at", "created_at", "author_id",
    "tags"]

/-- The post that a record describes. -/
def ofJson? (value : Json) : Option Post := do
  match ← value.fields? fieldNames with
  | [id, title, slug, content, isPublished, publishedAt, createdAt, authorId, tags] =>
    some {
      id := ← Json.required? Json.word? id
      title := ← Json.required? Json.text? title
      slug := ← Json.required? Json.text? slug
      content := ← Json.optional? (Json.nullable? Json.text?) none content
      isPublished := ← Json.optional? Json.bool? false isPublished
      publishedAt := ← Json.optional? (Json.nullable? instantOfJson?) none publishedAt
      createdAt := ← Json.required? instantOfJson? createdAt
      authorId := ← Json.required? Json.word? authorId
      tags := ← Json.optional? (Json.list? Json.text?) [] tags }
  | _ => none

/-- The post that a text describes. -/
def ofText? (text : String) : Option Post := (Json.ofText? text).bind ofJson?

end PortfolioShell.Post
