import PortfolioShell.Json.Record
import PortfolioShell.Site.Basic

/-!
# Site documents

A site as a record in JSON. Quotes, projects and code may be left out; every project needs a slug
that is not empty, because its sheet is filed under it.
-/
namespace PortfolioShell

/-- Why a text is no site document. -/
inductive SiteError where
  | malformed
  | emptySlug (title : String)
deriving DecidableEq, Repr

/-- The wording of a site error. -/
def SiteError.message : SiteError → String
  | malformed => "invalid site document"
  | emptySlug title => s!"invalid site document: project '{title}' has an empty slug"

/-- The owner that a record describes. -/
def Owner.ofJson? (value : Json) : Option Owner := do
  match ← value.fields? ["name", "handle", "email", "github", "linkedin"] with
  | [name, handle, email, github, linkedin] =>
    some {
      name := ← Json.required? Json.text? name
      handle := ← Json.required? Json.text? handle
      email := ← Json.required? Json.text? email
      github := ← Json.required? Json.text? github
      linkedin := ← Json.required? Json.text? linkedin }
  | _ => none

/-- The fields of a project record. -/
def Project.fieldNames : List String :=
  ["title", "slug", "description", "long_description", "technologies", "live_url", "repo_url"]

/-- The project that a record describes. -/
def Project.ofJson? (value : Json) : Option Project := do
  match ← value.fields? fieldNames with
  | [title, slug, description, longDescription, technologies, liveUrl, repoUrl] =>
    some {
      title := ← Json.required? Json.text? title
      slug := ← Json.required? Json.text? slug
      description := ← Json.required? Json.text? description
      longDescription := ← Json.required? Json.text? longDescription
      technologies := ← Json.required? (Json.list? Json.text?) technologies
      liveUrl := ← Json.optional? (Json.nullable? Json.text?) none liveUrl
      repoUrl := ← Json.optional? (Json.nullable? Json.text?) none repoUrl }
  | _ => none

/-- The code sample that a record describes. -/
def CodeSample.ofJson? (value : Json) : Option CodeSample := do
  match ← value.fields? ["name", "content"] with
  | [name, content] =>
    some {
      name := ← Json.required? Json.text? name
      content := ← Json.required? Json.text? content }
  | _ => none

namespace Site

/-- The site that a record describes, whatever its slugs. -/
def ofJson? (value : Json) : Option Site := do
  match ← value.fields? ["owner", "about", "quotes", "projects", "code"] with
  | [owner, about, quotes, projects, code] =>
    some {
      owner := ← Json.required? Owner.ofJson? owner
      about := ← Json.required? Json.text? about
      quotes := ← Json.optional? (Json.list? Json.text?) [] quotes
      projects := ← Json.optional? (Json.list? Project.ofJson?) [] projects
      code := ← Json.optional? (Json.list? CodeSample.ofJson?) [] code }
  | _ => none

/-- The first project whose slug is empty makes a site unusable. -/
def checkSlugs (site : Site) : Except SiteError Site :=
  match site.projects.find? (·.slug.isEmpty) with
  | some project => .error (.emptySlug project.title)
  | none => .ok site

/-- The site that a text describes. -/
def ofText (text : String) : Except SiteError Site :=
  match (Json.ofText? text).bind ofJson? with
  | some site => site.checkSlugs
  | none => .error .malformed

end Site

end PortfolioShell
