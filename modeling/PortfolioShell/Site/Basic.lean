import PortfolioShell.Block

/-!
# Site content

Everything the terminal shows that does not come from the backend: the owner and how to reach
them, quotes, projects and samples of code.
-/
namespace PortfolioShell

/-- Whose site it is. -/
structure Owner where
  name : String
  handle : String
  email : String
  github : String
  linkedin : String
deriving DecidableEq, Repr

/-- A project of the portfolio. -/
structure Project where
  title : String
  slug : String
  description : String
  longDescription : String
  technologies : List String
  liveUrl : Option String
  repoUrl : Option String
deriving DecidableEq, Repr

/-- A sample of source code. -/
structure CodeSample where
  name : String
  content : String
deriving DecidableEq, Repr

/-- The content of a site. `about` is where the backend's own text about the owner starts from. -/
structure Site where
  owner : Owner
  about : String
  quotes : List String
  projects : List Project
  code : List CodeSample
deriving DecidableEq, Repr

namespace Project

/-- The name of the project's sheet. -/
def fileName (project : Project) : String := s!"{project.slug}.txt"

/-- What stands for an address that a project does not have. -/
def noAddress : String := "N/A"

/-- The project's sheet. -/
def sheet (project : Project) : String :=
  let technologies := Text.join ", " project.technologies
  let live := project.liveUrl.getD noAddress
  let repo := project.repoUrl.getD noAddress
  s!"Title: {project.title}\nDescription: {project.description}\n\n{project.longDescription}\n\n" ++
  s!"Technologies: {technologies}\n\nCheck it out:\nLive: {live}\nRepo: {repo}"

end Project

namespace Site

/-- The quotes, one to a line. -/
def quotesText (site : Site) : String := Text.join "\n" site.quotes

/-- How to reach the owner. -/
def contactCard (site : Site) : Rich :=
  [.text "Get in touch:",
    .pairs [("Email", site.owner.email), ("GitHub", site.owner.github),
      ("LinkedIn", site.owner.linkedin)] ": "]

end Site

end PortfolioShell
