import PortfolioShell.Text.Words
import PortfolioShell.Time.Instant

/-!
# Blog posts

A post is a draft until it is published. Its slug names it in addresses and commands.
-/
namespace PortfolioShell

/-- A blog post as it is stored. -/
structure Post where
  id : Nat
  title : String
  slug : String
  content : Option String
  isPublished : Bool
  publishedAt : Option Time.Instant
  createdAt : Time.Instant
  authorId : Nat
  tags : List String
deriving DecidableEq, Repr

/-- The tags in brackets after a blank; nothing for a post without tags. -/
def Post.tagsSuffix (post : Post) : String :=
  if post.tags.isEmpty then "" else " [" ++ Text.join ", " post.tags ++ "]"

/-- What a draft is made from. -/
structure Draft where
  title : String
  slug : String
  authorId : Nat
deriving DecidableEq, Repr

/-- A slug that a search found. -/
structure SlugHit where
  slug : String
  isPublished : Bool
deriving DecidableEq, Repr

end PortfolioShell
