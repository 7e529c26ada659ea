import PortfolioShell.Text.Words

/-!
# Paths

A path is a text of segments between slashes. It is taken from the root if it begins with a slash
or a tilde segment, else from a working directory. Resolution never fails: it drops empty segments
and `.`, lets `..` undo the segment before it, and stays at the root above the root.
-/
namespace PortfolioShell.Path

/-- The root directory. -/
def root : String := "/"

/-- The segments of a path that are not empty. -/
def segments (path : String) : List String := Text.runsWithout '/' path

/-- The absolute path of segments. -/
def ofSegments (segs : List String) : String := "/" ++ Text.join "/" segs

/-- Follows one segment from a directory given by its segments, innermost first. -/
def enter (inside : List String) (segment : String) : List String :=
  if segment = ".." then inside.tail
  else if segment = "." then inside
  else segment :: inside

/-- Follows segments from the root. -/
def normalize (segs : List String) : List String := (segs.foldl enter []).reverse

/-- Puts the directory in front that a path is taken from. -/
def anchor (path cwd : String) : String :=
  match path.toList with
  | ['~'] => root
  | '~' :: '/' :: rest => "/" ++ String.ofList rest
  | '/' :: _ => path
  | _ => cwd ++ "/" ++ path

/-- The absolute path that `path` names in the directory `cwd`. -/
def resolve (path cwd : String) : String := ofSegments (normalize (segments (anchor path cwd)))

/-- A path is in normal form when it is written with plain segments only. -/
def IsNormal (path : String) : Prop :=
  ∃ segs : List String, path = ofSegments segs ∧
    ∀ s ∈ segs, s ≠ "" ∧ s ≠ "." ∧ s ≠ ".." ∧ '/' ∉ s.toList

/-- What stands after the last slash; the whole path if there is none. -/
def baseName (path : String) : String := (Text.splitAtChar '/' path).getLast?.getD ""

/-- A path cut after its last slash. -/
def cutLast (path : String) : String × String :=
  let name := baseName path
  (String.ofList (path.toList.take (path.length - name.length)), name)

/-- The directory part of the prompt: `~` at the root, else `~/` with the last segment. -/
def promptText (cwd : String) : String :=
  match (segments cwd).getLast? with
  | some last => "~/" ++ last
  | none => "~"

end PortfolioShell.Path
