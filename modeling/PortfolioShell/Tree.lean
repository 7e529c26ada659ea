import PortfolioShell.Path
import PortfolioShell.Site.Basic

/-!
# The file tree

A read-only tree of directories and files, built from the content of a site. Most files hold
text; two are produced when they are read. The children of a directory keep the order in which
they were added, and nothing that is printed depends on it.
-/
namespace PortfolioShell

/-- What produces the content of a file. -/
inductive Producer where
  | about
  | contact
deriving DecidableEq, Repr

/-- What a file yields. -/
inductive FileContent where
  | stored (text : String)
  | produced (producer : Producer)
deriving DecidableEq, Repr

/-- A file, or a directory of named nodes. -/
inductive Node where
  | file (content : FileContent)
  | directory (children : List (String × Node))

/-- One entry of a directory listing. -/
structure DirEntry where
  name : String
  isDirectory : Bool
deriving DecidableEq, Repr

namespace Node

/-- Whether a node is a directory. -/
def isDirectory : Node → Bool
  | directory _ => true
  | file _ => false

/-- The child of a name. -/
def child? (children : List (String × Node)) (name : String) : Option Node :=
  children.lookup name

/-- The node that segments lead to; there is none beyond a file. -/
def descend? (node : Node) : List String → Option Node
  | [] => some node
  | segment :: rest =>
    match node with
    | directory children => (child? children segment).bind (descend? · rest)
    | file _ => none

/-- Sets the child of a name: in its old place if there is one, else at the end. -/
def setChild (name : String) (node : Node) : List (String × Node) → List (String × Node)
  | [] => [(name, node)]
  | (other, old) :: rest =>
    if other = name then (name, node) :: rest else (other, old) :: setChild name node rest

/-- Puts a node at the end of segments and makes the directories on the way. Where a file stands
in the way the children stay as they are. -/
def place (node : Node) : List String → List (String × Node) → List (String × Node)
  | [], children => children
  | [name], children => setChild name node children
  | name :: rest, children =>
    match child? children name with
    | none => setChild name (directory (place node rest [])) children
    | some (directory inner) => setChild name (directory (place node rest inner)) children
    | some (file _) => children

/-- Directories come before files, plain names before hidden ones, then code points decide. -/
def entryPrecedes (a b : DirEntry) : Bool :=
  if a.isDirectory != b.isDirectory then a.isDirectory
  else if Text.beginsWith "." a.name != Text.beginsWith "." b.name then
    !Text.beginsWith "." a.name
  else !decide (b.name < a.name)

/-- The entries of a directory in listing order. -/
def entries (children : List (String × Node)) : List DirEntry :=
  (children.map fun (name, node) => ⟨name, node.isDirectory⟩).mergeSort entryPrecedes

end Node

/-- A tree is the children of its root. -/
structure Tree where
  children : List (String × Node)

namespace Tree

/-- The root directory. -/
def root (tree : Tree) : Node := .directory tree.children

/-- Adds a file of stored text at a path from the root. -/
def addText (tree : Tree) (path text : String) : Tree :=
  ⟨Node.place (.file (.stored text)) (Path.segments path) tree.children⟩

/-- The directory of project sheets. -/
def projectsDir : String := "/projects"

/-- What every tree holds: the two produced files, the quotes and a directory for projects. -/
def base (site : Site) : Tree :=
  ⟨[("about.txt", .file (.produced .about)), ("contact.txt", .file (.produced .contact)),
    ("quotes.txt", .file (.stored site.quotesText)), ("projects", .directory [])]⟩

/-- The path a project's sheet is filed under. -/
def sheetPath (project : Project) : String := "projects/" ++ project.fileName

/-- The path a code sample is filed under. -/
def samplePath (sample : CodeSample) : String := "mycode/" ++ sample.name

/-- The tree of a site: project sheets in order, then code samples in order. -/
def ofSite (site : Site) : Tree :=
  let withSheets := site.projects.foldl
    (fun tree project => tree.addText (sheetPath project) project.sheet) (base site)
  site.code.foldl (fun tree sample => tree.addText (samplePath sample) sample.content) withSheets

/-- The node that a path names in a directory. -/
def node? (tree : Tree) (path cwd : String) : Option Node :=
  tree.root.descend? (Path.segments (Path.resolve path cwd))

/-- Whether a path names a directory. -/
def isDirectory (tree : Tree) (path cwd : String) : Bool :=
  ((tree.node? path cwd).map Node.isDirectory).getD false

/-- The listing of a directory; none for a file or for nothing. -/
def list? (tree : Tree) (path cwd : String) : Option (List DirEntry) :=
  match tree.node? path cwd with
  | some (.directory children) => some (Node.entries children)
  | _ => none

end Tree

end PortfolioShell
