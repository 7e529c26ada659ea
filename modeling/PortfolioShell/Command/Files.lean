import PortfolioShell.Backend.Basic
import PortfolioShell.Command.Output
import PortfolioShell.Command.Setting
import PortfolioShell.Text.Search

/-!
# File commands

Commands on the file tree. Two of them change the working directory; they give the directory to
change to along with their output.
-/
namespace PortfolioShell.Files

/-- The content of a file once it has been produced. -/
inductive Readable where
  | text (s : String)
  | rich (blocks : Rich)
deriving DecidableEq, Repr

/-- Reads a file. Only the text about the owner asks the backend. -/
def read {σ : Type} [Backend σ] (site : Site) :
    FileContent → StateM σ (Except BackendError Readable)
  | .stored s => pure (.ok (.text s))
  | .produced .about => do
    match ← Backend.about with
    | .ok s => pure (.ok (.text s))
    | .error e => pure (.error e)
  | .produced .contact => pure (.ok (.rich site.contactCard))

/-- How a listing shows an entry. -/
def entryKind (entry : DirEntry) : EntryKind :=
  if entry.isDirectory then .directory
  else if Text.beginsWith "." entry.name then .hidden
  else .file

/-- Lists a directory, the working directory by default, or names a file. -/
def ls (args : List String) (cwd : String) (tree : Tree) : Output :=
  let path := args.headD "."
  match tree.node? path cwd with
  | none => .text s!"ls: cannot access '{path}': No such file or directory"
  | some (.file _) => .text (Path.baseName path)
  | some (.directory children) =>
    match (Node.entries children).map fun entry => ListEntry.mk entry.name (entryKind entry) with
    | [] => .silent
    | entries => .rich [.listing entries]

/-- Changes to a directory, the root by default. -/
def cd (args : List String) (cwd : String) (tree : Tree) : Output × Option String :=
  let path := args.headD Path.root
  match tree.node? path cwd with
  | none => (.text s!"cd: no such file or directory: {path}", none)
  | some (.file _) => (.text s!"cd: not a directory: {path}", none)
  | some (.directory _) => (.silent, some (Path.resolve path cwd))

/-- What the listing of a directory adds to other blocks. -/
def listingBlocks : Output → Rich
  | .rich blocks => blocks
  | .text s => if s.isEmpty then [] else [.text s]
  | _ => []

/-- Changes to the projects and lists what the arguments name there. -/
def projects (args : List String) (tree : Tree) : Output × Option String :=
  (.rich (.text ("Changed directory to /projects. Use `ls` to see projects, " ++
      "and `cat [filename]` to view details.") :: listingBlocks (ls args Tree.projectsDir tree)),
    some Tree.projectsDir)

/-- Prints a file. -/
def cat {σ : Type} [Backend σ] (args : List String) (cwd : String) (setting : Setting) :
    StateM σ Output :=
  match args with
  | [] => pure (.text "cat: missing file operand")
  | path :: _ =>
    match setting.tree.node? path cwd with
    | none => pure (.text s!"cat: {path}: No such file or directory")
    | some (.directory _) => pure (.text s!"cat: {path}: Is a directory")
    | some (.file (.stored s)) => pure (.rich [.pre s])
    | some (.file content) => do
      match ← read setting.site content with
      | .error e => pure (.text s!"cat: {path}: {e.message}")
      | .ok (.text s) => pure (.text s)
      | .ok (.rich blocks) => pure (.rich blocks)

/-- Prints the lines of a file that contain a pattern. -/
def grep {σ : Type} [Backend σ] (args : List String) (cwd : String) (setting : Setting) :
    StateM σ Output :=
  match args with
  | pattern :: file :: _ =>
    match setting.tree.node? file cwd with
    | none => pure (.text s!"grep: {file}: No such file or directory")
    | some (.directory _) => pure (.text s!"grep: {file}: Is a directory")
    | some (.file content) => do
      match ← read setting.site content with
      | .error e => pure (.text s!"grep: {file}: {e.message}")
      | .ok (.rich _) => pure (.text s!"grep: cannot search in {file}")
      | .ok (.text s) =>
        match Text.search setting.host.matcher pattern s with
        | [] => pure .silent
        | found => pure (.rich [.found found])
  | _ => pure (.text "usage: grep PATTERN FILE")

/-- Opens a file of plain text in the viewer. -/
def vim {σ : Type} [Backend σ] (args : List String) (cwd : String) (setting : Setting) :
    StateM σ Output :=
  match args with
  | [] => pure (.text "vim: File name must be specified")
  | path :: _ =>
    match setting.tree.node? path cwd with
    | none => pure (.text s!"vim: Cannot find file \"{path}\"")
    | some (.directory _) => pure (.text s!"vim: \"{path}\" is a directory")
    | some (.file content) => do
      match ← read setting.site content with
      | .error e => pure (.text s!"vim: {path}: {e.message}")
      | .ok (.rich _) =>
        pure (.text s!"vim: Cannot open \"{path}\". File does not contain plain text.")
      | .ok (.text s) => pure (.directive (.openViewer path s))

end PortfolioShell.Files
