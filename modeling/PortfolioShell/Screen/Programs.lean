import PortfolioShell.Art
import PortfolioShell.Screen.Palette
import PortfolioShell.Session

/-!
# Full-screen programs

What the game, the file viewer and the post editor print, and what the lines mean that they read.
-/
namespace PortfolioShell.Programs

/-- Ends a printed line. -/
def endLine (text : String) : String := text ++ "\n"

/-- Lines of text behind their numbers, right-aligned. -/
def numbered (palette : Palette) (content : String) : String :=
  let lines := Text.lines content
  let width := (toString lines.length).length
  Text.join "\n" ((lines.zipIdx 1).map fun (line, n) =>
    palette.dim.paint (Text.padLeft width (toString n)) ++ " " ++ line)

/-- The screen of the game. -/
def gameScreen (palette : Palette) : String :=
  endLine (palette.highlight.paint Art.pacman) ++ endLine (palette.dim.paint "Press Enter to quit.")

/-- The screen of the viewer. -/
def viewerScreen (palette : Palette) (filename content : String) : String :=
  let count := (Text.lines content).length
  endLine (numbered palette content) ++
    endLine (palette.dim.paint s!"\"{filename}\" {count}L [readonly]  :q to quit")

/-- The screen of the editor, with the content there is. -/
def editorScreen (palette : Palette) (post : Post) : String :=
  let current := post.content.getD ""
  endLine (palette.accent.paintBold s!"Editing \"{post.title}\" ({post.slug})") ++
    (if current.isEmpty then ""
    else endLine (palette.dim.paint "Current content:") ++ endLine (numbered palette current)) ++
    endLine (palette.dim.paint "Type the new content. A line with a single '.' saves, ':q' cancels.")

/-- What a program shows when it takes over the screen. -/
def openingScreen (palette : Palette) : Subprogram → String
  | .game => gameScreen palette
  | .viewer filename content => viewerScreen palette filename content
  | .editor post => editorScreen palette post

/-- The command that a line gives to the viewer: colons in front do not count. -/
def viewerCommand (line : String) : String :=
  String.ofList ((Text.trim line).toList.dropWhile (· == ':'))

/-- Whether a command leaves the viewer. -/
def isQuit (command : String) : Bool := ["q", "q!", "wq", "x", "quit"].contains command

/-- What the viewer says about any other command. -/
def viewerReply (palette : Palette) (command : String) : String :=
  if command.isEmpty then ""
  else endLine (palette.error.paint s!"E492: Not an editor command: {command}")

/-- What a line means to the editor. -/
inductive EditorLine where
  | save
  | cancel
  | content (line : String)
deriving DecidableEq, Repr

/-- A lone point saves, and `:q` or `:q!` cancels. -/
def EditorLine.ofLine (line : String) : EditorLine :=
  if line = "." then .save else if line = ":q" ∨ line = ":q!" then .cancel else .content line

end PortfolioShell.Programs
