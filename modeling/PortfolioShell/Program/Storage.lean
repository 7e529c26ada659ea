import PortfolioShell.Text.Words
import PortfolioShell.Theme

/-!
# The stored theme

The theme is all that is kept from one run to the next. It is kept in a file below the directory
for configuration, as far as there is one and it can be written to. A failure is told to whoever
stores the theme; what it has done to the storage until then is left open.
-/
namespace PortfolioShell

/-- A storage of files in state `φ`. Its steps say whether they were carried out. -/
class Storage (φ : Type) where
  /-- The directory for configuration, if there is one. -/
  configDir? : Option String
  /-- The text of a file, if it can be read and is a text. -/
  read? : (path : String) → φ → Option String
  /-- Makes a directory, and those above it, unless it is there. -/
  createDirs : (path : String) → StateM φ Bool
  /-- Makes a text the content of a file. -/
  write : (path text : String) → StateM φ Bool

namespace Storage

/-- The path of an entry of a directory. -/
def entryPath (dir name : String) : String :=
  if dir.toList.getLast? = some '/' then dir ++ name else dir ++ "/" ++ name

/-- The directory of the program below the one for configuration. -/
def themeDir (configDir : String) : String := entryPath configDir "foliosh"

/-- The file of the theme. -/
def themePath (configDir : String) : String := entryPath (themeDir configDir) "theme"

section
variable {φ : Type} [Storage φ]

/-- What the file of the theme says. -/
def themeText? (disk : φ) : Option String :=
  (configDir? φ).bind fun dir => read? (themePath dir) disk

/-- The stored theme, if the file still names one. -/
def loadTheme? (disk : φ) : Option Theme :=
  (themeText? disk).bind fun text => Theme.ofName? (Text.trim text)

/-- Stores a theme. -/
def saveTheme (theme : Theme) : StateM φ Bool :=
  match configDir? φ with
  | none => pure false
  | some dir => do
    if ← createDirs (themeDir dir) then write (themePath dir) theme.name else pure false

end

/-- What is relied on: a text that was written to the file of the theme is what is read next. -/
structure Faithful (φ : Type) [Storage φ] : Prop where
  read_write : ∀ dir, configDir? φ = some dir → ∀ (text : String) (disk : φ),
    (write (themePath dir) text disk).1 = true →
      read? (themePath dir) (write (themePath dir) text disk).2 = some text

end Storage

/-- A storage of one file only that can always be written to. -/
structure ThemeFile where
  text : Option String
deriving DecidableEq, Repr

instance : Storage ThemeFile where
  configDir? := some "/"
  read? _ file := file.text
  createDirs _ := pure true
  write _ text := fun _ => (true, ⟨some text⟩)

end PortfolioShell
