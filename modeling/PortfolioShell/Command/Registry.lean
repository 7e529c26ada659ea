import PortfolioShell.Text.Words

/-!
# The command registry

Commands are registered under names, each with the way it is called fixed at registration: plain
commands see their arguments only, file commands also the working directory. The registry keeps
the order in which names were first registered.
-/
namespace PortfolioShell

/-- Commands that see their arguments only. -/
inductive PlainCommand where
  | help
  | welcome
  | about
  | contact
  | date
  | echo
  | clear
  | signup
  | login
  | logout
  | whoami
  | blog
  | post
  | theme
  | guestbook
  | neofetch
  | tutorial
  | pacman
deriving DecidableEq, Repr

/-- Commands that also see the working directory. -/
inductive FileCommand where
  | projects
  | ls
  | cd
  | cat
  | pwd
  | grep
  | vim
deriving DecidableEq, Repr

/-- How a command is called, and which one it is. -/
inductive Handler where
  | plain (command : PlainCommand)
  | file (command : FileCommand)
deriving DecidableEq, Repr

/-- The part of the help that lists a command. -/
inductive Section where
  | general
  | files
deriving DecidableEq, Repr

/-- A registered command. -/
structure CommandSpec where
  name : String
  usage : String
  summary : String
  part : Section
  handler : Handler
deriving DecidableEq, Repr

/-- Registered commands in the order of their names' first registration. -/
structure Registry where
  entries : List CommandSpec
deriving DecidableEq, Repr

namespace Registry

/-- No commands. -/
def empty : Registry := ⟨[]⟩

/-- Puts a command in the place of the one of its name, or at the end. -/
def put (spec : CommandSpec) : List CommandSpec → List CommandSpec
  | [] => [spec]
  | old :: rest => if old.name = spec.name then spec :: rest else old :: put spec rest

/-- Registers a command. -/
def register (registry : Registry) (spec : CommandSpec) : Registry := ⟨put spec registry.entries⟩

/-- The command of exactly this name. -/
def get? (registry : Registry) (name : String) : Option CommandSpec :=
  registry.entries.find? (·.name == name)

/-- The names that begin with a text, in registration order. -/
def namesBeginning (registry : Registry) (start : String) : List String :=
  (registry.entries.map (·.name)).filter (Text.beginsWith start)

/-- The commands that a part of the help lists. -/
def listed (registry : Registry) (part : Section) : List CommandSpec :=
  registry.entries.filter (·.part == part)

/-- The commands that come with the terminal. -/
def builtins : List CommandSpec := [
  ⟨"help", "help", "Show this help message.", .general, .plain .help⟩,
  ⟨"welcome", "welcome", "Display the welcome banner.", .general, .plain .welcome⟩,
  ⟨"about", "about", "Display information about me (or use `cat about.txt`).", .general,
    .plain .about⟩,
  ⟨"projects", "projects", "Navigate to projects directory.", .general, .file .projects⟩,
  ⟨"contact", "contact", "Show my contact information (or use `cat contact.txt`).", .general,
    .plain .contact⟩,
  ⟨"date", "date", "Display the current date and time.", .general, .plain .date⟩,
  ⟨"echo", "echo [text]", "Print text to the terminal.", .general, .plain .echo⟩,
  ⟨"clear", "clear", "Clear the terminal screen.", .general, .plain .clear⟩,
  ⟨"signup", "signup [email]", "Create a new account.", .general, .plain .signup⟩,
  ⟨"login", "login [email]", "Log in to an account.", .general, .plain .login⟩,
  ⟨"logout", "logout", "Log out from the current account.", .general, .plain .logout⟩,
  ⟨"whoami", "whoami", "Display the current user.", .general, .plain .whoami⟩,
  ⟨"blog", "blog", "View published blog posts (or visit /blog).", .general, .plain .blog⟩,
  ⟨"post", "post [subcommand]",
    "Manage posts. Try 'post list', 'post show [slug]', 'post edit [slug]'.", .general,
    .plain .post⟩,
  ⟨"theme", "theme <name>", "Switch the terminal color theme.", .general, .plain .theme⟩,
  ⟨"guestbook", "guestbook", "Where to find the guestbook.", .general, .plain .guestbook⟩,
  ⟨"neofetch", "neofetch", "Display system information.", .general, .plain .neofetch⟩,
  ⟨"ls", "ls [path]", "List files and directories.", .files, .file .ls⟩,
  ⟨"cd", "cd [path]", "Change directory (e.g., `cd projects`, `cd ..`).", .files, .file .cd⟩,
  ⟨"cat", "cat [file]", "Display file content.", .files, .file .cat⟩,
  ⟨"pwd", "pwd", "Print name of current/working directory.", .files, .file .pwd⟩,
  ⟨"tutorial", "tutorial", "Start an interactive tutorial.", .general, .plain .tutorial⟩,
  ⟨"grep", "grep [pattern] [file]", "Search for a pattern in a file.", .files, .file .grep⟩,
  ⟨"pacman", "pacman", "Play a game of Pac-Man.", .general, .plain .pacman⟩,
  ⟨"vim", "vim [file]", "Open a file in a simulated Vim editor.", .files, .file .vim⟩]

/-- The registry of a new session. -/
def builtin : Registry := builtins.foldl register empty

end Registry

end PortfolioShell
