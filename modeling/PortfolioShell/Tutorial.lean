import PortfolioShell.Command.Execute

/-!
# The tutorial

A fixed sequence of steps. Each step looks at the submitted command, its arguments and the working
directory, and nothing else; what it accepts leads to the next step, and after the last one the
tutorial is over.
-/
namespace PortfolioShell.Tutorial

/-- A step: what to do, which commands do it in a directory of a tree, and what is said then. -/
structure Step where
  instructions : List String
  accepts : Invocation → String → Tree → Bool
  praise : List String
  hint : String

/-- Whether a command prints a file that exists. -/
def namesFile (inv : Invocation) (cwd : String) (tree : Tree) : Bool :=
  inv.name == "cat" &&
    match inv.args with
    | [] => false
    | path :: _ =>
      match tree.node? path cwd with
      | some (.file _) => true
      | _ => false

/-- Whether a command goes one level up or to the root. -/
def goesHome (inv : Invocation) (_cwd : String) (_tree : Tree) : Bool :=
  inv.name == "cd" &&
    match inv.args with
    | [] => false
    | path :: _ => path == ".." || path == "/home" || path == "/"

/-- The steps in order. -/
def steps : List Step := [
  { instructions := [
      "Welcome to the interactive terminal tutorial!",
      "Let's learn some basic commands. You can type `exit` at any time to leave the " ++
        "tutorial.",
      "First, let's find out where we are. Type `pwd` and press Enter."]
    accepts := fun inv _ _ => inv.name == "pwd"
    praise := [
      "`pwd` stands for 'Print Working Directory'. It shows you your current location in the " ++
        "file system."]
    hint := "Type `pwd` to see your current directory." },
  { instructions := [
      "Great! Now, let's see what's in this directory. Type `ls` to list the contents."]
    accepts := fun inv _ _ => inv.name == "ls"
    praise := [
      "See? `ls` lists all files and directories. Directories are shown in blue."]
    hint := "Type `ls` to list files and directories." },
  { instructions := [
      "Let's navigate into the `projects` directory. Use the `cd` command, which stands for " ++
        "'Change Directory'. Type `cd projects`."]
    accepts := fun inv _ _ => inv.name == "cd" && inv.args.head? == some "projects"
    praise := [
      "You've moved into the `projects` directory! Your prompt has updated to show your new " ++
        "location."]
    hint := "Type `cd projects` to enter the projects directory." },
  { instructions := [
      "Now that you're in a new directory, let's see what's here. Use `ls` again."]
    accepts := fun inv _ _ => inv.name == "ls"
    praise := [
      "These are my project files. Let's inspect one."]
    hint := "Type `ls` to see the files in the current directory." },
  { instructions := [
      "To view the contents of a file, use the `cat` command. Try it on one of the files, " ++
        "for example: `cat project-alpha.txt`"]
    accepts := namesFile
    praise := [
      "`cat` displays the content of a file. Pretty handy!"]
    hint := "Type `cat` followed by a file name, like `cat project-alpha.txt`." },
  { instructions := [
      "Awesome. To go back to the home directory, you can type `cd ..`. The `..` means 'one " ++
        "level up'. Try it."]
    accepts := goesHome
    praise := [
      "You're back in the home directory (`/`)."]
    hint := "Type `cd ..` to go up one directory level." },
  { instructions := [
      "Let's learn a powerful command: `grep`. It's for searching text. I've added a " ++
        "`quotes.txt` file. Find the quote with the word 'love' by typing: `grep love " ++
        "quotes.txt`"]
    accepts := fun inv _ _ => inv.name == "grep" && inv.args.take 2 == ["love", "quotes.txt"]
    praise := [
      "Nice! `grep` found the line containing 'love' and highlighted it.",
      "In a real terminal, you could also \"pipe\" command outputs. For example: `cat " ++
        "quotes.txt | grep love`. This is a very powerful concept!"]
    hint := "Type `grep love quotes.txt`" }]

/-- What a command does to the tutorial. -/
inductive Advance where
  | exit
  | rejected
  | accepted (next : Option Nat)
deriving DecidableEq, Repr

/-- The step after a step, if there is one. -/
def following (step : Nat) : Option Nat := if step + 1 < steps.length then some (step + 1) else none

/-- What a command does at a step. A bare `exit` leaves at any step; a step beyond the last is
over with anything. -/
def advance (step : Nat) (inv : Invocation) (cwd : String) (tree : Tree) : Advance :=
  if inv.name = "exit" ∧ inv.args = [] then .exit
  else match steps[step]? with
    | none => .accepted none
    | some current => if current.accepts inv cwd tree then .accepted (following step) else .rejected

/-- The instructions of a step. -/
def instructions (step : Nat) : Rich :=
  ((steps[step]?.map (·.instructions)).getD []).map Block.text

/-- What is said at the end. -/
def closing : Rich :=
  [.heading "Congratulations! You've completed the tutorial.",
    .text "You can now explore on your own. Type `help` to see all commands."]

/-- The praise of a step, then what comes next. -/
def acceptance (step : Nat) (next : Option Nat) : Rich :=
  ((steps[step]?.map (·.praise)).getD []).map Block.success ++
    match next with
    | some next => instructions next
    | none => closing

/-- What is said about a command that a step does not accept. -/
def hint (step : Nat) : String :=
  "That's not quite right. Hint: " ++ (steps[step]?.map (·.hint)).getD ""

end PortfolioShell.Tutorial
