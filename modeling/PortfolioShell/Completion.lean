import PortfolioShell.Command.Execute

/-!
# Completion

The word that is being typed is a command name, a subcommand of `post`, a path or a slug. One
candidate completes the word and adds what ends it. Several extend the word to what they begin
with in common, if that is longer than what was typed, and are listed otherwise; command names
are always listed.
-/
namespace PortfolioShell

/-- A new input line, or candidates to list, or nothing. -/
structure Completion where
  input : Option String
  suggestions : List String
deriving DecidableEq, Repr

namespace Completion

/-- Nothing to complete. -/
def nothing : Completion := ⟨none, []⟩

/-- Replaces the input line. -/
def replacing (line : String) : Completion := ⟨some line, []⟩

/-- Lists candidates. -/
def listing (candidates : List String) : Completion := ⟨none, candidates⟩

/-- Whether there is nothing to apply. -/
def isEmpty (completion : Completion) : Bool :=
  completion.input.isNone && completion.suggestions.isEmpty

/-- Texts in the order of their code points. -/
def sorted (texts : List String) : List String := texts.mergeSort fun a b => !decide (b < a)

/-- The longest text that two texts begin with. -/
def sharedStart : List Char → List Char → List Char
  | a :: as, b :: bs => if a = b then a :: sharedStart as bs else []
  | _, _ => []

/-- What the first and the last of sorted texts begin with, and so all between them. -/
def commonStart (texts : List String) : String :=
  match texts.head?, texts.getLast? with
  | some first, some last => String.ofList (sharedStart first.toList last.toList)
  | _, _ => ""

/-- Completes a word from its candidates. `before` is the line up to the word, `ending` what ends
the word once it is complete. -/
def ofCandidates (before typed : String) (candidates : List String) (ending : String → String) :
    Completion :=
  match candidates with
  | [] => nothing
  | [only] => replacing (before ++ only ++ ending only)
  | several =>
    let common := commonStart (sorted several)
    if typed.length < common.length then replacing (before ++ common)
    else listing (sorted several)

/-- Completes the name of a command. -/
def ofCommand (registry : Registry) (word : String) : Completion :=
  match registry.namesBeginning word with
  | [] => nothing
  | [only] => replacing (only ++ " ")
  | several => listing (sorted several)

/-- Completes a subcommand. -/
def ofSubcommand (command word : String) : Completion :=
  ofCandidates (command ++ " ") word (Blog.subcommands.filter (Text.beginsWith word)) fun _ => " "

/-- What ends the name of a child: a slash after a directory, a blank after a file. -/
def childEnding (children : List (String × Node)) (name : String) : String :=
  match Node.child? children name with
  | some (.directory _) => "/"
  | _ => " "

/-- Completes a path by the children of the directory it has come to. -/
def ofPath (earlier : List String) (word cwd : String) (tree : Tree) : Completion :=
  let (dir, name) := Path.cutLast word
  match tree.node? (if dir.isEmpty then "." else dir) cwd with
  | some (.directory children) =>
    ofCandidates (Text.join " " earlier ++ " " ++ dir) name
      ((children.map (·.1)).filter (Text.beginsWith name)) (childEnding children)
  | _ => nothing

/-- The subcommands whose slug is for users only. -/
def privateSubcommands : List String := ["edit", "publish", "tag", "untag"]

/-- Completes a slug. Guests see published slugs, and those only after `show`; a failed search
completes nothing. -/
def ofSlug {σ : Type} [Backend σ] (sub word : String) : StateM σ Completion :=
  if sub ≠ "show" ∧ ¬ privateSubcommands.contains sub then pure nothing
  else do
    let signedIn := (← Backend.currentUser).isSome
    if sub ≠ "show" ∧ ¬ signedIn then pure nothing
    else
      match ← Backend.searchSlugs word with
      | .error _ => pure nothing
      | .ok hits =>
        let shown := hits.filter fun hit => hit.isPublished || signedIn
        pure (ofCandidates s!"post {sub} " word (shown.map (·.slug)) fun _ => " ")

/-- What the word that is being typed is. -/
inductive Kind where
  | command
  | subcommand
  | path
  | slug
  | other
deriving DecidableEq, Repr

/-- The commands whose arguments are paths. -/
def pathCommands : List String := ["cd", "ls", "cat", "vim"]

/-- The kind of the last of the words of a line. -/
def kindOf (words : List String) : Kind :=
  let command := words.headD ""
  if words.length ≤ 1 then .command
  else if words.length = 2 ∧ command = "post" then .subcommand
  else if pathCommands.contains command ∨ (command = "grep" ∧ 3 ≤ words.length) then .path
  else if words.length = 3 ∧ command = "post" then .slug
  else .other

end Completion

/-- Completes an unfinished line that is typed in a directory. -/
def complete {σ : Type} [Backend σ] (line cwd : String) (setting : Setting) :
    StateM σ Completion :=
  let words := partialWords line
  let word := words.getLast?.getD ""
  match Completion.kindOf words with
  | .command => pure (.ofCommand setting.registry word)
  | .subcommand => pure (.ofSubcommand (words.headD "") word)
  | .path => pure (.ofPath words.dropLast word cwd setting.tree)
  | .slug => Completion.ofSlug (words[1]?.getD "") word
  | .other => pure .nothing

end PortfolioShell
