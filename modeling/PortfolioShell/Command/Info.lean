import PortfolioShell.Art
import PortfolioShell.Backend.Basic
import PortfolioShell.Command.Output
import PortfolioShell.Command.Setting
import PortfolioShell.Time.Format

/-!
# Information commands

Help, the banner, the owner, the clock, themes and the machine.
-/
namespace PortfolioShell.Info

/-- Usage and summary of the commands that a part of the help lists. -/
def helpRows (registry : Registry) (part : Section) : List (String × String) :=
  (registry.listed part).map fun spec => (spec.usage, spec.summary)

/-- Every registered command, those on files in a part of their own. -/
def help (registry : Registry) : Output :=
  .rich [.text "Available commands:", .pairs (helpRows registry .general) " - ",
    .heading "File System Commands:", .pairs (helpRows registry .files) " - "]

/-- The banner of a site, shown when a session starts. -/
def banner (site : Site) : Rich :=
  [.ascii Art.banner,
    .heading "Welcome to my interactive portfolio! Type 'help' to see available commands.",
    .text s!"GitHub: {site.owner.github}  |  Explore the site: /blog"]

/-- The text about the owner. -/
def about {σ : Type} [Backend σ] : StateM σ Output := do
  match ← Backend.about with
  | .ok text => pure (.text text)
  | .error e => pure (.text s!"Error fetching about: {e.message}")

/-- The local time. -/
def date (host : Host) : Output := .text host.now.longText

/-- Chooses a theme by its name. -/
def theme : List String → Output
  | [] => .text s!"Usage: theme <theme_name>\nAvailable themes: {Theme.offered}"
  | name :: _ =>
    match Theme.ofName? name with
    | some theme => .directive (.setTheme theme)
    | none => .text (Theme.unknownMessage name)

/-- Where to find the guestbook. -/
def guestbook : Output :=
  .rich [.text "You can view and sign the guestbook on the website.",
    .text "Navigate to /guestbook to see it."]

/-- The machine, as seen by whoever is signed in. -/
def neofetch {σ : Type} [Backend σ] (host : Host) : StateM σ Output := do
  let user ← Backend.currentUser
  pure (.rich [.ascii Art.penguin, .success s!"{nameOf user}@{hostName}", .text "------------------",
    .pairs [("OS", host.os), ("Kernel", "Rust"), ("Shell", "foliosh"),
      ("Uptime", "since you arrived"), ("CPU", host.cpu), ("Memory", "1024MB")] ": "])

end PortfolioShell.Info
