import PortfolioShell.Art
import PortfolioShell.Backend.Basic
import PortfolioShell.Backend.Faulty
import PortfolioShell.Backend.Store
import PortfolioShell.Block
import PortfolioShell.Command.Account
import PortfolioShell.Command.Blog
import PortfolioShell.Command.Execute
import PortfolioShell.Command.Files
import PortfolioShell.Command.Info
import PortfolioShell.Command.Output
import PortfolioShell.Command.Registry
import PortfolioShell.Command.Setting
import PortfolioShell.Completion
import PortfolioShell.History
import PortfolioShell.Json.Reader
import PortfolioShell.Json.Record
import PortfolioShell.Json.Value
import PortfolioShell.Line
import PortfolioShell.Main
import PortfolioShell.Path
import PortfolioShell.Post.Basic
import PortfolioShell.Post.Document
import PortfolioShell.Program.Arguments
import PortfolioShell.Program.Basic
import PortfolioShell.Program.Input
import PortfolioShell.Program.Storage
import PortfolioShell.Proofs.Accounts
import PortfolioShell.Proofs.Administrators
import PortfolioShell.Proofs.Browsing
import PortfolioShell.Proofs.Choices
import PortfolioShell.Proofs.CommonStarts
import PortfolioShell.Proofs.Completions
import PortfolioShell.Proofs.Compositions
import PortfolioShell.Proofs.Courses
import PortfolioShell.Proofs.Demands
import PortfolioShell.Proofs.Drafts
import PortfolioShell.Proofs.Editors
import PortfolioShell.Proofs.Enumerations
import PortfolioShell.Proofs.Evictions
import PortfolioShell.Proofs.Extensions
import PortfolioShell.Proofs.Failures
import PortfolioShell.Proofs.FileNames
import PortfolioShell.Proofs.Filings
import PortfolioShell.Proofs.Frames
import PortfolioShell.Proofs.Guests
import PortfolioShell.Proofs.Integrity
import PortfolioShell.Proofs.Lessons
import PortfolioShell.Proofs.LetterCases
import PortfolioShell.Proofs.Listings
import PortfolioShell.Proofs.Literals
import PortfolioShell.Proofs.Lookalikes
import PortfolioShell.Proofs.Loops
import PortfolioShell.Proofs.Modes
import PortfolioShell.Proofs.Occurrences
import PortfolioShell.Proofs.PasswordSizes
import PortfolioShell.Proofs.Passwords
import PortfolioShell.Proofs.PathCompletions
import PortfolioShell.Proofs.Paths
import PortfolioShell.Proofs.Pieces
import PortfolioShell.Proofs.Placements
import PortfolioShell.Proofs.PlainLines
import PortfolioShell.Proofs.PostLifecycle
import PortfolioShell.Proofs.Posts
import PortfolioShell.Proofs.Programs
import PortfolioShell.Proofs.Prompts
import PortfolioShell.Proofs.RecentLines
import PortfolioShell.Proofs.Recording
import PortfolioShell.Proofs.Registrations
import PortfolioShell.Proofs.Requests
import PortfolioShell.Proofs.Resolutions
import PortfolioShell.Proofs.Screens
import PortfolioShell.Proofs.Scrollback
import PortfolioShell.Proofs.Searches
import PortfolioShell.Proofs.Sessions
import PortfolioShell.Proofs.Slugs
import PortfolioShell.Proofs.Steps
import PortfolioShell.Proofs.StoredThemes
import PortfolioShell.Proofs.Suggestions
import PortfolioShell.Proofs.Surfaces
import PortfolioShell.Proofs.Tags
import PortfolioShell.Proofs.Tokens
import PortfolioShell.Proofs.Trees
import PortfolioShell.Proofs.UnfinishedLines
import PortfolioShell.Proofs.Visits
import PortfolioShell.Proofs.Windows
import PortfolioShell.Proofs.WorkingDirectory
import PortfolioShell.Queue
import PortfolioShell.Ring
import PortfolioShell.Screen.Basic
import PortfolioShell.Screen.LineEditor
import PortfolioShell.Screen.Palette
import PortfolioShell.Screen.Programs
import PortfolioShell.Screen.Render
import PortfolioShell.Session
import PortfolioShell.Site.Basic
import PortfolioShell.Site.Builtin
import PortfolioShell.Site.Document
import PortfolioShell.Slug
import PortfolioShell.Text.CaseTable
import PortfolioShell.Text.CharRange
import PortfolioShell.Text.Cluster
import PortfolioShell.Text.ClusterTable
import PortfolioShell.Text.CombiningTable
import PortfolioShell.Text.Decomposition
import PortfolioShell.Text.Decomposition.Ideographs
import PortfolioShell.Text.Decomposition.IdeographsSupplement
import PortfolioShell.Text.Decomposition.Letters
import PortfolioShell.Text.Decomposition.Presentation
import PortfolioShell.Text.Decomposition.Run
import PortfolioShell.Text.Decomposition.Supplement
import PortfolioShell.Text.Decomposition.Symbols
import PortfolioShell.Text.Lowercase
import PortfolioShell.Text.MarkTable
import PortfolioShell.Text.Matcher
import PortfolioShell.Text.Matcher.Literal
import PortfolioShell.Text.Normalizer
import PortfolioShell.Text.Search
import PortfolioShell.Text.Words
import PortfolioShell.Theme
import PortfolioShell.Time.Civil
import PortfolioShell.Time.Format
import PortfolioShell.Time.Instant
import PortfolioShell.Time.Reading
import PortfolioShell.Tree
import PortfolioShell.Tutorial
import PortfolioShell.User
