import PortfolioShell.Backend.Basic
import PortfolioShell.Command.Output

/-!
# Account commands

Signing up, in and out. A login or signup is finished by the session once it has the password.
-/
namespace PortfolioShell.Account

/-- Asks for the password of an address. -/
def requestPassword (kind : AuthKind) (usage : String) : List String → Output
  | [] => .text usage
  | email :: _ => .directive (.requestPassword ⟨kind, email⟩)

/-- Registers an address. -/
def signup : List String → Output := requestPassword .signup "Usage: signup <email>"

/-- Signs in with an address. -/
def login : List String → Output := requestPassword .login "Usage: login <email>"

/-- Ends the session. -/
def logout {σ : Type} [Backend σ] : StateM σ Output := do
  match ← Backend.signOut with
  | .ok () => pure (.text "Logged out successfully.")
  | .error e => pure (.text s!"Logout failed: {e.message}")

/-- The address of whoever is signed in. -/
def whoami {σ : Type} [Backend σ] : StateM σ Output := do
  let user ← Backend.currentUser
  pure (.text ((user.map (·.email)).getD guestName))

/-- Finishes a login or signup with a password and tells how it went. -/
def finish {σ : Type} [Backend σ] (action : AuthAction) (password : String) : StateM σ String :=
  match action.kind with
  | .login => do
    match ← Backend.signIn action.email password with
    | .ok user => pure s!"Logged in as {user.email}"
    | .error e => pure s!"Login failed: {e.message}"
  | .signup => do
    match ← Backend.signUp action.email password with
    | .ok () =>
      pure "Signup successful! Please check your email for a confirmation link."
    | .error e => pure s!"Signup failed: {e.message}"

end PortfolioShell.Account
