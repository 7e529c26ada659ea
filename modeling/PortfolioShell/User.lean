import PortfolioShell.Text.Words

/-!
# Users

A user is known by an account number and an e-mail address.
-/
namespace PortfolioShell

/-- A signed-in account. -/
structure User where
  id : Nat
  email : String
deriving DecidableEq, Repr

/-- The name shown in the prompt: the address up to its first `@`. -/
def User.displayName (user : User) : String :=
  String.ofList (user.email.toList.takeWhile (· != '@'))

/-- The name shown while nobody is signed in. -/
def guestName : String := "guest"

/-- The name of whoever is signed in. -/
def nameOf (user : Option User) : String := (user.map User.displayName).getD guestName

/-- The host part of the prompt. -/
def hostName : String := "portfolio"

end PortfolioShell
