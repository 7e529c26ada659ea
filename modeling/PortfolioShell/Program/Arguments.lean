import PortfolioShell.Theme

/-!
# Arguments

The options of the program. An option that takes a value takes it after an equals sign or as the
next argument, which must not look like an option itself. Reading goes from left to right: the
first fault refuses the whole, unless help or the version was asked for before it.
-/
namespace PortfolioShell

/-- An account to begin with. -/
structure Credentials where
  email : String
  password : String
deriving DecidableEq, Repr

/-- An address and a password with a colon between them, neither empty. The password may hold
colons. -/
def Credentials.ofText? (text : String) : Option Credentials :=
  let email := text.toList.takeWhile (· != ':')
  match text.toList.drop email.length with
  | _ :: password =>
    if email.isEmpty || password.isEmpty then none
    else some ⟨String.ofList email, String.ofList password⟩
  | [] => none

/-- What the options say. -/
structure Options where
  site : Option String
  theme : Option Theme
  debug : Bool
  admins : List Credentials
  users : List Credentials
deriving DecidableEq, Repr

/-- What the arguments ask for. -/
inductive Request where
  | version
  | help
  | run (options : Options)
deriving DecidableEq, Repr

namespace Options

/-- No options. -/
def empty : Options := ⟨none, none, false, [], []⟩

/-- Sets an option that takes a value. The site and the theme can be set once. -/
def set? (options : Options) (name value : String) : Option Options :=
  match name with
  | "site" =>
    if options.site.isSome || value.isEmpty then none else some { options with site := some value }
  | "theme" =>
    if options.theme.isSome then none
    else (Theme.ofName? value).map fun theme => { options with theme := some theme }
  | "admin" =>
    (Credentials.ofText? value).map fun c => { options with admins := options.admins ++ [c] }
  | "user" =>
    (Credentials.ofText? value).map fun c => { options with users := options.users ++ [c] }
  | _ => none

/-- The options that take a value. -/
def valued : List String := ["site", "theme", "admin", "user"]

end Options

namespace Request

/-- Whether an argument cannot be the value of the option before it. A lone hyphen can. -/
def looksLikeOption (arg : String) : Bool := Text.beginsWith "-" arg && arg != "-"

/-- The name and the value of an option that is written with two hyphens, if it is. -/
def longOption? (arg : String) : Option (String × Option String) :=
  match arg.toList with
  | '-' :: '-' :: rest =>
    let name := rest.takeWhile (· != '=')
    let value := match rest.drop name.length with
      | _ :: value => some (String.ofList value)
      | [] => none
    some (String.ofList name, value)
  | _ => none

/-- The options that take no value. -/
def flag? (options : Options) (name : String) : Option (Request ⊕ Options) :=
  match name with
  | "version" => some (.inl .version)
  | "help" => some (.inl .help)
  | "debug" => if options.debug then none else some (.inr { options with debug := true })
  | _ => none

/-- What letters behind one hyphen ask for. -/
def short? (arg : String) : Option Request :=
  match arg.toList with
  | '-' :: 'V' :: _ => some .version
  | '-' :: 'h' :: _ => some .help
  | _ => none

/-- Reads the arguments after those that gave `options`. Nothing may follow two hyphens alone. -/
def readFrom (options : Options) : List String → Option Request
  | [] => some (.run options)
  | arg :: rest =>
    match longOption? arg with
    | none => short? arg
    | some ("", none) => if rest.isEmpty then some (.run options) else none
    | some (name, some value) => (options.set? name value).bind (readFrom · rest)
    | some (name, none) =>
      if Options.valued.contains name then
        match rest with
        | value :: rest =>
          if looksLikeOption value then none else (options.set? name value).bind (readFrom · rest)
        | [] => none
      else match flag? options name with
        | some (.inl request) => some request
        | some (.inr options) => readFrom options rest
        | none => none

/-- What the arguments ask for, if they are all right. -/
def ofArguments? (args : List String) : Option Request := readFrom .empty args

end Request

end PortfolioShell
