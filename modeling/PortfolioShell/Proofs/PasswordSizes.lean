import PortfolioShell.Proofs.Accounts
import PortfolioShell.Proofs.Failures
import PortfolioShell.Proofs.Frames
import PortfolioShell.Proofs.LetterCases
import PortfolioShell.Proofs.Passwords

/-!
# How long passwords are

A sign-up that is refused for its password is told that six characters are needed, and a password is
shown as one star for each of its characters. The store counts bytes. So no password of six
characters is refused, but two characters can be enough. A store that is asked through a session and
by others at once takes accounts on only where somebody signs up, and all of them have passwords of
six characters exactly if nobody signs up with a password that has six bytes and fewer characters.
-/
namespace PortfolioShell

/-! ### Characters and bytes -/

namespace Text

theorem length_le_utf8ByteSize (text : String) : text.length ≤ text.utf8ByteSize := by
  induction text using String.push_induction with
  | empty => exact Nat.le_refl 0
  | push text c ih =>
    have := c.utf8Size_pos
    rw [String.length_push, String.utf8ByteSize_push]
    omega

theorem utf8ByteSize_le (text : String) : text.utf8ByteSize ≤ 4 * text.length := by
  induction text using String.push_induction with
  | empty => exact Nat.le_refl 0
  | push text c ih =>
    have := c.utf8Size_le_four
    rw [String.length_push, String.utf8ByteSize_push]
    omega

/-- In ASCII both are the same. -/
theorem utf8ByteSize_of_ascii {text : String} (h : IsAscii text.toList) :
    text.utf8ByteSize = text.length := by
  induction text using String.push_induction with
  | empty => rfl
  | push text c ih =>
    rw [String.toList_push] at h
    have before := ih fun d hd => h d (List.mem_append_left _ hd)
    have last : c.toNat < 128 := h c (by simp)
    have one : c.utf8Size = 1 := by
      refine Char.utf8Size_eq_one_iff.mpr (UInt32.le_iff_toNat_le.mpr ?_)
      exact Nat.le_of_lt_succ last
    rw [String.length_push, String.utf8ByteSize_push, before, one]

end Text

namespace Store

variable {store next : Store} {request : Request} {email password : String}

/-- The number of characters that a refusal speaks of. -/
def promisedLength : Nat := 6

/-- A password that has the bytes and not the characters. -/
def SlipsThrough (password : String) : Prop :=
  password.length < promisedLength ∧ leastPasswordSize ≤ password.utf8ByteSize

/-! ### Signing up -/

/-- Nobody is told that the password is short unless it has too few bytes. -/
theorem signUp_eq_short_iff : (signUp email password store).1 = .error shortPassword ↔
    store.IsFree email ∧ password.utf8ByteSize < leastPasswordSize := by
  constructor
  · intro refused
    by_cases free : store.IsFree email
    · refine ⟨free, Nat.lt_of_not_le fun long => ?_⟩
      rw [signUp_of_long free long] at refused
      cases refused
    · obtain ⟨error, other, told⟩ := signUp_of_taken free password
      rw [told] at refused
      exact absurd (Except.error.inj refused) other
  · rintro ⟨free, short⟩
    rw [signUp_of_short free short]

/-- The account that a sign-up adds, if it adds one. -/
def registered (store : Store) (email password : String) : List Account :=
  if store.IsFree email ∧ leastPasswordSize ≤ password.utf8ByteSize then
    [⟨store.accounts.length + 1, email, password, false⟩]
  else []

theorem accounts_signUp (store : Store) (email password : String) :
    (signUp email password store).2.accounts =
      store.accounts ++ store.registered email password := by
  by_cases free : store.IsFree email
  · by_cases long : leastPasswordSize ≤ password.utf8ByteSize
    · rw [signUp_of_long free long, registered, if_pos ⟨free, long⟩]
      rfl
    · rw [signUp_of_short free (Nat.lt_of_not_le long), registered, if_neg fun h => long h.2]
      simp
  · obtain ⟨error, _, refused⟩ := signUp_of_taken free password
    rw [refused, registered, if_neg fun h => free h.1]
    simp

/-! ### Everything else -/

/-- The address and the password that a request signs up with. -/
def Request.signUp? : Request → Option (String × String)
  | .signUp email password => some (email, password)
  | _ => none

theorem Evolves.accounts_of_quiet (evolves : Evolves store request next)
    (quiet : request.signUp? = none) : next.accounts = store.accounts := by
  cases evolves with
  | signedUp free long => cases quiet
  | _ => rfl

theorem accounts_perform (store : Store) (request : Request) :
    (store.perform request).accounts = store.accounts ++
      (request.signUp?.map fun (email, password) => store.registered email password).getD [] := by
  cases asked : request.signUp? with
  | none =>
    rw [(store.evolves_perform request).accounts_of_quiet asked]
    exact (List.append_nil _).symm
  | some call =>
    cases request with
    | signUp email password =>
      cases asked
      exact store.accounts_signUp email password
    | _ => cases asked

/-- Nothing but a sign-up touches the accounts. -/
theorem isFrame_accounts : IsFrame fun store next : Store => next.accounts = store.accounts where
  refl _ := rfl
  trans first second := second.trans first
  currentUser _ := rfl
  signOut store := (store.evolves_perform .signOut).accounts_of_quiet rfl
  about store := (store.evolves_perform .about).accounts_of_quiet rfl
  publishedPosts store := (store.evolves_perform .publishedPosts).accounts_of_quiet rfl
  allPosts store := (store.evolves_perform .allPosts).accounts_of_quiet rfl
  findPost slug store := (store.evolves_perform (.findPost slug)).accounts_of_quiet rfl
  createPost draft store := (store.evolves_perform (.createPost draft)).accounts_of_quiet rfl
  publishPost slug store := (store.evolves_perform (.publishPost slug)).accounts_of_quiet rfl
  updateContent id content store :=
    (store.evolves_perform (.updateContent id content)).accounts_of_quiet rfl
  tagPost slug tags store := (store.evolves_perform (.tagPost slug tags)).accounts_of_quiet rfl
  untagPost slug tags store := (store.evolves_perform (.untagPost slug tags)).accounts_of_quiet rfl
  searchSlugs start store := (store.evolves_perform (.searchSlugs start)).accounts_of_quiet rfl

end Store

namespace Session

open Store

/-- Something happens to a session, or somebody else asks its store for something. -/
inductive Turn where
  | event (event : Event)
  | request (request : Store.Request)

/-- The session after a turn. -/
def turn (s : Session Store) : Turn → Session Store
  | .event event => s.step event
  | .request request => s.withBackend (s.backend.perform request)

/-- The session after turns in order. -/
def turns (s : Session Store) (run : List Turn) : Session Store := run.foldl turn s

/-- The address and the password that a turn signs up with. -/
def signUp? (s : Session Store) : Turn → Option (String × String)
  | .event event =>
    match s.submittedPassword? event with
    | some (⟨.signup, email⟩, password) => some (email, password)
    | _ => none
  | .request request => request.signUp?

/-- The account that a turn adds, if it adds one. -/
def registered (s : Session Store) (t : Turn) : List Account :=
  ((s.signUp? t).map fun (email, password) => s.backend.registered email password).getD []

/-- Somebody signs up with a password that has the bytes and not the characters. -/
def LetsShortIn (s : Session Store) (t : Turn) : Prop :=
  ∃ email password, s.signUp? t = some (email, password) ∧ s.backend.IsFree email ∧
    SlipsThrough password

/-! ### Turns -/

theorem finish_state (action : AuthAction) (password : String) (store : Store) :
    (Account.finish action password store).2 =
      match action.kind with
      | .login => (signIn action.email password store).2
      | .signup => (Store.signUp action.email password store).2 := by
  obtain ⟨kind, email⟩ := action
  cases kind with
  | login =>
    simp only [Account.finish, bind_apply]
    cases (Backend.signIn email password store).1 <;> rfl
  | signup =>
    simp only [Account.finish, bind_apply]
    cases (Backend.signUp email password store).1 <;> rfl

theorem accounts_turn (s : Session Store) (t : Turn) :
    (s.turn t).backend.accounts = s.backend.accounts ++ s.registered t := by
  cases t with
  | request request => exact s.backend.accounts_perform request
  | event event =>
    rw [registered, signUp?]
    -- Events are within the frame, but for the one call that a submitted password makes.
    cases handed : s.submittedPassword? event with
    | none =>
      have same := along_step isFrame_accounts handed
      simpa [turn] using same
    | some call =>
      obtain ⟨⟨kind, email⟩, password⟩ := call
      have after := along_step_of_password isFrame_accounts handed
      rw [finish_state] at after
      cases kind with
      | login =>
        have same := (s.backend.evolves_signIn email password).accounts_of_quiet rfl
        simpa [turn] using after.trans same
      | signup => exact after.trans (s.backend.accounts_signUp email password)

theorem mem_registered {s : Session Store} {t : Turn} {account : Account}
    (added : account ∈ s.registered t) :
    s.signUp? t = some (account.email, account.password) ∧ s.backend.IsFree account.email ∧
      leastPasswordSize ≤ account.password.utf8ByteSize := by
  unfold registered at added
  cases asked : s.signUp? t with
  | none => simp [asked] at added
  | some call =>
    obtain ⟨email, password⟩ := call
    simp only [asked, Option.map_some, Option.getD_some, Store.registered] at added
    split at added
    · rename_i accepted
      obtain rfl := List.mem_singleton.mp added
      exact ⟨rfl, accepted⟩
    · cases added

theorem exists_registered {s : Session Store} {t : Turn} {email password : String}
    (asked : s.signUp? t = some (email, password)) (free : s.backend.IsFree email)
    (long : leastPasswordSize ≤ password.utf8ByteSize) :
    ∃ account ∈ s.registered t, account.password = password := by
  refine ⟨⟨s.backend.accounts.length + 1, email, password, false⟩, ?_, rfl⟩
  simp [registered, asked, Store.registered, free, long]

/-! ### Runs -/

/-- The accounts that are added in a run. -/
def registrations (s : Session Store) : List Turn → List Account
  | [] => []
  | t :: rest => s.registered t ++ (s.turn t).registrations rest

theorem accounts_turns (s : Session Store) (run : List Turn) :
    (s.turns run).backend.accounts = s.backend.accounts ++ s.registrations run := by
  induction run generalizing s with
  | nil => exact (List.append_nil _).symm
  | cons t rest ih =>
    have onwards : s.turns (t :: rest) = (s.turn t).turns rest := rfl
    rw [onwards, ih, accounts_turn, registrations, List.append_assoc]

/-- Every account comes in at some turn. -/
theorem mem_registrations {s : Session Store} {run : List Turn} {account : Account} :
    account ∈ s.registrations run ↔
      ∃ past t, past ++ [t] <+: run ∧ account ∈ (s.turns past).registered t := by
  induction run generalizing s with
  | nil => simp [registrations]
  | cons first rest ih =>
    rw [registrations, List.mem_append, ih]
    constructor
    · rintro (now | ⟨past, t, upTo, later⟩)
      · exact ⟨[], first, by simp, now⟩
      · exact ⟨first :: past, t, by simpa using upTo, later⟩
    · rintro ⟨past, t, upTo, added⟩
      cases past with
      | nil =>
        obtain rfl : t = first := by simpa using upTo
        exact Or.inl added
      | cons turn past =>
        obtain ⟨rfl, within⟩ := List.cons_prefix_cons.mp upTo
        exact Or.inr ⟨past, t, within, added⟩

/-- What comes in has six bytes, which are two characters at least. -/
theorem sizes_of_mem_registrations {s : Session Store} {run : List Turn} {account : Account}
    (added : account ∈ s.registrations run) :
    leastPasswordSize ≤ account.password.utf8ByteSize ∧ 2 ≤ account.password.length ∧
      (Text.IsAscii account.password.toList → promisedLength ≤ account.password.length) := by
  obtain ⟨past, t, _, now⟩ := mem_registrations.mp added
  have bytes : 6 ≤ account.password.utf8ByteSize := (mem_registered now).2.2
  have := Text.utf8ByteSize_le account.password
  refine ⟨bytes, by omega, fun ascii => ?_⟩
  rw [Text.utf8ByteSize_of_ascii ascii] at bytes
  exact bytes

/-- The promise is kept exactly as long as nobody is let in with fewer characters. -/
theorem promise_kept_iff (s : Session Store) (run : List Turn) :
    (∀ account ∈ s.registrations run, promisedLength ≤ account.password.length) ↔
      ∀ past t, past ++ [t] <+: run → ¬ (s.turns past).LetsShortIn t := by
  constructor
  · rintro kept past t upTo ⟨email, password, asked, free, short, bytes⟩
    obtain ⟨account, added, rfl⟩ := exists_registered asked free bytes
    have := kept account (mem_registrations.mpr ⟨past, t, upTo, added⟩)
    omega
  · intro none account mem
    obtain ⟨past, t, upTo, added⟩ := mem_registrations.mp mem
    obtain ⟨asked, free, bytes⟩ := mem_registered added
    refine Nat.le_of_not_lt fun short => none past t upTo ?_
    exact ⟨account.email, account.password, asked, free, short, bytes⟩

/-! ### Signing up in a session -/

/-- The session that has shown a password as stars and what was said to it, over a store. -/
def signing (s : Session Store) (password text : String) (store : Store) : Session Store :=
  { (s.withBackend store).answered (.prompt passwordPrompt (mask password)) text
      s.history.reset with mode := .normal }

theorem length_mask (password : String) : (mask password).length = password.length := by
  simp [mask]

theorem step_of_finish {s : Session Store} {event : Event} {action : AuthAction}
    {password text : String} {store : Store}
    (handed : s.submittedPassword? event = some (action, password))
    (told : Account.finish action password s.backend = (text, store)) :
    s.step event = s.signing password text store := by
  obtain ⟨pending, submits⟩ := submittedPassword?_eq_some.mp handed
  have cleared : Account.finish action password (s.setInput "").backend = (text, store) := told
  rw [step_of_submitted submits, submitLine_password pending, submitPassword_told, cleared]
  rfl

section
variable {store : Store} {email password : String} (free : store.IsFree email)
include free

theorem finish_of_long (long : leastPasswordSize ≤ password.utf8ByteSize) :
    Account.finish ⟨.signup, email⟩ password store =
      ("Signup successful! Please check your email for a confirmation link.",
        store.addAccount email password false) := by
  have accepted : Backend.signUp email password store = _ := signUp_of_long free long
  simp only [Account.finish, bind_apply, accepted]
  rfl

theorem finish_of_short (short : password.utf8ByteSize < leastPasswordSize) :
    Account.finish ⟨.signup, email⟩ password store =
      ("Signup failed: Password should be at least 6 characters.", store) := by
  have refused : Backend.signUp email password store = _ := signUp_of_short free short
  simp only [Account.finish, bind_apply, refused]
  rfl

end

/-- How long the passwords are that come in during a run and after it. -/
structure PasswordLaw (s : Session Store) (run : List Turn) : Prop where
  /-- All that come in have six bytes, and so two characters; those in ASCII have six. -/
  added : ∃ added, (s.turns run).backend.accounts = s.backend.accounts ++ added ∧
    (∀ account ∈ added, leastPasswordSize ≤ account.password.utf8ByteSize ∧
      2 ≤ account.password.length ∧
      (Text.IsAscii account.password.toList → promisedLength ≤ account.password.length)) ∧
    ((∀ account ∈ added, promisedLength ≤ account.password.length) ↔
      ∀ past t, past ++ [t] <+: run → ¬ (s.turns past).LetsShortIn t)
  /-- Six characters are always enough. -/
  accepted : ∀ email password, (s.turns run).backend.IsFree email →
    promisedLength ≤ password.length → Store.signUp email password (s.turns run).backend =
      (.ok (), (s.turns run).backend.addAccount email password false)
  refused : ∀ email password,
    (Store.signUp email password (s.turns run).backend).1 = .error shortPassword ↔
      (s.turns run).backend.IsFree email ∧ password.utf8ByteSize < leastPasswordSize
  /-- What a session shows and does with a password for a free address. -/
  shown : ∀ email password event,
    (s.turns run).submittedPassword? event = some (⟨.signup, email⟩, password) →
    (s.turns run).backend.IsFree email →
      (mask password).length = password.length ∧
      (s.turns run).step event = if leastPasswordSize ≤ password.utf8ByteSize then
        (s.turns run).signing password
          "Signup successful! Please check your email for a confirmation link."
          ((s.turns run).backend.addAccount email password false)
      else (s.turns run).signing password
        "Signup failed: Password should be at least 6 characters." (s.turns run).backend

/-- Every run over a store keeps to the law, from whatever session it begins. -/
theorem passwordLaw_of_run (s : Session Store) (run : List Turn) : s.PasswordLaw run where
  added := ⟨s.registrations run, s.accounts_turns run,
    fun _ added => sizes_of_mem_registrations added, s.promise_kept_iff run⟩
  accepted email password free long :=
    signUp_of_long free (Nat.le_trans long (Text.length_le_utf8ByteSize password))
  refused email password := signUp_eq_short_iff
  shown email password event handed free := by
    refine ⟨length_mask password, ?_⟩
    split
    · rename_i long
      exact step_of_finish handed (finish_of_long free long)
    · rename_i short
      exact step_of_finish handed (finish_of_short free (Nat.lt_of_not_le short))

/-- Two characters are signed up with, of three bytes each. -/
theorem short_password_signed_up :
    let asked := ofBuiltin.turns [.event (.submitLine "signup new@example.com")]
    let signedUp := asked.turn (.event (.submitLine "日本"))
    asked.LetsShortIn (.event (.submitLine "日本")) ∧ "日本".length = 2 ∧ mask "日本" = "**" ∧
      signedUp.backend.accounts = [⟨1, "new@example.com", "日本", false⟩] ∧
      signedUp = asked.signing "日本"
        "Signup successful! Please check your email for a confirmation link."
        (asked.backend.addAccount "new@example.com" "日本" false) := by
  intro asked signedUp
  have handed : asked.submittedPassword? (.submitLine "日本") =
      some (⟨.signup, "new@example.com"⟩, "日本") := by decide +kernel
  have free : asked.backend.IsFree "new@example.com" := by decide +kernel
  have slips : SlipsThrough "日本" := ⟨by decide +kernel, by decide +kernel⟩
  have shown := step_of_finish handed (finish_of_long free slips.2)
  refine ⟨⟨_, _, ?_, free, slips⟩, by decide +kernel, by decide +kernel, by decide +kernel, shown⟩
  simp only [signUp?, handed]

end Session

end PortfolioShell
