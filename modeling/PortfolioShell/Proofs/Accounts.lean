import PortfolioShell.Proofs.Requests

/-!
# Signing up and in

An address that is signed up with was free, and nobody else gets it afterwards, since accounts stay
and the address is refused from then on. So the account is opened by its password and by no other,
whatever is asked of the store in between, even if accounts were put into it that share another
address. Its number is its place, and no other account has it. Signing up does not sign in.
-/
namespace PortfolioShell.Store

/-- The states of a store: accounts and posts are put into it and requests are made in any order. -/
inductive Arises : Store → Prop
  | empty (aboutText : String) (clock : Time.Clock) : Arises (.empty aboutText clock)
  | addAccount {store : Store} (email password : String) (isAdmin : Bool) :
      Arises store → Arises (store.addAccount email password isAdmin)
  | addPost {store : Store} (post : Post) : Arises store → Arises (store.addPost post)
  | perform {store : Store} (request : Request) : Arises store → Arises (store.perform request)

variable {store next : Store} {request : Request} {email password : String} {account : Account}

/-- In every state accounts are numbered, and the session is that of one of them. -/
theorem Arises.signedIn (arises : store.Arises) : ∃ past, SignedIn past store := by
  induction arises with
  | empty aboutText clock => exact ⟨[], .of_seeded (.empty aboutText clock)⟩
  | addAccount email password isAdmin _ ih =>
    obtain ⟨past, signedIn⟩ := ih
    refine ⟨past, signedIn.accountIds.concat rfl, fun id session => ?_⟩
    obtain ⟨account, known, sameId, asked⟩ := signedIn.session id session
    exact ⟨account, List.mem_append_left _ known, sameId, asked⟩
  | addPost post _ ih =>
    obtain ⟨past, signedIn⟩ := ih
    exact ⟨past, signedIn.accountIds, signedIn.session⟩
  | @perform store request _ ih =>
    obtain ⟨past, signedIn⟩ := ih
    exact ⟨past ++ [request], signedIn.evolves (store.evolves_perform request)⟩

/-! ### Signing up -/

/-- A working store that has no account with an address. -/
def IsFree (store : Store) (email : String) : Prop :=
  store.outage = none ∧ ∀ account ∈ store.accounts, account.email ≠ email

instance (store : Store) (email : String) : Decidable (store.IsFree email) :=
  inferInstanceAs (Decidable (_ ∧ _))

theorem signUp_of_long (free : store.IsFree email)
    (long : leastPasswordSize ≤ password.utf8ByteSize) :
    signUp email password store = (.ok (), store.addAccount email password false) := by
  have unknown : store.accounts.any (·.email == email) = false := by simpa using free.2
  simp [signUp, guarded, free.1, unknown, Nat.not_lt.mpr long]

theorem signUp_of_short (free : store.IsFree email)
    (short : password.utf8ByteSize < leastPasswordSize) :
    signUp email password store = (.error shortPassword, store) := by
  have unknown : store.accounts.any (·.email == email) = false := by simpa using free.2
  simp [signUp, guarded, free.1, unknown, short]

theorem signUp_of_taken (taken : ¬ store.IsFree email) (password : String) :
    ∃ error, error ≠ shortPassword ∧ signUp email password store = (.error error, store) := by
  cases outage : store.outage with
  | some message =>
    exact ⟨.network message, by simp [shortPassword], by simp [signUp, guarded, outage]⟩
  | none =>
    have known : store.accounts.any (·.email == email) = true := by
      simpa [IsFree, outage] using taken
    exact ⟨alreadyRegistered, by decide, by simp [signUp, guarded, outage, known]⟩

/-- A sign-up that is accepted was made with a free address and with enough bytes. -/
theorem signUp_eq_ok_iff : (signUp email password store).1 = .ok () ↔
    store.IsFree email ∧ leastPasswordSize ≤ password.utf8ByteSize := by
  constructor
  · intro accepted
    by_cases free : store.IsFree email
    · refine ⟨free, Nat.le_of_not_lt fun short => ?_⟩
      rw [signUp_of_short free short] at accepted
      cases accepted
    · obtain ⟨error, _, refused⟩ := signUp_of_taken free password
      rw [refused] at accepted
      cases accepted
  · rintro ⟨free, long⟩
    rw [signUp_of_long free long]

/-! ### The owner of an address -/

/-- An account that shares its address with no other. -/
structure Owns (store : Store) (account : Account) : Prop where
  known : account ∈ store.accounts
  numbered : CountedBy (·.id) store.accounts
  alone : ∀ other ∈ store.accounts, other.email = account.email → other = account

theorem find?_of_alone {accounts : List Account} {test : Account → Bool}
    (known : account ∈ accounts) (fits : test account = true)
    (alone : ∀ other ∈ accounts, test other = true → other = account) :
    accounts.find? test = some account := by
  cases found : accounts.find? test with
  | none => exact absurd fits (List.find?_eq_none.mp found account known)
  | some other =>
    exact congrArg some (alone other (List.mem_of_find?_eq_some found) (List.find?_some found))

namespace Owns

theorem of_addAccount (numbered : CountedBy (·.id) store.accounts)
    (free : ∀ account ∈ store.accounts, account.email ≠ email) (password : String) :
    (store.addAccount email password false).Owns
      ⟨store.accounts.length + 1, email, password, false⟩ where
  known := by simp [addAccount]
  numbered := numbered.concat rfl
  alone := by
    intro other mem sameEmail
    rcases List.mem_append.mp mem with old | new
    · exact absurd sameEmail (free other old)
    · exact List.mem_singleton.mp new

/-- Whoever signs up later does so with another address. -/
theorem evolves (owns : store.Owns account) (evolves : Evolves store request next) :
    next.Owns account := by
  cases evolves with
  | signedUp free long =>
    refine ⟨List.mem_append_left _ owns.known, owns.numbered.concat rfl, ?_⟩
    intro other mem sameEmail
    rcases List.mem_append.mp mem with old | new
    · exact owns.alone other old sameEmail
    · obtain rfl := List.mem_singleton.mp new
      exact absurd sameEmail.symm (free account owns.known)
  | _ => exact ⟨owns.known, owns.numbered, owns.alone⟩

theorem run (owns : store.Owns account) (requests : List Request) :
    (store.run requests).Owns account :=
  run_induction (P := fun _ later => later.Owns account) owns
    (fun _ later request here => here.evolves (later.evolves_perform request)) requests

theorem signIn (owns : store.Owns account) (working : store.outage = none) :
    Store.signIn account.email account.password store =
      (.ok account.user, { store with session := some account.id }) := by
  have found : store.accounts.find? (fun a => a.email == account.email &&
      a.password == account.password) = some account := by
    refine find?_of_alone owns.known (by simp) fun other mem fits => ?_
    exact owns.alone other mem (by simpa using And.left (by simpa using fits))
  simp only [Store.signIn, guarded, working, found]

theorem signIn_wrong (owns : store.Owns account) (working : store.outage = none)
    {password : String} (wrong : password ≠ account.password) :
    Store.signIn account.email password store = (.error badCredentials, store) := by
  have missing : store.accounts.find? (fun a => a.email == account.email &&
      a.password == password) = none := by
    rw [List.find?_eq_none]
    intro other mem fits
    simp only [Bool.and_eq_true, beq_iff_eq] at fits
    rw [owns.alone other mem fits.1] at fits
    exact wrong fits.2.symm
  simp only [Store.signIn, guarded, working, missing]

theorem signIn_refused (owns : store.Owns account) {password : String}
    (wrong : password ≠ account.password) :
    ∃ error, Store.signIn account.email password store = (.error error, store) := by
  cases outage : store.outage with
  | some message => exact ⟨.network message, by simp [Store.signIn, guarded, outage]⟩
  | none => exact ⟨badCredentials, owns.signIn_wrong outage wrong⟩

/-- The session of its number is its session. -/
theorem sessionAccount (owns : store.Owns account) :
    { store with session := some account.id }.sessionAccount = some account := by
  refine find?_of_alone owns.known (by simp) fun other mem fits => ?_
  exact owns.numbered.unique mem owns.known (by simpa using fits)

theorem exists_parts (owns : store.Owns account) :
    ∃ before after, store.accounts = before ++ account :: after ∧
      ∀ other ∈ before ++ after, other.id ≠ account.id ∧ other.email ≠ account.email := by
  obtain ⟨before, after, parts⟩ := List.append_of_mem owns.known
  have middle : store.accounts.Perm (account :: (before ++ after)) := by
    rw [parts]
    exact List.perm_middle
  have ids : ((account :: (before ++ after)).map (·.id)).Nodup :=
    (middle.map _).nodup_iff.mp owns.numbered.nodup
  refine ⟨before, after, parts, fun other mem => ?_⟩
  have differs : other.id ≠ account.id := by
    intro sameId
    exact (List.nodup_cons.mp ids).1 (List.mem_map.mpr ⟨other, mem, sameId⟩)
  refine ⟨differs, fun sameEmail => ?_⟩
  have among : other ∈ store.accounts := middle.mem_iff.mpr (List.mem_cons_of_mem account mem)
  exact differs (congrArg Account.id (owns.alone other among sameEmail))

end Owns

/-- The account is opened by its password and by no other, and it is a plain one that shares neither
its number nor its address. -/
structure Admits (store : Store) (account : Account) : Prop where
  opened : signIn account.email account.password store =
    (.ok account.user, { store with session := some account.id })
  current : (signIn account.email account.password store).2.currentUser.1 = some account.user
  plain : (signIn account.email account.password store).2.isAdminSession = false
  refused : ∀ password, password ≠ account.password →
    signIn account.email password store = (.error badCredentials, store)
  single : ∃ before after, store.accounts = before ++ account :: after ∧
    ∀ other ∈ before ++ after, other.id ≠ account.id ∧ other.email ≠ account.email

theorem Owns.admits (owns : store.Owns account) (plain : account.isAdmin = false)
    (working : store.outage = none) : store.Admits account where
  opened := owns.signIn working
  current := by rw [owns.signIn working, currentUser, owns.sessionAccount]; rfl
  plain := by rw [owns.signIn working, isAdminSession, owns.sessionAccount]; exact plain
  refused _ wrong := owns.signIn_wrong working wrong
  single := owns.exists_parts

/-- In every state of a store signing up leaves the session as it is. If it is accepted, then after
any requests another password is refused, and the new account is admitted with its own as long as
there is no outage. -/
theorem account_of_signUp (arises : store.Arises) (email password : String) :
    (signUp email password store).2.session = store.session ∧
    (signUp email password store).2.currentUser.1 = store.currentUser.1 ∧
    ((signUp email password store).1 = .ok () →
      ∃ account : Account, account.email = email ∧ account.password = password ∧
        account.isAdmin = false ∧ ∀ requests,
          let later := (signUp email password store).2.run requests
          (∀ other, other ≠ password →
            ∃ error, signIn email other later = (.error error, later)) ∧
          (later.outage = none → later.Admits account)) := by
  obtain ⟨past, signedIn⟩ := arises.signedIn
  have evolves := store.evolves_signUp email password
  refine ⟨evolves.session rfl, evolves.currentUser rfl fun session => ?_, fun accepted => ?_⟩
  · obtain ⟨id, session⟩ := Option.isSome_iff_exists.mp session
    obtain ⟨account, known, sameId, _⟩ := signedIn.session id session
    rw [sessionAccount, session]
    exact List.find?_isSome.mpr ⟨account, known, by simpa using sameId⟩
  · obtain ⟨free, long⟩ := signUp_eq_ok_iff.mp accepted
    refine ⟨⟨store.accounts.length + 1, email, password, false⟩, rfl, rfl, rfl, ?_⟩
    have next : (signUp email password store).2 = store.addAccount email password false := by
      rw [signUp_of_long free long]
    have owns := Owns.of_addAccount signedIn.accountIds free.2 password
    rw [← next] at owns
    refine fun requests => ⟨fun other wrong => ?_, fun up => ?_⟩
    · exact (owns.run requests).signIn_refused wrong
    · exact (owns.run requests).admits rfl up

/-- A store where two accounts have one address and one of their owners is signed in, and requests
that come after a sign-up: an outage that begins and ends, a sign-up with the same address and
another password, a sign-in with it and a sign-out. -/
theorem account_of_signUp_among_duplicates :
    let store := (((Store.empty "" (.ticking ⟨0, 0⟩)).addAccount "m@e.w" "first" true).addAccount
      "m@e.w" "second" false).perform (.signIn "m@e.w" "first")
    let later := (signUp "n@e.w" "secret1" store).2.run [.setOutage (some "down"), .signOut,
      .setOutage none, .signUp "n@e.w" "secret2", .signIn "n@e.w" "secret2", .signOut]
    store.session = some 1 ∧ (signUp "n@e.w" "secret1" store).1 = .ok () ∧ later.outage = none ∧
      later.accounts.map (·.email) = ["m@e.w", "m@e.w", "n@e.w"] ∧ later.session = none ∧
      ∃ account : Account, account.email = "n@e.w" ∧ account.password = "secret1" ∧
        later.Admits account := by
  intro store later
  have accepted : (signUp "n@e.w" "secret1" store).1 = .ok () :=
    signUp_eq_ok_iff.mpr ⟨by decide +kernel, by decide +kernel⟩
  have up : later.outage = none := by decide +kernel
  obtain ⟨account, email, password, -, admitted⟩ := (account_of_signUp
    (.perform (.signIn "m@e.w" "first") (.addAccount "m@e.w" "second" false
      (.addAccount "m@e.w" "first" true (.empty "" (.ticking ⟨0, 0⟩))))) "n@e.w" "secret1").2.2 accepted
  exact ⟨by decide +kernel, accepted, up, by decide +kernel, by decide +kernel, account, email,
    password, (admitted _).2 up⟩

end PortfolioShell.Store
