import PortfolioShell.Proofs.Steps

/-!
# What guests learn

Two states of a backend are alike to guests if nobody is signed in and every call that a guest can
make answers the same. Of a search for slugs only the published ones count, since completion leaves
out the others. Every line and every completion is then blind to which of the two states it is
carried out over. Logins that succeed are left out: they end the guest's visit.
-/
namespace PortfolioShell

variable {σ α β γ : Type} {R : σ → σ → Prop}

/-- A step that answers the same from related states and leaves them related. -/
def Blind (R : σ → σ → Prop) (step : StateM σ α) : Prop :=
  ∀ b c, R b c → (step b).1 = (step c).1 ∧ R (step b).2 (step c).2

/-- The published slugs of an answer to a search. -/
def publishedOf : Except BackendError (List SlugHit) → Except BackendError (List SlugHit)
  | .ok hits => .ok (hits.filter (·.isPublished))
  | .error e => .error e

/-- Related states that no guest can tell apart. -/
structure AlikeToGuests [Backend σ] (R : σ → σ → Prop) : Prop where
  guest : ∀ b c, R b c → (Backend.currentUser b).1 = none
  currentUser : Blind R Backend.currentUser
  signUp : ∀ email password, Blind R (Backend.signUp email password)
  signOut : Blind R Backend.signOut
  about : Blind R Backend.about
  publishedPosts : Blind R Backend.publishedPosts
  findPost : ∀ slug, Blind R (Backend.findPost slug)
  updateContent : ∀ id content, Blind R (Backend.updateContent id content)
  searchSlugs : ∀ start, Blind R (publishedOf <$> Backend.searchSlugs start)
  /-- A login may succeed, and the states are then related no more. -/
  signIn : ∀ email password b c, R b c →
    (Backend.signIn email password b).1 = (Backend.signIn email password c).1 ∧
      ((∀ user, (Backend.signIn email password b).1 ≠ .ok user) →
        R (Backend.signIn email password b).2 (Backend.signIn email password c).2)

namespace Blind

theorem pure (answer : α) : Blind R (pure answer : StateM σ α) :=
  fun _ _ related => ⟨rfl, related⟩

theorem bind {step : StateM σ α} {next : α → StateM σ β} (blind : Blind R step)
    (blindNext : ∀ answer, Blind R (next answer)) : Blind R (step >>= next) := by
  intro b c related
  obtain ⟨answer, after⟩ := blind b c related
  rw [bind_apply, bind_apply, answer]
  exact blindNext _ _ _ after

/-- A step may be known to be blind only in what is seen of its answer. That is enough if what
follows tells nothing else. -/
theorem bind_seen {step : StateM σ α} {seen : α → γ} (blind : Blind R (seen <$> step))
    {next : α → StateM σ β} (tell : γ → β)
    (told : ∀ answer, next answer = Pure.pure (tell (seen answer))) : Blind R (step >>= next) := by
  intro b c related
  obtain ⟨answer, after⟩ := blind b c related
  rw [bind_apply, bind_apply, told, told]
  exact ⟨congrArg tell answer, after⟩

theorem staying {output : StateM σ Output} (blind : Blind R output) : Blind R (staying output) :=
  blind.bind fun _ => .pure _

end Blind

namespace AlikeToGuests

variable [Backend σ]

/-- What follows the question who is signed in has to be blind for guests only. -/
theorem asGuest (alike : AlikeToGuests R) {next : Option User → StateM σ β}
    (blindNext : Blind R (next none)) : Blind R (Backend.currentUser >>= next) := by
  intro b c related
  obtain ⟨answer, after⟩ := alike.currentUser b c related
  have nobody := alike.guest b c related
  rw [bind_apply, bind_apply, ← answer, nobody]
  exact blindNext _ _ after

/-! ### Commands -/

theorem blind_logout (alike : AlikeToGuests R) : Blind R (Account.logout (σ := σ)) := by
  refine alike.signOut.bind fun answer => ?_
  cases answer with
  | ok done => exact .pure _
  | error e => exact .pure _

theorem blind_whoami (alike : AlikeToGuests R) : Blind R (Account.whoami (σ := σ)) :=
  alike.currentUser.bind fun _ => .pure _

/-- A signup, or a login that fails. -/
theorem finish_of_refused (alike : AlikeToGuests R) {action : AuthAction} {password : String}
    {b c : σ} (related : R b c) (refused : action.kind = .login →
      ∀ user, (Backend.signIn action.email password b).1 ≠ .ok user) :
    (Account.finish action password b).1 = (Account.finish action password c).1 ∧
      R (Account.finish action password b).2 (Account.finish action password c).2 := by
  rw [Account.finish]
  cases kind : action.kind with
  | login =>
    obtain ⟨answer, after⟩ := alike.signIn action.email password b c related
    have still := after (refused kind)
    simp only [bind_apply, ← answer]
    cases failed : (Backend.signIn action.email password b).1 with
    | ok user => exact absurd failed (refused kind user)
    | error e => exact ⟨rfl, still⟩
  | signup =>
    obtain ⟨answer, after⟩ := alike.signUp action.email password b c related
    simp only [bind_apply, ← answer]
    cases (Backend.signUp action.email password b).1 with
    | ok done => exact ⟨rfl, after⟩
    | error e => exact ⟨rfl, after⟩

theorem blind_infoAbout (alike : AlikeToGuests R) : Blind R (Info.about (σ := σ)) := by
  refine alike.about.bind fun answer => ?_
  cases answer with
  | ok text => exact .pure _
  | error e => exact .pure _

theorem blind_neofetch (alike : AlikeToGuests R) (host : Host) :
    Blind R (Info.neofetch (σ := σ) host) :=
  alike.currentUser.bind fun _ => .pure _

theorem blind_blog (alike : AlikeToGuests R) : Blind R (Blog.blog (σ := σ)) := by
  refine alike.publishedPosts.bind fun answer => ?_
  cases answer with
  | error e => exact .pure _
  | ok posts =>
    cases posts with
    | nil => exact .pure _
    | cons post rest => exact .pure _

theorem blind_showPost (alike : AlikeToGuests R) (signedIn : Bool) (args : List String) :
    Blind R (Blog.show? (σ := σ) signedIn args) := by
  cases args with
  | nil => exact .pure _
  | cons slug rest =>
    refine (alike.findPost slug).bind fun answer => ?_
    split
    · split
      · exact .pure _
      · exact .pure _
    · exact .pure _
    · exact .pure _
    · exact .pure _

theorem blind_post (alike : AlikeToGuests R) (normalizer : Text.Normalizer) (args : List String) :
    Blind R (Blog.post (σ := σ) normalizer args) := by
  refine alike.asGuest ?_
  simp only [Blog.forGuest]
  split
  · exact alike.blind_showPost false args.tail
  · exact .pure _

theorem blind_read (alike : AlikeToGuests R) (site : Site) (content : FileContent) :
    Blind R (Files.read (σ := σ) site content) := by
  cases content with
  | stored s => exact .pure _
  | produced source =>
    cases source with
    | contact => exact .pure _
    | about =>
      refine alike.about.bind fun answer => ?_
      cases answer with
      | ok text => exact .pure _
      | error e => exact .pure _

variable {args : List String} {cwd : String} {setting : Setting}

theorem blind_cat (alike : AlikeToGuests R) : Blind R (Files.cat (σ := σ) args cwd setting) := by
  unfold Files.cat
  split
  · exact .pure _
  · split
    · exact .pure _
    · exact .pure _
    · exact .pure _
    · refine (alike.blind_read setting.site _).bind fun answer => ?_
      split <;> exact .pure _

theorem blind_grep (alike : AlikeToGuests R) : Blind R (Files.grep (σ := σ) args cwd setting) := by
  unfold Files.grep
  split
  · split
    · exact .pure _
    · exact .pure _
    · refine (alike.blind_read setting.site _).bind fun answer => ?_
      split
      · exact .pure _
      · exact .pure _
      · split <;> exact .pure _
  · exact .pure _

theorem blind_vim (alike : AlikeToGuests R) : Blind R (Files.vim (σ := σ) args cwd setting) := by
  unfold Files.vim
  split
  · exact .pure _
  · split
    · exact .pure _
    · exact .pure _
    · refine (alike.blind_read setting.site _).bind fun answer => ?_
      split <;> exact .pure _

theorem blind_plainCommand (alike : AlikeToGuests R) (command : PlainCommand) :
    Blind R (command.run (σ := σ) args setting) := by
  cases command with
  | about => exact alike.blind_infoAbout
  | logout => exact alike.blind_logout
  | whoami => exact alike.blind_whoami
  | blog => exact alike.blind_blog
  | post => exact alike.blind_post setting.host.normalizer args
  | neofetch => exact alike.blind_neofetch setting.host
  | _ => exact .pure _

theorem blind_fileCommand (alike : AlikeToGuests R) (command : FileCommand) :
    Blind R (command.run (σ := σ) args cwd setting) := by
  cases command with
  | cat => exact alike.blind_cat.staying
  | grep => exact alike.blind_grep.staying
  | vim => exact alike.blind_vim.staying
  | _ => exact .pure _

/-- No command tells a guest which of two alike states it was carried out over. -/
theorem blind_execute (alike : AlikeToGuests R) (inv : Invocation) :
    Blind R (inv.execute (σ := σ) setting cwd) := by
  rw [Invocation.execute]
  split
  · exact .pure _
  · rename_i spec _
    cases spec.handler with
    | plain command => exact (alike.blind_plainCommand command).staying
    | file command => exact alike.blind_fileCommand command

theorem blind_dispatch (alike : AlikeToGuests R) (line : String) :
    Blind R (dispatch (σ := σ) line setting cwd) := by
  rw [PortfolioShell.dispatch]
  split
  · exact .pure _
  · exact alike.blind_execute _

/-! ### Completion -/

/-- The completion that a guest gets from the published slugs of a search. -/
def publishedCompletion (sub word : String) : Except BackendError (List SlugHit) → Completion
  | .error _ => .nothing
  | .ok hits => .ofCandidates s!"post {sub} " word (hits.map (·.slug)) fun _ => " "

theorem blind_ofSlug (alike : AlikeToGuests R) (sub word : String) :
    Blind R (Completion.ofSlug (σ := σ) sub word) := by
  rw [Completion.ofSlug]
  split
  · exact .pure _
  · refine alike.asGuest ?_
    simp only
    split
    · exact .pure _
    · refine (alike.searchSlugs word).bind_seen (publishedCompletion sub word) fun answer => ?_
      cases answer with
      | error e => rfl
      | ok hits =>
        simp only [publishedOf, publishedCompletion, Option.isSome_none, Bool.or_false]

theorem blind_complete (alike : AlikeToGuests R) (line : String) :
    Blind R (complete (σ := σ) line cwd setting) := by
  unfold PortfolioShell.complete
  simp only
  split
  · exact .pure _
  · exact .pure _
  · exact .pure _
  · exact alike.blind_ofSlug _ _
  · exact .pure _

end AlikeToGuests

end PortfolioShell
