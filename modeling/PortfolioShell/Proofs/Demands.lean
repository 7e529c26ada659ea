import PortfolioShell.Proofs.Sessions

/-!
# What commands ask of a session

Most commands print and ask for nothing. The others are listed once, each with its arguments, with
what the backend has answered, and with the backend as the command leaves it. Whoever has to know
why a screen was cleared, a theme chosen or an editor opened goes through the list and does not open
the commands again.
-/
namespace PortfolioShell

/-- Output that is printed and not acted on. -/
inductive Output.IsPrinted : Output → Prop
  | text (text : String) : IsPrinted (.text text)
  | rich (blocks : Rich) : IsPrinted (.rich blocks)

section
variable {σ α : Type}

/-- A step that prints, whatever state it is given. -/
def Prints (step : StateM σ Output) : Prop := ∀ b, (step b).1.IsPrinted

namespace Prints

theorem text (text : String) : Prints (pure (.text text) : StateM σ Output) := fun _ => .text text

theorem rich (blocks : Rich) : Prints (pure (.rich blocks) : StateM σ Output) :=
  fun _ => .rich blocks

theorem after {step : StateM σ α} {next : α → StateM σ Output}
    (prints : ∀ answer, Prints (next answer)) : Prints (step >>= next) :=
  fun _ => prints _ _

end Prints

end

section
variable {σ : Type} [Backend σ]

/-- All that commands ask of a session: the command with its arguments, what it asks for, and the
backend before and after it. -/
inductive Handler.Asks (before : σ) : Handler → List String → Output → σ → Prop
  | clear (args : List String) : Asks before (.plain .clear) args .clear before
  | signup (email : String) (rest : List String) :
      Asks before (.plain .signup) (email :: rest)
        (.directive (.requestPassword ⟨.signup, email⟩)) before
  | login (email : String) (rest : List String) :
      Asks before (.plain .login) (email :: rest)
        (.directive (.requestPassword ⟨.login, email⟩)) before
  | theme {name : String} {theme : Theme} (known : Theme.ofName? name = some theme)
      (rest : List String) :
      Asks before (.plain .theme) (name :: rest) (.directive (.setTheme theme)) before
  | tutorial (args : List String) :
      Asks before (.plain .tutorial) args (.directive .startTutorial) before
  | game (args : List String) : Asks before (.plain .pacman) args (.directive .startGame) before
  | viewer (path : String) (rest : List String) (content : String) (after : σ) :
      Asks before (.file .vim) (path :: rest) (.directive (.openViewer path content)) after
  | editor {slug : String} {user : User} {post : Post} {asked after : σ}
      (who : Backend.currentUser before = (some user, asked))
      (found : Backend.findPost slug asked = (.ok (some post), after)) (rest : List String) :
      Asks before (.plain .post) ("edit" :: slug :: rest) (.directive (.openEditor post)) after

/-- What a command gives back is printed or is on the list. -/
def Handler.Gives (handler : Handler) (args : List String) (step : StateM σ Output) (before : σ) :
    Prop :=
  (step before).1.IsPrinted ∨ handler.Asks before args (step before).1 (step before).2

/-! ### Posts -/

theorem prints_blog : Prints (Blog.blog (σ := σ)) := by
  refine .after fun answer => ?_
  cases answer with
  | error e => exact .text _
  | ok posts => cases posts <;> exact .text _

theorem prints_show (signedIn : Bool) (args : List String) :
    Prints (Blog.show? (σ := σ) signedIn args) := by
  cases args with
  | nil => exact .text _
  | cons slug rest =>
    refine .after fun answer => ?_
    cases answer with
    | error e => cases e <;> exact .text _
    | ok found =>
      cases found with
      | none => exact .text _
      | some post =>
        dsimp only
        split <;> exact .text _

theorem prints_new (normalizer : Text.Normalizer) (user : User) (words : List String) :
    Prints (Blog.new (σ := σ) normalizer user words) := by
  unfold Blog.new
  dsimp only
  split
  · exact .text _
  · split
    · exact .text _
    · refine .after fun answer => ?_
      cases answer with
      | ok post => exact .text _
      | error e => cases e <;> exact .text _

theorem prints_publish (args : List String) : Prints (Blog.publish (σ := σ) args) := by
  cases args with
  | nil => exact .text _
  | cons slug rest =>
    refine .after fun answer => ?_
    cases answer with
    | ok post => exact .text _
    | error e => cases e <;> exact .text _

theorem prints_list : Prints (Blog.list (σ := σ)) := by
  refine .after fun answer => ?_
  cases answer with
  | ok posts => cases posts <;> exact .text _
  | error e => cases e <;> exact .text _

theorem prints_tag (args : List String) : Prints (Blog.tag (σ := σ) args) := by
  unfold Blog.tag
  split
  · refine .after fun answer => ?_
    cases answer with
    | ok done => exact .text _
    | error e => cases e <;> exact .text _
  · exact .text _

theorem prints_untag (args : List String) : Prints (Blog.untag (σ := σ) args) := by
  unfold Blog.untag
  split
  · refine .after fun answer => ?_
    cases answer with
    | ok count => cases count <;> exact .text _
    | error e => cases e <;> exact .text _
  · exact .text _

theorem prints_forGuest (sub : String) (rest : List String) :
    Prints (Blog.forGuest (σ := σ) sub rest) := by
  unfold Blog.forGuest
  split
  · exact prints_show false rest
  · exact .text _

theorem prints_forUser {sub : String} (other : sub ≠ "edit") (normalizer : Text.Normalizer)
    (user : User) (rest : List String) :
    Prints (Blog.forUser (σ := σ) normalizer user sub rest) := by
  unfold Blog.forUser
  split
  · exact prints_new normalizer user rest
  · exact prints_publish rest
  · exact prints_list
  · exact prints_show true rest
  · exact absurd rfl other
  · exact prints_tag rest
  · exact prints_untag rest
  · exact .text _

/-- Only a post that has been found is opened, and only for somebody who is signed in. -/
theorem gives_edit {before asked : σ} {user : User}
    (who : Backend.currentUser before = (some user, asked)) (args : List String) :
    (Blog.edit args asked).1.IsPrinted ∨ Handler.Asks before (.plain .post) ("edit" :: args)
      (Blog.edit args asked).1 (Blog.edit args asked).2 := by
  cases args with
  | nil => exact Or.inl (.text _)
  | cons slug rest =>
    cases answer : Backend.findPost slug asked with
    | mk found after =>
      rw [Blog.edit, bind_apply, answer]
      cases found with
      | error e => cases e <;> exact Or.inl (.text _)
      | ok found =>
        cases found with
        | none => exact Or.inl (.text _)
        | some post => exact Or.inr (.editor who answer rest)

theorem gives_post (normalizer : Text.Normalizer) (args : List String) (before : σ) :
    Handler.Gives (.plain .post) args (Blog.post normalizer args) before := by
  unfold Handler.Gives
  rw [Blog.post, bind_apply]
  cases who : Backend.currentUser before with
  | mk user asked =>
    cases user with
    | none => exact Or.inl (prints_forGuest _ _ asked)
    | some user =>
      by_cases edits : args.headD "" = "edit"
      · cases args with
        | nil => simp at edits
        | cons sub rest =>
          obtain rfl : sub = "edit" := edits
          exact gives_edit who rest
      · exact Or.inl (prints_forUser edits normalizer user _ asked)

/-! ### Files -/

theorem isPrinted_ls (args : List String) (cwd : String) (tree : Tree) :
    (Files.ls args cwd tree).IsPrinted := by
  unfold Files.ls
  dsimp only
  split
  · exact .text _
  · exact .text _
  · split
    · exact .text _
    · exact .rich _

theorem isPrinted_cd (args : List String) (cwd : String) (tree : Tree) :
    (Files.cd args cwd tree).1.IsPrinted := by
  unfold Files.cd
  dsimp only
  split <;> exact .text _

theorem prints_cat (args : List String) (cwd : String) (setting : Setting) :
    Prints (Files.cat (σ := σ) args cwd setting) := by
  unfold Files.cat
  split
  · exact .text _
  · split
    · exact .text _
    · exact .text _
    · exact .rich _
    · refine .after fun answer => ?_
      cases answer with
      | error e => exact .text _
      | ok readable =>
        cases readable with
        | text s => exact .text _
        | rich blocks => exact .rich _

theorem prints_grep (args : List String) (cwd : String) (setting : Setting) :
    Prints (Files.grep (σ := σ) args cwd setting) := by
  unfold Files.grep
  split
  · split
    · exact .text _
    · exact .text _
    · refine .after fun answer => ?_
      cases answer with
      | error e => exact .text _
      | ok readable =>
        cases readable with
        | rich blocks => exact .text _
        | text s =>
          dsimp only
          split
          · exact .text _
          · exact .rich _
  · exact .text _

theorem gives_vim (args : List String) (cwd : String) (setting : Setting) (before : σ) :
    Handler.Gives (.file .vim) args (Files.vim args cwd setting) before := by
  unfold Files.vim
  split
  · exact Or.inl (.text _)
  · split
    · exact Or.inl (.text _)
    · exact Or.inl (.text _)
    · rename_i path rest _ content _
      unfold Handler.Gives
      rw [bind_apply]
      cases (Files.read setting.site content before).1 with
      | error e => exact Or.inl (.text _)
      | ok readable =>
        cases readable with
        | rich blocks => exact Or.inl (.text _)
        | text s => exact Or.inr (.viewer path rest s _)

/-! ### Lines -/

theorem prints_about : Prints (Info.about (σ := σ)) := by
  refine .after fun answer => ?_
  cases answer <;> exact .text _

theorem prints_logout : Prints (Account.logout (σ := σ)) := by
  refine .after fun answer => ?_
  cases answer <;> exact .text _

theorem gives_plainCommand (command : PlainCommand) (args : List String) (setting : Setting)
    (before : σ) : Handler.Gives (.plain command) args (command.run args setting) before := by
  cases command with
  | clear => exact Or.inr (.clear args)
  | tutorial => exact Or.inr (.tutorial args)
  | pacman => exact Or.inr (.game args)
  | signup =>
    cases args with
    | nil => exact Or.inl (.text _)
    | cons email rest => exact Or.inr (.signup email rest)
  | login =>
    cases args with
    | nil => exact Or.inl (.text _)
    | cons email rest => exact Or.inr (.login email rest)
  | theme =>
    cases args with
    | nil => exact Or.inl (.text _)
    | cons name rest =>
      simp only [PlainCommand.run, Info.theme]
      cases known : Theme.ofName? name with
      | none => exact Or.inl (.text _)
      | some theme => exact Or.inr (.theme known rest)
  | post => exact gives_post setting.host.normalizer args before
  | blog => exact Or.inl (prints_blog before)
  | about => exact Or.inl (prints_about before)
  | logout => exact Or.inl (prints_logout before)
  | whoami => exact Or.inl (.text _)
  | neofetch => exact Or.inl (.rich _)
  | help => exact Or.inl (.rich _)
  | welcome => exact Or.inl (.rich _)
  | contact => exact Or.inl (.rich _)
  | date => exact Or.inl (.text _)
  | echo => exact Or.inl (.text _)
  | guestbook => exact Or.inl (.rich _)

/-- Every command that is run gives something back, and asks for nothing that is not on the list. -/
theorem Handler.asks_run (handler : Handler) (args : List String) (cwd : String)
    (setting : Setting) (before : σ) :
    ∃ output, (handler.run args cwd setting before).1.output = some output ∧
      (output.IsPrinted ∨
        handler.Asks before args output (handler.run args cwd setting before).2) := by
  cases handler with
  | plain command => exact ⟨_, rfl, gives_plainCommand command args setting before⟩
  | file command =>
    cases command with
    | projects => exact ⟨_, rfl, Or.inl (.rich _)⟩
    | ls =>
      simp only [run, FileCommand.run, pure_apply]
      exact ⟨_, rfl, Or.inl (isPrinted_ls args cwd setting.tree)⟩
    | cd =>
      simp only [run, FileCommand.run, pure_apply]
      exact ⟨_, rfl, Or.inl (isPrinted_cd args cwd setting.tree)⟩
    | pwd => exact ⟨_, rfl, Or.inl (.text _)⟩
    | cat => exact ⟨_, rfl, Or.inl (prints_cat args cwd setting before)⟩
    | grep => exact ⟨_, rfl, Or.inl (prints_grep args cwd setting before)⟩
    | vim => exact ⟨_, rfl, gives_vim args cwd setting before⟩

/-- A line that asks for something names a command of the list. -/
theorem asks_of_dispatch {line cwd : String} {setting : Setting} {before : σ} {output : Output}
    (gives : (dispatch line setting cwd before).1.output = some output)
    (acted : ¬ output.IsPrinted) :
    ∃ inv handler, Invocation.ofLine? line = some inv ∧ setting.registry.Runs inv.name handler ∧
      handler.Asks before inv.args output (dispatch line setting cwd before).2 := by
  cases hinv : Invocation.ofLine? line with
  | none => simp [dispatch, hinv, pure_apply] at gives
  | some inv =>
    have ran : dispatch (σ := σ) line setting cwd = inv.execute setting cwd := by
      rw [dispatch, hinv]
    rw [ran] at gives ⊢
    cases registered : setting.registry.get? inv.name with
    | none =>
      have told : output = .text (notRegistered inv.name) := by
        simpa [Invocation.execute, registered, pure_apply] using gives.symm
      exact absurd (told ▸ .text _) acted
    | some spec =>
      have runs : setting.registry.Runs inv.name spec.handler := by
        simp [Registry.Runs, registered]
      rw [Invocation.execute_of_runs runs] at gives ⊢
      obtain ⟨given, same, printed | asks⟩ := spec.handler.asks_run inv.args cwd setting before
      · obtain rfl := Option.some.inj (same.symm.trans gives)
        exact absurd printed acted
      · obtain rfl := Option.some.inj (same.symm.trans gives)
        exact ⟨inv, spec.handler, rfl, runs, asks⟩

end

end PortfolioShell
