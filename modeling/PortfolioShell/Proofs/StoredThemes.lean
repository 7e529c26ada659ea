import PortfolioShell.Proofs.Demands
import PortfolioShell.Proofs.Modes
import PortfolioShell.Proofs.Programs

/-!
# The stored theme

A run begins with the theme that its arguments name, or else with the one that is stored. A line
that chooses a theme has it stored if it is another one than before. So the last choice is what the
next run begins with, unless every choice was of the theme that the arguments had named: then what
was stored before is still stored. The storage may be any. If it refuses the last change, the next
run begins with what it has made of the file by then.
-/
namespace PortfolioShell

/-- The theme that a line chooses where lines are commands. -/
def Theme.ofLine? (line : String) : Option Theme :=
  match Text.words line with
  | "theme" :: name :: _ => ofName? name
  | _ => none

/-- The themes of a list that are other ones than those before them. -/
def Theme.changes (first : Theme) : List Theme → List Theme
  | [] => []
  | theme :: rest => if theme = first then changes first rest else theme :: changes theme rest

theorem Theme.changes_append (first : Theme) (themes more : List Theme) :
    changes first (themes ++ more) =
      changes first themes ++ changes (themes.getLast?.getD first) more := by
  induction themes generalizing first with
  | nil => rfl
  | cons theme rest ih =>
    have last : (theme :: rest).getLast?.getD first = rest.getLast?.getD theme := by
      rw [List.getLast?_cons, Option.getD_some]
    simp only [List.cons_append, changes, last]
    split
    · rename_i same
      rw [ih, same]
    · rw [ih, List.cons_append]

theorem Theme.changes_eq_nil_iff (first : Theme) (themes : List Theme) :
    changes first themes = [] ↔ ∀ theme ∈ themes, theme = first := by
  induction themes with
  | nil => simp [changes]
  | cons theme rest ih =>
    rw [changes]
    split
    · rename_i same
      simp [ih, same]
    · rename_i differ
      simp [differ]

theorem Theme.getLast?_changes (first : Theme) (themes : List Theme) :
    (changes first themes).getLast?.getD first = themes.getLast?.getD first := by
  induction themes generalizing first with
  | nil => rfl
  | cons theme rest ih =>
    rw [List.getLast?_cons, Option.getD_some, changes]
    split
    · rename_i same
      rw [ih, same]
    · rw [List.getLast?_cons, Option.getD_some, ih]

/-- The last change is what the list ends with. -/
theorem Theme.exists_changes {first last : Theme} {themes : List Theme}
    (isLast : themes.getLast? = some last) (differs : ∃ theme ∈ themes, theme ≠ first) :
    ∃ earlier, changes first themes = earlier ++ [last] := by
  have ends := getLast?_changes first themes
  rcases List.eq_nil_or_concat (changes first themes) with none | ⟨earlier, latest, all⟩
  · obtain ⟨theme, mem, differ⟩ := differs
    exact absurd ((changes_eq_nil_iff first themes).mp none theme mem) differ
  · rw [List.concat_eq_append] at all
    rw [all, List.getLast?_concat, isLast, Option.getD_some, Option.getD_some] at ends
    exact ⟨earlier, ends ▸ all⟩

/-- Only one command that comes with the terminal chooses themes. -/
theorem Registry.runs_theme_iff {name : String} :
    Registry.builtin.Runs name (.plain .theme) ↔ name = "theme" := by
  constructor
  · intro runs
    obtain ⟨spec, found, handler⟩ := Option.map_eq_some_iff.mp runs
    have only : ∀ spec ∈ builtin.entries, spec.handler = .plain .theme → spec.name = "theme" := by
      decide
    have named := only spec (List.mem_of_find?_eq_some found) handler
    have same : spec.name = name := by simpa using List.find?_some found
    exact same.symm.trans named
  · rintro rfl
    decide

section
variable {σ : Type} [Backend σ]

/-- What a command gives back chooses a theme just if its line does. -/
theorem dispatch_eq_setTheme_iff {line cwd : String} {setting : Setting} {b : σ} {theme : Theme}
    (builtin : setting.registry = .builtin) :
    (dispatch line setting cwd b).1.output = some (.directive (.setTheme theme)) ↔
      Theme.ofLine? line = some theme := by
  constructor
  · intro chosen
    obtain ⟨inv, handler, hinv, runs, asks⟩ := asks_of_dispatch chosen nofun
    rw [builtin] at runs
    have words := Tutorial.words_of_ofLine? hinv
    generalize inv.args = args at asks words
    generalize (dispatch line setting cwd b).2 = after at asks
    cases asks with
    | theme known rest =>
      rw [Registry.runs_theme_iff.mp runs] at words
      rw [Theme.ofLine?, words]
      exact known
  · intro chosen
    rw [Theme.ofLine?] at chosen
    split at chosen
    · rename_i name rest words
      have runs : setting.registry.Runs "theme" (.plain .theme) := builtin ▸ by decide
      rw [dispatch_of_runs words runs, Handler.run, PlainCommand.run, staying_apply]
      simp only [Info.theme, chosen]
      rfl
    · cases chosen

end

theorem Surface.theme_after (surface : Surface) {output : Option Output} {chosen : Option Theme}
    (given : ∀ theme, output = some (.directive (.setTheme theme)) ↔ chosen = some theme) :
    (surface.after output).theme = chosen.getD surface.theme := by
  cases chosen with
  | some theme => rw [(given theme).mpr rfl]; rfl
  | none =>
    unfold after
    split
    · rfl
    · rename_i theme
      cases (given theme).mp rfl
    · rfl

/-! ### Saves -/

namespace Storage

variable {φ : Type} [Storage φ]

/-- What storing themes in order, as far as that can be done, makes of a storage. -/
def saveEach (themes : List Theme) (disk : φ) : φ :=
  themes.foldl (fun disk theme => (saveTheme theme disk).2) disk

theorem saveEach_append (themes more : List Theme) (disk : φ) :
    saveEach (themes ++ more) disk = saveEach more (saveEach themes disk) := List.foldl_append

/-- If themes are stored in order, the last one can be. -/
def LastStored (themes : List Theme) (disk : φ) : Prop :=
  ∀ earlier last, themes = earlier ++ [last] → (saveTheme last (saveEach earlier disk)).1 = true

/-- Without a directory for configuration nothing is stored. -/
theorem saveTheme_nowhere (nowhere : configDir? φ = none) (theme : Theme) (disk : φ) :
    saveTheme theme disk = (false, disk) := by
  simp only [saveTheme, nowhere]
  rfl

theorem saveEach_nowhere (nowhere : configDir? φ = none) (themes : List Theme) (disk : φ) :
    saveEach themes disk = disk := by
  induction themes with
  | nil => rfl
  | cons theme rest ih =>
    rw [saveEach, List.foldl_cons, saveTheme_nowhere nowhere]
    exact ih

/-- A theme is written once its directory is there. -/
theorem saveTheme_below {dir : String} (located : configDir? φ = some dir) (theme : Theme)
    (disk : φ) :
    saveTheme theme disk =
      if (createDirs (themeDir dir) disk).1 then
        write (themePath dir) theme.name (createDirs (themeDir dir) disk).2
      else createDirs (themeDir dir) disk := by
  simp only [saveTheme, located, bind, StateT.bind]
  obtain ⟨made, disk'⟩ := createDirs (themeDir dir) disk
  cases made <;> rfl

/-- A theme that was stored is what the file says then. -/
theorem themeText?_saveTheme (faithful : Faithful φ) {theme : Theme} {disk : φ}
    (stored : (saveTheme theme disk).1 = true) :
    themeText? (saveTheme theme disk).2 = some theme.name := by
  cases located : configDir? φ with
  | none =>
    rw [saveTheme_nowhere located] at stored
    cases stored
  | some dir =>
    rw [saveTheme_below located] at stored ⊢
    rw [themeText?, located, Option.bind_some]
    split at stored
    · rename_i made
      rw [if_pos made]
      exact faithful.read_write dir located _ _ stored
    · rename_i unmade
      exact absurd stored unmade

/-- A file that says the name of a theme is read as this theme. -/
theorem loadTheme?_of_name {theme : Theme} {disk : φ} (reads : themeText? disk = some theme.name) :
    loadTheme? disk = some theme := by
  rw [loadTheme?, reads]
  cases theme <;> decide +kernel

end Storage

namespace Program

section
variable {φ : Type} [Storage φ] {p q r : Program φ} {themes more : List Theme}

/-- The theme that a line chooses: only in normal mode lines are commands that are acted on. -/
def choice? (p : Program φ) (line : String) : Option Theme :=
  if p.session.mode = .normal then Theme.ofLine? line else none

/-- The themes that lines in order choose. -/
def choices (p : Program φ) : List String → List Theme
  | [] => []
  | line :: rest => (p.choice? line).toList ++ (p.read line).2.choices rest

/-- What choices of themes make of a program. -/
structure Chooses (p : Program φ) (themes : List Theme) (q : Program φ) : Prop where
  setting : q.session.setting = p.session.setting
  theme : q.session.theme = themes.getLast?.getD p.session.theme
  disk : q.disk = Storage.saveEach (Theme.changes p.session.theme themes) p.disk

theorem Chooses.of_keeps (keeps : p.Keeps q) : Chooses p [] q where
  setting := congrArg Surface.setting keeps.1
  theme := congrArg Surface.theme keeps.1
  disk := keeps.2

theorem Chooses.trans (first : Chooses p themes q) (second : Chooses q more r) :
    Chooses p (themes ++ more) r where
  setting := second.setting.trans first.setting
  theme := by
    rw [second.theme, first.theme, List.getLast?_append]
    cases more.getLast? <;> simp
  disk := by
    rw [second.disk, first.disk, first.theme, Theme.changes_append, Storage.saveEach_append]

theorem surface_readPrompt (builtin : p.session.setting.registry = .builtin) (line : String) :
    (p.readPrompt line).2.session.setting = p.session.setting ∧
      (p.readPrompt line).2.session.theme = (p.choice? line).getD p.session.theme := by
  rw [session_readPrompt, choice?]
  split
  · rename_i normal
    have surface := Session.surface_submitLine (s := p.session.setInput line) normal line
    constructor
    · exact (congrArg Surface.setting surface).trans (Surface.setting_after _ _)
    · exact (congrArg Surface.theme surface).trans
        (Surface.theme_after _ fun theme => dispatch_eq_setTheme_iff builtin)
  · rename_i busy
    have surface :=
      Session.surface_submitLine_of_not_normal (s := p.session.setInput line) busy line
    exact ⟨congrArg Surface.setting surface, congrArg Surface.theme surface⟩

theorem chooses_read (builtin : p.session.setting.registry = .builtin) (line : String) :
    Chooses p (p.choice? line).toList (p.read line).2 := by
  by_cases running : ∃ program, p.session.mode = .running program
  · obtain ⟨program, running⟩ := running
    have none : p.choice? line = none := by simp [choice?, running]
    rw [none]
    exact .of_keeps (keeps_read running line)
  · rw [read_of_not_running (not_exists.mp running)]
    obtain ⟨setting, theme⟩ := surface_readPrompt builtin line
    have disk := disk_readPrompt p line
    rw [theme] at disk
    cases chosen : p.choice? line with
    | none =>
      rw [chosen] at theme disk
      exact ⟨setting, theme, disk.trans (if_pos rfl)⟩
    | some choice =>
      rw [chosen] at theme disk
      refine ⟨setting, theme, disk.trans ?_⟩
      simp only [Option.getD_some, Option.toList_some, Theme.changes]
      split <;> rfl

theorem chooses_readLines (builtin : p.session.setting.registry = .builtin)
    (lines : List String) : Chooses p (p.choices lines) (p.readLines lines).2 := by
  induction lines generalizing p with
  | nil => exact .of_keeps ⟨rfl, rfl⟩
  | cons line rest ih =>
    have first := chooses_read builtin line
    rw [readLines_cons]
    exact first.trans (ih (first.setting ▸ builtin))

theorem chooses_readAll (builtin : p.session.setting.registry = .builtin) (input : Input) :
    Chooses p (p.choices input.lines) (p.readAll input).2 := by
  have last := Chooses.of_keeps ((p.readLines input.lines).2.keeps_close input.ending)
  have all := (chooses_readLines builtin input.lines).trans last
  rw [List.append_nil] at all
  exact all

/-! ### From one run to the next -/

/-- The theme that the arguments name. -/
def namedTheme? (launch : Launch) : Option Theme :=
  match launch.request with
  | some (.run options) => options.theme
  | _ => none

/-- The theme that a run begins with whose arguments name none. -/
def nextTheme (disk : φ) : Theme := (Storage.loadTheme? disk).getD .fallback

variable {launch : Launch} {disk : φ} {first : String}

theorem theme_of_begun (begun : begun? launch disk = some (first, p)) :
    p.session.theme = (namedTheme? launch).getD (nextTheme disk) := by
  obtain ⟨options, site, asked, _, started⟩ := exists_start begun
  obtain rfl : (start options site launch.host launch.clock disk).2 = p :=
    congrArg Prod.snd started
  rw [namedTheme?, asked]
  rfl

/-- What a run that begins with a theme and chooses themes makes of the storage. -/
structure Hands (first : Theme) (chosen : List Theme) (disk after : φ) : Prop where
  /-- Nothing is done to it but to store every choice that is a change. -/
  saves : after = Storage.saveEach (Theme.changes first chosen) disk
  /-- So it stays as it was before another theme is chosen than the first, -/
  kept : (∀ theme ∈ chosen, theme = first) → after = disk
  /-- or if there is no place for themes, -/
  nowhere : Storage.configDir? φ = none → after = disk
  /-- and else the file says the last choice, if the last change could be stored. -/
  stored : ∀ last, chosen.getLast? = some last → (∃ theme ∈ chosen, theme ≠ first) →
    Storage.LastStored (Theme.changes first chosen) disk →
      Storage.themeText? after = some last.name

theorem hands_of_begun (faithful : Storage.Faithful φ)
    (begun : begun? launch disk = some (first, p)) (input : Input) :
    Hands p.session.theme (p.choices input.lines) disk (serve launch input disk).stored := by
  have fresh := fresh_of_begun begun
  have saves := (chooses_readAll fresh.builtin input).disk
  rw [serve_of_begun begun, saves, fresh.disk]
  refine ⟨rfl, fun same => ?_, fun nowhere => Storage.saveEach_nowhere nowhere _ _, ?_⟩
  · rw [(Theme.changes_eq_nil_iff _ _).mpr same]
    rfl
  · intro last isLast differs stored
    obtain ⟨earlier, all⟩ := Theme.exists_changes isLast differs
    rw [all, Storage.saveEach_append]
    exact Storage.themeText?_saveTheme faithful (stored earlier last all)

/-- Every run hands the stored theme on, changed or not. If its arguments name no theme, or if
another theme than theirs is chosen, the last choice is what the next run begins with, as long as
the last change could be stored. -/
theorem theme_of_next_run (faithful : Storage.Faithful φ) (launch : Launch) (input : Input)
    (disk : φ) :
    (begun? launch disk = none → (serve launch input disk).stored = disk) ∧
    ∀ printed p, begun? launch disk = some (printed, p) →
      p.session.theme = (namedTheme? launch).getD (nextTheme disk) ∧
      Hands p.session.theme (p.choices input.lines) disk (serve launch input disk).stored ∧
      ∀ last, (p.choices input.lines).getLast? = some last →
        (namedTheme? launch = none ∨ ∃ theme ∈ p.choices input.lines, theme ≠ p.session.theme) →
        Storage.LastStored (Theme.changes p.session.theme (p.choices input.lines)) disk →
        ∀ launch' printed' p',
          begun? launch' (serve launch input disk).stored = some (printed', p') →
            namedTheme? launch' = none → p'.session.theme = last := by
  refine ⟨fun idle => stored_of_not_begun idle input, fun printed p begun => ?_⟩
  have hands := hands_of_begun faithful begun input
  refine ⟨theme_of_begun begun, hands, ?_⟩
  intro last isLast seen stored launch' printed' p' begun' unnamed
  rw [theme_of_begun begun', unnamed, Option.getD_none]
  by_cases differs : ∃ theme ∈ p.choices input.lines, theme ≠ p.session.theme
  · have reads := hands.stored last isLast differs stored
    rw [nextTheme, Storage.loadTheme?_of_name reads, Option.getD_some]
  · have same : ∀ theme ∈ p.choices input.lines, theme = p.session.theme := by
      simpa using differs
    have none := seen.resolve_right differs
    rw [hands.kept same, same last (List.mem_of_getLast? isLast), theme_of_begun begun, none]
    rfl

end

theorem faithful_themeFile : Storage.Faithful ThemeFile := ⟨fun _ _ _ _ _ => rfl⟩

/-- A theme that is chosen behind another one is stored and begins the next run. -/
theorem theme_of_next_run_gruvbox :
    let now : Time.LocalTime := ⟨⟨0, 0⟩, 0⟩
    let launch := Launch.ofArguments ["--theme", "gruvbox"] (fun _ => none) now
    let input := Input.ofText "theme dracula\ntheme gruvbox\n"
    let after := (serve launch input (⟨none⟩ : ThemeFile)).stored
    ∃ printed p printed' p', begun? launch (⟨none⟩ : ThemeFile) = some (printed, p) ∧
      p.choices input.lines = [.dracula, .gruvbox] ∧ Storage.themeText? after = some "gruvbox" ∧
      begun? (.ofArguments [] (fun _ => none) now) after = some (printed', p') ∧
        p'.session.theme = .gruvbox := by
  intro now launch input after
  let options : Options := { Options.empty with theme := some .gruvbox }
  let started := start options .builtin (.at now) now.instant (⟨none⟩ : ThemeFile)
  let restarted := start .empty .builtin (.at now) now.instant after
  have asked : launch.request = some (.run options) := by decide +kernel
  have begun : begun? launch (⟨none⟩ : ThemeFile) = some (started.1, started.2) := by
    rw [begun?, asked]
    rfl
  have begun' : begun? (.ofArguments [] (fun _ => none) now) after =
      some (restarted.1, restarted.2) := rfl
  have chosen : started.2.choices input.lines = [.dracula, .gruvbox] := by decide +kernel
  have last : (started.2.choices input.lines).getLast? = some .gruvbox := by rw [chosen]; rfl
  have differs : ∃ theme ∈ started.2.choices input.lines, theme ≠ started.2.session.theme := by
    rw [chosen]
    exact ⟨.dracula, by simp, by decide +kernel⟩
  have stored : ∀ themes, Storage.LastStored themes (⟨none⟩ : ThemeFile) := fun _ _ _ _ => rfl
  obtain ⟨_, hands, next⟩ :=
    (theme_of_next_run faithful_themeFile launch input ⟨none⟩).2 _ _ begun
  exact ⟨_, _, _, _, begun, chosen, hands.stored .gruvbox last differs (stored _), begun',
    next .gruvbox last (Or.inr differs) (stored _) _ _ _ begun' rfl⟩

/-- A theme that is chosen where the arguments have named it is not stored, and the next run begins
with another one. -/
theorem theme_not_handed_on :
    let now : Time.LocalTime := ⟨⟨0, 0⟩, 0⟩
    let launch := Launch.ofArguments ["--theme", "gruvbox"] (fun _ => none) now
    let input := Input.ofText "theme gruvbox\n"
    let after := (serve launch input (⟨some "dracula"⟩ : ThemeFile)).stored
    (begun? launch (⟨some "dracula"⟩ : ThemeFile)).map (·.2.choices input.lines) =
        some [.gruvbox] ∧
      after = ⟨some "dracula"⟩ ∧
        (begun? (.ofArguments [] (fun _ => none) now) after).map (·.2.session.theme) =
          some .dracula := by
  decide +kernel

end Program

end PortfolioShell
