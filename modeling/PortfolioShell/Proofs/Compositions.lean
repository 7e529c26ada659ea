import PortfolioShell.Command.Execute
import PortfolioShell.Proofs.Resolutions
import PortfolioShell.Proofs.Sessions

/-!
# Going on from a directory

To change to the directory of one path and name another from there is to name both with a slash
between them. This is so of what the paths resolve to, hence of the nodes that any tree has there,
hence of what commands do: they answer alike and only spell the path as it was given to them. The
second path must not begin at the root, and the first must not be empty, since the slash between them
would then be the root.
-/
namespace PortfolioShell

namespace Path

variable {path name : String}

/-- What follows a path and a slash is followed from where the path leads. -/
theorem segments_resolve_append (written : path ≠ "") (name cwd : String) :
    segments (resolve (path ++ "/" ++ name) cwd) =
      normalize (segments (resolve path cwd) ++ segments name) := by
  have isSegment : ∀ s ∈ segments (anchor path cwd), IsSegment s :=
    fun s hs => isSegment_of_mem_segments hs
  rw [segments_resolve, segments_resolve, segments_anchor_append written,
    normalize_append isSegment]

theorem resolve_append (written : path ≠ "") (relative : IsRelative name) (cwd : String) :
    resolve name (resolve path cwd) = resolve (path ++ "/" ++ name) cwd := by
  apply (isNormal_resolve _ _).eq_of_segments (isNormal_resolve _ _)
  rw [segments_resolve_append written, segments_resolve, relative.anchor_eq,
    segments_append_slash]

/-- What stands before a slash is no part of the last segment. -/
theorem baseName_append (path name : String) : baseName (path ++ "/" ++ name) = baseName name := by
  have chars : (path ++ "/" ++ name).toList = path.toList ++ '/' :: name.toList := by simp
  have parted : Text.pieces (· == '/') (path.toList ++ '/' :: name.toList) = _ :=
    Text.pieces_append_cut path.toList name.toList rfl
  obtain ⟨first, more, hpieces⟩ :=
    List.exists_cons_of_ne_nil (Text.pieces_ne_nil (· == '/') name.toList)
  rw [baseName, baseName, Text.splitAtChar, Text.splitAtChar, chars, parted, hpieces, List.map_append,
    List.map_cons, List.getLast?_append, List.getLast?_cons]
  rfl

end Path

/-! ### Spellings of a path -/

/-- Outputs that differ at most in how they spell a path: in the words of a message, or in the name
of the file that is viewed. -/
inductive Output.Respells (one other : String) : Output → Output → Prop
  | same (output : Output) : Respells one other output output
  | message (before after : String) :
      Respells one other (.text (before ++ one ++ after)) (.text (before ++ other ++ after))
  | viewer (content : String) :
      Respells one other (.directive (.openViewer one content))
        (.directive (.openViewer other content))

namespace Output.Respells
variable {one other : String}

theorem ending (before : String) :
    Respells one other (.text (before ++ one)) (.text (before ++ other)) := by
  have bare : Respells one other (.text (before ++ one ++ "")) (.text (before ++ other ++ "")) :=
    .message before ""
  rwa [String.append_empty, String.append_empty] at bare

theorem failing (before : String) (e : BackendError) :
    Respells one other (.text (before ++ one ++ ": " ++ e.message))
      (.text (before ++ other ++ ": " ++ e.message)) := by
  have told : Respells one other (.text (before ++ one ++ (": " ++ e.message)))
      (.text (before ++ other ++ (": " ++ e.message))) := .message before _
  rwa [← String.append_assoc, ← String.append_assoc] at told

end Output.Respells

/-- Outcomes that differ at most in how they spell a path. They change to the same directory and leave
the backend in the same state. -/
structure Dispatch.Respells {σ : Type} (one other : String) (outcome second : Dispatch × σ) :
    Prop where
  output : ∃ said told, outcome.1.output = some said ∧ second.1.output = some told ∧
    Output.Respells one other said told
  cwd : outcome.1.cwd = second.1.cwd
  backend : outcome.2 = second.2

theorem Dispatch.Respells.of_outputs {σ : Type} {one other : String} {said told : Output}
    {target last : Option String} {b c : σ} (output : Output.Respells one other said told)
    (cwd : target = last) (backend : b = c) :
    Dispatch.Respells one other (⟨some said, target⟩, b) (⟨some told, last⟩, c) :=
  ⟨⟨said, told, rfl, rfl, output⟩, cwd, backend⟩

/-- A command that is given a path. -/
inductive PathCall where
  | ls
  | cd
  | cat
  | grep (pattern : String)
  | vim

namespace PathCall

/-- The command that is called. -/
def command : PathCall → FileCommand
  | ls => .ls
  | cd => .cd
  | cat => .cat
  | grep _ => .grep
  | vim => .vim

/-- The arguments of the call up to its path, followed by arguments that nobody reads. -/
def args (call : PathCall) (path : String) (more : List String) : List String :=
  match call with
  | grep pattern => pattern :: path :: more
  | _ => path :: more

/-- What is said about a path that names nothing. -/
def absent (call : PathCall) (path : String) : String :=
  match call with
  | ls => s!"ls: cannot access '{path}': No such file or directory"
  | cd => s!"cd: no such file or directory: {path}"
  | cat => s!"cat: {path}: No such file or directory"
  | grep _ => s!"grep: {path}: No such file or directory"
  | vim => s!"vim: Cannot find file \"{path}\""

section
variable {σ : Type} [Backend σ]

/-- The call in a directory. -/
def run (call : PathCall) (path : String) (more : List String) (cwd : String)
    (setting : Setting) : StateM σ Dispatch :=
  call.command.run (call.args path more) cwd setting

variable {setting : Setting} {path other cwd dir : String}

section
variable (path : String) (more : List String) (cwd : String) (setting : Setting) (b : σ)

theorem run_ls : ls.run path more cwd setting b =
    (⟨some (Files.ls (path :: more) cwd setting.tree), none⟩, b) := rfl

theorem run_cd : cd.run path more cwd setting b =
    (⟨some (Files.cd (path :: more) cwd setting.tree).1,
      (Files.cd (path :: more) cwd setting.tree).2⟩, b) := by
  simp only [run, command, args, FileCommand.run]
  generalize Files.cd (path :: more) cwd setting.tree = moved
  rfl

theorem run_cat : cat.run path more cwd setting b =
    (⟨some (Files.cat (path :: more) cwd setting b).1, none⟩,
      (Files.cat (path :: more) cwd setting b).2) :=
  staying_apply (Files.cat (path :: more) cwd setting) b

theorem run_grep (pattern : String) : (grep pattern).run path more cwd setting b =
    (⟨some (Files.grep (pattern :: path :: more) cwd setting b).1, none⟩,
      (Files.grep (pattern :: path :: more) cwd setting b).2) :=
  staying_apply (Files.grep (pattern :: path :: more) cwd setting) b

theorem run_vim : vim.run path more cwd setting b =
    (⟨some (Files.vim (path :: more) cwd setting b).1, none⟩,
      (Files.vim (path :: more) cwd setting b).2) :=
  staying_apply (Files.vim (path :: more) cwd setting) b

end

theorem run_of_absent (nothing : setting.tree.node? path cwd = none) (call : PathCall)
    (more : List String) (b : σ) :
    call.run path more cwd setting b = (⟨some (.text (call.absent path)), none⟩, b) := by
  cases call with
  | ls =>
    rw [run_ls]
    simp only [Files.ls, List.headD_cons, nothing]
    rfl
  | cd =>
    rw [run_cd]
    simp only [Files.cd, List.headD_cons, nothing]
    rfl
  | cat =>
    rw [run_cat]
    simp only [Files.cat, nothing]
    rfl
  | grep pattern =>
    rw [run_grep]
    simp only [Files.grep, nothing]
    rfl
  | vim =>
    rw [run_vim]
    simp only [Files.vim, nothing]
    rfl

end

/-! ### Two spellings of one place -/

section
variable {one other cwd dir : String} (more : List String)

theorem ls_respells {tree : Tree} (found : tree.node? one cwd = tree.node? other dir)
    (name : Path.baseName one = Path.baseName other) :
    Output.Respells one other (Files.ls (one :: more) cwd tree)
      (Files.ls (other :: more) dir tree) := by
  simp only [Files.ls, List.headD_cons, found]
  cases tree.node? other dir with
  | none => exact .message "ls: cannot access '" "': No such file or directory"
  | some node =>
    cases node with
    | file content => exact name ▸ .same _
    | directory children => exact .same _

theorem cd_respells {tree : Tree} (found : tree.node? one cwd = tree.node? other dir)
    (place : Path.resolve one cwd = Path.resolve other dir) :
    Output.Respells one other (Files.cd (one :: more) cwd tree).1
        (Files.cd (other :: more) dir tree).1 ∧
      (Files.cd (one :: more) cwd tree).2 = (Files.cd (other :: more) dir tree).2 := by
  simp only [Files.cd, List.headD_cons, found, place]
  cases tree.node? other dir with
  | none => exact ⟨.ending "cd: no such file or directory: ", rfl⟩
  | some node =>
    cases node with
    | file content => exact ⟨.ending "cd: not a directory: ", rfl⟩
    | directory children => exact ⟨.same _, rfl⟩

variable {σ : Type} [Backend σ] {setting : Setting}

theorem cat_respells (found : setting.tree.node? one cwd = setting.tree.node? other dir) (b : σ) :
    Output.Respells one other (Files.cat (one :: more) cwd setting b).1
        (Files.cat (other :: more) dir setting b).1 ∧
      (Files.cat (one :: more) cwd setting b).2 = (Files.cat (other :: more) dir setting b).2 := by
  simp only [Files.cat, found]
  cases setting.tree.node? other dir with
  | none => exact ⟨.message "cat: " ": No such file or directory", rfl⟩
  | some node =>
    cases node with
    | directory children => exact ⟨.message "cat: " ": Is a directory", rfl⟩
    | file content =>
      cases content with
      | stored text => exact ⟨.same _, rfl⟩
      | produced producer =>
        simp only [bind_apply]
        cases (Files.read setting.site (.produced producer) b).1 with
        | error e => exact ⟨.failing "cat: " e, rfl⟩
        | ok readable =>
          cases readable with
          | text s => exact ⟨.same _, rfl⟩
          | rich blocks => exact ⟨.same _, rfl⟩

theorem grep_respells (pattern : String)
    (found : setting.tree.node? one cwd = setting.tree.node? other dir) (b : σ) :
    Output.Respells one other (Files.grep (pattern :: one :: more) cwd setting b).1
        (Files.grep (pattern :: other :: more) dir setting b).1 ∧
      (Files.grep (pattern :: one :: more) cwd setting b).2 =
        (Files.grep (pattern :: other :: more) dir setting b).2 := by
  simp only [Files.grep, found]
  cases setting.tree.node? other dir with
  | none => exact ⟨.message "grep: " ": No such file or directory", rfl⟩
  | some node =>
    cases node with
    | directory children => exact ⟨.message "grep: " ": Is a directory", rfl⟩
    | file content =>
      simp only [bind_apply]
      cases (Files.read setting.site content b).1 with
      | error e => exact ⟨.failing "grep: " e, rfl⟩
      | ok readable =>
        cases readable with
        | text s => exact ⟨.same _, rfl⟩
        | rich blocks => exact ⟨.ending "grep: cannot search in ", rfl⟩

theorem vim_respells (found : setting.tree.node? one cwd = setting.tree.node? other dir) (b : σ) :
    Output.Respells one other (Files.vim (one :: more) cwd setting b).1
        (Files.vim (other :: more) dir setting b).1 ∧
      (Files.vim (one :: more) cwd setting b).2 = (Files.vim (other :: more) dir setting b).2 := by
  simp only [Files.vim, found]
  cases setting.tree.node? other dir with
  | none => exact ⟨.message "vim: Cannot find file \"" "\"", rfl⟩
  | some node =>
    cases node with
    | directory children => exact ⟨.message "vim: \"" "\" is a directory", rfl⟩
    | file content =>
      simp only [bind_apply]
      cases (Files.read setting.site content b).1 with
      | error e => exact ⟨.failing "vim: " e, rfl⟩
      | ok readable =>
        cases readable with
        | text s => exact ⟨.viewer s, rfl⟩
        | rich blocks =>
          exact ⟨.message "vim: Cannot open \"" "\". File does not contain plain text.", rfl⟩

/-- Commands do not tell two spellings of one place apart, if they end in the same segment. -/
theorem run_respells (place : Path.resolve one cwd = Path.resolve other dir)
    (name : Path.baseName one = Path.baseName other) (call : PathCall) (b : σ) :
    Dispatch.Respells one other (call.run one more cwd setting b)
      (call.run other more dir setting b) := by
  have found : setting.tree.node? one cwd = setting.tree.node? other dir := by
    rw [Tree.node?, Tree.node?, place]
  cases call with
  | ls =>
    rw [run_ls, run_ls]
    exact .of_outputs (ls_respells more found name) rfl rfl
  | cd =>
    obtain ⟨output, target⟩ := cd_respells more found place
    rw [run_cd, run_cd]
    exact .of_outputs output target rfl
  | cat =>
    obtain ⟨output, backend⟩ := cat_respells more found b
    rw [run_cat, run_cat]
    exact .of_outputs output rfl backend
  | grep pattern =>
    obtain ⟨output, backend⟩ := grep_respells more pattern found b
    rw [run_grep, run_grep]
    exact .of_outputs output rfl backend
  | vim =>
    obtain ⟨output, backend⟩ := vim_respells more found b
    rw [run_vim, run_vim]
    exact .of_outputs output rfl backend

/-- Whoever has changed the directory is where the path leads. -/
theorem cd_of_changed {b : σ}
    (changed : (cd.run one more cwd setting b).1.cwd = some dir) :
    cd.run one more cwd setting b = (⟨some .silent, some dir⟩, b) ∧
      dir = Path.resolve one cwd := by
  cases found : setting.tree.node? one cwd with
  | none =>
    rw [run_of_absent found] at changed
    cases changed
  | some node =>
    rw [run_cd] at changed ⊢
    simp only [Files.cd, List.headD_cons, found] at changed ⊢
    cases node with
    | file content => cases changed
    | directory children =>
      obtain rfl : Path.resolve one cwd = dir := Option.some.inj changed
      exact ⟨rfl, rfl⟩

end

end PathCall

/-! ### All paths -/

/-- What it comes to that a path is followed first and a name from where it has led. -/
structure GoesOn (path name cwd : String) : Prop where
  /-- Both can be followed at once, with a slash between them, -/
  resolves : Path.resolve name (Path.resolve path cwd) = Path.resolve (path ++ "/" ++ name) cwd
  /-- and in every tree that leads to the same node, or to nothing. -/
  found : ∀ tree : Tree,
    tree.node? name (Path.resolve path cwd) = tree.node? (path ++ "/" ++ name) cwd
  /-- Once `cd` has changed to the directory of the path, commands answer to the name as they would
  have answered to both before, -/
  answers : ∀ (σ : Type) [Backend σ] (setting : Setting) (b : σ) (dir : String),
    (PathCall.cd.run path [] cwd setting b).1.cwd = some dir →
      ∀ (call : PathCall) (more : List String),
        Dispatch.Respells name (path ++ "/" ++ name) (call.run name more dir setting b)
          (call.run (path ++ "/" ++ name) more cwd setting b)
  /-- they miss the node of the name in the same cases, -/
  misses : ∀ (σ : Type) [Backend σ] (setting : Setting) (b : σ) (dir : String),
    (PathCall.cd.run path [] cwd setting b).1.cwd = some dir →
      (setting.tree.node? name dir = none ↔
          setting.tree.node? (path ++ "/" ++ name) cwd = none) ∧
        (setting.tree.node? name dir = none → ∀ (call : PathCall) (more : List String),
          call.run name more dir setting b = (⟨some (.text (call.absent name)), none⟩, b) ∧
            call.run (path ++ "/" ++ name) more cwd setting b =
              (⟨some (.text (call.absent (path ++ "/" ++ name))), none⟩, b))
  /-- and a second `cd` ends where a single one would have ended. -/
  arrives : ∀ (σ : Type) [Backend σ] (setting : Setting) (b : σ) (dir last : String),
    (PathCall.cd.run path [] cwd setting b).1.cwd = some dir →
    (PathCall.cd.run name [] dir setting b).1.cwd = some last →
      PathCall.cd.run (path ++ "/" ++ name) [] cwd setting b = (⟨some .silent, some last⟩, b)

/-- A path that goes on from a directory is the path of the directory, a slash, and the rest. -/
theorem goesOn {path name : String} (written : path ≠ "") (relative : Path.IsRelative name)
    (cwd : String) : GoesOn path name cwd := by
  have place := Path.resolve_append written relative cwd
  have found (tree : Tree) :
      tree.node? name (Path.resolve path cwd) = tree.node? (path ++ "/" ++ name) cwd := by
    rw [Tree.node?, Tree.node?, place]
  have base := (Path.baseName_append path name).symm
  constructor
  case resolves => exact place
  case found => exact found
  case answers =>
    intro σ _ setting b dir changed call more
    obtain ⟨_, rfl⟩ := PathCall.cd_of_changed [] changed
    exact PathCall.run_respells more place base call b
  case misses =>
    intro σ _ setting b dir changed
    obtain ⟨_, rfl⟩ := PathCall.cd_of_changed [] changed
    constructor
    · rw [found]
    · intro nothing call more
      have before : setting.tree.node? (path ++ "/" ++ name) cwd = none := found _ ▸ nothing
      exact ⟨PathCall.run_of_absent nothing call more b, PathCall.run_of_absent before call more b⟩
  case arrives =>
    intro σ _ setting b dir last changed again
    obtain ⟨_, rfl⟩ := PathCall.cd_of_changed [] changed
    have alike : Dispatch.Respells name (path ++ "/" ++ name)
        (PathCall.cd.run name [] (Path.resolve path cwd) setting b)
        (PathCall.cd.run (path ++ "/" ++ name) [] cwd setting b) :=
      PathCall.run_respells [] place base .cd b
    exact (PathCall.cd_of_changed [] (alike.cwd.symm.trans again)).1

/-- From the directory of projects back to the root, by way of a directory that is left again. -/
theorem goesOn_from_projects :
    "mycode/../projects/" ≠ "" ∧ Path.IsRelative "./../quotes.txt" ∧
      GoesOn "mycode/../projects/" "./../quotes.txt" "/" ∧
      (let setting := Session.ofBuiltin.setting
       let store := Session.ofBuiltin.backend
       (PathCall.cd.run "mycode/../projects/" [] "/" setting store).1.cwd = some "/projects" ∧
         setting.tree.node? "./../quotes.txt" "/projects" = setting.tree.node? "quotes.txt" "/" ∧
         Dispatch.Respells "./../quotes.txt" "mycode/../projects//./../quotes.txt"
           (PathCall.vim.run "./../quotes.txt" [] "/projects" setting store)
           (PathCall.vim.run "mycode/../projects//./../quotes.txt" [] "/" setting store)) := by
  have written : "mycode/../projects/" ≠ "" := by decide
  have relative : Path.IsRelative "./../quotes.txt" := by
    constructor
    · decide
    · rintro rest ⟨⟩
    · rintro rest ⟨⟩
  have law := goesOn written relative "/"
  refine ⟨written, relative, law, ?_⟩
  intro setting store
  have changed : (PathCall.cd.run "mycode/../projects/" [] "/" setting store).1.cwd =
      some "/projects" := by decide +kernel
  exact ⟨changed, (law.found _).trans rfl, law.answers _ _ _ _ changed _ _⟩

end PortfolioShell
