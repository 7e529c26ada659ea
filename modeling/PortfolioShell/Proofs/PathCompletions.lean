import PortfolioShell.Proofs.Completions
import PortfolioShell.Proofs.Compositions
import PortfolioShell.Proofs.Listings

/-!
# Completed paths lead where completion has looked

A path is completed by the children of the directory that its front names, up to the last slash. The
completed path leads to the very child that it was completed to, also for a command that is given it
later, since its front is taken from the same place and the name behind it is followed as a name. So
names must have no blanks and must not be `.`, `..` or `~`.
-/
namespace PortfolioShell

namespace Path

/-! ### The last slash -/

/-- What a path is cut into at its last slash: a front that is empty or ends in a slash, and a name
without slashes. -/
structure IsCut (path front name : String) : Prop where
  whole : front ++ name = path
  slash : front = "" ∨ ∃ before, front = before ++ "/"
  uncut : '/' ∉ name.toList

theorem baseName_of_uncut {name : String} (uncut : '/' ∉ name.toList) : baseName name = name := by
  have single : Text.pieces (· == '/') name.toList = [name.toList] := by
    apply Text.pieces_of_uncut
    intro c hc
    have different : c ≠ '/' := by
      rintro rfl
      exact uncut hc
    simpa using different
  simp [baseName, Text.splitAtChar, single]

/-- Every path has a last slash or none. -/
theorem exists_isCut (path : String) : ∃ front name, IsCut path front name := by
  have notSlash : ∀ after : List Char, (∀ d ∈ after, (d == '/') = false) → '/' ∉ after := by
    intro after uncut mem
    exact absurd (uncut '/' mem) (by decide)
  rcases Text.uncut_or_last_cut (· == '/') path.toList with
    uncut | ⟨before, c, after, whole, cut, uncut⟩
  · exact ⟨"", path, String.empty_append, Or.inl rfl, notSlash _ uncut⟩
  · obtain rfl : c = '/' := by simpa using cut
    refine ⟨String.ofList before ++ "/", String.ofList after, ?_, Or.inr ⟨_, rfl⟩, ?_⟩
    · apply String.toList_inj.mp
      simp [whole]
    · rw [String.toList_ofList]
      exact notSlash after uncut

theorem cutLast_eq_iff {path front name : String} :
    cutLast path = (front, name) ↔ IsCut path front name := by
  have found {front name : String} (cut : IsCut path front name) :
      cutLast path = (front, name) := by
    obtain ⟨rfl, slash, uncut⟩ := cut
    apply cutLast_of_baseName
    rcases slash with rfl | ⟨before, rfl⟩
    · rw [String.empty_append, baseName_of_uncut uncut]
    · rw [baseName_append, baseName_of_uncut uncut]
  constructor
  · intro told
    obtain ⟨before, last, cut⟩ := exists_isCut path
    obtain ⟨rfl, rfl⟩ := Prod.mk.inj ((found cut).symm.trans told)
    exact cut
  · exact found

theorem IsCut.baseName_eq {path front name : String} (cut : IsCut path front name) :
    baseName path = name := congrArg Prod.snd (cutLast_eq_iff.mpr cut)

/-- A name is not taken from the root. -/
theorem isRelative_of_uncut {name : String} (uncut : '/' ∉ name.toList) (notHome : name ≠ "~") :
    IsRelative name := by
  constructor
  case notHome =>
    intro home
    exact notHome (String.toList_inj.mp home)
  case notBelowHome =>
    intro rest belowHome
    exact uncut (by simp [belowHome])
  case notAbsolute =>
    intro rest absolute
    exact uncut (by simp [absolute])

theorem IsRelative.segments_anchor {path : String} (relative : IsRelative path) (cwd : String) :
    segments (anchor path cwd) = segments cwd ++ segments path := by
  rw [relative.anchor_eq, segments_append_slash]

/-- An empty path is taken from the working directory and stays there. -/
theorem segments_anchor_empty (cwd : String) : segments (anchor "" cwd) = segments cwd := by
  have relative : IsRelative "" := isRelative_of_uncut (by decide) (by decide)
  rw [relative.segments_anchor]
  exact List.append_nil (segments cwd)

theorem segments_anchor_then_slash {path : String} (written : path ≠ "") (cwd : String) :
    segments (anchor (path ++ "/") cwd) = segments (anchor path cwd) := by
  have closed := segments_anchor_append written "" cwd
  rw [String.append_empty] at closed
  rw [closed]
  exact List.append_nil _

/-- Behind a slash every segment is a name, also the one of the home directory. -/
theorem segments_anchor_behind_slash (before name cwd : String) :
    segments (anchor (before ++ "/" ++ name) cwd) =
      segments (anchor (before ++ "/") cwd) ++ segments name := by
  by_cases nothing : before = ""
  · -- the slash is the root, so nothing is left of the working directory
    subst nothing
    have there : anchor ("" ++ "/" ++ name) cwd = "/" ++ name := by
      simp [anchor]
    have root : anchor ("" ++ "/") cwd = "/" := by
      simp [anchor]
    rw [there, root, segments_slash_append]
    rfl
  · rw [segments_anchor_append nothing, segments_anchor_then_slash nothing]

/-- Behind its front a path goes on from where the front is taken from. -/
theorem segments_anchor_behind {front name : String}
    (slash : front = "" ∨ ∃ before, front = before ++ "/") (relative : IsRelative name)
    (cwd : String) :
    segments (anchor (front ++ name) cwd) = segments (anchor front cwd) ++ segments name := by
  rcases slash with rfl | ⟨before, rfl⟩
  · rw [String.empty_append, relative.segments_anchor, segments_anchor_empty]
  · exact segments_anchor_behind_slash before name cwd

end Path

/-! ### Looking up behind a front -/

namespace Tree

variable {tree : Tree} {front name cwd : String} {children : List (String × Node)}

/-- An empty path names the working directory, as `.` does. -/
theorem node?_empty (tree : Tree) (cwd : String) : tree.node? "" cwd = tree.node? "." cwd := by
  have relative : Path.IsRelative "." := Path.isRelative_of_uncut (by decide) (by decide)
  have segment : Path.segments "." = ["."] := Path.segments_of_isSegment (by constructor <;> decide)
  rw [node?_eq_descend?, node?_eq_descend?, Path.segments_anchor_empty, relative.segments_anchor,
    segment, Path.normalize_concat_here]

theorem node?_behind (found : tree.node? front cwd = some (.directory children))
    (slash : front = "" ∨ ∃ before, front = before ++ "/") (plain : Path.IsPlain name)
    (notHome : name ≠ "~") : tree.node? (front ++ name) cwd = Node.child? children name := by
  have relative := Path.isRelative_of_uncut plain.2.2.2 notHome
  rw [node?_eq_descend?] at found ⊢
  rw [Path.segments_anchor_behind slash relative, Path.segments_of_isSegment plain.isSegment,
    Path.normalize_concat_plain plain.2.1 plain.2.2.1, Node.descend?_append, found,
    Option.bind_some, Node.descend?_cons]
  exact Option.bind_fun_some _

/-- A slash behind a path changes nothing. -/
theorem node?_then_slash {path : String} (written : path ≠ "") (tree : Tree) (cwd : String) :
    tree.node? (path ++ "/") cwd = tree.node? path cwd := by
  rw [node?_eq_descend?, node?_eq_descend?, Path.segments_anchor_then_slash written]

end Tree

namespace Completion

/-! ### Words that end in a path -/

/-- Words of which the last one is an argument that is a path: any argument of `cd`, `ls`, `cat` and
`vim`, and of `grep` those behind the pattern. -/
def TakesPath (words : List String) : Prop :=
  (2 ≤ words.length ∧ words.headD "" ∈ ["cd", "ls", "cat", "vim"]) ∨
    (3 ≤ words.length ∧ words.headD "" = "grep")

instance (words : List String) : Decidable (TakesPath words) :=
  inferInstanceAs (Decidable (_ ∨ _))

theorem kindOf_of_takesPath {words : List String} (takes : TakesPath words) :
    kindOf words = .path := by
  have several : ¬ words.length ≤ 1 := by
    rcases takes with ⟨size, _⟩ | ⟨size, _⟩
    · omega
    · omega
  have notPost : ¬ (words.length = 2 ∧ words.headD "" = "post") := by
    rintro ⟨_, post⟩
    rcases takes with ⟨_, listed⟩ | ⟨_, grep⟩
    · rw [post] at listed
      exact absurd listed (by decide)
    · rw [post] at grep
      exact absurd grep (by decide)
  have path : pathCommands.contains (words.headD "") ∨
      (words.headD "" = "grep" ∧ 3 ≤ words.length) := by
    rcases takes with ⟨_, listed⟩ | ⟨size, grep⟩
    · exact Or.inl (List.contains_iff_mem.mpr listed)
    · exact Or.inr ⟨grep, size⟩
  simp only [kindOf]
  rw [if_neg several, if_neg notPost, if_pos path]

/-- A name that a line can hold and a path can end in. -/
def IsFileName (name : String) : Prop :=
  (∀ c ∈ name.toList, Text.isBlank c = false) ∧ name ≠ "." ∧ name ≠ ".." ∧ name ≠ "~"

instance (name : String) : Decidable (IsFileName name) :=
  @instDecidableAnd _ _ (List.decidableBAll _ name.toList) inferInstance

/-- A name of a child that begins with what has been typed of it. -/
def IsCandidate (children : List (String × Node)) (typed name : String) : Prop :=
  (∃ child, Node.child? children name = some child) ∧ typed.toList <+: name.toList

/-- The word that a path is completed to by a child: a directory gets a slash. -/
def closed (path : String) (child : Node) : String :=
  if child.isDirectory then path ++ "/" else path

/-- What completion answers to a line whose last word is cut into a front and the beginning of a
name. -/
structure PathLaw (tree : Tree) (line cwd front name : String) (answer : Completion) : Prop where
  /-- The front has to name a directory. -/
  elsewhere : tree.isDirectory front cwd = false → answer = nothing
  /-- Completed is then from the names of its children that begin with that of the word. -/
  among : ∀ children, tree.node? front cwd = some (.directory children) →
    ∃ names, names.Nodup ∧ (∀ candidate, candidate ∈ names ↔ IsCandidate children name candidate) ∧
      answer = ofCandidates (Text.join " " (UnfinishedLine.earlier line) ++ " " ++ front) name names
        (childEnding children)
  /-- What is listed is all of them, and there are at least two. -/
  lists : ∀ children, tree.node? front cwd = some (.directory children) →
    answer.suggestions ≠ [] → 2 ≤ answer.suggestions.length ∧ answer.suggestions.Nodup ∧
      ∀ candidate, candidate ∈ answer.suggestions ↔ IsCandidate children name candidate
  /-- The only one completes the word, with a slash behind a directory and a blank behind a file. The
  new line has the same words but for the last one, which leads to the very child. -/
  only : ∀ children, tree.node? front cwd = some (.directory children) →
    ∀ only child, Node.child? children only = some child →
    (∀ candidate, IsCandidate children name candidate ↔ candidate = only) →
    ∃ other, answer = replacing other ∧
      other = Text.join " " (UnfinishedLine.earlier line) ++ " " ++ front ++ only ++
        (if child.isDirectory then "/" else " ") ∧
      tree.node? (front ++ only) cwd = some child ∧
      Text.words other = UnfinishedLine.earlier line ++ [closed (front ++ only) child] ∧
      tree.node? (closed (front ++ only) child) cwd = some child

section
variable {tree : Tree} {line cwd front name : String} {children : List (String × Node)}

theorem node?_search (tree : Tree) (front cwd : String) :
    tree.node? (if front.isEmpty then "." else front) cwd = tree.node? front cwd := by
  by_cases empty : front = ""
  · subst empty
    exact (tree.node?_empty cwd).symm
  · rw [if_neg (by simpa using empty)]

theorem ofPath_of_directory {path : String} (cut : Path.IsCut path front name)
    (found : tree.node? front cwd = some (.directory children)) (earlier : List String) :
    ofPath earlier path cwd tree =
      ofCandidates (Text.join " " earlier ++ " " ++ front) name
        ((children.map (·.1)).filter (Text.beginsWith name)) (childEnding children) := by
  unfold ofPath
  rw [Path.cutLast_eq_iff.mpr cut]
  dsimp only
  rw [node?_search, found]

theorem ofPath_elsewhere {path : String} (cut : Path.IsCut path front name)
    (elsewhere : tree.isDirectory front cwd = false) (earlier : List String) :
    ofPath earlier path cwd tree = nothing := by
  unfold ofPath
  rw [Path.cutLast_eq_iff.mpr cut]
  dsimp only
  rw [node?_search]
  split
  · rename_i children found
    rw [Tree.isDirectory_iff.mpr ⟨children, found⟩] at elsewhere
    cases elsewhere
  · rfl

theorem mem_names_iff (distinct : (children.map (·.1)).Nodup) (typed candidate : String) :
    candidate ∈ (children.map (·.1)).filter (Text.beginsWith typed) ↔
      IsCandidate children typed candidate := by
  rw [List.mem_filter, IsCandidate, Text.beginsWith, List.isPrefixOf_iff_prefix]
  refine and_congr_left fun _ => ?_
  constructor
  · intro named
    obtain ⟨⟨own, child⟩, mem, rfl⟩ := List.mem_map.mp named
    exact ⟨child, Node.child?_of_mem distinct mem⟩
  · rintro ⟨child, found⟩
    exact List.mem_map.mpr ⟨_, Node.mem_of_child? found, rfl⟩

theorem childEnding_of_child? {child : Node} (found : Node.child? children name = some child) :
    childEnding children name = if child.isDirectory then "/" else " " := by
  rw [childEnding, found]
  cases child with
  | file content => rfl
  | directory inner => rfl

/-! ### The candidates -/

/-- What is listed is all candidates, and there are several. -/
theorem several_of_suggestions {before typed : String} {names : List String}
    {ending : String → String} (listed : (ofCandidates before typed names ending).suggestions ≠ []) :
    2 ≤ names.length ∧ (ofCandidates before typed names ending).suggestions = sorted names := by
  match names with
  | [] => exact absurd rfl listed
  | [only] => exact absurd rfl listed
  | first :: second :: rest =>
    simp only [ofCandidates] at listed ⊢
    split at listed
    · exact absurd rfl listed
    · rename_i short
      rw [if_neg short]
      exact ⟨by simp, rfl⟩

/-- Names without repetition that are all one name. -/
theorem eq_singleton {names : List String} {only : String} (distinct : names.Nodup)
    (single : ∀ candidate, candidate ∈ names ↔ candidate = only) : names = [only] := by
  have one : [only].Nodup := by simp
  apply List.perm_singleton.mp
  apply (List.perm_ext_iff_of_nodup distinct one).mpr
  intro candidate
  rw [single, List.mem_singleton]

/-! ### Where a completed word leads -/

section
variable {child : Node}

/-- The children of a directory of a sound tree with typable names. -/
theorem children_of_node? (sound : tree.root.IsSound)
    (typable : tree.root.allNames (fun name => decide (IsFileName name)) = true)
    (found : tree.node? front cwd = some (.directory children)) :
    (children.map (·.1)).Nodup ∧ ∀ own inner, Node.child? children own = some inner →
      Path.IsPlain own ∧ IsFileName own := by
  rw [Tree.node?_eq_descend?] at found
  have below := Node.allNames_of_descend? typable found
  cases sound.descend? found with
  | directory segments distinct _ =>
    refine ⟨distinct, fun own inner hown => ?_⟩
    have mem := Node.mem_of_child? hown
    have segment := segments _ mem
    have passed := (Node.allNamesIn_iff.mp (by simpa [Node.allNames] using below) _ mem).1
    have fileName : IsFileName own := of_decide_eq_true passed
    have plain : Path.IsPlain own := ⟨segment.1, fileName.2.1, fileName.2.2.1, segment.2⟩
    exact ⟨plain, fileName⟩

theorem node?_closed (led : tree.node? (front ++ name) cwd = some child)
    (written : front ++ name ≠ "") :
    tree.node? (closed (front ++ name) child) cwd = some child := by
  rw [closed]
  split
  · rw [Tree.node?_then_slash written, led]
  · exact led

/-- The completed line has the completed word for its last. -/
theorem words_completed (line : String) (child : Node) (word : Text.IsWord (front ++ name)) :
    Text.words (Text.join " " (UnfinishedLine.earlier line) ++ " " ++ front ++ name ++
      (if child.isDirectory then "/" else " ")) =
        UnfinishedLine.earlier line ++ [closed (front ++ name) child] := by
  cases kind : child.isDirectory with
  | false =>
    rw [closed, kind]
    simp only [Bool.false_eq_true, if_false]
    rw [Text.words_then_blank, String.append_assoc, UnfinishedLine.words_behind line word]
  | true =>
    have whole : Text.IsWord (front ++ name ++ "/") := Text.isWord_append word.2 (by decide)
    rw [closed, kind]
    simp only [if_true]
    rw [← UnfinishedLine.words_behind line whole]
    simp only [String.append_assoc]

end

end

/-! ### Lines that end in a path -/

section
variable {tree : Tree} {line cwd front name : String}

theorem pathLaw_ofPath (sound : tree.root.IsSound)
    (typable : tree.root.allNames (fun name => decide (IsFileName name)) = true)
    (cut : Path.IsCut (UnfinishedLine.typed line) front name) :
    PathLaw tree line cwd front name
      (ofPath (UnfinishedLine.earlier line) (UnfinishedLine.typed line) cwd tree) := by
  have frontUncut : ∀ c ∈ front.toList, Text.isBlank c = false := by
    intro c hc
    apply UnfinishedLine.typed_uncut line
    rw [← cut.whole, String.toList_append]
    exact List.mem_append_left _ hc
  constructor
  case elsewhere =>
    intro elsewhere
    exact ofPath_elsewhere cut elsewhere _
  case among =>
    intro children found
    obtain ⟨distinct, _⟩ := children_of_node? sound typable found
    refine ⟨_, ?_, ?_, ofPath_of_directory cut found _⟩
    · exact distinct.filter _
    · exact mem_names_iff distinct name
  case lists =>
    intro children found listed
    obtain ⟨distinct, _⟩ := children_of_node? sound typable found
    rw [ofPath_of_directory cut found] at listed ⊢
    obtain ⟨several, all⟩ := several_of_suggestions listed
    have perm := sorted_perm ((children.map (·.1)).filter (Text.beginsWith name))
    rw [all]
    refine ⟨?_, ?_, ?_⟩
    · rw [perm.length_eq]
      exact several
    · rw [perm.nodup_iff]
      exact distinct.filter _
    · intro candidate
      rw [perm.mem_iff]
      exact mem_names_iff distinct name candidate
  case only =>
    -- the word that is closed and the word that is looked up have the same front
    intro children found only child own single
    obtain ⟨distinct, each⟩ := children_of_node? sound typable found
    obtain ⟨plain, uncut, _, _, notHome⟩ := each only child own
    have names : (children.map (·.1)).filter (Text.beginsWith name) = [only] := by
      apply eq_singleton (distinct.filter _)
      intro candidate
      rw [mem_names_iff distinct, single]
    have led : tree.node? (front ++ only) cwd = some child := by
      rw [Tree.node?_behind found cut.slash plain notHome, own]
    have word : Text.IsWord (front ++ only) := Text.isWord_append frontUncut ⟨plain.1, uncut⟩
    refine ⟨_, ?_, rfl, led, words_completed line child word, node?_closed led word.1⟩
    rw [ofPath_of_directory cut found, names, ofCandidates, childEnding_of_child? own]

theorem complete_of_path {σ : Type} [Backend σ] (path : kindOf (partialWords line) = .path)
    (cwd : String) (setting : Setting) (b : σ) : complete line cwd setting b =
      (ofPath (UnfinishedLine.earlier line) (UnfinishedLine.typed line) cwd setting.tree, b) := by
  simp only [complete, path, pure_apply]
  rfl

/-- A session that is told nothing stays as it is. -/
theorem tab_of_nothing {σ : Type} [Backend σ] {s : Session σ}
    (told : complete s.input s.cwd s.setting s.backend = (nothing, s.backend)) : s.tab = s := by
  cases takes : s.mode.takesCommands with
  | false => exact Session.tab_of_no_commands takes
  | true =>
    rw [Session.tab_of_commands takes, told]
    rfl

/-- In a tree with distinct names in each directory, as every site has, a path is completed by the
children of the directory that its front names, whatever the backend holds, and the completed path
leads to the child that it was completed to. Behind a front that names no directory nothing
changes. -/
theorem pathLaw_of_typed {setting : Setting} (sound : setting.tree.root.IsSound)
    (typable : setting.tree.root.allNames (fun name => decide (IsFileName name)) = true)
    (takes : TakesPath (partialWords line))
    (cut : Path.IsCut (UnfinishedLine.typed line) front name) (cwd : String) :
    ∃ answer, PathLaw setting.tree line cwd front name answer ∧
      (∀ (σ : Type) [Backend σ] (b : σ), complete line cwd setting b = (answer, b)) ∧
      (setting.tree.isDirectory front cwd = false → ∀ (σ : Type) [Backend σ] (s : Session σ),
        s.setting = setting → s.cwd = cwd → s.input = line → s.tab = s) := by
  have path := kindOf_of_takesPath takes
  have law : PathLaw setting.tree line cwd front name _ := pathLaw_ofPath sound typable cut
  refine ⟨_, law, ?_, ?_⟩
  · intro σ _ b
    exact complete_of_path path cwd setting b
  · rintro elsewhere σ _ s rfl rfl rfl
    apply tab_of_nothing
    rw [complete_of_path path, law.elsewhere elsewhere]

/-- A second argument of `grep` by way of a directory and back. -/
theorem pathLaw_through_projects :
    let setting := Session.ofBuiltin.setting
    let line := "grep love projects/../q"
    setting.tree.root.IsSound ∧
      setting.tree.root.allNames (fun name => decide (IsFileName name)) = true ∧
      TakesPath (partialWords line) ∧
      Path.IsCut (UnfinishedLine.typed line) "projects/../" "q" ∧
      PathLaw setting.tree line "/" "projects/../" "q"
        (replacing "grep love projects/../quotes.txt ") := by
  intro setting line
  have sound : setting.tree.root.IsSound := Tree.isSound_ofSite .builtin
  have typable : setting.tree.root.allNames (fun name => decide (IsFileName name)) = true := by
    decide +kernel
  have takes : TakesPath (partialWords line) := by decide +kernel
  have cut : Path.IsCut (UnfinishedLine.typed line) "projects/../" "q" :=
    ⟨by decide +kernel, Or.inr ⟨"projects/..", rfl⟩, by decide⟩
  obtain ⟨answer, law, completes, _⟩ := pathLaw_of_typed sound typable takes cut "/"
  have told : (complete line "/" setting (Store.empty "" (.ticking ⟨0, 0⟩))).1 =
      replacing "grep love projects/../quotes.txt " := by decide +kernel
  have same : answer = replacing "grep love projects/../quotes.txt " :=
    (congrArg Prod.fst (completes Store _)).symm.trans told
  exact ⟨sound, typable, takes, cut, same ▸ law⟩

end

end Completion

end PortfolioShell
