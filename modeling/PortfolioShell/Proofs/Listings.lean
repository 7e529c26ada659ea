import PortfolioShell.Command.Execute
import PortfolioShell.Proofs.Placements
import PortfolioShell.Proofs.Steps
import PortfolioShell.Proofs.UnfinishedLines
import PortfolioShell.Site.Document

/-!
# Opening what a listing names

No directory of a site's tree has two children of one name, and every name is a segment. So a path to
a directory, a slash and a listed name lead to the child that the listing means, unless the name is
`.` or `..`. Samples of code may have such names, since the tree takes names as they are; paths never
end in them, since resolution follows them. A line can name what is listed unless the name has a
blank.
-/
namespace PortfolioShell

namespace Node

/-! ### Names of children -/

/-- In every directory names are segments, and no two children have the same. -/
inductive IsSound : Node → Prop
  | file (content : FileContent) : IsSound (.file content)
  | directory {children : List (String × Node)}
      (segments : ∀ child ∈ children, Path.IsSegment child.1)
      (distinct : (children.map (·.1)).Nodup)
      (below : ∀ child ∈ children, IsSound child.2) : IsSound (.directory children)

variable {name : String} {node : Node} {children : List (String × Node)}

theorem child?_of_mem (distinct : (children.map (·.1)).Nodup) (mem : (name, node) ∈ children) :
    child? children name = some node := by
  induction children with
  | nil => cases mem
  | cons first rest ih =>
    obtain ⟨own, old⟩ := first
    rw [List.map_cons, List.nodup_cons] at distinct
    rw [child?_cons]
    rcases List.mem_cons.mp mem with same | later
    · obtain ⟨rfl, rfl⟩ := Prod.mk.inj same
      rw [if_pos rfl]
    · have other : name ≠ own := by
        rintro rfl
        exact distinct.1 (List.mem_map.mpr ⟨_, later, rfl⟩)
      rw [if_neg other]
      exact ih distinct.2 later

theorem mem_setChild {child : String × Node} (mem : child ∈ setChild name node children) :
    child = (name, node) ∨ child ∈ children := by
  induction children with
  | nil => exact Or.inl (List.mem_singleton.mp mem)
  | cons first rest ih =>
    obtain ⟨own, old⟩ := first
    rw [setChild] at mem
    split at mem
    · rcases List.mem_cons.mp mem with same | later
      · exact Or.inl same
      · exact Or.inr (List.mem_cons_of_mem _ later)
    · rcases List.mem_cons.mp mem with same | later
      · exact Or.inr (same ▸ List.mem_cons_self)
      · exact (ih later).imp_right (List.mem_cons_of_mem _)

theorem nodup_setChild (name : String) (node : Node) (distinct : (children.map (·.1)).Nodup) :
    ((setChild name node children).map (·.1)).Nodup := by
  induction children with
  | nil => simp [setChild]
  | cons first rest ih =>
    obtain ⟨own, old⟩ := first
    rw [List.map_cons, List.nodup_cons] at distinct
    rw [setChild]
    split
    · rename_i same
      rw [List.map_cons, List.nodup_cons, ← same]
      exact distinct
    · rename_i other
      rw [List.map_cons, List.nodup_cons]
      refine ⟨fun mem => ?_, ih distinct.2⟩
      obtain ⟨child, hchild, hname⟩ := List.mem_map.mp mem
      rcases mem_setChild hchild with rfl | old
      · exact other hname.symm
      · exact distinct.1 (hname ▸ List.mem_map_of_mem old)

theorem IsSound.child {child : Node} (sound : (Node.directory children).IsSound)
    (found : child? children name = some child) : child.IsSound := by
  cases sound with
  | directory segments distinct below => exact below _ (mem_of_child? found)

theorem IsSound.setChild (sound : (Node.directory children).IsSound)
    (segment : Path.IsSegment name) (added : node.IsSound) :
    (Node.directory (Node.setChild name node children)).IsSound := by
  cases sound with
  | directory segments distinct below =>
    refine .directory ?_ (nodup_setChild name node distinct) ?_
    · intro child mem
      rcases mem_setChild mem with rfl | old
      · exact segment
      · exact segments child old
    · intro child mem
      rcases mem_setChild mem with rfl | old
      · exact added
      · exact below child old

theorem IsSound.empty : (Node.directory []).IsSound := .directory (by simp) List.nodup_nil (by simp)

theorem IsSound.place {segs : List String} (sound : (Node.directory children).IsSound)
    (segments : ∀ s ∈ segs, Path.IsSegment s) (added : node.IsSound) :
    (Node.directory (Node.place node segs children)).IsSound := by
  induction segs generalizing children with
  | nil => exact sound
  | cons name rest ih =>
    obtain ⟨segment, segmentsRest⟩ := List.forall_mem_cons.mp segments
    cases rest with
    | nil => exact sound.setChild segment added
    | cons next more =>
      simp only [Node.place]
      split
      · exact sound.setChild segment (ih .empty segmentsRest)
      · rename_i inner found
        exact sound.setChild segment (ih (sound.child found) segmentsRest)
      · exact sound

theorem IsSound.descend? {found : Node} {segs : List String} (sound : node.IsSound)
    (led : node.descend? segs = some found) : found.IsSound := by
  induction segs generalizing node with
  | nil =>
    obtain rfl : node = found := Option.some.inj led
    exact sound
  | cons segment rest ih =>
    cases node with
    | file content => cases led
    | directory children =>
      obtain ⟨child, hchild, led⟩ := Option.bind_eq_some_iff.mp led
      exact ih (sound.child hchild) led

/-! ### Sizes -/

theorem sizeOf_lt_of_child? (found : child? children name = some node) :
    sizeOf node < sizeOf (directory children) := by
  have smaller := List.sizeOf_lt_of_mem (mem_of_child? found)
  simp only [directory.sizeOf_spec, Prod.mk.sizeOf_spec] at smaller ⊢
  omega

theorem sizeOf_le_of_descend? {found : Node} {segs : List String}
    (led : node.descend? segs = some found) : sizeOf found ≤ sizeOf node := by
  induction segs generalizing node with
  | nil =>
    obtain rfl : node = found := Option.some.inj led
    exact Nat.le_refl _
  | cons segment rest ih =>
    cases node with
    | file content => cases led
    | directory children =>
      obtain ⟨child, hchild, led⟩ := Option.bind_eq_some_iff.mp led
      have := sizeOf_lt_of_child? hchild
      have := ih led
      omega

theorem mem_entries {entry : DirEntry} (mem : entry ∈ entries children) :
    ∃ node, (entry.name, node) ∈ children ∧ node.isDirectory = entry.isDirectory := by
  rw [entries, List.mem_mergeSort] at mem
  obtain ⟨⟨name, node⟩, found, rfl⟩ := List.mem_map.mp mem
  exact ⟨node, found, rfl⟩

end Node

namespace Tree

theorem isSound_addText {tree : Tree} (sound : tree.root.IsSound) (path text : String) :
    (tree.addText path text).root.IsSound :=
  Node.IsSound.place sound (fun _ => Path.isSegment_of_mem_segments) (.file _)

theorem isSound_foldl {α : Type} {path text : α → String} (items : List α) {tree : Tree}
    (sound : tree.root.IsSound) :
    (items.foldl (fun tree item => tree.addText (path item) (text item)) tree).root.IsSound := by
  induction items generalizing tree with
  | nil => exact sound
  | cons item rest ih => exact ih (isSound_addText sound _ _)

theorem isSound_base (site : Site) : (base site).root.IsSound := by
  refine .directory ?_ ?_ ?_
  · simp only [base, List.forall_mem_cons]
    refine ⟨?_, ?_, ?_, ?_, by simp⟩ <;> constructor <;> decide
  · simp [base]
  · simp only [base, List.forall_mem_cons]
    exact ⟨.file _, .file _, .file _, .empty, by simp⟩

theorem isSound_ofSite (site : Site) : (ofSite site).root.IsSound :=
  isSound_foldl site.code (isSound_foldl site.projects (isSound_base site))

/-! ### Behind a directory -/

section
variable {tree : Tree} {dir cwd name : String} {children : List (String × Node)}

theorem node?_eq_descend? (tree : Tree) (path cwd : String) : tree.node? path cwd =
    tree.root.descend? (Path.normalize (Path.segments (Path.anchor path cwd))) := by
  rw [node?, Path.segments_resolve]

theorem node?_append (written : dir ≠ "") (segment : Path.IsSegment name) (tree : Tree)
    (cwd : String) : tree.node? (dir ++ "/" ++ name) cwd =
      tree.root.descend? (Path.normalize (Path.segments (Path.anchor dir cwd) ++ [name])) := by
  rw [node?_eq_descend?, Path.segments_anchor_append written, Path.segments_of_isSegment segment]

theorem node?_child (found : tree.node? dir cwd = some (.directory children)) (written : dir ≠ "")
    (plain : Path.IsPlain name) :
    tree.node? (dir ++ "/" ++ name) cwd = Node.child? children name := by
  rw [node?_eq_descend?] at found
  rw [node?_append written plain.isSegment, Path.normalize_concat_plain plain.2.1 plain.2.2.1,
    Node.descend?_append, found, Option.bind_some, Node.descend?_cons]
  exact Option.bind_fun_some _

theorem node?_here (found : tree.node? dir cwd = some (.directory children)) (written : dir ≠ "") :
    tree.node? (dir ++ "/" ++ ".") cwd = some (.directory children) := by
  rw [node?_eq_descend?] at found
  rw [node?_append written (by constructor <;> decide), Path.normalize_concat_here, found]

/-- Behind a directory `..` leads to a directory that holds it, or is it. -/
theorem exists_node?_up (found : tree.node? dir cwd = some (.directory children))
    (written : dir ≠ "") :
    ∃ above, tree.node? (dir ++ "/" ++ "..") cwd = some (.directory above) ∧
      sizeOf (Node.directory children) ≤ sizeOf (Node.directory above) := by
  rw [node?_eq_descend?] at found
  rw [node?_append written (by constructor <;> decide), Path.normalize_concat_up]
  generalize Path.normalize (Path.segments (Path.anchor dir cwd)) = segs at found ⊢
  rcases List.eq_nil_or_concat segs with rfl | ⟨higher, last, rfl⟩
  · exact ⟨children, found, Nat.le_refl _⟩
  · rw [List.concat_eq_append] at found ⊢
    obtain ⟨above, led⟩ := Node.exists_directory_of_descend? found
    rw [Node.descend?_append, led] at found
    exact ⟨above, by rw [List.dropLast_concat, led], Node.sizeOf_le_of_descend? found⟩

/-- What a path goes back to is no child of the directory that it came through. -/
theorem node?_ne_child (found : tree.node? dir cwd = some (.directory children))
    (written : dir ≠ "") (back : name = "." ∨ name = "..") {child : Node}
    (mem : Node.child? children name = some child) :
    ∃ above, tree.node? (dir ++ "/" ++ name) cwd = some (.directory above) ∧
      Node.directory above ≠ child := by
  have smaller := Node.sizeOf_lt_of_child? mem
  rcases back with rfl | rfl
  · refine ⟨children, node?_here found written, ?_⟩
    rintro rfl
    omega
  · obtain ⟨above, led, larger⟩ := exists_node?_up found written
    refine ⟨above, led, ?_⟩
    rintro rfl
    omega

end

end Tree

/-! ### Commands -/

/-- Commands that are given a path reach a node by it: a directory is changed to, a file is read. -/
structure Files.Reaches (σ : Type) [Backend σ] (setting : Setting) (path cwd : String)
    (node : Node) : Prop where
  directory : ∀ children, node = .directory children →
    Files.cd [path] cwd setting.tree = (.silent, some (Path.resolve path cwd))
  stored : ∀ text, node = .file (.stored text) → ∀ b : σ,
    Files.cat [path] cwd setting b = (.rich [.pre text], b) ∧
      Files.vim [path] cwd setting b = (.directive (.openViewer path text), b)
  contact : node = .file (.produced .contact) → ∀ b : σ,
    Files.cat [path] cwd setting b = (.rich setting.site.contactCard, b)
  about : node = .file (.produced .about) → ∀ (b after : σ) text,
    Backend.about b = (.ok text, after) →
      Files.cat [path] cwd setting b = (.text text, after) ∧
        Files.vim [path] cwd setting b = (.directive (.openViewer path text), after)

theorem Files.reaches_of_node? {σ : Type} [Backend σ] {setting : Setting} {path cwd : String}
    {node : Node} (found : setting.tree.node? path cwd = some node) :
    Files.Reaches σ setting path cwd node := by
  constructor
  case directory =>
    rintro children rfl
    simp only [Files.cd, List.headD_cons, found]
  case stored =>
    rintro text rfl b
    simp only [Files.cat, Files.vim, found]
    exact ⟨rfl, rfl⟩
  case contact =>
    rintro rfl b
    simp only [Files.cat, found]
    rfl
  case about =>
    rintro rfl b after text told
    simp only [Files.cat, Files.vim, found, Files.read, bind_apply, told]
    exact ⟨rfl, rfl⟩

/-- A line hands a path to a command exactly if the path is one word. -/
theorem Invocation.ofLine?_command_iff {command path : String} (word : Text.IsWord command) :
    Invocation.ofLine? (command ++ " " ++ path) = some ⟨command, [path]⟩ ↔ Text.IsWord path := by
  have parted : Text.words (command ++ " " ++ path) = command :: Text.words path := by
    rw [Text.words_append_blank, Text.words_of_isWord word]
    rfl
  rw [Invocation.ofLine?, parted]
  constructor
  · intro handed
    have single : Text.words path = [path] := by simpa using handed
    exact Text.isWord_of_mem_words (single ▸ List.mem_singleton_self path)
  · intro whole
    rw [Text.words_of_isWord whole]

/-- Behind a word a slash and a segment make one word exactly if the segment is one. -/
theorem Path.isWord_child_iff {dir name : String} (word : Text.IsWord dir)
    (segment : Path.IsSegment name) : Text.IsWord (dir ++ "/" ++ name) ↔ Text.IsWord name := by
  constructor
  · intro whole
    exact ⟨segment.1, fun c hc => whole.2 c (by simp [hc])⟩
  · apply Text.isWord_append
    intro c hc
    rcases List.mem_append.mp (String.toList_append ▸ hc) with hc | hc
    · exact word.2 c hc
    · obtain rfl := List.mem_singleton.mp hc
      decide

namespace Tree

/-- What an entry of a listing says, and where its name leads behind the path of the directory. -/
structure EntryLaw (tree : Tree) (dir cwd : String) (children : List (String × Node))
    (entry : DirEntry) (child : Node) : Prop where
  /-- The entry means one child, and tells whether that is a directory. -/
  means : ∀ other, (entry.name, other) ∈ children ↔ other = child
  kind : child.isDirectory = entry.isDirectory
  /-- The path leads to the child unless it ends in a segment that is followed, -/
  opens : tree.node? (dir ++ "/" ++ entry.name) cwd = some child ↔
    entry.name ≠ "." ∧ entry.name ≠ ".."
  /-- which leads to a directory even if the child is a file. -/
  strays : entry.name = "." ∨ entry.name = ".." →
    tree.isDirectory (dir ++ "/" ++ entry.name) cwd = true
  reached : entry.name ≠ "." → entry.name ≠ ".." → ∀ (σ : Type) [Backend σ] (setting : Setting),
    setting.tree = tree → Files.Reaches σ setting (dir ++ "/" ++ entry.name) cwd child
  /-- Behind the path of a directory that a line can name, a line can name the entry exactly if its
  name has no blank. -/
  typed : Text.IsWord dir → ∀ command, Text.IsWord command →
    (Invocation.ofLine? (command ++ " " ++ (dir ++ "/" ++ entry.name)) =
      some ⟨command, [dir ++ "/" ++ entry.name]⟩ ↔ ∀ c ∈ entry.name.toList, Text.isBlank c = false)

theorem entryLaw_of_child {tree : Tree} {dir cwd : String} {children : List (String × Node)}
    (sound : (Node.directory children).IsSound)
    (found : tree.node? dir cwd = some (.directory children)) (written : dir ≠ "")
    {entry : DirEntry} {child : Node} (mem : (entry.name, child) ∈ children)
    (kind : child.isDirectory = entry.isDirectory) :
    tree.EntryLaw dir cwd children entry child := by
  cases sound with
  | directory segments distinct below =>
    have own := Node.child?_of_mem distinct mem
    have segment := segments _ mem
    have opens (notHere : entry.name ≠ ".") (notUp : entry.name ≠ "..") :
        tree.node? (dir ++ "/" ++ entry.name) cwd = some child := by
      rw [node?_child found written ⟨segment.1, notHere, notUp, segment.2⟩, own]
    constructor
    case means =>
      intro other
      constructor
      · intro hother
        exact Option.some.inj ((Node.child?_of_mem distinct hother).symm.trans own)
      · rintro rfl
        exact mem
    case kind => exact kind
    case opens =>
      constructor
      · intro led
        have notBack : ¬ (entry.name = "." ∨ entry.name = "..") := by
          intro back
          obtain ⟨above, hback, other⟩ := node?_ne_child found written back own
          exact other (Option.some.inj (hback.symm.trans led))
        exact not_or.mp notBack
      · rintro ⟨notHere, notUp⟩
        exact opens notHere notUp
    case strays =>
      intro back
      obtain ⟨above, led, _⟩ := node?_ne_child found written back own
      exact isDirectory_iff.mpr ⟨above, led⟩
    case reached =>
      rintro notHere notUp σ _ setting rfl
      exact Files.reaches_of_node? (opens notHere notUp)
    case typed =>
      intro wordDir command word
      rw [Invocation.ofLine?_command_iff word, Path.isWord_child_iff wordDir segment]
      exact and_iff_right segment.1

/-- In the tree of a site every entry of a listing means one child of the listed directory, and the
path of the directory, a slash and the name of the entry lead to that child exactly if the name is
not one of the two that paths follow. -/
theorem entryLaw_of_listed {site : Site} {dir cwd : String} {entries : List DirEntry}
    (written : dir ≠ "") (listed : (ofSite site).list? dir cwd = some entries) :
    ∃ children, (ofSite site).node? dir cwd = some (.directory children) ∧
      ∀ entry ∈ entries, ∃ child, (ofSite site).EntryLaw dir cwd children entry child := by
  rw [list?] at listed
  split at listed
  · rename_i children found
    obtain rfl := Option.some.inj listed
    have sound : (Node.directory children).IsSound := by
      rw [node?_eq_descend?] at found
      exact (isSound_ofSite site).descend? found
    refine ⟨children, found, fun entry mem => ?_⟩
    obtain ⟨child, hchild, kind⟩ := Node.mem_entries mem
    exact ⟨child, entryLaw_of_child sound found written hchild kind⟩
  · cases listed

/-- Samples that are named like the way up and like the home directory. -/
def oddSamples : List (String × Node) :=
  [("..", .file (.stored "lost")), ("~", .file (.stored "kept"))]

/-- A site of these samples. -/
def withOddSamples : Site :=
  ⟨⟨"", "", "", "", ""⟩, "", [], [], [⟨"..", "lost"⟩, ⟨"~", "kept"⟩]⟩

theorem mem_entries_oddSamples {name text : String}
    (mem : (name, Node.file (.stored text)) ∈ oddSamples) :
    ⟨name, false⟩ ∈ Node.entries oddSamples := by
  rw [Node.entries, List.mem_mergeSort]
  exact List.mem_map.mpr ⟨_, mem, rfl⟩

/-- The path behind the directory leads to the second sample only. -/
theorem entryLaw_withOddSamples :
    "/mycode" ≠ "" ∧
      (ofSite withOddSamples).list? "/mycode" "/" = some (Node.entries oddSamples) ∧
      (ofSite withOddSamples).node? "/mycode/.." "/" ≠ some (.file (.stored "lost")) ∧
      (ofSite withOddSamples).node? "/mycode/~" "/" = some (.file (.stored "kept")) := by
  have written : "/mycode" ≠ "" := by decide
  have listed : (ofSite withOddSamples).list? "/mycode" "/" = some (Node.entries oddSamples) := rfl
  obtain ⟨children, found, law⟩ := entryLaw_of_listed written listed
  obtain rfl : oddSamples = children := by
    have here : (ofSite withOddSamples).node? "/mycode" "/" = some (.directory oddSamples) := rfl
    exact Node.directory.inj (Option.some.inj (here.symm.trans found))
  have first : ("..", Node.file (.stored "lost")) ∈ oddSamples := List.mem_cons_self
  have second : ("~", Node.file (.stored "kept")) ∈ oddSamples :=
    List.mem_cons_of_mem _ List.mem_cons_self
  refine ⟨written, listed, fun led => ?_, ?_⟩
  · obtain ⟨child, up⟩ := law _ (mem_entries_oddSamples first)
    obtain rfl := (up.means _).mp first
    exact (up.opens.mp led).2 rfl
  · obtain ⟨child, home⟩ := law _ (mem_entries_oddSamples second)
    obtain rfl := (home.means _).mp second
    exact home.opens.mpr (by decide)

/-- A document that is accepted, and a listing of its tree that names a file where the path leads to
the root. -/
theorem sample_of_document_unopened :
    (Site.ofText ("[[\"\",\"\",\"\",\"\",\"\"],\"\",[],[]," ++
      "[[\"..\",\"lost\"],[\"~\",\"kept\"]]]")).toOption = some withOddSamples ∧
    (∃ entries, (ofSite withOddSamples).list? "/mycode" "/" = some entries ∧
      ⟨"..", false⟩ ∈ entries) ∧
    (ofSite withOddSamples).node? "/mycode/.." "/" = some (ofSite withOddSamples).root ∧
    (ofSite withOddSamples).isDirectory "/mycode/.." "/" = true :=
  ⟨by decide +kernel, ⟨_, rfl, mem_entries_oddSamples List.mem_cons_self⟩, rfl, rfl⟩

end Tree

end PortfolioShell
