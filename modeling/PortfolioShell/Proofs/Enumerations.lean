import Mathlib.Data.List.Nodup
import PortfolioShell.Proofs.CommonStarts
import PortfolioShell.Proofs.PathCompletions
import PortfolioShell.Site.Builtin

/-!
# The order of children shows nowhere

A directory names its children, and may hand them out in any order. A listing puts them in an order
that leaves no two of them open: directories first, plain names before hidden ones, and the rest by
code points. Completion counts its candidates and sorts them. So trees that differ in the order of
children only are listed and completed alike.
-/
namespace PortfolioShell

/-! ### The order of a listing -/

namespace DirEntry

/-- Whether the name begins with a dot. -/
def isHidden (entry : DirEntry) : Bool := Text.beginsWith "." entry.name

/-- Directories come first, then names that are not hidden; then the code points decide. -/
def ComesBefore (a b : DirEntry) : Prop :=
  (a.isDirectory = true ∧ b.isDirectory = false) ∨
    (a.isDirectory = b.isDirectory ∧
      ((a.isHidden = false ∧ b.isHidden = true) ∨ (a.isHidden = b.isHidden ∧ a.name < b.name)))

instance (a b : DirEntry) : Decidable (ComesBefore a b) := inferInstanceAs (Decidable (_ ∨ _))

variable {a b c : DirEntry}

theorem ComesBefore.trans (hab : ComesBefore a b) (hbc : ComesBefore b c) : ComesBefore a c := by
  rcases hab with ⟨ha, hb⟩ | ⟨kind, hab⟩ <;> rcases hbc with ⟨hb', hc⟩ | ⟨kind', hbc⟩
  · exact Or.inl ⟨ha, hc⟩
  · exact Or.inl ⟨ha, kind'.symm.trans hb⟩
  · exact Or.inl ⟨kind.trans hb', hc⟩
  refine Or.inr ⟨kind.trans kind', ?_⟩
  rcases hab with ⟨ha, hb⟩ | ⟨dot, hab⟩ <;> rcases hbc with ⟨hb', hc⟩ | ⟨dot', hbc⟩
  · exact Or.inl ⟨ha, hc⟩
  · exact Or.inl ⟨ha, dot'.symm.trans hb⟩
  · exact Or.inl ⟨dot.trans hb', hc⟩
  · exact Or.inr ⟨dot.trans dot', String.lt_trans hab hbc⟩

theorem not_comesBefore_self (a : DirEntry) : ¬ ComesBefore a a := by
  rintro (⟨directory, file⟩ | ⟨_, ⟨plain, hidden⟩ | ⟨_, less⟩⟩)
  · exact Bool.false_ne_true (file.symm.trans directory)
  · exact Bool.false_ne_true (plain.symm.trans hidden)
  · exact String.lt_irrefl _ less

theorem ComesBefore.asymm (hab : ComesBefore a b) : ¬ ComesBefore b a :=
  fun hba => not_comesBefore_self a (hab.trans hba)

/-- Of two entries one comes first, unless they are the same. -/
theorem comesBefore_or_eq (a b : DirEntry) : ComesBefore a b ∨ a = b ∨ ComesBefore b a := by
  by_cases kind : a.isDirectory = b.isDirectory
  · by_cases dot : a.isHidden = b.isHidden
    · by_cases less : a.name < b.name
      · exact Or.inl (Or.inr ⟨kind, Or.inr ⟨dot, less⟩⟩)
      · by_cases more : b.name < a.name
        · exact Or.inr (Or.inr (Or.inr ⟨kind.symm, Or.inr ⟨dot.symm, more⟩⟩))
        · have name := String.le_antisymm (String.not_lt.mp more) (String.not_lt.mp less)
          have same : a = b := by
            cases a
            cases b
            exact (DirEntry.mk.injEq ..).mpr ⟨name, kind⟩
          exact Or.inr (Or.inl same)
    · rcases Bool.eq_false_or_eq_true a.isHidden with hidden | plain
      · have plain : b.isHidden = false := by simpa [hidden] using dot
        exact Or.inr (Or.inr (Or.inr ⟨kind.symm, Or.inl ⟨plain, hidden⟩⟩))
      · have hidden : b.isHidden = true := by simpa [plain] using dot
        exact Or.inl (Or.inr ⟨kind, Or.inl ⟨plain, hidden⟩⟩)
  · rcases Bool.eq_false_or_eq_true a.isDirectory with directory | file
    · have file : b.isDirectory = false := by simpa [directory] using kind
      exact Or.inl (Or.inl ⟨directory, file⟩)
    · have directory : b.isDirectory = true := by simpa [file] using kind
      exact Or.inr (Or.inr (Or.inl ⟨directory, file⟩))

/-- Sorting asks whether two entries stand in the wrong order. -/
theorem entryPrecedes_iff (a b : DirEntry) :
    Node.entryPrecedes a b = true ↔ ¬ ComesBefore b a := by
  rw [Node.entryPrecedes, ComesBefore, isHidden, isHidden]
  cases a.isDirectory <;> cases b.isDirectory <;> cases Text.beginsWith "." a.name <;>
    cases Text.beginsWith "." b.name <;> simp

end DirEntry

namespace Node
variable {children others : List (String × Node)} {name : String}

/-- The entry that stands for a child. -/
def entryOf (child : String × Node) : DirEntry := ⟨child.1, child.2.isDirectory⟩

/-- A listing of children: every child once, in the order of listings. -/
structure IsListing (children : List (String × Node)) (listing : List DirEntry) : Prop where
  once : listing.Perm (children.map entryOf)
  ordered : listing.Pairwise DirEntry.ComesBefore

theorem nodup_map_entryOf (distinct : (children.map (·.1)).Nodup) :
    (children.map entryOf).Nodup := by
  apply List.Nodup.of_map DirEntry.name
  rw [List.map_map]
  exact distinct

theorem isListing_entries (distinct : (children.map (·.1)).Nodup) :
    IsListing children (entries children) := by
  have once : (entries children).Perm (children.map entryOf) := List.mergeSort_perm _ _
  refine ⟨once, ?_⟩
  have trans : ∀ a b c : DirEntry, entryPrecedes a b → entryPrecedes b c → entryPrecedes a c := by
    intro a b c hab hbc
    rw [DirEntry.entryPrecedes_iff] at *
    intro hca
    rcases DirEntry.comesBefore_or_eq a b with less | rfl | more
    · exact hbc (hca.trans less)
    · exact hbc hca
    · exact hab more
  have total : ∀ a b : DirEntry, (entryPrecedes a b || entryPrecedes b a) = true := by
    intro a b
    rw [Bool.or_eq_true, DirEntry.entryPrecedes_iff, DirEntry.entryPrecedes_iff]
    exact not_and_or.mp fun both => both.1.asymm both.2
  have sorted : (entries children).Pairwise (entryPrecedes · ·) :=
    List.pairwise_mergeSort trans total _
  have apart : (entries children).Nodup := once.nodup_iff.mpr (nodup_map_entryOf distinct)
  -- the order of sorting is not strict, but no two entries are the same
  refine sorted.imp₂ ?_ apart
  intro a b inOrder different
  rw [DirEntry.entryPrecedes_iff] at inOrder
  rcases DirEntry.comesBefore_or_eq a b with less | same | more
  · exact less
  · exact absurd same different
  · exact absurd more inOrder

/-- There is one listing only, in whatever order the children are handed out. -/
theorem IsListing.unique {listing other : List DirEntry} (h : IsListing children listing)
    (h' : IsListing children other) : other = listing :=
  (h'.once.trans h.once.symm).eq_of_pairwise
    (fun _ _ _ _ less more => absurd more less.asymm) h'.ordered h.ordered

/-! ### Trees in another order -/

/-- Nodes that differ in the order of children only. In every directory the names are distinct, and
both have the same. -/
inductive Reordered : Node → Node → Prop
  | file (content : FileContent) : Reordered (.file content) (.file content)
  | directory {children others : List (String × Node)} (distinct : (children.map (·.1)).Nodup)
      (names : (children.map (·.1)).Perm (others.map (·.1)))
      (below : ∀ name child other, (name, child) ∈ children → (name, other) ∈ others →
        Reordered child other) :
      Reordered (.directory children) (.directory others)

namespace Reordered
variable {node other : Node}

theorem symm (same : Reordered node other) : Reordered other node := by
  induction same with
  | file content => exact .file content
  | directory distinct names _ ih =>
    refine .directory (names.nodup_iff.mp distinct) names.symm ?_
    intro name child other mem mem'
    exact ih name other child mem' mem

theorem isDirectory_eq (same : Reordered node other) : other.isDirectory = node.isDirectory := by
  cases same <;> rfl

theorem exists_other (same : Reordered (.directory children) (.directory others)) {child : Node}
    (mem : (name, child) ∈ children) : ∃ other, (name, other) ∈ others ∧ Reordered child other := by
  cases same with
  | directory _ names below =>
    have named : name ∈ others.map (·.1) := names.mem_iff.mp (List.mem_map_of_mem mem)
    obtain ⟨⟨_, other⟩, mem', rfl⟩ := List.mem_map.mp named
    exact ⟨other, mem', below _ child other mem mem'⟩

theorem distinct (same : Reordered (.directory children) (.directory others)) :
    (children.map (·.1)).Nodup := by
  cases same with
  | directory distinct _ _ => exact distinct

theorem names (same : Reordered (.directory children) (.directory others)) :
    (children.map (·.1)).Perm (others.map (·.1)) := by
  cases same with
  | directory _ names _ => exact names

theorem child? (same : Reordered (.directory children) (.directory others)) (name : String) :
    Option.Rel Reordered (Node.child? children name) (Node.child? others name) := by
  cases found : Node.child? children name with
  | some child =>
    obtain ⟨other, mem, below⟩ := same.exists_other (mem_of_child? found)
    rw [child?_of_mem same.symm.distinct mem]
    exact .some below
  | none =>
    cases found' : Node.child? others name with
    | none => exact .none
    | some other =>
      obtain ⟨child, mem, _⟩ := same.symm.exists_other (mem_of_child? found')
      rw [child?_of_mem same.distinct mem] at found
      cases found

theorem descend? (same : Reordered node other) (segs : List String) :
    Option.Rel Reordered (node.descend? segs) (other.descend? segs) := by
  induction segs generalizing node other with
  | nil => exact .some same
  | cons segment rest ih =>
    cases same with
    | file content => exact .none
    | @directory children others distinct names below =>
      have found := (Reordered.directory distinct names below).child? segment
      rw [descend?_cons, descend?_cons]
      generalize Node.child? children segment = child at found
      generalize Node.child? others segment = other at found
      cases found with
      | none => exact .none
      | some below => exact ih below

theorem isListing (same : Reordered (.directory children) (.directory others))
    {listing : List DirEntry} (law : IsListing others listing) : IsListing children listing := by
  refine ⟨law.once.trans ?_, law.ordered⟩
  have listed {children others : List (String × Node)} {entry : DirEntry}
      (same : Reordered (.directory children) (.directory others))
      (mem : entry ∈ children.map entryOf) : entry ∈ others.map entryOf := by
    obtain ⟨⟨name, child⟩, found, rfl⟩ := List.mem_map.mp mem
    obtain ⟨other, found', below⟩ := same.exists_other found
    refine List.mem_map.mpr ⟨_, found', ?_⟩
    rw [entryOf, entryOf, below.isDirectory_eq]
  rw [List.perm_ext_iff_of_nodup (nodup_map_entryOf same.symm.distinct)
    (nodup_map_entryOf same.distinct)]
  exact fun entry => ⟨listed same.symm, listed same⟩

theorem entries_eq (same : Reordered (.directory children) (.directory others)) :
    entries others = entries children :=
  (isListing_entries same.distinct).unique (same.isListing (isListing_entries same.symm.distinct))

end Reordered

theorem reordered_self {node : Node} (sound : node.IsSound) : Reordered node node := by
  induction sound with
  | file content => exact .file content
  | directory _ distinct _ ih =>
    refine .directory distinct (.refl _) ?_
    intro name child other mem mem'
    have found := child?_of_mem distinct mem
    rw [child?_of_mem distinct mem'] at found
    obtain rfl := Option.some.inj found
    exact ih _ mem

/-- A directory of a site's tree, with its own children in another order. -/
theorem reordered_of_perm (sound : (directory children).IsSound) (same : children.Perm others) :
    Reordered (.directory children) (.directory others) := by
  have self := reordered_self sound
  cases self with
  | directory distinct _ below =>
    refine .directory distinct (same.map _) ?_
    intro name child other mem mem'
    exact below name child other mem (same.mem_iff.mpr mem')

end Node

/-! ### Completion -/

namespace Completion

theorem sorted_eq_of_perm {names others : List String} (same : names.Perm others) :
    sorted others = sorted names :=
  ((sorted_perm others).trans (same.symm.trans (sorted_perm names).symm)).eq_of_pairwise
    (fun _ _ _ _ => String.le_antisymm) (sorted_pairwise others) (sorted_pairwise names)

theorem ofCandidates_eq_of_perm {names others : List String} (same : names.Perm others)
    (before typed : String) (ending : String → String) :
    ofCandidates before typed others ending = ofCandidates before typed names ending := by
  match names, others, same with
  | [], others, same => rw [List.nil_perm.mp same]
  | [only], others, same => rw [List.singleton_perm.mp same]
  | _ :: _ :: _, [], same => exact absurd same.length_eq (by simp)
  | _ :: _ :: _, [_], same => exact absurd same.length_eq (by simp)
  | _ :: _ :: _, _ :: _ :: _, same =>
    simp only [ofCandidates]
    rw [sorted_eq_of_perm same]

theorem childEnding_eq_of_reordered {children others : List (String × Node)}
    (same : Node.Reordered (.directory children) (.directory others)) (name : String) :
    childEnding others name = childEnding children name := by
  have found := same.child? name
  rw [childEnding, childEnding]
  generalize Node.child? children name = child at found ⊢
  generalize Node.child? others name = other at found ⊢
  cases found with
  | none => rfl
  | some below => cases below <;> rfl

end Completion

/-! ### Trees -/

namespace Tree
variable {tree other : Tree}

/-- A path leads to nothing in both trees, to one file, or to directories that hold the same. -/
theorem node?_reordered (same : tree.root.Reordered other.root) (path cwd : String) :
    (tree.node? path cwd = none ∧ other.node? path cwd = none) ∨
      (∃ content, tree.node? path cwd = some (.file content) ∧
        other.node? path cwd = some (.file content)) ∨
      ∃ children others, tree.node? path cwd = some (.directory children) ∧
        other.node? path cwd = some (.directory others) ∧
        Node.Reordered (.directory children) (.directory others) := by
  have found : Option.Rel Node.Reordered (tree.node? path cwd) (other.node? path cwd) :=
    same.descend? _
  generalize tree.node? path cwd = node at found ⊢
  generalize other.node? path cwd = node' at found ⊢
  cases found with
  | none => exact Or.inl ⟨rfl, rfl⟩
  | some below =>
    cases below with
    | file content => exact Or.inr (Or.inl ⟨content, rfl, rfl⟩)
    | directory distinct names below =>
      exact Or.inr (Or.inr ⟨_, _, rfl, rfl, .directory distinct names below⟩)

theorem distinct_of_reordered (same : tree.root.Reordered other.root) {path cwd : String}
    {children : List (String × Node)} (found : tree.node? path cwd = some (.directory children)) :
    (children.map (·.1)).Nodup := by
  rcases node?_reordered same path cwd with
    ⟨here, _⟩ | ⟨content, here, _⟩ | ⟨children', others, here, _, inside⟩
  · cases here.symm.trans found
  · cases here.symm.trans found
  · obtain rfl : children' = children := Node.directory.inj (Option.some.inj (here.symm.trans found))
    exact inside.distinct

theorem list?_reordered (same : tree.root.Reordered other.root) (path cwd : String) :
    other.list? path cwd = tree.list? path cwd := by
  rw [list?, list?]
  rcases node?_reordered same path cwd with
    ⟨here, there⟩ | ⟨content, here, there⟩ | ⟨children, others, here, there, inside⟩
  · rw [here, there]
  · rw [here, there]
  · rw [here, there]
    exact congrArg some inside.entries_eq

theorem ls_reordered (same : tree.root.Reordered other.root) (args : List String) (cwd : String) :
    Files.ls args cwd other = Files.ls args cwd tree := by
  simp only [Files.ls]
  rcases node?_reordered same (args.headD ".") cwd with
    ⟨here, there⟩ | ⟨content, here, there⟩ | ⟨children, others, here, there, inside⟩
  · rw [here, there]
  · rw [here, there]
  · rw [here, there]
    simp only [inside.entries_eq]

theorem ofPath_reordered (same : tree.root.Reordered other.root) (earlier : List String)
    (word cwd : String) :
    Completion.ofPath earlier word cwd other = Completion.ofPath earlier word cwd tree := by
  obtain ⟨front, name, cut⟩ := Path.exists_isCut word
  rcases node?_reordered same front cwd with
    ⟨here, there⟩ | ⟨content, here, there⟩ | ⟨children, others, here, there, inside⟩
  · rw [Completion.ofPath_elsewhere cut (by rw [isDirectory, there]; rfl),
      Completion.ofPath_elsewhere cut (by rw [isDirectory, here]; rfl)]
  · rw [Completion.ofPath_elsewhere cut (by rw [isDirectory, there]; rfl),
      Completion.ofPath_elsewhere cut (by rw [isDirectory, here]; rfl)]
  · have candidates := inside.names.filter (Text.beginsWith name)
    have endings : Completion.childEnding others = Completion.childEnding children :=
      funext (Completion.childEnding_eq_of_reordered inside)
    rw [Completion.ofPath_of_directory cut there, Completion.ofPath_of_directory cut here,
      Completion.ofCandidates_eq_of_perm candidates, endings]

theorem complete_reordered {σ : Type} [Backend σ] {setting : Setting}
    (same : setting.tree.root.Reordered other.root) (line cwd : String) (b : σ) :
    complete line cwd { setting with tree := other } b = complete line cwd setting b := by
  simp only [complete]
  cases Completion.kindOf (partialWords line) with
  | path => simp only [ofPath_reordered same]
  | _ => rfl

/-- What a tree and another one that enumerates its children otherwise have in common. -/
structure EnumerationLaw (tree other : Tree) : Prop where
  /-- A directory has one listing, and that is what a request for it gives. -/
  listed : ∀ path cwd children, tree.node? path cwd = some (.directory children) →
    ∃ listing, tree.list? path cwd = some listing ∧
      ∀ entries, Node.IsListing children entries ↔ entries = listing
  unlisted : ∀ path cwd, tree.isDirectory path cwd = false → tree.list? path cwd = none
  /-- The other tree gives the same listings, -/
  same : ∀ path cwd, other.list? path cwd = tree.list? path cwd
  printed : ∀ args cwd, Files.ls args cwd other = Files.ls args cwd tree
  /-- and lines are completed alike, whatever their words are. -/
  completed : ∀ (σ : Type) [Backend σ] (setting : Setting) (line cwd : String) (b : σ),
    setting.tree = tree →
      complete line cwd { setting with tree := other } b = complete line cwd setting b

/-- Neither a listing nor a completion tells in which order a directory hands out its children. -/
theorem enumerationLaw_of_reordered (same : tree.root.Reordered other.root) :
    EnumerationLaw tree other := by
  constructor
  case listed =>
    intro path cwd children found
    have law := Node.isListing_entries (distinct_of_reordered same found)
    refine ⟨Node.entries children, by rw [list?, found], fun entries => ⟨law.unique, ?_⟩⟩
    rintro rfl
    exact law
  case unlisted =>
    intro path cwd elsewhere
    rw [list?]
    split
    · rename_i children found
      have directory := isDirectory_iff.mpr ⟨children, found⟩
      rw [elsewhere] at directory
      cases directory
    · rfl
  case same => exact list?_reordered same
  case printed => exact ls_reordered same
  case completed =>
    rintro σ _ setting line cwd b rfl
    exact complete_reordered same line cwd b

/-- The files that come with the terminal, handed out from the last to the first. -/
theorem enumerationLaw_of_reversed :
    let tree := ofSite .builtin
    let other : Tree := ⟨tree.children.reverse⟩
    tree.root.Reordered other.root ∧
      other.list? "/" "/" = some [⟨"mycode", true⟩, ⟨"projects", true⟩, ⟨"about.txt", false⟩,
        ⟨"contact.txt", false⟩, ⟨"quotes.txt", false⟩] := by
  intro tree other
  have same : tree.root.Reordered other.root :=
    Node.reordered_of_perm (isSound_ofSite .builtin) tree.children.reverse_perm.symm
  have law := enumerationLaw_of_reordered same
  obtain ⟨listing, told, only⟩ := law.listed "/" "/" tree.children (node?_root tree "/")
  refine ⟨same, ?_⟩
  rw [law.same, told, Option.some.injEq, eq_comm, ← only]
  exact ⟨by decide +kernel, by decide +kernel⟩

end Tree

end PortfolioShell
