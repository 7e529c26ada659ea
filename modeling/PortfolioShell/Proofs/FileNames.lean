import PortfolioShell.Proofs.PathCompletions
import PortfolioShell.Site.Builtin

/-!
# What a listing calls a file

A listing that is asked about a file answers with what stands last in the path, as it was typed.
That is the name of the file unless the path was closed with a slash or ends in a segment that is
followed: resolution drops these, so they lead to the file too, but they are not its name.
-/
namespace PortfolioShell

namespace Path

/-- What stands last in a path: all of it, or what is behind a slash. -/
def EndsIn (path tail : String) : Prop := path = tail ∨ ∃ before, path = before ++ "/" ++ tail

theorem baseName_eq_iff {path tail : String} (uncut : '/' ∉ tail.toList) :
    baseName path = tail ↔ EndsIn path tail := by
  constructor
  · rintro rfl
    obtain ⟨front, name, cut⟩ := exists_isCut path
    rw [cut.baseName_eq]
    obtain ⟨whole, slash, _⟩ := cut
    rcases slash with rfl | ⟨before, rfl⟩
    · exact Or.inl (by rw [← whole, String.empty_append])
    · exact Or.inr ⟨before, whole.symm⟩
  · rintro (rfl | ⟨before, rfl⟩)
    · exact baseName_of_uncut uncut
    · rw [baseName_append, baseName_of_uncut uncut]

/-- What a path can end in that is no name. -/
def strays : List String := ["", ".", ".."]

theorem baseName_eq_stray_iff {path tail : String} (stray : tail ∈ strays) :
    baseName path = tail ↔ EndsIn path tail := by
  have uncut : ∀ tail ∈ strays, '/' ∉ tail.toList := by decide
  exact baseName_eq_iff (uncut tail stray)

theorem not_isPlain_of_stray {tail : String} (stray : tail ∈ strays) : ¬ IsPlain tail := by
  have apart : ∀ tail ∈ strays, ¬ (tail ≠ "" ∧ tail ≠ "." ∧ tail ≠ "..") := by decide
  exact fun plain => apart tail stray ⟨plain.1, plain.2.1, plain.2.2.1⟩

theorem uncut_baseName (path : String) : '/' ∉ (baseName path).toList := by
  obtain ⟨front, name, cut⟩ := exists_isCut path
  exact cut.baseName_eq ▸ cut.uncut

/-- A path that ends in a plain name leads to a place of that name, unless it is the tilde. -/
theorem getLast?_segments_resolve {path name : String} (ends : EndsIn path name)
    (plain : IsPlain name) (notHome : path ≠ "~") (cwd : String) :
    (segments (resolve path cwd)).getLast? = some name := by
  have parted : ∃ before, segments (anchor path cwd) = before ++ [name] := by
    -- behind a slash a tilde is a name like any other, but alone it is not
    rcases ends with rfl | ⟨before, rfl⟩
    · have relative := isRelative_of_uncut plain.2.2.2 notHome
      refine ⟨segments cwd, ?_⟩
      rw [relative.segments_anchor, segments_of_isSegment plain.isSegment]
    · refine ⟨segments (anchor (before ++ "/") cwd), ?_⟩
      rw [segments_anchor_behind_slash, segments_of_isSegment plain.isSegment]
  obtain ⟨before, parted⟩ := parted
  rw [segments_resolve, parted, normalize_concat_plain plain.2.1 plain.2.2.1, List.getLast?_concat]

end Path

/-- What the listing of a file says, and what the file is called. -/
structure Files.NamingLaw (tree : Tree) (path cwd name : String) : Prop where
  /-- A file is called after the last segment of its place. -/
  own : (Path.segments (Path.resolve path cwd)).getLast? = some name
  plain : Path.IsPlain name
  /-- The listing says so exactly if the path ends in a name, -/
  named : ∀ more, Files.ls (path :: more) cwd tree = .text name ↔
    ∀ tail ∈ Path.strays, ¬ Path.EndsIn path tail
  /-- and otherwise says what stands there, which is nothing behind a slash. -/
  strays : ∀ more, ∀ tail ∈ Path.strays, Path.EndsIn path tail →
    Files.ls (path :: more) cwd tree = .text tail

namespace Tree
variable {tree : Tree} {path cwd : String} {content : FileContent}

theorem ls_of_file (found : tree.node? path cwd = some (.file content)) (more : List String) :
    Files.ls (path :: more) cwd tree = .text (Path.baseName path) := by
  simp only [Files.ls, List.headD_cons, found]

/-- No file is at the root, so the place of a file has a last segment. -/
theorem exists_name_of_file (found : tree.node? path cwd = some (.file content)) :
    ∃ name, (Path.segments (Path.resolve path cwd)).getLast? = some name ∧ Path.IsPlain name := by
  have way : Path.segments (Path.resolve path cwd) ≠ [] := by
    intro root
    rw [node?, root] at found
    cases found
  have last := List.getLast?_eq_some_getLast way
  have plain := Path.plain_resolved path cwd
  rw [← Path.segments_resolve] at plain
  exact ⟨_, last, plain _ (List.getLast_mem way)⟩

theorem ne_home_of_file (found : tree.node? path cwd = some (.file content)) : path ≠ "~" := by
  rintro rfl
  have home : Path.segments (Path.anchor "~" cwd) = [] := by
    rw [Path.anchor_of_isRooted (Or.inr (Or.inr rfl)) cwd Path.root]
    decide +kernel
  rw [node?_eq_descend?, home] at found
  cases found

/-- A listing calls a file by its own name exactly if the path that it was given ends in a name. -/
theorem namingLaw_of_file (found : tree.node? path cwd = some (.file content)) :
    ∃ name, Files.NamingLaw tree path cwd name := by
  obtain ⟨name, own, plain⟩ := exists_name_of_file found
  refine ⟨name, own, plain, fun more => ?_, fun more tail stray ends => ?_⟩
  · rw [ls_of_file found, Output.text.injEq]
    constructor
    · rintro rfl tail stray ends
      have told := (Path.baseName_eq_stray_iff stray).mpr ends
      exact Path.not_isPlain_of_stray stray (told ▸ plain)
    · intro ends
      have other {tail : String} (stray : tail ∈ Path.strays) : Path.baseName path ≠ tail :=
        fun same => ends tail stray ((Path.baseName_eq_stray_iff stray).mp same)
      have uncut := Path.uncut_baseName path
      have plain : Path.IsPlain (Path.baseName path) :=
        ⟨other (by decide), other (by decide), other (by decide), uncut⟩
      have last := Path.getLast?_segments_resolve ((Path.baseName_eq_iff uncut).mp rfl) plain
        (ne_home_of_file found) cwd
      exact Option.some.inj (last.symm.trans own)
  · rw [ls_of_file found, (Path.baseName_eq_stray_iff stray).mpr ends]

theorem node?_quotes {path cwd : String}
    (place : Path.segments (Path.resolve path cwd) = ["quotes.txt"]) (site : Site) :
    (ofSite site).node? path cwd = some (.file (.stored site.quotesText)) := by
  have child : Node.child? (ofSite site).children "quotes.txt" =
      Node.child? (base site).children "quotes.txt" := child?_ofSite site (by decide) (by decide)
  rw [node?, place, root, Node.descend?_cons, child]
  rfl

/-- A path that goes home, into a directory and back, and ends in a name. -/
theorem namingLaw_of_detour :
    let tree := ofSite .builtin
    let path := "~/mycode/.././quotes.txt"
    (∃ content, tree.node? path "/projects" = some (.file content)) ∧
      Files.ls [path] "/projects" tree = .text "quotes.txt" := by
  intro tree path
  have place : Path.segments (Path.resolve path "/projects") = ["quotes.txt"] := by decide +kernel
  have found := node?_quotes place .builtin
  obtain ⟨name, law⟩ := namingLaw_of_file found
  have own := law.own
  rw [place] at own
  obtain rfl : "quotes.txt" = name := Option.some.inj own
  have last : Path.baseName path = "quotes.txt" := by decide +kernel
  refine ⟨⟨_, found⟩, (law.named []).mpr ?_⟩
  intro tail stray ends
  have told := (Path.baseName_eq_stray_iff stray).mpr ends
  exact Path.not_isPlain_of_stray stray (told ▸ last ▸ law.plain)

/-- A path of a file that is closed with a slash, and two that end in what is followed. -/
theorem file_unnamed :
    let tree := ofSite .builtin
    ∀ entry ∈ [("quotes.txt/", ""), ("quotes.txt/.", "."), ("quotes.txt/more/..", "..")],
      tree.node? entry.1 "/" = some (.file (.stored Site.builtin.quotesText)) ∧
      (Path.segments (Path.resolve entry.1 "/")).getLast? = some "quotes.txt" ∧
      Files.ls [entry.1] "/" tree = .text entry.2 ∧ entry.2 ≠ "quotes.txt" := by
  intro tree entry mem
  obtain ⟨place, last, other⟩ : Path.segments (Path.resolve entry.1 "/") = ["quotes.txt"] ∧
      Path.baseName entry.1 = entry.2 ∧ entry.2 ≠ "quotes.txt" := by
    revert entry
    decide +kernel
  have found := node?_quotes place .builtin
  refine ⟨found, by rw [place]; rfl, ?_, other⟩
  rw [ls_of_file found, last]

end Tree

end PortfolioShell
