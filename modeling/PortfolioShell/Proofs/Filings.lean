import PortfolioShell.Proofs.Placements
import PortfolioShell.Site.Document

/-!
# What a tree keeps of a site

Project sheets and code samples are filed one after the other. A file in the way of a later one
stays, and the later one is lost. A directory in the way does not stay: the file takes its place,
and what was filed below it is lost. Nothing else is ever lost, so a filed text is found in the
finished tree exactly if nothing was filed above it later.
-/
namespace PortfolioShell

namespace Tree

/-- A file stands at segments. -/
def Holds (tree : Tree) (segs : List String) (content : FileContent) : Prop :=
  tree.root.descend? segs = some (.file content)

/-- A file stands above the place of a path. -/
def IsBlocked (tree : Tree) (path : String) : Prop :=
  Node.IsBlocked (Path.segments path) tree.children

variable {tree : Tree} {path text : String} {segs : List String} {content : FileContent}

/-! ### One filing -/

theorem addText_of_isBlocked (blocked : tree.IsBlocked path) (text : String) :
    tree.addText path text = tree := by
  rw [addText, Node.place_of_isBlocked _ blocked]

theorem holds_addText (free : ¬ tree.IsBlocked path) (filed : Path.segments path ≠ [])
    (text : String) : (tree.addText path text).Holds (Path.segments path) (.stored text) :=
  Node.descend?_place_self _ free filed

/-- A filed text takes the place of what was there, and nothing is found below it. -/
theorem descend?_addText_below (free : ¬ tree.IsBlocked path) (filed : Path.segments path ≠ [])
    (text : String) (isAbove : Path.IsAbove (Path.segments path) segs) :
    (tree.addText path text).root.descend? segs = none := by
  obtain ⟨rest, below, rfl⟩ := isAbove
  obtain ⟨next, more, rfl⟩ := List.exists_cons_of_ne_nil below
  rw [Node.descend?_append, holds_addText free filed text]
  rfl

/-- Of the files elsewhere a filing takes away those below its place, and adds none. -/
theorem holds_addText_iff (filed : Path.segments path ≠ []) (elsewhere : Path.segments path ≠ segs) :
    (tree.addText path text).Holds segs content ↔
      tree.Holds segs content ∧ ¬ Path.IsAbove (Path.segments path) segs := by
  by_cases blocked : tree.IsBlocked path
  · rw [addText_of_isBlocked blocked]
    constructor
    · intro held
      refine ⟨held, fun isAbove => ?_⟩
      -- What stands in the way of the path stands in the way of what is below it.
      obtain ⟨above, higher, other, found⟩ := blocked
      exact Node.not_isBlocked_of_found held ⟨above, higher.trans isAbove, other, found⟩
    · exact And.left
  · rcases Path.above_or_apart (Path.segments path) segs with same | isAbove | isBelow | apart
    · exact absurd same elsewhere
    · have lost := descend?_addText_below blocked filed text isAbove
      constructor
      · intro held
        cases lost.symm.trans held
      · exact fun held => absurd isAbove held.2
    · obtain ⟨inner, led⟩ := Node.descend?_place_above (.file (.stored text)) blocked isBelow
      constructor
      · intro held
        cases led.symm.trans held
      · rintro ⟨held, _⟩
        exact absurd ⟨segs, isBelow, content, held⟩ blocked
    · have kept : (tree.addText path text).root.descend? segs = tree.root.descend? segs :=
        Node.descend?_place_apart _ tree.children apart
      rw [Holds, Holds, kept]
      constructor
      · intro held
        refine ⟨held, ?_⟩
        rintro ⟨rest, _, rfl⟩
        exact apart.1 (List.prefix_append _ _)
      · exact And.left

/-! ### All filings of a site -/

/-- The tree in which texts have been filed under their paths in order. -/
def file (tree : Tree) (filings : List (String × String)) : Tree :=
  filings.foldl (fun tree filing => tree.addText filing.1 filing.2) tree

/-- What a site files, in order: the sheets of its projects, then its samples of code. -/
def filings (site : Site) : List (String × String) :=
  site.projects.map (fun project => (sheetPath project, project.sheet)) ++
    site.code.map (fun sample => (samplePath sample, sample.content))

theorem ofSite_eq_file (site : Site) : ofSite site = (base site).file (filings site) := by
  simp only [ofSite, file, filings, List.foldl_append, List.foldl_map]

theorem segments_ne_nil_of_mem {site : Site} {filing : String × String}
    (mem : filing ∈ filings site) : Path.segments filing.1 ≠ [] := by
  rcases List.mem_append.mp mem with ofProject | ofSample
  · obtain ⟨project, _, rfl⟩ := List.mem_map.mp ofProject
    obtain ⟨rest, _, segments⟩ := segments_sheetPath project
    exact segments ▸ List.cons_ne_nil _ _
  · obtain ⟨sample, _, rfl⟩ := List.mem_map.mp ofSample
    exact segments_samplePath sample ▸ List.cons_ne_nil _ _

theorem file_append (tree : Tree) (filings more : List (String × String)) :
    tree.file (filings ++ more) = (tree.file filings).file more := List.foldl_append

/-- A file outlasts filings elsewhere exactly if none of them is above it. -/
theorem holds_file_iff {later : List (String × String)}
    (filed : ∀ filing ∈ later, Path.segments filing.1 ≠ [])
    (elsewhere : ∀ filing ∈ later, Path.segments filing.1 ≠ segs) :
    (tree.file later).Holds segs content ↔
      tree.Holds segs content ∧ ∀ filing ∈ later, ¬ Path.IsAbove (Path.segments filing.1) segs := by
  induction later generalizing tree with
  | nil => simp [file]
  | cons filing rest ih =>
    obtain ⟨filedFirst, filedRest⟩ := List.forall_mem_cons.mp filed
    obtain ⟨elsewhereFirst, elsewhereRest⟩ := List.forall_mem_cons.mp elsewhere
    have first : (tree.addText filing.1 filing.2).Holds segs content ↔
        tree.Holds segs content ∧ ¬ Path.IsAbove (Path.segments filing.1) segs :=
      holds_addText_iff filedFirst elsewhereFirst
    rw [file, List.foldl_cons, ← file, ih filedRest elsewhereRest, first, List.forall_mem_cons,
      and_assoc]

/-- A path without `.` and `..` names what stands at its segments. -/
theorem node?_of_plain (plain : ∀ s ∈ Path.segments path, Path.IsPlain s) (tree : Tree)
    (cwd : String) : tree.node? ("/" ++ path) cwd = tree.root.descend? (Path.segments path) := by
  have absolute : Path.anchor ("/" ++ path) cwd = "/" ++ path := by simp [Path.anchor]
  rw [node?, Path.segments_resolve, absolute, Path.segments_slash_append,
    Path.normalize_of_plain plain]

/-- What becomes of a text that a site files under a path, between what it has filed before and what
it files later. -/
structure FilingLaw (site : Site) (before : Tree) (path text : String)
    (later : List (String × String)) : Prop where
  /-- A file in the way stays, and the text is not filed. -/
  blocked : before.IsBlocked path → before.addText path text = before
  /-- Else it is filed. -/
  filed : ¬ before.IsBlocked path →
    (before.addText path text).Holds (Path.segments path) (.stored text)
  /-- Of the files elsewhere exactly those below the path are lost, and none is added. -/
  elsewhere : ∀ segs content, Path.segments path ≠ segs →
    ((before.addText path text).Holds segs content ↔
      before.Holds segs content ∧ ¬ Path.IsAbove (Path.segments path) segs)
  /-- A directory in its place is lost with all that is below it. -/
  replaced : ∀ inner, before.root.descend? (Path.segments path) = some (.directory inner) →
    (before.addText path text).Holds (Path.segments path) (.stored text) ∧
      ∀ segs, Path.IsAbove (Path.segments path) segs →
        (before.addText path text).root.descend? segs = none
  /-- In the finished tree the text is found exactly if nothing was filed above it later. -/
  kept : ¬ before.IsBlocked path →
    (∀ filing ∈ later, Path.segments filing.1 ≠ Path.segments path) →
      ((ofSite site).Holds (Path.segments path) (.stored text) ↔
        ∀ filing ∈ later, ¬ Path.IsAbove (Path.segments filing.1) (Path.segments path))
  /-- A path without `.` and `..` reads what is found. -/
  read : (∀ s ∈ Path.segments path, Path.IsPlain s) → ∀ cwd,
    (ofSite site).node? ("/" ++ path) cwd = (ofSite site).root.descend? (Path.segments path)

theorem filingLaw_of_site {site : Site} {before later : List (String × String)}
    (filings_eq : filings site = before ++ (path, text) :: later) :
    FilingLaw site ((base site).file before) path text later := by
  have segments : ∀ filing ∈ (path, text) :: later, Path.segments filing.1 ≠ [] := by
    intro filing mem
    exact segments_ne_nil_of_mem (filings_eq ▸ List.mem_append_right before mem)
  obtain ⟨filed, filedLater⟩ := List.forall_mem_cons.mp segments
  have finished : ofSite site = (((base site).file before).addText path text).file later := by
    rw [ofSite_eq_file, filings_eq, file_append]
    rfl
  constructor
  case blocked => exact fun blocked => addText_of_isBlocked blocked text
  case filed => exact fun free => holds_addText free filed text
  case elsewhere => exact fun segs content other => holds_addText_iff filed other
  case replaced =>
    intro inner led
    have free : ¬ ((base site).file before).IsBlocked path := Node.not_isBlocked_of_found led
    exact ⟨holds_addText free filed text, fun segs => descend?_addText_below free filed text⟩
  case kept =>
    intro free elsewhere
    rw [finished, holds_file_iff filedLater elsewhere]
    exact and_iff_right (holds_addText free filed text)
  case read => exact fun plain cwd => node?_of_plain plain _ cwd

/-- A site with a note in a directory, and then a file of the name of the directory. -/
def withNotes : Site :=
  ⟨⟨"", "", "", "", ""⟩, "", [], [], [⟨"notes/inner.txt", "kept"⟩, ⟨"notes", "file"⟩]⟩

/-- The note is lost. -/
theorem filingLaw_withNotes :
    filings withNotes = [("mycode/notes/inner.txt", "kept"), ("mycode/notes", "file")] ∧
      FilingLaw withNotes (base withNotes) "mycode/notes/inner.txt" "kept"
        [("mycode/notes", "file")] ∧
      ¬ (ofSite withNotes).Holds ["mycode", "notes", "inner.txt"] (.stored "kept") := by
  have filings_eq :
      filings withNotes = [] ++ ("mycode/notes/inner.txt", "kept") :: [("mycode/notes", "file")] := by
    decide +kernel
  have law : FilingLaw withNotes (base withNotes) _ _ _ := filingLaw_of_site filings_eq
  have segments : Path.segments "mycode/notes/inner.txt" = ["mycode", "notes", "inner.txt"] ∧
      Path.segments "mycode/notes" = ["mycode", "notes"] := by decide +kernel
  have free : ¬ (base withNotes).IsBlocked "mycode/notes/inner.txt" := by
    rw [IsBlocked, segments.1]
    exact Node.not_isBlocked_of_none rfl
  have kept := law.kept free (by simp [segments])
  refine ⟨filings_eq, law, fun held => ?_⟩
  rw [← segments.1, kept] at held
  refine held _ (List.mem_singleton.mpr rfl) ⟨["inner.txt"], List.cons_ne_nil _ _, ?_⟩
  rw [segments.1, segments.2]
  rfl

/-- A document that is accepted, and whose later sample takes away an earlier one that was filed
under another path. -/
theorem note_of_document_lost :
    (Site.ofText ("[[\"\",\"\",\"\",\"\",\"\"],\"\",[],[]," ++
      "[[\"notes/inner.txt\",\"kept\"],[\"notes\",\"file\"]]]")).toOption = some withNotes ∧
    ((base withNotes).addText "mycode/notes/inner.txt" "kept").Holds
      ["mycode", "notes", "inner.txt"] (.stored "kept") ∧
    Path.segments "mycode/notes" ≠ ["mycode", "notes", "inner.txt"] ∧
    (ofSite withNotes).Holds ["mycode", "notes"] (.stored "file") ∧
    (ofSite withNotes).node? "/mycode/notes/inner.txt" "/" = none :=
  ⟨by decide +kernel, rfl, by decide +kernel, rfl, rfl⟩

end Tree

end PortfolioShell
