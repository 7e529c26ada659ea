import PortfolioShell.Proofs.Paths
import PortfolioShell.Tree

/-!
# Trees of sites

Putting a file below a directory leaves it a directory, and changes no other child of the root.
So the directory of projects outlasts whatever a site files into the tree, and nothing is filed
outside it and the directory of code samples. What a path names does not change when the path is
resolved first.
-/
namespace PortfolioShell

namespace Node

theorem child?_cons (own : String) (node : Node) (rest : List (String × Node)) (name : String) :
    child? ((own, node) :: rest) name = if name = own then some node else child? rest name := by
  by_cases h : name = own
  · simp [child?, h]
  · have hne : (name == own) = false := beq_eq_false_iff_ne.mpr h
    simp [child?, List.lookup_cons, hne, h]

/-- Setting a child is seen under its own name only. -/
theorem child?_setChild (name : String) (node : Node) (children : List (String × Node))
    (other : String) :
    child? (setChild name node children) other =
      if other = name then some node else child? children other := by
  induction children with
  | nil => exact child?_cons name node [] other
  | cons first rest ih =>
    obtain ⟨own, old⟩ := first
    by_cases hown : own = name
    · subst hown
      simp only [setChild, if_true, child?_cons]
      split <;> rfl
    · simp only [setChild, hown, if_false, child?_cons, ih]
      by_cases h : other = own
      · simp [h, hown]
      · simp [h]

theorem child?_place_of_ne {name other : String} (different : other ≠ name) (node : Node)
    (rest : List String) (children : List (String × Node)) :
    child? (place node (name :: rest) children) other = child? children other := by
  cases rest with
  | nil => simp [place, child?_setChild, different]
  | cons next more =>
    simp only [place]
    split
    · simp [child?_setChild, different]
    · simp [child?_setChild, different]
    · rfl

/-- What is placed below a directory leaves the directory in its place. -/
theorem child?_place_below {name : String} {children inner : List (String × Node)}
    (found : child? children name = some (directory inner)) (node : Node) {rest : List String}
    (below : rest ≠ []) :
    child? (place node (name :: rest) children) name =
      some (directory (place node rest inner)) := by
  obtain ⟨next, more, rfl⟩ := List.exists_cons_of_ne_nil below
  simp [place, found, child?_setChild]

/-- Segments are followed in parts. -/
theorem descend?_append (node : Node) (segs more : List String) :
    node.descend? (segs ++ more) = (node.descend? segs).bind (descend? · more) := by
  induction segs generalizing node with
  | nil => rfl
  | cons segment rest ih =>
    cases node with
    | file content => rfl
    | directory children =>
      rw [List.cons_append, descend?, descend?, Option.bind_assoc]
      exact congrArg _ (funext ih)

/-- What leads to a node leads through directories. -/
theorem exists_directory_of_descend? {node found : Node} {segs : List String} {last : String}
    (led : node.descend? (segs ++ [last]) = some found) :
    ∃ children, node.descend? segs = some (directory children) := by
  rw [descend?_append] at led
  obtain ⟨above, habove, led⟩ := Option.bind_eq_some_iff.mp led
  cases above with
  | file content => cases led
  | directory children => exact ⟨children, habove⟩

/-! ### Names -/

mutual

/-- Whether every name below a node passes a test. -/
def allNames (test : String → Bool) : Node → Bool
  | file _ => true
  | directory children => allNamesIn test children

/-- Whether every name among children and below them passes a test. -/
def allNamesIn (test : String → Bool) : List (String × Node) → Bool
  | [] => true
  | (name, node) :: rest => test name && node.allNames test && allNamesIn test rest

end

variable {test : String → Bool}

theorem allNamesIn_iff {children : List (String × Node)} :
    allNamesIn test children = true ↔
      ∀ child ∈ children, test child.1 = true ∧ child.2.allNames test = true := by
  induction children with
  | nil => simp [allNamesIn]
  | cons first rest ih =>
    obtain ⟨name, node⟩ := first
    simp [allNamesIn, ih]

theorem mem_of_child? {children : List (String × Node)} {name : String} {node : Node}
    (h : child? children name = some node) : (name, node) ∈ children := by
  induction children with
  | nil => cases h
  | cons first rest ih =>
    obtain ⟨own, old⟩ := first
    rw [child?_cons] at h
    split at h
    · rename_i same
      obtain rfl := Option.some.inj h
      exact same ▸ List.mem_cons_self
    · exact List.mem_cons_of_mem _ (ih h)

/-- What passes the test below a node passes it below everything the node leads to. -/
theorem allNames_of_descend? {node found : Node} {segs : List String}
    (h : node.allNames test = true) (led : node.descend? segs = some found) :
    found.allNames test = true := by
  induction segs generalizing node with
  | nil =>
    obtain rfl : node = found := Option.some.inj led
    exact h
  | cons segment rest ih =>
    cases node with
    | file content => cases led
    | directory children =>
      obtain ⟨child, hchild, led⟩ := Option.bind_eq_some_iff.mp led
      have below := allNamesIn_iff.mp (by simpa [allNames] using h) _ (mem_of_child? hchild)
      exact ih below.2 led

end Node

namespace Tree

/-- A child of the root is a directory. -/
def HasDirectory (tree : Tree) (name : String) : Prop :=
  ∃ inner, Node.child? tree.children name = some (.directory inner)

/-- A file is added below one child of the root; the others stay. -/
theorem child?_addText_of_ne {path head name : String} {rest : List String}
    (hpath : Path.segments path = head :: rest) (different : name ≠ head) (tree : Tree)
    (text : String) :
    Node.child? (tree.addText path text).children name = Node.child? tree.children name := by
  rw [addText, hpath, Node.child?_place_of_ne different]

theorem HasDirectory.addText_below {tree : Tree} {name path : String} {rest : List String}
    (h : tree.HasDirectory name) (hpath : Path.segments path = name :: rest)
    (below : rest ≠ []) (text : String) : (tree.addText path text).HasDirectory name := by
  obtain ⟨inner, found⟩ := h
  have hplaced := Node.child?_place_below found (.file (.stored text)) below
  exact ⟨_, by rw [addText, hpath]; exact hplaced⟩

/-! ### The directory of projects -/

/-- The name of the directory of project sheets. -/
def projectsName : String := "projects"

theorem isPlain_projectsName : Path.IsPlain projectsName := by
  refine ⟨?_, ?_, ?_, ?_⟩ <;> decide

theorem isSegment_projectsName : Path.IsSegment projectsName := isPlain_projectsName.isSegment

theorem segments_projectsDir : Path.segments projectsDir = [projectsName] :=
  (Path.segments_slash_append projectsName).trans
    (Path.segments_of_isSegment isSegment_projectsName)

theorem isNormal_projectsDir : Path.IsNormal projectsDir :=
  ⟨[projectsName], rfl, fun _ hs => List.mem_singleton.mp hs ▸ isPlain_projectsName⟩

/-- A sheet is filed strictly below the directory of projects: its name ends in a suffix, so it
is not made of slashes. -/
theorem segments_sheetPath (project : Project) :
    ∃ rest, rest ≠ [] ∧ Path.segments (sheetPath project) = projectsName :: rest := by
  have dot : '.' ∈ project.fileName.toList := by
    simp [Project.fileName, toString]
  refine ⟨Path.segments project.fileName, ?_, ?_⟩
  · have uncut : ('.' == '/') = false := by decide
    have hruns := @Text.runs_ne_nil (· == '/') _ '.' dot uncut
    simpa [Path.segments, Text.runsWithout] using hruns
  · have h := Path.segments_append_slash projectsName project.fileName
    rw [Path.segments_of_isSegment isSegment_projectsName] at h
    exact h

theorem segments_samplePath (sample : CodeSample) :
    Path.segments (samplePath sample) = "mycode" :: Path.segments sample.name := by
  have h := Path.segments_append_slash "mycode" sample.name
  have hcode : Path.IsSegment "mycode" := by constructor <;> decide
  rw [Path.segments_of_isSegment hcode] at h
  exact h

theorem hasDirectory_base (site : Site) : (base site).HasDirectory projectsName :=
  ⟨[], by simp [base, Node.child?_cons, projectsName]⟩

theorem hasDirectory_foldl_sheets (projects : List Project) {tree : Tree}
    (h : tree.HasDirectory projectsName) :
    (projects.foldl (fun tree p => tree.addText (sheetPath p) p.sheet) tree).HasDirectory
      projectsName := by
  induction projects generalizing tree with
  | nil => exact h
  | cons project rest ih =>
    obtain ⟨_, below, hpath⟩ := segments_sheetPath project
    exact ih (h.addText_below hpath below _)

theorem child?_foldl_sheets (projects : List Project) {name : String}
    (different : name ≠ projectsName) (tree : Tree) :
    Node.child? (projects.foldl (fun tree p => tree.addText (sheetPath p) p.sheet) tree).children
      name = Node.child? tree.children name := by
  induction projects generalizing tree with
  | nil => rfl
  | cons project rest ih =>
    obtain ⟨_, _, hpath⟩ := segments_sheetPath project
    rw [List.foldl_cons, ih, child?_addText_of_ne hpath different]

theorem child?_foldl_samples (samples : List CodeSample) {name : String}
    (different : name ≠ "mycode") (tree : Tree) :
    Node.child? (samples.foldl (fun tree c => tree.addText (samplePath c) c.content) tree).children
      name = Node.child? tree.children name := by
  induction samples generalizing tree with
  | nil => rfl
  | cons sample rest ih =>
    rw [List.foldl_cons, ih, child?_addText_of_ne (segments_samplePath sample) different]

/-- Every tree of a site has a directory of projects. -/
theorem hasDirectory_ofSite (site : Site) : (ofSite site).HasDirectory projectsName := by
  obtain ⟨inner, found⟩ := hasDirectory_foldl_sheets site.projects (hasDirectory_base site)
  exact ⟨inner, (child?_foldl_samples site.code (by decide) _).trans found⟩

/-- A site files nothing outside two directories. -/
theorem child?_ofSite (site : Site) {name : String} (notProjects : name ≠ projectsName)
    (notCode : name ≠ "mycode") :
    Node.child? (ofSite site).children name = Node.child? (base site).children name := by
  rw [ofSite, child?_foldl_samples site.code notCode,
    child?_foldl_sheets site.projects notProjects]

/-! ### Looking up -/

theorem node?_resolve (tree : Tree) (path cwd dir : String) :
    tree.node? (Path.resolve path cwd) dir = tree.node? path cwd := by
  rw [node?, node?, Path.resolve_resolve]

theorem node?_root (tree : Tree) (dir : String) : tree.node? Path.root dir = some tree.root := by
  rw [node?, Path.resolve_of_isNormal Path.isNormal_root]
  rfl

theorem node?_projectsDir {tree : Tree} (h : tree.HasDirectory projectsName) (dir : String) :
    ∃ inner, tree.node? projectsDir dir = some (.directory inner) := by
  obtain ⟨inner, found⟩ := h
  refine ⟨inner, ?_⟩
  rw [node?, Path.resolve_of_isNormal isNormal_projectsDir, segments_projectsDir]
  simp [root, Node.descend?, found]

theorem isDirectory_iff {tree : Tree} {path cwd : String} :
    tree.isDirectory path cwd = true ↔
      ∃ children, tree.node? path cwd = some (.directory children) := by
  rw [isDirectory]
  cases tree.node? path cwd with
  | none => simp
  | some node => cases node <;> simp [Node.isDirectory]

end Tree

end PortfolioShell
