import PortfolioShell.Proofs.Trees

/-!
# Placing nodes

A node is placed at segments, or nothing happens because a file stands above its place. Then the
place holds the node, directories lie above it, and what lies neither above it nor below it is found
as before. So the placing of a node takes away only what was found below it.
-/
namespace PortfolioShell

namespace Path

/-- Segments that the way to others leads through. -/
def IsAbove (above segs : List String) : Prop := ∃ rest, rest ≠ [] ∧ segs = above ++ rest

theorem not_isAbove_nil (above : List String) : ¬ IsAbove above [] := by
  rintro ⟨rest, below, whole⟩
  exact below (List.append_eq_nil_iff.mp whole.symm).2

theorem isAbove_cons_iff {name : String} {above segs : List String} :
    IsAbove (name :: above) (name :: segs) ↔ IsAbove above segs := by
  simp [IsAbove]

theorem IsAbove.trans {first second third : List String} (h : IsAbove first second)
    (h' : IsAbove second third) : IsAbove first third := by
  obtain ⟨rest, below, rfl⟩ := h
  obtain ⟨more, _, rfl⟩ := h'
  exact ⟨rest ++ more, by simp [below], List.append_assoc ..⟩

/-- Of two ways one leads on from the other, or they part. -/
theorem above_or_apart (segs other : List String) :
    segs = other ∨ IsAbove segs other ∨ IsAbove other segs ∨
      (¬ segs <+: other ∧ ¬ other <+: segs) := by
  by_cases h : segs <+: other
  · obtain ⟨rest, rfl⟩ := h
    cases rest with
    | nil => simp
    | cons name rest => exact Or.inr (Or.inl ⟨_, List.cons_ne_nil name rest, rfl⟩)
  · by_cases h' : other <+: segs
    · obtain ⟨rest, rfl⟩ := h'
      cases rest with
      | nil => simp
      | cons name rest =>
        exact Or.inr (Or.inr (Or.inl ⟨_, List.cons_ne_nil name rest, rfl⟩))
    · exact Or.inr (Or.inr (Or.inr ⟨h, h'⟩))

end Path

namespace Node

theorem descend?_cons (children : List (String × Node)) (name : String) (segs : List String) :
    (directory children).descend? (name :: segs) =
      (child? children name).bind (descend? · segs) := rfl

theorem setChild_self {name : String} {node : Node} {children : List (String × Node)}
    (found : child? children name = some node) : setChild name node children = children := by
  induction children with
  | nil => cases found
  | cons first rest ih =>
    obtain ⟨own, old⟩ := first
    rw [child?_cons] at found
    by_cases same : name = own
    · subst same
      rw [if_pos rfl] at found
      obtain rfl := Option.some.inj found
      exact if_pos rfl
    · rw [if_neg same] at found
      rw [setChild, if_neg (Ne.symm same), ih found]

/-! ### Files above a place -/

/-- A file stands above a place. -/
def IsBlocked (segs : List String) (children : List (String × Node)) : Prop :=
  ∃ above, Path.IsAbove above segs ∧
    ∃ content, (directory children).descend? above = some (file content)

variable {node : Node} {name : String} {segs above other : List String}
  {children inner : List (String × Node)} {content : FileContent}

theorem isBlocked_of_file (found : child? children name = some (file content))
    (below : segs ≠ []) : IsBlocked (name :: segs) children :=
  ⟨[name], ⟨segs, below, rfl⟩, content, by rw [descend?_cons, found]; rfl⟩

theorem not_isBlocked_of_none (missing : child? children name = none) :
    ¬ IsBlocked (name :: segs) children := by
  rintro ⟨above, ⟨rest, below, whole⟩, content, found⟩
  cases above with
  | nil => cases found
  | cons first above =>
    obtain ⟨rfl, _⟩ := List.cons.inj whole
    rw [descend?_cons, missing] at found
    cases found

theorem isBlocked_directory_iff (found : child? children name = some (directory inner)) :
    IsBlocked (name :: segs) children ↔ IsBlocked segs inner := by
  constructor
  · rintro ⟨above, ⟨rest, below, whole⟩, content, led⟩
    cases above with
    | nil => cases led
    | cons first above =>
      obtain ⟨rfl, rfl⟩ := List.cons.inj whole
      rw [descend?_cons, found] at led
      exact ⟨above, ⟨rest, below, rfl⟩, content, led⟩
  · rintro ⟨above, isAbove, content, led⟩
    refine ⟨name :: above, Path.isAbove_cons_iff.mpr isAbove, content, ?_⟩
    rw [descend?_cons, found]
    exact led

theorem not_isBlocked_singleton (name : String) (children : List (String × Node)) :
    ¬ IsBlocked [name] children := by
  rintro ⟨above, ⟨rest, below, whole⟩, content, found⟩
  cases above with
  | nil => cases found
  | cons first above =>
    obtain ⟨_, nothing⟩ := List.cons.inj whole
    exact below (List.append_eq_nil_iff.mp nothing.symm).2

/-- What is found somewhere is found behind directories. -/
theorem not_isBlocked_of_found {found : Node} (led : (directory children).descend? segs = some found) :
    ¬ IsBlocked segs children := by
  rintro ⟨above, ⟨rest, below, rfl⟩, content, file⟩
  obtain ⟨next, more, rfl⟩ := List.exists_cons_of_ne_nil below
  rw [descend?_append, file] at led
  cases led

/-! ### What is found afterwards -/

/-- Where a file stands in the way nothing is changed. -/
theorem place_of_isBlocked (node : Node) (blocked : IsBlocked segs children) :
    place node segs children = children := by
  induction segs generalizing children with
  | nil => rfl
  | cons name rest ih =>
    cases rest with
    | nil => exact absurd blocked (not_isBlocked_singleton name children)
    | cons next more =>
      cases found : child? children name with
      | none => exact absurd blocked (not_isBlocked_of_none found)
      | some child =>
        cases child with
        | file content => simp only [place, found]
        | directory inner =>
          simp only [place, found]
          rw [ih ((isBlocked_directory_iff found).mp blocked)]
          exact setChild_self found

/-- Behind the first segment a placing goes on in a directory, which is made if it is missing. -/
theorem child?_place (node : Node) (free : ¬ IsBlocked (name :: segs) children) (below : segs ≠ []) :
    ∃ inner, child? (place node (name :: segs) children) name =
        some (directory (place node segs inner)) ∧ ¬ IsBlocked segs inner ∧
      (child? children name = none ∧ inner = [] ∨
        child? children name = some (directory inner)) := by
  obtain ⟨next, more, rfl⟩ := List.exists_cons_of_ne_nil below
  cases found : child? children name with
  | none =>
    refine ⟨[], ?_, ?_, Or.inl ⟨rfl, rfl⟩⟩
    · simp only [place, found, child?_setChild, if_true]
    · rintro ⟨above, _, content, led⟩
      cases above <;> cases led
  | some child =>
    cases child with
    | file content => exact absurd (isBlocked_of_file found below) free
    | directory inner =>
      refine ⟨inner, child?_place_below found node below, ?_, Or.inr rfl⟩
      exact fun blocked => free ((isBlocked_directory_iff found).mpr blocked)

theorem descend?_place_self (node : Node) (free : ¬ IsBlocked segs children)
    (nonempty : segs ≠ []) :
    (directory (place node segs children)).descend? segs = some node := by
  induction segs generalizing children with
  | nil => exact absurd rfl nonempty
  | cons name rest ih =>
    cases rest with
    | nil => simp [place, descend?, child?_setChild]
    | cons next more =>
      have below := List.cons_ne_nil next more
      obtain ⟨inner, placed, freeInner, _⟩ := child?_place node free below
      rw [descend?_cons, placed]
      exact ih freeInner below

/-- Directories lead to what was placed. -/
theorem descend?_place_above (node : Node) (free : ¬ IsBlocked segs children)
    (isAbove : Path.IsAbove above segs) :
    ∃ inner, (directory (place node segs children)).descend? above = some (directory inner) := by
  have nonempty : segs ≠ [] := by
    rintro rfl
    exact Path.not_isAbove_nil above isAbove
  have placed := descend?_place_self node free nonempty
  obtain ⟨rest, below, rfl⟩ := isAbove
  obtain ⟨found, led, onwards⟩ := Option.bind_eq_some_iff.mp ((descend?_append ..).symm.trans placed)
  obtain ⟨next, more, rfl⟩ := List.exists_cons_of_ne_nil below
  cases found with
  | file content => cases onwards
  | directory inner => exact ⟨inner, led⟩

/-- What the way to the placed node does not lead to or through is found as before. -/
theorem descend?_place_apart (node : Node) (children : List (String × Node))
    (apart : ¬ segs <+: other ∧ ¬ other <+: segs) :
    (directory (place node segs children)).descend? other =
      (directory children).descend? other := by
  induction segs generalizing children other with
  | nil => exact absurd List.nil_prefix apart.1
  | cons name rest ih =>
    cases other with
    | nil => exact absurd List.nil_prefix apart.2
    | cons first more =>
      by_cases same : first = name
      · subst same
        have onwards : ¬ rest <+: more ∧ ¬ more <+: rest := by
          simpa only [List.cons_prefix_cons, true_and] using apart
        have below : rest ≠ [] := by
          rintro rfl
          exact onwards.1 List.nil_prefix
        by_cases blocked : IsBlocked (first :: rest) children
        · rw [place_of_isBlocked node blocked]
        · obtain ⟨inner, placed, _, found⟩ := child?_place node blocked below
          rw [descend?_cons, descend?_cons, placed, Option.bind_some, ih inner onwards]
          rcases found with ⟨missing, rfl⟩ | found
          · obtain ⟨next, further, rfl⟩ := List.exists_cons_of_ne_nil
              (fun nothing : more = [] => onwards.2 (nothing ▸ List.nil_prefix))
            rw [missing]
            rfl
          · rw [found]
            rfl
      · rw [descend?_cons, descend?_cons, child?_place_of_ne same]

/-- What is found below a placed node is what the node leads to. -/
theorem descend?_place_append (node : Node) (free : ¬ IsBlocked segs children)
    (nonempty : segs ≠ []) (more : List String) :
    (directory (place node segs children)).descend? (segs ++ more) = node.descend? more := by
  rw [descend?_append, descend?_place_self node free nonempty]
  rfl

/-- What is found among children after a node was placed among them. -/
structure PlacementLaw (node : Node) (segs : List String) (children : List (String × Node)) :
    Prop where
  /-- Without segments nothing is placed, nor where a file stands above the place. -/
  kept : segs = [] ∨ IsBlocked segs children → place node segs children = children
  /-- Otherwise the node is found at its place, -/
  placed : segs ≠ [] → ¬ IsBlocked segs children →
    (directory (place node segs children)).descend? segs = some node
  /-- what is found below it is what the node leads to, -/
  below : segs ≠ [] → ¬ IsBlocked segs children → ∀ more,
    (directory (place node segs children)).descend? (segs ++ more) = node.descend? more
  /-- directories are found above it, -/
  above : segs ≠ [] → ¬ IsBlocked segs children → ∀ above, Path.IsAbove above segs →
    ∃ inner, (directory (place node segs children)).descend? above = some (directory inner)
  /-- and in every case all that is neither the place nor above or below it is found as before. -/
  apart : ∀ other, ¬ other <+: segs → ¬ segs <+: other →
    (directory (place node segs children)).descend? other = (directory children).descend? other

/-- A node that is placed at the segments of a path changes one place, whatever stood there, or
nothing at all. -/
theorem placementLaw_of_path (node : Node) (path : String) (children : List (String × Node)) :
    PlacementLaw node (Path.segments path) children := by
  constructor
  case kept =>
    rintro (none | blocked)
    · rw [none]
      rfl
    · exact place_of_isBlocked node blocked
  case placed =>
    intro nonempty free
    exact descend?_place_self node free nonempty
  case below =>
    intro nonempty free
    exact descend?_place_append node free nonempty
  case above =>
    intro _ free above isAbove
    exact descend?_place_above node free isAbove
  case apart =>
    intro other notAbove notBelow
    exact descend?_place_apart node children ⟨notBelow, notAbove⟩

end Node

end PortfolioShell
