import PortfolioShell.Proofs.Paths

/-!
# What resolution comes to

Resolution gives normal forms, and normal forms are just the paths that it leaves as they are. Each
`..` leaves one directory; at the root there is none to leave, so what stands behind too many of them
is taken from the root. A segment that only looks special, such as `...` or a `~` behind a slash, is
a name like any other.
-/
namespace PortfolioShell.Path

/-! ### Segments in parts -/

/-- What has been followed to its end can be followed from there. -/
theorem normalize_append {segs : List String} (h : ∀ s ∈ segs, IsSegment s) (more : List String) :
    normalize (normalize segs ++ more) = normalize (segs ++ more) := by
  have there : (normalize segs).foldl enter [] = segs.foldl enter [] := by
    rw [foldl_enter_of_plain (plain_normalize h), normalize, List.reverse_reverse, List.append_nil]
  have parted : ((normalize segs ++ more).foldl enter []).reverse =
      ((segs ++ more).foldl enter []).reverse := by
    rw [List.foldl_append, List.foldl_append, there]
  exact parted

/-- Each `..` takes off the last segment, as long as there is one. -/
theorem normalize_append_ups (segs : List String) (count : Nat) :
    normalize (segs ++ List.replicate count "..") =
      (normalize segs).take ((normalize segs).length - count) := by
  induction count with
  | zero => simp
  | succ count ih =>
    rw [List.replicate_succ', ← List.append_assoc, normalize_concat_up, ih, List.dropLast_eq_take,
      List.length_take, List.take_take]
    congr 1
    omega

theorem resolve_ofSegments {segs : List String} (h : ∀ s ∈ segs, IsSegment s) (cwd : String) :
    resolve (ofSegments segs) cwd = ofSegments (normalize segs) := by
  rw [resolve, anchor_ofSegments, segments_ofSegments h]

/-! ### Paths from the root -/

/-- A path that begins with a slash or a tilde segment. -/
def IsRooted (path : String) : Prop :=
  Text.beginsWith "/" path = true ∨ Text.beginsWith "~/" path = true ∨ path = "~"

theorem exists_of_beginsWith {start text : String} (begins : Text.beginsWith start text = true) :
    ∃ rest, text.toList = start.toList ++ rest := by
  obtain ⟨rest, whole⟩ := List.isPrefixOf_iff_prefix.mp begins
  exact ⟨rest, whole.symm⟩

/-- A path from the root is taken from the same place in every directory. -/
theorem anchor_of_isRooted {path : String} (rooted : IsRooted path) (cwd dir : String) :
    anchor path cwd = anchor path dir := by
  rcases rooted with slash | belowHome | rfl
  · obtain ⟨rest, chars⟩ := exists_of_beginsWith slash
    have chars : path.toList = '/' :: rest := chars
    simp only [anchor, chars]
  · obtain ⟨rest, chars⟩ := exists_of_beginsWith belowHome
    have chars : path.toList = '~' :: '/' :: rest := chars
    simp only [anchor, chars]
  · rfl

/-! ### All paths -/

/-- What a path resolves to in a directory. -/
structure ResolutionLaw (path cwd : String) : Prop where
  /-- The result is in normal form, -/
  normal : IsNormal (resolve path cwd)
  /-- and resolving it again, wherever that may be, changes nothing. -/
  again : ∀ dir, resolve (resolve path cwd) dir = resolve path cwd
  /-- A path resolves to itself exactly if it is in normal form. -/
  fixed : resolve path cwd = path ↔ IsNormal path
  /-- Where `..` stands some times in a row, it takes off as many of the directories that the path has
  entered before. -/
  climbs : ∀ before count after,
    segments (anchor path cwd) = before ++ List.replicate count ".." ++ after →
    ∀ way, segments (resolve (ofSegments before) cwd) = way →
      resolve path cwd = resolve (ofSegments (way.take (way.length - count) ++ after)) cwd
  /-- Where it stands more often than there are directories to leave, the rest of the path is taken
  from the root. -/
  stops : ∀ before count after,
    segments (anchor path cwd) = before ++ List.replicate count ".." ++ after →
    (segments (resolve (ofSegments before) cwd)).length ≤ count →
      resolve path cwd = resolve (ofSegments after) cwd
  /-- A path from the root has nothing to do with the directory. -/
  rooted : IsRooted path → ∀ dir, resolve path dir = resolve path cwd

theorem resolve_of_ups {path cwd : String} {before after : List String} {count : Nat}
    (parted : segments (anchor path cwd) = before ++ List.replicate count ".." ++ after)
    {way : List String} (led : segments (resolve (ofSegments before) cwd) = way) :
    resolve path cwd = resolve (ofSegments (way.take (way.length - count) ++ after)) cwd := by
  have isSegment : ∀ s ∈ before ++ List.replicate count ".." ++ after, IsSegment s := by
    intro s hs
    exact isSegment_of_mem_segments (parted ▸ hs)
  have isSegmentBefore : ∀ s ∈ before ++ List.replicate count "..", IsSegment s := by
    intro s hs
    exact isSegment s (List.mem_append_left _ hs)
  have first : normalize before = way := by
    have hbefore : ∀ s ∈ before, IsSegment s := by
      intro s hs
      exact isSegmentBefore s (List.mem_append_left _ hs)
    rw [← led, resolve_ofSegments hbefore]
    exact (segments_ofSegments fun s hs => (plain_normalize hbefore s hs).isSegment).symm
  have left : normalize (before ++ List.replicate count "..") = way.take (way.length - count) := by
    rw [normalize_append_ups, first]
  have isSegmentAfter : ∀ s ∈ way.take (way.length - count) ++ after, IsSegment s := by
    intro s hs
    rcases List.mem_append.mp hs with hs | hs
    · rw [← left] at hs
      exact (plain_normalize isSegmentBefore s hs).isSegment
    · exact isSegment s (List.mem_append_right _ hs)
  rw [resolve_ofSegments isSegmentAfter, ← left, normalize_append isSegmentBefore, resolve, parted]

/-- Every path resolves to a normal form, in which nothing is left to follow. -/
theorem resolutionLaw (path cwd : String) : ResolutionLaw path cwd := by
  constructor
  case normal => exact isNormal_resolve path cwd
  case again => exact resolve_resolve path cwd
  case fixed =>
    constructor
    · intro same
      exact same ▸ isNormal_resolve path cwd
    · intro normal
      exact resolve_of_isNormal normal cwd
  case climbs =>
    intro before count after parted way led
    exact resolve_of_ups parted led
  case stops =>
    intro before count after parted few
    have enough := Nat.sub_eq_zero_of_le few
    rw [resolve_of_ups parted rfl, enough, List.take_zero, List.nil_append]
  case rooted =>
    intro rooted dir
    rw [resolve, resolve, anchor_of_isRooted rooted dir cwd]

example : resolve "/~/.../~x/.hidden" "/mycode" = "/~/.../~x/.hidden" := by decide +kernel

end PortfolioShell.Path
