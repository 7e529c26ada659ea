import PortfolioShell.Path
import PortfolioShell.Proofs.Pieces

/-!
# Normal forms of paths

Resolution gives a normal form, whatever the path and the directory are, and leaves a normal form
as it is. Nothing is said here about what a path names.
-/
namespace PortfolioShell.Path

/-- What can stand between two slashes. -/
def IsSegment (s : String) : Prop := s ≠ "" ∧ '/' ∉ s.toList

/-- A segment that names a child. The other segments only say where to go. -/
def IsPlain (s : String) : Prop := s ≠ "" ∧ s ≠ "." ∧ s ≠ ".." ∧ '/' ∉ s.toList

theorem IsPlain.isSegment {s : String} (h : IsPlain s) : IsSegment s := ⟨h.1, h.2.2.2⟩

/-! ### Segments -/

theorem isSegment_iff {s : String} : IsSegment s ↔ Text.IsStretch (· == '/') s := by
  refine and_congr Iff.rfl ⟨fun slash c hc => ?_, fun uncut slash => ?_⟩
  · have : c ≠ '/' := by
      rintro rfl
      exact slash hc
    simpa using this
  · simpa using uncut '/' slash

theorem segments_append_slash (before after : String) :
    segments (before ++ "/" ++ after) = segments before ++ segments after :=
  Text.stretches_append_cut (· == '/') (by rfl) (by rfl) before after

/-- A slash in front cuts off nothing. -/
theorem segments_slash_append (path : String) : segments ("/" ++ path) = segments path :=
  segments_append_slash "" path

theorem isSegment_of_mem_segments {path s : String} (h : s ∈ segments path) : IsSegment s :=
  isSegment_iff.mpr (Text.isStretch_of_mem h)

theorem segments_of_isSegment {s : String} (h : IsSegment s) : segments s = [s] :=
  Text.stretches_of_isStretch (isSegment_iff.mp h)

theorem segments_join {segs : List String} (h : ∀ s ∈ segs, IsSegment s) :
    segments (Text.join "/" segs) = segs :=
  Text.stretches_join (· == '/') (by rfl) (by rfl) fun s hs => isSegment_iff.mp (h s hs)

theorem segments_ofSegments {segs : List String} (h : ∀ s ∈ segs, IsSegment s) :
    segments (ofSegments segs) = segs :=
  (segments_slash_append _).trans (segments_join h)

/-! ### The last slash -/

/-- A path up to its last slash; nothing of a path without slashes. -/
def upToSlash (path : String) : String :=
  String.ofList (path.toList.reverse.dropWhile (· != '/')).reverse

theorem cutLast_of_baseName {dir name : String} (h : baseName (dir ++ name) = name) :
    cutLast (dir ++ name) = (dir, name) := by
  have size : (dir ++ name).length - name.length = dir.toList.length := by
    simp [String.length_append, String.length_toList]
  rw [cutLast, h, size, String.toList_append, List.take_left, String.ofList_toList]

/-- A path is cut behind its last slash, and loses nothing. -/
theorem cutLast_eq (path : String) :
    ∃ name, cutLast path = (upToSlash path, name) ∧ upToSlash path ++ name = path := by
  have keeps : ∀ {after : List Char}, (∀ d ∈ after, (d == '/') = false) →
      ∀ d ∈ after.reverse, (d != '/') = true := by
    intro after uncut d hd
    have := uncut d (List.mem_reverse.mp hd)
    simpa using this
  rcases Text.uncut_or_last_cut (· == '/') path.toList with
    uncut | ⟨before, c, after, h, cut, uncut⟩
  · have dir : upToSlash path = "" := by
      rw [upToSlash, ← List.append_nil path.toList.reverse,
        List.dropWhile_append_of_pos (keeps uncut)]
      rfl
    have name : baseName ("" ++ path) = path := by
      simp [baseName, Text.splitAtChar, Text.pieces_of_uncut uncut]
    refine ⟨path, ?_, by rw [dir, String.empty_append]⟩
    rw [dir, ← cutLast_of_baseName name, String.empty_append]
  · obtain rfl : c = '/' := by simpa using cut
    have dir : upToSlash path = String.ofList (before ++ ['/']) := by
      rw [upToSlash, h, List.reverse_append, List.reverse_cons, List.append_assoc,
        List.dropWhile_append_of_pos (keeps uncut)]
      simp
    have whole : upToSlash path ++ String.ofList after = path := by
      apply String.toList_inj.mp
      simp [dir, h]
    have name : baseName path = String.ofList after := by
      have parted : Text.pieces (· == '/') (before ++ '/' :: after) = _ :=
        Text.pieces_append_cut before after cut
      rw [baseName, Text.splitAtChar, h, parted, Text.pieces_of_uncut uncut]
      simp
    refine ⟨String.ofList after, ?_, whole⟩
    rw [← cutLast_of_baseName (whole.symm ▸ name), whole]

/-! ### Following segments -/

theorem plain_enter {inside : List String} {segment : String}
    (plain : ∀ s ∈ inside, IsPlain s) (h : IsSegment segment) :
    ∀ s ∈ enter inside segment, IsPlain s := by
  intro s hs
  rw [enter] at hs
  split at hs
  · exact plain s (List.mem_of_mem_tail hs)
  · rename_i notUp
    split at hs
    · exact plain s hs
    · rename_i notHere
      rcases List.mem_cons.mp hs with rfl | hs
      · exact ⟨h.1, notHere, notUp, h.2⟩
      · exact plain s hs

theorem plain_foldl_enter {segs inside : List String} (h : ∀ s ∈ segs, IsSegment s)
    (plain : ∀ s ∈ inside, IsPlain s) : ∀ s ∈ segs.foldl enter inside, IsPlain s := by
  induction segs generalizing inside with
  | nil => exact plain
  | cons s rest ih =>
    exact ih (fun t ht => h t (List.mem_cons_of_mem s ht))
      (plain_enter plain (h s List.mem_cons_self))

theorem plain_normalize {segs : List String} (h : ∀ s ∈ segs, IsSegment s) :
    ∀ s ∈ normalize segs, IsPlain s := by
  intro s hs
  exact plain_foldl_enter h (by simp) s (List.mem_reverse.mp hs)

theorem foldl_enter_of_plain {segs : List String} (plain : ∀ s ∈ segs, IsPlain s)
    (inside : List String) : segs.foldl enter inside = segs.reverse ++ inside := by
  induction segs generalizing inside with
  | nil => rfl
  | cons s rest ih =>
    obtain ⟨_, notHere, notUp, _⟩ := plain s List.mem_cons_self
    have hs : enter inside s = s :: inside := by simp [enter, notHere, notUp]
    rw [List.foldl_cons, hs, ih fun t ht => plain t (List.mem_cons_of_mem s ht)]
    simp

theorem normalize_of_plain {segs : List String} (plain : ∀ s ∈ segs, IsPlain s) :
    normalize segs = segs := by
  simp [normalize, foldl_enter_of_plain plain]

theorem normalize_concat (segs : List String) (s : String) :
    normalize (segs ++ [s]) = (enter (normalize segs).reverse s).reverse := by
  simp [normalize, List.foldl_append]

theorem normalize_concat_plain {segs : List String} {s : String} (notHere : s ≠ ".")
    (notUp : s ≠ "..") : normalize (segs ++ [s]) = normalize segs ++ [s] := by
  simp [normalize_concat, enter, notHere, notUp]

theorem normalize_concat_here (segs : List String) : normalize (segs ++ ["."]) = normalize segs := by
  simp [normalize_concat, enter]

theorem normalize_concat_up (segs : List String) :
    normalize (segs ++ [".."]) = (normalize segs).dropLast := by
  simp [normalize_concat, enter, List.tail_reverse]

/-! ### Resolution -/

theorem plain_resolved (path cwd : String) :
    ∀ s ∈ normalize (segments (anchor path cwd)), IsPlain s :=
  plain_normalize fun _ hs => isSegment_of_mem_segments hs

theorem isNormal_resolve (path cwd : String) : IsNormal (resolve path cwd) :=
  ⟨_, rfl, plain_resolved path cwd⟩

/-- What begins with a slash is taken from the root. -/
theorem anchor_ofSegments (segs : List String) (cwd : String) :
    anchor (ofSegments segs) cwd = ofSegments segs := by
  simp [anchor, ofSegments]

theorem IsNormal.plain {path : String} (normal : IsNormal path) :
    ∀ s ∈ segments path, IsPlain s := by
  obtain ⟨segs, rfl, plain⟩ := normal
  rw [segments_ofSegments fun s hs => IsPlain.isSegment (plain s hs)]
  exact plain

theorem IsNormal.ofSegments_segments {path : String} (normal : IsNormal path) :
    ofSegments (segments path) = path := by
  obtain ⟨segs, rfl, plain⟩ := normal
  rw [segments_ofSegments fun s hs => IsPlain.isSegment (plain s hs)]

theorem isNormal_root : IsNormal root := ⟨[], rfl, by simp⟩

/-- Normal forms of the same segments are the same. -/
theorem IsNormal.eq_of_segments {path other : String} (normal : IsNormal path)
    (normalOther : IsNormal other) (same : segments path = segments other) : path = other := by
  rw [← normal.ofSegments_segments, same, normalOther.ofSegments_segments]

theorem resolve_of_isNormal {path : String} (h : IsNormal path) (cwd : String) :
    resolve path cwd = path := by
  obtain ⟨segs, rfl, plain⟩ := h
  have hsegs : segments (ofSegments segs) = segs :=
    segments_ofSegments fun s hs => IsPlain.isSegment (plain s hs)
  rw [resolve, anchor_ofSegments, hsegs, normalize_of_plain plain]

theorem resolve_resolve (path cwd dir : String) :
    resolve (resolve path cwd) dir = resolve path cwd :=
  resolve_of_isNormal (isNormal_resolve path cwd) dir

theorem segments_resolve (path cwd : String) :
    segments (resolve path cwd) = normalize (segments (anchor path cwd)) :=
  segments_ofSegments fun s hs => (plain_resolved path cwd s hs).isSegment

/-- A path that begins with neither a slash nor a tilde segment. -/
structure IsRelative (path : String) : Prop where
  notHome : path.toList ≠ ['~']
  notBelowHome : ∀ rest, path.toList ≠ '~' :: '/' :: rest
  notAbsolute : ∀ rest, path.toList ≠ '/' :: rest

theorem IsRelative.anchor_eq {path : String} (relative : IsRelative path) (cwd : String) :
    anchor path cwd = cwd ++ "/" ++ path := by
  rw [anchor]
  split
  · rename_i home
    exact absurd home relative.notHome
  · rename_i rest belowHome
    exact absurd belowHome (relative.notBelowHome rest)
  · rename_i rest absolute
    exact absurd absolute (relative.notAbsolute rest)
  · rfl

/-- A relative path stays so behind another slash, unless it is empty. -/
theorem IsRelative.append {dir : String} (relative : IsRelative dir) (written : dir ≠ "")
    (name : String) : IsRelative (dir ++ "/" ++ name) := by
  obtain ⟨notHome, notBelowHome, notAbsolute⟩ := relative
  obtain ⟨first, rest, parted⟩ :=
    List.exists_cons_of_ne_nil (fun nothing => written (String.toList_eq_nil_iff.mp nothing))
  have chars : (dir ++ "/" ++ name).toList = first :: (rest ++ '/' :: name.toList) := by
    simp [parted]
  rw [parted] at notHome notBelowHome notAbsolute
  constructor
  case notHome => simp [chars]
  case notBelowHome =>
    intro more whole
    rw [chars, List.cons.injEq] at whole
    obtain ⟨rfl, whole⟩ := whole
    cases rest with
    | nil => exact notHome rfl
    | cons next rest =>
      obtain ⟨rfl, _⟩ := List.cons.inj whole
      exact notBelowHome rest rfl
  case notAbsolute =>
    intro more whole
    rw [chars, List.cons.injEq] at whole
    exact notAbsolute rest (by rw [whole.1])

/-- A path that goes on behind a slash is taken from where it was taken from before. Only the empty
path is not, which would begin with the slash. -/
theorem segments_anchor_append {dir : String} (written : dir ≠ "") (name cwd : String) :
    segments (anchor (dir ++ "/" ++ name) cwd) = segments (anchor dir cwd) ++ segments name := by
  have chars : (dir ++ "/" ++ name).toList = dir.toList ++ '/' :: name.toList := by simp
  by_cases home : dir.toList = ['~']
  · have here : anchor dir cwd = root := by simp only [anchor, home]
    have there : anchor (dir ++ "/" ++ name) cwd = root ++ name := by
      simp only [anchor, chars, home, List.cons_append, List.nil_append, String.ofList_toList]
      rfl
    rw [here, there]
    exact segments_append_slash "" name
  by_cases belowHome : ∃ rest, dir.toList = '~' :: '/' :: rest
  · obtain ⟨rest, belowHome⟩ := belowHome
    have here : anchor dir cwd = "/" ++ String.ofList rest := by simp only [anchor, belowHome]
    have there : anchor (dir ++ "/" ++ name) cwd = "/" ++ String.ofList rest ++ "/" ++ name := by
      simp [anchor, belowHome, String.append_assoc]
    rw [here, there, segments_append_slash]
  by_cases absolute : ∃ rest, dir.toList = '/' :: rest
  · obtain ⟨rest, absolute⟩ := absolute
    have here : anchor dir cwd = dir := by simp only [anchor, absolute]
    have there : anchor (dir ++ "/" ++ name) cwd = dir ++ "/" ++ name := by
      simp only [anchor, chars, absolute, List.cons_append]
    rw [here, there, segments_append_slash]
  · have relative : IsRelative dir :=
      ⟨home, fun rest h => belowHome ⟨rest, h⟩, fun rest h => absolute ⟨rest, h⟩⟩
    rw [relative.anchor_eq, (relative.append written name).anchor_eq, ← String.append_assoc,
      ← String.append_assoc, segments_append_slash]

/-- The parent lacks the last segment, and the root is its own parent. -/
theorem segments_parent {cwd : String} (normal : IsNormal cwd) :
    segments (resolve ".." cwd) = (segments cwd).dropLast := by
  have up : segments ".." = [".."] := segments_of_isSegment (by constructor <;> decide)
  have parted : segments (anchor ".." cwd) = segments cwd ++ [".."] := by
    rw [← up]
    exact segments_append_slash cwd ".."
  rw [segments_resolve, parted, normalize_concat_up, normalize_of_plain normal.plain]

theorem segments_child {name cwd : String} (normal : IsNormal cwd) (plain : IsPlain name)
    (relative : anchor name cwd = cwd ++ "/" ++ name) :
    segments (resolve name cwd) = segments cwd ++ [name] := by
  rw [segments_resolve, relative, segments_append_slash, segments_of_isSegment plain.isSegment,
    normalize_concat_plain plain.2.1 plain.2.2.1, normalize_of_plain normal.plain]

end PortfolioShell.Path
