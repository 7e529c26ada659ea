import PortfolioShell.Proofs.CommonStarts
import PortfolioShell.Proofs.PathCompletions

/-!
# Words that completion has extended

A word that could become several names is extended to what these begin with in common. The names that
the longer word could become are the same: each of them begins with it, and whatever begins with it
also extends what was typed before. The line still has the same words in front, and a path the same
directories, since no name holds a blank or a slash. So Tab once more lists what was to choose from,
and from then on changes nothing.
-/
namespace PortfolioShell

namespace UnfinishedLine

/-- A word that a line ends in is the one that is being typed. -/
theorem partialWords_behind (line : String) {word : String} (h : Text.IsWord word) :
    partialWords (Text.join " " (earlier line) ++ " " ++ word) = earlier line ++ [word] := by
  have opened := Text.not_endsBlank_append h (Text.join " " (earlier line) ++ " ")
  rw [partialWords_eq_words, words_behind line h]
  simp [opened]

theorem typed_behind (line : String) {word : String} (h : Text.IsWord word) :
    typed (Text.join " " (earlier line) ++ " " ++ word) = word := by
  rw [typed, partialWords_behind line h, List.getLast?_concat]
  rfl

end UnfinishedLine

namespace Path

/-- Another name without slashes leaves the directories of a path. -/
theorem upToSlash_behind (path : String) {name : String} (uncut : '/' ∉ name.toList) :
    upToSlash (upToSlash path ++ name) = upToSlash path := by
  obtain ⟨own, cut, _⟩ := cutLast_eq path
  have slash := (cutLast_eq_iff.mp cut).slash
  obtain ⟨other, behind, _⟩ := cutLast_eq (upToSlash path ++ name)
  have found : cutLast (upToSlash path ++ name) = (upToSlash path, name) :=
    cutLast_eq_iff.mpr ⟨rfl, slash, uncut⟩
  rw [found] at behind
  exact (Prod.mk.inj behind).1.symm

end Path

namespace Completion

/-! ### Extending a word -/

/-- A word that all its candidates begin with. -/
def extendedWord (line cwd : String) (setting : Setting) (store : Store) : String :=
  (kindOf (partialWords line)).stem (UnfinishedLine.typed line) ++
    commonStart (sorted (candidates line cwd setting store))

/-- The line whose last word is what all its candidates begin with. -/
def extendedLine (line cwd : String) (setting : Setting) (store : Store) : String :=
  Text.join " " (UnfinishedLine.earlier line) ++ " " ++ extendedWord line cwd setting store

/-- A line with several candidates that begin with more than what was typed. -/
structure IsExtendable (line cwd : String) (setting : Setting) (store : Store) : Prop where
  notCommand : kindOf (partialWords line) ≠ .command
  several : 2 ≤ (candidates line cwd setting store).length
  longer : (UnfinishedLine.typed line).length < (extendedWord line cwd setting store).length

section
variable {line cwd : String} {setting : Setting} {store : Store}

theorem exists_two {names : List String} (several : 2 ≤ names.length) :
    ∃ first second rest, names = first :: second :: rest := by
  obtain ⟨first, others, rfl⟩ :=
    List.exists_cons_of_length_pos (Nat.lt_of_lt_of_le Nat.two_pos several)
  obtain ⟨second, rest, rfl⟩ := List.exists_cons_of_length_pos (Nat.le_of_succ_le_succ several)
  exact ⟨first, second, rest, rfl⟩

theorem ofCandidates_of_several {names : List String} (several : 2 ≤ names.length)
    (before typed : String) (ending : String → String) :
    ofCandidates before typed names ending =
      if typed.length < (commonStart (sorted names)).length
        then replacing (before ++ commonStart (sorted names)) else listing (sorted names) := by
  obtain ⟨first, second, rest, rfl⟩ := exists_two several
  rfl

theorem ofCommand_of_several {registry : Registry} {word : String}
    (several : 2 ≤ (registry.namesBeginning word).length) :
    ofCommand registry word = listing (sorted (registry.namesBeginning word)) := by
  obtain ⟨first, second, rest, eq⟩ := exists_two several
  rw [ofCommand, eq]

theorem IsExtendable.replaced (h : IsExtendable line cwd setting store) :
    (complete line cwd setting store).1 = replacing (extendedLine line cwd setting store) := by
  obtain ⟨name, ending, whole, _, answer⟩ :=
    @complete_eq_ofCandidates line cwd setting store h.notCommand
  have longer : name.length < (commonStart (sorted (candidates line cwd setting store))).length := by
    have longer := h.longer
    rw [extendedWord, ← whole, String.length_append, String.length_append, whole] at longer
    omega
  rw [answer, ofCandidates_of_several h.several, if_pos longer, extendedLine, extendedWord,
    ← String.append_assoc]

/-- Of several candidates only a longer start replaces the line. -/
theorem isExtendable_of_replaced (several : 2 ≤ (candidates line cwd setting store).length)
    {other : String} (replaced : (complete line cwd setting store).1.input = some other) :
    IsExtendable line cwd setting store := by
  by_cases hk : kindOf (partialWords line) = .command
  · rw [candidates_of_command hk] at several
    simp only [complete, hk, pure_apply] at replaced
    change (ofCommand setting.registry (UnfinishedLine.typed line)).input = _ at replaced
    rw [ofCommand_of_several several] at replaced
    cases replaced
  · obtain ⟨name, ending, whole, _, answer⟩ := @complete_eq_ofCandidates line cwd setting store hk
    rw [answer, ofCandidates_of_several several] at replaced
    split at replaced
    · rename_i more
      refine ⟨hk, several, ?_⟩
      rw [extendedWord, ← whole, String.length_append, String.length_append, whole]
      omega
    · cases replaced

/-! ### The same names again -/

theorem uncut_of_mem_candidates (sound : setting.tree.root.IsSound)
    (hk : kindOf (partialWords line) = .path) {name : String}
    (mem : name ∈ candidates line cwd setting store) : '/' ∉ name.toList := by
  rw [candidates_of_kind hk, namesFor] at mem
  have among := (List.mem_filter.mp mem).1
  rw [namesIn] at among
  split at among
  · rename_i children found
    rw [Tree.node?_eq_descend?] at found
    cases sound.descend? found with
    | directory segments _ _ =>
      obtain ⟨child, hchild, rfl⟩ := List.mem_map.mp among
      exact (segments child hchild).2
  · cases among

theorem kindOf_behind {earlier : List String} (some : earlier ≠ []) (word other : String) :
    kindOf (earlier ++ [word]) = kindOf (earlier ++ [other]) := by
  obtain ⟨first, rest, rfl⟩ := List.exists_cons_of_ne_nil some
  simp [kindOf]

namespace IsExtendable

theorem exists_candidate (h : IsExtendable line cwd setting store) :
    ∃ name, name ∈ candidates line cwd setting store :=
  List.exists_mem_of_length_pos (Nat.lt_of_lt_of_le Nat.two_pos h.several)

theorem continues (named : WellNamed setting store) :
    Continues line (kindOf (partialWords line)) (candidates line cwd setting store) fun _ => " " :=
  continues_candidates named fun _ => Or.inl rfl

theorem isWord (h : IsExtendable line cwd setting store) (named : WellNamed setting store) :
    Text.IsWord (extendedWord line cwd setting store) := by
  obtain ⟨name, mem⟩ := h.exists_candidate
  exact ((continues named).extended mem h.longer).1

theorem partialWords_eq (h : IsExtendable line cwd setting store)
    (named : WellNamed setting store) :
    partialWords (extendedLine line cwd setting store) =
      UnfinishedLine.earlier line ++ [extendedWord line cwd setting store] :=
  UnfinishedLine.partialWords_behind line (h.isWord named)

theorem kind_eq (h : IsExtendable line cwd setting store) (named : WellNamed setting store) :
    kindOf (partialWords (extendedLine line cwd setting store)) = kindOf (partialWords line) := by
  have some : UnfinishedLine.earlier line ≠ [] := by
    intro none
    apply h.notCommand
    rw [UnfinishedLine.partialWords_eq, none]
    rfl
  rw [h.partialWords_eq named, UnfinishedLine.partialWords_eq line]
  exact kindOf_behind some _ _

/-- The extended word has the same directories in front. -/
theorem stem_eq (h : IsExtendable line cwd setting store) (sound : setting.tree.root.IsSound) :
    (kindOf (partialWords line)).stem (extendedWord line cwd setting store) =
      (kindOf (partialWords line)).stem (UnfinishedLine.typed line) := by
  obtain ⟨name, mem⟩ := h.exists_candidate
  rw [extendedWord]
  cases hk : kindOf (partialWords line) with
  | path =>
    have begun := (isCommonStart_sorted (List.ne_nil_of_mem mem)).begins name mem
    apply Path.upToSlash_behind
    intro slash
    exact uncut_of_mem_candidates sound hk mem (begun.subset slash)
  | _ => rfl

theorem namesFor_eq (h : IsExtendable line cwd setting store) (named : WellNamed setting store)
    (sound : setting.tree.root.IsSound) :
    namesFor (partialWords (extendedLine line cwd setting store))
        (extendedWord line cwd setting store) cwd setting store (kindOf (partialWords line)) =
      namesFor (partialWords line) (UnfinishedLine.typed line) cwd setting store
        (kindOf (partialWords line)) := by
  have stem := h.stem_eq sound
  rw [h.partialWords_eq named]
  cases hk : kindOf (partialWords line) with
  | path =>
    rw [hk] at stem
    simp only [namesFor, stem]
  | slug =>
    obtain ⟨sub, earlier⟩ := earlier_of_slug hk
    rw [UnfinishedLine.partialWords_eq line, earlier]
    rfl
  | _ => rfl

/-- The extended word could become just what the typed one could. -/
theorem extends_iff (h : IsExtendable line cwd setting store) (named : WellNamed setting store)
    {name : String} (among : name ∈ namesFor (partialWords line) (UnfinishedLine.typed line) cwd
      setting store (kindOf (partialWords line))) :
    (kindOf (partialWords line)).Extends (extendedWord line cwd setting store)
        ((kindOf (partialWords line)).stem (UnfinishedLine.typed line) ++ name) ↔
      (kindOf (partialWords line)).Extends (UnfinishedLine.typed line)
        ((kindOf (partialWords line)).stem (UnfinishedLine.typed line) ++ name) := by
  constructor
  · intro extended
    obtain ⟨other, mem⟩ := h.exists_candidate
    exact Kind.extends_trans ((continues named).extended mem h.longer).2 extended
  · intro typed
    have mem : name ∈ candidates line cwd setting store :=
      List.mem_filter.mpr ⟨among, decide_eq_true typed⟩
    exact Kind.extends_of_begins ((continues named).isAscii mem) (commonStart_begins _ mem)

theorem candidates_eq (h : IsExtendable line cwd setting store) (named : WellNamed setting store)
    (sound : setting.tree.root.IsSound) :
    candidates (extendedLine line cwd setting store) cwd setting store =
      candidates line cwd setting store := by
  have typed : UnfinishedLine.typed (extendedLine line cwd setting store) =
      extendedWord line cwd setting store := UnfinishedLine.typed_behind line (h.isWord named)
  rw [candidates_of_kind (h.kind_eq named), candidates_of_kind rfl, typed,
    h.namesFor_eq named sound, h.stem_eq sound]
  apply List.filter_congr
  intro name among
  rw [decide_eq_decide]
  exact h.extends_iff named among

/-- What was to choose from is listed, since there is nothing more to extend the word by. -/
theorem complete_eq (h : IsExtendable line cwd setting store) (named : WellNamed setting store)
    (sound : setting.tree.root.IsSound) :
    (complete (extendedLine line cwd setting store) cwd setting store).1 =
      listing (sorted (candidates line cwd setting store)) := by
  have kind := h.kind_eq named
  have typed : UnfinishedLine.typed (extendedLine line cwd setting store) =
      extendedWord line cwd setting store := UnfinishedLine.typed_behind line (h.isWord named)
  have notCommand : kindOf (partialWords (extendedLine line cwd setting store)) ≠ .command := by
    rw [kind]
    exact h.notCommand
  obtain ⟨name, ending, whole, _, answer⟩ :=
    @complete_eq_ofCandidates (extendedLine line cwd setting store) cwd setting store notCommand
  have rest : name = commonStart (sorted (candidates line cwd setting store)) := by
    rw [kind, typed, h.stem_eq sound, extendedWord] at whole
    apply String.toList_inj.mp
    simpa using congrArg String.toList whole
  rw [answer, h.candidates_eq named sound, ofCandidates_of_several h.several, rest,
    if_neg (Nat.lt_irrefl _)]

end IsExtendable

/-! ### Tab -/

theorem snd_ofSlug (sub word : String) (store : Store) : (ofSlug sub word store).2 = store := by
  rw [ofSlug]
  split
  · rfl
  · rw [bind_apply]
    dsimp only
    split
    · rfl
    · rw [bind_apply]
      have search (answering : Store) :
          (Backend.searchSlugs word : Call Store (List SlugHit)) answering =
            Store.searchSlugs word answering := rfl
      have who : (Backend.currentUser : StateM Store (Option User)) store =
          (store.sessionAccount.map (·.user), store) := rfl
      rw [who, search]
      cases up : store.outage with
      | some message =>
        rw [searchSlugs_of_outage up]
        rfl
      | none =>
        rw [searchSlugs_of_no_outage up]
        rfl

/-- Completion only looks. -/
theorem snd_complete (line cwd : String) (setting : Setting) (store : Store) :
    (complete line cwd setting store).2 = store := by
  cases hk : kindOf (partialWords line) with
  | slug =>
    simp only [complete, hk]
    exact snd_ofSlug _ _ store
  | _ => simp only [complete, hk, pure_apply]

end

end Completion

namespace Session

theorem tab_of_store {s : Session Store} (takes : s.mode.takesCommands = true) :
    s.tab = s.completed (complete s.input s.cwd s.setting s.backend).1 := by
  rw [tab_of_commands takes, Completion.snd_complete]
  rfl

theorem tab_of_replacing {s : Session Store} (takes : s.mode.takesCommands = true) {line : String}
    (told : (complete s.input s.cwd s.setting s.backend).1 = .replacing line) :
    s.tab = { s with input := line, suggestions := [] } := by
  rw [tab_of_store takes, told]
  rfl

theorem tab_of_listing {s : Session Store} (takes : s.mode.takesCommands = true)
    {names : List String} (some : names ≠ [])
    (told : (complete s.input s.cwd s.setting s.backend).1 = .listing names) :
    s.tab = { s with suggestions := names } := by
  have listed : (Completion.listing names).isEmpty = false := by
    simpa [Completion.isEmpty, Completion.listing] using some
  rw [tab_of_store takes, told, completed, listed]
  rfl

/-- If the new line is answered by a list, the list is shown next and stays. -/
theorem tabs_of_listing {s : Session Store} (takes : s.mode.takesCommands = true) {line : String}
    {names : List String} (some : names ≠ [])
    (first : (complete s.input s.cwd s.setting s.backend).1 = .replacing line)
    (next : (complete line s.cwd s.setting s.backend).1 = .listing names) :
    s.tab = { s with input := line, suggestions := [] } ∧
      s.tab.tab = { s with input := line, suggestions := names } ∧ s.tab.tab.tab = s.tab.tab := by
  have replaced := tab_of_replacing takes first
  generalize s.tab = t at replaced
  have shown : t.tab = { s with input := line, suggestions := names } := by
    subst replaced
    exact tab_of_listing (s := { s with input := line, suggestions := [] }) takes some next
  refine ⟨replaced, shown, ?_⟩
  rw [shown]
  exact tab_of_listing (s := { s with input := line, suggestions := names }) takes some next

end Session

namespace Completion

/-- A line that Tab extends, and what follows. -/
structure Settles (line cwd : String) (setting : Setting) (store : Store) (other : String) :
    Prop where
  /-- The new line ends in what all candidates begin with, behind the same words and directories. -/
  extended : other = extendedLine line cwd setting store
  /-- Completed again it is not replaced, and the candidates are listed. -/
  listed : complete other cwd setting store =
    (listing (sorted (candidates line cwd setting store)), store)
  /-- They are what the new line could become as well. -/
  same : candidates other cwd setting store = candidates line cwd setting store
  /-- So a second Tab shows them and leaves the line, and further ones change nothing. -/
  tabs : ∀ s : Session Store, s.mode.takesCommands = true → s.setting = setting →
    s.backend = store → s.cwd = cwd → s.input = line →
      s.tab = { s with input := other, suggestions := [] } ∧
      s.tab.tab = { s with
        input := other, suggestions := sorted (candidates line cwd setting store) } ∧
      s.tab.tab.tab = s.tab.tab

/-- A word that is extended to what several names begin with in common settles there: these names
are listed next, and nothing changes any more. That no name in the tree holds a slash is so for every
site (`Tree.isSound_ofSite`). -/
theorem settles_of_replaced {line cwd other : String} {setting : Setting} {store : Store}
    (named : WellNamed setting store) (sound : setting.tree.root.IsSound)
    (several : 2 ≤ (candidates line cwd setting store).length)
    (replaced : (complete line cwd setting store).1.input = some other) :
    Settles line cwd setting store other := by
  have h := isExtendable_of_replaced several replaced
  obtain rfl : extendedLine line cwd setting store = other := by
    rw [h.replaced] at replaced
    exact Option.some.inj replaced
  have answer := h.complete_eq named sound
  constructor
  case extended => rfl
  case listed => exact Prod.ext answer (snd_complete _ cwd setting store)
  case same => exact h.candidates_eq named sound
  case tabs =>
    rintro s takes rfl rfl rfl rfl
    have some : sorted (candidates s.input s.cwd s.setting s.backend) ≠ [] := by
      obtain ⟨name, mem⟩ := h.exists_candidate
      exact List.ne_nil_of_mem (mem_sorted_iff.mpr mem)
    exact Session.tabs_of_listing takes some h.replaced answer

/-- Capitals give way to what the slugs begin with, and several files to what their names do. -/
theorem settles_after_show :
    let store := ((Store.empty "" (.ticking ⟨0, 0⟩)).addPost
      ⟨0, "Async", "rust-async", none, true, none, ⟨0, 0⟩, 1, []⟩).addPost
      ⟨0, "Atomics", "rust-atomics", none, true, none, ⟨0, 0⟩, 1, []⟩
    let setting := Session.ofBuiltin.setting
    WellNamed setting store ∧ setting.tree.root.IsSound ∧
      2 ≤ (candidates "post  show RU" "/" setting store).length ∧
      (complete "post  show RU" "/" setting store).1.input = some "post show rust-a" ∧
      Settles "post  show RU" "/" setting store "post show rust-a" ∧
      2 ≤ (candidates "cat ./projects/p" "/" setting store).length ∧
      (complete "cat ./projects/p" "/" setting store).1.input = some "cat ./projects/project-" ∧
      Settles "cat ./projects/p" "/" setting store "cat ./projects/project-" := by
  intro store setting
  have named : WellNamed setting store :=
    ⟨by decide +kernel, by decide +kernel, by decide +kernel⟩
  have sound : setting.tree.root.IsSound := Tree.isSound_ofSite .builtin
  have slugs : candidates "post  show RU" "/" setting store = ["rust-async", "rust-atomics"] := by
    decide +kernel
  have files : candidates "cat ./projects/p" "/" setting store =
      ["project-alpha.txt", "project-beta.txt", "project-gamma.txt"] := by
    decide +kernel
  have inOrder : sorted ["rust-async", "rust-atomics"] = ["rust-async", "rust-atomics"] ∧
      sorted ["project-alpha.txt", "project-beta.txt", "project-gamma.txt"] =
        ["project-alpha.txt", "project-beta.txt", "project-gamma.txt"] :=
    ⟨List.mergeSort_of_pairwise (by decide +kernel), List.mergeSort_of_pairwise (by decide +kernel)⟩
  have toSlug : IsExtendable "post  show RU" "/" setting store := by
    refine ⟨by decide +kernel, ?_, ?_⟩
    · rw [slugs]
      decide
    · rw [extendedWord, slugs, inOrder.1]
      decide +kernel
  have toFile : IsExtendable "cat ./projects/p" "/" setting store := by
    refine ⟨by decide +kernel, ?_, ?_⟩
    · rw [files]
      decide
    · rw [extendedWord, files, inOrder.2]
      decide +kernel
  have slug : (complete "post  show RU" "/" setting store).1.input = some "post show rust-a" := by
    rw [toSlug.replaced, extendedLine, extendedWord, slugs, inOrder.1]
    decide +kernel
  have file : (complete "cat ./projects/p" "/" setting store).1.input =
      some "cat ./projects/project-" := by
    rw [toFile.replaced, extendedLine, extendedWord, files, inOrder.2]
    decide +kernel
  exact ⟨named, sound, toSlug.several, slug,
    settles_of_replaced named sound toSlug.several slug, toFile.several, file,
    settles_of_replaced named sound toFile.several file⟩

end Completion

end PortfolioShell
