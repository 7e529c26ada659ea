import PortfolioShell.Backend.Store
import PortfolioShell.Proofs.CommonStarts
import PortfolioShell.Proofs.LetterCases
import PortfolioShell.Proofs.Sessions
import PortfolioShell.Proofs.Trees
import PortfolioShell.Proofs.UnfinishedLines

/-!
# What completion keeps

Completion leaves the words before the last one as they are and extends the last one, a slug in any
case. When it does not, it lists everything that the last word could become, in order. This is so
whatever is registered, filed and posted, as long as names are words and slugs are ASCII: a blank in
a name would part it, and lower case of other letters may be of another length.
-/
namespace PortfolioShell

namespace Completion

/-! ### What a word can become -/

/-- Whether a word extends what was typed. Slugs extend it in any case. -/
def Kind.Extends (kind : Kind) (typed word : String) : Prop :=
  match kind with
  | .slug => Text.lower typed.toList <+: Text.lower word.toList
  | _ => typed.toList <+: word.toList

instance (kind : Kind) (typed word : String) : Decidable (kind.Extends typed word) :=
  match kind with
  | .slug => inferInstanceAs (Decidable (Text.lower typed.toList <+: Text.lower word.toList))
  | .command | .subcommand | .path | .other =>
    inferInstanceAs (Decidable (typed.toList <+: word.toList))

/-- What stays in front of the names that a word may become: of a path its directories. -/
def Kind.stem (kind : Kind) (typed : String) : String :=
  match kind with
  | .path => Path.upToSlash typed
  | _ => ""

/-- The names in a directory of a tree. -/
def namesIn (tree : Tree) (path cwd : String) : List String :=
  match tree.node? path cwd with
  | some (.directory children) => children.map (·.1)
  | _ => []

/-- The slugs that a subcommand offers: those of all posts to users, those of published posts to
guests, who can only show them, and none during an outage. -/
def offeredSlugs (sub : String) (store : Store) : List String :=
  if store.outage.isSome then []
  else if store.sessionAccount.isSome then
    if sub = "show" ∨ sub ∈ privateSubcommands then store.posts.map (·.slug) else []
  else if sub = "show" then (store.posts.filter (·.isPublished)).map (·.slug) else []

/-- The names that could stand last in words of a kind, whatever was typed of them. -/
def namesFor (words : List String) (typed cwd : String) (setting : Setting) (store : Store) :
    Kind → List String
  | .command => setting.registry.entries.map (·.name)
  | .subcommand => Blog.subcommands
  | .path =>
    let dir := Kind.path.stem typed
    namesIn setting.tree (if dir.isEmpty then "." else dir) cwd
  | .slug => offeredSlugs (words[1]?.getD "") store
  | .other => []

/-- All names that the last word of a line could become. -/
def candidates (line cwd : String) (setting : Setting) (store : Store) : List String :=
  let kind := kindOf (partialWords line)
  let typed := UnfinishedLine.typed line
  (namesFor (partialWords line) typed cwd setting store kind).filter
    fun name => kind.Extends typed (kind.stem typed ++ name)

/-- Names are words, and slugs are ASCII. -/
structure WellNamed (setting : Setting) (store : Store) : Prop where
  commands : ∀ spec ∈ setting.registry.entries, Text.IsWord spec.name
  files : setting.tree.root.allNames (fun name => decide (Text.IsWord name)) = true
  slugs : ∀ post ∈ store.posts, Text.IsWord post.slug ∧ Text.IsAscii post.slug.toList

/-- A completion of a line that keeps what was typed, where `names` are all that its last word could
become. -/
structure Keeps (line : String) (kind : Kind) (names : List String) (answer : Completion) :
    Prop where
  /-- A new line has the earlier words of the old one, and extends its last. -/
  replaced : ∀ other, answer.input = some other →
    answer.suggestions = [] ∧ other ≠ line ∧ ∃ word,
      Text.words other = UnfinishedLine.earlier line ++ [word] ∧
        kind.Extends (UnfinishedLine.typed line) word
  /-- Without a new line there is nothing to become, or all of it is listed. -/
  listed : answer.input = none →
    (names = [] ∧ answer.suggestions = []) ∨
    (2 ≤ answer.suggestions.length ∧ answer.suggestions.Perm names ∧
      answer.suggestions.Pairwise (· ≤ ·) ∧ ∀ name ∈ answer.suggestions,
        kind.Extends (UnfinishedLine.typed line)
          (kind.stem (UnfinishedLine.typed line) ++ name))

/-! ### Extending what was typed -/

variable {kind : Kind} {typed word part : String}

theorem Kind.extends_of_ne_slug (h : kind ≠ .slug) :
    kind.Extends typed word ↔ typed.toList <+: word.toList := by
  cases kind with
  | slug => exact absurd rfl h
  | _ => exact Iff.rfl

theorem Kind.extends_trans {name : String} (h : kind.Extends typed word)
    (h' : kind.Extends word name) : kind.Extends typed name := by
  by_cases slug : kind = .slug
  · subst slug
    exact List.IsPrefix.trans h h'
  · rw [extends_of_ne_slug slug] at h h' ⊢
    exact h.trans h'

/-- A word extends what it begins with. -/
theorem Kind.extends_of_begins (ascii : kind = .slug → Text.IsAscii word.toList)
    (begun : part.toList <+: word.toList) : kind.Extends part word := by
  by_cases slug : kind = .slug
  · subst slug
    have whole := ascii rfl
    have front : Text.IsAscii part.toList := fun c hc => whole c (begun.subset hc)
    change Text.lower part.toList <+: Text.lower word.toList
    rw [Text.lower_of_ascii whole, Text.lower_of_ascii front]
    exact begun.map _
  · rw [extends_of_ne_slug slug]
    exact begun

/-- The front of a word extends the typed text as soon as it is as long. -/
theorem Kind.extends_of_prefix (ascii : kind = .slug → Text.IsAscii word.toList)
    (h : kind.Extends typed word) (front : part.toList <+: word.toList)
    (long : typed.length ≤ part.length) : kind.Extends typed part := by
  have long' : typed.toList.length ≤ part.toList.length := by
    simpa [String.length_toList] using long
  have begun := extends_of_begins ascii front
  by_cases slug : kind = .slug
  · subst slug
    have whole := ascii rfl
    have partAscii : Text.IsAscii part.toList := fun c hc => whole c (front.subset hc)
    have size := Text.length_lower_of_begins whole h
    refine List.prefix_of_prefix_length_le h begun ?_
    rw [size, Text.lower_of_ascii partAscii, List.length_map]
    exact long'
  · rw [extends_of_ne_slug slug] at h ⊢
    exact List.prefix_of_prefix_length_le h front long'

theorem Kind.exists_stem_append (kind : Kind) (typed : String) :
    ∃ name, kind.stem typed ++ name = typed := by
  cases kind with
  | path =>
    obtain ⟨name, _, whole⟩ := Path.cutLast_eq typed
    exact ⟨name, whole⟩
  | _ => exact ⟨typed, String.empty_append⟩

theorem Kind.stem_uncut (kind : Kind) (line : String) :
    ∀ c ∈ (kind.stem (UnfinishedLine.typed line)).toList, Text.isBlank c = false := by
  obtain ⟨name, whole⟩ := kind.exists_stem_append (UnfinishedLine.typed line)
  intro c hc
  apply UnfinishedLine.typed_uncut line
  rw [← whole, String.toList_append]
  exact List.mem_append_left _ hc

/-! ### Completions from candidates -/

section
variable {line : String} {names : List String}

theorem keeps_nothing : Keeps line kind [] nothing where
  replaced _ h := by cases h
  listed _ := Or.inl ⟨rfl, rfl⟩

/-- Several candidates are listed in order. -/
theorem keeps_listing (several : 2 ≤ names.length)
    (extend : ∀ name ∈ names, kind.Extends (UnfinishedLine.typed line)
      (kind.stem (UnfinishedLine.typed line) ++ name)) :
    Keeps line kind names (listing (sorted names)) where
  replaced _ h := by cases h
  listed _ := by
    have perm := sorted_perm names
    refine Or.inr ⟨?_, perm, sorted_pairwise names, fun name hname => ?_⟩
    · exact perm.length_eq ▸ several
    · exact extend name (perm.mem_iff.mp hname)

theorem keeps_replacing {other : String} (word : String)
    (hwords : Text.words other = UnfinishedLine.earlier line ++ [word])
    (changed : Text.EndsBlank other ∨ (UnfinishedLine.typed line).length < word.length)
    (extend : kind.Extends (UnfinishedLine.typed line) word) :
    Keeps line kind names (replacing other) where
  replaced _ h := by
    obtain rfl := Option.some.inj h
    exact ⟨rfl, UnfinishedLine.ne_of_words hwords changed, word, hwords, extend⟩
  listed h := by cases h

/-- Names that extend what was typed behind its stem, and what ends them. -/
structure Continues (line : String) (kind : Kind) (names : List String)
    (ending : String → String) : Prop where
  words : ∀ name ∈ names, Text.IsWord name
  ascii : kind = .slug → ∀ name ∈ names, Text.IsAscii name.toList
  extend : ∀ name ∈ names, kind.Extends (UnfinishedLine.typed line)
    (kind.stem (UnfinishedLine.typed line) ++ name)
  ends : ∀ name, ending name = " " ∨ (ending name = "/" ∧ kind ≠ .slug)

variable {before name : String} {ending : String → String}

theorem keeps_only {only : String} (h : Continues line kind [only] ending)
    (hbefore : before = Text.join " " (UnfinishedLine.earlier line) ++ " " ++
      kind.stem (UnfinishedLine.typed line)) :
    Keeps line kind [only] (replacing (before ++ only ++ ending only)) := by
  have isWord := Text.isWord_append (kind.stem_uncut line) (h.words only List.mem_cons_self)
  have extend := h.extend only List.mem_cons_self
  have behind := UnfinishedLine.words_behind line isWord
  rcases h.ends only with blank | ⟨slash, notSlug⟩
  · rw [blank]
    refine keeps_replacing _ ?_ (Or.inl (Text.endsBlank_then_blank _)) extend
    rw [Text.words_then_blank, hbefore, String.append_assoc, behind]
  · have closed : Text.IsWord (kind.stem (UnfinishedLine.typed line) ++ only ++ "/") :=
      Text.isWord_append isWord.2 (by decide)
    have extend' := (Kind.extends_of_ne_slug notSlug).mp extend
    rw [slash]
    refine keeps_replacing (kind.stem (UnfinishedLine.typed line) ++ only ++ "/")
      ?_ (Or.inr ?_) ?_
    · rw [hbefore, ← UnfinishedLine.words_behind line closed]
      simp only [String.append_assoc]
    · have bound := extend'.length_le
      simp only [String.length_append, String.toList_append, List.length_append,
        String.length_toList] at bound ⊢
      have : "/".length = 1 := rfl
      omega
    · rw [Kind.extends_of_ne_slug notSlug, String.toList_append]
      exact extend'.trans (List.prefix_append _ _)

/-- What the names begin with in common stands in front of each of them. -/
theorem commonStart_begins (stem : String) (mem : name ∈ names) :
    (stem ++ commonStart (sorted names)).toList <+: (stem ++ name).toList := by
  rw [String.toList_append, String.toList_append, List.prefix_append_right_inj]
  exact (isCommonStart_sorted (List.ne_nil_of_mem mem)).begins name mem

theorem Continues.isAscii (h : Continues line kind names ending) (mem : name ∈ names)
    (slug : kind = .slug) :
    Text.IsAscii (kind.stem (UnfinishedLine.typed line) ++ name).toList := by
  have ascii := h.ascii slug name mem
  subst slug
  simpa [Kind.stem] using ascii

/-- More than what was typed is a word, and extends it. -/
theorem Continues.extended (h : Continues line kind names ending) (mem : name ∈ names)
    (longer : (UnfinishedLine.typed line).length <
      (kind.stem (UnfinishedLine.typed line) ++ commonStart (sorted names)).length) :
    Text.IsWord (kind.stem (UnfinishedLine.typed line) ++ commonStart (sorted names)) ∧
      kind.Extends (UnfinishedLine.typed line)
        (kind.stem (UnfinishedLine.typed line) ++ commonStart (sorted names)) := by
  have begun := commonStart_begins (kind.stem (UnfinishedLine.typed line)) mem
  have whole := Text.isWord_append (kind.stem_uncut line) (h.words name mem)
  refine ⟨⟨?_, fun c hc => whole.2 c (begun.subset hc)⟩, ?_⟩
  · intro empty
    rw [empty] at longer
    exact Nat.not_lt_zero _ longer
  · exact Kind.extends_of_prefix (h.isAscii mem) (h.extend name mem) begun (Nat.le_of_lt longer)

theorem keeps_several (several : 2 ≤ names.length) (h : Continues line kind names ending)
    (htyped : kind.stem (UnfinishedLine.typed line) ++ name = UnfinishedLine.typed line)
    (hbefore : before = Text.join " " (UnfinishedLine.earlier line) ++ " " ++
      kind.stem (UnfinishedLine.typed line)) :
    Keeps line kind names
      (if name.length < (commonStart (sorted names)).length
        then replacing (before ++ commonStart (sorted names)) else listing (sorted names)) := by
  split
  · rename_i longer
    obtain ⟨whole, mem⟩ := List.exists_mem_of_length_pos (Nat.lt_of_lt_of_le Nat.two_pos several)
    have longer' : (UnfinishedLine.typed line).length <
        (kind.stem (UnfinishedLine.typed line) ++ commonStart (sorted names)).length := by
      rw [← htyped, String.length_append, String.length_append, htyped]
      omega
    obtain ⟨isWord, extend⟩ := h.extended mem longer'
    refine keeps_replacing _ ?_ (Or.inr longer') extend
    rw [hbefore, String.append_assoc, UnfinishedLine.words_behind line isWord]
  · exact keeps_listing several h.extend

/-- However many names there are to complete with: what was typed is kept. -/
theorem keeps_ofCandidates (h : Continues line kind names ending)
    (htyped : kind.stem (UnfinishedLine.typed line) ++ name = UnfinishedLine.typed line)
    (hbefore : before = Text.join " " (UnfinishedLine.earlier line) ++ " " ++
      kind.stem (UnfinishedLine.typed line)) :
    Keeps line kind names (ofCandidates before name names ending) := by
  match names, h with
  | [], _ => exact keeps_nothing
  | [only], h => exact keeps_only h hbefore
  | first :: second :: rest, h => exact keeps_several (by simp) h htyped hbefore

end


/-! ### Each kind of word -/

/-- Behind a stem, to extend what was typed is to begin with the rest of it. -/
theorem filter_extends_eq {name : String} (notSlug : kind ≠ .slug)
    (h : kind.stem typed ++ name = typed) (names : List String) :
    (names.filter fun n => kind.Extends typed (kind.stem typed ++ n)) =
      names.filter (Text.beginsWith name) := by
  refine List.filter_congr fun n _ => ?_
  have split : typed.toList = (kind.stem typed).toList ++ name.toList := by
    rw [← String.toList_append, h]
  rw [Text.beginsWith, Bool.eq_iff_iff, decide_eq_true_iff, Kind.extends_of_ne_slug notSlug,
    List.isPrefixOf_iff_prefix, split, String.toList_append, List.prefix_append_right_inj]

section
variable {line cwd : String} {setting : Setting} {store : Store}

/-- The words that make the last of them one of a kind. -/
theorem shape_of_kindOf (words : List String) :
    match kindOf words with
    | .command => words.length ≤ 1
    | .subcommand => words.length = 2 ∧ words.headD "" = "post"
    | .slug => words.length = 3 ∧ words.headD "" = "post"
    | _ => True := by
  by_cases single : words.length ≤ 1
  · simp only [kindOf, single, if_true]
  by_cases sub : words.length = 2 ∧ words.headD "" = "post"
  · have found : kindOf words = .subcommand := by
      simp only [kindOf]
      rw [if_neg single, if_pos sub]
    rw [found]
    exact sub
  by_cases path : pathCommands.contains (words.headD "") ∨
      (words.headD "" = "grep" ∧ 3 ≤ words.length)
  · simp only [kindOf, single, sub, path, if_true, if_false]
  by_cases slug : words.length = 3 ∧ words.headD "" = "post"
  · have found : kindOf words = .slug := by
      simp only [kindOf]
      rw [if_neg single, if_neg sub, if_neg path, if_pos slug]
    rw [found]
    exact slug
  · simp only [kindOf, single, sub, path, slug, if_false]

theorem earlier_of_command (h : kindOf (partialWords line) = .command) :
    UnfinishedLine.earlier line = [] := by
  have shape := shape_of_kindOf (partialWords line)
  rw [h, UnfinishedLine.partialWords_eq, List.length_append] at shape
  exact List.eq_nil_of_length_eq_zero (Nat.le_zero.mp (Nat.le_of_succ_le_succ shape))

theorem earlier_of_subcommand (h : kindOf (partialWords line) = .subcommand) :
    UnfinishedLine.earlier line = ["post"] := by
  have shape := shape_of_kindOf (partialWords line)
  rw [h, UnfinishedLine.partialWords_eq, List.length_append] at shape
  obtain ⟨size, post⟩ := shape
  obtain ⟨command, one⟩ := List.length_eq_one_iff.mp (Nat.succ.inj size)
  rw [one] at post ⊢
  exact congrArg (fun word => [word]) post

theorem earlier_of_slug (h : kindOf (partialWords line) = .slug) :
    ∃ sub, UnfinishedLine.earlier line = ["post", sub] := by
  have shape := shape_of_kindOf (partialWords line)
  rw [h, UnfinishedLine.partialWords_eq, List.length_append] at shape
  obtain ⟨size, post⟩ := shape
  generalize UnfinishedLine.earlier line = words at size post ⊢
  match words, size with
  | [command, sub], _ => exact ⟨sub, congrArg (fun word => [word, sub]) post⟩

theorem candidates_of_kind (hk : kindOf (partialWords line) = kind) :
    candidates line cwd setting store =
      (namesFor (partialWords line) (UnfinishedLine.typed line) cwd setting store kind).filter
        fun name => kind.Extends (UnfinishedLine.typed line)
          (kind.stem (UnfinishedLine.typed line) ++ name) := by
  rw [candidates, hk]

theorem ofSubcommand_eq (hk : kindOf (partialWords line) = .subcommand) :
    ofSubcommand "post" (UnfinishedLine.typed line) =
      ofCandidates "post " (UnfinishedLine.typed line) (candidates line cwd setting store)
        fun _ => " " := by
  have names : candidates line cwd setting store =
      Blog.subcommands.filter (Text.beginsWith (UnfinishedLine.typed line)) := by
    rw [candidates_of_kind hk, filter_extends_eq (by decide) String.empty_append, namesFor]
  rw [ofSubcommand, names]
  rfl

theorem isWord_of_mem_namesIn (named : WellNamed setting store) {path name : String}
    (h : name ∈ namesIn setting.tree path cwd) : Text.IsWord name := by
  rw [namesIn] at h
  split at h
  · rename_i children found
    have below := Node.allNames_of_descend? named.files found
    obtain ⟨child, hchild, rfl⟩ := List.mem_map.mp h
    have own := (Node.allNamesIn_iff.mp (by simpa [Node.allNames] using below) child hchild).1
    exact of_decide_eq_true own
  · cases h

/-- A path is completed from its candidates; there are none where its front names no directory. -/
theorem ofPath_eq (hk : kindOf (partialWords line) = .path) :
    ∃ name ending, Kind.path.stem (UnfinishedLine.typed line) ++ name = UnfinishedLine.typed line ∧
      (∀ n, ending n = " " ∨ ending n = "/") ∧
      ofPath (UnfinishedLine.earlier line) (UnfinishedLine.typed line) cwd setting.tree =
        ofCandidates (Text.join " " (UnfinishedLine.earlier line) ++ " " ++
          Kind.path.stem (UnfinishedLine.typed line)) name (candidates line cwd setting store)
          ending := by
  obtain ⟨name, cut, whole⟩ := Path.cutLast_eq (UnfinishedLine.typed line)
  have stem : Kind.path.stem (UnfinishedLine.typed line) =
    Path.upToSlash (UnfinishedLine.typed line) := rfl
  rw [← stem] at cut whole
  have names : candidates line cwd setting store = _ := candidates_of_kind hk
  rw [filter_extends_eq (by decide) whole, namesFor] at names
  unfold ofPath
  rw [cut]
  dsimp only
  rw [namesIn] at names
  split
  · rename_i children found
    simp only [found] at names
    rw [← names]
    refine ⟨name, childEnding children, whole, ?_, rfl⟩
    intro n
    rw [childEnding]
    split
    · exact Or.inr rfl
    · exact Or.inl rfl
  · rename_i elsewhere
    have noNames : candidates line cwd setting store = [] := by
      rw [names]
      split
      · rename_i children found
        exact absurd found (elsewhere children)
      · rfl
    rw [noNames]
    exact ⟨name, fun _ => " ", whole, fun _ => Or.inl rfl, rfl⟩

/-! ### Slugs -/

theorem searchSlugs_of_no_outage (h : store.outage = none) (word : String) :
    Store.searchSlugs word store =
      (.ok ((store.posts.filter fun p => Kind.slug.Extends word p.slug).map
        fun p => ⟨p.slug, p.isPublished⟩), store) := by
  simp only [Store.searchSlugs, Store.guarded, h, Kind.Extends, ← List.isPrefixOf_iff_prefix,
    Bool.decide_eq_true]

theorem searchSlugs_of_outage {message : String} (h : store.outage = some message)
    (word : String) : Store.searchSlugs word store = (.error (.network message), store) := by
  simp only [Store.searchSlugs, Store.guarded, h]

/-- What is offered is what may be read. -/
theorem offeredSlugs_eq {sub : String} (up : store.outage = none)
    (known : sub = "show" ∨ sub ∈ privateSubcommands)
    (allowed : ¬ (sub ≠ "show" ∧ ¬ store.sessionAccount.isSome)) :
    offeredSlugs sub store =
      (store.posts.filter fun p => p.isPublished || store.sessionAccount.isSome).map (·.slug) := by
  cases signedIn : store.sessionAccount.isSome with
  | true =>
    have all : (store.posts.filter fun _ => true) = store.posts :=
      List.filter_eq_self.mpr fun _ _ => rfl
    simp [offeredSlugs, up, signedIn, known, all]
  | false =>
    have isShow : sub = "show" := Decidable.byContradiction fun notShow =>
      allowed ⟨notShow, by simp [signedIn]⟩
    simp [offeredSlugs, up, signedIn, isShow]

/-- The slugs of a search that are shown are those that are offered and extend the word. -/
theorem ofSlug_apply (sub word : String) (store : Store) :
    (ofSlug sub word store).1 = ofCandidates s!"post {sub} " word
      ((offeredSlugs sub store).filter fun slug => Kind.slug.Extends word slug) fun _ => " " := by
  have who : (Backend.currentUser : StateM Store (Option User)) store =
    (store.sessionAccount.map (·.user), store) := rfl
  have search : (Backend.searchSlugs word : Call Store (List SlugHit)) store =
    Store.searchSlugs word store := rfl
  by_cases other : sub ≠ "show" ∧ ¬ privateSubcommands.contains sub
  · have unknown : sub ∉ privateSubcommands := by simpa using other.2
    have noSlugs : offeredSlugs sub store = [] := by simp [offeredSlugs, other.1, unknown]
    rw [noSlugs, ofSlug, if_pos other]
    rfl
  have known : sub = "show" ∨ sub ∈ privateSubcommands := by
    by_cases isShow : sub = "show"
    · exact Or.inl isShow
    · have := fun h => other ⟨isShow, h⟩
      exact Or.inr (by simpa using this)
  rw [ofSlug, if_neg other, bind_apply, who]
  dsimp only
  rw [Option.isSome_map]
  by_cases closed : sub ≠ "show" ∧ ¬ store.sessionAccount.isSome
  · have noSlugs : offeredSlugs sub store = [] := by simp [offeredSlugs, closed.1, closed.2]
    rw [noSlugs, if_pos closed]
    rfl
  rw [if_neg closed, bind_apply, search]
  cases up : store.outage with
  | some message =>
    have noSlugs : offeredSlugs sub store = [] := by simp [offeredSlugs, up]
    rw [noSlugs, searchSlugs_of_outage up]
    rfl
  | none =>
    have same : (((store.posts.filter fun p => Kind.slug.Extends word p.slug).map
          fun p => SlugHit.mk p.slug p.isPublished).filter
            fun hit => hit.isPublished || store.sessionAccount.isSome).map (·.slug) =
        (offeredSlugs sub store).filter fun slug => Kind.slug.Extends word slug := by
      rw [offeredSlugs_eq up known closed]
      simp [List.filter_map, Function.comp_def, Bool.and_comm]
    rw [searchSlugs_of_no_outage up, ← same]
    rfl

theorem ofSlug_eq (hk : kindOf (partialWords line) = .slug) :
    (ofSlug ((partialWords line)[1]?.getD "") (UnfinishedLine.typed line) store).1 =
      ofCandidates (Text.join " " (UnfinishedLine.earlier line) ++ " ")
        (UnfinishedLine.typed line) (candidates line cwd setting store) fun _ => " " := by
  have names : candidates line cwd setting store = _ := candidates_of_kind hk
  obtain ⟨sub, earlier⟩ := earlier_of_slug hk
  have second : (partialWords line)[1]?.getD "" = sub := by
    rw [UnfinishedLine.partialWords_eq, earlier]
    rfl
  have stem : ∀ slug, Kind.slug.stem (UnfinishedLine.typed line) ++ slug = slug :=
    fun _ => String.empty_append
  simp only [namesFor, second, stem] at names
  rw [second, ofSlug_apply, ← names, earlier]
  congr 1

/-! ### All lines -/

theorem mem_posts_of_offered {sub slug : String} (h : slug ∈ offeredSlugs sub store) :
    ∃ post ∈ store.posts, post.slug = slug := by
  have all : slug ∈ store.posts.map (·.slug) := by
    rw [offeredSlugs] at h
    split at h
    · cases h
    · split at h
      · split at h
        · exact h
        · cases h
      · split at h
        · exact (List.filter_sublist.map _).subset h
        · cases h
  exact List.mem_map.mp all

theorem isWord_of_mem_candidates (named : WellNamed setting store) {name : String}
    (h : name ∈ candidates line cwd setting store) : Text.IsWord name := by
  have among := (List.mem_filter.mp h).1
  cases hk : kindOf (partialWords line) with
  | command =>
    rw [hk, namesFor] at among
    obtain ⟨spec, hspec, rfl⟩ := List.mem_map.mp among
    exact named.commands spec hspec
  | subcommand =>
    have table : ∀ name ∈ Blog.subcommands, Text.IsWord name := by decide
    rw [hk, namesFor] at among
    exact table name among
  | path =>
    rw [hk, namesFor] at among
    exact isWord_of_mem_namesIn named among
  | slug =>
    rw [hk, namesFor] at among
    obtain ⟨post, hpost, rfl⟩ := mem_posts_of_offered among
    exact (named.slugs post hpost).1
  | other =>
    rw [hk, namesFor] at among
    cases among

theorem isAscii_of_mem_candidates (named : WellNamed setting store)
    (hk : kindOf (partialWords line) = .slug) {name : String}
    (h : name ∈ candidates line cwd setting store) : Text.IsAscii name.toList := by
  rw [candidates_of_kind hk, namesFor] at h
  obtain ⟨post, hpost, rfl⟩ := mem_posts_of_offered (List.mem_filter.mp h).1
  exact (named.slugs post hpost).2

theorem extends_of_mem_candidates {name : String}
    (h : name ∈ candidates line cwd setting store) :
    (kindOf (partialWords line)).Extends (UnfinishedLine.typed line)
      ((kindOf (partialWords line)).stem (UnfinishedLine.typed line) ++ name) :=
  of_decide_eq_true (List.mem_filter.mp h).2

theorem continues_candidates (named : WellNamed setting store) {ending : String → String}
    (ends : ∀ n, ending n = " " ∨ (ending n = "/" ∧ kindOf (partialWords line) ≠ .slug)) :
    Continues line (kindOf (partialWords line)) (candidates line cwd setting store) ending where
  words _ mem := isWord_of_mem_candidates named mem
  ascii slug _ mem := isAscii_of_mem_candidates named slug mem
  extend _ mem := extends_of_mem_candidates mem
  ends := ends

theorem candidates_of_command (hk : kindOf (partialWords line) = .command) :
    candidates line cwd setting store =
      setting.registry.namesBeginning (UnfinishedLine.typed line) := by
  rw [candidates_of_kind hk, filter_extends_eq (by decide) String.empty_append, namesFor,
    Registry.namesBeginning]

theorem keeps_command (named : WellNamed setting store)
    (hk : kindOf (partialWords line) = .command) :
    Keeps line .command (candidates line cwd setting store)
      (ofCommand setting.registry (UnfinishedLine.typed line)) := by
  have continues : Continues line .command (candidates line cwd setting store) fun _ => " " :=
    hk ▸ continues_candidates named fun _ => Or.inl rfl
  rw [ofCommand, ← @candidates_of_command line cwd setting store hk]
  generalize candidates line cwd setting store = names at continues
  match names with
  | [] => exact keeps_nothing
  | [only] =>
    have word := continues.words only List.mem_cons_self
    refine keeps_replacing only ?_ (Or.inl (Text.endsBlank_then_blank only)) ?_
    · rw [Text.words_then_blank, Text.words_of_isWord word, earlier_of_command hk, List.nil_append]
    · exact continues.extend only List.mem_cons_self
  | first :: second :: rest => exact keeps_listing (by simp) continues.extend

/-- Every word but the name of a command is completed from its candidates. -/
theorem complete_eq_ofCandidates (notCommand : kindOf (partialWords line) ≠ .command) :
    ∃ name ending, (kindOf (partialWords line)).stem (UnfinishedLine.typed line) ++ name =
        UnfinishedLine.typed line ∧
      (∀ n, ending n = " " ∨ (ending n = "/" ∧ kindOf (partialWords line) ≠ .slug)) ∧
      (complete line cwd setting store).1 =
        ofCandidates (Text.join " " (UnfinishedLine.earlier line) ++ " " ++
          (kindOf (partialWords line)).stem (UnfinishedLine.typed line)) name
          (candidates line cwd setting store) ending := by
  cases hk : kindOf (partialWords line) with
  | command => exact absurd hk notCommand
  | subcommand =>
    have post : (partialWords line).headD "" = "post" := by
      rw [UnfinishedLine.partialWords_eq, earlier_of_subcommand hk]
      rfl
    refine ⟨UnfinishedLine.typed line, fun _ => " ", String.empty_append, fun _ => .inl rfl, ?_⟩
    simp only [complete, hk, pure_apply, post, earlier_of_subcommand hk]
    exact ofSubcommand_eq hk
  | path =>
    obtain ⟨name, ending, whole, ends, answer⟩ :=
      @ofPath_eq line cwd setting store hk
    refine ⟨name, ending, whole, fun n => (ends n).imp_right fun slash => ⟨slash, by decide⟩, ?_⟩
    simp only [complete, hk, pure_apply]
    exact answer
  | slug =>
    refine ⟨UnfinishedLine.typed line, fun _ => " ", String.empty_append, fun _ => .inl rfl, ?_⟩
    have stem : Kind.slug.stem (UnfinishedLine.typed line) = "" := rfl
    simp only [complete, hk]
    rw [stem, String.append_empty]
    exact ofSlug_eq hk
  | other =>
    have noNames : candidates line cwd setting store = [] := candidates_of_kind hk
    refine ⟨UnfinishedLine.typed line, fun _ => " ", String.empty_append, fun _ => .inl rfl, ?_⟩
    simp only [complete, hk, pure_apply, noNames]
    rfl

end

/-- Completion keeps what was typed: of a new line only the last word is another, and it extends the
one that was typed; without a new line all that could be meant is listed in order. -/
theorem keeps_complete {setting : Setting} {store : Store} (named : WellNamed setting store)
    (line cwd : String) :
    Keeps line (kindOf (partialWords line)) (candidates line cwd setting store)
      (complete line cwd setting store).1 := by
  by_cases hk : kindOf (partialWords line) = .command
  · simp only [complete, hk, pure_apply]
    exact keeps_command named hk
  · obtain ⟨name, ending, whole, ends, answer⟩ :=
      @complete_eq_ofCandidates line cwd setting store hk
    rw [answer]
    exact keeps_ofCandidates (continues_candidates named ends) whole rfl

/-- A slug that was typed in capitals, and a directory by way of another one. -/
theorem keeps_after_show :
    let store := (Store.empty "" (.ticking ⟨0, 0⟩)).addPost
      ⟨0, "Rust", "rust-Async", none, true, none, ⟨0, 0⟩, 1, []⟩
    let setting := Session.ofBuiltin.setting
    WellNamed setting store ∧
      Keeps "  post show RUST-a" .slug ["rust-Async"]
        (complete "  post show RUST-a" "/" setting store).1 ∧
      (complete "  post show RUST-a" "/" setting store).1.input = some "post show rust-Async " ∧
      Keeps "cat projects/../p" .path ["projects"]
        (complete "cat projects/../p" "/" setting store).1 ∧
      (complete "cat projects/../p" "/" setting store).1.input =
        some "cat projects/../projects/" := by
  intro store setting
  have named : WellNamed setting store :=
    ⟨by decide +kernel, by decide +kernel, by decide +kernel⟩
  have kinds : kindOf (partialWords "  post show RUST-a") = .slug ∧
      kindOf (partialWords "cat projects/../p") = .path := by decide +kernel
  have names : candidates "  post show RUST-a" "/" setting store = ["rust-Async"] ∧
      candidates "cat projects/../p" "/" setting store = ["projects"] := by decide +kernel
  refine ⟨named, ?_, by decide +kernel, ?_, by decide +kernel⟩
  · rw [← names.1, ← kinds.1]
    exact keeps_complete named _ _
  · rw [← names.2, ← kinds.2]
    exact keeps_complete named _ _

end Completion

end PortfolioShell
