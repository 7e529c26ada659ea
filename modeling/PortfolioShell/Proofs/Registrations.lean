import PortfolioShell.Proofs.Tags
import PortfolioShell.Proofs.Tokens

/-!
# Registrations of commands

A registry is a map from names to commands that keeps the order of its names. A later registration of
a name takes over everything but the place: the handler, the way it is called, and the part of the
help. Whoever reads the registry, be it to carry out a command, to print the help or to complete a
name, sees of each name the last registration and nothing else.
-/
namespace PortfolioShell

namespace Registry

/-- A registration that no later one of its name replaces. -/
def IsLatest (specs : List CommandSpec) (spec : CommandSpec) : Prop :=
  ∃ before after, specs = before ++ spec :: after ∧ ∀ other ∈ after, other.name ≠ spec.name

/-- The registry after registrations in order. -/
def registerAll (registry : Registry) (specs : List CommandSpec) : Registry :=
  specs.foldl register registry

variable {specs : List CommandSpec} {registry : Registry} {spec : CommandSpec} {name : String}

/-! ### One registration -/

theorem names_put (spec : CommandSpec) (entries : List CommandSpec) :
    (put spec entries).map (·.name) =
      if spec.name ∈ entries.map (·.name) then entries.map (·.name)
      else entries.map (·.name) ++ [spec.name] := by
  induction entries with
  | nil => rfl
  | cons old rest ih =>
    rw [put]
    by_cases same : old.name = spec.name
    · simp [same]
    · rw [if_neg same, List.map_cons, ih]
      by_cases known : spec.name ∈ rest.map (·.name)
      · simp [known]
      · simp [known, Ne.symm same]

theorem find?_put (spec : CommandSpec) (entries : List CommandSpec) (name : String) :
    (put spec entries).find? (·.name == name) =
      if spec.name = name then some spec else entries.find? (·.name == name) := by
  induction entries with
  | nil => by_cases own : spec.name = name <;> simp [put, own]
  | cons old rest ih =>
    rw [put]
    by_cases same : old.name = spec.name
    · rw [if_pos same]
      by_cases own : spec.name = name <;> simp [own, same]
    · rw [if_neg same]
      by_cases first : old.name = name
      · have other : spec.name ≠ name := fun own => same (first.trans own.symm)
        simp [first, other]
      · simp [first, ih]

/-- A registration is seen under its own name only. -/
theorem get?_register (registry : Registry) (spec : CommandSpec) (name : String) :
    (registry.register spec).get? name =
      if spec.name = name then some spec else registry.get? name :=
  find?_put spec registry.entries name

theorem not_isLatest_nil (spec : CommandSpec) : ¬ IsLatest [] spec := by
  rintro ⟨before, after, whole, _⟩
  exact List.cons_ne_nil spec after (List.append_eq_nil_iff.mp whole.symm).2

/-- One more registration takes the place of those of its name. -/
theorem isLatest_concat {last : CommandSpec} :
    IsLatest (specs ++ [last]) spec ↔
      spec = last ∨ (last.name ≠ spec.name ∧ IsLatest specs spec) := by
  constructor
  · rintro ⟨before, after, whole, others⟩
    rcases List.eq_nil_or_concat' after with rfl | ⟨after, final, rfl⟩
    · obtain ⟨_, same⟩ := List.append_inj' whole rfl
      exact Or.inl (List.cons.inj same).1.symm
    · have split : specs ++ [last] = (before ++ spec :: after) ++ [final] := by simp [whole]
      obtain ⟨rfl, same⟩ := List.append_inj' split rfl
      obtain rfl : last = final := (List.cons.inj same).1
      refine Or.inr ⟨others last (by simp), before, after, rfl, ?_⟩
      intro other mem
      exact others other (List.mem_append_left _ mem)
  · rintro (rfl | ⟨different, before, after, rfl, others⟩)
    · exact ⟨specs, [], rfl, by simp⟩
    · refine ⟨before, after ++ [last], by simp, ?_⟩
      intro other mem
      rcases List.mem_append.mp mem with mem | mem
      · exact others other mem
      · rw [List.mem_singleton.mp mem]
        exact different

/-! ### Registrations in order -/

/-- A registry that holds what was registered: the names in the order in which they came first, and
under each of them the last command. -/
structure Holds (specs : List CommandSpec) (registry : Registry) : Prop where
  names : Store.AreNew [] (specs.map (·.name)) (registry.entries.map (·.name))
  latest : ∀ name spec, registry.get? name = some spec ↔ spec.name = name ∧ IsLatest specs spec

namespace Holds

theorem empty : Holds [] .empty where
  names := .nil []
  latest name spec := by
    constructor
    · intro found
      cases found
    · rintro ⟨_, latest⟩
      exact absurd latest (not_isLatest_nil spec)

theorem register (h : Holds specs registry) (last : CommandSpec) :
    Holds (specs ++ [last]) (registry.register last) where
  names := by
    rw [List.map_append]
    change Store.AreNew [] _ ((put last registry.entries).map (·.name))
    rw [names_put]
    by_cases known : last.name ∈ registry.entries.map (·.name)
    · rw [if_pos known]
      exact h.names.concat_known known
    · rw [if_neg known]
      exact h.names.concat_free known
  latest name spec := by
    rw [get?_register, isLatest_concat]
    by_cases own : last.name = name
    · rw [if_pos own]
      constructor
      · intro found
        obtain rfl := Option.some.inj found
        exact ⟨own, Or.inl rfl⟩
      · rintro ⟨named, rfl | ⟨different, _⟩⟩
        · rfl
        · exact absurd (own.trans named.symm) different
    · rw [if_neg own, h.latest]
      constructor
      · rintro ⟨rfl, latest⟩
        exact ⟨rfl, Or.inr ⟨own, latest⟩⟩
      · rintro ⟨rfl, rfl | ⟨_, latest⟩⟩
        · exact absurd rfl own
        · exact ⟨rfl, latest⟩

theorem registerAll (h : Holds specs registry) (more : List CommandSpec) :
    Holds (specs ++ more) (registry.registerAll more) := by
  induction more generalizing specs registry with
  | nil =>
    rw [List.append_nil]
    exact h
  | cons next rest ih =>
    have onwards := ih (h.register next)
    rw [List.append_assoc] at onwards
    exact onwards

theorem builtin : Holds builtins .builtin := Holds.empty.registerAll builtins

variable (h : Holds specs registry)
include h

theorem mem_names_iff : name ∈ registry.entries.map (·.name) ↔ ∃ spec ∈ specs, spec.name = name := by
  rw [h.names.mem_iff, List.mem_map]
  simp

theorem get?_eq_none_iff : registry.get? name = none ↔ ∀ spec ∈ specs, spec.name ≠ name := by
  have known : registry.get? name = none ↔ ¬ name ∈ registry.entries.map (·.name) := by
    simp [get?]
  rw [known, h.mem_names_iff]
  simp

theorem get?_of_mem (mem : spec ∈ registry.entries) : registry.get? spec.name = some spec := by
  obtain ⟨before, after, whole⟩ := List.append_of_mem mem
  have distinct := h.names.nodup
  rw [whole, List.map_append, List.map_cons, List.nodup_append] at distinct
  refine List.find?_eq_some_iff_append.mpr ⟨beq_self_eq_true _, before, after, whole, ?_⟩
  intro other memOther
  have different : other.name ≠ spec.name :=
    distinct.2.2 other.name (List.mem_map_of_mem memOther) spec.name List.mem_cons_self
  simpa using different

theorem mem_entries_iff : spec ∈ registry.entries ↔ IsLatest specs spec := by
  constructor
  · intro mem
    exact ((h.latest _ _).mp (h.get?_of_mem mem)).2
  · intro latest
    exact List.mem_of_find?_eq_some ((h.latest _ _).mpr ⟨rfl, latest⟩)

theorem order : registry.entries.Pairwise fun first second =>
    (specs.map (·.name)).idxOf first.name < (specs.map (·.name)).idxOf second.name := by
  have named := h.names.order
  rw [List.pairwise_map] at named
  exact named

end Holds

/-! ### Who reads the registry -/

/-- Every command is listed in one part of the help. -/
theorem listed_append_perm (registry : Registry) :
    (registry.listed .general ++ registry.listed .files).Perm registry.entries := by
  have rest : registry.listed .files =
      registry.entries.filter fun spec => !(spec.part == .general) := by
    apply List.filter_congr
    intro spec _
    cases spec.part <;> rfl
  rw [rest]
  exact List.filter_append_perm _ registry.entries

theorem runs_of_found (found : registry.get? name = some spec) :
    registry.Runs name spec.handler := by
  rw [Runs, found]
  rfl

end Registry

namespace Completion

/-- An answer that offers names: nothing, the only name with a blank behind it, or several names in
order. -/
inductive Offers : List String → Completion → Prop
  | none : Offers [] nothing
  | only (name : String) : Offers [name] (replacing (name ++ " "))
  | several {names : List String} (more : 2 ≤ names.length) : Offers names (listing (sorted names))

theorem offers_ofCommand (registry : Registry) (word : String) :
    Offers (registry.namesBeginning word) (ofCommand registry word) := by
  rw [ofCommand]
  rcases registry.namesBeginning word with _ | ⟨first, _ | ⟨second, rest⟩⟩
  · exact .none
  · exact .only first
  · exact .several (by simp)

/-- The only word of a line is completed as the name of a command. -/
theorem complete_of_single {σ : Type} [Backend σ] {line word : String}
    (single : partialWords line = [word]) (cwd : String) (setting : Setting) (b : σ) :
    complete line cwd setting b = (ofCommand setting.registry word, b) := by
  have kind : kindOf (partialWords line) = .command := by
    rw [single]
    rfl
  have typed : (partialWords line).getLast?.getD "" = word := by
    rw [single]
    rfl
  simp only [complete, kind, typed, pure_apply]

end Completion

namespace Invocation

variable {σ : Type} [Backend σ] {inv : Invocation} {setting : Setting} {spec : CommandSpec}

/-- A plain command is not told where it is, and stays there. -/
theorem execute_of_plain {command : PlainCommand}
    (found : setting.registry.get? inv.name = some spec) (plain : spec.handler = .plain command)
    (cwd : String) (b : σ) : inv.execute setting cwd b =
      (⟨some (command.run inv.args setting b).1, none⟩, (command.run inv.args setting b).2) := by
  rw [execute_of_runs (Registry.runs_of_found found), plain]
  rfl

theorem execute_of_missing (missing : setting.registry.get? inv.name = none) (cwd : String)
    (b : σ) : inv.execute setting cwd b =
      (⟨some (.text (notRegistered inv.name)), none⟩, b) := by
  simp only [execute, missing, pure_apply]

end Invocation

namespace Registry

/-- What is done with the commands of a setting whose registry holds registrations. -/
structure Serves (specs : List CommandSpec) (setting : Setting) : Prop where
  /-- A name runs the handler of its last registration, -/
  runs : ∀ spec, IsLatest specs spec → ∀ (σ : Type) [Backend σ] (args : List String)
    (cwd : String) (b : σ),
    (Invocation.mk spec.name args).execute setting cwd b = spec.handler.run args cwd setting b
  /-- which changes no directory and sees none if it is plain. -/
  plain : ∀ spec, IsLatest specs spec → ∀ command, spec.handler = .plain command →
    ∀ (σ : Type) [Backend σ] (args : List String) (cwd : String) (b : σ),
    (Invocation.mk spec.name args).execute setting cwd b =
      (⟨some (command.run args setting b).1, none⟩, (command.run args setting b).2)
  /-- Of any other name it is said that it was not found, and nothing happens. -/
  unknown : ∀ name, (∀ spec ∈ specs, spec.name ≠ name) →
    ∀ (σ : Type) [Backend σ] (args : List String) (cwd : String) (b : σ),
    (Invocation.mk name args).execute setting cwd b = (⟨some (.text
      s!"Command not found: {name}. Type 'help' for available commands."), none⟩, b)
  /-- The help lists each command once, in the part of its last registration and in order. -/
  help : ∃ general files : List CommandSpec,
    Info.help setting.registry = .rich [.text "Available commands:",
      .pairs (general.map fun spec => (spec.usage, spec.summary)) " - ",
      .heading "File System Commands:",
      .pairs (files.map fun spec => (spec.usage, spec.summary)) " - "] ∧
    general.Sublist setting.registry.entries ∧ files.Sublist setting.registry.entries ∧
    (general ++ files).Perm setting.registry.entries ∧
    (∀ spec, spec ∈ general ↔ IsLatest specs spec ∧ spec.part = .general) ∧
    (∀ spec, spec ∈ files ↔ IsLatest specs spec ∧ spec.part = .files)
  /-- What has been typed of a name is completed from the names that begin with it, all of them and
  no others, each once; and where it is the only word of a line, so is the line. -/
  offers : ∀ word, ∃ names, names.Nodup ∧
    (∀ name, name ∈ names ↔ (∃ spec ∈ specs, spec.name = name) ∧ word.toList <+: name.toList) ∧
    Completion.Offers names (Completion.ofCommand setting.registry word) ∧
    ∀ (σ : Type) [Backend σ] (line cwd : String) (b : σ), partialWords line = [word] →
      complete line cwd setting b = (Completion.ofCommand setting.registry word, b)
  /-- Text without blanks is the only word of a line. -/
  single : ∀ word : String, (∀ c ∈ word.toList, Text.isBlank c = false) →
    partialWords word = [word]

/-- What a registry is after registrations, and what is done with it. -/
structure RegistryLaw (specs : List CommandSpec) (registry : Registry) : Prop where
  /-- No name is there twice. -/
  distinct : (registry.entries.map (·.name)).Nodup
  /-- Under a name the last registration of it is found, -/
  latest : ∀ name spec, registry.get? name = some spec ↔ spec.name = name ∧ IsLatest specs spec
  /-- and nothing only if there was none. -/
  missing : ∀ name, registry.get? name = none ↔ ∀ spec ∈ specs, spec.name ≠ name
  /-- The last registrations of their names are all there is, -/
  entries : ∀ spec, spec ∈ registry.entries ↔ IsLatest specs spec
  /-- in the order in which their names were first registered. -/
  order : registry.entries.Pairwise fun first second =>
    (specs.map (·.name)).idxOf first.name < (specs.map (·.name)).idxOf second.name
  /-- And so they are carried out, listed and completed. -/
  serves : ∀ setting : Setting, setting.registry = registry → Serves specs setting

theorem Holds.serves {setting : Setting} (h : Holds specs setting.registry) :
    Serves specs setting := by
  constructor
  case runs =>
    intro spec latest σ _ args cwd b
    have found : setting.registry.get? spec.name = some spec := (h.latest _ _).mpr ⟨rfl, latest⟩
    rw [Invocation.execute_of_runs (runs_of_found found)]
  case plain =>
    intro spec latest command plain σ _ args cwd b
    have found : setting.registry.get? spec.name = some spec := (h.latest _ _).mpr ⟨rfl, latest⟩
    exact Invocation.execute_of_plain found plain cwd b
  case unknown =>
    intro name unregistered σ _ args cwd b
    have missing : setting.registry.get? name = none := h.get?_eq_none_iff.mpr unregistered
    exact Invocation.execute_of_missing missing cwd b
  case help =>
    refine ⟨setting.registry.listed .general, setting.registry.listed .files, rfl,
      List.filter_sublist, List.filter_sublist, listed_append_perm _, ?_, ?_⟩
    · intro spec
      rw [listed, List.mem_filter, h.mem_entries_iff, beq_iff_eq]
    · intro spec
      rw [listed, List.mem_filter, h.mem_entries_iff, beq_iff_eq]
  case offers =>
    intro word
    refine ⟨setting.registry.namesBeginning word, ?_, ?_, ?_, ?_⟩
    · exact h.names.nodup.filter _
    · intro name
      rw [namesBeginning, List.mem_filter, h.mem_names_iff, Text.beginsWith,
        List.isPrefixOf_iff_prefix]
    · exact Completion.offers_ofCommand _ word
    · intro σ _ line cwd b single
      exact Completion.complete_of_single single cwd setting b
  case single => exact fun word => UnfinishedLine.partialWords_of_uncut

theorem Holds.registryLaw (h : Holds specs registry) : RegistryLaw specs registry where
  distinct := h.names.nodup
  latest := h.latest
  missing _ := h.get?_eq_none_iff
  entries _ := h.mem_entries_iff
  order := h.order
  serves := by
    rintro setting rfl
    exact h.serves

/-- A registry to which commands were registered in any order and number, from nothing or behind
those that come with the terminal, holds the last one of each name, in the order of the names' first
registration; and this is what is carried out, listed and completed. -/
theorem registryLaw_of_registered (specs : List CommandSpec) :
    RegistryLaw specs (empty.registerAll specs) ∧
      RegistryLaw (builtins ++ specs) (builtin.registerAll specs) := by
  have fromNothing : Holds specs (empty.registerAll specs) := Holds.empty.registerAll specs
  have behindBuiltins : Holds (builtins ++ specs) (builtin.registerAll specs) :=
    Holds.builtin.registerAll specs
  exact ⟨fromNothing.registryLaw, behindBuiltins.registryLaw⟩

example : (empty.registerAll [⟨"ls", "ls", "", .files, .file .ls⟩, ⟨"cd", "cd", "", .files, .file .cd⟩,
    ⟨"ls", "ls", "", .general, .plain .help⟩]).entries =
      [⟨"ls", "ls", "", .general, .plain .help⟩, ⟨"cd", "cd", "", .files, .file .cd⟩] := by decide

end Registry

end PortfolioShell
