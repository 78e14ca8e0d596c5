import ClassHarvest.Proofs.Dictionary
import ClassHarvest.Proofs.Gathering
import ClassHarvest.Settings.Run

/-!
# Options by layer and by spelling

An option has two spellings and may be given in two layers, by the host and by the project.  The layers
are laid over each other before an option is looked up, so the spelling decides first, and a blank
option of the host hides that of the project.  Where the options of the two layers do not cross, this is
the same as to take one of the host, in either spelling, before one of the project.
-/

namespace ClassHarvest

open Pattern Gathering

/-! ## Looking up an option -/

namespace Options

variable {host project : Options} {keys : List Text} {key : Text}

/-- The value of an option, unless it is blank. -/
def set? (options : Options) (key : Text) : Option Text :=
  (options.get? key).filter fun value => !value.isBlank

/-- The option that counts by layer, then by spelling. -/
def byLayer? (host project : Options) (keys : List Text) : Option Text :=
  (host.first? keys).or (project.first? keys)

/-- The option that counts by spelling, then by layer: what the host gives in a spelling stands before
what the project gives in it, also if it is blank. -/
def bySpelling? (host project : Options) (keys : List Text) : Option Text :=
  keys.findSome? fun key => ((host.get? key).or (project.get? key)).filter fun value => !value.isBlank

/-- Options of two layers that do not cross. -/
structure Uncrossed (host project : Options) (keys : List Text) : Prop where
  /-- Where the host sets a spelling, it leaves out no earlier one that the project sets. -/
  ordered : keys.Pairwise fun early late =>
    (host.set? late).isSome → host.get? early = none → project.set? early = none
  /-- Where the host sets no spelling, the project sets none that is blank at the host. -/
  unhidden : host.first? keys = none → ∀ key ∈ keys, (host.get? key).isSome → project.set? key = none

theorem first?_cons (options : Options) (key : Text) (keys : List Text) :
    options.first? (key :: keys) = (options.set? key).or (options.first? keys) := by
  have head : (options.get? key).filter (fun value => !value.isBlank) = options.set? key := rfl
  rw [first?, List.findSome?_cons, head]
  cases options.set? key <;> rfl

theorem first?_eq_none_iff {options : Options} :
    options.first? keys = none ↔ ∀ key ∈ keys, options.set? key = none :=
  List.findSome?_eq_none_iff

/-- In layers that are laid over each other, the spelling decides before the layer. -/
theorem first?_update (distinct : host.keys.Nodup) (project : Options) (keys : List Text) :
    first? (project.update host) keys = bySpelling? host project keys := by
  unfold first? bySpelling?
  congr 1
  funext key
  rw [Dictionary.get?_update project distinct]

theorem bySpelling?_cons_of_absent (absent : host.get? key = none) :
    bySpelling? host project (key :: keys) =
      (project.set? key).or (bySpelling? host project keys) := by
  have head : (project.get? key).filter (fun value => !value.isBlank) = project.set? key := rfl
  rw [bySpelling?, List.findSome?_cons, absent, Option.none_or, head]
  cases project.set? key <;> rfl

theorem bySpelling?_cons_of_given (given : (host.get? key).isSome) :
    bySpelling? host project (key :: keys) =
      (host.set? key).or (bySpelling? host project keys) := by
  obtain ⟨value, given⟩ := Option.isSome_iff_exists.mp given
  rw [bySpelling?, List.findSome?_cons, set?, given, Option.some_or]
  cases (some value).filter fun value => !value.isBlank <;> rfl

theorem Uncrossed.tail (uncrossed : Uncrossed host project (key :: keys))
    (unset : host.set? key = none) : Uncrossed host project keys where
  ordered := uncrossed.ordered.of_cons
  unhidden noOther other mem := by
    refine uncrossed.unhidden ?_ other (List.mem_cons_of_mem key mem)
    rw [first?_cons, unset, Option.none_or, noOther]

/-- Where the layers do not cross, it makes no difference whether layer or spelling decides first. -/
theorem Uncrossed.bySpelling?_eq (uncrossed : Uncrossed host project keys) :
    bySpelling? host project keys = byLayer? host project keys := by
  induction keys with
  | nil => rfl
  | cons key keys ih =>
      rw [byLayer?, first?_cons, first?_cons]
      cases isSet : host.set? key with
      | some value =>
          have given : (host.get? key).isSome := by
            exact Option.isSome_of_eq_some (Option.filter_eq_some_iff.mp isSet).1
          rw [bySpelling?_cons_of_given given, isSet, Option.some_or, Option.some_or, Option.some_or]
      | none =>
      have rest := ih (uncrossed.tail isSet)
      rw [byLayer?] at rest
      rw [Option.none_or]
      by_cases given : (host.get? key).isSome
      · rw [bySpelling?_cons_of_given given, isSet, Option.none_or, rest]
        cases later : host.first? keys with
        | some value => rw [Option.some_or, Option.some_or]
        | none =>
            have noOther : host.first? (key :: keys) = none := by
              rw [first?_cons, isSet, later, Option.none_or]
            rw [uncrossed.unhidden noOther key List.mem_cons_self given, Option.none_or, Option.none_or]
      · have absent : host.get? key = none := by simpa using given
        rw [bySpelling?_cons_of_absent absent, rest]
        cases kept : project.set? key with
        | none => rw [Option.none_or, Option.none_or]
        | some value =>
            -- The project sets the earlier spelling, so the host sets no later one.
            have noOther : host.first? keys = none := by
              rw [first?_eq_none_iff]
              intro late mem
              by_contra isSet
              have isSome : (host.set? late).isSome := Option.isSome_iff_ne_none.mpr isSet
              have crossed := (List.pairwise_cons.mp uncrossed.ordered).1 late mem isSome absent
              rw [kept] at crossed
              cases crossed
            rw [noOther, Option.some_or, Option.none_or, Option.some_or]

end Options

/-! ## Resolved settings -/

/-- The source of the class pattern, if some option is found for it. -/
def sourceWith (project : ProjectSettings) (option : Option Text) : Text :=
  option.getD ((project.pattern.filter fun pattern => !pattern.isEmpty).getD defaultPattern)

/-- The suffixes of files that are searched, if some option is found for them. -/
def suffixesWith (project : ProjectSettings) (option : Option Text) : List Text :=
  orDefault ((option.map splitExtensions).getD project.extensions) defaultExtensions

variable {project : ProjectSettings} {host : Options} {mode : Option Text} {settings : RunSettings}

theorem ClassPattern.source_of_compile {source : Text} {pattern : ClassPattern}
    (compiled : ClassPattern.compile source = .ok pattern) : pattern.source = source := by
  unfold ClassPattern.compile at compiled
  split at compiled
  · cases compiled
  dsimp only at compiled
  split at compiled
  · cases compiled
  · cases compiled
  · cases compiled
  · cases compiled
  split at compiled
  · cases compiled
  · cases compiled
    rfl

theorem source_of_resolvePattern {source : Text} {pattern : ClassPattern}
    (resolved : resolvePattern source = .ok pattern) : pattern.source = source := by
  unfold resolvePattern at resolved
  split at resolved
  · next compiled =>
      cases resolved
      exact ClassPattern.source_of_compile compiled
  · split at resolved <;> cases resolved

/-- What resolved settings are made of. -/
theorem parts_of_resolve (resolved : resolve project host mode = .ok settings) :
    resolvePattern (patternSource project (project.options.update host)) = .ok settings.pattern ∧
      settings.extensions = extensionsOf project (project.options.update host) ∧
      settings.helpers = orDefault project.helpers defaultHelpers := by
  obtain ⟨pattern, compiled, resolved⟩ := bind_eq_ok_iff.mp resolved
  dsimp only at resolved
  split at resolved
  · cases resolved
  · cases resolved
    exact ⟨compiled, rfl, rfl⟩

theorem patternSource_eq (project : ProjectSettings) (options : Options) :
    patternSource project options = sourceWith project (options.first? Options.patternKeys) := by
  unfold patternSource sourceWith
  cases options.first? Options.patternKeys with
  | some pattern => rfl
  | none =>
      cases project.pattern with
      | none => rfl
      | some pattern => cases pattern <;> rfl

theorem extensionsOf_eq (project : ProjectSettings) (options : Options) :
    extensionsOf project options =
      suffixesWith project (options.first? Options.extensionKeys) := by
  unfold extensionsOf suffixesWith
  cases options.first? Options.extensionKeys <;> rfl

end ClassHarvest
