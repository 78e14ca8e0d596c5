import Mathlib.Data.List.Basic
import ClassHarvest.Scan.Discovery
import ClassHarvest.Proofs.ClassSet
import ClassHarvest.Proofs.Files.Walk

/-!
# What discovery selects

The scanners that come with the program are like plugins that stand in front of all others.  Of the
whole lineup those are used that are asked for, the first of each name.  A plugin that is not used has
no influence on the outcome, provided that it can be loaded.
-/

namespace ClassHarvest

/-- The first members for each key have the first occurrences of the keys. -/
theorem map_eraseDupsBy {α β : Type} [DecidableEq β] [BEq β] [LawfulBEq β] (key : α → β)
    (xs : List α) :
    (xs.eraseDupsBy fun x y => key x == key y).map key = firstOccurrences (xs.map key) := by
  rw [firstOccurrences_eq_eraseDups]
  induction few : xs.length using Nat.strongRecOn generalizing xs with
  | _ n ih =>
      cases xs with
      | nil => rfl
      | cons x xs =>
          have shorter : (xs.filter fun y => (key y == key x) = false).length < n :=
            few ▸ Nat.lt_succ_of_le (List.length_filter_le _ _)
          rw [List.eraseDupsBy_cons, List.map_cons, List.map_cons, List.eraseDups_cons,
            ih _ shorter _ rfl, List.filter_map]
          congr 3
          apply List.filter_congr
          intro y _
          cases same : key y == key x <;> simp [same]

namespace Scan

/-! ## The lineup -/

/-- The name of a plugin in small letters. -/
def Plugin.key (plugin : Plugin) : Text :=
  plugin.name.lower

/-- A scanner that comes with the program, seen as a plugin. -/
def Plugin.ofScanner (scanner : Scanner) : Plugin where
  name := scanner.category
  loaded := .ok (.scanner scanner)

/-- All that may be used, in order: the scanners that come with the program, then the plugins. -/
def lineup (plugins : List Plugin) : List Plugin :=
  Scanner.builtIn.map Plugin.ofScanner ++ plugins

/-- The plugins that are asked for, the first of each name. -/
def standing (request : Request) (plugins : List Plugin) : List Plugin :=
  (plugins.filter fun plugin => asksFor request plugin.key).eraseDupsBy fun p q => p.key == q.key

variable {request : Request} {taken : List Text} {plugin : Plugin} {plugins : List Plugin}

theorem mem_map_key_standing {name : Text} : name ∈ (standing request plugins).map Plugin.key ↔
    name ∈ plugins.map Plugin.key ∧ asksFor request name = true := by
  rw [standing, map_eraseDupsBy Plugin.key, mem_firstOccurrences, List.mem_map, List.mem_map]
  constructor
  · rintro ⟨plugin, mem, rfl⟩
    rw [List.mem_filter] at mem
    exact ⟨⟨plugin, mem.1, rfl⟩, mem.2⟩
  · rintro ⟨⟨plugin, mem, rfl⟩, asked⟩
    exact ⟨plugin, List.mem_filter.mpr ⟨mem, asked⟩, rfl⟩

theorem asksFor_of_mem {name : Text} (mem : name ∈ request.getD []) :
    asksFor request name = true := by
  cases request with
  | none => cases mem
  | some names => exact List.contains_iff_mem.mpr mem

theorem standing_cons_of_not_asked (notAsked : asksFor request plugin.key = false) :
    standing request (plugin :: plugins) = standing request plugins := by
  rw [standing, List.filter_cons_of_neg (by rw [notAsked]; exact Bool.false_ne_true), standing]

theorem standing_cons_of_asked (asked : asksFor request plugin.key = true) :
    standing request (plugin :: plugins) =
      plugin :: standing request (plugins.filter fun other => other.key ≠ plugin.key) := by
  rw [standing, List.filter_cons_of_pos (by exact asked), List.eraseDupsBy_cons, standing,
    List.filter_filter, List.filter_filter]
  congr 2
  apply List.filter_congr
  intro other _
  cases same : other.key == plugin.key <;> simp_all

/-- The plugins with names that are not taken. -/
def untaken (taken : List Text) (plugins : List Plugin) : List Plugin :=
  plugins.filter fun plugin => !taken.contains plugin.key

theorem untaken_cons_of_mem (isTaken : plugin.key ∈ taken) :
    untaken taken (plugin :: plugins) = untaken taken plugins :=
  List.filter_cons_of_neg (by simpa using isTaken)

theorem untaken_cons_of_not_mem (free : plugin.key ∉ taken) :
    untaken taken (plugin :: plugins) = plugin :: untaken taken plugins :=
  List.filter_cons_of_pos (by simpa using free)

theorem untaken_cons_taken (key : Text) :
    untaken (key :: taken) plugins = (untaken taken plugins).filter fun other => other.key ≠ key := by
  rw [untaken, untaken, List.filter_filter]
  apply List.filter_congr
  intro other _
  simp

/-! ## One plugin -/

/-- A plugin that cannot be loaded ends the discovery. -/
theorem usePlugins_of_error {reason : Text} (fails : plugin.loaded = .error reason) :
    usePlugins request taken (plugin :: plugins) = .error (.notLoaded plugin.name reason) := by
  rw [usePlugins, fails]

/-- A plugin that is loaded for nothing is passed over. -/
theorem usePlugins_of_idle {offer : Offer} (loads : plugin.loaded = .ok offer)
    (idle : asksFor request plugin.key = false ∨ plugin.key ∈ taken) :
    usePlugins request taken (plugin :: plugins) = usePlugins request taken plugins := by
  have off : (asksFor request plugin.key && !taken.contains plugin.key) = false := by
    rcases idle with notAsked | isTaken
    · rw [notAsked, Bool.false_and]
    · rw [List.contains_iff_mem.mpr isTaken, Bool.not_true, Bool.and_false]
  rw [Plugin.key] at off
  rw [usePlugins, loads]
  simp only [off, Bool.false_eq_true, if_false]

section

variable (asked : asksFor request plugin.key = true) (free : plugin.key ∉ taken)
include asked free

theorem wanted_eq_true : (asksFor request plugin.key && !taken.contains plugin.key) = true := by
  rw [asked, Bool.true_and, Bool.not_eq_true', ← Bool.not_eq_true, List.contains_iff_mem]
  exact free

/-- The scanner of a plugin that is asked for under a name of its own is used. -/
theorem usePlugins_of_scanner {scanner : Scanner} (loads : plugin.loaded = .ok (.scanner scanner)) :
    usePlugins request taken (plugin :: plugins) =
      (usePlugins request (plugin.key :: taken) plugins).map ((plugin.key, scanner) :: ·) := by
  have wanted := wanted_eq_true asked free
  rw [Plugin.key] at wanted
  rw [usePlugins, loads]
  simp only [wanted, if_true]
  rfl

/-- If such a plugin offers no scanner, that ends the discovery. -/
theorem usePlugins_of_unusable (loads : plugin.loaded = .ok .unusable) :
    usePlugins request taken (plugin :: plugins) = .error .unusable := by
  have wanted := wanted_eq_true asked free
  rw [Plugin.key] at wanted
  rw [usePlugins, loads]
  simp only [wanted, if_true]

end

/-! ## All plugins -/

/-- Of the names that are taken it only matters which they are. -/
theorem usePlugins_congr {taken' : List Text} (same : ∀ name, name ∈ taken ↔ name ∈ taken') :
    usePlugins request taken plugins = usePlugins request taken' plugins := by
  induction plugins generalizing taken taken' with
  | nil => rfl
  | cons plugin plugins ih =>
      cases loads : plugin.loaded with
      | error reason => rw [usePlugins_of_error loads, usePlugins_of_error loads]
      | ok offer =>
          by_cases idle : asksFor request plugin.key = false ∨ plugin.key ∈ taken
          · have idle' : asksFor request plugin.key = false ∨ plugin.key ∈ taken' :=
              idle.imp_right (same _).mp
            rw [usePlugins_of_idle loads idle, usePlugins_of_idle loads idle', ih same]
          · rw [not_or, Bool.not_eq_false] at idle
            obtain ⟨asked, free⟩ := idle
            have free' : plugin.key ∉ taken' := fun mem => free ((same _).mpr mem)
            cases offer with
            | unusable =>
                rw [usePlugins_of_unusable asked free loads,
                  usePlugins_of_unusable asked free' loads]
            | scanner scanner =>
                have same' (name : Text) :
                    name ∈ plugin.key :: taken ↔ name ∈ plugin.key :: taken' := by
                  rw [List.mem_cons, List.mem_cons, same]
                rw [usePlugins_of_scanner asked free loads,
                  usePlugins_of_scanner asked free' loads, ih same']

/-- Scanners in front whose names are in small letters, all different and free: those that are asked
for are used. -/
theorem usePlugins_ofScanner {taken' : List Text} (own : List Scanner)
    (small : ∀ s ∈ own, s.category.lower = s.category)
    (apart : (own.map Scanner.category ++ taken).Nodup)
    (same : ∀ name, name ∈ taken' ↔
      name ∈ (own.map Scanner.category).filter (asksFor request) ∨ name ∈ taken) :
    usePlugins request taken (own.map Plugin.ofScanner ++ plugins) =
      (usePlugins request taken' plugins).map
        (((own.map fun s => (s.category, s)).filter fun pair => asksFor request pair.1) ++ ·) := by
  induction own generalizing taken with
  | nil =>
      have same' (name : Text) : name ∈ taken ↔ name ∈ taken' := by simp [same]
      change usePlugins request taken plugins = _
      rw [usePlugins_congr same']
      cases usePlugins request taken' plugins <;> rfl
  | cons s own ih =>
      have isSmall : (Plugin.ofScanner s).key = s.category := small s List.mem_cons_self
      have small' : ∀ s ∈ own, s.category.lower = s.category :=
        fun s mem => small s (List.mem_cons_of_mem _ mem)
      rw [List.map_cons, List.cons_append, List.nodup_cons] at apart
      rw [List.map_cons, List.cons_append, List.map_cons]
      by_cases asked : asksFor request s.category = true
      · have free : s.category ∉ taken := fun mem => apart.1 (List.mem_append_right _ mem)
        have apart' : (own.map Scanner.category ++ s.category :: taken).Nodup :=
          List.perm_middle.nodup_iff.mpr (List.nodup_cons.mpr apart)
        have same' (name : Text) : name ∈ taken' ↔
            name ∈ (own.map Scanner.category).filter (asksFor request) ∨
              name ∈ s.category :: taken := by
          rw [same, List.map_cons, List.filter_cons_of_pos asked, List.mem_cons, List.mem_cons]
          tauto
        rw [usePlugins_of_scanner (isSmall ▸ asked) (isSmall ▸ free) rfl, isSmall,
          ih small' apart' same', List.filter_cons_of_pos (by exact asked)]
        cases usePlugins request taken' plugins <;> rfl
      · have same' (name : Text) : name ∈ taken' ↔
            name ∈ (own.map Scanner.category).filter (asksFor request) ∨ name ∈ taken := by
          rw [same, List.map_cons, List.filter_cons_of_neg asked]
        rw [usePlugins_of_idle rfl (.inl (isSmall ▸ Bool.eq_false_iff.mpr asked)),
          ih small' apart.2 same', List.filter_cons_of_neg (by exact asked)]

/-- How a discovery ends when some scanners are used under their names. -/
def conclude (request : Request) (used : List (Text × Scanner)) :
    Except DiscoveryError (List Scanner) :=
  let missing := (request.getD []).filter fun name => !(used.map (·.1)).contains name
  if missing.isEmpty then .ok (used.map (·.2))
  else .error (.unknown (Text.sort (firstOccurrences missing)))

/-- The names that are asked for, in small letters. -/
def requestOf (enabled : Option (List Text)) : Request :=
  enabled.map (·.map Text.lower)

/-- Discovery takes the lineup as one list of plugins. -/
theorem discover_eq (enabled : Option (List Text)) (plugins : List Plugin) :
    discover enabled plugins =
      usePlugins (requestOf enabled) [] (lineup plugins) >>= conclude (requestOf enabled) := by
  have small : ∀ s ∈ Scanner.builtIn, s.category.lower = s.category := by decide
  have apart : (Scanner.builtIn.map Scanner.category ++ []).Nodup := by decide
  let request := requestOf enabled
  let own := (Scanner.builtIn.map fun s => (s.category, s)).filter fun pair => asksFor request pair.1
  have same (name : Text) : name ∈ own.map (·.1) ↔
      name ∈ (Scanner.builtIn.map Scanner.category).filter (asksFor request) ∨ name ∈ [] := by
    simp [own]
  rw [lineup, usePlugins_ofScanner Scanner.builtIn small apart same]
  change usePlugins request (own.map (·.1)) plugins >>=
    (fun used => conclude request (own ++ used)) = _
  cases usePlugins request (own.map (·.1)) plugins <;> rfl

/-- If all plugins can be loaded and those that are asked for offer scanners, these are used. -/
theorem exists_usePlugins (loads : ∀ plugin ∈ plugins, ∃ offer, plugin.loaded = .ok offer)
    (usable : ∀ plugin ∈ standing request (untaken taken plugins),
      ∃ scanner, plugin.loaded = .ok (.scanner scanner)) :
    ∃ used, usePlugins request taken plugins = .ok used ∧
      used.map (fun pair => (pair.1, Except.ok (Offer.scanner pair.2))) =
        (standing request (untaken taken plugins)).map fun plugin =>
          (plugin.key, plugin.loaded) := by
  induction plugins generalizing taken with
  | nil => exact ⟨[], rfl, rfl⟩
  | cons plugin plugins ih =>
      obtain ⟨offer, isLoaded⟩ := loads plugin List.mem_cons_self
      have loads' := fun other mem => loads other (List.mem_cons_of_mem _ mem)
      by_cases isTaken : plugin.key ∈ taken
      · rw [untaken_cons_of_mem isTaken] at usable ⊢
        rw [usePlugins_of_idle isLoaded (.inr isTaken)]
        exact ih loads' usable
      rw [untaken_cons_of_not_mem isTaken] at usable ⊢
      cases asked : asksFor request plugin.key with
      | false =>
          rw [standing_cons_of_not_asked asked] at usable ⊢
          rw [usePlugins_of_idle isLoaded (.inl asked)]
          exact ih loads' usable
      | true =>
          rw [standing_cons_of_asked asked, ← untaken_cons_taken] at usable ⊢
          obtain ⟨scanner, offers⟩ := usable plugin List.mem_cons_self
          obtain ⟨used, isUsed, same⟩ :=
            ih loads' fun other mem => usable other (List.mem_cons_of_mem _ mem)
          refine ⟨(plugin.key, scanner) :: used, ?_, ?_⟩
          · rw [usePlugins_of_scanner asked isTaken offers, isUsed]
            rfl
          · rw [List.map_cons, List.map_cons, same, offers]

/-! ## What is asked for -/

/-- The names of all that may be used, in small letters. -/
def knownNames (plugins : List Plugin) : List Text :=
  (lineup plugins).map Plugin.key

/-- The names that are asked for and that nothing has, in small letters. -/
def unmet (enabled : Option (List Text)) (plugins : List Plugin) : List Text :=
  ((requestOf enabled).getD []).filter fun name => !(knownNames plugins).contains name

/-- If those that stand are used, discovery fails just if a name is not met. -/
theorem discover_eq_of_used {enabled : Option (List Text)} {used : List (Text × Scanner)}
    (isUsed : usePlugins (requestOf enabled) [] (lineup plugins) = .ok used)
    (names : used.map (·.1) = (standing (requestOf enabled) (lineup plugins)).map Plugin.key) :
    discover enabled plugins =
      if (unmet enabled plugins).isEmpty then .ok (used.map (·.2))
      else .error (.unknown (Text.sort (firstOccurrences (unmet enabled plugins)))) := by
  have missing : ((requestOf enabled).getD []).filter
      (fun name => !(used.map (·.1)).contains name) = unmet enabled plugins := by
    apply List.filter_congr
    intro name isAsked
    have used_iff : name ∈ used.map (·.1) ↔ name ∈ knownNames plugins := by
      rw [names, mem_map_key_standing, and_iff_left (asksFor_of_mem isAsked), knownNames]
    simp [← used_iff]
  rw [discover_eq, isUsed, ← missing]
  rfl

/-- If all plugins can be loaded, and those that are asked for, the first of each name, offer scanners,
then discovery gives these scanners in the order of the lineup, unless a name that is asked for is the
name of nothing; then it says which names these are, each once and sorted. -/
theorem discover_selects (enabled : Option (List Text)) (plugins : List Plugin)
    (loads : ∀ plugin ∈ plugins, ∃ offer, plugin.loaded = .ok offer)
    (usable : ∀ plugin ∈ standing (requestOf enabled) (lineup plugins),
      ∃ scanner, plugin.loaded = .ok (.scanner scanner)) :
    (unmet enabled plugins = [] → ∃ scanners, discover enabled plugins = .ok scanners ∧
      scanners.map (fun scanner => Except.ok (Offer.scanner scanner)) =
        (standing (requestOf enabled) (lineup plugins)).map Plugin.loaded) ∧
    (unmet enabled plugins ≠ [] → ∃ names, discover enabled plugins = .error (.unknown names) ∧
      (DiscoveryError.unknown names).message =
        "Unknown scanners requested: " ++ Text.join ", " names ∧
      names.Pairwise (fun s t => Text.le s t = true ∧ s ≠ t) ∧
      ∀ name, name ∈ names ↔ name ∈ unmet enabled plugins) := by
  have loads' : ∀ plugin ∈ lineup plugins, ∃ offer, plugin.loaded = .ok offer := by
    intro plugin mem
    rcases List.mem_append.mp mem with isOwn | isPlugin
    · obtain ⟨scanner, _, rfl⟩ := List.mem_map.mp isOwn
      exact ⟨_, rfl⟩
    · exact loads plugin isPlugin
  have all : untaken [] (lineup plugins) = lineup plugins := List.filter_eq_self.mpr (by simp)
  rw [← all] at usable
  obtain ⟨used, isUsed, same⟩ := exists_usePlugins loads' usable
  rw [all] at same
  have names : used.map (·.1) = (standing (requestOf enabled) (lineup plugins)).map Plugin.key := by
    have fsts := congrArg (List.map Prod.fst) same
    rwa [List.map_map, List.map_map] at fsts
  have concluded := discover_eq_of_used isUsed names
  constructor
  · intro none
    refine ⟨used.map (·.2), by rw [concluded, none]; rfl, ?_⟩
    have snds := congrArg (List.map Prod.snd) same
    rw [List.map_map, List.map_map] at snds
    rwa [List.map_map]
  · intro some
    have perm : (Text.sort (firstOccurrences (unmet enabled plugins))).Perm
        (firstOccurrences (unmet enabled plugins)) := List.mergeSort_perm _ _
    refine ⟨_, by rw [concluded, if_neg (by simpa using some)], rfl, ?_, ?_⟩
    · exact (Text.pairwise_sort _).and (perm.nodup_iff.mpr (nodup_firstOccurrences _))
    · intro name
      rw [perm.mem_iff, mem_firstOccurrences]

/-- Plugins of which one offers a scanner; the others share its name or that of another scanner. -/
def shadowedPlugins : List Plugin := [
  ⟨"Files", .ok .unusable⟩, ⟨"Tags", .ok (.scanner .idle)⟩, ⟨"TAGS", .ok .unusable⟩]

theorem discover_selects_shadowed :
    (∃ scanners, discover (some ["tags", "FILES", "Tags"]) shadowedPlugins = .ok scanners ∧
      scanners.map (fun scanner => Except.ok (Offer.scanner scanner)) =
        (standing (requestOf (some ["tags", "FILES", "Tags"])) (lineup shadowedPlugins)).map
          Plugin.loaded) ∧
    ∃ names, discover (some ["zz", "tags", "Aa", "aa"]) shadowedPlugins = .error (.unknown names) ∧
      ("zz" : Text) ∈ names := by
  have loads : ∀ plugin ∈ shadowedPlugins, ∃ offer, plugin.loaded = .ok offer := by
    simp [shadowedPlugins]
  have standing₁ : standing (requestOf (some ["tags", "FILES", "Tags"])) (lineup shadowedPlugins) =
      [.ofScanner .files, ⟨"Tags", .ok (.scanner .idle)⟩] := by
    rfl
  have standing₂ : standing (requestOf (some ["zz", "tags", "Aa", "aa"])) (lineup shadowedPlugins) =
      [⟨"Tags", .ok (.scanner .idle)⟩] := by
    rfl
  have met : unmet (some ["tags", "FILES", "Tags"]) shadowedPlugins = [] := by decide +kernel
  have notMet : ("zz" : Text) ∈ unmet (some ["zz", "tags", "Aa", "aa"]) shadowedPlugins := by
    decide +kernel
  constructor
  · refine (discover_selects _ _ loads ?_).1 met
    rw [standing₁]
    simp [Plugin.ofScanner]
  · obtain ⟨names, ends, _, _, listed⟩ := (discover_selects (some ["zz", "tags", "Aa", "aa"])
      shadowedPlugins loads (by rw [standing₂]; simp)).2 (List.ne_nil_of_mem notMet)
    exact ⟨names, ends, (listed _).mpr notMet⟩

/-! ## Plugins that are not used -/

/-- A plugin that can be loaded and is not used may as well not be there. -/
theorem usePlugins_remove {front : List Plugin} (back : List Plugin)
    (idle : asksFor request plugin.key = false ∨ plugin.key ∈ taken ∨
      plugin.key ∈ front.map Plugin.key) {offer : Offer} (loads : plugin.loaded = .ok offer) :
    usePlugins request taken (front ++ plugin :: back) =
      usePlugins request taken (front ++ back) := by
  induction front generalizing taken with
  | nil =>
      apply usePlugins_of_idle loads
      simpa using idle
  | cons other front ih =>
      rw [List.map_cons, List.mem_cons] at idle
      rw [List.cons_append, List.cons_append]
      cases loads' : other.loaded with
      | error reason => rw [usePlugins_of_error loads', usePlugins_of_error loads']
      | ok offer' =>
          by_cases idle' : asksFor request other.key = false ∨ other.key ∈ taken
          · -- A later plugin of the same name is not used either.
            have stays : asksFor request plugin.key = false ∨ plugin.key ∈ taken ∨
                plugin.key ∈ front.map Plugin.key := by
              rcases idle with notAsked | isTaken | same | later
              · exact .inl notAsked
              · exact .inr (.inl isTaken)
              · rw [same]
                exact idle'.imp_right .inl
              · exact .inr (.inr later)
            rw [usePlugins_of_idle loads' idle', usePlugins_of_idle loads' idle', ih stays]
          · rw [not_or, Bool.not_eq_false] at idle'
            obtain ⟨asked, free⟩ := idle'
            have stays : asksFor request plugin.key = false ∨ plugin.key ∈ other.key :: taken ∨
                plugin.key ∈ front.map Plugin.key := by
              rw [List.mem_cons]
              tauto
            cases offer' with
            | unusable =>
                rw [usePlugins_of_unusable asked free loads',
                  usePlugins_of_unusable asked free loads']
            | scanner scanner =>
                rw [usePlugins_of_scanner asked free loads',
                  usePlugins_of_scanner asked free loads', ih stays]

/-- A plugin that cannot be loaded ends the discovery, unless it has ended before. -/
theorem usePlugins_of_failure (front back : List Plugin) {reason : Text}
    (fails : plugin.loaded = .error reason) :
    usePlugins request taken (front ++ plugin :: back) = .error (.notLoaded plugin.name reason) ∨
      ∃ error, ∀ others, usePlugins request taken (front ++ others) = .error error := by
  induction front generalizing taken with
  | nil => exact .inl (usePlugins_of_error fails)
  | cons other front ih =>
      simp only [List.cons_append]
      cases loads' : other.loaded with
      | error reason => exact .inr ⟨_, fun _ => usePlugins_of_error loads'⟩
      | ok offer' =>
          by_cases idle' : asksFor request other.key = false ∨ other.key ∈ taken
          · simp only [usePlugins_of_idle loads' idle']
            exact ih
          · rw [not_or, Bool.not_eq_false] at idle'
            obtain ⟨asked, free⟩ := idle'
            cases offer' with
            | unusable => exact .inr ⟨_, fun _ => usePlugins_of_unusable asked free loads'⟩
            | scanner scanner =>
                simp only [usePlugins_of_scanner asked free loads']
                rcases @ih (other.key :: taken) with ends | ⟨error, ended⟩
                · rw [ends]
                  exact .inl rfl
                · exact .inr ⟨error, fun others => by rw [ended]; rfl⟩

/-- A plugin that is not asked for, or whose name something in front of it has, has no influence on the
outcome if it can be loaded.  If it cannot be loaded, that is the outcome, unless discovery has ended
before. -/
theorem discover_remove (enabled : Option (List Text)) (front back : List Plugin) (plugin : Plugin)
    (idle : asksFor (requestOf enabled) plugin.key = false ∨ plugin.key ∈ knownNames front) :
    (∀ offer, plugin.loaded = .ok offer →
      discover enabled (front ++ plugin :: back) = discover enabled (front ++ back)) ∧
    ∀ reason, plugin.loaded = .error reason →
      discover enabled (front ++ plugin :: back) = .error (.notLoaded plugin.name reason) ∨
        ∃ error, ∀ others, discover enabled (front ++ others) = .error error := by
  have lined (others : List Plugin) : lineup (front ++ others) = lineup front ++ others :=
    (List.append_assoc ..).symm
  simp only [discover_eq, lined]
  constructor
  · intro offer loads
    rw [usePlugins_remove back (idle.imp_right .inr) loads]
  · intro reason fails
    rcases @usePlugins_of_failure (requestOf enabled) [] plugin (lineup front) back reason fails
      with ends | ⟨error, ended⟩
    · rw [ends]
      exact .inl rfl
    · exact .inr ⟨error, fun others => by rw [ended]; rfl⟩

theorem discover_remove_unasked :
    asksFor (requestOf (some ["Helpers"])) (Plugin.mk "Mine" (.ok .unusable)).key = false ∧
    discover (some ["Helpers"]) [⟨"Mine", .ok .unusable⟩] = discover (some ["Helpers"]) [] := by
  have notAsked : asksFor (requestOf (some ["Helpers"])) (Plugin.mk "Mine" (.ok .unusable)).key =
      false := by
    decide +kernel
  exact ⟨notAsked, (discover_remove (some ["Helpers"]) [] [] _ (.inl notAsked)).1 .unusable rfl⟩

end Scan
end ClassHarvest
