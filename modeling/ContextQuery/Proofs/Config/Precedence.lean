import ContextQuery.Config
import ContextQuery.Proofs.PrefixMap

/-!
# Which file decides

Settings are put together from the farthest file on, nearer choices replacing farther ones; prefixes
from the nearest file on, bindings that are there already staying. Either way the nearest file that
says something decides, for each setting and each name by itself. A file farther away than all
others therefore adds only what none of them says.

## Main definitions

* `Config.Setting`: where a file chooses a setting, and where it ends up.
* `Config.nearest?`: the choice of the nearest file that makes one.
* `Config.Source.Binds`: what a file alone binds a name to.

## Main results

* `Config.mergeSettings_eq_ok`, `Config.mergeSettings_eq_error`: settings, and why there are none.
* `Config.get?_mergePrefixes_iff`: prefixes.
* `Config.merge_precedence`: whole configurations.
-/

namespace ContextQuery.Config

/-! ## Choices -/

/-- The settings: where a file chooses each of them, and where it stands in the end. A version is
chosen by its number, which may be unknown. -/
inductive Setting : {α : Type} → (Choices → Option α) → (Settings → α) → Prop where
  | version : Setting (fun c => c.version.map Version.parse) (fun s => .ok s.version)
  | refuseEmptyTerm : Setting Choices.refuseEmptyTerm Settings.refuseEmptyTerm
  | refuseQuotedName : Setting Choices.refuseQuotedName Settings.refuseQuotedName
  | refuseDuplicatePrefix : Setting Choices.refuseDuplicatePrefix Settings.refuseDuplicatePrefix
  | combineResultSets : Setting Choices.combineResultSets Settings.combineResultSets
  | maxDepth : Setting Choices.maxDepth Settings.maxDepth

/-- What a file chooses. -/
def Source.chosen? {α : Type} (source : Source) (choice : Choices → Option α) : Option α :=
  source.file.choices.bind choice

/-- What the nearest file chooses that chooses something. -/
def nearest? {α : Type} (sources : List Source) (choice : Choices → Option α) : Option α :=
  sources.findSome? (·.chosen? choice)

/-- The file names a version that is not known. -/
def Source.Rejects (source : Source) (reason : String) : Prop :=
  ∃ text, source.chosen? Choices.version = some text ∧ Version.parse text = .error reason

variable {α : Type} {choice : Choices → Option α} {value : Settings → α} {source : Source}
  {sources : List Source} {s s' : Settings} {e : Error}

theorem nearest?_cons (source : Source) (sources : List Source) (choice : Choices → Option α) :
    nearest? (source :: sources) choice = (source.chosen? choice).or (nearest? sources choice) := by
  rw [nearest?, List.findSome?_cons, nearest?]
  cases source.chosen? choice <;> rfl

theorem nearest?_append (sources others : List Source) (choice : Choices → Option α) :
    nearest? (sources ++ others) choice = (nearest? sources choice).or (nearest? others choice) :=
  List.findSome?_append

/-! ## Settings -/

/-- A file puts its choices over the settings, each over the setting of its own. -/
theorem Source.apply_eq_ok (setting : Setting choice value) (applied : source.apply s = .ok s') :
    value s' = (source.chosen? choice).getD (value s) := by
  unfold Source.apply at applied
  cases chosen : source.file.choices with
  | none =>
    simp only [chosen] at applied
    cases applied
    simp [chosen?, chosen]
  | some c =>
    simp only [chosen] at applied
    split at applied
    · cases applied
    · rename_i version known
      cases applied
      cases setting with
      | version =>
        rw [chosen?, chosen, Option.bind_some, known]
      | refuseEmptyTerm | refuseQuotedName | refuseDuplicatePrefix | combineResultSets
      | maxDepth => simp [chosen?, chosen]

theorem Source.apply_eq_error : source.apply s = .error e ↔
    ∃ reason, source.Rejects reason ∧ e = .unknownVersion source.path reason := by
  unfold Source.apply Source.Rejects chosen?
  cases source.file.choices with
  | none => simp
  | some c =>
    cases version : c.version with
    | none => simp [version]
    | some text => cases known : Version.parse text <;> simp [version, known, eq_comm (b := e)]

theorem Source.exists_apply :
    (∃ s', source.apply s = .ok s') ↔ ∀ reason, ¬source.Rejects reason := by
  constructor
  · rintro ⟨s', applied⟩ reason rejects
    cases applied.symm.trans (Source.apply_eq_error.2 ⟨reason, rejects, rfl⟩)
  · intro accepted
    cases applied : source.apply s with
    | ok s' => exact ⟨s', rfl⟩
    | error e =>
      obtain ⟨reason, rejects, -⟩ := Source.apply_eq_error.1 applied
      exact absurd rejects (accepted reason)

/-- Each setting is the choice of the nearest file that makes one. -/
theorem mergeSettings_eq_ok (setting : Setting choice value)
    (merged : mergeSettings sources = .ok s) :
    value s = (nearest? sources choice).getD (value {}) := by
  induction sources generalizing s with
  | nil =>
    cases merged
    rfl
  | cons source sources ih =>
    rw [mergeSettings] at merged
    cases farther : mergeSettings sources with
    | error => simp [farther, bind, Except.bind] at merged
    | ok s₀ =>
      simp only [farther, bind, Except.bind] at merged
      rw [Source.apply_eq_ok setting merged, ih farther, nearest?_cons, Option.getD_or]

/-- Files make settings unless one of them names an unknown version. -/
theorem exists_mergeSettings :
    (∃ s, mergeSettings sources = .ok s) ↔
      ∀ source ∈ sources, ∀ reason, ¬source.Rejects reason := by
  induction sources with
  | nil => simp [mergeSettings]
  | cons source sources ih =>
    rw [List.forall_mem_cons, ← ih, mergeSettings]
    cases farther : mergeSettings sources with
    | error => simp [bind, Except.bind]
    | ok s₀ => simp [bind, Except.bind, Source.exists_apply]

/-- The farthest file that names an unknown version is to blame if there are no settings. -/
theorem mergeSettings_eq_error : mergeSettings sources = .error e ↔
    ∃ nearer source farther reason, sources = nearer ++ source :: farther ∧
      source.Rejects reason ∧ (∀ s ∈ farther, ∀ reason, ¬s.Rejects reason) ∧
      e = .unknownVersion source.path reason := by
  induction sources with
  | nil => simp [mergeSettings]
  | cons source sources ih =>
    rw [mergeSettings]
    constructor
    · intro failed
      cases farther : mergeSettings sources with
      | error e' =>
        obtain rfl : e' = e := by simpa [farther, bind, Except.bind] using failed
        obtain ⟨nearer, bad, beyond, reason, rfl, blame⟩ := ih.1 farther
        exact ⟨source :: nearer, bad, beyond, reason, rfl, blame⟩
      | ok s₀ =>
        have applied : source.apply s₀ = .error e := by
          simpa [farther, bind, Except.bind] using failed
        obtain ⟨reason, rejects, eq⟩ := Source.apply_eq_error.1 applied
        exact ⟨[], source, sources, reason, rfl, rejects, exists_mergeSettings.1 ⟨s₀, farther⟩, eq⟩
    · rintro ⟨nearer, bad, beyond, reason, split, rejects, accepted, eq⟩
      cases nearer with
      | nil =>
        obtain ⟨rfl, rfl⟩ := List.cons.inj split
        obtain ⟨s₀, farther⟩ := exists_mergeSettings.2 accepted
        have applied : source.apply s₀ = .error e := Source.apply_eq_error.2 ⟨reason, rejects, eq⟩
        simp [farther, bind, Except.bind, applied]
      | cons _ nearer =>
        rw [List.cons_append, List.cons.injEq] at split
        obtain ⟨rfl, rfl⟩ := split
        have farther := ih.2 ⟨nearer, bad, beyond, reason, rfl, rejects, accepted, eq⟩
        simp [farther, bind, Except.bind]

/-! ## Prefixes -/

/-- The bindings that a file writes, in the order of their keys. -/
def Source.entries (source : Source) : List (String × String) :=
  (source.file.prefixes.map PrefixMap.entries).getD []

/-- A file alone binds a name by the first key, in order, that is the name in lower case. -/
def Source.Binds (source : Source) (name uri : String) : Prop :=
  ∃ key, (key, uri) ∈ source.entries ∧ Text.lowerCase key = name ∧
    ∀ entry ∈ source.entries, Text.lowerCase entry.1 = name → key ≤ entry.1

/-- What a file alone binds a name to. -/
def Source.binding? (source : Source) (name : String) : Option String :=
  (source.entries.find? fun entry => Text.lowerCase entry.1 = name).map (·.2)

theorem Source.ordered_entries (source : Source) : PrefixMap.Ordered source.entries := by
  unfold entries
  cases source.file.prefixes with
  | none => exact .nil
  | some map => exact map.ordered

/-- In order, the first key that folds to the name is the least one. -/
theorem Source.binding?_eq_some {name uri : String} :
    source.binding? name = some uri ↔ source.Binds name uri := by
  have ordered := source.ordered_entries
  unfold binding? Binds
  simp only [Option.map_eq_some_iff, List.find?_eq_some_iff_append, decide_eq_true_eq]
  constructor
  · rintro ⟨⟨key, _⟩, ⟨folds, before, after, split, others⟩, rfl⟩
    refine ⟨key, by simp [split], folds, fun entry mem folds' => ?_⟩
    rw [split, PrefixMap.Ordered, List.pairwise_append, List.pairwise_cons] at ordered
    rw [split, List.mem_append, List.mem_cons] at mem
    rcases mem with mem | rfl | mem
    · simpa [folds'] using others entry mem
    · exact String.le_refl key
    · exact Std.le_of_lt (ordered.2.1.1 entry mem)
  · rintro ⟨key, mem, folds, least⟩
    obtain ⟨before, after, split⟩ := List.append_of_mem mem
    refine ⟨(key, uri), ⟨folds, before, after, split, fun entry mem' => ?_⟩, rfl⟩
    rw [split, PrefixMap.Ordered, List.pairwise_append] at ordered
    have smaller : entry.1 < key := ordered.2.2 entry mem' _ List.mem_cons_self
    have folds' : Text.lowerCase entry.1 ≠ name := fun folds' =>
      String.not_lt.2 (least entry (by simp [split, mem']) folds') smaller
    simpa using folds'

theorem Source.binding?_eq_none {name : String} :
    source.binding? name = none ↔ ∀ entry ∈ source.entries, Text.lowerCase entry.1 ≠ name := by
  simp [binding?]

/-- Bindings are added for names that are not bound yet, the first one of each name. -/
theorem get?_foldl_insertIfNew (map : PrefixMap) (entries : List (String × String))
    (name : String) :
    (entries.foldl (fun map e => map.insertIfNew (Text.lowerCase e.1) e.2) map).get? name =
      (map.get? name).or
        ((entries.find? fun entry => Text.lowerCase entry.1 = name).map (·.2)) := by
  induction entries generalizing map with
  | nil => simp
  | cons entry entries ih =>
    rw [List.foldl_cons, ih, PrefixMap.get?_insertIfNew, List.find?_cons]
    by_cases folds : Text.lowerCase entry.1 = name
    · cases map.get? name <;> simp [folds]
    · simp [folds]

theorem get?_mergePrefixes (sources : List Source) (name : String) :
    (mergePrefixes sources).get? name = sources.findSome? (·.binding? name) := by
  suffices ∀ map : PrefixMap, (sources.foldl (fun map s => addPrefixes map s.file) map).get? name =
      (map.get? name).or (sources.findSome? (·.binding? name)) by
    simpa [mergePrefixes] using this .empty
  induction sources with
  | nil => simp
  | cons source sources ih =>
    intro map
    have added : (addPrefixes map source.file).get? name =
        (map.get? name).or (source.binding? name) :=
      get?_foldl_insertIfNew map source.entries name
    rw [List.foldl_cons, ih, added, List.findSome?_cons, Option.or_assoc]
    cases source.binding? name <;> rfl

/-- A name is bound by the nearest file with a key that is the name in lower case. -/
theorem get?_mergePrefixes_iff {name uri : String} :
    (mergePrefixes sources).get? name = some uri ↔
      ∃ nearer source farther, sources = nearer ++ source :: farther ∧ source.Binds name uri ∧
        ∀ s ∈ nearer, ∀ entry ∈ s.entries, Text.lowerCase entry.1 ≠ name := by
  simp only [get?_mergePrefixes, List.findSome?_eq_some_iff, Source.binding?_eq_some,
    Source.binding?_eq_none]

/-! ## Whole configurations -/

theorem merge_eq_ok {c : Config} (merged : merge sources = .ok c) :
    mergeSettings sources = .ok c.settings ∧ c.prefixes = mergePrefixes sources := by
  unfold merge at merged
  cases settings : mergeSettings sources with
  | error => simp [settings, bind, Except.bind] at merged
  | ok s =>
    simp only [settings, bind, Except.bind, pure, Except.pure] at merged
    cases merged
    exact ⟨rfl, rfl⟩

theorem exists_merge : (∃ c, merge sources = .ok c) ↔
    ∀ source ∈ sources, ∀ reason, ¬source.Rejects reason := by
  rw [← exists_mergeSettings, merge]
  cases mergeSettings sources <;> simp [bind, Except.bind, pure, Except.pure]

theorem merge_eq_error : merge sources = .error e ↔ mergeSettings sources = .error e := by
  unfold merge
  cases mergeSettings sources <;> simp [bind, Except.bind, pure, Except.pure]

theorem merge_fails : (∃ e, merge sources = .error e) ↔
    ∃ source ∈ sources, ∃ reason, source.Rejects reason := by
  have whole : (∃ e, merge sources = .error e) ↔ ¬∃ c, merge sources = .ok c := by
    cases merge sources <;> simp
  rw [whole, exists_merge]
  simp only [Classical.not_forall, Classical.not_not, exists_prop]

/-- A file behind all others takes no blame away from them. -/
theorem merge_append_error {last : Source} (accepted : ∀ reason, ¬last.Rejects reason)
    (failed : merge sources = .error e) : merge (sources ++ [last]) = .error e := by
  obtain ⟨nearer, source, farther, reason, rfl, rejects, others, eq⟩ :=
    mergeSettings_eq_error.1 (merge_eq_error.1 failed)
  have still := List.forall_mem_append.2 ⟨others, List.forall_mem_singleton.2 accepted⟩
  exact merge_eq_error.2 (mergeSettings_eq_error.2
    ⟨nearer, source, farther ++ [last], reason, by simp, rejects, still, eq⟩)

theorem exists_merge_append {last : Source} {c : Config} (accepted : ∀ reason, ¬last.Rejects reason)
    (merged : merge sources = .ok c) : ∃ c', merge (sources ++ [last]) = .ok c' := by
  have others := exists_merge.1 ⟨c, merged⟩
  exact exists_merge.2 (List.forall_mem_append.2 ⟨others, List.forall_mem_singleton.2 accepted⟩)

/-- A file behind all others changes nothing that one of them says. -/
theorem kept_of_append {last : Source} {c c' : Config} (merged : merge sources = .ok c)
    (merged' : merge (sources ++ [last]) = .ok c') :
    (∀ {α : Type} {choice : Choices → Option α} {value : Settings → α}, Setting choice value →
      (nearest? sources choice).isSome → value c'.settings = value c.settings) ∧
    ∀ name uri, c.prefixes.get? name = some uri → c'.prefixes.get? name = some uri := by
  obtain ⟨settings, prefixes⟩ := merge_eq_ok merged
  obtain ⟨settings', prefixes'⟩ := merge_eq_ok merged'
  constructor
  · intro α choice value setting chosen
    obtain ⟨a, nearest⟩ := Option.isSome_iff_exists.1 chosen
    rw [mergeSettings_eq_ok setting settings', mergeSettings_eq_ok setting settings,
      nearest?_append, nearest, Option.some_or]
  · intro name uri bound
    rw [prefixes, get?_mergePrefixes] at bound
    rw [prefixes', get?_mergePrefixes, List.findSome?_append, bound, Option.some_or]

/-- Files fail to make a configuration just if one of them names an unknown version, and the
farthest such file is to blame. Otherwise each setting is the choice of the nearest file that makes
one, or the usual one, and each name is bound by the nearest file with a key that is the name in
lower case, at the first of its keys that is. So a file with no unknown version that is put behind
all others changes nothing that one of them says. -/
theorem merge_precedence (sources : List Source) :
    ((∃ e, merge sources = .error e) ↔ ∃ source ∈ sources, ∃ reason, source.Rejects reason) ∧
    (∀ e, merge sources = .error e →
      ∃ nearer source farther reason, sources = nearer ++ source :: farther ∧
        source.Rejects reason ∧ (∀ s ∈ farther, ∀ reason, ¬s.Rejects reason) ∧
        e = .unknownVersion source.path reason) ∧
    (∀ c, merge sources = .ok c →
      (∀ {α : Type} {choice : Choices → Option α} {value : Settings → α}, Setting choice value →
        value c.settings = (nearest? sources choice).getD (value {})) ∧
      ∀ name uri, c.prefixes.get? name = some uri ↔
        ∃ nearer source farther, sources = nearer ++ source :: farther ∧ source.Binds name uri ∧
          ∀ s ∈ nearer, ∀ entry ∈ s.entries, Text.lowerCase entry.1 ≠ name) ∧
    ∀ last : Source, (∀ reason, ¬last.Rejects reason) →
      (∀ e, merge sources = .error e → merge (sources ++ [last]) = .error e) ∧
      ∀ c, merge sources = .ok c → ∃ c', merge (sources ++ [last]) = .ok c' ∧
        (∀ {α : Type} {choice : Choices → Option α} {value : Settings → α}, Setting choice value →
          (nearest? sources choice).isSome → value c'.settings = value c.settings) ∧
        ∀ name uri, c.prefixes.get? name = some uri → c'.prefixes.get? name = some uri := by
  refine ⟨merge_fails, fun e failed => ?_, fun c merged => ?_, fun last accepted =>
    ⟨fun e => merge_append_error accepted, fun c merged => ?_⟩⟩
  · exact mergeSettings_eq_error.1 (merge_eq_error.1 failed)
  · obtain ⟨settings, prefixes⟩ := merge_eq_ok merged
    refine ⟨fun setting => mergeSettings_eq_ok setting settings, fun name uri => ?_⟩
    rw [prefixes, get?_mergePrefixes_iff]
  · obtain ⟨c', merged'⟩ := exists_merge_append accepted merged
    exact ⟨c', merged', kept_of_append merged merged'⟩

/-- Two keys of the nearest file fold to one name, which the next file binds as well. The file
behind them would bind it again, and would set the depth that they leave open. -/
theorem merge_precedence_folded :
    let nearest : Source := ⟨⟨"/a/.cql.toml"⟩,
      ⟨none, some { refuseEmptyTerm := some true }, some (.ofList [("dc", "u"), ("DC", "v")])⟩⟩
    let next : Source := ⟨⟨"/.cql.toml"⟩,
      ⟨none, some { version := some "1.1", refuseEmptyTerm := some false },
        some (.ofList [("Dc", "w"), ("é", "x")])⟩⟩
    let last : Source := ⟨⟨"/etc/.cql.toml"⟩,
      ⟨none, some { version := some "1.2", maxDepth := some 9 }, some (.ofList [("dc", "y")])⟩⟩
    ∃ c c', merge [nearest, next] = .ok c ∧ merge [nearest, next, last] = .ok c' ∧
      c.settings.version = .v11 ∧ c.settings.refuseEmptyTerm = true ∧
      c.prefixes.get? "dc" = some "v" ∧ c'.settings.version = .v11 ∧
      c'.settings.maxDepth = 9 ∧ c'.prefixes.get? "dc" = some "v" := by
  intro nearest next last
  obtain ⟨-, -, whole, behind⟩ := merge_precedence [nearest, next]
  obtain ⟨c, merged⟩ : ∃ c, merge [nearest, next] = .ok c := by
    refine exists_merge.2 fun source mem reason => ?_
    rintro ⟨text, chosen, unknown⟩
    simp only [List.mem_cons, List.not_mem_nil, or_false] at mem
    rcases mem with rfl | rfl
    · cases chosen
    · cases chosen
      cases unknown
  obtain ⟨settings, bound⟩ := whole c merged
  have accepted : ∀ reason, ¬last.Rejects reason := by
    rintro reason ⟨text, chosen, unknown⟩
    cases chosen
    cases unknown
  obtain ⟨c', merged', kept, keptNames⟩ := (behind last accepted).2 c merged
  have name : c.prefixes.get? "dc" = some "v" := by
    have own : nearest.Binds "dc" "v" := Source.binding?_eq_some.1 (by decide +kernel)
    exact (bound "dc" "v").2
      ⟨[], nearest, [next], rfl, own, fun s mem => absurd mem List.not_mem_nil⟩
  have version : c.settings.version = .v11 := Except.ok.inj (settings .version)
  have version' : c'.settings.version = .v11 :=
    Except.ok.inj ((kept .version rfl).trans (settings .version))
  exact ⟨c, c', merged, merged', version, settings .refuseEmptyTerm, name, version',
    mergeSettings_eq_ok .maxDepth (merge_eq_ok merged').1, keptNames "dc" "v" name⟩

end ContextQuery.Config
