import ContextQuery.Config
import ContextQuery.Proofs.PrefixMap
import ContextQuery.Proofs.Text.Folding
import ContextQuery.Proofs.Toml.Written

/-!
# Configurations read back

A configuration that files make together is written as the text of a file. Read back, that one
file makes the same settings and the same prefixes, whatever characters their names and their
identifiers have.

## Main definitions

* `Config.Settled`: what holds of every configuration that files make together.
* `Config.asFile`: the file that says what a configuration says.

## Main results

* `Config.settled_of_merge`: files make settled configurations.
* `Config.parse?_toToml`: what is written is a file, and says what the configuration says.
* `Config.merge_asFile`: such a file makes the configuration again.
* `Config.reread_toToml`: the configuration of files comes back from its text.
-/

namespace ContextQuery.Config

open Toml (Entries Scalar Value)

/-! ## Configurations that files make -/

/-- The number that is chosen fits a word. -/
def Choices.Countable (c : Choices) : Prop :=
  ∀ depth ∈ c.maxDepth, depth < Word.count64

theorem count?_lt {value : Value} {n : Nat} (h : count? value = some n) : n < Word.count64 := by
  unfold count? at h
  split at h
  · obtain ⟨bounds, eq⟩ := Option.ite_none_right_eq_some.1 h
    obtain rfl := Option.some.inj eq
    simp only [Bool.and_eq_true, decide_eq_true_eq] at bounds
    omega
  · cases h

theorem Choices.countable_add? {c c' : Choices} {key : String} {value : Value}
    (h : c.Countable) (added : c.add? key value = some c') : c'.Countable := by
  have fits : ∀ n ∈ count? value, n < Word.count64 := fun n read => count?_lt read
  unfold Choices.add? at added
  unfold Countable at h ⊢
  grind [Option.map_eq_some_iff]

theorem Choices.countable_addAll? {entries : Entries} {c c' : Choices} (h : c.Countable)
    (added : c.addAll? entries = some c') : c'.Countable := by
  induction entries generalizing c with
  | nil => cases added; exact h
  | cons entry entries ih =>
    obtain ⟨next, first, others⟩ := Option.bind_eq_some_iff.1 added
    exact ih (countable_add? h first) others

theorem Choices.countable_ofValue? {value : Value} {c : Choices}
    (read : ofValue? value = some c) : c.Countable := by
  have start : Countable {} := by simp [Countable]
  unfold ofValue? at read
  split at read
  · exact countable_addAll? start read
  · obtain ⟨entries, -, added⟩ := Option.bind_eq_some_iff.1 read
    exact countable_addAll? start added

/-- What a file chooses can be written. -/
def File.Countable (f : File) : Prop :=
  ∀ c ∈ f.choices, c.Countable

theorem File.countable_add? {f f' : File} {key : String} {value : Value} (h : f.Countable)
    (added : f.add? key value = some f') : f'.Countable := by
  have fits : ∀ c ∈ Choices.ofValue? value, c.Countable := fun c => Choices.countable_ofValue?
  unfold File.add? at added
  unfold Countable at h ⊢
  grind [Option.map_eq_some_iff]

theorem File.countable_addAll? {entries : Entries} {f f' : File} (h : f.Countable)
    (added : f.addAll? entries = some f') : f'.Countable := by
  induction entries generalizing f with
  | nil => cases added; exact h
  | cons entry entries ih =>
    obtain ⟨next, first, others⟩ := Option.bind_eq_some_iff.1 added
    exact ih (countable_add? h first) others

theorem File.countable_parse? [Toml.Library] {text : String} {f : File} (read : parse? text = some f) :
    f.Countable := by
  obtain ⟨entries, -, added⟩ := Option.bind_eq_some_iff.1 read
  exact countable_addAll? (by simp [Countable]) added

theorem countable_of_read [Toml.Library] {texts : List (Path × String)} {sources : List Source}
    (read : texts.mapM (fun text => (File.parse? text.2).map (⟨text.1, ·⟩)) = some sources) :
    ∀ source ∈ sources, source.file.Countable := by
  induction texts generalizing sources with
  | nil =>
    cases read
    simp
  | cons text texts ih =>
    simp only [List.mapM_cons, Option.bind_eq_bind, Option.bind_eq_some_iff,
      Option.map_eq_some_iff] at read
    obtain ⟨_, ⟨file, first, rfl⟩, others, later, eq⟩ := read
    obtain rfl := Option.some.inj eq
    exact List.forall_mem_cons.2 ⟨File.countable_parse? first, ih later⟩

theorem maxDepth_apply {source : Source} {s s' : Settings} (file : source.file.Countable)
    (h : s.maxDepth < Word.count64) (applied : source.apply s = .ok s') :
    s'.maxDepth < Word.count64 := by
  unfold Source.apply at applied
  split at applied
  · cases applied
    exact h
  · rename_i c chosen
    split at applied
    · cases applied
    · cases applied
      change c.maxDepth.getD s.maxDepth < Word.count64
      cases depth : c.maxDepth with
      | none => exact h
      | some n => exact file c chosen n depth

theorem maxDepth_mergeSettings {sources : List Source} {s : Settings}
    (files : ∀ source ∈ sources, source.file.Countable) (merged : mergeSettings sources = .ok s) :
    s.maxDepth < Word.count64 := by
  induction sources generalizing s with
  | nil => cases merged; decide
  | cons source sources ih =>
    obtain ⟨first, others⟩ := List.forall_mem_cons.1 files
    unfold mergeSettings at merged
    cases farther : mergeSettings sources with
    | error e => simp [farther, bind, Except.bind] at merged
    | ok s₀ =>
      simp only [farther, bind, Except.bind] at merged
      exact maxDepth_apply first (ih others farther) merged

/-- The names are in lower case. -/
def Folded (map : PrefixMap) : Prop :=
  ∀ e ∈ map.entries, Text.lowerCase e.1 = e.1

theorem folded_insertIfNew {map : PrefixMap} (h : Folded map) (name uri : String) :
    Folded (map.insertIfNew (Text.lowerCase name) uri) := by
  unfold PrefixMap.insertIfNew
  split
  · exact h
  · intro e mem
    rcases PrefixMap.fst_mem_insertEntry mem with same | mem
    · rw [same, Text.lowerCase_lowerCase]
    · exact h e mem

theorem folded_addPrefixes {map : PrefixMap} (h : Folded map) (file : File) :
    Folded (addPrefixes map file) := by
  unfold addPrefixes
  induction (file.prefixes.map PrefixMap.entries).getD [] generalizing map with
  | nil => exact h
  | cons entry entries ih => exact ih (folded_insertIfNew h entry.1 entry.2)

theorem folded_mergePrefixes (sources : List Source) : Folded (mergePrefixes sources) := by
  have start : Folded .empty := fun _ mem => nomatch mem
  unfold mergePrefixes
  generalize PrefixMap.empty = map at start ⊢
  induction sources generalizing map with
  | nil => exact start
  | cons source sources ih => exact ih _ (folded_addPrefixes start source.file)

/-- What holds of every configuration that files make together. -/
structure Settled (c : Config) : Prop where
  maxDepth : c.settings.maxDepth < Word.count64
  folded : Folded c.prefixes

theorem settled_of_merge {sources : List Source} {c : Config}
    (files : ∀ source ∈ sources, source.file.Countable) (merged : merge sources = .ok c) :
    c.Settled := by
  unfold merge at merged
  cases settings : mergeSettings sources with
  | error e => simp [settings, bind, Except.bind] at merged
  | ok s =>
    simp only [settings, bind, Except.bind, pure, Except.pure, Except.ok.injEq] at merged
    subst merged
    exact ⟨maxDepth_mergeSettings files settings, folded_mergePrefixes sources⟩

/-! ## What is read -/

/-- The choices that make the settings. -/
def choicesOf (s : Settings) : Choices :=
  { version := some s.version.number
    refuseEmptyTerm := some s.refuseEmptyTerm
    refuseQuotedName := some s.refuseQuotedName
    refuseDuplicatePrefix := some s.refuseDuplicatePrefix
    combineResultSets := some s.combineResultSets
    maxDepth := some s.maxDepth }

/-- The file that says what the configuration says. -/
def asFile (c : Config) : File :=
  { choices := some (choicesOf c.settings), prefixes := some c.prefixes }

theorem count?_natCast {n : Nat} (fits : n < Word.count64) : count? (.integer n) = some n := by
  have bounds : (0 : Int) ≤ n ∧ (n : Int) < Word.count64 := by omega
  rw [count?, if_pos (by simpa only [Bool.and_eq_true, decide_eq_true_eq] using bounds),
    Int.toNat_natCast]

theorem Choices.ofValue?_table (origin : Toml.Origin) (entries : Entries) :
    ofValue? (.table origin entries) = addAll? {} entries := rfl

theorem ofValue?_settingPairs {s : Settings} (fits : s.maxDepth < Word.count64) :
    Choices.ofValue? (.table .header (Toml.readPairs (settingPairs s))) =
      some (choicesOf s) := by
  have version (c : Choices) (v : String) :
      c.add? "version" (.string v) = some { c with version := some v } := by
    simp [Choices.add?, string?]
  have emptyTerm (c : Choices) (v : Bool) :
      c.add? "error_on_empty_term" (.boolean v) = some { c with refuseEmptyTerm := some v } := by
    simp [Choices.add?, boolean?]
  have quotedName (c : Choices) (v : Bool) :
      c.add? "error_on_quoted_identifier" (.boolean v) =
        some { c with refuseQuotedName := some v } := by
    simp [Choices.add?, boolean?]
  have duplicatePrefix (c : Choices) (v : Bool) :
      c.add? "error_on_duplicate_prefix" (.boolean v) =
        some { c with refuseDuplicatePrefix := some v } := by
    simp [Choices.add?, boolean?]
  have resultSets (c : Choices) (v : Bool) :
      c.add? "full_result_set_name_check" (.boolean v) =
        some { c with combineResultSets := some v } := by
    simp [Choices.add?, boolean?]
  have depth (c : Choices) :
      c.add? "max_depth" (.integer s.maxDepth) = some { c with maxDepth := some s.maxDepth } := by
    simp [Choices.add?, count?_natCast fits]
  rw [Choices.ofValue?_table]
  simp only [Toml.readPairs, settingPairs, Scalar.value, List.map_cons, List.map_nil,
    Choices.addAll?, version, emptyTerm, quotedName, duplicatePrefix, resultSets, depth,
    Option.bind_some]
  rfl

theorem prefixes?_prefixPairs (map : PrefixMap) :
    prefixes? (.table .header (Toml.readPairs (prefixPairs map))) = some map := by
  have read (entries : List (String × String)) :
      (entries.map fun entry => (entry.1, Value.string entry.2)).mapM (fun entry =>
        (string? entry.2).map fun uri => (entry.1, uri)) = some entries := by
    induction entries with
    | nil => rfl
    | cons entry entries ih =>
      rw [List.map_cons, List.mapM_cons, ih]
      rfl
  have table : Toml.readPairs (prefixPairs map) =
      map.entries.map fun entry => (entry.1, Value.string entry.2) := by
    simp [Toml.readPairs, prefixPairs, Scalar.value]
  rw [prefixes?, entries?, table, Option.bind_some, read, Option.map_some, PrefixMap.ofList_eq,
    PrefixMap.empty_insertAll_entries]

theorem wellFormed_tables {c : Config} (fits : c.settings.maxDepth < Word.count64) :
    c.tables.WellFormed where
  names := by simp [tables]
  keys := by
    have settings : ((settingPairs c.settings).map Prod.fst).Nodup := by simp [settingPairs]
    have prefixes : ((prefixPairs c.prefixes).map Prod.fst).Nodup := by
      simpa [prefixPairs, Function.comp_def] using c.prefixes.nodup_names
    simpa [tables] using ⟨settings, prefixes⟩
  fits := by
    have settings : ∀ pair ∈ settingPairs c.settings, pair.2.Fits := by
      simpa only [settingPairs, List.forall_mem_cons, Scalar.Fits, List.not_mem_nil,
        IsEmpty.forall_iff, implies_true, true_and, and_true] using fits
    have prefixes : ∀ pair ∈ prefixPairs c.prefixes, pair.2.Fits := by
      intro pair mem
      obtain ⟨entry, -, rfl⟩ := List.mem_map.1 mem
      trivial
    simpa only [tables, List.forall_mem_cons, List.not_mem_nil, IsEmpty.forall_iff, implies_true,
      and_true] using ⟨settings, prefixes⟩

/-- What is written is a file, and says what the configuration says. -/
theorem parse?_toToml [Toml.Library] (faithful : Toml.Library.Faithful) {c : Config}
    (fits : c.settings.maxDepth < Word.count64) : File.parse? c.toToml = some c.asFile := by
  rw [File.parse?, toToml, faithful c.tables (wellFormed_tables fits), Option.bind_some]
  simp [tables, Toml.Tables.entries, File.addAll?, File.add?, ofValue?_settingPairs fits,
    prefixes?_prefixPairs, asFile]

/-! ## What the file makes -/

theorem addPrefixes_empty {file : File} {map : PrefixMap} (binds : file.prefixes = some map)
    (folded : Folded map) : addPrefixes .empty file = map := by
  have start : PrefixMap.Ordered (PrefixMap.empty.entries ++ map.entries) := map.ordered
  rw [addPrefixes, binds, Option.map_some, Option.getD_some]
  calc map.entries.foldl (fun map entry => map.insertIfNew (Text.lowerCase entry.1) entry.2) .empty
      = map.entries.foldl (fun map entry => map.insertIfNew entry.1 entry.2) .empty :=
        List.foldl_ext _ _ _ fun _ entry mem => by rw [folded entry mem]
    _ = PrefixMap.empty.insertAll map.entries := PrefixMap.foldl_insertIfNew start
    _ = map := PrefixMap.empty_insertAll_entries map

theorem apply_asFile (c : Config) (path : Path) (s : Settings) :
    Source.apply ⟨path, c.asFile⟩ s = .ok c.settings := by
  have version : Version.parse c.settings.version.number = .ok c.settings.version := by
    cases c.settings.version <;> decide
  simp [Source.apply, asFile, choicesOf, version]

/-- The file of a settled configuration makes the configuration again. -/
theorem merge_asFile {c : Config} (settled : c.Settled) (path : Path) :
    merge [⟨path, c.asFile⟩] = .ok { c with files := [path], directory := path.parent? } := by
  have prefixes : mergePrefixes [⟨path, c.asFile⟩] = c.prefixes :=
    addPrefixes_empty rfl settled.folded
  simp [merge, mergeSettings, apply_asFile, prefixes, bind, Except.bind, pure, Except.pure]

/-- The configuration that files make together comes back from its text, if the library reads what
it writes: the text is a file, and that file alone makes the same settings, the same prefixes and so
the same dialect. -/
theorem reread_toToml [Toml.Library] (faithful : Toml.Library.Faithful)
    {texts : List (Path × String)} {sources : List Source} {c : Config}
    (read : texts.mapM (fun text => (File.parse? text.2).map (⟨text.1, ·⟩)) = some sources)
    (merged : merge sources = .ok c) :
    ∃ file, File.parse? c.toToml = some file ∧ ∀ path, ∃ again, merge [⟨path, file⟩] = .ok again ∧
      again.settings = c.settings ∧ again.prefixes = c.prefixes ∧ again.dialect = c.dialect := by
  have settled := settled_of_merge (countable_of_read read) merged
  exact ⟨c.asFile, parse?_toToml faithful settled.maxDepth, fun path =>
    ⟨_, merge_asFile settled path, rfl, rfl, rfl⟩⟩

theorem reread_toToml_quotes :
    let texts : List (Path × String) :=
      [(⟨"/a/.cql.toml"⟩,
          "[prefixes]\n\"É \\\"b\\n\" = \"x\\\\y\"\n[parser]\nmax_depth = 70000\n"),
       (⟨"/.cql.toml"⟩, "parser.version = \" 1.1 \"\n[prefixes]\nDC = \"\"\n")]
    let sources : List Source :=
      [⟨⟨"/a/.cql.toml"⟩,
          ⟨none, some { maxDepth := some 70000 }, some (.ofList [("É \"b\n", "x\\y")])⟩⟩,
       ⟨⟨"/.cql.toml"⟩,
          ⟨none, some { version := some " 1.1 " }, some (.ofList [("DC", "")])⟩⟩]
    let c : Config :=
      { settings := { version := .v11, maxDepth := 70000 }
        prefixes := .ofList [("dc", ""), ("é \"b\n", "x\\y")]
        files := [⟨"/a/.cql.toml"⟩, ⟨"/.cql.toml"⟩]
        directory := some ⟨"/a"⟩ }
    (texts.mapM (fun text => (File.parse? text.2).map (⟨text.1, ·⟩)) = some sources ∧
      merge sources = .ok c) ∧
    ∃ file, File.parse? c.toToml = some file ∧ ∀ path, ∃ again, merge [⟨path, file⟩] = .ok again ∧
      again.settings = c.settings ∧ again.prefixes = c.prefixes ∧ again.dialect = c.dialect := by
  refine ⟨⟨?read, ?merged⟩, reread_toToml Toml.Document.faithful ?read ?merged⟩
  case read => decide +kernel
  case merged => decide +kernel

end ContextQuery.Config
