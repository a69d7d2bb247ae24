import ContextQuery.Config.Error
import ContextQuery.Config.File
import ContextQuery.ContextSet
import ContextQuery.Text.LowerCase

/-!
# Configurations

What the configuration files say together. Files are listed from the nearest to the farthest, and a
nearer file has precedence over a farther one: each setting is the one of the nearest file that
makes it, and each prefix is bound by the nearest file that binds it. Prefix names are taken in
lower case; if a file has two names that differ only in case, the first one in order counts.

## Main definitions

* `Config.merge`: the configuration that files make together.
* `Config.warnings`: what is allowed but hardly meant.
* `Config.toToml`: the configuration as the text of a file.
-/

namespace ContextQuery

/-- A configuration. -/
structure Config where
  settings : Settings := {}
  prefixes : PrefixMap := .empty
  /-- The files it was made from, the nearest first. -/
  files : List Path := []
  /-- The directory of the nearest file. -/
  directory : Option Path := none
  deriving DecidableEq

namespace Config

/-- The dialect that a configuration describes. -/
def dialect (c : Config) : Dialect :=
  { c.settings with defaults := c.prefixes }

/-! ## Merging -/

/-- A file with its path. -/
structure Source where
  path : Path
  file : File
  deriving DecidableEq

/-- The settings with the choices of a file put over them. -/
def Source.apply (source : Source) (s : Settings) : Except Error Settings :=
  match source.file.choices with
  | none => .ok s
  | some c =>
    match (c.version.map Version.parse).getD (.ok s.version) with
    | .error reason => .error (.unknownVersion source.path reason)
    | .ok version =>
      .ok {
        version := version
        refuseEmptyTerm := c.refuseEmptyTerm.getD s.refuseEmptyTerm
        refuseQuotedName := c.refuseQuotedName.getD s.refuseQuotedName
        refuseDuplicatePrefix := c.refuseDuplicatePrefix.getD s.refuseDuplicatePrefix
        combineResultSets := c.combineResultSets.getD s.combineResultSets
        maxDepth := c.maxDepth.getD s.maxDepth }

/-- The settings of files: those of farther files first, with those of nearer ones put over them. -/
def mergeSettings : List Source → Except Error Settings
  | [] => .ok {}
  | source :: rest => do
    let farther ← mergeSettings rest
    source.apply farther

/-- Adds the bindings of a file for names that are not bound yet. -/
def addPrefixes (map : PrefixMap) (file : File) : PrefixMap :=
  ((file.prefixes.map PrefixMap.entries).getD []).foldl
    (fun map entry => map.insertIfNew (Text.lowerCase entry.1) entry.2) map

/-- The prefixes of files. -/
def mergePrefixes (sources : List Source) : PrefixMap :=
  sources.foldl (fun map source => addPrefixes map source.file) .empty

/-- The configuration that files make together; the nearest file comes first. -/
def merge (sources : List Source) : Except Error Config := do
  let settings ← mergeSettings sources
  return {
    settings := settings
    prefixes := mergePrefixes sources
    files := sources.map (·.path)
    directory := sources.head?.bind (·.path.parent?) }

/-! ## Warnings -/

/-- What is allowed but hardly meant. -/
inductive Warning where
  /-- No query can be read. -/
  | noDepth
  /-- A reserved name is bound, which has no effect. -/
  | reservedName (name : String)
  /-- A name is bound to nothing but blanks. -/
  | emptyIdentifier (name : String)
  deriving DecidableEq

namespace Warning

/-- The wording of a warning. -/
def message : Warning → String
  | noDepth => "parser.max_depth is 0; every query will be rejected"
  | reservedName name => "prefix '" ++ name ++ "' is reserved; the default entry is ignored"
  | emptyIdentifier name => "prefix '" ++ name ++ "' has an empty identifier"

/-- What to do about a warning. -/
def hint : Warning → String
  | noDepth => "Hint: remove parser.max_depth to use the default"
  | reservedName _ => "Hint: 'cql' and 'srw' always resolve to their standard context sets"
  | emptyIdentifier _ => "Hint: give each [prefixes] entry a context set identifier"

end Warning

/-- The warnings about a binding. -/
def bindingWarnings (name uri : String) : List Warning :=
  (if ContextSet.isReserved name then [.reservedName name] else []) ++
    (if (Text.trim uri).isEmpty then [.emptyIdentifier name] else [])

/-- The warnings about a configuration. -/
def warnings (c : Config) : List Warning :=
  (if c.settings.maxDepth = 0 then [.noDepth] else []) ++
    c.prefixes.entries.flatMap fun entry => bindingWarnings entry.1 entry.2

/-! ## Writing -/

/-- The settings as a file gives them. -/
def settingPairs (s : Settings) : List (String × Toml.Scalar) :=
  [("version", .string s.version.number),
   ("error_on_empty_term", .boolean s.refuseEmptyTerm),
   ("error_on_quoted_identifier", .boolean s.refuseQuotedName),
   ("error_on_duplicate_prefix", .boolean s.refuseDuplicatePrefix),
   ("full_result_set_name_check", .boolean s.combineResultSets),
   ("max_depth", .number s.maxDepth)]

/-- The prefixes as a file gives them. -/
def prefixPairs (map : PrefixMap) : List (String × Toml.Scalar) :=
  map.entries.map fun entry => (entry.1, .string entry.2)

/-- The tables of a file that says what the configuration says. -/
def tables (c : Config) : Toml.Tables :=
  [("parser", settingPairs c.settings), ("prefixes", prefixPairs c.prefixes)]

/-- The configuration as the text of a file. -/
def toToml [Toml.Library] (c : Config) : String :=
  Toml.Library.write c.tables

end Config

end ContextQuery
