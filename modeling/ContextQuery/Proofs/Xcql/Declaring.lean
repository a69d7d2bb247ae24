import ContextQuery.Proofs.Query.Declaring
import ContextQuery.Proofs.Xcql.Reading
import ContextQuery.Proofs.Xcql.RoundTrip

/-!
# Declarations in both forms

A group of declarations in front of a clause, and the same declarations listed in the element of the
clause. The reader of texts collects the group, where it refuses repeated names, and declares its
bindings when all that follows is read, where it refuses reserved names; the reader of documents
declares one prefix after the other and refuses both on the way. They end with the same map, or both
refuse the group as a duplicate.

## Main definitions

* `DeclarationGroup.text`: declarations in quotes in front of a text.
* `Xcql.listedClause`: the element of a clause, with declarations in the order of a list.
* `DeclarationGroup.Refused`: what a dialect refuses of a group.

## Main results

* `DeclarationGroup.refused_iff`, `Xcql.joins_iff`: both readers refuse the same groups.
* `Query.parse_text`, `Query.parseXml_listedClause`: what the two forms are read as.
* `Query.declarations_alike`: they are read as the same query.
-/

namespace ContextQuery

open Grammar (bindings Distinct Declarable Declarations)
open Reader (atSign)

/-! ## Groups that are refused -/

theorem ContextSet.isReserved_iff {name : String} :
    isReserved name = true ↔ name = "cql" ∨ name = "srw" := by
  unfold isReserved reserved?
  split_ifs <;> simp_all

namespace DeclarationGroup

variable {d : Dialect} {ds : DeclarationGroup}

/-- A strict dialect refuses a name that is declared twice as it is written, and a name that is
reserved in lower case. -/
def Refused (d : Dialect) (ds : DeclarationGroup) : Prop :=
  d.refuseDuplicatePrefix = true ∧ (¬(ds.map (·.1)).Nodup ∨
    ∃ e ∈ ds, Text.lowerCase e.1 = "cql" ∨ Text.lowerCase e.1 = "srw")

instance (d : Dialect) (ds : DeclarationGroup) : Decidable (ds.Refused d) :=
  inferInstanceAs (Decidable (_ ∧ _))

/-- The map of a group binds the lower-cased names of the group and no others. -/
theorem forall_mem_bindings {p : String → Prop} :
    (∀ e ∈ (bindings ds).entries, p e.1) ↔ ∀ e ∈ ds, p (Text.lowerCase e.1) := by
  constructor
  · intro all e mem
    have declared : (ds.declaration? (Text.lowerCase e.1)).isSome = true := by
      simpa [declaration?] using ⟨e.1, ⟨e.2, mem⟩, rfl⟩
    rw [← get?_bindings, PrefixMap.get?, Option.isSome_map, List.find?_isSome] at declared
    obtain ⟨e', mem', same⟩ := declared
    rw [← of_decide_eq_true same]
    exact all e' mem'
  · intro all e mem
    obtain ⟨e', mem', rfl⟩ := Grammar.mem_bindings mem
    exact all e' mem'

theorem declarable_iff : Declarable d (bindings ds) ↔ (d.refuseDuplicatePrefix = true →
    ∀ e ∈ ds, ContextSet.isReserved (Text.lowerCase e.1) = false) := by
  unfold Declarable
  rw [forall_mem_bindings (p := (ContextSet.isReserved · = false))]

/-- The reader of texts refuses these groups. -/
theorem refused_iff : ds.Refused d ↔ ¬(Distinct d ds ∧ Declarable d (bindings ds)) := by
  have reserved : (∃ e ∈ ds, Text.lowerCase e.1 = "cql" ∨ Text.lowerCase e.1 = "srw") ↔
      ¬∀ e ∈ ds, ContextSet.isReserved (Text.lowerCase e.1) = false := by
    simp [← ContextSet.isReserved_iff]
  rw [declarable_iff, Refused, Distinct, reserved]
  grind

end DeclarationGroup

/-- The reader of documents refuses the same groups as the reader of texts. -/
theorem Xcql.joins_iff {d : Dialect} {ds : DeclarationGroup} :
    Joins d [] ds ↔ Distinct d ds ∧ Declarable d (bindings ds) := by
  rw [DeclarationGroup.declarable_iff]
  simp [Joins, Reader.Group.Admits, Distinct]

/-! ## Strings in both forms -/

/-- A string that both forms keep: it stands in quotes as it is, and a document keeps it. -/
@[mk_iff]
structure Kept (s : String) : Prop where
  bare : '"' ∉ s.toList ∧ '\\' ∉ s.toList
  plain : Xml.Plain s.toList
  trimmed : Text.trim s = s

instance (s : String) : Decidable (Kept s) :=
  decidable_of_iff' _ (kept_iff s)

theorem Kept.toList_quote {s : String} (h : Kept s) :
    (quote s).toList = '"' :: s.toList ++ ['"'] := by
  have plain : ∀ c ∈ s.toList, Text.isEscaping c = false := by
    intro c mem
    rw [isEscaping_eq_false]
    exact ⟨ne_of_mem_of_not_mem mem h.bare.1, ne_of_mem_of_not_mem mem h.bare.2⟩
  have same := escapeQuotes_append_plain plain []
  rw [List.append_nil] at same
  rw [ContextQuery.toList_quote, same, escapeQuotes, List.append_nil]

theorem Kept.cutAnywhere {s : String} (h : Kept s) {cs rest : List Char} {ts : List Token}
    (more : Token.CutAnywhere cs ts rest) :
    Token.CutAnywhere ('"' :: s.toList ++ '"' :: cs) (⟨.quoted, quote s, 0⟩ :: ts) rest := by
  have shape : Token.Shape .quoted (quote s).toList cs := by
    rw [ContextQuery.toList_quote]
    exact .quoted (quotable_of_not_mem h.bare.2)
  have cut := more.cons shape
  rw [String.ofList_toList, h.toList_quote] at cut
  simpa using cut

/-! ## The text -/

namespace DeclarationGroup

open Token

variable {ds : DeclarationGroup}

/-- Declarations in quotes, each with a gap after it, in front of a text. -/
def text (ds : DeclarationGroup) (gap body : String) : String :=
  ds.foldr (fun e rest => ">\"" ++ e.1 ++ "\"=\"" ++ e.2 ++ "\"" ++ gap ++ rest) body

/-- The tokens of declarations in quotes. -/
def tokens (ds : DeclarationGroup) (body : List Token) : List Token :=
  ds.foldr (fun e rest => ⟨.comparison, ">", 0⟩ :: ⟨.quoted, quote e.1, 0⟩ ::
    ⟨.comparison, "=", 0⟩ :: ⟨.quoted, quote e.2, 0⟩ :: rest) body

theorem cutAnywhere_text (kept : ∀ e ∈ ds, Kept e.1 ∧ Kept e.2) {gap body : String}
    (blank : ∀ c ∈ gap.toList, Text.isBlank c = true) {ts : List Token} {rest : List Char}
    (cut : CutAnywhere body.toList ts rest) :
    CutAnywhere (ds.text gap body).toList (ds.tokens ts) rest := by
  induction ds with
  | nil => exact cut
  | cons e ds ih =>
    obtain ⟨⟨name, identifier⟩, others⟩ := List.forall_mem_cons.1 kept
    have bound := identifier.cutAnywhere ((ih others).gap blank)
    have sign := bound.cons (shape_sign .eq (by simp))
    have named := name.cutAnywhere sign
    have opened := named.cons (shape_sign .gt (by simp))
    simpa [text, tokens, Comparison.sign] using opened

theorem declarations_tokens {body : List Token} (stop : atSign .gt body = false) :
    Declarations (ds.tokens body) ds body := by
  induction ds with
  | nil => exact .done stop
  | cons e ds ih =>
    have declared : Declarations (tokens (e :: ds) body)
        ((unquote (quote e.1), unquote (quote e.2)) :: ds) body := .named rfl rfl rfl rfl ih
    rwa [unquote_quote, unquote_quote] at declared

end DeclarationGroup

namespace Query

variable {d : Dialect} {ds : DeclarationGroup} {gap body : String} {q : Query} {c : SearchClause}

/-- A text whose tree has no declarations does not start with one. -/
theorem atSign_of_undeclared (parsed : parse d body = .ok q) (none : q.root.undeclared = true) :
    atSign .gt ((TokenStream.ofText body).tokens.map Token.unplaced) = false := by
  have derives := derives_unplaced parsed le_rfl
  generalize q.root = n, (TokenStream.ofText body).tokens.map Token.unplaced = ts at *
  cases derives with
  | query _ group =>
    rw [Node.undeclared_declareMap, Grammar.isEmpty_bindings, Bool.and_eq_true,
      List.isEmpty_iff] at none
    obtain ⟨-, rfl⟩ := none
    cases group with
    | done stop => exact stop

/-- The declarations of a text are bound on what it is read as without them, or refused. -/
theorem parse_text (kept : ∀ e ∈ ds, Kept e.1 ∧ Kept e.2)
    (blank : ∀ c ∈ gap.toList, Text.isBlank c = true) (parsed : parse d body = .ok q)
    (none : q.root.undeclared = true) :
    (¬ds.Refused d → parse d (ds.text gap body) = .ok ⟨q.root.declareMap (bindings ds), d⟩) ∧
    (ds.Refused d → ∃ details,
      parse d (ds.text gap body) = .error ⟨.duplicatePrefix, details⟩) := by
  obtain ⟨-, closed, -⟩ := parse_eq_ok_iff.1 parsed
  have cut := DeclarationGroup.cutAnywhere_text kept blank
    (TokenStream.cutAnywhere_of_closed closed)
  have group : Declarations _ ds _ :=
    DeclarationGroup.declarations_tokens (atSign_of_undeclared parsed none)
  rw [DeclarationGroup.refused_iff, not_not]
  exact parse_declared parsed cut group

end Query

/-! ## The document -/

namespace Xcql

open Xml (Element Have Spells)
open Reader (bind_of_eq_ok)

variable {d : Dialect} {ds : DeclarationGroup} {c : SearchClause} {e : Element}

/-- The element of a clause, with declarations in the order of a list. -/
def listedClause (level : Nat) (ds : DeclarationGroup) (c : SearchClause) : String :=
  block level "searchClause" <|
    declarationList (level + 1) ds ++
    leaf (level + 1) "index" c.index.fullName ++
    block (level + 1) "relation"
      (leaf (level + 2) "value" c.relation.name.fullName ++
        modifiers (level + 2) c.relation.modifiers) ++
    leaf (level + 1) "term" c.term.value

/-- The declarations are read after the clause. -/
theorem readNode_listed (readable : c.Readable d) (portable : c.Portable)
    (isClause : e.name = "searchClause")
    (parts : Have (IsDeclarationList ds :: clauseParts d c) (elements e.children)) (levels : Nat) :
    ∃ es, Have (ds.map IsDeclaration) es ∧ (readNode d levels e : Except Diagnostic Node) =
      declareEach d [] (.clause .empty c) es := by
  obtain ⟨list, rest, isList, parts, eq⟩ := List.forall₂_cons_left_iff.1 parts
  have prefixes : ∀ x ∈ [list], x.name = "prefixes" := by
    simpa using isList.1
  have read := (readClause_eq readable portable prefixes parts eq).1
  refine ⟨_, isList.2, ?_⟩
  unfold readNode
  rw [if_pos isClause, bind_of_eq_ok read]
  exact declarePrefixes_list isList eq

theorem spells_listedClause (kept : ∀ e ∈ ds, Kept e.1 ∧ Kept e.2) (readable : c.Readable d)
    (portable : c.Portable) (level : Nat) : ∃ text, listedClause level ds c = line level text ∧
      Spells text 5 fun e => e.name = "searchClause" ∧
        Have (IsDeclarationList ds :: clauseParts d c) (elements e.children) := by
  have plain : ∀ e ∈ ds, Xml.Plain e.1.toList ∧ Xml.Plain e.2.toList :=
    fun e mem => ⟨(kept e mem).1.plain, (kept e mem).2.plain⟩
  have inside := (fills_declarationList plain (level + 1)).append
    (fills_clause readable portable (level + 1))
  refine ⟨_, ?_, Spells.block "searchClause" (by decide) inside level⟩
  rw [← Xml.block_eq, listedClause]
  simp only [String.append_assoc]

end Xcql

namespace Query

open Xcql

variable {d : Dialect} {ds : DeclarationGroup} {gap body : String} {c : SearchClause}

/-- The declarations of a document are bound on the clause, or refused. -/
theorem parseXml_listedClause [Xml.Library] (faithful : Xml.Library.Faithful)
    (kept : ∀ e ∈ ds, Kept e.1 ∧ Kept e.2) (readable : c.Readable d) (portable : c.Portable)
    (level : Nat) :
    (¬ds.Refused d → parseXml d (listedClause level ds c) = .ok ⟨.clause (bindings ds) c, d⟩) ∧
    (ds.Refused d → ∃ details,
      parseXml d (listedClause level ds c) = .error ⟨.duplicatePrefix, details⟩) := by
  obtain ⟨line, written, spells⟩ := spells_listedClause kept readable portable level
  obtain ⟨root, opened, isClause, parts⟩ := faithful spells level
  have shallow : elementDepth (listedClause level ds c) ≤ elementLimit d := by
    have low := spells.elementDepth_line level
    rw [written]
    simp only [elementLimit, countLimit, Word.count64]
    omega
  rw [← written] at opened
  obtain ⟨es, listed, read⟩ := readNode_listed readable portable isClause parts d.maxDepth
  have trimmed : ∀ e ∈ ds, Text.trim e.1 = e.1 ∧ Text.trim e.2 = e.2 :=
    fun e mem => ⟨(kept e mem).1.trimmed, (kept e mem).2.trimmed⟩
  rw [DeclarationGroup.refused_iff, not_not, ← joins_iff, parseXml_of_shallow opened shallow, read]
  constructor
  · intro joins
    rw [(declareEach_eq trimmed listed).1 joins]
    rfl
  · intro refused
    obtain ⟨details, eq⟩ := (declareEach_eq trimmed listed).2 refused
    exact ⟨details, Reader.bind_of_eq_error eq _⟩

/-- A clause that every dialect reads, if it reads one level. -/
theorem parse_equals (deep : 1 ≤ d.maxDepth) :
    parse d "t = x" = .ok ⟨.clause .empty ⟨⟨none, "t"⟩, ⟨⟨none, "="⟩, []⟩, ⟨"x"⟩⟩, d⟩ := by
  have name (raw : String) (bare : isQuotedText (Text.lower raw.toList) = false) :
      Name.parse d raw = Name.parse {} raw := by
    rw [Name.parse, Name.parse, bare]
    rfl
  have index : Name.parse d "t" = .ok ⟨none, "t"⟩ :=
    (name "t" (by decide +kernel)).trans (by decide +kernel)
  have relation : Name.parse d "=" = .ok ⟨none, "="⟩ :=
    (name "=" (by decide +kernel)).trans (by decide +kernel)
  have term : Term.parse d "x" = .ok ⟨"x"⟩ :=
    Term.parse_eq_ok.2 ⟨by decide, .inr (by decide), by decide,
      Term.literal_eq_ok.2 ⟨rfl, fun _ => by decide⟩⟩
  have tokens : (TokenStream.ofText "t = x").tokens.map Token.unplaced =
      [⟨.word, "t", 0⟩, ⟨.comparison, "=", 0⟩, ⟨.word, "x", 0⟩] := by
    decide +kernel
  have closed : (TokenStream.ofText "t = x").unclosed = none := by decide +kernel
  have cut := TokenStream.cutAnywhere_of_closed closed
  rw [tokens] at cut
  have clause : Grammar.Clause d [⟨.word, "t", 0⟩, ⟨.comparison, "=", 0⟩, ⟨.word, "x", 0⟩]
      ⟨⟨none, "t"⟩, ⟨⟨none, "="⟩, []⟩, ⟨"x"⟩⟩ [] :=
    .full rfl rfl index rfl relation (.done rfl) ⟨by decide, by decide, term⟩
  have room : ((0 : ℕ) : ℕ∞) + 1 ≤ d.maxDepth := by exact_mod_cast deep
  have declarable : Declarable d (bindings []) := DeclarationGroup.declarable_iff.2 (by simp)
  exact parse_of_derives cut
    (.query room (.done rfl) (fun _ => by simp) (.clause clause) (.done rfl) declarable)

/-- Declarations in front of a clause, and the same declarations listed in its element, are both
refused as duplicates, or bound on the clause alike, if the library reads documents as they were
printed. They are refused where the dialect is strict and a name is declared twice as it is written,
or is reserved in lower case. Otherwise a name is bound to the identifier of its last declaration,
in whatever case. -/
theorem declarations_alike [Xml.Library] (faithful : Xml.Library.Faithful) (level : Nat)
    (kept : ∀ e ∈ ds, Kept e.1 ∧ Kept e.2)
    (blank : ∀ c ∈ gap.toList, Text.isBlank c = true)
    (parsed : parse d body = .ok ⟨.clause .empty c, d⟩) (portable : c.Portable) :
    (¬ds.Refused d → ∃ map : PrefixMap, (∀ name, map.get? name = ds.declaration? name) ∧
      parse d (ds.text gap body) = .ok ⟨.clause map c, d⟩ ∧
      parseXml d (listedClause level ds c) = .ok ⟨.clause map c, d⟩) ∧
    (ds.Refused d →
      (∃ details, parse d (ds.text gap body) = .error ⟨.duplicatePrefix, details⟩) ∧
      ∃ details, parseXml d (listedClause level ds c) = .error ⟨.duplicatePrefix, details⟩) := by
  have readable : c.Readable d := (readable_of_parse parsed).2
  obtain ⟨bound, refused⟩ := parse_text kept blank parsed rfl
  obtain ⟨boundXml, refusedXml⟩ := parseXml_listedClause faithful kept readable portable level
  constructor
  · intro free
    refine ⟨bindings ds, ds.get?_bindings, (bound free).trans ?_, boundXml free⟩
    rw [Node.declareMap_eq, Node.prefixes, PrefixMap.empty_insertAll_entries]
    rfl
  · intro taken
    exact ⟨refused taken, refusedXml taken⟩

/-- A strict dialect lets a name be declared again in another case, and the last declaration counts.
It refuses the name as it was written before, and a reserved name in any case. -/
theorem declarations_alike_strict :
    let d : Dialect := { refuseDuplicatePrefix := true }
    let c : SearchClause := ⟨⟨none, "t"⟩, ⟨⟨none, "="⟩, []⟩, ⟨"x"⟩⟩
    (∃ map : PrefixMap, map.get? "dc" = some "v" ∧
      parse d ">\"dc\"=\"u\" >\"DC\"=\"v\" t = x" = .ok ⟨.clause map c, d⟩ ∧
      parseXml d (listedClause 0 [("dc", "u"), ("DC", "v")] c) = .ok ⟨.clause map c, d⟩) ∧
    ∀ ds ∈ ([[("DC", "v"), ("dc", "u"), ("DC", "w")], [("", "u"), ("Srw", "a < b")]] :
        List DeclarationGroup),
      (∃ details, parse d (ds.text " " "t = x") = .error ⟨.duplicatePrefix, details⟩) ∧
      ∃ details, parseXml d (listedClause 0 ds c) = .error ⟨.duplicatePrefix, details⟩ := by
  intro d c
  have blank : ∀ c ∈ " ".toList, Text.isBlank c = true := by decide
  have portable : c.Portable := by decide +kernel
  have parsed : parse d "t = x" = .ok ⟨.clause .empty c, d⟩ := parse_equals (by decide)
  constructor
  · have kept : ∀ e ∈ [("dc", "u"), ("DC", "v")], Kept e.1 ∧ Kept e.2 := by decide +kernel
    obtain ⟨map, gets, read, readXml⟩ :=
      (declarations_alike Xml.Document.faithful 0 kept blank parsed portable).1 (by decide +kernel)
    exact ⟨map, (gets "dc").trans (by decide +kernel), read, readXml⟩
  · intro ds mem
    have refused : ds.Refused d := by
      revert ds
      decide +kernel
    have kept : ∀ e ∈ ds, Kept e.1 ∧ Kept e.2 := by
      revert ds
      decide +kernel
    exact (declarations_alike Xml.Document.faithful 0 kept blank parsed portable).2 refused

end Query

end ContextQuery
