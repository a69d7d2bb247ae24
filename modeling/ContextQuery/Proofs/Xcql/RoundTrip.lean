import ContextQuery.Proofs.Query.Rereading
import ContextQuery.Proofs.Xml.Written

/-!
# The XML form reads back

The writer lists the parts of a query in a fixed order, the reader looks them up by name. What the
writer writes of a part is described by what the reader makes of it, and the parts are put together
along the tree.

## Main definitions

* `Node.Portable`: the strings of a tree that a document keeps.
* `Query.parseXml_toXcql`: the XML form of a query that was read from a text reads back.
-/

namespace ContextQuery

open Xml (Plain Have Spells Fills)

/-! ## What a document keeps -/

/-- A name that is kept: blanks around it would be trimmed, and quotes taken off. -/
@[mk_iff]
structure Name.Portable (n : Name) : Prop where
  plain : Plain n.fullName.toList
  trimmed : Text.trim n.fullName = n.fullName
  bare : isQuotedText n.fullName.toList = false

instance (n : Name) : Decidable n.Portable :=
  decidable_of_iff' _ (Name.portable_iff n)

/-- A modifier that is kept. -/
@[mk_iff]
structure Modifier.Portable (m : Modifier) : Prop where
  name : m.name.Portable
  nonempty : m.name.fullName ≠ ""
  value : ∀ value ∈ m.value, Plain value.toList

instance (m : Modifier) : Decidable m.Portable :=
  decidable_of_iff' _ (Modifier.portable_iff m)

/-- A clause that is kept. -/
@[mk_iff]
structure SearchClause.Portable (c : SearchClause) : Prop where
  index : c.index.Portable
  relation : c.relation.name.Portable
  modifiers : ∀ m ∈ c.relation.modifiers, m.Portable
  term : Plain c.term.value.toList

instance (c : SearchClause) : Decidable c.Portable :=
  decidable_of_iff' _ (SearchClause.portable_iff c)

/-- Declarations that are kept. -/
def PrefixMap.Portable (map : PrefixMap) : Prop :=
  ∀ e ∈ map.entries, (Plain e.1.toList ∧ Text.trim e.1 = e.1) ∧
    Plain e.2.toList ∧ Text.trim e.2 = e.2

instance (map : PrefixMap) : Decidable map.Portable :=
  inferInstanceAs (Decidable (∀ e ∈ map.entries, _))

/-- All strings of the tree are kept by a document. -/
def Node.Portable : Node → Prop :=
  Node.Each PrefixMap.Portable SearchClause.Portable fun b => ∀ m ∈ b.modifiers, m.Portable

instance (n : Node) : Decidable n.Portable :=
  inferInstanceAs (Decidable (n.Each _ _ _))

namespace Xcql

open Xml (Element)
open Reader (Group bind_eq_ok bind_of_eq_ok pure_eq_ok lift_eq)

variable {d : Dialect} {e : Element} {es : List Element}

/-! ## Parts -/

/-- An element with a text. -/
def IsLeaf (tag text : String) (e : Element) : Prop :=
  e.name = tag ∧ frontText e = text

theorem fills_leaf (tag : String) (isTag : Xml.IsTag tag) {text : String}
    (plain : Plain text.toList) (level : Nat) : Fills (leaf level tag text) 1 [IsLeaf tag text] :=
  (Spells.ofText isTag plain).line level

theorem onlyChildren_eq {names : List String} (h : ∀ c ∈ elements e.children, c.name ∈ names) :
    (onlyChildren e names : Except Diagnostic Unit) = .ok () := by
  have none : (elements e.children).find? (fun c => !names.contains c.name) = none := by
    simpa using h
  rw [onlyChildren, none]
  rfl

theorem name_eq {n : Name} (canonical : n.Canonical) (portable : n.Portable)
    (text : frontText e = n.fullName) : (name d e : Except Diagnostic Name) = .ok n := by
  have unquoted : unquote n.fullName = n.fullName := by
    simp [unquote, unquoteText, portable.bare]
  rw [name, lift_eq, text, portable.trimmed]
  exact Name.parse_of_unquote canonical canonical.settled unquoted (by simp [portable.bare])

/-- What is written of a modifier. -/
def modifierParts (m : Modifier) : List (Element → Prop) :=
  IsLeaf "type" m.name.fullName ::
    match m.comparison, m.value with
    | some c, some value => [IsLeaf "comparison" c.sign, IsLeaf "value" value]
    | _, _ => []

theorem fills_modifier {m : Modifier} (portable : m.Portable) (whole : m.Whole) (level : Nat) :
    Fills (modifier level m) 2
      [fun e => e.name = "modifier" ∧ Have (modifierParts m) (elements e.children)] := by
  obtain ⟨name, comparison, value⟩ := m
  have type : Spells (tagged "type" (escapeText name.fullName)) 1 (IsLeaf "type" name.fullName) :=
    .ofText (by decide) portable.name.plain
  cases value with
  | none =>
    obtain rfl : comparison = none := by simpa [Modifier.Whole] using whole
    exact (Spells.tagged (by decide) (.element type)).line level
  | some value =>
    obtain ⟨c, rfl⟩ : ∃ c, comparison = some c := by
      simpa [Modifier.Whole, Option.isSome_iff_exists] using whole
    have sign : Plain c.sign.toList := by cases c <;> decide
    have inside := ((type.line (level + 1)).append
      (fills_leaf "comparison" (by decide) sign (level + 1))).append
      (fills_leaf "value" (by decide) (portable.value value rfl) (level + 1))
    exact inside.block "modifier" (by decide) level

theorem readModifier_eq {m : Modifier} (readable : m.Readable) (portable : m.Portable)
    (parts : Have (modifierParts m) (elements e.children)) :
    (readModifier d e : Except Diagnostic Modifier) = .ok m := by
  obtain ⟨name, comparison, value⟩ := m
  have read : ∀ {t : Element}, frontText t = name.fullName →
      (Xcql.name d t : Except Diagnostic Name) = .ok name := name_eq readable.name portable.name
  have trimmed := portable.name.trimmed
  have nonempty := portable.nonempty
  cases value with
  | none =>
    obtain rfl : comparison = none := by simpa [Modifier.Whole] using readable.whole
    simp only [modifierParts, List.forall₂_cons_left_iff, List.forall₂_nil_left_iff] at parts
    obtain ⟨t, _, ⟨isType, text⟩, rfl, eq⟩ := parts
    simp [readModifier, onlyChildren, required, child?, eq, isType, text, trimmed, nonempty,
      read text, comparison?]
  | some value =>
    obtain ⟨c, rfl⟩ : ∃ c, comparison = some c := by
      simpa [Modifier.Whole, Option.isSome_iff_exists] using readable.whole
    simp only [modifierParts, List.forall₂_cons_left_iff, List.forall₂_nil_left_iff] at parts
    obtain ⟨t, _, ⟨isType, text⟩, ⟨s, _, ⟨isSign, sign⟩, ⟨v, _, ⟨isValue, valueText⟩, rfl, rfl⟩,
      rfl⟩, eq⟩ := parts
    have signTrimmed : Text.trim c.sign = c.sign := by cases c <;> decide
    simp [readModifier, onlyChildren, required, child?, eq, isType, text, trimmed, nonempty,
      read text, comparison?, isSign, sign, signTrimmed, Comparison.ofSign?_sign,
      isValue, valueText]

/-- What is read of a modifier. -/
def ReadsModifier (d : Dialect) (m : Modifier) (e : Element) : Prop :=
  e.name = "modifier" ∧ (readModifier d e : Except Diagnostic Modifier) = .ok m

/-- What is written of a list of modifiers. -/
def modifiersParts (d : Dialect) (ms : List Modifier) : List (Element → Prop) :=
  if ms.isEmpty then []
  else [fun e => e.name = "modifiers" ∧ Have (ms.map (ReadsModifier d)) (elements e.children)]

theorem fills_modifiers {ms : List Modifier} (readable : ∀ m ∈ ms, m.Readable)
    (portable : ∀ m ∈ ms, m.Portable) (level : Nat) :
    Fills (modifiers level ms) 3 (modifiersParts d ms) := by
  have each : ∀ ms : List Modifier, (∀ m ∈ ms, m.Readable) → (∀ m ∈ ms, m.Portable) →
      Fills (ms.foldr (fun m text => modifier (level + 1) m ++ text) "") 2
        (ms.map (ReadsModifier d)) := by
    intro ms readable portable
    induction ms with
    | nil => exact Fills.nil.mono (by decide)
    | cons m ms ih =>
      obtain ⟨readable, readables⟩ := List.forall_mem_cons.1 readable
      obtain ⟨portable, portables⟩ := List.forall_mem_cons.1 portable
      have first : Fills (modifier (level + 1) m) 2 [ReadsModifier d m] :=
        (fills_modifier portable readable.whole (level + 1)).imp fun e h =>
          ⟨h.1, readModifier_eq readable portable h.2⟩
      exact first.append (ih readables portables)
  unfold modifiers modifiersParts
  split
  · exact Fills.nil.mono (by decide)
  · exact (each ms readable portable).block "modifiers" (by decide) level

theorem readEach_eq {ms : List Modifier} (h : Have (ms.map (ReadsModifier d)) es) :
    (readEach d es : Except Diagnostic (List Modifier)) = .ok ms ∧
      ∀ e ∈ es, e.name = "modifier" := by
  induction ms generalizing es with
  | nil =>
    obtain rfl := List.forall₂_nil_left_iff.1 h
    exact ⟨rfl, nofun⟩
  | cons m ms ih =>
    obtain ⟨e, es, ⟨named, read⟩, others, rfl⟩ := List.forall₂_cons_left_iff.1 h
    obtain ⟨reads, names⟩ := ih others
    refine ⟨?_, List.forall_mem_cons.2 ⟨named, names⟩⟩
    simp [readEach, read, reads, bind_eq_ok]

/-- A relation or a boolean: a value, and modifiers if there are any. -/
theorem readModifiers_eq {ms : List Modifier} {v : Element} (isValue : v.name = "value")
    (h : Have (modifiersParts d ms) es) (eq : elements e.children = v :: es) :
    (onlyChildren e ["value", "modifiers"] : Except Diagnostic Unit) = .ok () ∧
      (required e "value" : Except Diagnostic Element) = .ok v ∧
      (readModifiers d e : Except Diagnostic (List Modifier)) = .ok ms := by
  unfold modifiersParts at h
  split at h
  · obtain rfl := List.forall₂_nil_left_iff.1 h
    simp_all [onlyChildren, required, readModifiers, child?, pure_eq_ok]
  · simp only [List.forall₂_cons_left_iff, List.forall₂_nil_left_iff] at h
    obtain ⟨list, _, ⟨isList, parts⟩, rfl, rfl⟩ := h
    obtain ⟨reads, names⟩ := readEach_eq parts
    have only : (onlyChildren list ["modifier"] : Except Diagnostic Unit) = .ok () :=
      onlyChildren_eq fun c hc => by simp [names c hc]
    refine ⟨onlyChildren_eq (by simp [eq, isValue, isList]), ?_, ?_⟩
    · simp [required, child?, eq, isValue, pure_eq_ok]
    · simp [readModifiers, child?, eq, isValue, isList, only, reads, bind_eq_ok]

theorem fills_relation {r : Relation} (canonical : r.name.Canonical)
    (readable : ∀ m ∈ r.modifiers, m.Readable) (named : r.name.Portable)
    (portable : ∀ m ∈ r.modifiers, m.Portable) (level : Nat) :
    Fills (block level "relation"
        (leaf (level + 1) "value" r.name.fullName ++ modifiers (level + 1) r.modifiers)) 4
      [fun e => e.name = "relation" ∧
        (readRelation d e : Except Diagnostic Relation) = .ok r] := by
  have inside := (fills_leaf "value" (by decide) named.plain (level + 1)).append
    (fills_modifiers (d := d) readable portable (level + 1))
  refine (inside.block "relation" (by decide) level).imp fun e ⟨isRelation, parts⟩ =>
    ⟨isRelation, ?_⟩
  obtain ⟨v, es, ⟨isValue, text⟩, mods, eq⟩ := List.forall₂_cons_left_iff.1 parts
  obtain ⟨only, value, reads⟩ := readModifiers_eq isValue mods eq
  simp [readRelation, only, value, name_eq canonical named text, reads, bind_eq_ok]

theorem fills_boolean {b : Boolean} (readable : ∀ m ∈ b.modifiers, m.Readable)
    (portable : ∀ m ∈ b.modifiers, m.Portable) (level : Nat) :
    Fills (block level "boolean"
        (leaf (level + 1) "value" b.op.keyword ++ modifiers (level + 1) b.modifiers)) 4
      [fun e => e.name = "boolean" ∧
        (readBoolean d e : Except Diagnostic Boolean) = .ok b] := by
  have plain : Plain b.op.keyword.toList := by cases b.op <;> decide
  have keyword : Connective.parse (Text.trim b.op.keyword) = .ok b.op := by
    cases b.op <;> decide
  have inside := (fills_leaf "value" (by decide) plain (level + 1)).append
    (fills_modifiers (d := d) readable portable (level + 1))
  refine (inside.block "boolean" (by decide) level).imp fun e ⟨isBoolean, parts⟩ => ⟨isBoolean, ?_⟩
  obtain ⟨v, es, ⟨isValue, text⟩, mods, eq⟩ := List.forall₂_cons_left_iff.1 parts
  obtain ⟨only, value, reads⟩ := readModifiers_eq isValue mods eq
  simp [readBoolean, only, value, text, lift_eq, keyword, reads, bind_eq_ok]

/-! ## Declarations -/

/-- What is written of a declaration. -/
def IsDeclaration (entry : String × String) (e : Element) : Prop :=
  e.name = "prefix" ∧
    Have [IsLeaf "name" entry.1, IsLeaf "identifier" entry.2] (elements e.children)

/-- Declarations on lines of their own, in the order of a list. -/
def declarationList (level : Nat) (entries : List (String × String)) : String :=
  block level "prefixes" <| entries.foldr (fun entry text =>
    block (level + 1) "prefix"
      (leaf (level + 2) "name" entry.1 ++ leaf (level + 2) "identifier" entry.2) ++ text) ""

/-- What is written of a list of declarations. -/
def IsDeclarationList (entries : List (String × String)) (e : Element) : Prop :=
  e.name = "prefixes" ∧ Have (entries.map IsDeclaration) (elements e.children)

theorem fills_declarationList {entries : List (String × String)}
    (plain : ∀ e ∈ entries, Plain e.1.toList ∧ Plain e.2.toList) (level : Nat) :
    Fills (declarationList level entries) 3 [IsDeclarationList entries] := by
  suffices each : Fills _ 2 (entries.map IsDeclaration) from
    each.block "prefixes" (by decide) level
  induction entries with
  | nil => exact Fills.nil.mono (by decide)
  | cons entry entries ih =>
    obtain ⟨⟨plainName, plainIdentifier⟩, plains⟩ := List.forall_mem_cons.1 plain
    have inside := (fills_leaf "name" (by decide) plainName (level + 2)).append
      (fills_leaf "identifier" (by decide) plainIdentifier (level + 2))
    exact (inside.block "prefix" (by decide) (level + 1)).append (ih plains)

/-- What is written of the declarations of a node. -/
def declarationsParts (map : PrefixMap) : List (Element → Prop) :=
  if map.isEmpty then []
  else [fun e => e.name = "prefixes" ∧
    Have (map.entries.map IsDeclaration) (elements e.children)]

theorem fills_declarations {map : PrefixMap} (portable : map.Portable) (level : Nat) :
    Fills (declarations level map) 3 (declarationsParts map) := by
  unfold declarations declarationsParts
  split
  · exact Fills.nil.mono (by decide)
  · exact fills_declarationList (fun e he => ⟨(portable e he).1.1, (portable e he).2.1⟩) level

/-- The next declaration of a list is refused for a name that was declared before as it is written,
and for one that is reserved in lower case. -/
theorem declareEach_cons {entry : String × String} {written : List String} {n : Node}
    (trimmed : Text.trim entry.1 = entry.1 ∧ Text.trim entry.2 = entry.2)
    (h : IsDeclaration entry e) :
    (declareEach d written n (e :: es) : Except Diagnostic Node) =
      if d.refuseDuplicatePrefix && written.contains entry.1 then
        .error ⟨.duplicatePrefix, entry.1⟩
      else if d.refuseDuplicatePrefix && ContextSet.isReserved (Text.lowerCase entry.1) then
        .error ⟨.duplicatePrefix, Text.lowerCase entry.1⟩
      else declareEach d (entry.1 :: written) (n.declare (Text.lowerCase entry.1) entry.2) es := by
  obtain ⟨-, parts⟩ := h
  simp only [List.forall₂_cons_left_iff, List.forall₂_nil_left_iff] at parts
  obtain ⟨a, _, ⟨isName, name⟩, ⟨i, _, ⟨isIdentifier, uri⟩, rfl, rfl⟩, eq⟩ := parts
  have only : (onlyChildren e ["name", "identifier"] : Except Diagnostic Unit) = .ok () :=
    onlyChildren_eq (by simp [eq, isName, isIdentifier])
  have identifier : (required e "identifier" : Except Diagnostic Element) = .ok i := by
    simp [required, child?, eq, isName, isIdentifier, pure_eq_ok]
  have found : child? e "name" = some a := by
    simp [child?, eq, isName]
  rw [declareEach, bind_of_eq_ok only, found, Option.map_some, Option.getD_some, name, trimmed.1]
  dsimp only
  split
  · rfl
  rw [bind_of_eq_ok identifier, uri, trimmed.2, Reader.declareAll]
  split <;> rfl

/-- The dialect lets the declarations of a list join those that were read before. -/
def Joins (d : Dialect) (written : List String) (entries : List (String × String)) : Prop :=
  Group.Admits d ⟨written, .empty⟩ entries ∧ (d.refuseDuplicatePrefix = true →
    ∀ e ∈ entries, ContextSet.isReserved (Text.lowerCase e.1) = false)

theorem joins_cons {entry : String × String} {written : List String}
    {entries : List (String × String)} : Joins d written (entry :: entries) ↔
      (d.refuseDuplicatePrefix = true →
        entry.1 ∉ written ∧ ContextSet.isReserved (Text.lowerCase entry.1) = false) ∧
      Joins d (entry.1 :: written) entries := by
  have admits : Group.Admits d ⟨written, .empty⟩ (entry :: entries) ↔
      (d.refuseDuplicatePrefix = true → entry.1 ∉ written) ∧
        Group.Admits d ⟨entry.1 :: written, PrefixMap.empty.insert entry.1 entry.2⟩ entries :=
    Group.admits_cons
  unfold Joins
  rw [admits, List.forall_mem_cons]
  unfold Group.Admits
  grind

/-- What becomes of a node whose element lists declarations: they are all declared, in lower case,
or one is refused as a duplicate. -/
theorem declareEach_eq {entries : List (String × String)} {written : List String} {n : Node}
    (trimmed : ∀ e ∈ entries, Text.trim e.1 = e.1 ∧ Text.trim e.2 = e.2)
    (h : Have (entries.map IsDeclaration) es) :
    (Joins d written entries → (declareEach d written n es : Except Diagnostic Node) =
      .ok (n.withPrefixes
        (n.prefixes.insertAll (entries.map fun e => (Text.lowerCase e.1, e.2))))) ∧
    (¬Joins d written entries → ∃ details,
      (declareEach d written n es : Except Diagnostic Node) =
        .error ⟨.duplicatePrefix, details⟩) := by
  induction entries generalizing es written n with
  | nil =>
    obtain rfl := List.forall₂_nil_left_iff.1 h
    refine ⟨fun _ => ?_, fun refused => ?_⟩
    · cases n <;> rfl
    · exact absurd ⟨fun _ => by simp, fun _ => by simp⟩ refused
  | cons entry entries ih =>
    obtain ⟨first, others⟩ := List.forall_mem_cons.1 trimmed
    obtain ⟨e, es, declared, parts, rfl⟩ := List.forall₂_cons_left_iff.1 h
    rw [declareEach_cons first declared, joins_cons]
    constructor
    · rintro ⟨fresh, joins⟩
      rw [if_neg (by grind), if_neg (by grind), (ih others parts).1 joins]
      cases n <;> rfl
    · intro stays
      split
      · exact ⟨_, rfl⟩
      split
      · exact ⟨_, rfl⟩
      · exact (ih others parts).2 (by grind)

theorem name_of_declaration {entries : List (String × String)}
    (h : Have (entries.map IsDeclaration) es) : ∀ c ∈ es, c.name = "prefix" := by
  induction entries generalizing es with
  | nil =>
    obtain rfl := List.forall₂_nil_left_iff.1 h
    exact nofun
  | cons entry entries ih =>
    obtain ⟨e, es, declared, others, rfl⟩ := List.forall₂_cons_left_iff.1 h
    exact List.forall_mem_cons.2 ⟨declared.1, ih others⟩

theorem name_of_declarationsParts {map : PrefixMap} (h : Have (declarationsParts map) es) :
    ∀ c ∈ es, c.name = "prefixes" := by
  unfold declarationsParts at h
  split at h
  · obtain rfl := List.forall₂_nil_left_iff.1 h
    exact nofun
  · simp only [List.forall₂_cons_left_iff, List.forall₂_nil_left_iff] at h
    obtain ⟨list, _, ⟨isList, -⟩, rfl, rfl⟩ := h
    simpa using isList

/-- The three parts of a node are found behind its declarations. -/
theorem parts_found {x y z : Element} (prefixes : ∀ c ∈ es, c.name = "prefixes")
    (eq : elements e.children = es ++ [x, y, z])
    (distinct : ["prefixes", x.name, y.name, z.name].Nodup) :
    (onlyChildren e ["prefixes", x.name, y.name, z.name] : Except Diagnostic Unit) = .ok () ∧
      (required e x.name : Except Diagnostic Element) = .ok x ∧
      (required e y.name : Except Diagnostic Element) = .ok y ∧
      (required e z.name : Except Diagnostic Element) = .ok z := by
  simp only [List.nodup_cons, List.mem_cons, List.not_mem_nil, or_false, not_or] at distinct
  obtain ⟨⟨px, py, pz⟩, ⟨xy, xz⟩, yz, -⟩ := distinct
  have skipped {tag : String} (other : ¬"prefixes" = tag) :
      es.find? (·.name = tag) = none := by
    simp only [List.find?_eq_none, decide_eq_true_eq]
    intro c hc named
    exact other ((prefixes c hc).symm.trans named)
  refine ⟨onlyChildren_eq fun c hc => ?_, ?_, ?_, ?_⟩
  · rw [eq] at hc
    simp only [List.mem_append, List.mem_cons, List.not_mem_nil, or_false] at hc
    rcases hc with hc | rfl | rfl | rfl
    · simp [prefixes c hc]
    · simp
    · simp
    · simp
  · simp [required, child?, eq, skipped px, pure_eq_ok]
  · simp [required, child?, eq, skipped py, xy, pure_eq_ok]
  · simp [required, child?, eq, skipped pz, xz, yz, pure_eq_ok]

/-- A list of declarations in an element is read in its order. -/
theorem declarePrefixes_list {entries : List (String × String)} {list : Element} {n : Node}
    (isList : IsDeclarationList entries list) {rest : List Element}
    (eq : elements e.children = list :: rest) :
    (declarePrefixes d e n : Except Diagnostic Node) =
      declareEach d [] n (elements list.children) := by
  obtain ⟨named, parts⟩ := isList
  have found : child? e "prefixes" = some list := by
    simp [child?, eq, named]
  have only : (onlyChildren list ["prefix"] : Except Diagnostic Unit) = .ok () :=
    onlyChildren_eq fun c hc => by simp [name_of_declaration parts c hc]
  rw [declarePrefixes, found]
  exact bind_of_eq_ok only

/-- The declarations of a node are put on what is read of the rest of its element. -/
theorem declarePrefixes_eq {map : PrefixMap} {n : Node} (undeclared : n.prefixes = .empty)
    (readable : map.Readable d) (portable : map.Portable)
    (h : Have (declarationsParts map) es) {rest : List Element}
    (others : ∀ c ∈ rest, c.name ≠ "prefixes") (eq : elements e.children = es ++ rest) :
    (declarePrefixes d e n : Except Diagnostic Node) = .ok (n.withPrefixes map) := by
  unfold declarationsParts at h
  split at h
  · rename_i isEmpty
    obtain rfl := List.forall₂_nil_left_iff.1 h
    have none : child? e "prefixes" = none := by
      simpa [child?, eq] using others
    obtain rfl : map = .empty := PrefixMap.ext (List.isEmpty_iff.1 isEmpty)
    rw [declarePrefixes, none, ← undeclared]
    cases n <;> rfl
  · simp only [List.forall₂_cons_left_iff, List.forall₂_nil_left_iff] at h
    obtain ⟨list, _, isList, rfl, rfl⟩ := h
    have trimmed : ∀ e ∈ map.entries, Text.trim e.1 = e.1 ∧ Text.trim e.2 = e.2 :=
      fun e he => ⟨(portable e he).1.2, (portable e he).2.2⟩
    have joins : Joins d [] map.entries := by
      refine ⟨fun _ => ⟨map.nodup_names, fun _ _ => List.not_mem_nil⟩, fun strict e he => ?_⟩
      rw [Text.lowerCase_eq_self (readable.canonical e he)]
      exact readable.allowed strict e he
    have same : PrefixMap.empty.insertAll (map.entries.map fun e => (Text.lowerCase e.1, e.2)) =
        map := Grammar.bindings_entries readable.canonical
    rw [declarePrefixes_list isList eq, (declareEach_eq trimmed isList.2).1 joins, undeclared, same]

/-! ## Nodes -/

/-- What is read of the element of a node, wherever so many triples may be opened. -/
def ReadsNode (d : Dialect) (n : Node) (e : Element) : Prop :=
  ∀ levels, n.height ≤ levels → (readNode d levels e : Except Diagnostic Node) = .ok n

/-- What is written of a clause, its declarations apart. -/
def clauseParts (d : Dialect) (c : SearchClause) : List (Element → Prop) :=
  [IsLeaf "index" c.index.fullName,
    fun e => e.name = "relation" ∧ (readRelation d e : Except Diagnostic Relation) = .ok c.relation,
    IsLeaf "term" c.term.value]

theorem fills_clause {c : SearchClause} (readable : c.Readable d) (portable : c.Portable)
    (level : Nat) : Fills (leaf level "index" c.index.fullName ++
      block level "relation" (leaf (level + 1) "value" c.relation.name.fullName ++
        modifiers (level + 1) c.relation.modifiers) ++
      leaf level "term" c.term.value) 4 (clauseParts d c) :=
  ((fills_leaf "index" (by decide) portable.index.plain level).append
    (fills_relation readable.relation readable.modifiers portable.relation portable.modifiers
      level)).append (fills_leaf "term" (by decide) portable.term level)

/-- A clause is read from its parts, whatever declarations stand before them. -/
theorem readClause_eq {c : SearchClause} (readable : c.Readable d) (portable : c.Portable)
    {rest : List Element} (prefixes : ∀ x ∈ es, x.name = "prefixes")
    (parts : Have (clauseParts d c) rest) (eq : elements e.children = es ++ rest) :
    (readClause d e : Except Diagnostic Node) = .ok (.clause .empty c) ∧
      ∀ x ∈ rest, x.name ≠ "prefixes" := by
  simp only [clauseParts, List.forall₂_cons_left_iff, List.forall₂_nil_left_iff] at parts
  obtain ⟨i, _, ⟨isIndex, index⟩, ⟨r, _, ⟨isRelation, relation⟩, ⟨t, _, ⟨isTerm, term⟩, rfl, rfl⟩,
    rfl⟩, rfl⟩ := parts
  obtain ⟨only, findIndex, findRelation, findTerm⟩ := parts_found prefixes eq
    (by simp [isIndex, isRelation, isTerm])
  rw [isIndex, isRelation, isTerm] at only
  rw [isIndex] at findIndex
  rw [isRelation] at findRelation
  rw [isTerm] at findTerm
  have literal := (Term.parse_eq_ok.1 readable.term).2.2.2
  refine ⟨?_, by simp [isIndex, isRelation, isTerm]⟩
  simp [readClause, only, findIndex, findRelation, findTerm, relation, term, lift_eq, literal,
    name_eq readable.index portable.index index, Journal.note, bind_eq_ok]

theorem readsNode_clause {p : PrefixMap} {c : SearchClause} (isClause : e.name = "searchClause")
    (readable : (Node.clause p c).Readable d) (portable : (Node.clause p c).Portable)
    (parts : Have (declarationsParts p ++ clauseParts d c) (elements e.children)) :
    ReadsNode d (.clause p c) e := by
  intro levels _
  obtain ⟨es, rest, declared, parts, eq⟩ := parts.split
  obtain ⟨read, others⟩ := readClause_eq readable.2 portable.2 (name_of_declarationsParts declared)
    parts eq
  have declare := declarePrefixes_eq (n := .clause .empty c) rfl readable.1 portable.1 declared
    others eq
  unfold readNode
  simp [isClause, read, declare, bind_eq_ok, Node.withPrefixes]

theorem readsNode_triple {p : PrefixMap} {b : Boolean} {l r : Node} (isTriple : e.name = "triple")
    (readable : (Node.triple p b l r).Readable d) (portable : (Node.triple p b l r).Portable)
    (parts : Have (declarationsParts p ++ [
      fun e => e.name = "boolean" ∧ (readBoolean d e : Except Diagnostic Boolean) = .ok b,
      fun e => e.name = "leftOperand" ∧ Have [ReadsNode d l] (elements e.children),
      fun e => e.name = "rightOperand" ∧ Have [ReadsNode d r] (elements e.children)])
      (elements e.children)) : ReadsNode d (.triple p b l r) e := by
  intro levels high
  obtain ⟨levels, rfl⟩ : ∃ k, levels = k + 1 := ⟨levels - 1, by simp [Node.height] at high; omega⟩
  obtain ⟨es, rest, declared, parts, eq⟩ := parts.split
  have prefixes := name_of_declarationsParts declared
  simp only [List.forall₂_cons_left_iff, List.forall₂_nil_left_iff] at parts
  obtain ⟨o, _, ⟨isBoolean, boolean⟩, ⟨x, _, ⟨isLeft, left, _, readsLeft, rfl, insideLeft⟩,
    ⟨y, _, ⟨isRight, right, _, readsRight, rfl, insideRight⟩, rfl, rfl⟩, rfl⟩, rfl⟩ := parts
  obtain ⟨only, findBoolean, findLeft, findRight⟩ := parts_found prefixes eq
    (by simp [isBoolean, isLeft, isRight])
  rw [isBoolean, isLeft, isRight] at only
  rw [isBoolean] at findBoolean
  rw [isLeft] at findLeft
  rw [isRight] at findRight
  have low : l.height ≤ levels ∧ r.height ≤ levels := by
    simp only [Node.height] at high
    omega
  have read : (readTriple d (readNode d levels) e : Except Diagnostic Node) =
      .ok (.triple .empty b l r) := by
    simp [readTriple, only, findBoolean, findLeft, findRight, boolean, readOperand, insideLeft,
      insideRight, readsLeft levels low.1, readsRight levels low.2, Journal.note, bind_eq_ok]
  have declare := declarePrefixes_eq (n := .triple .empty b l r) rfl readable.1 portable.1 declared
    (by simp [isBoolean, isLeft, isRight]) eq
  unfold readNode
  simp [isTriple, read, declare, bind_eq_ok, Node.withPrefixes]

/-- A node is written as one element, from which it is read back. -/
theorem spells_node {n : Node} (readable : n.Readable d) (portable : n.Portable) (level : Nat) :
    ∃ text, Xcql.node level n = line level text ∧
      Spells text (2 * n.height + 5) (ReadsNode d n) := by
  induction n generalizing level with
  | clause p c =>
    have inside := (fills_declarations portable.1 (level + 1)).append
      (fills_clause (d := d) readable.2 portable.2 (level + 1))
    refine ⟨_, ?_, (Spells.block "searchClause" (by decide) inside level).imp ?_ ?_⟩
    · rw [← Xml.block_eq, Xcql.node]
      simp only [String.append_assoc]
    · simp [Node.height]
    · rintro e ⟨isClause, parts⟩
      exact readsNode_clause isClause readable portable parts
  | triple p b l r ihl ihr =>
    obtain ⟨left, leftEq, spellsLeft⟩ := ihl readable.2.2.1 portable.2.2.1 (level + 2)
    obtain ⟨right, rightEq, spellsRight⟩ := ihr readable.2.2.2 portable.2.2.2 (level + 2)
    have inside := (((fills_declarations portable.1 (level + 1)).append
      (fills_boolean (d := d) readable.2.1 portable.2.1 (level + 1))).append
      ((spellsLeft.line (level + 2)).block "leftOperand" (by decide) (level + 1))).append
      ((spellsRight.line (level + 2)).block "rightOperand" (by decide) (level + 1))
    rw [← leftEq, ← rightEq] at inside
    refine ⟨_, Xml.block_eq _ _ _, (Spells.block _ (by decide) inside level).imp ?_ ?_⟩
    · simp only [Node.height]
      omega
    · rintro e ⟨isTriple, parts⟩
      exact readsNode_triple isTriple readable portable (by simpa using parts)

end Xcql

/-- The XML form of a query that was read from a text reads back, with the prefixes of all nodes, if
the library reads documents as they were printed. A text has no more bytes than memory can hold, so
the count of its levels stays in a word. -/
theorem Query.parseXml_toXcql [Xml.Library] (faithful : Xml.Library.Faithful) {d : Dialect} {text : String} {q : Query} (level : Nat)
    (fits : text.utf8ByteSize < Word.count64 / 2) (parsed : Query.parse d text = .ok q)
    (portable : q.root.Portable) : Query.parseXml d (q.toXcql level) = .ok q := by
  obtain ⟨rfl, closed, derives⟩ := Query.parse_eq_ok_iff.1 parsed
  have readable := Query.readable_of_parse parsed
  obtain ⟨line, written, spells⟩ := Xcql.spells_node readable portable level
  obtain ⟨root, document, reads⟩ := faithful spells level
  have low : q.root.height ≤ q.dialect.maxDepth := Nat.cast_le.1 (derives.height_le_limit nofun)
  have shallow : ¬Xcql.elementDepth (q.toXcql level) > Xcql.elementLimit q.dialect := by
    have depth := spells.elementDepth_line level
    have small := derives.two_mul_height_lt
    have tokens := TokenStream.length_tokens_ofText_le text
    rw [← written] at depth
    simp only [Query.toXcql, Node.toXcql, Xcql.elementLimit, Xcql.countLimit, Word.count64] at *
    omega
  have parsedLine : Xml.Library.parse? (q.toXcql level) = some root := by
    rwa [Query.toXcql, Node.toXcql, written]
  unfold Query.parseXml Query.readXml
  simp [shallow, parsedLine, Journal.note, reads q.dialect.maxDepth low, Reader.bind_eq_ok]

/-- A declaration, a modifier with a value and characters that need references are kept. -/
theorem Query.parseXml_toXcql_declared : ∃ q,
    Query.parse {} ">x=u x.y any/z \"a < b\" or/m>=1 c" = .ok q ∧
      Query.parseXml {} (q.toXcql 1) = .ok q := by
  let q : Query := ⟨.triple (.ofList [("x", "u")]) ⟨.or, [⟨⟨none, "m"⟩, some .ge, some "1"⟩]⟩
    (.clause .empty
      ⟨⟨some "x", "y"⟩, ⟨⟨none, "any"⟩, [⟨⟨none, "z"⟩, none, none⟩]⟩, ⟨"a < b"⟩⟩)
    (.clause .empty (.serverChoice {} ⟨"c"⟩)), {}⟩
  have parsed : Query.parse {} ">x=u x.y any/z \"a < b\" or/m>=1 c" = .ok q := by
    decide +kernel
  exact ⟨q, parsed,
    Query.parseXml_toXcql Xml.Document.faithful 1 (by decide) parsed (by decide +kernel)⟩

end ContextQuery
