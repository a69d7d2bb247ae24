import ContextQuery.Proofs.Clause
import ContextQuery.Proofs.Query.Binding
import ContextQuery.Proofs.Query.Unplaced
import ContextQuery.Proofs.Text.Sigma

/-!
# An index behind a declaration of its prefix

A declaration lower-cases the name that it declares, an index lower-cases the word with its dot and
all. So the prefix of an index is the declared name unless lower-casing it depends on what stands
behind the dot, which it does for a capital sigma at its end.

## Main results

* `Name.parse_prefixed`: the prefix and the value of a word with a dot.
* `Query.indexSet?_declared_iff`: when a declaration binds the prefix of the index behind it.
-/

namespace ContextQuery

/-- The lexer takes the text for one word. -/
def IsWord (s : String) : Prop :=
  s ≠ "" ∧ ∀ c ∈ s.toList, isWordChar c = true

namespace IsWord

variable {s t : String}

theorem head_ne_quote (h : IsWord s) : s.toList.head? ≠ some '"' := by
  intro head
  simpa [isWordChar_quote] using h.2 _ (List.mem_of_head? head)

theorem unquote_eq (h : IsWord s) : unquote s = s := by
  rw [unquote, unquoteText_of_head h.head_ne_quote, String.ofList_toList]

theorem ofAlphanumeric (nonempty : s ≠ "") (h : ∀ c ∈ s.toList, c.isAlphanum = true) :
    IsWord s := by
  refine ⟨nonempty, fun c mem => ?_⟩
  simp [isWordChar, Text.isAlphanumeric, Text.lt_of_isAlphanum (h c mem), h c mem]

theorem shape (h : IsWord s) {after : List Char} (ends : endsWord after = true) :
    Token.Shape .word s.toList after := by
  obtain ⟨c, cs, eq⟩ := List.exists_cons_of_ne_nil (String.toList_eq_nil_iff.not.2 h.1)
  have chars := h.2
  rw [eq, List.forall_mem_cons] at chars
  rw [eq]
  exact .word chars.1 (fun e mem => by simp [continuesWord, chars.2 e mem]) ends

/-- A sign stands for itself before a word. -/
theorem shape_sign (h : IsWord s) (sign : Comparison) (after : List Char) :
    Token.Shape .comparison sign.sign.toList (s.toList ++ after) := by
  obtain ⟨c, cs, eq⟩ := List.exists_cons_of_ne_nil (String.toList_eq_nil_iff.not.2 h.1)
  have starts : isWordChar c = true := h.2 c (by simp [eq])
  refine Token.shape_sign sign ⟨fun mark => ?_, fun mark => ?_⟩
  · obtain rfl : c = '=' := by simpa [eq] using mark
    simp [isWordChar_of_mark] at starts
  · obtain rfl : c = '>' := by simpa [eq] using mark
    simp [isWordChar_of_mark] at starts

theorem dotted (h : IsWord s) (h' : IsWord t) : IsWord (s ++ "." ++ t) := by
  have dot : ∀ c ∈ ".".toList, isWordChar c = true := by decide +kernel
  have nonempty : s ++ "." ++ t ≠ "" := fun empty =>
    h.1 (String.append_eq_empty_iff.1 (String.append_eq_empty_iff.1 empty).1).1
  refine ⟨nonempty, ?_⟩
  rw [String.toList_append, String.toList_append, List.forall_mem_append, List.forall_mem_append]
  exact ⟨⟨h.2, dot⟩, h'.2⟩

end IsWord

namespace Name

theorem split_dotted {cs ds : List Char} (nonempty : cs ≠ []) (plain : '.' ∉ cs)
    (plain' : '.' ∉ ds) :
    split (cs ++ '.' :: ds) = .ok ⟨some (String.ofList cs), String.ofList ds⟩ := by
  obtain ⟨c, cs, rfl⟩ := List.exists_cons_of_ne_nil nonempty
  have once : ((c :: cs) ++ '.' :: ds).count '.' = 1 := by
    rw [List.count_append, List.count_cons_self, List.count_eq_zero.2 plain,
      List.count_eq_zero.2 plain']
  have before : ∀ e ∈ c :: cs, (e != '.') = true := fun e mem => by
    simpa using ne_of_mem_of_not_mem mem plain
  have first : c ≠ '.' := by simpa using before c List.mem_cons_self
  rw [split, if_neg (by omega), List.dropWhile_append_of_pos before,
    List.takeWhile_append_of_pos before]
  simp [first]

/-- A word with a dot: the prefix is lower-cased before the dot and the value, the value behind
them. -/
theorem parse_prefixed {n v : String} (name : IsWord n) (value : IsWord v)
    (plain : '.' ∉ n.toList) (plain' : '.' ∉ v.toList) :
    parse {} (n ++ "." ++ v) = .ok
      ⟨some (String.ofList (Text.lowerWithin [] ('.' :: v.toList) n.toList)),
        String.ofList (Text.lowerAfter ('.' :: n.toList.reverse) v.toList)⟩ := by
  have chars : (n ++ "." ++ v).toList = n.toList ++ '.' :: v.toList := by simp
  have lower : Text.lower (n ++ "." ++ v).toList =
      Text.lowerWithin [] ('.' :: v.toList) n.toList ++
        '.' :: Text.lowerAfter ('.' :: n.toList.reverse) v.toList := by
    rw [chars, Text.lower, Text.lowerAfter_append, List.append_nil]
    rfl
  have bare := lower_head_ne_quote (name.dotted value).head_ne_quote
  rw [parse, isQuotedText_eq_false bare, unquoteText_of_head bare, lower]
  have low : '.'.toNat ≤ 0x60 := by decide
  refine split_dotted (Text.lowerWithin_ne_nil (String.toList_eq_nil_iff.not.2 name.1))
    (fun mem => plain (Text.mem_of_mem_lowerWithin low mem)) fun mem => plain' ?_
  rw [← Text.lowerWithin_nil] at mem
  exact Text.mem_of_mem_lowerWithin low mem

end Name

namespace Term

/-- Letters and digits are read as a term of their own. -/
theorem parse_alphanumeric {t : String} (nonempty : t ≠ "")
    (h : ∀ c ∈ t.toList, c.isAlphanum = true) : parse {} t = .ok ⟨t⟩ := by
  have bare : body t.toList = t.toList := by
    rw [body, isQuotedText_eq_false (IsWord.ofAlphanumeric nonempty h).head_ne_quote]
    rfl
  have plain (cs : List Char) (h : ∀ c ∈ cs, c.isAlphanum = true) : readEscapes cs = some cs := by
    induction cs with
    | nil => rfl
    | cons c cs ih =>
      rw [List.forall_mem_cons] at h
      have noBackslash : c ≠ '\\' := by
        rintro rfl
        exact absurd h.1 (by decide)
      rw [readEscapes_plain noBackslash, ih h.2]
      rfl
  obtain ⟨c, cs, eq⟩ := List.exists_cons_of_ne_nil (String.toList_eq_nil_iff.not.2 nonempty)
  have first : c.isAlphanum = true := h c (by simp [eq])
  refine parse_eq_ok.2 ⟨fun operator => ?_, .inr ?_, bare.symm ▸ plain _ h,
    literal_eq_ok.2 ⟨rfl, fun _ => nonempty⟩⟩
  · have signs : ∀ s ∈ bareOperators, s.toList.all (·.isAlphanum) = false := by decide +kernel
    exact Bool.eq_false_iff.1 (signs t operator) (List.all_eq_true.2 h)
  · have noAnchor : c ≠ '^' := by
      rintro rfl
      exact absurd first (by decide)
    rw [bare, eq]
    simp [noAnchor]

end Term

namespace Query

open Reader Grammar Token

variable {n u v t : String}

/-- The tokens of a declaration and a clause, all in words. -/
theorem cutAnywhere_prefixed (name : IsWord n) (identifier : IsWord u) (index : IsWord v)
    (term : IsWord t) : CutAnywhere (">" ++ n ++ "=" ++ u ++ " " ++ v ++ " = " ++ t).toList
      [⟨.comparison, ">", 0⟩, ⟨.word, n, 0⟩, ⟨.comparison, "=", 0⟩, ⟨.word, u, 0⟩, ⟨.word, v, 0⟩,
        ⟨.comparison, "=", 0⟩, ⟨.word, t, 0⟩] [] := by
  have last := CutAnywhere.nil.cons (term.shape rfl)
  have sign := last.blank.cons (shape_sign .eq (by simp))
  have clause := sign.blank.cons (index.shape rfl)
  have declared := (clause.blank.cons (identifier.shape rfl)).cons (identifier.shape_sign .eq _)
  have cut := (declared.cons (name.shape rfl)).cons (name.shape_sign .gt _)
  simpa [Comparison.sign] using cut

/-- Behind a declaration of its prefix, the index of a clause has the prefix as it is lower-cased
there. -/
theorem parse_prefixed (name : IsWord n) (value : IsWord v) (identifier : IsWord u)
    (plain : '.' ∉ n.toList) (plain' : '.' ∉ v.toList) (nonempty : t ≠ "")
    (term : ∀ c ∈ t.toList, c.isAlphanum = true) :
    ∃ c : SearchClause,
      c.index.set = some (String.ofList (Text.lowerWithin [] ('.' :: v.toList) n.toList)) ∧
      parse {} (">" ++ n ++ "=" ++ u ++ " " ++ (n ++ "." ++ v) ++ " = " ++ t) =
        .ok ⟨.clause (bindings [(n, u)]) c, {}⟩ := by
  have index := Name.parse_prefixed name value plain plain'
  have word := IsWord.ofAlphanumeric nonempty term
  have relation : Name.parse {} "=" = .ok ⟨none, "="⟩ := by decide +kernel
  have reads : ReadsTerm {} ⟨.word, t, 0⟩ ⟨t⟩ :=
    ⟨nofun, nofun, Term.parse_alphanumeric nonempty term⟩
  have clause : Clause {} [⟨.word, n ++ "." ++ v, 0⟩, ⟨.comparison, "=", 0⟩, ⟨.word, t, 0⟩]
      ⟨_, ⟨⟨none, "="⟩, []⟩, ⟨t⟩⟩ [] := .full rfl rfl index rfl relation (.done rfl) reads
  have group : Declarations (⟨.comparison, ">", 0⟩ :: ⟨.word, n, 0⟩ :: ⟨.comparison, "=", 0⟩ ::
      ⟨.word, u, 0⟩ :: [⟨.word, n ++ "." ++ v, 0⟩, ⟨.comparison, "=", 0⟩, ⟨.word, t, 0⟩])
      [(unquote n, unquote u)] _ := .named rfl rfl rfl rfl (.done rfl)
  rw [name.unquote_eq, identifier.unquote_eq] at group
  have room : ((255 : ℕ) : ℕ∞) + 1 ≤ ({} : Dialect).maxDepth := by exact_mod_cast le_rfl
  have parsed := parse_of_derives (cutAnywhere_prefixed name identifier (name.dotted value) word)
    (.query room group nofun (.clause clause) (.done rfl) nofun)
  rw [Node.declareMap_eq] at parsed
  exact ⟨_, rfl, parsed.trans (by rw [Node.prefixes, PrefixMap.empty_insertAll_entries]; rfl)⟩

theorem indexSet?_clause {map : PrefixMap} {c : SearchClause} {name : String}
    (named : c.index.set = some name) :
    (⟨.clause map c, {}⟩ : Query).clauses.map (·.indexSet? {}) =
      [(map.get? name).or (ContextSet.reserved? name)] := by
  have root : (⟨.clause map c, {}⟩ : Query).clauses = [⟨[], [], .clause map c⟩] := rfl
  rw [root, List.map_singleton, Located.indexSet?]
  simp [Node.clause?, Node.prefixes, Scope.contextSet?, Scope.resolve?, named]

/-- A declaration binds the prefix of the index behind it, unless the name ends in a capital sigma
after another letter and the value has a letter before all else that counts in a word: then the
sigma is final in the declaration and medial in the index, whose prefix is bound to nothing. -/
theorem indexSet?_declared_iff (name : IsWord n) (value : IsWord v) (plain : '.' ∉ n.toList)
    (plain' : '.' ∉ v.toList) (nonempty : u ≠ "") (identifier : ∀ c ∈ u.toList, c.isAlphanum = true)
    (nonempty' : t ≠ "") (term : ∀ c ∈ t.toList, c.isAlphanum = true) :
    ∃ q, parse {} (">" ++ n ++ "=" ++ u ++ " " ++ (n ++ "." ++ v) ++ " = " ++ t) = .ok q ∧
      q.root.isClause = true ∧
      (¬(Text.EndsInSigma [] n.toList ∧ Text.reachesCased v.toList = true) →
        q.clauses.map (·.indexSet? q.dialect) = [some u]) ∧
      (Text.EndsInSigma [] n.toList ∧ Text.reachesCased v.toList = true →
        q.clauses.map (·.indexSet? q.dialect) = [none]) := by
  obtain ⟨c, set, parsed⟩ := parse_prefixed name value (.ofAlphanumeric nonempty identifier) plain
    plain' nonempty' term
  generalize chars : Text.lowerWithin [] ('.' :: v.toList) n.toList = cs at set
  -- The declared name is the prefix of the index if both are lower-cased alike.
  have alike : Text.lowerCase n = String.ofList cs ↔
      ¬(Text.EndsInSigma [] n.toList ∧ Text.reachesCased v.toList = true) := by
    have dot : Text.reachesCased (['.'] ++ v.toList) = Text.reachesCased v.toList :=
      Text.reachesCased_of_ignorable (by decide +kernel) v.toList
    rw [← dot, ← Text.lowerWithin_eq_iff, Text.lowerCase, String.ofList_inj, eq_comm, ← chars]
    rfl
  have found : (bindings [(n, u)]).get? (String.ofList cs) =
      if Text.lowerCase n = String.ofList cs then some u else none := by
    rw [DeclarationGroup.get?_bindings, DeclarationGroup.declaration?]
    by_cases same : Text.lowerCase n = String.ofList cs <;> simp [same]
  refine ⟨_, parsed, rfl, fun medial => ?_, fun final => ?_⟩
  · rw [indexSet?_clause set, found, if_pos (alike.2 medial)]
    rfl
  · have unreserved : ContextSet.reserved? (String.ofList cs) = none := by
      obtain ⟨front, back, eq, -⟩ := final.1
      have inside : 'Σ' ∈ n.toList := by simp [eq]
      have sigma := Text.sigma_mem_lowerWithin [] ('.' :: v.toList) inside
      rw [chars] at sigma
      have other (name : String) (plain : 'σ' ∉ name.toList ∧ 'ς' ∉ name.toList) :
          String.ofList cs ≠ name := by
        rintro rfl
        simp only [String.toList_ofList] at plain
        exact sigma.elim plain.1 plain.2
      rw [ContextSet.reserved?, if_neg (other _ (by decide)), if_neg (other _ (by decide))]
    rw [indexSet?_clause set, found, if_neg fun same => alike.1 same final, unreserved]
    rfl

/-- The sigma of the prefix is final before a digit, and medial before a letter. -/
theorem indexSet?_declared_sigma :
    (∃ q, parse {} ">ΑΣ=u ΑΣ.1 = t" = .ok q ∧
      q.clauses.map (·.indexSet? q.dialect) = [some "u"]) ∧
    ∃ q, parse {} ">ΑΣ=u ΑΣ.Χ = t" = .ok q ∧ q.clauses.map (·.indexSet? q.dialect) = [none] := by
  have name : IsWord "ΑΣ" := ⟨by decide, by decide +kernel⟩
  have ends : Text.EndsInSigma [] "ΑΣ".toList := ⟨['Α'], [], rfl, by decide +kernel, nofun⟩
  have digit := indexSet?_declared_iff (n := "ΑΣ") (v := "1") (u := "u") (t := "t") name
    ⟨by decide, by decide +kernel⟩ (by decide) (by decide) (by decide) (by decide) (by decide)
    (by decide)
  have letter := indexSet?_declared_iff (n := "ΑΣ") (v := "Χ") (u := "u") (t := "t") name
    ⟨by decide, by decide +kernel⟩ (by decide) (by decide) (by decide) (by decide) (by decide)
    (by decide)
  obtain ⟨q, parsed, -, bound, -⟩ := digit
  obtain ⟨q', parsed', -, -, unbound⟩ := letter
  exact ⟨⟨q, parsed, bound fun h => absurd h.2 (by decide +kernel)⟩,
    q', parsed', unbound ⟨ends, by decide +kernel⟩⟩

/-- So a declaration may fail to bind the prefix of the very next index, spelled as declared. -/
theorem indexSet?_not_declared :
    ∃ n v u t : String, IsWord n ∧ IsWord v ∧ '.' ∉ n.toList ∧ '.' ∉ v.toList ∧ u ≠ "" ∧ t ≠ "" ∧
      (∀ c ∈ u.toList ++ t.toList, c.isAlphanum = true) ∧
      ∀ q, parse {} (">" ++ n ++ "=" ++ u ++ " " ++ (n ++ "." ++ v) ++ " = " ++ t) = .ok q →
        q.clauses.map (·.indexSet? q.dialect) ≠ [some u] := by
  let c : SearchClause := ⟨⟨some "ασ", "χ"⟩, ⟨⟨none, "="⟩, []⟩, ⟨"t"⟩⟩
  have parsed :
      parse {} (">" ++ "ΑΣ" ++ "=" ++ "u" ++ " " ++ ("ΑΣ" ++ "." ++ "Χ") ++ " = " ++ "t") =
        .ok ⟨.clause (.ofList [("ας", "u")]) c, {}⟩ := by
    decide +kernel
  refine ⟨"ΑΣ", "Χ", "u", "t", ⟨by decide, by decide +kernel⟩, ⟨by decide, by decide +kernel⟩,
    by decide, by decide, by decide, by decide, by decide, fun q read => ?_⟩
  obtain rfl := Except.ok.inj (parsed.symm.trans read)
  decide +kernel

end Query

end ContextQuery
