import ContextQuery.Proofs.Query.Acceptance

/-!
# Refusals for the nesting limit

Opening a query and joining operands are the only steps that refuse a text for the nesting limit.
More levels change nothing else about what is read.

## Main definitions

* `Reader.Shallow`: a part is not refused for the nesting limit.
* `Reader.Within`: a result is another one, or a refusal for the nesting limit.

## Main results

* `Reader.shallow_declarations`, `Reader.shallow_clause`, `Reader.shallow_boolean?`: the parts that
  do not nest.
* `Reader.query_within`: a query that is read with fewer levels.
-/

namespace ContextQuery.Reader

variable {α β : Type} {limit : Nat}

/-- The part is not refused for the nesting limit. -/
def Shallow (limit : Nat) (x : Except Diagnostic α) : Prop :=
  x ≠ .error (Diagnostic.tooDeep limit)

namespace Shallow

theorem pure {a : α} : Shallow limit (Pure.pure a) :=
  nofun

/-- Another kind of diagnostic. -/
theorem refuse {kind : Diagnostic.Kind} {details : String} (other : kind ≠ .querySyntax) :
    Shallow limit (Reader.refuse kind details : Except Diagnostic α) := by
  intro same
  exact other (congrArg Diagnostic.kind (Except.error.inj same))

/-- Other details. -/
theorem refuse_details {kind : Diagnostic.Kind} {details : String}
    (other : details.toList.head? ≠ some 'Q') :
    Shallow limit (Reader.refuse kind details : Except Diagnostic α) := by
  intro same
  obtain ⟨-, rfl⟩ := Diagnostic.mk.inj (Except.error.inj same)
  exact other (by simp)

theorem bind {x : Except Diagnostic α} {f : α → Except Diagnostic β} (first : Shallow limit x)
    (second : ∀ a, x = .ok a → Shallow limit (f a)) : Shallow limit (x >>= f) := by
  cases x with
  | ok a => exact second a rfl
  | error e => exact fun same => first (congrArg Except.error (Except.error.inj same))

theorem ite {c : Prop} [Decidable c] {x y : Except Diagnostic α} (true : c → Shallow limit x)
    (false : ¬ c → Shallow limit y) : Shallow limit (if c then x else y) := by
  by_cases h : c
  · rw [if_pos h]
    exact true h
  · rw [if_neg h]
    exact false h

end Shallow

/-! ## Parts that do not nest -/

theorem shallow_name (d : Dialect) (raw : String) : Shallow limit (Name.parse d raw) := by
  refine .ite (fun _ => .refuse (by decide)) fun _ => ?_
  refine .ite (fun _ => .refuse (by decide)) fun _ => ?_
  split
  · exact .pure
  · exact .ite (fun _ => .refuse (by decide)) fun _ => .pure

theorem shallow_termText (d : Dialect) (raw : String) : Shallow limit (Term.parse d raw) := by
  refine .ite (fun _ => .refuse (by decide)) fun _ => ?_
  refine .ite (fun _ => .refuse (by decide)) fun _ => ?_
  split
  · exact .ite (fun _ => .refuse (by decide)) fun _ => .pure
  · exact .refuse (by decide)

variable {s : Source}

theorem shallow_lift {x : Except Diagnostic α} (shallow : Shallow limit x) :
    Shallow limit (lift x : Except Diagnostic α) := by
  rwa [lift_eq]

theorem shallow_step (ts : List Token) : Shallow limit (step s ts : Except Diagnostic Unit) := by
  unfold step pull
  split
  · exact .pure
  · cases s.unclosed with
    | none => exact .pure
    | some text => exact .refuse (by decide)

theorem shallow_modifiers (ts : List Token) :
    Shallow limit (modifiers s ts : Except Diagnostic _) := by
  induction hn : ts.length using Nat.strong_induction_on generalizing ts with
  | _ _ ih =>
    subst hn
    obtain - | ⟨slash, ts⟩ := ts
    · exact .pure
    unfold modifiers
    refine .ite (fun _ => .bind (shallow_step ts) fun _ _ => ?_) fun _ => .pure
    obtain - | ⟨name, ts⟩ := ts
    · exact .refuse (by decide)
    refine .ite (fun _ => .bind (shallow_step ts) fun _ _ => ?_) fun _ => .refuse (by decide)
    refine .bind (shallow_lift (shallow_name _ _)) fun _ _ => .ite (fun _ => ?_) fun _ => ?_
    · obtain - | ⟨sign, - | ⟨value, ts⟩⟩ := ts
      · exact .refuse (by decide)
      · exact .bind (shallow_step []) fun _ _ => .refuse (by decide)
      · refine .bind (shallow_step _) fun _ _ => .ite (fun _ => ?_) fun _ => .refuse (by decide)
        refine .bind (shallow_step ts) fun _ _ => ?_
        exact .bind (ih _ (by grind) ts rfl) fun _ _ => .pure
    · exact .bind (ih _ (by grind) ts rfl) fun _ _ => .pure

theorem shallow_bindIdentifier (g : Group) (name : String) (t : Token) (rest : List Token) :
    Shallow limit (bindIdentifier s g name t rest : Except Diagnostic _) := by
  unfold bindIdentifier
  refine .ite (fun _ => .bind (shallow_step rest) fun _ _ => ?_) fun _ => .refuse_details (by simp)
  exact .ite (fun _ => .refuse (by decide)) fun _ => .pure

theorem shallow_declarations (g : Group) (ts : List Token) :
    Shallow limit (declarations s g ts : Except Diagnostic _) := by
  induction hn : ts.length using Nat.strong_induction_on generalizing g ts with
  | _ _ ih =>
    subst hn
    obtain - | ⟨sign, ts⟩ := ts
    · exact .pure
    unfold declarations
    refine .ite (fun _ => .bind (shallow_step ts) fun _ _ => ?_) fun _ => .pure
    obtain - | ⟨name, ts⟩ := ts
    · exact .refuse_details (by simp)
    refine .ite (fun _ => .ite (fun _ => .bind (shallow_step ts) fun _ _ => ?_)
      fun _ => .refuse_details (by simp)) fun _ => ?_
    · obtain - | ⟨equal, ts⟩ := ts
      · exact .refuse_details (by simp)
      refine .bind (shallow_step ts) fun _ _ => ?_
      obtain - | ⟨identifier, ts⟩ := ts
      · exact .refuse_details (by simp)
      exact .bind (shallow_bindIdentifier _ _ _ ts) fun g _ => ih _ (by grind) g ts rfl
    · exact .bind (shallow_bindIdentifier _ _ _ ts) fun g _ => ih _ (by grind) g ts rfl

theorem shallow_declareAll (d : Dialect) (n : Node) (entries : List (String × String)) :
    Shallow limit (declareAll d n entries : Except Diagnostic Node) := by
  induction entries generalizing n with
  | nil => exact .pure
  | cons entry rest ih =>
    exact .ite (fun _ => .refuse (by decide)) fun _ => .bind .pure fun _ _ => ih _

theorem shallow_term (ts : List Token) : Shallow limit (term s ts : Except Diagnostic _) := by
  cases ts with
  | nil => exact .refuse_details (by simp)
  | cons t ts =>
    refine .ite (fun _ => .refuse_details (by simp)) fun _ => .bind (shallow_step ts) fun _ _ => ?_
    exact .bind (shallow_lift (shallow_termText _ _)) fun _ _ => .pure

theorem shallow_relation (ts : List Token) :
    Shallow limit (relation s ts : Except Diagnostic _) := by
  cases ts with
  | nil => exact .refuse_details (by simp)
  | cons t ts =>
    refine .ite (fun _ => .bind (shallow_step ts) fun _ _ => ?_) fun _ => .refuse_details (by simp)
    refine .bind (shallow_lift (shallow_name _ _)) fun _ _ => ?_
    exact .bind (shallow_modifiers ts) fun _ _ => .pure

theorem shallow_explicitClause (t : Token) (ts : List Token) :
    Shallow limit (explicitClause s t ts : Except Diagnostic _) := by
  refine .ite (fun _ => .bind (shallow_step ts) fun _ _ => ?_) fun _ => .refuse_details (by simp)
  refine .bind (shallow_lift (shallow_name _ _)) fun _ _ => ?_
  refine .bind (shallow_relation ts) fun ⟨_, ts⟩ _ => ?_
  refine .ite (fun _ => .refuse_details (by simp)) fun _ => ?_
  exact .bind (shallow_term ts) fun _ _ => .pure

theorem shallow_clause (ts : List Token) : Shallow limit (clause s ts : Except Diagnostic _) := by
  cases ts with
  | nil => exact .refuse_details (by simp)
  | cons t ts =>
    refine .ite (fun _ => .ite (fun _ => .refuse_details (by simp)) fun _ => ?_)
      fun _ => shallow_explicitClause t ts
    exact .bind (shallow_term (t :: ts)) fun _ _ => .pure

theorem shallow_boolean? (ts : List Token) :
    Shallow limit (boolean? s ts : Except Diagnostic _) := by
  cases ts with
  | nil => exact .pure
  | cons t ts =>
    simp only [boolean?]
    cases if t.kind = .word then Connective.ofKeyword? t.text else none with
    | none => exact .pure
    | some op =>
      exact .bind (shallow_step ts) fun _ _ => .bind (shallow_modifiers ts) fun _ _ => .pure

theorem shallow_finish (d : Dialect) (n : Node) (ts : List Token) :
    Shallow limit (finish d n ts : Except Diagnostic Query) := by
  cases ts with
  | nil => exact .pure
  | cons t ts => exact .ite (fun _ => .refuse (by decide)) fun _ => .refuse_details (by simp)

/-! ## Fewer levels -/

/-- The first result is the second one, or a refusal for the nesting limit. -/
def Within (limit : Nat) (x y : Except Diagnostic α) : Prop :=
  x = y ∨ x = .error (Diagnostic.tooDeep limit)

theorem Within.refl (x : Except Diagnostic α) : Within limit x x :=
  .inl rfl

theorem Within.bind {x y : Except Diagnostic α} {f g : α → Except Diagnostic β}
    (first : Within limit x y) (second : ∀ a, Within limit (f a) (g a)) :
    Within limit (x >>= f) (y >>= g) := by
  obtain rfl | rfl := first
  · cases x with
    | ok a => exact second a
    | error e => exact .inl rfl
  · exact .inr rfl

theorem Within.ite {c : Prop} [Decidable c] {x y x' y' : Except Diagnostic α}
    (true : c → Within limit x y) (false : ¬ c → Within limit x' y') :
    Within limit (if c then x else x') (if c then y else y') := by
  by_cases h : c
  · rw [if_pos h, if_pos h]
    exact true h
  · rw [if_neg h, if_neg h]
    exact false h

variable {inner inner' : List Token → Except Diagnostic (Node × List Token)}

theorem operand_within (fewer : ∀ ts, Within limit (inner ts) (inner' ts)) (ts : List Token) :
    Within limit (operand s inner ts) (operand s inner' ts) := by
  refine .ite (fun _ => .bind (.refl _) fun _ => .bind (fewer _) fun _ => .refl _) fun _ => ?_
  refine .bind (.refl _) fun ⟨_, ts⟩ => .ite (fun _ => .refl _) fun _ => ?_
  exact .bind (fewer ts) fun _ => .refl _

theorem chain_within (fewer : ∀ ts, Within limit (inner ts) (inner' ts)) (rounds : Nat)
    (left : Node) (ts : List Token) :
    Within limit (chain s inner rounds left ts) (chain s inner' rounds left ts) := by
  induction rounds generalizing left ts with
  | zero => exact .refl _
  | succ rounds ih =>
    refine .bind (.refl _) fun ⟨boolean, ts⟩ => ?_
    cases boolean with
    | none => exact .refl _
    | some boolean =>
      refine .bind (fewer ts) fun ⟨right, ts⟩ => .bind (.refl _) fun _ => ?_
      exact .ite (fun _ => .refl _) fun _ => ih _ ts

/-- A query that is read with fewer levels is read alike, or refused for the nesting limit. -/
theorem query_within {levels levels' : Nat} (fewer : levels ≤ levels') (ts : List Token) :
    Within s.dialect.maxDepth (query s levels ts) (query s levels' ts) := by
  induction levels generalizing levels' ts with
  | zero => exact .inr rfl
  | succ levels ih =>
    obtain ⟨levels', rfl⟩ := Nat.exists_eq_add_of_lt fewer
    have operands := operand_within (s := s) (fun ts => ih (Nat.le_add_right levels levels') ts)
    refine .bind (.refl _) fun ⟨_, ts⟩ => .bind (operands ts) fun ⟨first, ts⟩ => ?_
    exact .bind (chain_within operands ts.length first ts) fun _ => .refl _

end ContextQuery.Reader
