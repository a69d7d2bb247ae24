import ContextQuery.Query.Observed
import ContextQuery.Query.Reader

/-!
# What an observed run knows

A state that follows the notes of a reader is told of every node that the reader finishes. What it
says about the nodes finished so far is an account of them; an account that every single note
keeps up to date is up to date when the run ends. That the run is watched changes nothing about its
result.

## Main definitions

* `Observed.Tracks`: an observed run beside the plain one, with what holds of the state before and
  after.
* `Account`: what a state says about the finished nodes that belong to no triple yet.
* `Account.Takes`: a run after which the account is of other nodes.

## Main results

* `Account.takes_query`, `Account.takes_read`: reading a query from an account of some nodes ends
  in an account of one node more.
-/

namespace ContextQuery

variable {σ α β : Type}

namespace Observed

/-- From a state as described by `before`, an observed run has the result of the plain one. It
leaves a state as described by `after`, or by `refused` if it ends in a refusal. -/
def Tracks (before : σ → Prop) (run : Observed σ α) (plain : Except Diagnostic α)
    (after : α → σ → Prop) (refused : σ → Prop) : Prop :=
  ∀ st, before st → ∃ st', run.runFrom st = (plain, st') ∧
    (∀ a, plain = .ok a → after a st') ∧ ∀ e, plain = .error e → refused st'

namespace Tracks

variable {before refused : σ → Prop} {after : α → σ → Prop} {after' : β → σ → Prop}
  {run : Observed σ α} {plain : Except Diagnostic α}

theorem pure {a : α} (kept : ∀ st, before st → after a st) :
    Tracks before (Pure.pure a) (Pure.pure a) after refused := by
  intro st holds
  refine ⟨st, rfl, ?_, ?_⟩
  · rintro _ ⟨⟩
    exact kept st holds
  · rintro _ ⟨⟩

theorem throw {e : Diagnostic} (kept : ∀ st, before st → refused st) :
    Tracks before (throw e : Observed σ α) (throw e) after refused := by
  intro st holds
  refine ⟨st, rfl, ?_, ?_⟩
  · rintro _ ⟨⟩
  · rintro _ ⟨⟩
    exact kept st holds

theorem modify {f : σ → σ} {after : σ → Prop} (kept : ∀ st, before st → after (f st)) :
    Tracks before (modify f : Observed σ Unit) (Pure.pure ()) (fun _ => after) refused := by
  intro st holds
  refine ⟨f st, rfl, ?_, ?_⟩
  · rintro _ ⟨⟩
    exact kept st holds
  · rintro _ ⟨⟩

theorem note [Observer σ] {event : Event} {after : σ → Prop}
    (kept : ∀ st, before st → after (Observer.note event st)) :
    Tracks before (Journal.note event : Observed σ Unit) (Journal.note event) (fun _ => after)
      refused :=
  modify kept

theorem bind_of_ok {next : α → Observed σ β} {plainNext : α → Except Diagnostic β}
    (first : Tracks before run plain after refused)
    (second : ∀ a, plain = .ok a → Tracks (after a) (next a) (plainNext a) after' refused) :
    Tracks before (run >>= next) (plain >>= plainNext) after' refused := by
  intro st holds
  obtain ⟨st', ran, ok, error⟩ := first st holds
  have runs : (run >>= next).runFrom st =
      match run.runFrom st with
      | (.ok a, st') => (next a).runFrom st'
      | (.error e, st') => (.error e, st') := by
    simp only [runFrom, ExceptT.run_bind, StateT.run_bind]
    rcases run.run.run st with ⟨_ | _, _⟩ <;> rfl
  rw [ran] at runs
  cases plain with
  | ok a =>
    obtain ⟨st'', ran', rest⟩ := second a rfl st' (ok a rfl)
    exact ⟨st'', runs.trans ran', rest⟩
  | error e =>
    refine ⟨st', runs, ?_, ?_⟩
    · rintro _ ⟨⟩
    · intro _ _
      exact error e rfl

theorem bind {next : α → Observed σ β} {plainNext : α → Except Diagnostic β}
    (first : Tracks before run plain after refused)
    (second : ∀ a, Tracks (after a) (next a) (plainNext a) after' refused) :
    Tracks before (run >>= next) (plain >>= plainNext) after' refused :=
  first.bind_of_ok fun a _ => second a

theorem ite {c : Prop} [Decidable c] {run' : Observed σ α} {plain' : Except Diagnostic α}
    (true : c → Tracks before run plain after refused)
    (false : ¬ c → Tracks before run' plain' after refused) :
    Tracks before (if c then run else run') (if c then plain else plain') after refused := by
  by_cases h : c
  · rw [if_pos h, if_pos h]
    exact true h
  · rw [if_neg h, if_neg h]
    exact false h

end Tracks

end Observed

/-- What a state says about the finished nodes that belong to no triple yet, the last one first. -/
structure Account (σ : Type) [Observer σ] where
  finished : List Node → σ → Prop
  /-- What the state still says when the reader refuses. -/
  refused : σ → Prop
  token : ∀ t ns st, finished ns st → finished ns (Observer.note (.token t) st)
  document : ∀ name ns st, finished ns st → finished ns (Observer.note (.document name) st)
  clause : ∀ c ns st, finished ns st →
    finished (.clause .empty c :: ns) (Observer.note (.clause c) st)
  triple : ∀ b l r ns st, finished (r :: l :: ns) st →
    finished (.triple .empty b l r :: ns) (Observer.note (.triple b) st)
  declaration : ∀ name uri n ns st, finished (n :: ns) st →
    finished (n.declare name uri :: ns) (Observer.note (.declaration name uri) st)
  refusal : ∀ ns st, finished ns st → refused st

namespace Account

open Observed (Tracks)

variable [Observer σ] (A : Account σ)

/-- A run from an account of the nodes `ns` that has the plain result and ends in an account of the
nodes `ns' a` where the result is `a`. -/
abbrev Takes (ns : List Node) (run : Observed σ α) (plain : Except Diagnostic α)
    (ns' : α → List Node) : Prop :=
  Tracks (A.finished ns) run plain (fun a => A.finished (ns' a)) A.refused

variable {A} {ns : List Node}

theorem Takes.pure {a : α} {ns' : α → List Node} (same : ns' a = ns) :
    A.Takes ns (Pure.pure a) (Pure.pure a) ns' :=
  Tracks.pure fun _ holds => same ▸ holds

theorem Takes.throw {e : Diagnostic} {ns' : α → List Node} :
    A.Takes ns (throw e) (throw e) ns' :=
  Tracks.throw fun st => A.refusal ns st

theorem Takes.refuse {kind : Diagnostic.Kind} {details : String} {ns' : α → List Node} :
    A.Takes ns (Reader.refuse kind details) (Reader.refuse kind details) ns' :=
  Takes.throw

theorem Takes.lift {result : Except Diagnostic α} :
    A.Takes ns (Reader.lift result) (Reader.lift result) fun _ => ns := by
  cases result with
  | ok a => exact Takes.pure rfl
  | error e => exact Takes.throw

/-! ## The parts of the grammar -/

open Reader

variable {s : Source} {inner : List Token → Observed σ (Node × List Token)}
  {plainInner : List Token → Except Diagnostic (Node × List Token)}

theorem takes_pull (ts : List Token) :
    A.Takes ns (Reader.pull s ts) (Reader.pull s ts) fun _ => ns := by
  cases ts with
  | cons t ts => exact Tracks.note (A.token t ns)
  | nil =>
    unfold Reader.pull
    cases s.unclosed with
    | some text => exact Takes.refuse
    | none => exact Tracks.note (A.token _ ns)

theorem takes_step (rest : List Token) :
    A.Takes ns (Reader.step s rest) (Reader.step s rest) fun _ => ns :=
  takes_pull rest.tail

theorem takes_modifiers (ts : List Token) :
    A.Takes ns (Reader.modifiers s ts) (Reader.modifiers s ts) fun _ => ns := by
  induction hn : ts.length using Nat.strongRecOn generalizing ts with
  | _ _ ih =>
    subst hn
    obtain - | ⟨slash, ts⟩ := ts
    · exact Takes.pure rfl
    unfold Reader.modifiers
    refine .ite (fun _ => .bind (takes_step ts) fun _ => ?_) fun _ => Takes.pure rfl
    obtain - | ⟨name, ts⟩ := ts
    · exact Takes.refuse
    refine .ite (fun _ => .bind (takes_step ts) fun _ => .bind Takes.lift fun _ => ?_)
      fun _ => Takes.refuse
    refine .ite (fun _ => ?_) fun _ => ?_
    · obtain - | ⟨sign, - | ⟨value, ts⟩⟩ := ts
      · exact Takes.refuse
      · exact .bind (takes_step []) fun _ => Takes.refuse
      · refine .bind (takes_step (value :: ts)) fun _ => .ite (fun _ => ?_) fun _ => Takes.refuse
        refine .bind (takes_step ts) fun _ => .bind (ih _ (by grind) ts rfl) fun _ => ?_
        exact Takes.pure rfl
    · exact .bind (ih _ (by grind) ts rfl) fun _ => Takes.pure rfl

theorem takes_bindIdentifier (g : Group) (name : String) (t : Token) (rest : List Token) :
    A.Takes ns (Reader.bindIdentifier s g name t rest) (Reader.bindIdentifier s g name t rest)
      fun _ => ns := by
  unfold Reader.bindIdentifier
  refine .ite (fun _ => .bind (takes_step rest) fun _ => ?_) fun _ => Takes.refuse
  exact .ite (fun _ => Takes.refuse) fun _ => Takes.pure rfl

theorem takes_declarations (g : Group) (ts : List Token) :
    A.Takes ns (Reader.declarations s g ts) (Reader.declarations s g ts) fun _ => ns := by
  induction hn : ts.length using Nat.strongRecOn generalizing g ts with
  | _ _ ih =>
    subst hn
    obtain - | ⟨sign, ts⟩ := ts
    · exact Takes.pure rfl
    unfold Reader.declarations
    refine .ite (fun _ => .bind (takes_step ts) fun _ => ?_) fun _ => Takes.pure rfl
    obtain - | ⟨name, ts⟩ := ts
    · exact Takes.refuse
    refine .ite (fun _ => .ite (fun _ => .bind (takes_step ts) fun _ => ?_) fun _ => Takes.refuse)
      fun _ => ?_
    · obtain - | ⟨equal, ts⟩ := ts
      · exact Takes.refuse
      refine .bind (takes_step ts) fun _ => ?_
      obtain - | ⟨identifier, ts⟩ := ts
      · exact Takes.refuse
      exact .bind (takes_bindIdentifier _ _ _ ts) fun g => ih _ (by grind) g ts rfl
    · exact .bind (takes_bindIdentifier _ _ _ ts) fun g => ih _ (by grind) g ts rfl

theorem takes_declareAll (d : Dialect) (n : Node) (entries : List (String × String)) :
    A.Takes (n :: ns) (Reader.declareAll d n entries) (Reader.declareAll d n entries)
      fun n => n :: ns := by
  induction entries generalizing n with
  | nil => exact Takes.pure rfl
  | cons entry rest ih =>
    unfold Reader.declareAll
    refine .ite (fun _ => Takes.refuse) fun _ => ?_
    exact .bind (.note (A.declaration _ _ n ns)) fun _ => ih _

theorem takes_term (ts : List Token) :
    A.Takes ns (Reader.term s ts) (Reader.term s ts) fun _ => ns := by
  cases ts with
  | nil => exact Takes.refuse
  | cons t ts =>
    refine .ite (fun _ => Takes.refuse) fun _ => .bind (takes_step ts) fun _ => ?_
    exact .bind Takes.lift fun _ => Takes.pure rfl

theorem takes_relation (ts : List Token) :
    A.Takes ns (Reader.relation s ts) (Reader.relation s ts) fun _ => ns := by
  cases ts with
  | nil => exact Takes.refuse
  | cons t ts =>
    refine .ite (fun _ => .bind (takes_step ts) fun _ => ?_) fun _ => Takes.refuse
    exact .bind Takes.lift fun _ => .bind (takes_modifiers ts) fun _ => Takes.pure rfl

theorem takes_finishClause (c : SearchClause) (rest : List Token) :
    A.Takes ns (Reader.finishClause c rest) (Reader.finishClause c rest) fun r => r.1 :: ns :=
  .bind (.note (A.clause c ns)) fun _ => Takes.pure rfl

theorem takes_explicitClause (t : Token) (ts : List Token) :
    A.Takes ns (Reader.explicitClause s t ts) (Reader.explicitClause s t ts)
      fun r => r.1 :: ns := by
  refine .ite (fun _ => .bind (takes_step ts) fun _ => .bind Takes.lift fun _ => ?_)
    fun _ => Takes.refuse
  refine .bind (takes_relation ts) fun ⟨_, ts⟩ => .ite (fun _ => Takes.refuse) fun _ => ?_
  exact .bind (takes_term ts) fun ⟨_, ts⟩ => takes_finishClause _ ts

theorem takes_clause (ts : List Token) :
    A.Takes ns (Reader.clause s ts) (Reader.clause s ts) fun r => r.1 :: ns := by
  cases ts with
  | nil => exact Takes.refuse
  | cons t ts =>
    refine .ite (fun _ => .ite (fun _ => Takes.refuse) fun _ => ?_)
      fun _ => takes_explicitClause t ts
    exact .bind (takes_term (t :: ts)) fun ⟨_, ts⟩ => takes_finishClause _ ts

theorem takes_closeGroup (n : Node) (ts : List Token) :
    A.Takes (n :: ns) (Reader.closeGroup s n ts) (Reader.closeGroup s n ts)
      fun r => r.1 :: ns := by
  cases ts with
  | nil => exact Takes.refuse
  | cons t ts =>
    exact .ite (fun _ => .bind (takes_step ts) fun _ => Takes.pure rfl) fun _ => Takes.refuse

theorem takes_operand (ts : List Token)
    (one_more : ∀ ns ts, A.Takes ns (inner ts) (plainInner ts) fun r => r.1 :: ns) :
    A.Takes ns (Reader.operand s inner ts) (Reader.operand s plainInner ts)
      fun r => r.1 :: ns := by
  refine .ite (fun _ => .bind (takes_step _) fun _ => ?_) fun _ => ?_
  · exact .bind (one_more ns _) fun ⟨n, ts⟩ => takes_closeGroup n ts
  refine .bind (takes_declarations .empty ts) fun ⟨map, ts⟩ => ?_
  refine .ite (fun _ => takes_clause ts) fun _ => ?_
  refine .bind (one_more ns ts) fun ⟨n, _⟩ => ?_
  exact .bind (takes_declareAll s.dialect n _) fun _ => Takes.pure rfl

theorem takes_boolean? (ts : List Token) :
    A.Takes ns (Reader.boolean? s ts) (Reader.boolean? s ts) fun _ => ns := by
  cases ts with
  | nil => exact Takes.pure rfl
  | cons t ts =>
    simp only [Reader.boolean?]
    cases if t.kind = .word then Connective.ofKeyword? t.text else none with
    | none => exact Takes.pure rfl
    | some op =>
      exact .bind (takes_step ts) fun _ => .bind (takes_modifiers ts) fun _ => Takes.pure rfl

/-- Each round finishes the triple of the node so far and the operand read last. -/
theorem takes_chain (rounds : Nat) (left : Node) (ts : List Token)
    (one_more : ∀ ns ts, A.Takes ns (inner ts) (plainInner ts) fun r => r.1 :: ns) :
    A.Takes (left :: ns) (Reader.chain s inner rounds left ts)
      (Reader.chain s plainInner rounds left ts) fun r => r.1 :: ns := by
  induction rounds generalizing left ts with
  | zero => exact Takes.pure rfl
  | succ rounds ih =>
    refine .bind (takes_boolean? ts) fun ⟨boolean, ts⟩ => ?_
    cases boolean with
    | none => exact Takes.pure rfl
    | some boolean =>
      refine .bind (one_more (left :: ns) ts) fun ⟨right, ts⟩ => ?_
      refine .bind (.note (A.triple boolean left right ns)) fun _ => ?_
      exact .ite (fun _ => Takes.throw) fun _ => ih _ ts

theorem takes_query (levels : Nat) (ts : List Token) :
    A.Takes ns (Reader.query s levels ts) (Reader.query s levels ts) fun r => r.1 :: ns := by
  induction levels generalizing ns ts with
  | zero => exact Takes.throw
  | succ levels ih =>
    have one_more : ∀ ns ts, A.Takes ns (Reader.operand s (Reader.query s levels) ts)
        (Reader.operand s (Reader.query s levels) ts) fun r => r.1 :: ns :=
      fun ns ts => takes_operand ts fun ns ts => ih ts
    refine .bind (takes_declarations .empty ts) fun ⟨map, ts⟩ => ?_
    refine .bind (one_more ns ts) fun ⟨first, ts⟩ => ?_
    refine .bind (takes_chain ts.length first ts one_more) fun ⟨n, _⟩ => ?_
    exact .bind (takes_declareAll s.dialect n map.entries) fun _ => Takes.pure rfl

theorem takes_finish (d : Dialect) (n : Node) (ts : List Token) :
    A.Takes (n :: ns) (Reader.finish d n ts) (Reader.finish d n ts) fun q => q.root :: ns := by
  cases ts with
  | nil => exact Takes.pure rfl
  | cons t ts => exact .ite (fun _ => Takes.refuse) fun _ => Takes.refuse

theorem takes_read (d : Dialect) (text : String) :
    A.Takes ns (Query.read d text) (Query.parse d text) fun q => q.root :: ns := by
  refine .bind (takes_pull _) fun _ => .bind (takes_pull _) fun _ => ?_
  exact .bind (takes_query d.maxDepth _) fun ⟨n, rest⟩ => takes_finish d n rest

end Account

end ContextQuery
