import ContextQuery.Proofs.Query.Observation
import ContextQuery.Xcql.Reader

/-!
# What an observed run of a document knows

The reader of documents finishes its nodes in the order of the reader of texts, and declares the
prefixes of a node right after it. An account that the notes keep up to date is therefore up to
date at the end of a document, too.

## Main results

* `Account.takes_readNode`, `Account.takes_readXml`: reading from an account of some nodes ends in
  an account of one node more.
-/

namespace ContextQuery.Account

open Xml (Element)
open Xcql (elements child? frontText)

variable {σ α : Type} [Observer σ] {A : Account σ} {ns : List Node} {d : Dialect}
  {inner : Element → Observed σ Node} {plainInner : Element → Except Diagnostic Node}

theorem takes_required (e : Element) (name : String) :
    A.Takes ns (Xcql.required e name) (Xcql.required e name) fun _ => ns := by
  unfold Xcql.required
  cases child? e name with
  | some c => exact Takes.pure rfl
  | none => exact Takes.refuse

theorem takes_onlyChildren (e : Element) (names : List String) :
    A.Takes ns (Xcql.onlyChildren e names) (Xcql.onlyChildren e names) fun _ => ns := by
  unfold Xcql.onlyChildren
  cases (elements e.children).find? fun c => !names.contains c.name with
  | some c => exact Takes.refuse
  | none => exact Takes.pure rfl

theorem takes_name (e : Element) :
    A.Takes ns (Xcql.name d e) (Xcql.name d e) fun _ => ns :=
  Takes.lift

theorem takes_comparison? (e : Element) :
    A.Takes ns (Xcql.comparison? e) (Xcql.comparison? e) fun _ => ns := by
  unfold Xcql.comparison?
  cases child? e "comparison" with
  | none => exact Takes.pure rfl
  | some c =>
    dsimp only
    cases Comparison.ofSign? (Text.trim (frontText c)) with
    | some sign => exact Takes.pure rfl
    | none => exact Takes.refuse

theorem takes_readModifier (e : Element) :
    A.Takes ns (Xcql.readModifier d e) (Xcql.readModifier d e) fun _ => ns := by
  refine .bind (takes_onlyChildren e _) fun _ => .bind (takes_required e _) fun type => ?_
  refine .ite (fun _ => Takes.refuse) fun _ => .bind (takes_name type) fun name => ?_
  refine .bind (takes_comparison? e) fun comparison => ?_
  cases comparison <;> cases (child? e "value").map frontText
  case some.none => exact Takes.refuse
  all_goals exact Takes.pure rfl

theorem takes_readEach (es : List Element) :
    A.Takes ns (Xcql.readEach d es) (Xcql.readEach d es) fun _ => ns := by
  induction es with
  | nil => exact Takes.pure rfl
  | cons e rest ih =>
    exact .bind (takes_readModifier e) fun _ => .bind ih fun _ => Takes.pure rfl

theorem takes_readModifiers (e : Element) :
    A.Takes ns (Xcql.readModifiers d e) (Xcql.readModifiers d e) fun _ => ns := by
  unfold Xcql.readModifiers
  cases child? e "modifiers" with
  | none => exact Takes.pure rfl
  | some list => exact .bind (takes_onlyChildren list _) fun _ => takes_readEach _

theorem takes_readRelation (e : Element) :
    A.Takes ns (Xcql.readRelation d e) (Xcql.readRelation d e) fun _ => ns := by
  refine .bind (takes_onlyChildren e _) fun _ => .bind (takes_required e _) fun value => ?_
  exact .bind (takes_name value) fun _ => .bind (takes_readModifiers e) fun _ => Takes.pure rfl

theorem takes_readBoolean (e : Element) :
    A.Takes ns (Xcql.readBoolean d e) (Xcql.readBoolean d e) fun _ => ns := by
  refine .bind (takes_onlyChildren e _) fun _ => .bind (takes_required e _) fun _ => ?_
  exact .bind Takes.lift fun _ => .bind (takes_readModifiers e) fun _ => Takes.pure rfl

theorem takes_readClause (e : Element) :
    A.Takes ns (Xcql.readClause d e) (Xcql.readClause d e) fun n => n :: ns := by
  refine .bind (takes_onlyChildren e _) fun _ => .bind (takes_required e _) fun index => ?_
  refine .bind (takes_name index) fun _ => .bind (takes_required e _) fun relation => ?_
  refine .bind (takes_readRelation relation) fun _ => .bind (takes_required e _) fun _ => ?_
  exact .bind Takes.lift fun _ => .bind (.note (A.clause _ ns)) fun _ => Takes.pure rfl

theorem takes_declareEach (written : List String) (n : Node) (es : List Element) :
    A.Takes (n :: ns) (Xcql.declareEach d written n es) (Xcql.declareEach d written n es)
      fun n => n :: ns := by
  induction es generalizing written n with
  | nil => exact Takes.pure rfl
  | cons e rest ih =>
    refine .bind (takes_onlyChildren e _) fun _ => .ite (fun _ => Takes.refuse) fun _ => ?_
    refine .bind (takes_required e _) fun _ => ?_
    exact .bind (takes_declareAll d n _) fun n => ih _ n

theorem takes_declarePrefixes (e : Element) (n : Node) :
    A.Takes (n :: ns) (Xcql.declarePrefixes d e n) (Xcql.declarePrefixes d e n)
      fun n => n :: ns := by
  unfold Xcql.declarePrefixes
  cases child? e "prefixes" with
  | none => exact Takes.pure rfl
  | some list => exact .bind (takes_onlyChildren list _) fun _ => takes_declareEach _ n _

theorem takes_readOperand (e : Element)
    (one_more : ∀ ns e, A.Takes ns (inner e) (plainInner e) fun n => n :: ns) :
    A.Takes ns (Xcql.readOperand inner e) (Xcql.readOperand plainInner e) fun n => n :: ns := by
  unfold Xcql.readOperand
  obtain - | ⟨query, - | ⟨extra, rest⟩⟩ := elements e.children
  · exact Takes.refuse
  · exact one_more ns query
  · exact Takes.refuse

theorem takes_readTriple (e : Element)
    (one_more : ∀ ns e, A.Takes ns (inner e) (plainInner e) fun n => n :: ns) :
    A.Takes ns (Xcql.readTriple d inner e) (Xcql.readTriple d plainInner e) fun n => n :: ns := by
  refine .bind (takes_onlyChildren e _) fun _ => .bind (takes_required e _) fun boolean => ?_
  refine .bind (takes_readBoolean boolean) fun b => .bind (takes_required e _) fun left => ?_
  refine .bind (takes_readOperand left one_more) fun l => ?_
  refine .bind (takes_required e _) fun right => ?_
  refine .bind (takes_readOperand right one_more) fun r => ?_
  exact .bind (.note (A.triple b l r ns)) fun _ => Takes.pure rfl

theorem takes_readNode (levels : Nat) (e : Element) :
    A.Takes ns (Xcql.readNode d levels e) (Xcql.readNode d levels e) fun n => n :: ns := by
  induction levels generalizing ns e with
  | zero =>
    unfold Xcql.readNode
    refine .ite (fun _ => .bind (takes_readClause e) (takes_declarePrefixes e)) fun _ => ?_
    refine .ite (fun _ => ?_) fun _ => ?_
    · exact .bind Takes.throw (takes_declarePrefixes e)
    · exact .bind Takes.refuse (takes_declarePrefixes e)
  | succ levels ih =>
    unfold Xcql.readNode
    refine .ite (fun _ => .bind (takes_readClause e) (takes_declarePrefixes e)) fun _ => ?_
    refine .ite (fun _ => ?_) fun _ => ?_
    · exact .bind (takes_readTriple e fun ns e => ih e) (takes_declarePrefixes e)
    · exact .bind Takes.refuse (takes_declarePrefixes e)

theorem takes_readXml [Xml.Library] (d : Dialect) (document : String) :
    A.Takes ns (Query.readXml d document) (Query.parseXml d document)
      fun q => q.root :: ns := by
  refine .ite (fun _ => Takes.throw) fun _ => ?_
  cases Xml.Library.parse? document with
  | none => exact Takes.refuse
  | some root =>
    refine .bind (.note (A.document root.name ns)) fun _ => ?_
    exact .bind (takes_readNode d.maxDepth root) fun n => Takes.pure rfl

end ContextQuery.Account
