import ContextQuery.Proofs.Xml.Pieces

/-!
# How deep elements nest

Before a document is read, an estimate of how deep its elements nest is taken from its tags. The
scan knows nothing of comments, sections, instructions and attributes, where an end tag may seem to
stand, or a start tag may seem to be empty; and it does not count empty tags. The estimate is too
low by no more than that.

## Main definitions

* `Xml.Element.depth`: how deep elements nest.
* `Xcql.Climbs`: what a text does to the estimate, at least.
* `Xml.Markup.missed`: how many levels the scan misses in a piece of a document.
* `Xcql.overlooked`: how many levels it misses in a document.

## Main results

* `Xml.Partial.Within.add`: how deep elements nest after one more piece.
* `Xcql.depth_le_elementDepth_add`: the estimate and what is overlooked are enough.
-/

namespace ContextQuery

namespace Xml

/-! ## The depth of a tree -/

mutual

/-- How deep elements nest in a piece of content. -/
def Content.depth : Content → Nat
  | .element _ children => Content.depthAll children + 1
  | _ => 0

/-- How deep elements nest in a list of contents. -/
def Content.depthAll : List Content → Nat
  | [] => 0
  | c :: cs => max c.depth (Content.depthAll cs)

end

/-- How deep elements nest; the element itself is one level. -/
def Element.depth (e : Element) : Nat :=
  Content.depthAll e.children + 1

namespace Content

@[simp] theorem depthAll_append (cs ds : List Content) :
    depthAll (cs ++ ds) = max (depthAll cs) (depthAll ds) := by
  induction cs with
  | nil => simp [depthAll]
  | cons c cs ih => simp [depthAll, ih, Nat.max_assoc]

@[simp] theorem depthAll_reverse (cs : List Content) : depthAll cs.reverse = depthAll cs := by
  induction cs with
  | nil => rfl
  | cons c cs ih => simp [depthAll, ih, Nat.max_comm]

@[simp] theorem depthAll_addText (text : List Char) (cs : List Content) :
    depthAll (addText text cs) = depthAll cs := by
  unfold addText
  split <;> simp [depthAll, depth]

end Content

/-! ## The depth of a part of a document -/

/-- What the open elements hold nests no deeper than the bound. -/
def FramesWithin (bound : Nat) : List Frame → Prop
  | [] => True
  | f :: rest => Content.depthAll f.children + (rest.length + 1) ≤ bound ∧ FramesWithin bound rest

/-- What has been read nests no deeper than the bound. -/
structure Partial.Within (bound : Nat) (p : Partial) : Prop where
  frames : FramesWithin bound p.frames
  root : ∀ e ∈ p.root, e.depth ≤ bound

namespace Markup

/-- How many elements are open after the piece. -/
def opened : Markup → Nat → Nat
  | .start _ _, n => n + 1
  | .stop _, n => n - 1
  | _, n => n

/-- How deep the piece nests where so many elements are open. -/
def reached : Markup → Nat → Nat
  | .start _ _, n | .empty _ _, n => n + 1
  | _, n => n

/-- The piece is an empty tag. -/
def isEmptyTag : Markup → Bool
  | .empty _ _ => true
  | _ => false

theorem reached_le (m : Markup) (n : Nat) : m.reached n ≤ n + 1 := by
  cases m <;> simp [reached]

theorem reached_le_of_not_empty {m : Markup} (h : m.isEmptyTag = false) (n : Nat) :
    m.reached n ≤ max n (m.opened n) := by
  cases m with
  | empty => simp [isEmptyTag] at h
  | _ => simp [reached, opened]

end Markup

namespace Partial

variable {p p' : Partial} {bound : Nat}

/-- A finished element is one level deeper than what it holds. -/
theorem within_close? {frames : List Frame} {root : Option Element} {e : Element}
    (within : Within bound ⟨frames, root⟩) (low : e.depth + frames.length ≤ bound)
    (h : close? frames root e = some p) :
    p.Within bound ∧ p.frames.length = frames.length := by
  obtain ⟨inside, done⟩ := within
  cases frames with
  | nil =>
    simp only [close?] at h
    split at h
    · simp at h
    · cases h
      exact ⟨⟨trivial, by simpa using low⟩, rfl⟩
  | cons f rest =>
    cases h
    simp only [FramesWithin, List.length_cons, Element.depth] at inside low
    refine ⟨⟨⟨?_, inside.2⟩, done⟩, rfl⟩
    simp only [Content.depthAll, Content.depth]
    omega

/-- What an open element holds may change as long as it does not get deeper. -/
theorem Within.hold {f : Frame} {rest : List Frame} {children : List Content}
    (within : p.Within bound) (frames : p.frames = f :: rest)
    (same : Content.depthAll children = Content.depthAll f.children) :
    ({ p with frames := { f with children } :: rest } : Partial).Within bound := by
  obtain ⟨inside, done⟩ := within
  rw [frames] at inside
  exact ⟨⟨by simpa only [same] using inside.1, inside.2⟩, done⟩

/-- How deep elements nest after one more piece. -/
theorem Within.add {m : Markup} (within : p.Within bound)
    (low : m.reached p.frames.length ≤ bound) (h : p.add? m = some p') :
    p'.Within bound ∧ p'.frames.length = m.opened p.frames.length := by
  unfold add? at h
  split at h
  · cases h
    exact ⟨within, rfl⟩
  · rename_i f rest frames
    cases h
    exact ⟨within.hold frames (by simp [Content.depthAll, Content.depth]),
      by simp [frames, Markup.opened]⟩
  · split at h <;> cases h
    exact ⟨within, rfl⟩
  · rename_i f rest frames
    obtain ⟨text, -, rfl⟩ := Option.map_eq_some_iff.1 h
    exact ⟨within.hold frames (by simp), by simp [frames, Markup.opened]⟩
  · cases h
  · rename_i f rest frames
    cases h
    exact ⟨within.hold frames (by simp), by simp [frames, Markup.opened]⟩
  · split at h
    · cases h
    · obtain ⟨bound', -, rfl⟩ := Option.map_eq_some_iff.1 h
      refine ⟨⟨⟨?_, within.frames⟩, within.root⟩, by simp [Markup.opened]⟩
      simpa [Content.depthAll, Markup.reached] using low
  · split at h
    · cases h
    · refine within_close? within ?_ h
      simpa [Element.depth, Content.depthAll, Markup.reached, Nat.add_comm] using low
  · cases h
  · rename_i name f rest frames
    split at h
    · obtain ⟨inside, done⟩ := within
      rw [frames] at inside
      have closed := within_close? ⟨inside.2, done⟩ (e := ⟨f.name.base, f.children.reverse⟩)
        (by have := inside.1; simp only [Element.depth, Content.depthAll_reverse]; omega) h
      simpa [frames, Markup.opened] using closed
    · cases h

end Partial

end Xml

namespace Xcql

open Xml (Markup Partial Element Content)

/-! ## The scan for tags -/

section mark

variable {before : List Char} (noEnd : '>' ∉ before) (after : List Char)
include noEnd

theorem all_of_not_mem_mark : ∀ c ∈ before, (c != '>') = true := by
  intro c hc
  rw [bne_iff_ne]
  rintro rfl
  exact noEnd hc

theorem takeWhile_mark : (before ++ '>' :: after).takeWhile (· != '>') = before := by
  simp [List.takeWhile_append_of_pos (all_of_not_mem_mark noEnd)]

theorem dropWhile_mark : (before ++ '>' :: after).dropWhile (· != '>') = '>' :: after := by
  simp [List.dropWhile_append_of_pos (all_of_not_mem_mark noEnd)]

end mark

/-- From any level on, the scan of the text rises by so many levels, and falls by no more than so
many. Levels that it passes are counted. -/
def Climbs (cs : List Char) (up down : Nat) : Prop :=
  ∀ level rest, ∃ level', level + up ≤ level' + down ∧
    max level' (depthFrom level' rest) ≤ max level (depthFrom level (cs ++ rest))

namespace Climbs

variable {cs ds : List Char} {up down up' down' : Nat}

theorem of_not_mem (none : '<' ∉ cs) : Climbs cs 0 0 := by
  intro level rest
  refine ⟨level, le_rfl, ?_⟩
  induction cs with
  | nil => exact le_rfl
  | cons c cs ih =>
    simp only [List.mem_cons, not_or] at none
    rw [List.cons_append, depthFrom, if_neg (Ne.symm none.1)]
    exact ih none.2

theorem append (h : Climbs cs up down) (h' : Climbs ds up' down') :
    Climbs (cs ++ ds) (up + up') (down + down') := by
  intro level rest
  obtain ⟨level', rises, counted⟩ := h level (ds ++ rest)
  obtain ⟨level'', rises', counted'⟩ := h' level' rest
  rw [List.append_assoc]
  exact ⟨level'', by omega, counted'.trans counted⟩

theorem mono (h : Climbs cs up down) (le : up' + down ≤ up + down') : Climbs cs up' down' := by
  intro level rest
  obtain ⟨level', rises, counted⟩ := h level rest
  exact ⟨level', by omega, counted⟩

/-- A tag, up to the first mark that may end it. -/
theorem tag (noEnd : '>' ∉ cs) : Climbs ('<' :: (cs ++ ['>']))
    (if cs.head? = some '/' || cs.head? = some '?' || cs.head? = some '!' ||
      cs.getLast? = some '/' then 0 else 1) (if cs.head? = some '/' then 1 else 0) := by
  intro level rest
  have scanned := Xml.Nests.depthFrom_tag noEnd level rest
  rw [List.cons_append, List.append_assoc, List.singleton_append, scanned]
  refine ⟨_, ?_, le_max_right _ _⟩
  grind

theorem cons_iff {c : Char} (other : c ≠ '<') : Climbs (c :: cs) up down ↔ Climbs cs up down := by
  have skip (level : Nat) (rest : List Char) :
      depthFrom level (c :: cs ++ rest) = depthFrom level (cs ++ rest) := by
    rw [List.cons_append, depthFrom, if_neg other]
  simp only [Climbs, skip]

/-- A tag of a document may have marks in its attributes that seem to end it, but no other tag. -/
theorem ofTag (none : '<' ∉ cs) : Climbs ('<' :: (cs ++ ['>']))
    (if cs.head? = some '/' || cs.head? = some '?' || cs.head? = some '!' ||
      (('<' :: (cs ++ ['>'])).takeWhile (· != '>')).getLast? = some '/' then 0 else 1)
    (if cs.head? = some '/' then 1 else 0) := by
  obtain ⟨before, after, eq, noEnd⟩ :=
    List.eq_append_cons_of_mem (show '>' ∈ cs ++ ['>'] by simp)
  have head {c : Char} (other : c ≠ '>') : before.head? = some c ↔ cs.head? = some c := by
    rw [← takeWhile_mark noEnd after, ← eq, List.head?_takeWhile, List.head?_append]
    cases cs.head? with
    | none => simp [Ne.symm other]
    | some d => simpa [Option.filter_eq_some_iff] using fun same => same ▸ other
  have last : (('<' :: (before ++ '>' :: after)).takeWhile (· != '>')).getLast? = some '/' ↔
      before.getLast? = some '/' := by
    rw [← List.cons_append, takeWhile_mark (by simpa using noEnd)]
    cases before <;> simp
  have noTag : '<' ∉ after := fun mem => by
    have mem' : '<' ∈ cs ++ ['>'] := eq ▸ by simp [mem]
    simp [none] at mem'
  have climbs := (tag noEnd).append (of_not_mem noTag)
  rw [List.cons_append, List.append_assoc, List.singleton_append] at climbs
  rw [eq]
  simp only [Bool.or_eq_true, decide_eq_true_eq, last, head (c := '/') (by decide),
    head (c := '?') (by decide), head (c := '!') (by decide)] at climbs ⊢
  exact climbs

end Climbs

/-- The number of end tags that the scan sees in a text. -/
def closings (cs : List Char) : Nat :=
  match cs with
  | [] => 0
  | c :: cs =>
    if c = '<' then (if cs.head? = some '/' then 1 else 0) + closings (cs.dropWhile (· != '>'))
    else closings cs
termination_by cs.length
decreasing_by
  · have := Xml.dropWhile_length (· != '>') cs
    simp only [List.length_cons]
    omega
  · simp

/-- The scan falls no deeper than the end tags that it sees, whatever they are part of. -/
theorem climbs_closings {cs : List Char} (ends : cs = [] ∨ cs.getLast? = some '>') :
    Climbs cs 0 (closings cs) := by
  fun_induction closings cs with
  | case1 => exact .of_not_mem nofun
  | case2 cs ih =>
    have ends : ('<' :: cs).getLast? = some '>' := ends.resolve_left (List.cons_ne_nil _ _)
    have mem : '>' ∈ cs := by
      have := List.mem_of_getLast? ends
      simpa using this
    obtain ⟨before, after, rfl, noEnd⟩ := List.eq_append_cons_of_mem mem
    rw [dropWhile_mark noEnd] at ih ⊢
    rw [← List.cons_append, List.getLast?_append_of_ne_nil _ (List.cons_ne_nil _ _)] at ends
    have rest := (Climbs.cons_iff (by decide)).1 (ih (.inr ends))
    have climbs := (Climbs.tag noEnd).append rest
    rw [List.cons_append, List.append_assoc] at climbs
    refine climbs.mono ?_
    cases before <;> grind
  | case3 c cs other ih =>
    rw [Climbs.cons_iff other]
    refine ih ?_
    cases cs with
    | nil => exact .inl rfl
    | cons => exact .inr (by simpa using ends)

end Xcql

/-! ## The scan of a document -/

namespace Xml.Markup

open Xcql (Climbs closings climbs_closings)

/-- How many levels the scan misses in a piece: one for each end tag that it sees in a comment, a
section or an instruction, and one for a start tag that seems to be empty. -/
def missed : Markup → List Char → Nat
  | .remark, cs | .verbatim _, cs => closings cs
  | .start _ _, cs => if (cs.takeWhile (· != '>')).getLast? = some '/' then 1 else 0
  | _, _ => 0

/-- The scan follows a piece but for what it misses. -/
theorem Spans.climbs {m : Markup} {cs : List Char} (h : m.Spans cs) :
    ∃ up down, Climbs cs up down ∧ ∀ n, m.opened n ≤ n + up + m.missed cs - down := by
  cases h with
  | text none => exact ⟨0, 0, .of_not_mem none, by simp [opened]⟩
  | verbatim | comment | instruction =>
    refine ⟨0, _, climbs_closings (.inr ?_), by simp [opened, missed]⟩
    rw [← List.cons_append, ← List.cons_append, List.getLast?_concat]
  | start none unmarked =>
    refine ⟨_, _, .ofTag none, fun n => ?_⟩
    simp only [unmarked '/' (by simp), unmarked '?' (by simp), unmarked '!' (by simp), opened,
      missed]
    grind
  | empty none unmarked =>
    refine ⟨_, _, .ofTag none, fun n => ?_⟩
    simp only [unmarked '/' (by simp), opened]
    grind
  | @stop _ body none =>
    have none : '<' ∉ '/' :: body := by simpa using none
    refine ⟨_, _, .ofTag none, fun n => ?_⟩
    simp only [List.head?_cons, opened]
    grind

/-- The pieces of a text, each with its characters. -/
def pieces (cs : List Char) : List (Markup × List Char) :=
  match cs with
  | [] => []
  | c :: cs =>
    match _h : first c cs with
    | none => []
    | some (m, rest) => (m, (c :: cs).take (cs.length + 1 - rest.length)) :: pieces rest
termination_by cs.length
decreasing_by
  have := first_length _h
  simp only [List.length_cons]
  omega

theorem pieces_cons {c : Char} {cs rest piece : List Char} {m : Markup}
    (isFirst : first c cs = some (m, rest)) (eq : c :: cs = piece ++ rest) :
    pieces (c :: cs) = (m, piece) :: pieces rest := by
  have length : cs.length + 1 = piece.length + rest.length := by
    simpa using congrArg List.length eq
  rw [pieces]
  split
  · simp_all
  · rename_i found
    rw [isFirst] at found
    cases found
    rw [eq, length, Nat.add_sub_cancel, List.take_left]

end Xml.Markup

namespace Xcql

open Xml (Markup Partial Element)

/-- The pieces of a document after its declaration. -/
def pieces (text : String) : List (Markup × List Char) :=
  ((Xml.skipProlog? text.toList).map Markup.pieces).getD []

/-- How many levels the scan misses in some pieces. -/
def missed : List (Markup × List Char) → Nat
  | [] => 0
  | (m, cs) :: ps => m.missed cs + missed ps

/-- How many levels the scan misses in a document: those that it misses in the pieces, and one for
empty tags if there are any. -/
def overlooked (text : String) : Nat :=
  missed (pieces text) + if (pieces text).any (·.1.isEmptyTag) then 1 else 0

/-- The document has been read up to the characters, and the scan stands at a level there. -/
structure Tracks (estimate miss extra : Nat) (p : Partial) (cs : List Char)
    (level lost : Nat) : Prop where
  within : p.Within (estimate + miss + extra)
  follows : p.frames.length ≤ level + lost
  counted : max level (depthFrom level cs) ≤ estimate
  missed : lost + missed (Markup.pieces cs) ≤ miss
  empty : (Markup.pieces cs).any (·.1.isEmptyTag) = true → 0 < extra

namespace Tracks

variable {estimate miss extra level lost : Nat} {p p' : Partial} {c : Char} {cs rest : List Char}
  {m : Markup} {root : Element}

/-- One more piece is read. -/
theorem add (h : Tracks estimate miss extra p (c :: cs) level lost)
    (isFirst : Markup.first c cs = some (m, rest)) (added : p.add? m = some p') :
    ∃ level' lost', Tracks estimate miss extra p' rest level' lost' := by
  obtain ⟨piece, eq, spans⟩ := Markup.spans_first isFirst
  obtain ⟨up, down, climbs, opened⟩ := spans.climbs
  obtain ⟨within, follows, counted, missed, empty⟩ := h
  rw [Markup.pieces_cons isFirst eq] at missed empty
  simp only [Xcql.missed, List.any_cons, Bool.or_eq_true] at missed empty
  rw [eq] at counted
  obtain ⟨level', rises, counted'⟩ := climbs level rest
  have opened := opened p.frames.length
  have low : m.reached p.frames.length ≤ estimate + miss + extra := by
    cases isEmpty : m.isEmptyTag with
    | true =>
      have room := empty (.inl isEmpty)
      have reached := m.reached_le p.frames.length
      omega
    | false =>
      have reached := Markup.reached_le_of_not_empty isEmpty p.frames.length
      omega
  obtain ⟨within', length⟩ := within.add low added
  exact ⟨level', lost + m.missed piece, within', by omega, counted'.trans counted, by omega,
    fun h => empty (.inr h)⟩

/-- The scan of a whole document. -/
theorem run (h : Tracks estimate miss extra p cs level lost) (run : p.run cs = some root) :
    root.depth ≤ estimate + miss + extra := by
  induction cs using Xml.Markup.pieces.induct generalizing p level lost with
  | case1 =>
    obtain ⟨-, built⟩ : p.frames.isEmpty = true ∧ p.root = some root := by
      simpa [Partial.run, Markup.scan, Partial.build?] using run
    exact h.within.root root built
  | case2 c cs none =>
    have refused : Markup.scan (c :: cs) = .none := by
      rw [Markup.scan]
      split <;> simp_all
    simp [Partial.run, refused] at run
  | case3 c cs m rest isFirst ih =>
    rw [Partial.run_cons isFirst] at run
    obtain ⟨p', added, run⟩ := Option.bind_eq_some_iff.1 run
    obtain ⟨level', lost', h'⟩ := h.add isFirst added
    exact ih h' run

end Tracks

/-- Nothing before the first piece raises or lowers the estimate. -/
theorem counted_of_skipProlog? {text rest : List Char}
    (skipped : Xml.skipProlog? text = some rest) :
    ∃ level, max level (depthFrom level rest) ≤ depthFrom 0 text := by
  obtain ⟨before, rfl, climbs⟩ : ∃ before, text = before ++ rest ∧ Climbs before 0 0 := by
    obtain ⟨mark, noTag, rfl | ⟨read, rfl, noTag'⟩⟩ := Xml.skipProlog?_eq_some skipped
    · exact ⟨mark, rfl, .of_not_mem noTag⟩
    · have noTag' : '<' ∉ '?' :: read := by simpa using noTag'
      have declaration := Climbs.ofTag noTag'
      refine ⟨mark ++ '<' :: ('?' :: read ++ ['>']), by simp, ?_⟩
      simpa using (Climbs.of_not_mem noTag).append declaration
  obtain ⟨level, -, counted⟩ := climbs 0 rest
  exact ⟨level, by omega⟩

/-- Up to this estimate a document is read on the thread that asks for it. -/
def inlineNesting : Nat :=
  64

/-- The elements of a document nest no deeper than the estimate and what is overlooked in it, if the
library makes the tree of the document. So what is overlooked is all by which a document may exceed
the limit of those that are read at once, or the limit of those that are read at all. -/
theorem depth_le_elementDepth_add [Xml.Library] (sound : Xml.Library.Sound) {text : String}
    {root : Element} (parsed : Xml.Library.parse? text = some root) :
    root.depth ≤ elementDepth text + overlooked text ∧
      (elementDepth text ≤ inlineNesting → root.depth ≤ 64 + overlooked text) ∧
      ∀ d, elementDepth text ≤ elementLimit d →
        root.depth ≤ 2 * d.maxDepth + 8 + overlooked text := by
  have estimated : root.depth ≤ elementDepth text + overlooked text := by
    have document := sound parsed
    unfold Xml.Document.parse? at document
    simp only [Option.bind_eq_bind] at document
    obtain ⟨cs, skipped, run⟩ := Option.bind_eq_some_iff.1 document
    obtain ⟨level, counted⟩ := counted_of_skipProlog? skipped
    have same : pieces text = Markup.pieces cs := by simp [pieces, skipped]
    have tracks : Tracks (elementDepth text) (missed (pieces text))
        (if (pieces text).any (·.1.isEmptyTag) then 1 else 0) ⟨[], none⟩ cs level 0 := by
      refine ⟨⟨trivial, nofun⟩, Nat.zero_le _, counted, ?_, fun empty => ?_⟩
      · rw [same, Nat.zero_add]
      · rw [same, if_pos empty]
        exact Nat.one_pos
    rw [overlooked, ← Nat.add_assoc]
    exact tracks.run run
  refine ⟨estimated, fun inline => ?_, fun d low => ?_⟩
  · unfold inlineNesting at inline
    omega
  · unfold elementLimit at low
    omega

/-- A document in which a comment, an attribute and an empty tag are overlooked. -/
theorem depth_le_of_overlooked : ∃ text root,
    Xml.Document.parse? text = some root ∧ root.depth = 3 ∧
      elementDepth text = 1 ∧ overlooked text = 3 ∧
      root.depth ≤ elementDepth text + overlooked text ∧ root.depth ≤ 64 + overlooked text ∧
      root.depth ≤ 2 * 256 + 8 + overlooked text := by
  let text := "<a b='/>'><!-- <c></c> --><d><e/></d></a>"
  have depth : (Xml.Document.parse? text).map Element.depth = some 3 := by decide +kernel
  obtain ⟨root, parsed, depth⟩ := Option.map_eq_some_iff.1 depth
  have estimate : elementDepth text = 1 := by decide +kernel
  have missing : overlooked text = 3 := by decide +kernel
  have low : elementDepth text ≤ inlineNesting ∧ elementDepth text ≤ elementLimit {} := by
    rw [estimate]
    decide
  obtain ⟨estimated, inline, allowed⟩ := depth_le_elementDepth_add Xml.Document.sound parsed
  exact ⟨text, root, parsed, depth, estimate, missing, estimated, inline low.1, allowed {} low.2⟩

/-- An end tag in a comment, an attribute with what looks like the end of an empty tag, and an empty
tag each make the estimate too low; so a document is let through that nests deeper than eight. -/
theorem elementDepth_too_low :
    (∃ root, Xml.Document.parse? "<a><!-- <b></b> --><c></c></a>" = some root ∧
      elementDepth "<a><!-- <b></b> --><c></c></a>" < root.depth) ∧
    (∃ root, Xml.Document.parse? "<a b='/>'></a>" = some root ∧
      elementDepth "<a b='/>'></a>" < root.depth) ∧
    (∃ root, Xml.Document.parse? "<a/>" = some root ∧ elementDepth "<a/>" < root.depth) ∧
    ∃ text root, Xml.Document.parse? text = some root ∧
      elementDepth text ≤ elementLimit { maxDepth := 0 } ∧ 2 * 0 + 8 < root.depth := by
  have too_low {text : String} {bound : Nat}
      (h : (Xml.Document.parse? text).any (bound < ·.depth) = true) :
      ∃ root, Xml.Document.parse? text = some root ∧ bound < root.depth := by
    obtain ⟨root, parsed, low⟩ := Option.any_eq_true _ _ |>.1 h
    exact ⟨root, parsed, by simpa using low⟩
  refine ⟨too_low (by decide +kernel), too_low (by decide +kernel), too_low (by decide +kernel), ?_⟩
  let text := "<a><!-- <b></b> --><a><a><a><a><a><a><a><a></a></a></a></a></a></a></a></a></a>"
  obtain ⟨root, parsed, low⟩ : ∃ root, Xml.Document.parse? text = some root ∧ 8 < root.depth :=
    too_low (by decide +kernel)
  exact ⟨text, root, parsed, by decide +kernel, low⟩

end Xcql

end ContextQuery
