import ContextQuery.Proofs.Text.Folding
import Mathlib.Data.List.TakeWhile

/-!
# Lower-casing a part of a text

A capital sigma is the one character whose small letter depends on what stands around it. So the
start of a text is lower-cased as it would be alone, unless it ends in a sigma after a letter and
goes on with another letter: then the sigma is no final one any more.

## Main definitions

* `lowerWithin`: the lower-case mapping of a text between two others.
* `EndsInSigma`: the last letter of a text is a capital sigma that comes after another letter.

## Main results

* `lowerAfter_append`: the lower-case mapping of two texts, one after the other.
* `lowerWithin_eq_iff`: what follows a text changes its lower-case mapping just if a letter follows
  a sigma at its end.
-/

namespace ContextQuery.Text

/-- The lower-case mapping of a text between the characters `before` (nearest first) and `after`. -/
def lowerWithin (before after : List Char) : List Char → List Char
  | [] => []
  | c :: rest =>
    (if c = 'Σ' then [lowerSigma before (rest ++ after)] else lowerChar c) ++
      lowerWithin (c :: before) after rest

/-- Behind the characters `before` (nearest first), the last letter of the text is a capital sigma
that comes after another letter. -/
def EndsInSigma (before cs : List Char) : Prop :=
  ∃ front back, cs = front ++ 'Σ' :: back ∧ reachesCased (front.reverse ++ before) = true ∧
    ∀ c ∈ back, isCaseIgnorable c = true

variable {before after cs : List Char}

theorem lowerWithin_nil (before cs : List Char) :
    lowerWithin before [] cs = lowerAfter before cs := by
  induction cs generalizing before with
  | nil => rfl
  | cons c cs ih => rw [lowerWithin, lowerAfter, ih, List.append_nil]

/-- The second text is lower-cased behind the first one, the first one before the second one. -/
theorem lowerAfter_append (before cs after : List Char) : lowerAfter before (cs ++ after) =
    lowerWithin before after cs ++ lowerAfter (cs.reverse ++ before) after := by
  induction cs generalizing before with
  | nil => rfl
  | cons c cs ih =>
    rw [List.cons_append, lowerAfter, ih, lowerWithin, List.append_assoc, List.reverse_cons,
      List.append_assoc]
    rfl

theorem lowerWithin_ne_nil (h : cs ≠ []) : lowerWithin before after cs ≠ [] := by
  obtain ⟨c, cs, rfl⟩ := List.exists_cons_of_ne_nil h
  rw [lowerWithin]
  split
  · simp
  · exact fun empty => lowerChar_ne_nil c (List.append_eq_nil_iff.1 empty).1

/-- A character before the small letters of ASCII is in the text if it is in its mapping. -/
theorem mem_of_mem_lowerWithin {d : Char} (low : d.toNat ≤ 0x60)
    (h : d ∈ lowerWithin before after cs) : d ∈ cs := by
  induction cs generalizing before with
  | nil => simp [lowerWithin] at h
  | cons c cs ih =>
    rw [lowerWithin, List.mem_append] at h
    rcases h with h | h
    · split at h
      · rw [List.mem_singleton.1 h] at low
        exact absurd (settled_lowerSigma _ _).2 (Nat.not_lt.2 low)
      · exact (settled_of_mem_lowerChar h).2 low ▸ List.mem_cons_self
    · exact List.mem_cons_of_mem c (ih h)

/-- A capital sigma becomes a small one. -/
theorem sigma_mem_lowerWithin (before after : List Char) (h : 'Σ' ∈ cs) :
    'σ' ∈ lowerWithin before after cs ∨ 'ς' ∈ lowerWithin before after cs := by
  induction cs generalizing before with
  | nil => simp at h
  | cons c cs ih =>
    rw [lowerWithin, List.mem_append, List.mem_append]
    obtain rfl | h := List.mem_cons.1 h
    · rw [if_pos rfl, lowerSigma]
      split <;> simp
    · exact (ih _ h).imp .inr .inr

/-! ## Sigmas at the end -/

theorem reachesCased_of_ignorable (h : ∀ c ∈ cs, isCaseIgnorable c = true) (after : List Char) :
    reachesCased (cs ++ after) = reachesCased after := by
  have dropped : (cs ++ after).dropWhile isCaseIgnorable = after.dropWhile isCaseIgnorable := by
    rw [List.dropWhile_append, List.dropWhile_eq_nil_iff.2 h]
    rfl
  rw [reachesCased, dropped, reachesCased]

theorem reachesCased_append (h : ¬∀ c ∈ cs, isCaseIgnorable c = true) (after : List Char) :
    reachesCased (cs ++ after) = reachesCased cs := by
  have left : (cs.dropWhile isCaseIgnorable).isEmpty = false := by
    rwa [Bool.eq_false_iff, ne_eq, List.isEmpty_iff, List.dropWhile_eq_nil_iff]
  obtain ⟨c, rest, eq⟩ := List.exists_cons_of_ne_nil (List.isEmpty_eq_false_iff.1 left)
  rw [reachesCased, reachesCased, List.dropWhile_append, left, eq]
  rfl

/-- A text that follows changes a sigma just if the sigma would be final, and a letter comes next
then. -/
theorem lowerSigma_append_eq_iff : lowerSigma before (cs ++ after) = lowerSigma before cs ↔
    ¬(reachesCased before = true ∧ (∀ c ∈ cs, isCaseIgnorable c = true) ∧
      reachesCased after = true) := by
  by_cases ignorable : ∀ c ∈ cs, isCaseIgnorable c = true
  · have alone : reachesCased cs = false := by
      rw [← List.append_nil cs, reachesCased_of_ignorable ignorable]
      rfl
    rw [lowerSigma, lowerSigma, reachesCased_of_ignorable ignorable, alone]
    cases reachesCased before <;> cases reachesCased after <;> simp
    exact ignorable
  · rw [lowerSigma, lowerSigma, reachesCased_append ignorable]
    exact iff_of_true rfl fun h => ignorable h.2.1

theorem endsInSigma_cons {c : Char} : EndsInSigma before (c :: cs) ↔
    (c = 'Σ' ∧ reachesCased before = true ∧ ∀ e ∈ cs, isCaseIgnorable e = true) ∨
      EndsInSigma (c :: before) cs := by
  constructor
  · rintro ⟨front, back, eq, cased, ignorable⟩
    cases front with
    | nil =>
      obtain ⟨rfl, rfl⟩ := List.cons.inj eq
      exact .inl ⟨rfl, cased, ignorable⟩
    | cons f front =>
      obtain ⟨rfl, rfl⟩ := List.cons.inj eq
      exact .inr ⟨front, back, rfl, by simpa using cased, ignorable⟩
  · rintro (⟨rfl, cased, ignorable⟩ | ⟨front, back, rfl, cased, ignorable⟩)
    · exact ⟨[], cs, rfl, cased, ignorable⟩
    · exact ⟨c :: front, back, rfl, by simpa using cased, ignorable⟩

/-- What follows a text changes its lower-case mapping just if the text ends in a sigma, and a
letter comes next. -/
theorem lowerWithin_eq_iff : lowerWithin before after cs = lowerAfter before cs ↔
    ¬(EndsInSigma before cs ∧ reachesCased after = true) := by
  induction cs generalizing before with
  | nil => simp [lowerWithin, lowerAfter, EndsInSigma]
  | cons c cs ih =>
    rw [lowerWithin, lowerAfter, endsInSigma_cons]
    by_cases sigma : c = 'Σ'
    · rw [if_pos sigma, if_pos sigma, List.singleton_append, List.singleton_append,
        List.cons.injEq, ih, lowerSigma_append_eq_iff]
      simp only [sigma, true_and]
      grind
    · rw [if_neg sigma, if_neg sigma, List.append_right_inj, ih]
      simp [sigma]

end ContextQuery.Text
