import ContextQuery.Proofs.Text.Folding

/-!
# Texts that differ in case

The Unicode lower-case mapping does not see the case of ASCII letters, not even next to a sigma,
where it looks at the letters around.

## Main definitions

* `SameButCase`: two texts are equal apart from the case of ASCII letters.

## Main results

* `SameButCase.lower_eq`: such texts have one lower-case mapping.
-/

namespace ContextQuery.Text

/-- The texts are equal apart from the case of ASCII letters. -/
def SameButCase (cs ds : List Char) : Prop :=
  cs.map Char.toLower = ds.map Char.toLower

instance (cs ds : List Char) : Decidable (SameButCase cs ds) :=
  inferInstanceAs (Decidable (_ = _))

/-! ## Characters -/

theorem toLower_of_not_ascii {c : Char} (h : ¬c.toNat < 0x80) : c.toLower = c := by
  have high : ¬(c.val ≥ 'A'.val ∧ c.val ≤ 'Z'.val) := fun inside =>
    h (Nat.lt_of_le_of_lt (UInt32.le_iff_toNat_le.1 inside.2) (by decide))
  exact dif_neg high

/-- How a character and its small ASCII letter relate is read off the ASCII table. -/
theorem toLower_cases {p : Char → Char → Prop} (same : ∀ c, p c c)
    (table : ∀ n < 0x80, p (Char.ofNat n) (Char.ofNat n).toLower) (c : Char) : p c c.toLower := by
  by_cases ascii : c.toNat < 0x80
  · simpa using table c.toNat ascii
  · rw [toLower_of_not_ascii ascii]
    exact same c

/-- The small letter of an ASCII letter is no other character for the lower-case mapping. -/
theorem lowerChar_toLower (c : Char) : lowerChar c.toLower = lowerChar c ∧
    isCased c.toLower = isCased c ∧ isCaseIgnorable c.toLower = isCaseIgnorable c ∧
    (c.toLower = 'Σ' ↔ c = 'Σ') := by
  refine toLower_cases (p := fun c d => lowerChar d = lowerChar c ∧ isCased d = isCased c ∧
    isCaseIgnorable d = isCaseIgnorable c ∧ (d = 'Σ' ↔ c = 'Σ')) (fun c => ?_) ?_ c
  · exact ⟨rfl, rfl, rfl, Iff.rfl⟩
  · decide +kernel

theorem isAlpha_toLower (c : Char) :
    c.toLower.isAlpha = c.isAlpha ∧ (c.isAlpha = false → c.toLower = c) := by
  refine toLower_cases (p := fun c d => d.isAlpha = c.isAlpha ∧ (c.isAlpha = false → d = c))
    (fun c => ?_) ?_ c
  · exact ⟨rfl, fun _ => rfl⟩
  · decide +kernel

/-- What has no case differs from nothing in case. -/
theorem toLower_eq_iff {c d : Char} (caseless : d.isAlpha = false) : c.toLower = d ↔ c = d := by
  constructor
  · rintro rfl
    rw [(isAlpha_toLower c).1] at caseless
    exact ((isAlpha_toLower c).2 caseless).symm
  · rintro rfl
    exact (isAlpha_toLower c).2 caseless

/-! ## Texts -/

theorem reachesCased_map_toLower (cs : List Char) :
    reachesCased (cs.map Char.toLower) = reachesCased cs := by
  unfold reachesCased
  induction cs with
  | nil => rfl
  | cons c cs ih =>
    obtain ⟨-, cased, ignorable, -⟩ := lowerChar_toLower c
    rw [List.map_cons, List.dropWhile_cons, List.dropWhile_cons, ignorable]
    cases isCaseIgnorable c with
    | true => exact ih
    | false => exact cased

theorem lowerSigma_map_toLower (before after : List Char) :
    lowerSigma (before.map Char.toLower) (after.map Char.toLower) = lowerSigma before after := by
  simp only [lowerSigma, reachesCased_map_toLower]

/-- Small ASCII letters may be put for capital ones before the lower-case mapping. -/
theorem lower_map_toLower (cs : List Char) : lower (cs.map Char.toLower) = lower cs := by
  suffices ∀ before, lowerAfter (before.map Char.toLower) (cs.map Char.toLower) =
      lowerAfter before cs from this []
  induction cs with
  | nil => exact fun _ => rfl
  | cons c cs ih =>
    intro before
    obtain ⟨lowered, -, -, sigma⟩ := lowerChar_toLower c
    have rest := ih (c :: before)
    rw [List.map_cons] at rest ⊢
    rw [lowerAfter, lowerAfter, rest, lowered, lowerSigma_map_toLower]
    simp only [sigma]

variable {cs ds : List Char}

theorem SameButCase.lower_eq (h : SameButCase cs ds) : lower cs = lower ds := by
  rw [← lower_map_toLower cs, h, lower_map_toLower]

/-- A text without letters is no other text in another case. -/
theorem SameButCase.eq_of_caseless (h : SameButCase cs ds)
    (caseless : ∀ d ∈ ds, d.isAlpha = false) : cs = ds := by
  unfold SameButCase at h
  induction ds generalizing cs with
  | nil => simpa using h
  | cons d ds ih =>
    obtain ⟨c, cs, rfl, head, tail⟩ := List.map_eq_cons_iff.1 h
    rw [(isAlpha_toLower d).2 (caseless d List.mem_cons_self),
      toLower_eq_iff (caseless d List.mem_cons_self)] at head
    rw [head, ih tail fun d mem => caseless d (List.mem_cons_of_mem _ mem)]

end ContextQuery.Text
