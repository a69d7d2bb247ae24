import ContextQuery.Proofs.Text.Folding
import ContextQuery.Text.Blank

/-!
# Laws of trimming

Trimming takes characters off the ends of a text, so a text that keeps its length keeps all its
characters. Lower-casing makes no blanks, which is read off the tables.

## Main results

* `Text.trim_eq_self_of_length`: a text that is as long as before was not trimmed.
* `Text.isBlank_of_mem_lower`: the blanks of a text in lower case stood there before.
-/

namespace ContextQuery.Text

/-! ## Trimming -/

theorem dropTrailing_sublist (cs : List Char) : (dropTrailing cs).Sublist cs := by
  have dropped := (List.dropWhile_sublist isBlank (l := cs.reverse)).reverse
  rwa [List.reverse_reverse] at dropped

theorem trimmed_sublist (cs : List Char) : (trimmed cs).Sublist cs :=
  (dropTrailing_sublist _).trans (List.dropWhile_sublist isBlank)

theorem dropTrailing_eq_self {cs : List Char} (h : ∀ c ∈ cs, isBlank c = false) :
    dropTrailing cs = cs := by
  have kept : cs.reverse.dropWhile isBlank = cs.reverse := by
    cases eq : cs.reverse with
    | nil => rfl
    | cons c ds =>
      have visible := h c (List.mem_reverse.1 (eq ▸ List.mem_cons_self))
      simp [visible]
  rw [dropTrailing, kept, List.reverse_reverse]

theorem trimmed_eq_self {cs : List Char} (h : ∀ c ∈ cs, isBlank c = false) : trimmed cs = cs := by
  have kept : cs.dropWhile isBlank = cs := by
    cases cs with
    | nil => rfl
    | cons c cs => simp [h c List.mem_cons_self]
  rw [trimmed, kept, dropTrailing_eq_self h]

theorem toList_trim (s : String) : (trim s).toList = trimmed s.toList := by
  rw [trim, String.toList_ofList]

theorem trim_eq_self {s : String} (h : ∀ c ∈ s.toList, isBlank c = false) : trim s = s := by
  rw [trim, trimmed_eq_self h, String.ofList_toList]

/-- A text that is as long as before was not trimmed. -/
theorem trim_eq_self_of_length {s : String} (h : s.toList.length ≤ (trim s).toList.length) :
    trim s = s := by
  rw [toList_trim] at h
  rw [trim, (trimmed_sublist s.toList).eq_of_length_le h, String.ofList_toList]

/-! ## Blanks and lower case -/

/-- No small letter of the run is a blank. -/
def CaseRun.visible (r : CaseRun) : Bool :=
  Nat.blt 0x60 (r.image r.first) &&
    blankRanges.all fun s => Nat.blt (r.image r.last) s.1 || Nat.blt s.2 (r.image r.first)

theorem visible_of_mem_caseRuns {r : CaseRun} (hr : r ∈ caseRuns) : r.visible = true := by
  have table : caseRuns.all CaseRun.visible = true := by
    decide +kernel
  exact List.all_eq_true.1 table r hr

/-- A code point that is no blank gives no blank, whether or not it is that of a character. -/
theorem isBlank_ofNat {n : Nat} (high : 0x60 < n)
    (outside : ∀ s ∈ blankRanges, n < s.1 ∨ s.2 < n) : isBlank (Char.ofNat n) = false := by
  by_cases valid : n.isValidChar
  · have toNat : (Char.ofNat n).toNat = n := by
      rw [Char.ofNat, dif_pos valid]
      rfl
    unfold isBlank
    split
    · have noSpace : Char.ofNat n ≠ ' ' := by
        intro eq
        rw [eq] at toNat
        have : ' '.toNat = 0x20 := rfl
        omega
      simp [noSpace, toNat]
      omega
    · rw [Ranges.contains, List.any_eq_false, toNat]
      intro s hs
      have := outside s hs
      simp only [Bool.and_eq_true, decide_eq_true_eq, not_and]
      omega
  · rw [Char.ofNat, dif_neg valid]
    decide

theorem isBlank_of_mem_lowerChar {c d : Char} (visible : isBlank c = false)
    (h : d ∈ lowerChar c) : isBlank d = false := by
  unfold lowerChar at h
  split at h
  · rename_i ascii
    have table : ∀ n < 0x80, isBlank (Char.ofNat n) = false →
        isBlank (Char.ofNat n).toLower = false := by
      decide +kernel
    rw [List.mem_singleton.1 h]
    simpa [visible] using table c.toNat ascii
  split at h
  · have table : ∀ d ∈ ['i', '\u0307'], isBlank d = false := by decide +kernel
    exact table d h
  · rw [List.mem_singleton.1 h]
    cases found : caseRuns.find? (·.covers c.toNat) with
    | none => simpa [lowerCode, found] using visible
    | some run =>
      have mem := List.mem_of_find?_eq_some found
      have covers : run.covers c.toNat = true := by simpa using List.find?_some found
      have image : lowerCode c.toNat = run.image c.toNat := by
        simp [lowerCode, found, CaseRun.image]
      obtain ⟨from_first, to_last, -⟩ := CaseRun.covers_iff.1 covers
      have clear := visible_of_mem_caseRuns mem
      simp only [CaseRun.visible, Bool.and_eq_true, Nat.blt_eq, List.all_eq_true,
        Bool.or_eq_true] at clear
      rw [image]
      refine isBlank_ofNat ?_ fun s hs => ?_
      · have := clear.1
        unfold CaseRun.image at *
        omega
      · have := clear.2 s hs
        unfold CaseRun.image at *
        omega

/-- Lower-casing makes no blanks. -/
theorem isBlank_of_mem_lower {cs : List Char} (visible : ∀ c ∈ cs, isBlank c = false) :
    ∀ d ∈ lower cs, isBlank d = false := by
  suffices ∀ before, ∀ d ∈ lowerAfter before cs, isBlank d = false from this []
  induction cs with
  | nil => simp [lowerAfter]
  | cons c cs ih =>
    obtain ⟨visibleHead, visibleTail⟩ := List.forall_mem_cons.1 visible
    intro before d hd
    rw [lowerAfter, List.mem_append] at hd
    rcases hd with hd | hd
    · split at hd
      · rw [List.mem_singleton.1 hd, lowerSigma]
        split <;> decide +kernel
      · exact isBlank_of_mem_lowerChar visibleHead hd
    · exact ih visibleTail _ d hd

end ContextQuery.Text
