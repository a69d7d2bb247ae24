import ContextQuery.Text.LowerCase

/-!
# Laws of lower-casing

What lower-casing leaves is left alone by lower-casing again, and punctuation, such as quotes,
backslashes and dots, is neither changed nor made. Both are read off the table of capital letters.

## Main definitions

* `CaseRun.clears`: the small letters of one run are no capital letters of another.
* `Settled`: a character that lower-casing keeps, wherever it stands.
* `Folds`: one text comes from another by changing characters that are no quote or backslash.
-/

namespace ContextQuery.Text

/-- What holds of all characters of a list is decided along the list, not over all characters. -/
instance (priority := high) decidableForallMem (p : Char → Prop) [DecidablePred p]
    (cs : List Char) : Decidable (∀ c ∈ cs, p c) :=
  List.decidableBAll p cs

/-! ## The table -/

theorem CaseRun.covers_iff {r : CaseRun} {n : Nat} :
    r.covers n = true ↔ r.first ≤ n ∧ n ≤ r.last ∧ (n - r.first) % r.step = 0 := by
  simp [CaseRun.covers, and_assoc]

/-- The code point that a run makes of another one. -/
def CaseRun.image (r : CaseRun) (n : Nat) : Nat :=
  (n + r.delta).toNat

/-- No small letter of the run is covered by the other one. -/
def CaseRun.clears (r s : CaseRun) : Bool :=
  Nat.blt (r.image r.last) s.first || Nat.blt s.last (r.image r.first) ||
    (r.step == 2 || r.first == r.last) && s.step == 2 && (r.image r.first + s.first) % 2 == 1

/-- The code points that are no small letters for other reasons: those up to the ASCII capitals,
the capital that becomes two characters, the surrogates, and those past the last character. -/
def barredRuns : List CaseRun :=
  [⟨0, 0x60, 1, 0⟩, ⟨0x130, 0x130, 1, 0⟩, ⟨0xD800, 0xDFFF, 1, 0⟩, ⟨0x110000, 0xFFFFFF, 1, 0⟩]

theorem clears_of_mem_caseRuns {r s : CaseRun} (hr : r ∈ caseRuns)
    (hs : s ∈ caseRuns ++ barredRuns) : r.clears s = true := by
  have table : (caseRuns.all fun r => (caseRuns ++ barredRuns).all r.clears) = true := by
    decide +kernel
  exact List.all_eq_true.1 (List.all_eq_true.1 table r hr) s hs

/-- A run leads upwards in steps of one or two, and its small letters are code points. -/
theorem shape_of_mem_caseRuns {r : CaseRun} (hr : r ∈ caseRuns) :
    (r.step = 1 ∨ r.step = 2) ∧ 0 < r.image r.first ∧ r.image r.last ≤ 0xFFFFFF := by
  have table : (caseRuns.all fun r => (r.step == 1 || r.step == 2) &&
      Nat.blt 0 (r.image r.first) && Nat.ble (r.image r.last) 0xFFFFFF) = true := by
    decide +kernel
  have h := List.all_eq_true.1 table r hr
  simpa [Nat.blt_eq, Nat.ble_eq, and_assoc] using h

/-- A small letter is a capital letter in no run. -/
theorem not_covers_image {r s : CaseRun} (hr : r ∈ caseRuns) (hs : s ∈ caseRuns ++ barredRuns)
    {n : Nat} (covers : r.covers n = true) : s.covers (r.image n) = false := by
  obtain ⟨step, low, high⟩ := shape_of_mem_caseRuns hr
  have clears := clears_of_mem_caseRuns hr hs
  refine Bool.eq_false_iff.2 fun inside => ?_
  obtain ⟨from_first, to_last, stepped⟩ := CaseRun.covers_iff.1 covers
  obtain ⟨from_first', to_last', stepped'⟩ := CaseRun.covers_iff.1 inside
  simp only [CaseRun.clears, CaseRun.image, Nat.blt_eq, Bool.or_eq_true, Bool.and_eq_true,
    beq_iff_eq] at *
  rcases clears with (above | below) | ⟨⟨spaced, spaced'⟩, odd⟩
  · omega
  · omega
  · rw [spaced'] at stepped'
    rcases spaced with spaced | single
    · rw [spaced] at stepped
      omega
    · omega

/-! ## Characters -/

/-- A character that lower-casing keeps, wherever it stands. -/
def Settled (c : Char) : Prop :=
  lowerChar c = [c]

instance (c : Char) : Decidable (Settled c) :=
  inferInstanceAs (Decidable (_ = _))

/-- A quote or a backslash. -/
def isEscaping (c : Char) : Bool :=
  c = '"' || c = '\\'

theorem Settled.ne_sigma {c : Char} (h : Settled c) : c ≠ 'Σ' := by
  rintro rfl
  revert h
  decide +kernel

theorem settled_of_isEscaping {c : Char} (h : isEscaping c = true) : Settled c := by
  simp only [isEscaping, Bool.or_eq_true, decide_eq_true_eq] at h
  rcases h with rfl | rfl <;> decide

theorem lowerCode_eq_self {n : Nat} (h : ∀ r ∈ caseRuns, r.covers n = false) :
    lowerCode n = n := by
  have none : caseRuns.find? (·.covers n) = none := by simpa using h
  simp [lowerCode, none]

theorem isEscaping_of_lt {c : Char} (h : 0x60 < c.toNat) : isEscaping c = false := by
  refine Bool.eq_false_iff.2 fun escaping => ?_
  simp only [isEscaping, Bool.or_eq_true, decide_eq_true_eq] at escaping
  rcases escaping with rfl | rfl <;> simp at h

theorem lt_of_isAlphanum {c : Char} (h : c.isAlphanum = true) : c.toNat < 0x80 := by
  change (decide (c.val ≥ 'A'.val ∧ c.val ≤ 'Z'.val) ||
    decide (c.val ≥ 'a'.val) && decide (c.val ≤ 'z'.val) ||
    decide (c.val ≥ '0'.val) && decide (c.val ≤ '9'.val)) = true at h
  simp only [Bool.or_eq_true, Bool.and_eq_true, decide_eq_true_eq, UInt32.le_iff_toNat_le] at h
  rcases h with (⟨-, h⟩ | ⟨-, h⟩) | ⟨-, h⟩
  · exact Nat.lt_of_le_of_lt h (by decide)
  · exact Nat.lt_of_le_of_lt h (by decide)
  · exact Nat.lt_of_le_of_lt h (by decide)

theorem settled_toLower_of_ascii {c : Char} (h : c.toNat < 0x80) :
    Settled c.toLower ∧ (c.toLower.toNat ≤ 0x60 → c.toLower = c) := by
  have table : ∀ n < 0x80, Settled (Char.ofNat n).toLower ∧
      ((Char.ofNat n).toLower.toNat ≤ 0x60 → (Char.ofNat n).toLower = Char.ofNat n) := by
    decide +kernel
  simpa using table c.toNat h

/-- A code point that no run covers and nothing bars is that of a small letter. -/
theorem settled_ofNat {n : Nat} (small : n ≤ 0xFFFFFF)
    (h : ∀ s ∈ caseRuns ++ barredRuns, s.covers n = false) :
    Settled (Char.ofNat n) ∧ 0x60 < (Char.ofNat n).toNat := by
  have unbarred : ∀ s ∈ barredRuns, s.covers n = false := fun s hs =>
    h s (List.mem_append_right _ hs)
  simp only [barredRuns, List.mem_cons, List.not_mem_nil, or_false, forall_eq_or_imp, forall_eq,
    Bool.eq_false_iff, ne_eq, CaseRun.covers_iff] at unbarred
  have valid : n.isValidChar := by
    unfold Nat.isValidChar
    omega
  have toNat : (Char.ofNat n).toNat = n := by
    rw [Char.ofNat, dif_pos valid]
    rfl
  constructor
  · by_cases ascii : n < 0x80
    · have table : ∀ k < 0x80, 0x60 < k → Settled (Char.ofNat k) := by decide +kernel
      exact table n ascii (by omega)
    · have code := lowerCode_eq_self fun r hr => h r (List.mem_append_left _ hr)
      have notDotted : n ≠ 0x130 := by omega
      simp [Settled, lowerChar, toNat, ascii, notDotted, code]
  · rw [toNat]
    omega

/-- What lower-casing makes of a character is settled, and what it makes before the small letters of
ASCII, such as a dot, it makes of itself only. -/
theorem settled_of_mem_lowerChar {c d : Char} (h : d ∈ lowerChar c) :
    Settled d ∧ (d.toNat ≤ 0x60 → d = c) := by
  unfold lowerChar at h
  split at h
  · rename_i ascii
    rw [List.mem_singleton.1 h]
    exact settled_toLower_of_ascii ascii
  split at h
  · have table : ∀ d ∈ ['i', '\u0307'], Settled d ∧ 0x60 < d.toNat := by decide +kernel
    obtain ⟨settled, high⟩ := table d h
    exact ⟨settled, fun low => absurd high (Nat.not_lt.2 low)⟩
  · rename_i notAscii notDotted
    have eq := List.mem_singleton.1 h
    cases found : caseRuns.find? (·.covers c.toNat) with
    | none =>
      have same : lowerCode c.toNat = c.toNat := by simp [lowerCode, found]
      rw [same, Char.ofNat_toNat] at eq
      subst eq
      exact ⟨by simp [Settled, lowerChar, notAscii, notDotted, same], fun _ => rfl⟩
    | some run =>
      have mem := List.mem_of_find?_eq_some found
      have covers : run.covers c.toNat = true := by simpa using List.find?_some found
      have image : lowerCode c.toNat = run.image c.toNat := by
        simp [lowerCode, found, CaseRun.image]
      obtain ⟨-, -, high⟩ := shape_of_mem_caseRuns mem
      have small : run.image c.toNat ≤ 0xFFFFFF := by
        have := (CaseRun.covers_iff.1 covers).2.1
        unfold CaseRun.image at *
        omega
      rw [image] at eq
      obtain ⟨settled, high⟩ := settled_ofNat small fun s hs => not_covers_image mem hs covers
      rw [eq]
      exact ⟨settled, fun low => absurd high (Nat.not_lt.2 low)⟩

theorem lowerChar_ne_nil (c : Char) : lowerChar c ≠ [] := by
  unfold lowerChar
  split
  · simp
  · split <;> simp

theorem settled_lowerSigma (before after : List Char) :
    Settled (lowerSigma before after) ∧ 0x60 < (lowerSigma before after).toNat := by
  unfold lowerSigma
  split <;> decide +kernel

/-! ## Texts -/

theorem settled_of_mem_lowerAfter {before cs : List Char} {d : Char}
    (h : d ∈ lowerAfter before cs) : Settled d := by
  induction cs generalizing before with
  | nil => simp [lowerAfter] at h
  | cons c cs ih =>
    rw [lowerAfter, List.mem_append] at h
    rcases h with h | h
    · split at h
      · exact List.mem_singleton.1 h ▸ (settled_lowerSigma _ _).1
      · exact (settled_of_mem_lowerChar h).1
    · exact ih h

theorem settled_of_mem_lower {cs : List Char} {d : Char} (h : d ∈ lower cs) : Settled d :=
  settled_of_mem_lowerAfter h

theorem settled_of_mem_lowerCase {s : String} {d : Char} (h : d ∈ (lowerCase s).toList) :
    Settled d :=
  settled_of_mem_lower (by simpa [lowerCase] using h)

theorem lower_eq_self {cs : List Char} (h : ∀ c ∈ cs, Settled c) : lower cs = cs := by
  suffices ∀ before, lowerAfter before cs = cs from this []
  induction cs with
  | nil => exact fun _ => rfl
  | cons c cs ih =>
    intro before
    have settled := h c List.mem_cons_self
    rw [lowerAfter, if_neg settled.ne_sigma, settled,
      ih fun c hc => h c (List.mem_cons_of_mem _ hc)]
    rfl

theorem lowerCase_eq_self {s : String} (h : ∀ c ∈ s.toList, Settled c) : lowerCase s = s := by
  rw [lowerCase, lower_eq_self h, String.ofList_toList]

/-- Lower-casing twice is lower-casing once. -/
theorem lowerCase_lowerCase (s : String) : lowerCase (lowerCase s) = lowerCase s :=
  lowerCase_eq_self fun _ => settled_of_mem_lowerCase

/-- The second text comes from the first by putting other characters for those that are no quote
or backslash. -/
inductive Folds : List Char → List Char → Prop where
  | nil : Folds [] []
  | keep {c : Char} {cs ds : List Char} (escaping : isEscaping c = true) (rest : Folds cs ds) :
      Folds (c :: cs) (c :: ds)
  | change {c e : Char} {cs es ds : List Char} (plain : isEscaping c = false)
      (plain' : ∀ d ∈ e :: es, isEscaping d = false) (rest : Folds cs ds) :
      Folds (c :: cs) (e :: es ++ ds)

theorem folds_lower (cs : List Char) : Folds cs (lower cs) := by
  suffices ∀ before, Folds cs (lowerAfter before cs) from this []
  induction cs with
  | nil => exact fun _ => .nil
  | cons c cs ih =>
    intro before
    rw [lowerAfter]
    cases escaping : isEscaping c with
    | true =>
      have settled := settled_of_isEscaping escaping
      rw [if_neg settled.ne_sigma, settled]
      exact .keep escaping (ih _)
    | false =>
      split
      · exact .change escaping (by simpa using isEscaping_of_lt (settled_lowerSigma _ _).2) (ih _)
      · obtain ⟨e, es, eq⟩ := List.exists_cons_of_ne_nil (lowerChar_ne_nil c)
        rw [eq]
        refine .change escaping (fun d hd => ?_) (ih _)
        obtain ⟨-, made⟩ := settled_of_mem_lowerChar (eq ▸ hd)
        obtain high | low := Nat.lt_or_ge 0x60 d.toNat
        · exact isEscaping_of_lt high
        · rw [made low, escaping]

theorem Folds.append_inv {a b ds : List Char} (h : Folds (a ++ b) ds) :
    ∃ a' b', ds = a' ++ b' ∧ Folds a a' ∧ Folds b b' := by
  induction a generalizing ds with
  | nil => exact ⟨[], ds, rfl, .nil, h⟩
  | cons c a ih =>
    cases h with
    | keep escaping rest =>
      obtain ⟨a', b', rfl, ha, hb⟩ := ih rest
      exact ⟨c :: a', b', rfl, .keep escaping ha, hb⟩
    | change plain plain' rest =>
      obtain ⟨a', b', rfl, ha, hb⟩ := ih rest
      exact ⟨_, b', by rw [List.append_assoc], .change plain plain' ha, hb⟩

theorem lowerCase_ne_empty {s : String} (h : s ≠ "") : lowerCase s ≠ "" := by
  intro empty
  have folds := folds_lower s.toList
  rw [show lower s.toList = [] by simpa [lowerCase] using empty] at folds
  generalize eq : s.toList = cs at folds
  cases folds with
  | nil => exact h (by simpa using eq)

end ContextQuery.Text
