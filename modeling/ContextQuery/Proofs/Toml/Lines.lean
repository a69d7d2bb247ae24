import Mathlib.Data.List.Basic
import ContextQuery.Proofs.Toml.Quoting
import ContextQuery.Toml.Library

/-!
# Lines read back

Keys and values read back as they were written, and a text of lines, with blank lines between them,
reads as the statements of the lines.

## Main definitions

* `IsValue`: a text at the end of a line is a value.
* `IsStatement`: a text on a line is a statement.

## Main results

* `isStatement_pair`: a key with its value is a statement.
* `statements?_lines`: the statements of a text are those of its lines.
-/

namespace ContextQuery.Toml

variable {rest : List Char}

/-! ## Keys -/

theorem not_quote_of_bare {c : Char} (h : isBareChar c = true) :
    (c = '"' || c = '\x27') = false := by
  refine Bool.eq_false_iff.2 fun quote => ?_
  simp only [Bool.or_eq_true, decide_eq_true_eq] at quote
  obtain rfl | rfl := quote <;> exact absurd h (by decide)

theorem dropGap_cons {c : Char} {cs : List Char} (h : isGap c = false) :
    dropGap (c :: cs) = c :: cs := by
  simp [dropGap, h]

theorem chooseKey_chars (text : List Char) :
    ∃ quote cs, (chooseKey text).chars = quote :: cs ∧ (quote = '"' ∨ quote = '\x27') := by
  unfold chooseKey
  split
  · exact ⟨_, _, rfl, .inl rfl⟩
  split
  · exact ⟨_, _, rfl, .inr rfl⟩
  · exact ⟨_, _, rfl, .inl rfl⟩

theorem chooseString_chars (text : List Char) :
    ∃ quote cs, (chooseString text).chars = quote :: cs ∧ (quote = '"' ∨ quote = '\x27') := by
  unfold chooseString
  dsimp only
  split_ifs
  · exact ⟨_, _, rfl, .inl rfl⟩
  · exact ⟨_, _, rfl, .inr rfl⟩
  · exact ⟨_, _, rfl, .inl rfl⟩
  · exact ⟨_, _, rfl, .inr rfl⟩
  · exact ⟨_, _, rfl, .inl rfl⟩
  · exact ⟨_, _, rfl, .inl rfl⟩

/-- A character that starts a key. -/
def startsKey (c : Char) : Bool :=
  isBareChar c || c = '"' || c = '\x27'

theorem writeKey_chars (key : String) :
    ∃ c cs, (writeKey key).toList = c :: cs ∧ startsKey c = true := by
  unfold writeKey
  split
  · rename_i bare
    simp only [Bool.and_eq_true, Bool.not_eq_true', List.all_eq_true] at bare
    cases chars : key.toList with
    | nil => simp_all
    | cons c cs => exact ⟨c, cs, rfl, by simp [startsKey, bare.2 c (by simp [chars])]⟩
  · obtain ⟨quote, cs, eq, isQuote⟩ := chooseKey_chars key.toList
    refine ⟨quote, cs, by simpa using eq, ?_⟩
    obtain rfl | rfl := isQuote <;> rfl

theorem not_gap_of_startsKey {c : Char} (h : startsKey c = true) : isGap c = false := by
  refine Bool.eq_false_iff.2 fun gap => ?_
  simp only [isGap, Bool.or_eq_true, decide_eq_true_eq] at gap
  obtain rfl | rfl := gap <;> exact absurd h (by decide)

/-- A key reads back up to a character that ends it. -/
theorem keyPart?_writeKey (key : String) (stop : ∀ c ∈ rest.head?, isBareChar c = false) :
    keyPart? ((writeKey key).toList ++ rest) = some (key, rest) := by
  unfold writeKey
  split
  · rename_i bare
    simp only [Bool.and_eq_true, Bool.not_eq_true', List.all_eq_true] at bare
    have taken : (key.toList ++ rest).takeWhile isBareChar = key.toList := by
      rw [List.takeWhile_append_of_pos bare.2]
      cases rest <;> simp_all
    have dropped : (key.toList ++ rest).dropWhile isBareChar = rest := by
      rw [List.dropWhile_append_of_pos bare.2]
      cases rest <;> simp_all
    cases chars : key.toList with
    | nil => simp_all
    | cons c cs =>
      have first := bare.2 c (by simp [chars])
      rw [chars, List.cons_append] at taken dropped
      simp only [List.cons_append, keyPart?, not_quote_of_bare first, first, taken, dropped]
      simp [← chars]
  · obtain ⟨quote, cs, eq, isQuote⟩ := chooseKey_chars key.toList
    have read := quotedLine?_chooseKey key.toList rest
    rw [String.ofList_toList] at read
    rw [String.toList_ofList]
    rw [eq, List.cons_append] at read ⊢
    simpa only [keyPart?, Bool.or_eq_true, decide_eq_true_eq, isQuote, if_true] using read

/-- A key without dots reads back. -/
theorem key?_writeKey (key : String) (stop : ∀ c ∈ rest.head?, isBareChar c = false)
    (noDot : (dropGap rest).head? ≠ some '.') :
    key? ((writeKey key).toList ++ rest) = some ([key], dropGap rest) := by
  obtain ⟨c, cs, eq, starts⟩ := writeKey_chars key
  have front : dropGap ((writeKey key).toList ++ rest) = (writeKey key).toList ++ rest := by
    rw [eq, List.cons_append, dropGap_cons (not_gap_of_startsKey starts)]
  rw [key?, keyParts?, front, keyPart?_writeKey key stop]
  dsimp only [Option.bind_eq_bind, Option.bind_some]
  split
  · simp_all
  · rfl

/-! ## Values -/

/-- Before the end of a line, the text reads as the value. -/
def IsValue (text : List Char) (value : Value) : Prop :=
  ∀ rest, value? maxNesting (dropGap (text ++ '\n' :: rest)) = some (value, '\n' :: rest)

theorem isValue_string (text : String) : IsValue (writeString text).toList (.string text) := by
  intro rest
  obtain ⟨quote, cs, eq, isQuote⟩ := chooseString_chars text.toList
  have double : ('\n' :: rest).head? ≠ some '"' := by simp
  have single : ('\n' :: rest).head? ≠ some '\x27' := by simp
  have read := quoted?_chooseString text.toList double single
  rw [String.ofList_toList] at read
  rw [writeString, String.toList_ofList]
  rw [eq, List.cons_append] at read ⊢
  have notGap : isGap quote = false := by obtain rfl | rfl := isQuote <;> rfl
  rw [dropGap_cons notGap]
  unfold value?
  simp only [Bool.or_eq_true, decide_eq_true_eq, isQuote, if_true, read, Option.map_some]

/-- A value without quotes or brackets. -/
theorem isValue_scalar {c : Char} {cs : List Char} {value : Value} (first : c.isAlphanum = true)
    (all : ∀ c ∈ cs, isScalarChar c = true) (read : scalar? (c :: cs) = some value) :
    IsValue (c :: cs) value := by
  intro rest
  have apart (d : Char) (other : d.isAlphanum = false) : c ≠ d := by
    rintro rfl
    simp [first] at other
  have scalar : ∀ d ∈ c :: cs, isScalarChar d = true :=
    List.forall_mem_cons.2 ⟨by simp [isScalarChar, first], all⟩
  have split : splitScalar (c :: cs ++ '\n' :: rest) = (c :: cs, '\n' :: rest) := by
    unfold splitScalar
    rw [List.takeWhile_append_of_pos scalar, List.dropWhile_append_of_pos scalar]
    simp [isScalarChar]
  have notGap : isGap c = false := by simp [isGap, apart ' ' rfl, apart '\t' rfl]
  rw [List.cons_append, dropGap_cons notGap]
  unfold value?
  rw [← List.cons_append, split]
  simp [apart '"' rfl, apart '\x27' rfl, apart '[' rfl, apart '\x7b' rfl, read]

theorem isValue_boolean (value : Bool) :
    IsValue (Scalar.boolean value).write.toList (.boolean value) := by
  cases value with
  | false =>
    have text : (Scalar.boolean false).write.toList = ['f', 'a', 'l', 's', 'e'] := by decide
    rw [text]
    exact isValue_scalar (by decide) (List.all_eq_true.1 (by decide)) rfl
  | true =>
    have text : (Scalar.boolean true).write.toList = ['t', 'r', 'u', 'e'] := by decide
    rw [text]
    exact isValue_scalar (by decide) (List.all_eq_true.1 (by decide)) rfl

/-! ## Numbers -/

section Numbers

variable {n : Nat} {ds : List Char}

theorem digitValue?_of_isDigit {c : Char} (h : c.isDigit = true) :
    Text.digitValue? 10 c = some (c.toNat - 48) := by
  simp only [Char.isDigit, Bool.and_eq_true, decide_eq_true_eq, ge_iff_le] at h
  have low : '0' ≤ c := h.1
  have high : c ≤ '9' := h.2
  have bound : c.toNat ≤ 57 := UInt32.le_iff_toNat_le.1 h.2
  simp [Text.digitValue?, low, high]
  omega

theorem number_eq_ofDigitChars (all : ∀ c ∈ ds, c.isDigit = true) :
    Text.number 10 ds = Nat.ofDigitChars 10 ds 0 := by
  refine List.foldl_ext _ _ 0 fun start c mem => ?_
  rw [digitValue?_of_isDigit (all c mem), Nat.mul_comm]
  rfl

theorem digits?_eq (all : ∀ c ∈ ds, c.isDigit = true) {opened : Bool}
    (some' : ds ≠ [] ∨ opened = true) : digits? 10 opened ds = some ds := by
  induction ds generalizing opened with
  | nil => simp_all [digits?]
  | cons c ds ih =>
    obtain ⟨digit, all⟩ := List.forall_mem_cons.1 all
    have isDigit : Text.isDigit 10 c = true := by simp [Text.isDigit, digitValue?_of_isDigit digit]
    simp [digits?, isDigit, ih all (.inr rfl)]

/-- Only zero is written with a zero at the front. -/
theorem eq_zero_of_head_toDigits (h : (Nat.toDigits 10 n).head? = some '0') : n = 0 := by
  induction n using Nat.strongRecOn with
  | ind n ih =>
    rw [Nat.toDigits_eq_if (by omega)] at h
    split at h
    · rename_i small
      have table : ∀ m < 10, [m.digitChar].head? = some '0' → m = 0 := by decide
      exact table n small h
    · rename_i large
      have head : (Nat.toDigits 10 (n / 10)).head? = some '0' := by
        rwa [List.head?_append_of_ne_nil _ Nat.toDigits_ne_nil] at h
      have zero := ih (n / 10) (by omega) head
      omega

theorem skip?_eq_none {c : Char} {cs : List Char} (h : c ∉ cs) : skip? c cs = none := by
  cases cs <;> simp_all [skip?, eq_comm]

theorem boundedDigits?_rest {count low high n : Nat} {cs cs' : List Char}
    (h : boundedDigits? count low high cs = some (n, cs')) : cs' = cs.drop count := by
  unfold boundedDigits? at h
  grind

/-- Digits alone are no date and no time. -/
theorem isMoment_eq_false (all : ∀ c ∈ ds, c.isDigit = true) : isMoment ds = false := by
  have noSkip (count : Nat) {c : Char} (other : c.isDigit = false) :
      skip? c (ds.drop count) = none := skip?_eq_none fun mem => by
    simp [all c (List.mem_of_mem_drop mem)] at other
  have noDate : date? ds = none := by
    unfold date?
    cases read : boundedDigits? 4 0 9999 ds with
    | none => rfl
    | some found =>
      obtain ⟨year, cs⟩ := found
      rw [boundedDigits?_rest read]
      simp [noSkip 4 (c := '-') rfl]
  have noTime : time? ds = none := by
    unfold time?
    cases read : boundedDigits? 2 0 23 ds with
    | none => rfl
    | some found =>
      obtain ⟨hour, cs⟩ := found
      rw [boundedDigits?_rest read]
      simp [noSkip 2 (c := ':') rfl]
  simp [isMoment, noDate, noTime]

theorem isDigit_toDigits (n : Nat) : ∀ c ∈ Nat.toDigits 10 n, c.isDigit = true :=
  fun _ mem => Nat.isDigit_of_mem_toDigits (by omega) (by omega) mem

theorem not_mem_toDigits (n : Nat) {c : Char} (other : c.isDigit = false) :
    c ∉ Nat.toDigits 10 n := fun mem => by
  simp [isDigit_toDigits n c mem] at other

theorem splitSign_toDigits (n : Nat) :
    splitSign (Nat.toDigits 10 n) = (false, Nat.toDigits 10 n) := by
  unfold splitSign
  split
  · rename_i eq
    exact absurd (by simp [eq]) (not_mem_toDigits n (c := '+') rfl)
  · rename_i eq
    exact absurd (by simp [eq]) (not_mem_toDigits n (c := '-') rfl)
  · rfl

theorem integer?_toDigits (n : Nat) : integer? (Nat.toDigits 10 n) = some (n : Int) := by
  have plain : plainDigits? (Nat.toDigits 10 n) = some (Nat.toDigits 10 n) := by
    rw [plainDigits?, digits?_eq (isDigit_toDigits n) (.inl Nat.toDigits_ne_nil),
      Option.filter_some, if_pos]
    simp only [Bool.or_eq_true, decide_eq_true_eq]
    by_cases zero : n = 0
    · subst zero
      exact .inl rfl
    · exact .inr fun head => zero (eq_zero_of_head_toDigits head)
  have value : Text.number 10 (Nat.toDigits 10 n) = n := by
    rw [number_eq_ofDigitChars (isDigit_toDigits n),
      Nat.ofDigitChars_toDigits (by omega) (by omega)]
  unfold integer?
  split
  · rename_i eq
    exact absurd (by simp [eq]) (not_mem_toDigits n (c := 'x') rfl)
  · rename_i eq
    exact absurd (by simp [eq]) (not_mem_toDigits n (c := 'o') rfl)
  · rename_i eq
    exact absurd (by simp [eq]) (not_mem_toDigits n (c := 'b') rfl)
  · simp [splitSign_toDigits, plain, value]

theorem scalar?_toDigits (n : Nat) : scalar? (Nat.toDigits 10 n) = some (.integer n) := by
  have noWord {c : Char} (other : c.isDigit = false) {word : List Char} (mem : c ∈ word) :
      Nat.toDigits 10 n ≠ word := fun eq => not_mem_toDigits n other (eq ▸ mem)
  unfold scalar?
  rw [if_neg (noWord (c := 't') rfl (by decide)), if_neg (noWord (c := 'f') rfl (by decide)),
    if_neg, isMoment_eq_false (isDigit_toDigits n), integer?_toDigits]
  · rfl
  · simp only [splitSign_toDigits, List.contains_cons, List.contains_nil, Bool.or_false,
      Bool.or_eq_true, beq_iff_eq, not_or]
    exact ⟨noWord (c := 'n') rfl (by decide), noWord (c := 'n') rfl (by decide)⟩

theorem isValue_number (n : Nat) : IsValue (toString n).toList (.integer n) := by
  have read := scalar?_toDigits n
  have all := isDigit_toDigits n
  rw [Nat.toString_eq_repr, Nat.toList_repr]
  cases digits : Nat.toDigits 10 n with
  | nil => exact absurd digits Nat.toDigits_ne_nil
  | cons c cs =>
    rw [digits] at all read
    obtain ⟨first, others⟩ := List.forall_mem_cons.1 all
    refine isValue_scalar (by simp [Char.isAlphanum, first]) (fun c mem => ?_) read
    simp [isScalarChar, Char.isAlphanum, others c mem]

end Numbers

/-! ## Statements -/

/-- On a line, the text reads as the statement. -/
structure IsStatement (text : List Char) (s : Statement) : Prop where
  starts : ∃ c cs, text = c :: cs ∧ (startsKey c = true ∨ c = '[')
  read (rest : List Char) : statement? (text ++ '\n' :: rest) = some (s, '\n' :: rest)

theorem isStatement_pair {key : String} {text : List Char} {value : Value}
    (isValue : IsValue text value) :
    IsStatement ((writeKey key).toList ++ " = ".toList ++ text) (.pair ⟨[key], value⟩) := by
  obtain ⟨c, cs, eq, starts⟩ := writeKey_chars key
  refine ⟨⟨c, cs ++ " = ".toList ++ text, by simp [eq], .inl starts⟩, fun rest => ?_⟩
  have named : key? ((writeKey key).toList ++ (" = ".toList ++ text ++ '\n' :: rest)) =
      some ([key], '=' :: ' ' :: (text ++ '\n' :: rest)) := by
    refine (key?_writeKey key ?_ ?_).trans ?_
    · simp [isBareChar]
    · simp [dropGap, isGap]
    · simp [dropGap, isGap]
  have notBracket : c ≠ '[' := by
    rintro rfl
    exact absurd starts (by decide)
  have pair : pair? (value? maxNesting)
      ((writeKey key).toList ++ (" = ".toList ++ text ++ '\n' :: rest)) =
        some (⟨[key], value⟩, '\n' :: rest) := by
    have gap : dropGap (' ' :: (text ++ '\n' :: rest)) = dropGap (text ++ '\n' :: rest) := by
      simp [dropGap, isGap]
    rw [pair?, named]
    simp [skip?, gap, isValue rest]
  rw [List.append_assoc, List.append_assoc, ← List.append_assoc " = ".toList]
  rw [eq, List.cons_append] at pair ⊢
  unfold statement?
  split
  · simp_all
  · simp_all
  · rw [pair]
    rfl

theorem isStatement_header (key : String) :
    IsStatement ('[' :: ((writeKey key).toList ++ [']'])) (.header [key]) := by
  refine ⟨⟨'[', _, rfl, .inr rfl⟩, fun rest => ?_⟩
  obtain ⟨c, cs, eq, starts⟩ := writeKey_chars key
  have named : key? ((writeKey key).toList ++ (']' :: '\n' :: rest)) =
      some ([key], ']' :: '\n' :: rest) := by
    refine (key?_writeKey key ?_ ?_).trans ?_
    · simp [isBareChar]
    · simp [dropGap, isGap]
    · simp [dropGap, isGap]
  have notBracket : c ≠ '[' := by
    rintro rfl
    exact absurd starts (by decide)
  rw [List.cons_append, List.append_assoc, List.singleton_append]
  rw [eq, List.cons_append] at named ⊢
  unfold statement?
  split
  · simp_all
  · rename_i inner _ same
    obtain rfl : c :: (cs ++ ']' :: '\n' :: rest) = inner := List.cons.inj same |>.2
    simp [named, skip?]
  · simp_all

/-! ## Texts of lines -/

theorem statements?_line {text : List Char} {s : Statement} (h : IsStatement text s)
    (rounds : Nat) (rest : List Char) :
    statements? (rounds + 1) (text ++ '\n' :: rest) =
      (statements? rounds rest).map (s :: ·) := by
  obtain ⟨c, cs, eq, starts⟩ := h.starts
  have front : dropFiller? false (text ++ '\n' :: rest) = some (text ++ '\n' :: rest) := by
    have apart (d : Char) (other : (startsKey d || d = '[') = false) : c ≠ d := by
      rintro rfl
      simp_all
    have notGap : isGap c = false := by simp [isGap, apart ' ' rfl, apart '\t' rfl]
    rw [eq, List.cons_append, dropFiller?]
    simp [apart '\n' rfl, apart '\r' rfl, apart '#' rfl, notGap]
  have nonempty : text ++ '\n' :: rest ≠ [] := by simp
  rw [statements?, front]
  dsimp only [Option.bind_eq_bind, Option.bind_some]
  split
  · contradiction
  · have ended : endLine? ('\n' :: rest) = some rest := rfl
    rw [h.read rest]
    simp only [Option.bind_some, ended]
    cases more : statements? rounds rest <;> rfl

theorem statements?_blank (rounds : Nat) (rest : List Char) :
    statements? (rounds + 1) ('\n' :: rest) = statements? (rounds + 1) rest := rfl

/-- Lines with statements are read one after the other. -/
theorem statements?_lines {lines : List (List Char × Statement)}
    (each : ∀ l ∈ lines, IsStatement l.1 l.2) (rounds : Nat) (rest : List Char) :
    statements? (rounds + lines.length) (lines.flatMap (fun l => l.1 ++ ['\n']) ++ rest) =
      (statements? rounds rest).map (lines.map (·.2) ++ ·) := by
  induction lines with
  | nil => simp
  | cons l lines ih =>
    obtain ⟨first, others⟩ := List.forall_mem_cons.1 each
    have front : (l :: lines).flatMap (fun l => l.1 ++ ['\n']) ++ rest =
        l.1 ++ '\n' :: (lines.flatMap (fun l => l.1 ++ ['\n']) ++ rest) := by simp
    rw [front, List.length_cons, ← Nat.add_assoc, statements?_line first, ih others, Option.map_map]
    rfl

end ContextQuery.Toml
