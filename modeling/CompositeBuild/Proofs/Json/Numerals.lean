/-
# Reading blanks and written integers

Blanks before a value are skipped, and an integer is read back from its written form if no character
follows that could continue a numeral (`readNode_integerText`).
-/
import CompositeBuild.Json.Reader
import CompositeBuild.Proofs.Text.Trimming
import Mathlib.Data.List.TakeDrop

namespace CompositeBuild.Json

/-! ## Blanks -/

/-- The text consists of blanks. -/
def IsBlanks (cs : List Char) : Prop := ∀ c ∈ cs, isBlank c = true

theorem skipBlanks_append {bs : List Char} (hbs : IsBlanks bs) (cs : List Char) :
    skipBlanks (bs ++ cs) = skipBlanks cs :=
  List.dropWhile_append_of_pos hbs

theorem skipBlanks_cons {c : Char} (hc : isBlank c = false) (cs : List Char) :
    skipBlanks (c :: cs) = c :: cs :=
  List.dropWhile_cons_of_neg (by simp [hc])

/-! ## What ends a numeral -/

/-- A text that cannot continue a numeral. -/
def EndsNumeral (rest : List Char) : Prop :=
  ∀ c ∈ rest.head?, c.isDigit = false ∧ c ≠ '.' ∧ c ≠ 'e' ∧ c ≠ 'E'

/-- Blanks before a text that cannot continue a numeral cannot continue it either. -/
theorem endsNumeral_append {bs cs : List Char} (hbs : IsBlanks bs) (hcs : EndsNumeral cs) :
    EndsNumeral (bs ++ cs) := by
  cases bs with
  | nil => exact hcs
  | cons b bs =>
    intro c hc
    obtain rfl : b = c := by simpa using hc
    have hb : isBlank b = true := hbs b List.mem_cons_self
    simp only [isBlank, Bool.or_eq_true, beq_iff_eq] at hb
    rcases hb with ((rfl | rfl) | rfl) | rfl <;> decide

/-- A numeral without fraction and exponent is complete before such a text. -/
theorem readFraction_of_endsNumeral (n : Number.Numeral) {rest : List Char}
    (hrest : EndsNumeral rest) : readFraction n rest = (numeralNode n, rest) := by
  cases rest with
  | nil => rfl
  | cons c cs =>
    obtain ⟨-, hpoint, he, hE⟩ := hrest c rfl
    unfold readFraction
    split
    · rename_i heq
      exact absurd (List.cons.inj heq).1 hpoint
    · show (if c = 'e' ∨ c = 'E' then _ else _) = _
      rw [if_neg (by simp [he, hE])]

/-! ## Digits -/

/-- A number is written in digits, at least one. -/
theorem exists_digits (n : Nat) : ∃ d ds, Nat.toDigits 10 n = d :: ds ∧ d.isDigit = true := by
  obtain ⟨d, ds, hdigits⟩ := List.exists_cons_of_ne_nil (Nat.toDigits_ne_nil (n := n) (b := 10))
  refine ⟨d, ds, hdigits, ?_⟩
  exact Nat.isDigit_of_mem_toDigits (by decide) (by decide) (hdigits ▸ List.mem_cons_self)

/-- A digit differs from every character that is none. -/
theorem ne_of_isDigit {d : Char} (hd : d.isDigit = true) (c : Char) (hc : c.isDigit = false) :
    d ≠ c := by
  rintro rfl
  simp [hc] at hd

/-- A digit is not blank. -/
theorem isBlank_of_isDigit {d : Char} (hd : d.isDigit = true) : isBlank d = false := by
  have hne := ne_of_isDigit hd
  simp [isBlank, hne ' ' rfl, hne '\t' rfl, hne '\n' rfl, hne '\r' rfl]

/-- A positive number is written without leading zeros. -/
theorem exists_toDigits_eq_cons {n : Nat} (hn : 0 < n) :
    ∃ d ds, Nat.toDigits 10 n = d :: ds ∧ d ≠ '0' := by
  induction n using Nat.strongRecOn with
  | ind n ih =>
    rw [Nat.toDigits_eq_if (by decide)]
    split
    · exact ⟨n.digitChar, [], rfl, by simp [Nat.pos_iff_ne_zero.1 hn]⟩
    · obtain ⟨d, ds, hdigits, hd⟩ := ih (n / 10) (by omega) (by omega)
      exact ⟨d, ds ++ [(n % 10).digitChar], by rw [hdigits]; rfl, hd⟩

/-- The digits of a number are taken from a text in which none follows them. -/
theorem span_toDigits (n : Nat) {rest : List Char} (hrest : EndsNumeral rest) :
    (Nat.toDigits 10 n ++ rest).span Char.isDigit = (Nat.toDigits 10 n, rest) := by
  have hdigits : ∀ c ∈ Nat.toDigits 10 n, c.isDigit = true := fun c hc =>
    Nat.isDigit_of_mem_toDigits (by decide) (by decide) hc
  have hstop : ∀ c ∈ rest.head?, c.isDigit = false := fun c hc => (hrest c hc).1
  rw [List.span_eq_takeWhile_dropWhile, takeWhile_append_of_head hdigits hstop,
    dropWhile_append_of_head hdigits hstop]

/-- Reading the digits of a number gives the numeral of these digits. -/
theorem readNumeral_toDigits (negative : Bool) (n : Nat) {rest : List Char}
    (hrest : EndsNumeral rest) :
    readNumeral negative (Nat.toDigits 10 n ++ rest) =
      (numeralNode ⟨negative, Nat.toDigits 10 n, [], none⟩, rest) := by
  unfold readNumeral
  rw [span_toDigits n hrest]
  split
  · rename_i heq
    exact absurd (Prod.mk.inj heq).1 Nat.toDigits_ne_nil
  · rename_i heq
    -- Only zero starts with a zero, and it has no second digit.
    have hzero := (Prod.mk.inj heq).1
    rcases Nat.eq_zero_or_pos n with rfl | hn
    · simp at hzero
    · obtain ⟨d, ds, hdigits, hd⟩ := exists_toDigits_eq_cons hn
      rw [hdigits] at hzero
      exact absurd (List.cons.inj hzero).1 hd
  · rename_i heq
    obtain ⟨rfl, rfl⟩ := Prod.mk.inj heq
    exact readFraction_of_endsNumeral _ hrest

/-- The node of a numeral holds the number that it stands for. -/
theorem numeralNode_of_number? {n : Number.Numeral} {value : Number} (h : n.number? = some value) :
    numeralNode n = .number value := by
  unfold numeralNode
  rw [h]

/-- The numeral of the digits of a number stands for the number. -/
theorem number?_toDigits {n : Nat} (fits : Fits n) :
    (⟨false, Nat.toDigits 10 n, [], none⟩ : Number.Numeral).number? = some (.integer n fits) := by
  unfold Number.Numeral.number?
  simp only [Nat.ofDigitChars_toDigits (by decide : 1 < 10) (by decide : 10 ≤ 10), and_self,
    if_true, Bool.false_eq_true, if_false, false_and]
  exact dif_pos fits

/-- The numeral of a minus sign and the digits of a positive number stands for the negated
number. -/
theorem number?_neg_toDigits {n : Nat} (fits : Fits (Int.negSucc n)) :
    (⟨true, Nat.toDigits 10 (n + 1), [], none⟩ : Number.Numeral).number? =
      some (.integer (Int.negSucc n) fits) := by
  have hvalue : -((n + 1 : Nat) : Int) = Int.negSucc n := rfl
  unfold Number.Numeral.number?
  simp only [Nat.ofDigitChars_toDigits (by decide : 1 < 10) (by decide : 10 ≤ 10), hvalue, and_self,
    if_true, Nat.succ_ne_zero, and_false, if_false]
  exact dif_pos fits

/-! ## Integers -/

/-- The text of an integer starts with a minus sign or a digit. -/
theorem exists_integerText_eq_cons (value : Int) :
    ∃ c cs, Number.integerText value = c :: cs ∧ (c = '-' ∨ c.isDigit = true) := by
  cases value with
  | ofNat n =>
    obtain ⟨d, ds, hdigits, hd⟩ := exists_digits n
    exact ⟨d, ds, hdigits, .inr hd⟩
  | negSucc n => exact ⟨'-', _, rfl, .inl rfl⟩

/-- A value that starts with a digit is a numeral. -/
theorem readNode_of_isDigit {d : Char} (hd : d.isDigit = true) (fuel : Nat) (cs : List Char) :
    readNode (fuel + 1) (d :: cs) = readNumeral false (d :: cs) := by
  rw [readNode, skipBlanks_cons (isBlank_of_isDigit hd)]
  split
  case h_1 heq => exact absurd heq (List.cons_ne_nil d cs)
  case h_9 heq =>
    obtain ⟨rfl, rfl⟩ := List.cons.inj heq
    rw [if_pos hd]
  -- Every other kind of value starts with a character that is no digit.
  all_goals
    rename_i heq
    exact absurd (List.cons.inj heq).1 (ne_of_isDigit hd _ rfl)

/-- **An integer is read back from its written form.** -/
theorem readNode_integerText {value : Int} (fits : Fits value) (fuel : Nat) {rest : List Char}
    (hrest : EndsNumeral rest) :
    readNode (fuel + 1) (Number.integerText value ++ rest) =
      (.number (.integer value fits), rest) := by
  rcases Int.lt_or_le value 0 with hneg | hpos
  · obtain ⟨n, rfl⟩ := Int.eq_negSucc_of_lt_zero hneg
    show readNumeral true (Nat.toDigits 10 (n + 1) ++ rest) = _
    rw [readNumeral_toDigits true (n + 1) hrest, numeralNode_of_number? (number?_neg_toDigits fits)]
  · obtain ⟨n, rfl⟩ := Int.eq_ofNat_of_zero_le hpos
    obtain ⟨d, ds, hdigits, hd⟩ := exists_digits n
    have hstart : readNode (fuel + 1) (Nat.toDigits 10 n ++ rest) =
        readNumeral false (Nat.toDigits 10 n ++ rest) := by
      rw [hdigits]
      exact readNode_of_isDigit hd fuel (ds ++ rest)
    show readNode (fuel + 1) (Nat.toDigits 10 n ++ rest) = _
    rw [hstart, readNumeral_toDigits false n hrest, numeralNode_of_number? (number?_toDigits fits)]

end CompositeBuild.Json
