/-
# Reading written strings

A string is read back from its written form, whatever characters it holds (`readString_quote`), and
that form holds no control characters, so that no line ends inside it (`newline_not_mem_quote`).
-/
import CompositeBuild.Json.Lexeme
import CompositeBuild.Json.Writer

namespace CompositeBuild.Json

/-! ## One character -/

/-- A character is written by a short escape, by its number, or as itself. -/
theorem escape_cases (c : Char) :
    (∃ e, escape c = ['\\', e] ∧ shortEscape? e = some c ∧ e ≠ 'u' ∧ 0x20 ≤ e.toNat) ∨
      (escape c = ['\\', 'u', '0', '0', hexDigit (c.toNat / 16), hexDigit (c.toNat % 16)] ∧
        c.toNat < 0x20) ∨
      (escape c = [c] ∧ c ≠ '"' ∧ c ≠ '\\' ∧ 0x20 ≤ c.toNat) := by
  unfold escape
  split
  · exact .inl ⟨'"', by subst c; decide⟩
  split
  · exact .inl ⟨'\\', by subst c; decide⟩
  split
  · exact .inl ⟨'b', by subst c; decide⟩
  split
  · exact .inl ⟨'f', by subst c; decide⟩
  split
  · exact .inl ⟨'n', by subst c; decide⟩
  split
  · exact .inl ⟨'r', by subst c; decide⟩
  split
  · exact .inl ⟨'t', by subst c; decide⟩
  split
  · rename_i hcontrol
    exact .inr (.inl ⟨rfl, hcontrol⟩)
  · rename_i hquote hbackslash _ _ _ _ _ hcontrol
    exact .inr (.inr ⟨rfl, hquote, hbackslash, Nat.le_of_not_lt hcontrol⟩)

theorem codeUnit?_hexDigits :
    ∀ n < 0x20, codeUnit? '0' '0' (hexDigit (n / 16)) (hexDigit (n % 16)) = some n := by
  decide

/-- A control character that is spelled by its number stands for itself. -/
theorem joinUnits_code {c : Char} (hc : c.toNat < 0x20) (units : List StringUnit) :
    joinUnits (.code c.toNat :: units) = (joinUnits units).map (c :: ·) := by
  have htrailing : isTrailing c.toNat = false := by
    simp only [isTrailing, Bool.and_eq_false_iff, decide_eq_false_iff_not]
    omega
  have hleading : isLeading c.toNat = false := by
    simp only [isLeading, Bool.and_eq_false_iff, decide_eq_false_iff_not]
    omega
  rw [joinUnits.eq_def]
  simp only [htrailing, hleading, Bool.false_eq_true, if_false, Char.ofNat_toNat]

/-- Reading a written character gives one unit, which stands for the character. -/
theorem stringUnits_escape (c : Char) (cs : List Char) :
    ∃ unit, stringUnits (escape c ++ cs) = (unit :: (stringUnits cs).1, (stringUnits cs).2) ∧
      ∀ units, joinUnits (unit :: units) = (joinUnits units).map (c :: ·) := by
  rcases escape_cases c with ⟨e, he, hshort, hu, -⟩ | ⟨he, hcontrol⟩ | ⟨he, hquote, hbackslash, hc⟩
  · refine ⟨.char c, ?_, fun _ => rfl⟩
    rw [he, List.cons_append, List.singleton_append, stringUnits, hshort]
    all_goals simp_all
  · refine ⟨.code c.toNat, ?_, joinUnits_code hcontrol⟩
    simp only [he, List.cons_append, List.nil_append, stringUnits,
      codeUnit?_hexDigits c.toNat hcontrol]
  · refine ⟨.char c, ?_, fun _ => rfl⟩
    rw [he, List.singleton_append, stringUnits, if_neg (Nat.not_lt.2 hc)]
    all_goals simp_all

/-- The written form of a character holds no control character. -/
theorem toNat_of_mem_escape {c d : Char} (hd : d ∈ escape c) : 0x20 ≤ d.toNat := by
  have hdigit : ∀ n < 16, 0x20 ≤ (hexDigit n).toNat := by decide
  rcases escape_cases c with ⟨e, he, -, -, hle⟩ | ⟨he, hcontrol⟩ | ⟨he, -, -, hle⟩
  · rw [he, List.mem_cons, List.mem_singleton] at hd
    rcases hd with rfl | rfl
    · decide
    · exact hle
  · rw [he] at hd
    have hhigh := hdigit (c.toNat / 16) (by omega)
    have hlow := hdigit (c.toNat % 16) (by omega)
    simp only [List.mem_cons, List.not_mem_nil, or_false] at hd
    rcases hd with rfl | rfl | rfl | rfl | rfl | rfl
    · decide
    · decide
    · decide
    · decide
    · exact hhigh
    · exact hlow
  · rw [he, List.mem_singleton] at hd
    rwa [hd]

/-! ## Strings -/

/-- Reading a written text up to its closing quote gives units that stand for the text. -/
theorem stringUnits_flatMap_escape (cs rest : List Char) :
    ∃ units, stringUnits (cs.flatMap escape ++ '"' :: rest) = (units, .closed rest) ∧
      joinUnits units = some cs := by
  induction cs with
  | nil => exact ⟨[], by simp [stringUnits], rfl⟩
  | cons c cs ih =>
    obtain ⟨units, hunits, hjoin⟩ := ih
    obtain ⟨unit, hunit, hfirst⟩ := stringUnits_escape c (cs.flatMap escape ++ '"' :: rest)
    refine ⟨unit :: units, ?_, ?_⟩
    · rw [List.flatMap_cons, List.append_assoc, hunit, hunits]
    · rw [hfirst, hjoin, Option.map_some]

/-- **A string is read back from its written form.** -/
theorem readString_quote (s : String) (rest : List Char) :
    readString (s.toList.flatMap escape ++ '"' :: rest) = .complete (some s) rest := by
  obtain ⟨units, hunits, hjoin⟩ := stringUnits_flatMap_escape s.toList rest
  unfold readString
  rw [hunits]
  simp only [hjoin, Option.map_some, String.ofList_toList]

theorem newline_not_mem_quote (cs : List Char) : '\n' ∉ quote cs := by
  have hescape (c : Char) : '\n' ∉ escape c := fun h => absurd (toNat_of_mem_escape h) (by decide)
  simp [quote, hescape]

end CompositeBuild.Json
