/-
# The grammar of version texts

A version text is cut before its first suffix and then at its dots (`HasPieces`), and it is accepted
exactly if each of its first three pieces is a number that fits (`ofPieces?_eq_some_iff`).  The
written form of a version is read back with white space before it and any suffix behind it
(`parse_written`).  Versions are in the order of their numbers (`isLE_compare_iff`), so a later
version never goes back to the included builds.
-/
import CompositeBuild.BuildGraph.Discovery
import CompositeBuild.Proofs.Text.Pieces
import CompositeBuild.Proofs.Text.Trimming
import Mathlib.Data.List.Forall2

namespace CompositeBuild.HostVersion

open Unicode (IsTrimmed)

/-! ## Pieces -/

/-- The character starts a suffix: it is `-`, `+` or white space. -/
def StartsSuffix (c : Char) : Prop := c = '-' ∨ c = '+' ∨ Unicode.isWhiteSpace c = true

/-- The text is empty or starts with a character that starts a suffix. -/
def IsSuffix (cs : List Char) : Prop := ∀ c ∈ cs.head?, StartsSuffix c

/-- The text, without the white space around it, consists of the pieces with dots between them and
of a suffix.  No piece holds a dot or a character that starts a suffix. -/
structure HasPieces (text : String) (pieces : List (List Char)) : Prop where
  ne_nil : pieces ≠ []
  dot_not_mem : ∀ piece ∈ pieces, '.' ∉ piece
  cut : ∃ suffix, IsTrimmed text.toList (['.'].intercalate pieces ++ suffix) ∧ IsSuffix suffix ∧
    ∀ c ∈ ['.'].intercalate pieces, ¬ StartsSuffix c

theorem startsSuffix_iff {c : Char} : startsSuffix c = true ↔ StartsSuffix c := by
  simp [startsSuffix, StartsSuffix, or_assoc]

/-- The part that is read of a text with a suffix. -/
theorem base_eq {cs base suffix : List Char} (h : IsTrimmed cs (base ++ suffix))
    (hsuffix : IsSuffix suffix) (hbase : ∀ c ∈ base, ¬ StartsSuffix c) :
    HostVersion.base cs = base := by
  unfold HostVersion.base
  rw [h.trim_eq]
  refine takeWhile_append_of_head (fun c hc => ?_) (fun c hc => ?_)
  · simpa [← startsSuffix_iff] using hbase c hc
  · simpa [startsSuffix_iff] using hsuffix c hc

theorem HasPieces.pieces_eq {text : String} {pieces : List (List Char)}
    (h : HasPieces text pieces) :
    (base text.toList).splitOn '.' = pieces := by
  obtain ⟨suffix, htrimmed, hsuffix, hbase⟩ := h.cut
  rw [base_eq htrimmed hsuffix hbase, List.splitOn_intercalate '.' h.dot_not_mem h.ne_nil]

/-- Every text has pieces. -/
theorem hasPieces_pieces (text : String) : HasPieces text ((base text.toList).splitOn '.') where
  ne_nil := List.splitOn_ne_nil _ _
  dot_not_mem _ := Text.not_mem_of_mem_splitOn
  cut := by
    rw [List.intercalate_splitOn]
    refine ⟨(Unicode.trim text.toList).dropWhile fun c => !startsSuffix c, ?_, fun c hc => ?_,
      fun c hc => ?_⟩
    · unfold base
      rw [List.takeWhile_append_dropWhile]
      exact Unicode.isTrimmed_trim _
    · simpa [startsSuffix_iff] using of_mem_head?_dropWhile c hc
    · simpa [← startsSuffix_iff] using List.mem_takeWhile_imp hc

/-! ## Numbers -/

/-- The text writes the number, which fits in 32 bits, in decimal digits, at least one. -/
structure IsNumeral (piece : List Char) (n : Nat) : Prop where
  ne_nil : piece ≠ []
  digits : ∀ c ∈ piece, '0' ≤ c ∧ c ≤ '9'
  value : Nat.ofDigitChars 10 piece 0 = n
  le : n ≤ 4294967295

/-- The numbers of a version, from left to right. -/
def numbers (v : HostVersion) : List Nat := [v.major.toNat, v.minor.toNat, v.patch.toNat]

/-- The first three pieces write the numbers of the version, and the numbers that are missing are
zero. -/
def HasNumbers (v : HostVersion) (pieces : List (List Char)) : Prop :=
  ∃ ns, List.Forall₂ IsNumeral (pieces.take 3) ns ∧
    v.numbers = ns ++ List.replicate (3 - ns.length) 0

theorem isDigit_iff {c : Char} : c.isDigit = true ↔ '0' ≤ c ∧ c ≤ '9' := by
  simp [Char.isDigit, Char.le_def]

/-- What is read of a piece is the number that it writes. -/
theorem number?_eq_some_iff {piece : List Char} {n : UInt32} :
    number? piece = some n ↔ IsNumeral piece n.toNat := by
  unfold number?
  rw [Option.ite_none_right_eq_some, Option.ite_none_right_eq_some, Option.some_inj,
    List.all_eq_true]
  constructor
  · rintro ⟨⟨hne, hdigits⟩, hlt, rfl⟩
    exact ⟨hne, fun c hc => isDigit_iff.1 (hdigits c hc), (UInt32.toNat_ofNat_of_lt' hlt).symm,
      Nat.le_of_lt_succ (UInt32.toNat_lt _)⟩
  · rintro ⟨hne, hdigits, hvalue, hle⟩
    refine ⟨⟨hne, fun c hc => isDigit_iff.2 (hdigits c hc)⟩, ?_⟩
    rw [hvalue]
    exact ⟨Nat.lt_succ_of_le hle, UInt32.ofNat_toNat⟩

/-- A piece can be read exactly if it writes a number. -/
theorem exists_number?_iff {piece : List Char} :
    (∃ x, number? piece = some x) ↔ ∃ n, IsNumeral piece n := by
  constructor
  · rintro ⟨x, hx⟩
    exact ⟨x.toNat, number?_eq_some_iff.1 hx⟩
  · rintro ⟨n, hn⟩
    have hvalue : (UInt32.ofNat n).toNat = n := UInt32.toNat_ofNat_of_lt' (Nat.lt_succ_of_le hn.le)
    exact ⟨UInt32.ofNat n, number?_eq_some_iff.2 (by rwa [hvalue])⟩

section Pieces

variable {pieces : List (List Char)} (hne : pieces ≠ [])
include hne

/-- What is read of pieces is the version whose numbers they write. -/
theorem ofPieces?_eq_some_iff {v : HostVersion} :
    ofPieces? pieces = some v ↔ HasNumbers v pieces := by
  obtain ⟨x, y, z⟩ := v
  have hzero (n : UInt32) : 0 = n ↔ n.toNat = 0 := by
    rw [eq_comm, ← UInt32.toNat_inj]
    rfl
  unfold HasNumbers numbers
  match pieces with
  | [] => exact absurd rfl hne
  | [a] =>
    simp [ofPieces?, Option.bind_eq_some_iff, number?_eq_some_iff, List.forall₂_cons_left_iff,
      hzero]
  | [a, b] =>
    simp [ofPieces?, Option.bind_eq_some_iff, number?_eq_some_iff, List.forall₂_cons_left_iff,
      hzero, and_assoc]
  | a :: b :: c :: rest =>
    simp [ofPieces?, Option.bind_eq_some_iff, number?_eq_some_iff, List.forall₂_cons_left_iff]

/-- Pieces can be read exactly if the first three write numbers. -/
theorem exists_ofPieces?_iff :
    (∃ v, ofPieces? pieces = some v) ↔ ∀ piece ∈ pieces.take 3, ∃ n, IsNumeral piece n := by
  simp only [← exists_number?_iff]
  match pieces with
  | [] => exact absurd rfl hne
  | [a] => simp [ofPieces?, Option.bind_eq_some_iff]
  | [a, b] => simp [ofPieces?, Option.bind_eq_some_iff]
  | a :: b :: c :: rest => simp [ofPieces?, Option.bind_eq_some_iff]

end Pieces

section Parse

variable {text : String} {pieces : List (List Char)} (h : HasPieces text pieces)
include h

/-- A text is read as the version whose numbers its pieces write. -/
theorem parse_eq_ok_iff {v : HostVersion} : parse text = .ok v ↔ HasNumbers v pieces := by
  rw [← ofPieces?_eq_some_iff h.ne_nil]
  unfold parse
  rw [h.pieces_eq]
  cases ofPieces? pieces <;> simp

theorem exists_parse_iff :
    (∃ v, parse text = .ok v) ↔ ∀ piece ∈ pieces.take 3, ∃ n, IsNumeral piece n := by
  simp only [parse_eq_ok_iff h, ← ofPieces?_eq_some_iff h.ne_nil]
  exact exists_ofPieces?_iff h.ne_nil

end Parse

/-- A text that is rejected is carried along as it is. -/
theorem eq_of_parse_eq_error {text : String} {e : Invalid} (h : parse text = .error e) :
    e = ⟨text⟩ := by
  unfold parse at h
  split at h
  · exact nomatch h
  · exact (Except.error.inj h).symm

/-! ## Written versions -/

/-- A number is written in digits. -/
theorem isDigit_of_mem_toDigits {n : Nat} {c : Char} (h : c ∈ Nat.toDigits 10 n) :
    c.isDigit = true :=
  Nat.isDigit_of_mem_toDigits (by decide) (by decide) h

/-- The digits of a number that fits are its numeral. -/
theorem isNumeral_toDigits {n : Nat} (h : n ≤ 4294967295) : IsNumeral (Nat.toDigits 10 n) n where
  ne_nil := Nat.toDigits_ne_nil
  digits _ hc := isDigit_iff.1 (isDigit_of_mem_toDigits hc)
  value := Nat.ofDigitChars_toDigits (by decide) (by decide)
  le := h

theorem toList_display (v : HostVersion) :
    v.display.toList = ['.'].intercalate (v.numbers.map (Nat.toDigits 10)) := by
  simp [display, numbers, toString, Nat.toList_repr, List.intercalate_cons_cons]

/-- A digit does not start a suffix. -/
theorem not_startsSuffix_of_isDigit {c : Char} (h : c.isDigit = true) : ¬ StartsSuffix c := by
  obtain ⟨hlow, hhigh⟩ := isDigit_iff.1 h
  have hlow : 48 ≤ c.toNat := hlow
  have hhigh : c.toNat ≤ 57 := hhigh
  rintro (rfl | rfl | hwhite)
  · exact absurd hlow (by decide)
  · exact absurd hlow (by decide)
  · simp [Unicode.isWhiteSpace, Unicode.whiteSpaceRanges] at hwhite
    omega

/-- A written version does not hold the start of a suffix. -/
theorem not_startsSuffix_of_mem_display {v : HostVersion} {c : Char} (h : c ∈ v.display.toList) :
    ¬ StartsSuffix c := by
  have hcases : c = '.' ∨ ∃ n, c ∈ Nat.toDigits 10 n := by
    rw [toList_display] at h
    simp only [numbers, List.map_cons, List.map_nil, List.intercalate_cons_cons,
      List.intercalate_singleton, List.mem_append, List.mem_singleton] at h
    grind
  rcases hcases with rfl | ⟨n, hn⟩
  · unfold StartsSuffix
    decide
  · exact not_startsSuffix_of_isDigit (isDigit_of_mem_toDigits hn)

/-- The pieces of a written version with white space before it and a suffix behind it are the
numerals of its numbers. -/
theorem hasPieces_written (v : HostVersion) {before suffix : String}
    (hbefore : ∀ c ∈ before.toList, Unicode.isWhiteSpace c = true)
    (hsuffix : IsSuffix suffix.toList) :
    HasPieces (before ++ (v.display ++ suffix)) (v.numbers.map (Nat.toDigits 10)) := by
  have hstays (c : Char) (hc : c ∈ v.display.toList) := not_startsSuffix_of_mem_display hc
  have hsolid (c : Char) (hc : c ∈ v.display.toList) : Unicode.isWhiteSpace c = false :=
    eq_false_of_ne_true fun hwhite => hstays c hc (.inr (.inr hwhite))
  obtain ⟨inner, after, hcut, hafter, hlast⟩ := Unicode.exists_trimmed_end suffix.toList
  have hne : v.display.toList ≠ [] := by
    simp [toList_display, numbers, List.intercalate_cons_cons]
  constructor
  case ne_nil => simp [numbers]
  case dot_not_mem =>
    intro piece hpiece hdot
    obtain ⟨n, -, rfl⟩ := List.mem_map.1 hpiece
    exact absurd (isDigit_of_mem_toDigits hdot) (by decide)
  case cut =>
    rw [← toList_display]
    refine ⟨inner, ⟨⟨before.toList, after, ?_, hbefore, hafter⟩, ?_, ?_⟩, ?_, hstays⟩
    · rw [String.toList_append, String.toList_append, hcut, List.append_assoc]
    · rw [List.head?_append_of_ne_nil _ hne]
      exact fun c hc => hsolid c (List.mem_of_head? hc)
    · intro c hc
      rw [List.getLast?_append, Option.mem_def, Option.or_eq_some_iff] at hc
      rcases hc with hc | ⟨-, hc⟩
      · exact hlast c hc
      · exact hsolid c (List.mem_of_getLast? hc)
    · intro c hc
      refine hsuffix c ?_
      rw [hcut, List.head?_append, hc, Option.some_or]
      exact rfl

/-- A written version is read back with white space before it and a suffix behind it. -/
theorem parse_written (v : HostVersion) {before suffix : String}
    (hbefore : ∀ c ∈ before.toList, Unicode.isWhiteSpace c = true)
    (hsuffix : IsSuffix suffix.toList) : parse (before ++ (v.display ++ suffix)) = .ok v := by
  rw [parse_eq_ok_iff (hasPieces_written v hbefore hsuffix)]
  have hfits (n : UInt32) : IsNumeral (Nat.toDigits 10 n.toNat) n.toNat :=
    isNumeral_toDigits (Nat.le_of_lt_succ n.toNat_lt)
  exact ⟨v.numbers, .cons (hfits _) (.cons (hfits _) (.cons (hfits _) .nil)), rfl⟩

/-! ## The order of versions -/

/-- Of the numbers in which the two versions differ, the leftmost is smaller in `v`, if there is
any. -/
def AtMost (v w : HostVersion) : Prop :=
  v.major.toNat < w.major.toNat ∨ v.major.toNat = w.major.toNat ∧
    (v.minor.toNat < w.minor.toNat ∨ v.minor.toNat = w.minor.toNat ∧ v.patch.toNat ≤ w.patch.toNat)

instance (v w : HostVersion) : Decidable (v.AtMost w) :=
  inferInstanceAs (Decidable (_ ∨ _))

/-- A version that is at most another is at most all that this is. -/
theorem AtMost.trans {u v w : HostVersion} (huv : u.AtMost v) (hvw : v.AtMost w) : u.AtMost w := by
  unfold AtMost at *
  omega

/-- Versions are in the order of their numbers, from left to right. -/
theorem isLE_compare_iff {v w : HostVersion} : (compare v w).isLE = true ↔ v.AtMost w := by
  have hlex : compare v w =
    (compare v.major w.major).then ((compare v.minor w.minor).then (compare v.patch w.patch)) := rfl
  have hgt (m n : UInt32) : compare m n = .gt ↔ n.toNat < m.toNat := by
    rw [Std.compare_eq_gt]
    exact UInt32.lt_iff_toNat_lt
  have heq (m n : UInt32) : compare m n = .eq ↔ m.toNat = n.toNat := by
    rw [Std.compare_eq_iff_eq, UInt32.toNat_inj]
  rw [Ordering.isLE_iff_ne_gt, hlex]
  simp only [Ordering.then_eq_gt, hgt, heq]
  unfold AtMost
  omega

open DiscoveryStrategy (forVersion)

/-- Only versions up to 8.0.0 have the strategy for the included builds. -/
theorem forVersion_eq_legacy_iff {v : HostVersion} :
    forVersion v = .legacy ↔ v.AtMost ⟨8, 0, 0⟩ := by
  rw [← isLE_compare_iff]
  show _ ↔ (compare v DiscoveryStrategy.lastLegacyVersion).isLE = true
  unfold forVersion
  split <;> simp [*]

theorem forVersion_eq_preferEditable_iff {v : HostVersion} :
    forVersion v = .preferEditable ↔ ¬ v.AtMost ⟨8, 0, 0⟩ := by
  rw [← forVersion_eq_legacy_iff]
  cases forVersion v <;> simp

/-- **Version texts are read by their grammar.**  Every text has its pieces, and it is read as the
version whose numbers the first three of them write; without such a version it is rejected, and
carried along as it is.  The written form of a version is read back with white space before it and a
suffix behind it.  Versions up to 8.0.0 have the strategy for the included builds, and the others
keep the strategy of all that come before them. -/
theorem parse_by_grammar :
    (∀ text, ∃ pieces, HasPieces text pieces ∧
      (∀ pieces', HasPieces text pieces' → pieces' = pieces) ∧
      (∀ v, parse text = .ok v ↔ HasNumbers v pieces) ∧
      ((∃ v, parse text = .ok v) ↔ ∀ piece ∈ pieces.take 3, ∃ n, IsNumeral piece n) ∧
      ∀ e, parse text = .error e → e = ⟨text⟩) ∧
    (∀ (v : HostVersion) (before suffix : String),
      (∀ c ∈ before.toList, Unicode.isWhiteSpace c = true) → IsSuffix suffix.toList →
        parse (before ++ (v.display ++ suffix)) = .ok v) ∧
    ∀ text v, parse text = .ok v →
      (forVersion v = .legacy ↔ v.AtMost ⟨8, 0, 0⟩) ∧
      ∀ text' w, parse text' = .ok w → v.AtMost w →
        forVersion v = .preferEditable → forVersion w = .preferEditable := by
  refine ⟨fun text => ⟨_, hasPieces_pieces text, fun pieces' h' => h'.pieces_eq.symm,
      fun v => parse_eq_ok_iff (hasPieces_pieces text), exists_parse_iff (hasPieces_pieces text),
      fun e => eq_of_parse_eq_error⟩,
    fun v before suffix hbefore hsuffix => parse_written v hbefore hsuffix,
    fun text v _ => ⟨forVersion_eq_legacy_iff, fun text' w _ hle hv => ?_⟩⟩
  rw [forVersion_eq_preferEditable_iff] at hv ⊢
  exact fun hw => hv (hle.trans hw)

/-- A candidate is read back without its suffix, and as the versions after it prefer the editable
builds, so does one with leading zeros and a fourth piece.  A number that does not fit is not
read. -/
theorem parse_candidate :
    parse " 8.0.1-rc-1" = .ok ⟨8, 0, 1⟩ ∧ parse "08.5.0007.x" = .ok ⟨8, 5, 7⟩ ∧
      parse "8.4294967296" = .error ⟨"8.4294967296"⟩ ∧ forVersion ⟨8, 5, 7⟩ = .preferEditable := by
  obtain ⟨-, hwritten, hstrategy⟩ := parse_by_grammar
  have hblank : ∀ c ∈ " ".toList, Unicode.isWhiteSpace c = true := by
    intro c hc
    obtain rfl : c = ' ' := by simpa using hc
    decide
  have hcandidate : parse " 8.0.1-rc-1" = .ok ⟨8, 0, 1⟩ :=
    hwritten ⟨8, 0, 1⟩ " " "-rc-1" hblank (by simp [IsSuffix, StartsSuffix])
  have hzeros : parse "08.5.0007.x" = .ok ⟨8, 5, 7⟩ := by rfl
  exact ⟨hcandidate, hzeros, by rfl,
    (hstrategy _ _ hcandidate).2 _ _ hzeros (by decide) (by decide)⟩

end CompositeBuild.HostVersion
