/-
# Which files are compiler plugins

A file name is that of a compiler plugin exactly if it holds the mark somewhere before the ending
and no line break (`isPluginName_iff`), which is what the pattern `.*-compiler-plugin.*\.jar` says
of whole names (`mem_pluginPattern_iff`).  Of a path nothing but its last name counts
(`plugin_artifacts_are_told_by_name`).
-/
import CompositeBuild.Proofs.Path.FileName
import CompositeBuild.Toolchain.PluginArtifact
import Mathlib.Computability.Language
import Mathlib.Data.List.Infix

namespace CompositeBuild

namespace Text

/-- A text holds its parts, those between two other texts. -/
theorem holds_iff_infix (part cs : List Char) : holds part cs = true ↔ part <:+: cs := by
  induction cs with
  | nil => rw [holds, List.isEmpty_iff, List.infix_nil]
  | cons c rest ih =>
    rw [holds, Bool.or_eq_true, List.isPrefixOf_iff_prefix, ih, List.infix_cons_iff]

/-- The text without an ending is what stands before it. -/
theorem dropEnding?_eq_some_iff {ending cs stem : List Char} :
    dropEnding? ending cs = some stem ↔ cs = stem ++ ending := by
  unfold dropEnding?
  constructor
  · intro h
    split at h
    case isTrue hsuffix =>
      obtain ⟨before, rfl⟩ := List.isSuffixOf_iff_suffix.1 hsuffix
      rw [← Option.some.inj h, List.length_append, Nat.add_sub_cancel, List.take_left]
    case isFalse => exact nomatch h
  · rintro rfl
    rw [if_pos (List.isSuffixOf_iff_suffix.2 (List.suffix_append stem ending)), List.length_append,
      Nat.add_sub_cancel, List.take_left]

end Text

/-- The file name is some text, the mark of compiler plugins, some text and the ending of archives,
all on one line. -/
def IsPluginFileName (name : String) : Prop :=
  (∃ before after : String, name = before ++ "-compiler-plugin" ++ after ++ ".jar") ∧
    '\n' ∉ name.toList

theorem toList_pluginName (before after : String) :
    (before ++ "-compiler-plugin" ++ after ++ ".jar").toList =
      before.toList ++ pluginMark ++ after.toList ++ archiveEnding := by
  unfold pluginMark archiveEnding
  simp only [String.toList_append]

/-- **The names of compiler plugins are those that follow the pattern.** -/
theorem isPluginName_iff (name : String) :
    isPluginName name.toList = true ↔ IsPluginFileName name := by
  have hpattern : (∃ stem, Text.dropEnding? archiveEnding name.toList = some stem ∧
        pluginMark <:+: stem) ↔
      ∃ before after : String, name = before ++ "-compiler-plugin" ++ after ++ ".jar" := by
    constructor
    · rintro ⟨stem, hstem, before, after, hparts⟩
      refine ⟨.ofList before, .ofList after, String.toList_inj.1 ?_⟩
      rw [toList_pluginName, String.toList_ofList, String.toList_ofList, hparts]
      exact Text.dropEnding?_eq_some_iff.1 hstem
    · rintro ⟨before, after, hname⟩
      have hcs := (congrArg String.toList hname).trans (toList_pluginName before after)
      exact ⟨_, Text.dropEnding?_eq_some_iff.2 hcs, List.infix_append _ _ _⟩
  rw [IsPluginFileName, ← hpattern, isPluginName]
  cases hstem : Text.dropEnding? archiveEnding name.toList with
  | none => simp
  | some stem => simp [Text.holds_iff_infix, and_comm]

/-! ## The pattern as a language -/

section Pattern

open scoped Computability

/-- The texts of one character, which is not a line break. -/
def lineCharacter : Language Char := {cs | ∃ c, c ≠ '\n' ∧ cs = [c]}

/-- The file names of compiler plugins: the mark and the ending, with characters of one line before
each of them. -/
def pluginPattern : Language Char :=
  lineCharacter∗ * {pluginMark} * lineCharacter∗ * {archiveEnding}

/-- Characters of one line are those without a line break. -/
theorem mem_kstar_lineCharacter {cs : List Char} : cs ∈ lineCharacter∗ ↔ '\n' ∉ cs := by
  rw [Language.mem_kstar]
  constructor
  · rintro ⟨parts, rfl, hparts⟩ hbreak
    obtain ⟨part, hpart, hmem⟩ := List.mem_flatten.1 hbreak
    obtain ⟨c, hne, rfl⟩ := hparts part hpart
    exact hne (List.mem_singleton.1 hmem).symm
  · intro hline
    -- Each character is a part of its own.
    refine ⟨cs.map fun c => [c], ?_, fun part hpart => ?_⟩
    · rw [← List.flatMap_def, List.flatMap_singleton']
    · obtain ⟨c, hc, rfl⟩ := List.mem_map.1 hpart
      exact ⟨c, ne_of_mem_of_not_mem hc hline, rfl⟩

/-- A name that follows the pattern is on one line if the parts before the mark and behind it
are. -/
theorem not_mem_pluginName_iff {before after : List Char} :
    '\n' ∉ before ++ pluginMark ++ after ++ archiveEnding ↔ '\n' ∉ before ∧ '\n' ∉ after := by
  have hmark : '\n' ∉ pluginMark := by decide
  have hending : '\n' ∉ archiveEnding := by decide
  simp only [List.mem_append, hmark, hending, or_false, not_or]

/-- **The file names that follow the pattern are those of its language.** -/
theorem mem_pluginPattern_iff (name : String) :
    name.toList ∈ pluginPattern ↔ IsPluginFileName name := by
  unfold pluginPattern
  constructor
  · intro h
    obtain ⟨_, hstem, ending, hending, hname⟩ := Language.mem_mul.1 h
    obtain ⟨_, hmarked, after, hafter, rfl⟩ := Language.mem_mul.1 hstem
    obtain ⟨before, hbefore, mark, hmark, rfl⟩ := Language.mem_mul.1 hmarked
    obtain rfl : mark = pluginMark := hmark
    obtain rfl : ending = archiveEnding := hending
    rw [mem_kstar_lineCharacter] at hbefore hafter
    refine ⟨⟨.ofList before, .ofList after, String.toList_inj.1 ?_⟩, ?_⟩
    · rw [toList_pluginName, String.toList_ofList, String.toList_ofList, hname]
    · exact hname ▸ not_mem_pluginName_iff.2 ⟨hbefore, hafter⟩
  · rintro ⟨⟨before, after, rfl⟩, hline⟩
    rw [toList_pluginName] at hline ⊢
    obtain ⟨hbefore, hafter⟩ := not_mem_pluginName_iff.1 hline
    have hmarked := Language.append_mem_mul (mem_kstar_lineCharacter.2 hbefore)
      (Set.mem_singleton pluginMark)
    exact Language.append_mem_mul
      (Language.append_mem_mul hmarked (mem_kstar_lineCharacter.2 hafter))
      (Set.mem_singleton archiveEnding)

end Pattern

/-! ## Paths -/

namespace Path

/-- The last component of the path is the name of a compiler plugin. -/
def FollowsPluginPattern (path : Path) : Prop :=
  ∃ name, path.fileName = some name ∧ IsPluginFileName name

/-- The archives of compiler plugins are the paths that follow the pattern. -/
theorem isPluginArtifact_iff (path : Path) :
    path.isPluginArtifact = true ↔ path.FollowsPluginPattern := by
  unfold isPluginArtifact FollowsPluginPattern
  cases path.fileName with
  | none => simp
  | some name => simp [isPluginName_iff]

instance : DecidablePred FollowsPluginPattern := fun path =>
  decidable_of_iff _ path.isPluginArtifact_iff

/-- **The archives of compiler plugins are told by their file names.**  A path is one of them
exactly if the last name in its text follows the pattern: it is some text, the mark, some text and
the ending, without a line break.  These are the names that the pattern describes as a language.
Paths with the same last name are told alike, whatever their directories are and whatever slashes
are at their end. -/
theorem plugin_artifacts_are_told_by_name :
    (∀ path : Path, path.isPluginArtifact = true ↔
      ∃ name, path.HasLastName name ∧ IsPluginFileName name) ∧
    (∀ name : String, IsPluginFileName name ↔ name.toList ∈ pluginPattern) ∧
    ∀ (path other : Path) (name : String), path.HasLastName name → other.HasLastName name →
      other.isPluginArtifact = path.isPluginArtifact := by
  refine ⟨fun path => ?_, fun name => (mem_pluginPattern_iff name).symm, ?_⟩
  · rw [isPluginArtifact_iff, FollowsPluginPattern]
    simp only [fileName_eq_some_iff]
  · intro path other name hpath hother
    unfold isPluginArtifact
    rw [fileName_eq_some_iff.2 hpath, fileName_eq_some_iff.2 hother]

/-- A directory with the mark does not make a compiler plugin of what is in it, and of a file with
two marks neither the slashes nor the `.` behind it count. -/
theorem plugin_artifacts_among_unusualPaths :
    HasLastName ⟨"./x-compiler-plugin.jar//y.jar"⟩ "y.jar" ∧ HasLastName ⟨"y.jar"⟩ "y.jar" ∧
      isPluginArtifact ⟨"./x-compiler-plugin.jar//y.jar"⟩ = isPluginArtifact ⟨"y.jar"⟩ ∧
      isPluginArtifact ⟨"y.jar"⟩ = false ∧
      isPluginArtifact ⟨"/lib/-compiler-plugin-compiler-plugin.jar/.//"⟩ = true := by
  obtain ⟨htold, hpattern, halike⟩ := plugin_artifacts_are_told_by_name
  have hbelow : HasLastName ⟨"./x-compiler-plugin.jar//y.jar"⟩ "y.jar" :=
    ⟨by decide, [".", "x-compiler-plugin.jar", ""], [], rfl, nofun⟩
  have halone : HasLastName ⟨"y.jar"⟩ "y.jar" := ⟨by decide, [], [], rfl, nofun⟩
  refine ⟨hbelow, halone, halike _ _ _ halone hbelow, by decide, (htold _).2 ?_⟩
  refine ⟨"-compiler-plugin-compiler-plugin.jar",
    ⟨by decide, ["", "lib"], [".", "", ""], rfl, ?_⟩, ?_⟩
  · simp
  · exact ⟨⟨"", "-compiler-plugin", rfl⟩, by decide⟩

end Path

end CompositeBuild
