/-
# Names of packaging tasks

The name of a task is the verb for the source set `main`, and for any other the name of the source
set with the capitalized verb behind it.  A verb that changes when it is capitalized tells all
source sets apart (`injective_sourceSetTaskName_iff`): the capitalized first letter has at least one
character, so only the empty name could make up the verb of `main`, and then the first letter would
not have changed.  So no two source sets share their packaging task
(`packaging_tasks_are_not_shared`).
-/
import CompositeBuild.Proofs.Collection.InsertionMap
import CompositeBuild.Proofs.SourceSet.Entries

namespace CompositeBuild

/-! ## Verbs that change when they are capitalized -/

/-- The verb starts with a letter that upper-casing changes. -/
def ChangesCapitalized (verb : String) : Prop :=
  ∃ first rest, verb.toList = first :: rest ∧ Unicode.uppercase first ≠ [first]

section Verb

variable {verb name : String} {first : Char} {rest : List Char}

/-- For `main` the task has the name of the verb. -/
theorem sourceSetTaskName_main (verb : String) : sourceSetTaskName "main" verb = verb := if_pos rfl

theorem toList_sourceSetTaskName (hname : name ≠ "main") (hverb : verb.toList = first :: rest) :
    (sourceSetTaskName name verb).toList = name.toList ++ Unicode.uppercase first ++ rest := by
  unfold sourceSetTaskName
  rw [if_neg hname, hverb, String.toList_ofList]

/-- The task of a source set other than `main` does not have the name of a verb that changes. -/
theorem sourceSetTaskName_ne_verb (hname : name ≠ "main") (hverb : verb.toList = first :: rest)
    (hchanges : Unicode.uppercase first ≠ [first]) : sourceSetTaskName name verb ≠ verb := by
  intro heq
  have hchars := toList_sourceSetTaskName hname hverb
  have hverb' : verb.toList = [first] ++ rest := hverb
  rw [heq, hverb'] at hchars
  -- Without the rest of the verb there is a single letter left, which is all of the capitalized
  -- one.
  have hletter : name.toList ++ Unicode.uppercase first = [first] :=
    (List.append_cancel_right hchars).symm
  rcases List.append_eq_singleton_iff.1 hletter with ⟨-, hsame⟩ | ⟨-, hnone⟩
  · exact hchanges hsame
  · exact Unicode.uppercase_ne_nil first hnone

/-- Source sets other than `main` have tasks of different names. -/
theorem eq_of_sourceSetTaskName_eq {other : String} (hname : name ≠ "main")
    (hother : other ≠ "main")
    (hverb : verb.toList = first :: rest)
    (heq : sourceSetTaskName name verb = sourceSetTaskName other verb) : name = other := by
  have hchars := congrArg String.toList heq
  rw [toList_sourceSetTaskName hname hverb, toList_sourceSetTaskName hother hverb,
    List.append_assoc, List.append_assoc] at hchars
  exact String.toList_injective (List.append_cancel_right hchars)

/-- A verb that does not change gives the same name for `main` and for the empty name. -/
theorem sourceSetTaskName_empty (h : ¬ ChangesCapitalized verb) :
    sourceSetTaskName "" verb = verb := by
  unfold sourceSetTaskName
  rw [if_neg (by decide)]
  apply String.toList_injective
  cases hverb : verb.toList with
  | nil => rfl
  | cons first rest =>
    have hsame : Unicode.uppercase first = [first] := by
      by_contra hchanges
      exact h ⟨first, rest, hverb, hchanges⟩
    dsimp only
    rw [hsame, String.toList_ofList]
    rfl

end Verb

/-- **The tasks of different source sets have different names exactly if the verb changes when it is
capitalized.** -/
theorem injective_sourceSetTaskName_iff (verb : String) :
    Function.Injective (sourceSetTaskName · verb) ↔ ChangesCapitalized verb := by
  constructor
  · intro hinjective
    by_contra hsame
    have heq : "main" = "" :=
      hinjective ((sourceSetTaskName_main verb).trans (sourceSetTaskName_empty hsame).symm)
    exact absurd heq (by decide)
  · rintro ⟨first, rest, hverb, hchanges⟩ name other heq
    have heq : sourceSetTaskName name verb = sourceSetTaskName other verb := heq
    by_cases hname : name = "main"
    · by_cases hother : other = "main"
      · rw [hname, hother]
      · rw [hname, sourceSetTaskName_main] at heq
        exact absurd heq.symm (sourceSetTaskName_ne_verb hother hverb hchanges)
    · by_cases hother : other = "main"
      · rw [hother, sourceSetTaskName_main] at heq
        exact absurd heq (sourceSetTaskName_ne_verb hname hverb hchanges)
      · exact eq_of_sourceSetTaskName_eq hname hother hverb heq

/-! ## Archives and their source sets -/

/-- The verb of packaging tasks changes when it is capitalized. -/
theorem changesCapitalized_jar : ChangesCapitalized "jar" :=
  ⟨'j', ['a', 'r'], rfl, by decide +kernel⟩

namespace SourceSet

/-- All source sets that are packaged by the task of a name have one name. -/
theorem exists_owner (task : String) :
    ∃ owner, ∀ d : Dump.SourceSetDefinition, d.name ≠ owner → d.jarTaskName ≠ task := by
  by_cases hpackaged : ∃ d : Dump.SourceSetDefinition, d.jarTaskName = task
  · obtain ⟨owner, howner⟩ := hpackaged
    refine ⟨owner.name, fun d hname htask => hname ?_⟩
    exact (injective_sourceSetTaskName_iff "jar").2 changesCapitalized_jar (htask.trans howner.symm)
  · exact ⟨"main", fun d _ htask => hpackaged ⟨d, htask⟩⟩

theorem ofDefinition_congr {p p' : Dump.Project} {task : String} {d : Dump.SourceSetDefinition}
    (htask : d.jarTaskName ≠ task)
    (hothers : ∀ other, other ≠ task → p'.tasks.get? other = p.tasks.get? other) :
    (ofDefinition p' d).value = (ofDefinition p d).value := by
  rw [value_ofDefinition, value_ofDefinition, producedArtifacts_congr (hothers _ htask)]

/-- **Packaging tasks are never shared.**  The tasks that a verb names for different source sets are
different exactly if the verb changes when it is capitalized, as that of packaging tasks does.  So
for each name of a task there is one name of source sets such that all others have another packaging
task: whether there is a task of that name, whether it makes archives and what its outputs are has
no part in them, whatever project they belong to. -/
theorem packaging_tasks_are_not_shared :
    (∀ verb, Function.Injective (sourceSetTaskName · verb) ↔ ChangesCapitalized verb) ∧
      ChangesCapitalized "jar" ∧
      ∀ task, ∃ owner, ∀ d : Dump.SourceSetDefinition, d.name ≠ owner → d.jarTaskName ≠ task ∧
        ∀ p p' : Dump.Project,
          (∀ other, other ≠ task → p'.tasks.get? other = p.tasks.get? other) →
            (ofDefinition p' d).value = (ofDefinition p d).value := by
  refine ⟨injective_sourceSetTaskName_iff, changesCapitalized_jar, fun task => ?_⟩
  obtain ⟨owner, howner⟩ := exists_owner task
  exact ⟨owner, fun d hname => ⟨howner d hname, fun p p' => ofDefinition_congr (howner d hname)⟩⟩

/-- A project with `main` and `test` and an archive for the latter. -/
def packagedProject : Dump.Project :=
  { projectOf [definitionOf "main" (.files []), definitionOf "test" (.files [])] with
    tasks := .ofList
      [("testJar", ⟨true, [], Property.namesDistinct_empty, [⟨"libs/test.jar"⟩]⟩)] }

/-- The archive of `testJar` is an artifact of `test`, and `main` is the same without that task. -/
theorem archive_of_testJar :
    sourceSetTaskName "test" "jar" = "testJar" ∧
      sourceSetTaskName "main" "jar" ≠ sourceSetTaskName "test" "jar" ∧
      ((ofDefinition packagedProject (definitionOf "test" (.files []))).value.artifacts.toList.map
        Path.text) = ["classes", "libs/test.jar"] ∧
      (ofDefinition { packagedProject with tasks := .empty }
        (definitionOf "main" (.files []))).value =
        (ofDefinition packagedProject (definitionOf "main" (.files []))).value := by
  have hname : sourceSetTaskName "test" "jar" = "testJar" := by decide +kernel
  obtain ⟨hverbs, hjar, howners⟩ := packaging_tasks_are_not_shared
  obtain ⟨owner, howner⟩ := howners "testJar"
  have htest : owner = "test" := by
    by_contra hne
    exact (howner (definitionOf "test" (.files [])) (Ne.symm hne)).1 hname
  subst htest
  refine ⟨hname, fun heq => absurd ((hverbs "jar").2 hjar heq) (by decide), by decide +kernel, ?_⟩
  refine (howner (definitionOf "main" (.files [])) (by decide)).2 _ _ fun other hother => ?_
  have hnone : packagedProject.tasks.get? other = none :=
    (findEntry_cons _ [] other).trans (if_neg (Ne.symm hother))
  rw [hnone]
  rfl

end SourceSet

end CompositeBuild
