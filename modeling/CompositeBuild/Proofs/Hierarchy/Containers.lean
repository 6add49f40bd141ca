/-
# Containers of a path

The containers above a project are found by a loop that cuts its path before the last colon, again
and again.  Here each cut is at a byte position (`cutParent?`), and nothing says that this position
is one of the text, or that the loop ends (`ClimbEnds`).  But it is, and it does, whatever the text:
the containers are those of the segments of the path (`climbEnds_iff`), and there are no more of
them than colons.  A path of names below the root has a container for each name but the last
(`modules_of_paths`).
-/
import CompositeBuild.Proofs.Hierarchy.ModuleIds
import Mathlib.Data.String.Basic

namespace CompositeBuild

namespace Text

/-! ## Byte positions -/

/-- The byte position of the last occurrence of a character in a text. -/
def lastPosition? (c : Char) : List Char → Option Nat
  | [] => none
  | d :: rest =>
    match lastPosition? c rest with
    | some i => some (d.utf8Size + i)
    | none => if d = c then some 0 else none

/-- The part of a text before a byte position.  There is none if the position is beyond the end of
the text or inside a character. -/
def before? (s : String) (i : Nat) : Option String :=
  if String.Pos.Raw.isValid s ⟨i⟩ then some (String.Pos.Raw.extract s 0 ⟨i⟩) else none

/-- A character that does not occur has no last position. -/
theorem lastPosition?_of_not_mem {c : Char} {cs : List Char} (h : c ∉ cs) :
    lastPosition? c cs = none := by
  induction cs with
  | nil => rfl
  | cons d rest ih =>
    rw [List.mem_cons, not_or] at h
    rw [lastPosition?, ih h.2]
    exact if_neg (Ne.symm h.1)

/-- The last position of a character is behind everything before its last occurrence. -/
theorem lastPosition?_append_cons {c : Char} (before : List Char) {after : List Char}
    (h : c ∉ after) : lastPosition? c (before ++ c :: after) = some (String.utf8Len before) := by
  induction before with
  | nil =>
    rw [List.nil_append, lastPosition?, lastPosition?_of_not_mem h]
    exact if_pos rfl
  | cons d rest ih =>
    rw [List.cons_append, lastPosition?, ih, String.utf8Len_cons, Nat.add_comm]

/-- The part before the position behind some characters is these characters. -/
theorem before?_append (before after : List Char) :
    before? (String.ofList (before ++ after)) (String.utf8Len before) =
      some (String.ofList before) := by
  have hvalid : String.Pos.Raw.isValid (String.ofList (before ++ after))
      ⟨String.utf8Len before⟩ = true := by
    rw [String.Pos.Raw.isValid_eq_true_iff, String.Pos.Raw.isValid_iff_exists_append]
    refine ⟨String.ofList before, String.ofList after, String.ofList_append, ?_⟩
    rw [String.Pos.Raw.ext_iff]
    exact (String.utf8ByteSize_ofList before).symm
  have hpart := String.extract_of_valid [] before after
  rw [List.nil_append, String.utf8Len_nil, Nat.zero_add] at hpart
  unfold before?
  rw [if_pos hvalid]
  exact congrArg some hpart

/-- There is one piece more than there are separators. -/
theorem length_splitOn (sep : Char) (cs : List Char) :
    (cs.splitOn sep).length = cs.count sep + 1 := by
  induction cs with
  | nil => rfl
  | cons c rest ih =>
    rw [List.splitOn_cons_eq_if_modifyHead]
    by_cases h : c = sep
    · subst h
      rw [if_pos BEq.rfl, List.length_cons, ih, List.count_cons_self]
    · rw [if_neg (by simpa using h), List.length_modifyHead, ih, List.count_cons_of_ne h]

/-- A joined list ends with the separator and its last text, if there are any texts before it. -/
theorem intercalate_concat {sep : Char} {texts : List (List Char)} (h : texts ≠ [])
    (last : List Char) :
    [sep].intercalate (texts ++ [last]) = [sep].intercalate texts ++ sep :: last := by
  induction texts with
  | nil => exact absurd rfl h
  | cons first rest ih =>
    by_cases hrest : rest = []
    · subst hrest
      simp [List.intercalate_cons_cons]
    · have hmore : rest ++ [last] ≠ [] := List.concat_ne_nil last rest
      rw [List.cons_append, List.intercalate_cons_of_ne_nil hmore, ih hrest,
        List.intercalate_cons_of_ne_nil hrest]
      simp

end Text

namespace Dump

open Text (IsName)

/-! ## Cutting a path before its last colon -/

/-- The last segment of a path. -/
def lastSegment (path : String) : String := String.ofList ((segments path).headD [])

/-- The path around a path, cut before its last colon, if there is one; before a colon at the start
it is the root.  There is no result if the text cannot be cut at this place. -/
def cutParent? (path : String) : Option (Option String) :=
  if path = rootPath then some none
  else
    match Text.lastPosition? ':' path.toList with
    | none => some none
    | some 0 => some (some rootPath)
    | some i => (Text.before? path i).map some

theorem not_mem_of_mem_segments {path : String} {segment : List Char}
    (h : segment ∈ segments path) : ':' ∉ segment :=
  Text.not_mem_of_mem_splitOn (List.mem_reverse.1 h)

/-- A path is joined of its segments. -/
theorem intercalate_segments (path : String) :
    [':'].intercalate (segments path).reverse = path.toList := by
  unfold segments
  rw [List.reverse_reverse, List.intercalate_splitOn]

/-- Segments without colons are those of the path that they make, unless there is only an empty
one. -/
theorem segments_ofList_intercalate {path : List (List Char)} (hne : path ≠ [])
    (hcolon : ∀ segment ∈ path, ':' ∉ segment) :
    segments (String.ofList ([':'].intercalate path.reverse)) = path := by
  have hpieces : ∀ segment ∈ path.reverse, ':' ∉ segment := fun segment h =>
    hcolon segment (List.mem_reverse.1 h)
  unfold segments
  rw [String.toList_ofList, List.splitOn_intercalate ':' hpieces (by simpa using hne),
    List.reverse_reverse]

/-- The path of segments is joined of them, unless there is only an empty one. -/
theorem pathOf?_of_ne {path : List (List Char)} (hne : path ≠ []) (hroot : path ≠ [[]]) :
    pathOf? path = some (String.ofList ([':'].intercalate path.reverse)) := by
  unfold pathOf?
  split
  · exact absurd rfl hne
  · exact absurd rfl hroot
  · rfl

/-- **A path can be cut before its last colon, and what is left are its segments but the last.** -/
theorem cutParent?_eq (path : String) : cutParent? path = some (parentPath? path) := by
  unfold cutParent? parentPath?
  split
  case isTrue => rfl
  case isFalse hroot =>
    have hjoined := intercalate_segments path
    have hsegment : ∀ segment ∈ segments path, ':' ∉ segment := fun _ => not_mem_of_mem_segments
    cases hsegments : segments path with
    | nil => simp [segments, List.splitOn_ne_nil] at hsegments
    | cons last above =>
      rw [hsegments] at hjoined hsegment
      have hlast : ':' ∉ last := hsegment last List.mem_cons_self
      rw [List.reverse_cons] at hjoined
      rw [List.tail_cons]
      by_cases habove : above = []
      · -- There is no colon, and no segment above.
        subst habove
        rw [List.reverse_nil, List.nil_append, List.intercalate_singleton] at hjoined
        rw [← hjoined, Text.lastPosition?_of_not_mem hlast]
        rfl
      · rw [Text.intercalate_concat (by simpa using habove)] at hjoined
        rw [← hjoined, Text.lastPosition?_append_cons _ hlast]
        cases hlength : String.utf8Len ([':'].intercalate above.reverse) with
        | zero =>
          -- The colon is at the start, and the only segment above is the empty one.
          have hempty : above = [[]] := by
            have hsame := segments_ofList_intercalate habove fun segment h =>
              hsegment segment (List.mem_cons_of_mem last h)
            rw [String.utf8Len_eq_zero.1 hlength] at hsame
            exact hsame.symm
          rw [hempty]
          rfl
        | succ n =>
          have hroot : above ≠ [[]] := by
            rintro rfl
            exact absurd hlength (by simp)
          have hpath : path =
              String.ofList ([':'].intercalate above.reverse ++ ':' :: last) := by
            rw [hjoined, String.ofList_toList]
          rw [pathOf?_of_ne habove hroot]
          show (Text.before? path (n + 1)).map some = _
          rw [← hlength, hpath, Text.before?_append]
          rfl

/-! ## Containers of segments -/

/-- There are fewer containers than segments. -/
theorem length_containersAbove_le (path : List (List Char)) :
    (containersAbove path).length ≤ path.length - 1 := by
  induction path with
  | nil => exact Nat.le_refl 0
  | cons segment above ih =>
    rw [containersAbove]
    split
    case h_1 => exact Nat.zero_le _
    case h_2 path habove =>
      have hpos : 0 < above.length := by
        rw [List.length_pos_iff]
        rintro rfl
        cases habove
      split
      · exact Nat.zero_le _
      · simp only [List.length_cons]
        omega

/-- The containers above a path of names, the outermost first, are at the paths of its first
names. -/
theorem getElem?_reverse_containersAbove {names : List String} (hnames : ∀ s ∈ names, s ≠ "")
    (segment : List Char) (j : ℕ) (hj : j < names.length) :
    (containersAbove (segment :: segmentsBelow names)).reverse[j]? =
      some (pathTo (names.take (j + 1)), names[j]) := by
  induction names using List.reverseRecOn generalizing segment with
  | nil => exact absurd hj (Nat.not_lt_zero j)
  | append_singleton above name ih =>
    have habove : ∀ s ∈ above, s ≠ "" := fun s hs => hnames s (List.mem_append_left [name] hs)
    have hlength :
        (containersAbove (name.toList :: segmentsBelow above)).length = above.length := by
      have hmap := map_containersAbove (f := Prod.snd) habove (fun _ _ _ => rfl) name.toList
      simpa using congrArg List.length hmap
    rw [containersAbove_segmentsBelow_concat segment (hnames name (by simp)), List.reverse_cons]
    rcases Nat.lt_or_ge j above.length with hlt | hge
    · rw [List.getElem?_append_left (by simpa [hlength] using hlt), ih habove _ hlt,
        List.take_append_of_le_length hlt, List.getElem_append_left hlt]
    · obtain rfl : j = above.length := by
        rw [List.length_append, List.length_singleton] at hj
        omega
      have htake : (above ++ [name]).take (above.length + 1) = above ++ [name] :=
        List.take_of_length_le (by simp)
      rw [List.getElem?_append_right (by simp [hlength]), htake]
      simp [hlength]

namespace Build

/-! ## Projects that are named -/

/-- The project is the last that a build lists at a path. -/
def IsLastAt (b : Build) (path : String) (p : Project) : Prop :=
  ∃ before after, b.projects = before ++ p :: after ∧ p.path = path ∧ ∀ q ∈ after, q.path ≠ path

/-- The project is the first that a build lists at the root path, or else the first of all. -/
def IsRoot (b : Build) (p : Project) : Prop :=
  (∃ before after, b.projects = before ++ p :: after ∧ p.path = rootPath ∧
    ∀ q ∈ before, q.path ≠ rootPath) ∨
  (∀ q ∈ b.projects, q.path ≠ rootPath) ∧ ∃ rest, b.projects = p :: rest

/-- The container at a path has a name: that of the last project there, or else the segment. -/
def Names (b : Build) (path segment name : String) : Prop :=
  (∃ p, b.IsLastAt path p ∧ name = p.name) ∨
  (∀ p ∈ b.projects, p.path ≠ path) ∧ name = segment

variable {b : Build} {path : String}

/-- The project that is looked up for a container is the last at its path. -/
theorem lastAt?_eq_some_iff {p : Project} : b.lastAt? path = some p ↔ b.IsLastAt path p := by
  unfold lastAt? IsLastAt
  rw [List.find?_eq_some_iff_append]
  constructor
  · rintro ⟨hp, after, before, hprojects, hafter⟩
    refine ⟨before.reverse, after.reverse, ?_, of_decide_eq_true hp, ?_⟩
    · rw [← List.reverse_reverse b.projects, hprojects]
      simp
    · simpa using hafter
  · rintro ⟨before, after, hprojects, hp, hafter⟩
    refine ⟨decide_eq_true hp, after.reverse, before.reverse, ?_, ?_⟩
    · rw [hprojects]
      simp
    · simpa using hafter

/-- No project is looked up for a container exactly if there is none at its path. -/
theorem lastAt?_eq_none_iff : b.lastAt? path = none ↔ ∀ p ∈ b.projects, p.path ≠ path := by
  unfold lastAt?
  rw [List.find?_eq_none]
  simp

/-- A container has one name. -/
theorem names_iff {segment name : String} :
    b.Names path segment name ↔ name = b.containerName (path, segment) := by
  unfold Names containerName
  simp only [← lastAt?_eq_some_iff, ← lastAt?_eq_none_iff]
  cases b.lastAt? path with
  | none => simp
  | some p => simp

/-- A build with projects has a root project, after which its graph is named. -/
theorem exists_isRoot (h : b.projects ≠ []) :
    ∃ root, b.IsRoot root ∧ b.projectName = root.name := by
  cases hfirst : b.firstAt? rootPath with
  | some root =>
    have hroot : b.projects.find? (·.path = rootPath) = some root := hfirst
    refine ⟨root, .inl ?_, ?_⟩
    · obtain ⟨hpath, before, after, hprojects, hbefore⟩ := List.find?_eq_some_iff_append.1 hroot
      exact ⟨before, after, hprojects, of_decide_eq_true hpath, by simpa using hbefore⟩
    · unfold projectName rootProject?
      rw [hroot, Option.some_or]
  | none =>
    have hnone : b.projects.find? (·.path = rootPath) = none := hfirst
    obtain ⟨root, rest, hprojects⟩ := List.exists_cons_of_ne_nil h
    refine ⟨root, .inr ⟨by simpa using hnone, rest, hprojects⟩, ?_⟩
    unfold projectName rootProject?
    rw [hnone, Option.none_or, hprojects, List.head?_cons]

/-! ## The loop over the paths around a path -/

/-- The loop that collects the names of containers ends, from the path around a path and with some
names. It stops at the root and where there is no path, and otherwise goes on from where the path is
cut. -/
inductive ClimbEnds (b : Build) : Option String → List String → Prop
  | top : ClimbEnds b none []
  | root : ClimbEnds b (some rootPath) []
  | container {path name : String} {above : Option String} {names : List String} :
      path ≠ rootPath → b.Names path (lastSegment path) name → cutParent? path = some above →
        ClimbEnds b above names → ClimbEnds b (some path) (name :: names)

/-- The loop ends with one list of names. -/
theorem ClimbEnds.unique {start : Option String} {names names' : List String}
    (h : b.ClimbEnds start names) (h' : b.ClimbEnds start names') : names = names' := by
  induction h generalizing names' with
  | top => cases h'; rfl
  | root =>
    cases h' with
    | root => rfl
    | container hroot => exact absurd rfl hroot
  | container hroot hname hcut _ ih =>
    cases h' with
    | root => exact absurd rfl hroot
    | container _ hname' hcut' hrest =>
      obtain rfl := Option.some.inj (hcut.symm.trans hcut')
      rw [names_iff.1 hname, names_iff.1 hname', ih hrest]

/-- From the path of some segments the loop ends with the names of the containers above it. -/
theorem climbEnds_pathOf? (segment : List Char) {above : List (List Char)}
    (habove : ∀ s ∈ above, ':' ∉ s) :
    b.ClimbEnds (pathOf? above) ((containersAbove (segment :: above)).map b.containerName) := by
  induction above generalizing segment with
  | nil => exact .top
  | cons last more ih =>
    by_cases hempty : last :: more = [[]]
    · rw [hempty]
      exact .root
    · have hne : last :: more ≠ [] := List.cons_ne_nil last more
      have hpath := pathOf?_of_ne hne hempty
      have hsegments := segments_ofList_intercalate hne habove
      generalize String.ofList ([':'].intercalate (last :: more).reverse) = path at hpath hsegments
      rw [containersAbove, hpath]
      dsimp only
      split
      case isTrue hroot =>
        rw [hroot]
        exact .root
      case isFalse hroot =>
        have hname : b.Names path (lastSegment path)
            (b.containerName (path, String.ofList last)) := by
          rw [names_iff, lastSegment, hsegments]
          rfl
        have hcut : cutParent? path = some (pathOf? more) := by
          rw [cutParent?_eq, parentPath?, if_neg hroot, hsegments, List.tail_cons]
        exact .container hroot hname hcut
          (ih last fun s hs => habove s (List.mem_cons_of_mem last hs))

/-- **The loop ends, whatever the path, with the names of its containers.** -/
theorem climbEnds_iff (b : Build) (path : String) (names : List String) :
    b.ClimbEnds (parentPath? path) names ↔ names = b.containersOf path := by
  have hends : b.ClimbEnds (parentPath? path) (b.containersOf path) := by
    unfold parentPath?
    split
    case isTrue hroot =>
      subst hroot
      exact .top
    case isFalse =>
      have hcolon : ∀ s ∈ segments path, ':' ∉ s := fun _ => not_mem_of_mem_segments
      unfold containersOf
      cases hsegments : segments path with
      | nil => exact .top
      | cons last above =>
        rw [hsegments] at hcolon
        exact climbEnds_pathOf? last fun s hs => hcolon s (List.mem_cons_of_mem last hs)
  exact ⟨fun h => h.unique hends, fun h => h ▸ hends⟩

/-- There are at most as many containers above a path as there are colons in it. -/
theorem length_containersOf_le (b : Build) (path : String) :
    (b.containersOf path).length ≤ path.toList.count ':' := by
  have hle := length_containersAbove_le (segments path)
  unfold containersOf
  rw [List.length_map]
  refine hle.trans (Nat.le_of_eq ?_)
  rw [segments, List.length_reverse, Text.length_splitOn, Nat.add_sub_cancel]

/-- Above a path of names there is a container for each name but the last, named by the project at
its path or by this name. -/
theorem containersOf_below (b : Build) {above : List String} {last : String}
    (hnames : ∀ s ∈ above ++ [last], IsName ':' s) :
    (b.containersOf (pathTo (above ++ [last]))).length = above.length ∧
      ∀ j (hj : j < above.length) (name : String),
        (b.containersOf (pathTo (above ++ [last])))[above.length - 1 - j]? = some name ↔
          b.Names (pathTo (above.take (j + 1))) above[j] name := by
  have habove : ∀ s ∈ above, s ≠ "" := fun s hs => (hnames s (List.mem_append_left [last] hs)).1
  have hlength : (b.containersOf (pathTo (above ++ [last]))).length = above.length := by
    rw [containersOf, List.length_map, length_containersAbove_pathTo hnames]
  refine ⟨hlength, fun j hj name => ?_⟩
  have hreverse := List.getElem?_reverse (l := b.containersOf (pathTo (above ++ [last])))
    (by rwa [hlength] : j < _)
  rw [hlength] at hreverse
  rw [← hreverse, names_iff, containersOf, ← List.map_reverse, List.getElem?_map,
    segments_pathTo (List.concat_ne_nil last above) hnames, segmentsBelow_concat,
    getElem?_reverse_containersAbove habove _ j hj, Option.map_some, Option.some_inj, eq_comm]

end Build

/-- **From paths to containers.** The model of a build with projects has a module for each project,
in order, with the name, the path and the directory of the project and under the names of the build
and of its root project.  A path of names below the root has a container for each name but the last,
nearest first: that at the path of the first names has the name of the last project listed there, or
else the last of these names.  The root has no containers.  Whatever the path is, it can be cut
before its last colon, the loop from there ends with its containers and in no other way, and there
are at most as many of them as colons in it. -/
theorem modules_of_paths {b : Build} (hprojects : b.projects ≠ []) :
    (∃ root, b.IsRoot root ∧
      b.model.modules = b.projects.map fun p =>
        ⟨p.name, root.name, b.containersOf p.path, p.path, b.name, p.projectDir⟩) ∧
    (∀ (above : List String) (last : String), (∀ s ∈ above ++ [last], IsName ':' s) →
      (b.containersOf (pathTo (above ++ [last]))).length = above.length ∧
      ∀ j (hj : j < above.length) (name : String),
        (b.containersOf (pathTo (above ++ [last])))[above.length - 1 - j]? = some name ↔
          b.Names (pathTo (above.take (j + 1))) above[j] name) ∧
    b.containersOf rootPath = [] ∧
    ∀ path, (∃ start, cutParent? path = some start ∧
        ∀ names, b.ClimbEnds start names ↔ names = b.containersOf path) ∧
      (b.containersOf path).length ≤ path.toList.count ':' := by
  refine ⟨?modules, fun above last => b.containersOf_below, rfl, fun path => ?path⟩
  case modules =>
    obtain ⟨root, hroot, hname⟩ := Build.exists_isRoot hprojects
    refine ⟨root, hroot, ?_⟩
    rw [← hname]
    rfl
  case path =>
    exact ⟨⟨_, cutParent?_eq path, b.climbEnds_iff path⟩, b.length_containersOf_le path⟩

/-! ### Paths that are no paths of names -/

namespace OddPaths

open SmallTree (project)

/-- A build without a project at the root, with two at one path, one below a path without any, and
one whose path does not start with a colon but ends with one. -/
def build : Build where
  name := "App"
  rootDir := none
  languageLevel := none
  projects := [project "first" ":x", project "second" ":x", project "leaf" ":x:missing:leaf",
    project "odd" "x::é:"]
  includedBuilds := []
  failures := []

/-- The graph of this build is named like its first project, and the containers are named by the
second project and by segments, one of which is empty. -/
theorem modules_of_oddPaths :
    build.model.modules.map Module.projectName = ["first", "first", "first", "first"] ∧
      (build.containersOf (pathTo ["x", "missing", "leaf"]))[0]? = some "missing" ∧
      (build.containersOf (pathTo ["x", "missing", "leaf"]))[1]? = some "second" ∧
      build.ClimbEnds (some "x::é") ["é", "", "x"] ∧
      ["é", "", "x"].length ≤ "x::é:".toList.count ':' := by
  obtain ⟨⟨root, hroot, hmodules⟩, hbelow, -, hany⟩ :=
    modules_of_paths (b := build) (List.cons_ne_nil _ _)
  obtain ⟨-, hleaf⟩ := hbelow ["x", "missing"] "leaf" (by decide)
  obtain ⟨⟨start, hstart, hends⟩, hcount⟩ := hany "x::é:"
  have hodd : build.containersOf "x::é:" = ["é", "", "x"] := by decide
  refine ⟨?_, (hleaf 1 (by decide) "missing").2 (.inr ⟨by decide, rfl⟩),
    (hleaf 0 (by decide) "second").2 (.inl ⟨project "second" ":x", ?_, rfl⟩), ?_, hodd ▸ hcount⟩
  · rcases hroot with ⟨before, after, hsplit, hpath, -⟩ | ⟨-, rest, hfirst⟩
    · have hmem : root ∈ build.projects := hsplit ▸ List.mem_append_right before List.mem_cons_self
      exact absurd hpath ((by decide : ∀ p ∈ build.projects, p.path ≠ rootPath) root hmem)
    · obtain rfl : project "first" ":x" = root := (List.cons_eq_cons.1 hfirst).1
      rw [hmodules]
      rfl
  · exact ⟨[project "first" ":x"], [project "leaf" ":x:missing:leaf", project "odd" "x::é:"],
      rfl, rfl, by decide⟩
  · have hcut : cutParent? "x::é:" = some (some "x::é") := by decide
    obtain rfl := Option.some.inj (hcut.symm.trans hstart)
    rw [hends, hodd]

end OddPaths

end Dump

end CompositeBuild
