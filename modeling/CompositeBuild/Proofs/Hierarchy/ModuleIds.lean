/-
# Module ids of a tree of projects

In a build whose projects form a tree, the id of a module is made of the names on its path, so
different projects have different ids, with one exception: every project that is named like the root
project has the bare name for its id, wherever it stands (`ids_of_tree`).
-/
import CompositeBuild.Proofs.Hierarchy.Paths
import CompositeBuild.Proofs.Hierarchy.Segments

namespace CompositeBuild.Dump

open Text (IsName)

/-! ## Trees of projects -/

/-- A name on the path of a project: it is not empty and holds neither a colon nor a dot. -/
def IsPathName (s : String) : Prop := s ≠ "" ∧ ':' ∉ s.toList ∧ '.' ∉ s.toList

instance : DecidablePred IsPathName := fun s =>
  inferInstanceAs (Decidable (s ≠ "" ∧ ':' ∉ s.toList ∧ '.' ∉ s.toList))

/-- A name on a path can stand between two colons. -/
theorem IsPathName.colon {s : String} (h : IsPathName s) : IsName ':' s := ⟨h.1, h.2.1⟩

/-- A name on a path can stand between two dots. -/
theorem IsPathName.dot {s : String} (h : IsPathName s) : IsName '.' s := ⟨h.1, h.2.2⟩

/-- The projects of a build form a tree: their paths are distinct, one of them is at the root and
has a name without dots, and every other is named by the last name of its path. -/
structure Build.IsTree (b : Build) : Prop where
  distinct : (b.projects.map Project.path).Nodup
  root : ∃ r ∈ b.projects, r.path = rootPath ∧ r.name ≠ "" ∧ '.' ∉ r.name.toList
  below : ∀ p ∈ b.projects, p.path ≠ rootPath →
    ∃ above, (∀ s ∈ above ++ [p.name], IsPathName s) ∧ p.path = pathTo (above ++ [p.name])

namespace Build.IsTree

variable {b : Build} (h : b.IsTree)
include h

/-- Projects at one path are the same. -/
theorem eq_of_path {p q : Project} (hp : p ∈ b.projects) (hq : q ∈ b.projects)
    (hpath : p.path = q.path) : p = q :=
  PathsIdentify.of_nodup h.distinct p hp q hq hpath

/-- The project graph is named like the project at the root. -/
theorem projectName_eq {r : Project} (hr : r ∈ b.projects) (hpath : r.path = rootPath) :
    b.projectName = r.name := by
  have hfound : b.firstAt? rootPath = some r := by
    rw [← hpath]
    exact forall_firstAt?_iff.2 (.of_nodup h.distinct) r hr
  unfold firstAt? at hfound
  unfold projectName rootProject?
  rw [hfound, Option.some_or]

/-- A container is called by the last name of its path, whether or not it is a project. -/
theorem containerName_pathTo {above : List String} {name : String}
    (hnames : ∀ s ∈ above ++ [name], IsPathName s) :
    b.containerName (pathTo (above ++ [name]), name) = name := by
  unfold containerName
  cases hlast : b.lastAt? (pathTo (above ++ [name])) with
  | none => rfl
  | some p =>
    obtain ⟨hmem, hpath⟩ := mem_of_lastAt? hlast
    have hinj {names : List String} (hn : ∀ s ∈ names, IsPathName s)
        (hp : p.path = pathTo names) : names = above ++ [name] :=
      pathTo_inj (fun s hs => (hn s hs).colon) (fun s hs => (hnames s hs).colon) (hp ▸ hpath)
    have hroot : p.path ≠ rootPath := by
      rw [← pathTo_nil]
      intro hnil
      exact List.concat_ne_nil name above (by simpa using (hinj (by simp) hnil).symm)
    obtain ⟨above', hnames', hpath'⟩ := h.below p hmem hroot
    exact (List.concat_inj.1 (by simpa using hinj hnames' hpath')).2

/-- The containers of a project are the names above its own, nearest first. -/
theorem containersOf_pathTo {above : List String} {name : String}
    (hnames : ∀ s ∈ above ++ [name], IsPathName s) :
    b.containersOf (pathTo (above ++ [name])) = above.reverse := by
  unfold containersOf
  rw [segments_pathTo (by simp) fun s hs => (hnames s hs).colon, segmentsBelow_concat]
  apply map_containersAbove fun s hs => (hnames s (by simp [hs])).1
  intro above' name' hinit
  exact h.containerName_pathTo fun s hs =>
    hnames s (List.mem_append_left [name] (hinit.subset hs))

/-! ## Ids -/

omit h in
theorem id_of_name_eq {p : Project} (hname : p.name = b.projectName) :
    (b.moduleOf p).id = ⟨b.projectName⟩ := by
  unfold Module.id ModuleId.qualified moduleOf
  rw [if_pos hname, hname]

/-- The id of any other project is made of all names on its path. -/
theorem id_of_name_ne {p : Project} (hp : p ∈ b.projects) (hname : p.name ≠ b.projectName) :
    ∃ above, (∀ s ∈ above ++ [p.name], IsPathName s) ∧ p.path = pathTo (above ++ [p.name]) ∧
      (b.moduleOf p).id = ⟨".".intercalate (above ++ [p.name])⟩ := by
  have hroot : p.path ≠ rootPath := fun hpath => hname (h.projectName_eq hp hpath).symm
  obtain ⟨above, hnames, hpath⟩ := h.below p hp hroot
  refine ⟨above, hnames, hpath, ?_⟩
  unfold Module.id ModuleId.qualified moduleOf
  rw [if_neg hname, hpath, h.containersOf_pathTo hnames, List.reverse_reverse]

omit h in
/-- Ids that are made of different names are different. -/
theorem intercalate_dot_inj {xs ys : List String} (hxs : ∀ s ∈ xs, IsName '.' s)
    (hys : ∀ s ∈ ys, IsName '.' s) (hid : ".".intercalate xs = ".".intercalate ys) : xs = ys := by
  apply Text.intercalate_inj hxs hys
  have hlist := congrArg String.toList hid
  rwa [String.toList_intercalate, String.toList_intercalate] at hlist

/-- The name of the root project can be a name of an id. -/
theorem isName_projectName : IsName '.' b.projectName := by
  obtain ⟨r, hr, hpath, hname⟩ := h.root
  rw [h.projectName_eq hr hpath]
  exact hname

/-- A project that is named otherwise does not have the name of the root project for its id. -/
theorem id_ne_projectName {p : Project} (hp : p ∈ b.projects) (hname : p.name ≠ b.projectName) :
    (b.moduleOf p).id ≠ ⟨b.projectName⟩ := by
  obtain ⟨above, hnames, -, hid⟩ := h.id_of_name_ne hp hname
  rw [hid]
  intro heq
  have hsingle : ".".intercalate (above ++ [p.name]) = ".".intercalate [b.projectName] :=
    congrArg ModuleId.text heq
  have hlists := intercalate_dot_inj (fun s hs => (hnames s hs).dot)
    (by simpa using h.isName_projectName) hsingle
  exact hname (List.concat_inj.1 (by simpa using hlists : above.concat p.name = [].concat _)).2

/-- Two projects have one id exactly if they are the same or both are named like the root
project. -/
theorem id_eq_iff {p q : Project} (hp : p ∈ b.projects) (hq : q ∈ b.projects) :
    (b.moduleOf p).id = (b.moduleOf q).id ↔
      p = q ∨ (p.name = b.projectName ∧ q.name = b.projectName) := by
  constructor
  · intro hid
    by_cases hpn : p.name = b.projectName
    · by_cases hqn : q.name = b.projectName
      · exact .inr ⟨hpn, hqn⟩
      · exact absurd (hid.symm.trans (id_of_name_eq hpn)) (h.id_ne_projectName hq hqn)
    · by_cases hqn : q.name = b.projectName
      · exact absurd (hid.trans (id_of_name_eq hqn)) (h.id_ne_projectName hp hpn)
      · obtain ⟨above, hnames, hpath, hidp⟩ := h.id_of_name_ne hp hpn
        obtain ⟨above', hnames', hpath', hidq⟩ := h.id_of_name_ne hq hqn
        have htext := congrArg ModuleId.text (hidp.symm.trans (hid.trans hidq))
        have hlists := intercalate_dot_inj (fun s hs => (hnames s hs).dot)
          (fun s hs => (hnames' s hs).dot) htext
        exact .inl (h.eq_of_path hp hq (by rw [hpath, hpath', hlists]))
  · rintro (rfl | ⟨hpn, hqn⟩)
    · rfl
    · rw [id_of_name_eq hpn, id_of_name_eq hqn]

end Build.IsTree

/-- **Ids in a tree of projects.** Two modules of a build whose projects form a tree have one id
exactly if they are of the same project or both are named like the root project.  So the ids are
distinct exactly if no project below the root is named like the root project. -/
theorem ids_of_tree {b : Build} (h : b.IsTree) :
    (∀ p ∈ b.projects, ∀ q ∈ b.projects, (b.moduleOf p).id = (b.moduleOf q).id ↔
      p = q ∨ (p.name = b.projectName ∧ q.name = b.projectName)) ∧
    ((b.model.modules.map Module.id).Nodup ↔
      ∀ p ∈ b.projects, p.name = b.projectName → p.path = rootPath) := by
  refine ⟨fun p hp q hq => h.id_eq_iff hp hq, ?_⟩
  have hids : b.model.modules.map Module.id = b.projects.map fun p => (b.moduleOf p).id :=
    List.map_map
  rw [hids, List.nodup_map_iff_inj_on h.distinct.of_map]
  obtain ⟨r, hr, hpath, -⟩ := h.root
  have hroot : r.name = b.projectName := (h.projectName_eq hr hpath).symm
  constructor
  · intro hinj p hp hname
    rw [hinj p hp r hr ((h.id_eq_iff hp hr).2 (.inr ⟨hname, hroot⟩)), hpath]
  · intro hnames p hp q hq hid
    rcases (h.id_eq_iff hp hq).1 hid with heq | ⟨hpn, hqn⟩
    · exact heq
    · exact h.eq_of_path hp hq ((hnames p hp hpn).trans (hnames q hq hqn).symm)

/-! ## A project below the root and another -/

namespace SmallTree

/-- A project without tasks and source sets. -/
def project (name path : String) : Project := ⟨name, path, none, .empty, none, .none⟩

/-- A build with a root project, a project below it and one more. -/
def build (more : Project) : Build :=
  ⟨"App", none, none, [project "App" ":", project "libs" ":libs", more], [], []⟩

/-- The projects of the build form a tree if the last of them stands at a new path. -/
theorem isTree_build (above : List String) (name : String)
    (hnames : ∀ s ∈ above ++ [name], IsPathName s)
    (hnew : pathTo (above ++ [name]) ≠ ":" ∧ pathTo (above ++ [name]) ≠ ":libs") :
    (build (project name (pathTo (above ++ [name])))).IsTree where
  distinct := by
    show [":", ":libs", pathTo (above ++ [name])].Nodup
    simp [hnew.1.symm, hnew.2.symm]
  root := ⟨project "App" ":", List.mem_cons_self, rfl, by decide, by decide⟩
  below := by
    intro p hp hroot
    simp only [build, List.mem_cons, List.not_mem_nil, or_false] at hp
    rcases hp with rfl | rfl | rfl
    · exact absurd rfl hroot
    · exact ⟨[], by decide, by decide⟩
    · exact ⟨above, hnames, rfl⟩

end SmallTree

/-- The ids of a build in which no other project is named like the root project, though one stands
below a path without a project. -/
theorem ids_of_smallTree :
    (SmallTree.build (SmallTree.project "libs" ":missing:libs")).IsTree ∧
      (SmallTree.build (SmallTree.project "libs" ":missing:libs")).model.modules.map Module.id =
        [⟨"App"⟩, ⟨"libs"⟩, ⟨"missing.libs"⟩] ∧
      ((SmallTree.build (SmallTree.project "libs" ":missing:libs")).model.modules.map
        Module.id).Nodup := by
  have htree : (SmallTree.build (SmallTree.project "libs" ":missing:libs")).IsTree :=
    SmallTree.isTree_build ["missing"] "libs" (by decide) (by decide)
  refine ⟨htree, by decide, (ids_of_tree htree).2.2 ?_⟩
  intro p hp hname
  simp only [SmallTree.build, List.mem_cons, List.not_mem_nil, or_false] at hp
  rcases hp with rfl | rfl | rfl
  · rfl
  · exact absurd hname (by decide)
  · exact absurd hname (by decide)

/-- **Two modules of a tree with one id.** A project that is named like the root project has the
same id as the root project, though it stands below another. -/
theorem id_of_namesake :
    (SmallTree.build (SmallTree.project "App" ":libs:App")).IsTree ∧
      (SmallTree.build (SmallTree.project "App" ":libs:App")).model.modules.map Module.id =
        [⟨"App"⟩, ⟨"libs"⟩, ⟨"App"⟩] ∧
      ¬ ((SmallTree.build (SmallTree.project "App" ":libs:App")).model.modules.map
        Module.id).Nodup :=
  ⟨SmallTree.isTree_build ["libs"] "App" (by decide) (by decide), by decide, by decide⟩

end CompositeBuild.Dump
