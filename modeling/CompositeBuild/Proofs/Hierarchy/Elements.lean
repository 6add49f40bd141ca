/-
# Elements of the hierarchy

An element of the hierarchy is a name with the container around it, if there is one, which is an
element itself.  The names of containers, nearest first, make a chain of elements (`ofNames`), and
the walk up this chain gives them back (`map_name_ancestors`).  The id of an element whose names
hold no dot tells where it stands, unless it is named like its project (`ids_determine_hierarchy`).
-/
import CompositeBuild.Project
import CompositeBuild.Proofs.Hierarchy.Segments

namespace CompositeBuild

/-- An element of the hierarchy: its name and the container around it. -/
inductive Element where
  | mk (name : String) (parent : Option Element)

namespace Element

/-- The name of an element. -/
def name : Element → String
  | mk name _ => name

/-- The container around an element. -/
def parent : Element → Option Element
  | mk _ parent => parent

/-- The containers around an element, nearest first. -/
def ancestors : Element → List Element
  | mk _ none => []
  | mk _ (some container) => container :: container.ancestors

/-- The nearest of the containers with the given names, nearest first.  They are put together from
the outermost inwards. -/
def ofNames (names : List String) : Option Element :=
  names.reverse.foldl (fun parent name => some (mk name parent)) none

/-- The id of an element of a project. -/
def id (e : Element) (projectName : String) : ModuleId :=
  .qualified e.name (e.ancestors.map name) projectName

/-! ## Chains of containers -/

theorem ofNames_cons (name : String) (outer : List String) :
    ofNames (name :: outer) = some (mk name (ofNames outer)) := by
  unfold ofNames
  rw [List.reverse_cons, List.foldl_append]
  rfl

/-- The walk up a chain of containers gives back the names of which it was made. -/
theorem map_name_ancestors (name : String) (containers : List String) :
    (mk name (ofNames containers)).ancestors.map Element.name = containers := by
  induction containers generalizing name with
  | nil => rfl
  | cons container outer ih =>
    rw [ofNames_cons, ancestors, List.map_cons, ih]
    rfl

end Element

/-! ## Ids of elements -/

namespace ModuleId

variable {name projectName : String}

theorem qualified_of_eq (h : name = projectName) (containers : List String) :
    qualified name containers projectName = ⟨name⟩ :=
  if_pos h

theorem qualified_of_ne (h : name ≠ projectName) (containers : List String) :
    qualified name containers projectName = ⟨".".intercalate (containers.reverse ++ [name])⟩ :=
  if_neg h

/-- Joining names by dots puts a dot behind each name but the last. -/
theorem intercalate_dot_concat (names : List String) (last : String) :
    ".".intercalate (names ++ [last]) = String.join (names.map (· ++ ".")) ++ last := by
  induction names with
  | nil => simp
  | cons name rest ih =>
    rw [List.cons_append, String.intercalate_cons_of_ne_nil (by simp), ih, List.map_cons,
      String.join_cons]
    simp only [String.append_assoc]

end ModuleId

namespace Element

/-- The id of an element below a container is that of the container, a dot and the name of the
element, if neither is named like the project. -/
theorem text_id_of_parent {e container : Element} {projectName : String}
    (hparent : e.parent = some container) (hname : e.name ≠ projectName)
    (hcontainer : container.name ≠ projectName) :
    (e.id projectName).text = (container.id projectName).text ++ "." ++ e.name := by
  obtain ⟨name, parent⟩ := e
  obtain rfl : parent = some container := hparent
  unfold id
  rw [ModuleId.qualified_of_ne hname, ModuleId.qualified_of_ne hcontainer, ancestors, List.map_cons,
    List.reverse_cons, String.intercalate_append_of_ne_nil (by simp) (by simp),
    String.intercalate_singleton]

end Element

namespace Module

/-- A module as an element, in the chain of its containers. -/
def element (m : Module) : Element := ⟨m.name, Element.ofNames m.containers⟩

/-- The id of a module is that of its element. -/
theorem id_eq (m : Module) : m.id = m.element.id m.projectName := by
  unfold id element Element.id
  rw [Element.map_name_ancestors]
  rfl

/-- The names of a module and of its containers hold no dot. -/
def IsDotFree (m : Module) : Prop := ∀ s ∈ m.name :: m.containers, '.' ∉ s.toList

instance : DecidablePred IsDotFree := fun m =>
  inferInstanceAs (Decidable (∀ s ∈ m.name :: m.containers, '.' ∉ s.toList))

/-- The names of which the id of a module is made. -/
def idNames (m : Module) : List String :=
  if m.name = m.projectName then [m.name] else m.containers.reverse ++ [m.name]

/-- The id of a module is joined of its names. -/
theorem id_eq_intercalate (m : Module) : m.id = ⟨".".intercalate m.idNames⟩ := by
  unfold id idNames
  by_cases hname : m.name = m.projectName
  · rw [if_pos hname, ModuleId.qualified_of_eq hname, String.intercalate_singleton]
  · rw [if_neg hname, ModuleId.qualified_of_ne hname]

theorem idNames_ne_nil (m : Module) : m.idNames ≠ [] := by
  unfold idNames
  split <;> simp

/-- No name of the id holds a dot, if none of the module does. -/
theorem IsDotFree.idNames {m : Module} (h : m.IsDotFree) : ∀ s ∈ m.idNames, '.' ∉ s.toList := by
  intro s hs
  apply h s
  unfold Module.idNames at hs
  split at hs
  · exact List.mem_cons.2 (.inl (List.mem_singleton.1 hs))
  · simpa [or_comm] using hs

/-- Modules without dots in their names have one id exactly if it is made of the same names. -/
theorem id_eq_iff_idNames {m m' : Module} (h : m.IsDotFree) (h' : m'.IsDotFree) :
    m.id = m'.id ↔ m.idNames = m'.idNames := by
  rw [id_eq_intercalate, id_eq_intercalate, ModuleId.mk.injEq]
  refine ⟨fun hid => ?_, congrArg _⟩
  apply Text.intercalate_inj_of_ne_nil m.idNames_ne_nil m'.idNames_ne_nil h.idNames h'.idNames
  have hlist := congrArg String.toList hid
  rwa [String.toList_intercalate, String.toList_intercalate] at hlist

/-- The names of two ids of a project are the same exactly if both modules are named like it, or
neither is and they have the same name and the same containers. -/
theorem idNames_eq_iff {m m' : Module} (hproject : m.projectName = m'.projectName) :
    m.idNames = m'.idNames ↔
      (m.name = m.projectName ∧ m'.name = m.projectName) ∨
        (m.name ≠ m.projectName ∧ m'.name ≠ m.projectName ∧
          m.name = m'.name ∧ m.containers = m'.containers) := by
  have hlast (names : List String) (x y : String) : names ++ [x] = [y] → x = y := fun heq =>
    (List.concat_inj.1 (by simpa using heq : names.concat x = [].concat y)).2
  unfold idNames
  rw [← hproject]
  by_cases hm : m.name = m.projectName
  · by_cases hm' : m'.name = m.projectName
    · simp [hm, hm']
    · rw [if_pos hm, if_neg hm']
      simp only [hm, hm', and_false, not_true_eq_false, false_and, or_self, iff_false, ne_eq]
      exact fun heq => hm' (hlast _ _ _ heq.symm)
  · by_cases hm' : m'.name = m.projectName
    · rw [if_neg hm, if_pos hm']
      simp only [hm, hm', false_and, not_true_eq_false, and_false, or_self, iff_false, ne_eq]
      exact fun heq => hm (hlast _ _ _ heq)
    · rw [if_neg hm, if_neg hm', ← List.concat_eq_append, ← List.concat_eq_append, List.concat_inj,
        List.reverse_inj]
      simp [hm, hm', and_comm]

end Module

/-- **Ids determine the hierarchy.** The id of a module in a chain of containers is the bare name if
that is the name of the project, and otherwise the names of the containers, the outermost first,
with a dot behind each, and the name.  So two modules of one project whose names hold no dots have
one id exactly if both are named like the project, or neither is and they have the same name and the
same containers.  And the id of an element extends that of its container, if neither is named like
the project. -/
theorem ids_determine_hierarchy (projectName : String) :
    (∀ m : Module, m.projectName = projectName →
      m.id = m.element.id projectName ∧
      m.element.id projectName =
        if m.name = projectName then ⟨m.name⟩
        else ⟨String.join (m.containers.reverse.map (· ++ ".")) ++ m.name⟩) ∧
    (∀ m m' : Module, m.projectName = projectName → m'.projectName = projectName →
      m.IsDotFree → m'.IsDotFree →
        (m.id = m'.id ↔
          (m.name = projectName ∧ m'.name = projectName) ∨
            (m.name ≠ projectName ∧ m'.name ≠ projectName ∧
              m.name = m'.name ∧ m.containers = m'.containers))) ∧
    ∀ e container : Element, e.parent = some container → e.name ≠ projectName →
      container.name ≠ projectName →
        (e.id projectName).text = (container.id projectName).text ++ "." ++ e.name := by
  refine ⟨?chain, ?ids, fun e container => Element.text_id_of_parent⟩
  case chain =>
    rintro m rfl
    refine ⟨m.id_eq, ?_⟩
    rw [← m.id_eq, m.id_eq_intercalate, Module.idNames]
    split
    · rw [String.intercalate_singleton]
    · rw [ModuleId.intercalate_dot_concat]
  case ids =>
    rintro m m' rfl hproject h h'
    rw [Module.id_eq_iff_idNames h h', Module.idNames_eq_iff hproject.symm]

/-! ### Empty names -/

namespace EmptyNames

/-- A module of the project `App`. -/
def moduleIn (name : String) (containers : List String) : Module :=
  ⟨name, "App", containers, "", "App", none⟩

/-- Modules whose ids differ by the place of an empty name only. -/
theorem ids_of_emptyNames :
    (moduleIn "" ["lib", ""]).id = ⟨".lib."⟩ ∧ (moduleIn "" ["", "lib"]).id = ⟨"lib.."⟩ ∧
      (moduleIn "" ["lib", ""]).id ≠ (moduleIn "" ["", "lib"]).id ∧
      (moduleIn "App" ["lib"]).id = (moduleIn "App" []).id ∧
      ((Element.mk "" (Element.ofNames ["lib", ""])).id "App").text = ".lib" ++ "." ++ "" := by
  obtain ⟨hchain, hids, hparent⟩ := ids_determine_hierarchy "App"
  refine ⟨?_, ?_, ?_, ?_, ?_⟩
  · rw [(hchain _ rfl).1, (hchain _ rfl).2]
    rfl
  · rw [(hchain _ rfl).1, (hchain _ rfl).2]
    rfl
  · rw [Ne, hids _ _ rfl rfl (by decide) (by decide)]
    decide
  · exact (hids _ _ rfl rfl (by decide) (by decide)).2 (.inl ⟨rfl, rfl⟩)
  · exact hparent _ (.mk "lib" (Element.ofNames [""])) rfl (by decide) (by decide)

end EmptyNames

end CompositeBuild
