/-
# Writing and reading snapshots

A snapshot is read back from its text exactly if its JSON form does not nest too deep for a text
(`Snapshot.read_write`), and a snapshot that was read never does (`Snapshot.depth_le_of_read`).  So
nothing is lost by writing a snapshot that a text can hold, and a snapshot that was read can be
written and read again (`Snapshot.writing_loses_nothing`).
-/
import CompositeBuild.Proofs.Json.Decoded
import CompositeBuild.Proofs.Snapshot.Records

namespace CompositeBuild

open Json (Decoder Layout Node)

/-! ## What was read nests within the bound -/

/-- No more containers are read than levels may be opened. -/
theorem Containers.length_le_of_decoder {room : Nat} {node : Node} {containers : List String}
    (h : decoder room node = .ok containers) : containers.length ≤ room := by
  induction room generalizing node containers with
  | zero => exact absurd h Json.noRoom_ne_ok
  | succ room ih =>
    -- A container is decoded with one level less than the one that holds it as its parent.
    obtain ⟨⟨name, parent?, ⟨⟩⟩, ⟨-, hparent, -⟩, rfl⟩ := Json.record_eq_ok node.each_true h
    cases parent? with
    | none => exact Nat.succ_le_succ (Nat.zero_le room)
    | some outer =>
      obtain ⟨node, -, hnode⟩ := Json.Field.yields_optional hparent
      exact Nat.succ_le_succ (ih hnode)

/-- The containers of a module that was read stand below it. -/
theorem Module.length_lt_of_decoder {room : Nat} {node : Node} {m : Module}
    (h : decoder room node = .ok m) : m.containers.length < room := by
  obtain ⟨below, ⟨name, projectName, parent?, path, build, moduleDir, ⟨⟩⟩, rfl, ⟨-, -, hparent, -⟩,
    rfl⟩ := Decoder.record_eq_ok node.each_true h
  cases parent? with
  | none => exact Nat.succ_pos below
  | some containers =>
    obtain ⟨node, -, hnode⟩ := Json.Field.yields_optional hparent
    exact Nat.lt_succ_of_le (Containers.length_le_of_decoder hnode)

/-- The containers of the modules of a project that was read stand three levels below it. -/
theorem Project.length_lt_of_decoder {room : Nat} {node : Node} {p : Project}
    (h : decoder room node = .ok p) : ∀ m ∈ p.modules, m.containers.length + 2 < room := by
  obtain ⟨below, ⟨name, build, projectDir, languageLevel, modules, ⟨⟩⟩, rfl,
    ⟨-, -, -, -, hmodules, -⟩, rfl⟩ := Decoder.record_eq_ok node.each_true h
  intro m hm
  rcases Json.Field.yields_defaulted hmodules with rfl | ⟨node, -, hnode⟩
  · exact absurd hm List.not_mem_nil
  · obtain ⟨below, rfl, hitems⟩ := Decoder.list_eq_ok node.each_true hnode
    obtain ⟨node, -, hmodule⟩ := hitems m hm
    have hlength := Module.length_lt_of_decoder hmodule
    omega

namespace Snapshot

/-- The containers of the modules of a snapshot that was read stand five levels below it. -/
theorem length_lt_of_decoder {room : Nat} {node : Node} {s : Snapshot}
    (h : decoder room node = .ok s) :
    ∀ p ∈ s.projects, ∀ m ∈ p.modules, m.containers.length + 4 < room := by
  obtain ⟨below, ⟨projects, toolchains, sourceSets, ⟨⟩⟩, rfl, ⟨hprojects, -⟩, rfl⟩ :=
    Decoder.record_eq_ok node.each_true h
  intro p hp m hm
  obtain ⟨node, -, hnode⟩ := Json.Field.yields_required hprojects
  obtain ⟨below, rfl, hitems⟩ := Decoder.list_eq_ok node.each_true hnode
  obtain ⟨node, -, hproject⟩ := hitems p hp
  have hlength := Project.length_lt_of_decoder hproject m hm
  omega

/-- **A snapshot that was read nests no deeper than a text may.** -/
theorem depth_le_of_read {text : String} {s : Snapshot} (h : read text = .ok s) :
    s.toJson.depth ≤ Decoder.textRoom := by
  have hnode := Decoder.eq_ok_of_fromText_eq_ok h
  refine depth_toJson_le_iff.2 fun p hp m hm => ?_
  have hlength := length_lt_of_decoder hnode p hp m hm
  rw [Decoder.textRoom] at hlength
  omega

/-! ## The round trip -/

theorem toList_write (layout : Layout) (s : Snapshot) :
    (s.write layout).toList = Json.write layout 0 s.toJson ++ ['\n'] := by
  rw [write, Json.toText, String.toList_append, String.toList_ofList]
  rfl

/-- **A snapshot is read back from its text, unless its JSON form nests too deep for a text.** -/
theorem read_write (layout : Layout) (s : Snapshot) :
    read (s.write layout) = Json.within s.toJson.depth Decoder.textRoom s := by
  have hline : Json.IsBlanks ['\n'] := fun c hc => by rw [List.mem_singleton.1 hc]; rfl
  rw [read, Decoder.fromText, toList_write]
  exact s.reads_toJson.fromChars_write s.isIntegral_toJson layout hline

/-- The compact text of a snapshot is one line. -/
theorem exists_line (s : Snapshot) :
    ∃ line, s.write .compact = line ++ "\n" ∧ '\n' ∉ line.toList := by
  refine ⟨s.toJson.toText .compact, rfl, ?_⟩
  rw [Json.toText, String.toList_ofList]
  exact Json.newline_not_mem_write 0 s.toJson s.isIntegral_toJson

/-- **Writing a snapshot loses nothing.**  A snapshot whose JSON form nests at most 127 levels is
read back from its text in either layout, with every path in its spelling; what was read is written
as the same text again; and the compact text is a single line.  A snapshot that was read from any
text is read back from what it is written as. -/
theorem writing_loses_nothing :
    (∀ s : Snapshot, s.toJson.depth ≤ 127 →
      (∀ layout, read (s.write layout) = .ok s) ∧
      (∀ layout s', read (s.write layout) = .ok s' →
        ∀ layout', s'.write layout' = s.write layout') ∧
      ∃ line, s.write .compact = line ++ "\n" ∧ '\n' ∉ line.toList) ∧
    ∀ text s, read text = .ok s → ∀ layout, read (s.write layout) = .ok s := by
  have hback (s : Snapshot) (hdepth : s.toJson.depth ≤ Decoder.textRoom) (layout : Layout) :
      read (s.write layout) = .ok s := by
    rw [read_write, Json.within, if_pos hdepth]
  refine ⟨fun s hdepth => ⟨hback s hdepth, fun layout s' hs' layout' => ?_, s.exists_line⟩,
    fun text s hs layout => hback s (depth_le_of_read hs) layout⟩
  rw [hback s hdepth layout] at hs'
  rw [Except.ok.inj hs']

/-- A snapshot with a quote, a backslash and control characters in its names, empty names, and paths
in other spellings than the shortest. -/
def unusual : Snapshot where
  projects := [⟨"a\"\\\n", "", some ⟨"/x//y/."⟩, none, [⟨"", "a", ["", "\t"], ":", "b", none⟩]⟩]
  toolchains := ⟨[(⟨".."⟩, .empty)], by decide⟩
  sourceSets :=
    ⟨[(⟨".."⟩,
        ⟨[⟨"main", ⟨[⟨"./b//"⟩, ⟨"c/"⟩], by decide⟩, .empty, ⟨["", "*"], by decide⟩, .empty, .empty,
            .empty, true⟩], by decide⟩)], by decide⟩

/-- The text of a snapshot with an unknown key, a repeated key, a project in an array, and a set
that repeats an element in another spelling. -/
def disordered : String :=
  "\x7b\"toolchains\":\x7b\x7d,\"x\":[1],\"projects\":[[\"App\"]],\"sourceSets\":\x7b\"App\":[]," ++
    "\"App\":[\x7b\"name\":\"main\",\"sources\":[\"b\",\"a\",\"b/\"]\x7d]\x7d\x7d"

/-- What `disordered` holds. -/
def ordered : Snapshot where
  projects := [⟨"App", "", none, none, []⟩]
  toolchains := .empty
  sourceSets :=
    ⟨[(⟨"App"⟩,
        ⟨[⟨"main", ⟨[⟨"a"⟩, ⟨"b"⟩], by decide⟩, .empty, .empty, .empty, .empty, .empty, false⟩],
          by decide⟩)], by decide⟩

/-- A snapshot with unusual texts is read back, and so is one that was read from an unusual text. -/
theorem writing_loses_nothing_of_unusual :
    unusual.toJson.depth ≤ 127 ∧ read (unusual.write .pretty) = .ok unusual ∧
      read disordered = .ok ordered ∧ read (ordered.write .compact) = .ok ordered := by
  have hdepth : unusual.toJson.depth ≤ 127 := by decide
  have hread : read disordered = .ok ordered := Json.eq_ok_of_toOption (by decide +kernel)
  exact ⟨hdepth, (writing_loses_nothing.1 unusual hdepth).1 .pretty, hread,
    writing_loses_nothing.2 disordered ordered hread .compact⟩

end Snapshot

end CompositeBuild
