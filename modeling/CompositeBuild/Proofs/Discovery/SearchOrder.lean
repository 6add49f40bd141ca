/-
# The order of discovery

Builds of one name may differ in what they include, so it matters which of them discovery follows.
The walk of the included builds comes to the builds that are listed and then to those that each
found build includes, and it finds the first of each name (`IsSearch`); every step keeps this
(`Progress`), and the queue is empty after at most as many steps as there are builds in the trees
(`iterate_step`).
-/
import CompositeBuild.Proofs.Discovery.Walk
import Mathlib.Data.List.Induction
import Mathlib.Data.List.Nodup
import Mathlib.Logic.Function.Iterate

namespace CompositeBuild

namespace BuildRef

/-! ## The first of each name -/

/-- The elements that are the first of their names in a list, without those of the name `root`. -/
def firstsBy {α : Type} (name : α → String) (root : String) (xs : List α) : List α :=
  xs.zipIdx.filterMap fun (x, i) =>
    if name x ≠ root ∧ name x ∉ (xs.take i).map name then some x else none

section FirstsBy

variable {α β : Type} {name : α → String} {root : String}

/-- An element behind a list is one of the first if its name is new and not `root`. -/
theorem firstsBy_concat (xs : List α) (x : α) :
    firstsBy name root (xs ++ [x]) =
      firstsBy name root xs ++ if name x ≠ root ∧ name x ∉ xs.map name then [x] else [] := by
  have hbefore : xs.zipIdx.filterMap (fun (y, i) =>
      if name y ≠ root ∧ name y ∉ ((xs ++ [x]).take i).map name then some y else none) =
        firstsBy name root xs := by
    apply List.filterMap_congr
    rintro ⟨y, i⟩ hy
    have hi : i ≤ xs.length := Nat.le_of_lt (List.mem_zipIdx' hy).1
    dsimp only
    rw [List.take_append_of_le_length hi]
  have hlast : [(x, xs.length)].filterMap (fun (y, i) =>
      if name y ≠ root ∧ name y ∉ ((xs ++ [x]).take i).map name then some y else none) =
        if name x ≠ root ∧ name x ∉ xs.map name then [x] else [] := by
    simp only [List.filterMap_cons, List.filterMap_nil, List.take_left]
    split_ifs
    · rfl
    · rfl
  rw [firstsBy, List.zipIdx_append, List.filterMap_append, hbefore, ← hlast, List.zipIdx_singleton,
    Nat.zero_add]

/-- The first elements stand in the order of the list. -/
theorem firstsBy_sublist (xs : List α) : (firstsBy name root xs).Sublist xs := by
  induction xs using List.reverseRecOn with
  | nil => exact .slnil
  | append_singleton xs x ih =>
    rw [firstsBy_concat]
    refine ih.append ?_
    split
    · exact .refl _
    · exact List.nil_sublist _

/-- The names of the first elements are all names but `root`. -/
theorem mem_map_firstsBy {xs : List α} {n : String} :
    n ∈ (firstsBy name root xs).map name ↔ n ≠ root ∧ n ∈ xs.map name := by
  induction xs using List.reverseRecOn with
  | nil => simp [firstsBy]
  | append_singleton xs x ih =>
    rw [firstsBy_concat, List.map_append, List.mem_append, ih, List.map_append, List.mem_append]
    by_cases hx : name x ≠ root ∧ name x ∉ xs.map name
    · rw [if_pos hx]
      simp only [List.map_singleton, List.mem_singleton]
      constructor
      · rintro (h | rfl)
        · exact ⟨h.1, .inl h.2⟩
        · exact ⟨hx.1, .inr rfl⟩
      · rintro ⟨hne, h | rfl⟩
        · exact .inl ⟨hne, h⟩
        · exact .inr rfl
    · rw [if_neg hx]
      simp only [List.map_nil, List.not_mem_nil, or_false, List.map_singleton, List.mem_singleton]
      refine and_congr_right fun hne => ⟨.inl, ?_⟩
      rintro (h | rfl)
      · exact h
      · exact not_not.1 fun hmem => hx ⟨hne, hmem⟩

/-- The first elements have different names, none of which is `root`. -/
theorem nodup_map_firstsBy (xs : List α) : (root :: (firstsBy name root xs).map name).Nodup := by
  rw [List.nodup_cons]
  refine ⟨fun hroot => (mem_map_firstsBy.1 hroot).1 rfl, ?_⟩
  induction xs using List.reverseRecOn with
  | nil => simp [firstsBy]
  | append_singleton xs x ih =>
    rw [firstsBy_concat]
    split
    · rename_i hx
      rw [List.map_append, List.map_singleton, List.nodup_append']
      refine ⟨ih, List.nodup_singleton _, ?_⟩
      rw [List.disjoint_singleton]
      exact fun hmem => hx.2 (mem_map_firstsBy.1 hmem).2
    · rwa [List.append_nil]

/-- A first element is the one that is found by its name. -/
theorem find?_of_mem_firstsBy {xs : List α} {x : α} (hx : x ∈ firstsBy name root xs) :
    xs.find? (fun y => name y = name x) = some x := by
  induction xs using List.reverseRecOn with
  | nil => simp [firstsBy] at hx
  | append_singleton xs y ih =>
    rw [firstsBy_concat, List.mem_append] at hx
    rcases hx with hx | hx
    · rw [List.find?_append, ih hx, Option.some_or]
    · split at hx
      · rename_i hy
        obtain rfl := List.mem_singleton.1 hx
        have hnone : xs.find? (fun z => name z = name x) = none := by
          rw [List.find?_eq_none]
          intro z hz heq
          exact hy.2 (List.mem_map.2 ⟨z, hz, by simpa using heq⟩)
        simp [List.find?_append, hnone]
      · exact absurd hx List.not_mem_nil

/-- The first elements do not depend on anything but the names. -/
theorem firstsBy_map (f : β → α) (xs : List β) :
    firstsBy name root (xs.map f) = (firstsBy (name ∘ f) root xs).map f := by
  induction xs using List.reverseRecOn with
  | nil => rfl
  | append_singleton xs x ih =>
    rw [List.map_append, List.map_singleton, firstsBy_concat, firstsBy_concat, ih, List.map_append,
      List.map_map]
    congr 1
    simp only [Function.comp_apply, apply_ite (List.map f), List.map_singleton, List.map_nil]

end FirstsBy

/-- Taking new builds one after the other takes the first of each name. -/
theorem firstOfEach_eq_firstsBy (root : String) (builds : List BuildRef) :
    firstOfEach root builds = firstsBy BuildRef.name root builds := by
  induction builds using List.reverseRecOn with
  | nil => rfl
  | append_singleton builds b ih =>
    rw [firstOfEach_eq_foldl] at ih ⊢
    rw [List.foldl_append, List.foldl_cons, List.foldl_nil, ih, firstsBy_concat]
    unfold takeNew
    by_cases hb : b.name ≠ root ∧ b.name ∉ builds.map BuildRef.name
    · rw [if_pos hb, if_neg (by rw [isNamedIn_iff, mem_map_firstsBy]; tauto)]
    · rw [if_neg hb, if_pos (by rw [isNamedIn_iff, mem_map_firstsBy]; tauto), List.append_nil]

/-! ## Where a build is met -/

/-- Where a search meets a build: in the list that it starts from, or among the builds that the
found build at a position includes. -/
inductive Origin where
  | top
  | below (position : ℕ)

/-- The number of found builds up to the one that includes the build. -/
def Origin.rank : Origin → ℕ
  | top => 0
  | below position => position + 1

/-- The depth of a build, given those of the found builds: one in the list that the search starts
from, and one more than that of the build that includes it. -/
def Origin.depth (depths : ℕ → ℕ) : Origin → ℕ
  | top => 1
  | below position => depths position + 1

/-- The builds that a search meets: those of the list that it starts from, and then those that each
found build includes, each with its origin. -/
def encountered (top found : List BuildRef) : List (Origin × BuildRef) :=
  top.map (Origin.top, ·) ++
    found.zipIdx.flatMap fun (r, position) => r.included.map (Origin.below position, ·)

/-- The found build at a position is the first of its name that the search meets, and has this
origin. -/
def IntroducedBy (top found : List BuildRef) (position : ℕ) (origin : Origin) : Prop :=
  ∃ b, found[position]? = some b ∧
    (encountered top found).find? (fun e => e.2.name = b.name) = some (origin, b)

section Encountered

variable {top found : List BuildRef}

/-- A build that is found makes the search meet those that it includes, behind the others. -/
theorem encountered_concat (b : BuildRef) : encountered top (found ++ [b]) =
    encountered top found ++ b.included.map (Origin.below found.length, ·) := by
  unfold encountered
  rw [List.zipIdx_append, List.flatMap_append, ← List.append_assoc]
  simp

/-- The build that includes a build which the search meets is one of those found. -/
theorem rank_le_length : ∀ e ∈ encountered top found, e.1.rank ≤ found.length := by
  induction found using List.reverseRecOn with
  | nil => simp [encountered, Origin.rank]
  | append_singleton found b ih =>
    rw [encountered_concat, List.length_append, List.length_singleton]
    refine List.forall_mem_append.2 ⟨fun e he => Nat.le_succ_of_le (ih e he), ?_⟩
    simp [Origin.rank]

/-- The builds that a search meets stand in the order of the builds that include them. -/
theorem encountered_sorted :
    (encountered top found).Pairwise fun e e' => e.1.rank ≤ e'.1.rank := by
  induction found using List.reverseRecOn with
  | nil =>
    rw [encountered, List.zipIdx_nil, List.flatMap_nil, List.append_nil, List.pairwise_map]
    exact List.pairwise_of_forall fun _ _ => Nat.le_refl _
  | append_singleton found b ih =>
    rw [encountered_concat, List.pairwise_append]
    refine ⟨ih, ?_, fun e he e' he' => ?_⟩
    · rw [List.pairwise_map]
      exact List.pairwise_of_forall fun _ _ => Nat.le_refl _
    · obtain ⟨c, -, rfl⟩ := List.mem_map.1 he'
      exact Nat.le_succ_of_le (rank_le_length e he)

end Encountered

/-- Without their origins, the builds that a search meets are the list that it starts from and the
builds that those found include. -/
theorem map_snd_encountered (top found : List BuildRef) :
    (encountered top found).map (·.2) = top ++ found.flatMap BuildRef.included := by
  induction found using List.reverseRecOn with
  | nil => simp [encountered, Function.comp_def]
  | append_singleton found b ih =>
    rw [encountered_concat, List.map_append, ih, List.flatMap_append, List.append_assoc]
    simp [Function.comp_def]

/-- A build that has an origin is in the list that the search starts from, or it is included by the
found build at its origin's position. -/
theorem mem_encountered {top found : List BuildRef} {origin : Origin} {b : BuildRef} :
    (origin, b) ∈ encountered top found ↔
      (origin = .top ∧ b ∈ top) ∨
        ∃ i, ∃ hi : i < found.length, origin = .below i ∧ b ∈ found[i].included := by
  unfold encountered
  rw [List.mem_append, List.mem_map, List.mem_flatMap]
  refine or_congr ?_ ?_
  · constructor
    · rintro ⟨c, hc, heq⟩
      obtain ⟨rfl, rfl⟩ := Prod.mk.inj heq
      exact ⟨rfl, hc⟩
    · rintro ⟨rfl, hb⟩
      exact ⟨b, hb, rfl⟩
  · constructor
    · rintro ⟨⟨r, i⟩, hr, hmem⟩
      obtain ⟨c, hc, heq⟩ := List.mem_map.1 hmem
      obtain ⟨rfl, rfl⟩ := Prod.mk.inj heq
      obtain ⟨hi, hget⟩ := List.mem_zipIdx' hr
      exact ⟨i, hi, rfl, hget ▸ hc⟩
    · rintro ⟨i, hi, rfl, hb⟩
      exact ⟨(found[i], i), List.mk_mem_zipIdx_iff_getElem?.2 (List.getElem?_eq_getElem hi),
        List.mem_map_of_mem hb⟩

/-! ## Depths -/

/-- The depth of the build at a position, if these are the origins of the builds at all
positions. -/
def depthBy (origins : ℕ → Origin) (position : ℕ) : ℕ :=
  match origins position with
  | .top => 1
  | .below before => if before < position then depthBy origins before + 1 else 1
  termination_by position

section Depths

variable {origins : ℕ → Origin}

/-- If no build has its origin behind it, each depth follows from that at the origin. -/
theorem depthBy_eq {position : ℕ} (hrank : (origins position).rank ≤ position) :
    depthBy origins position = (origins position).depth (depthBy origins) := by
  rw [depthBy]
  cases horigin : origins position with
  | top => rfl
  | below before =>
    rw [horigin] at hrank
    exact if_pos hrank

/-- If the origins stand in order, the depths do. -/
theorem depthBy_mono {length : ℕ} (hrank : ∀ i < length, (origins i).rank ≤ i)
    (hsorted : ∀ i j, i ≤ j → j < length → (origins i).rank ≤ (origins j).rank) {i j : ℕ}
    (hij : i ≤ j) (hj : j < length) : depthBy origins i ≤ depthBy origins j := by
  induction j using Nat.strongRecOn generalizing i with
  | ind j ih =>
    have hle := hsorted i j hij hj
    have hbefore := hrank j hj
    rw [depthBy_eq (hrank i (Nat.lt_of_le_of_lt hij hj)), depthBy_eq hbefore]
    cases hi : origins i with
    | top =>
      cases origins j with
      | top => exact Nat.le_refl 1
      | below q => exact Nat.le_add_left 1 _
    | below p =>
      cases hj' : origins j with
      | top => rw [hi, hj'] at hle; exact absurd hle (Nat.not_succ_le_zero p)
      | below q =>
        rw [hi, hj'] at hle
        rw [hj'] at hbefore
        exact Nat.succ_le_succ (ih q hbefore (Nat.le_of_succ_le_succ hle)
          (Nat.lt_trans hbefore hj))

end Depths

/-! ## What a search finds -/

/-- What it means that a list of found builds is the result of a search from a list of builds: which
names it has, where its builds come from, and which of the builds of a name it has. -/
structure IsSearch (root : String) (top found : List BuildRef) : Prop where
  /-- The found builds have different names, none of which is the root's. -/
  distinct : (root :: found.map BuildRef.name).Nodup
  /-- Every name in the list that the search starts from is found. -/
  listed : ∀ b ∈ top, b.name ≠ root → b.name ∈ found.map BuildRef.name
  /-- Every name that a found build includes is found. -/
  included : ∀ r ∈ found, ∀ b ∈ r.included, b.name ≠ root → b.name ∈ found.map BuildRef.name
  /-- Every found build is in the list that the search starts from, or it is included by a build
  that is found before it. -/
  reached : ∀ i (hi : i < found.length),
    found[i] ∈ top ∨ ∃ j, ∃ hj : j < i, found[i] ∈ found[j].included
  /-- The found builds are the first of their names among those that the search meets. -/
  first : found = firstsBy BuildRef.name root (top ++ found.flatMap BuildRef.included)
  /-- With depth 1 in the list that the search starts from, and one more than the depth of the build
  that introduces it below that, no build is less deep than one that is found before it. -/
  levels : ∃ depths : ℕ → ℕ,
    (∀ i < found.length, ∃ origin, IntroducedBy top found i origin ∧ origin.rank ≤ i ∧
      depths i = origin.depth depths) ∧
    ∀ i j, i ≤ j → j < found.length → depths i ≤ depths j

/-- How far a search has come: the builds that it has met are split into those that it has passed
and those that wait, the found builds are the first of those that are passed, and none has its
origin behind it. -/
structure Progress (root : String) (top found : List BuildRef)
    (past pending : List (Origin × BuildRef)) : Prop where
  met : encountered top found = past ++ pending
  taken : (firstsBy (·.2.name) root past).map (·.2) = found
  earlier : ∀ (i : ℕ) (e : Origin × BuildRef),
    (firstsBy (·.2.name) root past)[i]? = some e → e.1.rank ≤ i

namespace Progress

variable {root : String} {top found : List BuildRef} {past pending : List (Origin × BuildRef)}
  {e : Origin × BuildRef}

/-- Before its first step, a search has found nothing. -/
theorem start : Progress root top [] [] (top.map (Origin.top, ·)) where
  met := by simp [encountered]
  taken := rfl
  earlier := by simp [firstsBy]

theorem mem_map_name (h : Progress root top found past pending) {n : String} :
    n ∈ found.map BuildRef.name ↔ n ≠ root ∧ n ∈ past.map (·.2.name) := by
  rw [← h.taken, List.map_map]
  exact mem_map_firstsBy

/-- Passing over a build of a name that was found before, or of the root's. -/
theorem skip (h : Progress root top found past (e :: pending))
    (hseen : e.2.name = root ∨ e.2.name ∈ found.map BuildRef.name) :
    Progress root top found (past ++ [e]) pending := by
  have hsame : firstsBy (·.2.name) root (past ++ [e]) = firstsBy (·.2.name) root past := by
    rw [firstsBy_concat, if_neg, List.append_nil]
    rw [h.mem_map_name] at hseen
    tauto
  refine ⟨by rw [h.met, List.append_assoc, List.singleton_append], ?_, ?_⟩
  · rw [hsame, h.taken]
  · rw [hsame]
    exact h.earlier

/-- Finding a new build, so that those which it includes wait. -/
theorem take (h : Progress root top found past (e :: pending))
    (hnew : ¬ (e.2.name = root ∨ e.2.name ∈ found.map BuildRef.name)) :
    Progress root top (found ++ [e.2]) (past ++ [e])
      (pending ++ e.2.included.map (Origin.below found.length, ·)) := by
  have hmore : firstsBy (·.2.name) root (past ++ [e]) = firstsBy (·.2.name) root past ++ [e] := by
    rw [firstsBy_concat, if_pos]
    rw [h.mem_map_name] at hnew
    tauto
  have hlength : (firstsBy (·.2.name) root past).length = found.length := by
    rw [← h.taken, List.length_map]
  refine ⟨?_, ?_, ?_⟩
  · rw [encountered_concat, h.met]
    simp
  · rw [hmore, List.map_append, h.taken, List.map_singleton]
  · intro i e' he'
    rw [hmore] at he'
    rcases Nat.lt_or_ge i found.length with hi | hi
    · rw [List.getElem?_append_left (by rwa [hlength])] at he'
      exact h.earlier i e' he'
    · -- The new build was met below a build that had been found before it.
      rw [List.getElem?_append_right (by rwa [hlength])] at he'
      obtain rfl : e = e' := List.mem_singleton.1 (List.mem_of_getElem? he') |>.symm
      have hmem : e ∈ encountered top found := by
        rw [h.met]
        exact List.mem_append_right _ List.mem_cons_self
      exact Nat.le_trans (rank_le_length e hmem) hi

/-- Every search goes on until no build waits. -/
theorem walk {queue : List BuildRef} (h : Progress root top found past pending)
    (hqueue : pending.map (·.2) = queue) :
    ∃ past', Progress root top (walk root found queue) past' [] := by
  fun_induction BuildRef.walk root found queue generalizing past pending with
  | case1 found =>
    obtain rfl := List.map_eq_nil_iff.1 hqueue
    exact ⟨past, h⟩
  | case2 found b queue hseen ih =>
    obtain ⟨e, pending, rfl, rfl, hrest⟩ := List.map_eq_cons_iff.1 hqueue
    rw [isNamedIn_iff] at hseen
    exact ih (h.skip hseen) hrest
  | case3 found b queue hnew ih =>
    obtain ⟨e, pending, rfl, rfl, hrest⟩ := List.map_eq_cons_iff.1 hqueue
    rw [isNamedIn_iff] at hnew
    refine ih (h.take hnew) ?_
    rw [List.map_append, hrest, List.map_map]
    simp [Function.comp_def]

/-! ### The end of a search -/

section Finished

variable (h : Progress root top found past [])
include h

theorem past_eq : past = encountered top found := by
  rw [h.met, List.append_nil]

/-- The found builds are the first of their names among those that the search has met. -/
theorem found_eq :
    found = firstsBy BuildRef.name root (top ++ found.flatMap BuildRef.included) := by
  have hfound := h.taken
  rw [h.past_eq] at hfound
  rw [← map_snd_encountered, firstsBy_map]
  exact hfound.symm

/-- Each found build is introduced where the search meets its name first, and that is not behind
it. -/
theorem exists_origins : ∃ origins : ℕ → Origin,
    (∀ i < found.length, IntroducedBy top found i (origins i) ∧ (origins i).rank ≤ i) ∧
    ∀ i j, i ≤ j → j < found.length → (origins i).rank ≤ (origins j).rank := by
  -- The first entry of each name stands at the position at which its build is found.
  set firsts := firstsBy (·.2.name) root past with hfirsts
  have hlength : firsts.length = found.length := by
    rw [← h.taken, List.length_map]
  have hsorted : firsts.Pairwise fun e e' => e.1.rank ≤ e'.1.rank := by
    refine List.Pairwise.sublist (firstsBy_sublist past) ?_
    rw [h.past_eq]
    exact encountered_sorted
  refine ⟨fun i => (firsts[i]?.map (·.1)).getD .top, fun i hi => ?_, fun i j hij hj => ?_⟩
  · have hi' : i < firsts.length := by rwa [hlength]
    have hfound : found[i] = firsts[i].2 := by
      simp only [← h.taken, List.getElem_map, hfirsts]
    have hget : firsts[i]? = some (firsts[i].1, found[i]) := by
      rw [List.getElem?_eq_getElem hi', hfound]
    simp only [hget, Option.map_some, Option.getD_some]
    refine ⟨⟨found[i], List.getElem?_eq_getElem hi, ?_⟩, h.earlier i (firsts[i].1, found[i]) hget⟩
    rw [← h.past_eq]
    exact find?_of_mem_firstsBy (List.mem_of_getElem? hget)
  · have hj' : j < firsts.length := by rwa [hlength]
    have hi' : i < firsts.length := Nat.lt_of_le_of_lt hij hj'
    simp only [List.getElem?_eq_getElem hi', List.getElem?_eq_getElem hj', Option.map_some,
      Option.getD_some]
    rcases Nat.eq_or_lt_of_le hij with rfl | hlt
    · exact Nat.le_refl _
    · exact List.pairwise_iff_getElem.1 hsorted i j hi' hj' hlt

/-- A search that has ended has found what it is to find. -/
theorem isSearch : IsSearch root top found := by
  obtain ⟨origins, horigins, hsorted⟩ := h.exists_origins
  -- Whatever the search meets, it finds its name, unless this is the root's.
  have hmem {n : String} : n ∈ found.map BuildRef.name ↔
      n ≠ root ∧ n ∈ (top ++ found.flatMap BuildRef.included).map BuildRef.name := by
    conv_lhs => rw [h.found_eq]
    exact mem_map_firstsBy
  refine ⟨?distinct, ?listed, ?included, ?reached, h.found_eq, ?levels⟩
  case distinct =>
    rw [h.found_eq]
    exact nodup_map_firstsBy _
  case listed =>
    intro b hb hne
    exact hmem.2 ⟨hne, List.mem_map_of_mem (List.mem_append_left _ hb)⟩
  case included =>
    intro r hr b hb hne
    refine hmem.2 ⟨hne, List.mem_map_of_mem (List.mem_append_right _ ?_)⟩
    exact List.mem_flatMap.2 ⟨r, hr, hb⟩
  case reached =>
    intro i hi
    obtain ⟨⟨b, hb, hfind⟩, hrank⟩ := horigins i hi
    obtain rfl : found[i] = b := Option.some.inj ((List.getElem?_eq_getElem hi).symm.trans hb)
    rcases mem_encountered.1 (List.mem_of_find?_eq_some hfind) with ⟨-, htop⟩ | ⟨j, hj, horigin, hb⟩
    · exact .inl htop
    · rw [horigin] at hrank
      exact .inr ⟨j, hrank, hb⟩
  case levels =>
    refine ⟨depthBy origins, fun i hi => ?_, fun i j hij hj => ?_⟩
    · obtain ⟨hintroduced, hrank⟩ := horigins i hi
      exact ⟨origins i, hintroduced, hrank, depthBy_eq hrank⟩
    · exact depthBy_mono (fun i hi => (horigins i hi).2) hsorted hij hj

end Finished

end Progress

/-! ## The steps of the search -/

theorem sizeOfAll_append (xs ys : List BuildRef) :
    sizeOfAll (xs ++ ys) = sizeOfAll xs + sizeOfAll ys := by
  induction xs with
  | nil => rw [List.nil_append, sizeOfAll, Nat.zero_add]
  | cons x rest ih => rw [List.cons_append, sizeOfAll, sizeOfAll, ih, Nat.add_assoc]

theorem sizeOfAll_cons (b : BuildRef) (rest : List BuildRef) :
    sizeOfAll (b :: rest) = sizeOfAll b.included + 1 + sizeOfAll rest := by
  cases b
  rw [sizeOfAll, size]

/-- One step of the search, on the found builds and those in the queue: the first build in the queue
is passed over or found.  Nothing happens if the queue is empty. -/
def step (root : String) : List BuildRef × List BuildRef → List BuildRef × List BuildRef
  | (found, []) => (found, [])
  | (found, b :: queue) =>
    if b.name = root ∨ isNamedIn b.name found then (found, queue)
    else (found ++ [b], queue ++ b.included)

theorem iterate_step_nil (root : String) (found : List BuildRef) (steps : ℕ) :
    (step root)^[steps] (found, []) = (found, []) :=
  Function.iterate_fixed rfl steps

/-- The search ends after at most as many steps as there are builds in the trees of the queue. -/
theorem iterate_step {root : String} {found queue : List BuildRef} {steps : ℕ}
    (hsteps : sizeOfAll queue ≤ steps) :
    (step root)^[steps] (found, queue) = (BuildRef.walk root found queue, []) := by
  fun_induction BuildRef.walk root found queue generalizing steps with
  | case1 found => exact iterate_step_nil root found steps
  | case2 found b queue hseen ih =>
    rw [sizeOfAll_cons] at hsteps
    obtain ⟨steps, rfl⟩ := Nat.exists_eq_succ_of_ne_zero (n := steps) (by omega)
    rw [Function.iterate_succ_apply, step, if_pos hseen]
    exact ih (by omega)
  | case3 found b queue hnew ih =>
    rw [sizeOfAll_cons] at hsteps
    obtain ⟨steps, rfl⟩ := Nat.exists_eq_succ_of_ne_zero (n := steps) (by omega)
    rw [Function.iterate_succ_apply, step, if_neg hnew]
    exact ih (by rw [sizeOfAll_append]; omega)

/-- The walk of a list of builds is a search. -/
theorem isSearch_walk (root : String) (top : List BuildRef) :
    IsSearch root top (walk root [] top) := by
  have hqueue : (top.map (Origin.top, ·)).map (·.2) = top := by
    simp [Function.comp_def]
  have hstart : Progress root top [] [] (top.map (Origin.top, ·)) := .start
  obtain ⟨past, h⟩ := hstart.walk hqueue
  exact h.isSearch

end BuildRef

namespace BuildGraph

/-- **What discovery returns.** If the included view is selected, it is what the search of the
included builds finds, and the search ends after no more steps than there are builds in their trees.
If the editable view is selected, it is the first build of each name but the root's. -/
theorem discover_selected_view (g : BuildGraph) (strategy : DiscoveryStrategy) (root : String) :
    (g.view strategy = .included →
      BuildRef.IsSearch root g.includedBuilds (g.discover strategy root) ∧
      ∀ steps, BuildRef.sizeOfAll g.includedBuilds ≤ steps →
        (BuildRef.step root)^[steps] ([], g.includedBuilds) = (g.discover strategy root, [])) ∧
    (g.view strategy = .editable →
      g.discover strategy root = BuildRef.firstsBy BuildRef.name root g.editableBuilds) := by
  unfold discover
  constructor
  · intro hview
    rw [hview]
    exact ⟨BuildRef.isSearch_walk root g.includedBuilds, fun _ => BuildRef.iterate_step⟩
  · intro hview
    rw [hview]
    exact BuildRef.firstOfEach_eq_firstsBy root g.editableBuilds

/-! ### Builds of one name -/

namespace SharedNames

/-- A build that includes others. -/
def including (name : String) (included : List BuildRef) : BuildRef := ⟨name, none, [], included⟩

/-- A graph with two builds of the name `tools`: one is listed and includes `lint`, the other is
included by the build before it and includes `docs`. -/
def graph : BuildGraph where
  includedBuilds := [including "core" [including "tools" [.ofName "docs"]],
    including "tools" [.ofName "lint"], .ofName "app"]
  editableBuilds := [.ofName "tools", .ofName "app", .ofName "core", including "tools" []]

/-- Discovery follows the build that it comes to first, which is the one that is listed. -/
theorem discover_graph :
    BuildRef.IsSearch "app" graph.includedBuilds (graph.discover .legacy "app") ∧
      graph.discover .legacy "app" =
        [including "core" [including "tools" [.ofName "docs"]],
          including "tools" [.ofName "lint"], .ofName "lint"] ∧
      graph.discover .preferEditable "app" = [.ofName "tools", .ofName "core"] := by
  obtain ⟨hsearch, hsteps⟩ := (discover_selected_view graph .legacy "app").1 rfl
  refine ⟨hsearch, ?_, ?_⟩
  · have hend := congrArg Prod.fst (hsteps 6 (by decide))
    exact hend.symm
  · rw [(discover_selected_view graph .preferEditable "app").2 rfl]
    rfl

end SharedNames

end BuildGraph

end CompositeBuild
