/-
# Reading written values

A value whose numbers are integers is read back from its text, in either layout (`readText_write`),
and its compact text is on one line (`newline_not_mem_write`).
-/
import CompositeBuild.Json.Writer
import CompositeBuild.Proofs.Json.Numerals
import CompositeBuild.Proofs.Json.Strings

namespace CompositeBuild.Json

/-! ## Values without doubles -/

mutual

/-- All numbers in a value are integers. -/
def IsIntegral : Json → Prop
  | number (.double _) => False
  | array items => ItemsIntegral items
  | object members => MembersIntegral members
  | _ => True

/-- All numbers in the items of an array are integers. -/
def ItemsIntegral : List Json → Prop
  | [] => True
  | item :: rest => item.IsIntegral ∧ ItemsIntegral rest

/-- All numbers in the members of an object are integers. -/
def MembersIntegral : List (String × Json) → Prop
  | [] => True
  | (_, value) :: rest => value.IsIntegral ∧ MembersIntegral rest

end

theorem itemsIntegral_iff {items : List Json} :
    ItemsIntegral items ↔ ∀ item ∈ items, item.IsIntegral := by
  induction items with
  | nil => simp [ItemsIntegral]
  | cons item rest ih => rw [ItemsIntegral, ih, List.forall_mem_cons]

theorem membersIntegral_iff {members : List (String × Json)} :
    MembersIntegral members ↔ ∀ member ∈ members, member.2.IsIntegral := by
  induction members with
  | nil => simp [MembersIntegral]
  | cons member rest ih => rw [MembersIntegral, ih, List.forall_mem_cons]

/-! ## Blanks -/

/-- A line break is blank. -/
theorem isBlanks_lineBreak (layout : Layout) (level : Nat) : IsBlanks (layout.lineBreak level) := by
  intro c hc
  cases layout with
  | compact => exact absurd hc List.not_mem_nil
  | pretty =>
    rcases List.mem_cons.1 hc with rfl | hc
    · rfl
    · rw [(List.mem_replicate.1 hc).2]
      rfl

/-- What follows an item ends a numeral. -/
theorem endsNumeral_writeItems (layout : Layout) (level : Nat) (items : List Json)
    {rest : List Char} (hrest : EndsNumeral rest) :
    EndsNumeral (writeItems layout level items ++ rest) := by
  cases items with
  | nil => exact hrest
  | cons item items =>
    intro c hc
    obtain rfl : ',' = c := by simpa [writeItems] using hc
    decide

/-- What follows a member ends a numeral. -/
theorem endsNumeral_writeMembers (layout : Layout) (level : Nat) (members : List (String × Json))
    {rest : List Char} (hrest : EndsNumeral rest) :
    EndsNumeral (writeMembers layout level members ++ rest) := by
  cases members with
  | nil => exact hrest
  | cons member members =>
    intro c hc
    obtain rfl : ',' = c := by simpa [writeMembers] using hc
    decide

/-- A closing bracket ends a numeral, after a line break or without one. -/
theorem endsNumeral_close (layout : Layout) (level : Nat) {c : Char} (hc : c = ']' ∨ c = '}')
    (rest : List Char) : EndsNumeral (layout.lineBreak level ++ c :: rest) := by
  apply endsNumeral_append (isBlanks_lineBreak layout level)
  intro c' hc'
  obtain rfl : c = c' := by simpa using hc'
  rcases hc with rfl | rfl <;> decide

/-- The text of a value starts with a character that is neither blank nor a closing bracket. -/
theorem exists_write_eq_cons (layout : Layout) (level : Nat) {v : Json} (hv : v.IsIntegral) :
    ∃ c cs, write layout level v = c :: cs ∧ isBlank c = false ∧ c ≠ ']' := by
  cases v with
  | null => exact ⟨'n', _, by rw [write], by decide, by decide⟩
  | bool value =>
    cases value with
    | true => exact ⟨'t', _, by rw [write], by decide, by decide⟩
    | false => exact ⟨'f', _, by rw [write], by decide, by decide⟩
  | number n =>
    cases n with
    | double x => exact hv.elim
    | integer value fits =>
      obtain ⟨c, cs, htext, hc⟩ := exists_integerText_eq_cons value
      refine ⟨c, cs, by rw [write, Number.text, htext], ?_⟩
      rcases hc with rfl | hdigit
      · decide
      · exact ⟨isBlank_of_isDigit hdigit, ne_of_isDigit hdigit ']' rfl⟩
  | string s => exact ⟨'"', _, by rw [write]; rfl, by decide, by decide⟩
  | array items =>
    cases items with
    | nil => exact ⟨'[', _, by rw [write], by decide, by decide⟩
    | cons item items => exact ⟨'[', _, by rw [write], by decide, by decide⟩
  | object members =>
    cases members with
    | nil => exact ⟨'{', _, by rw [write], by decide, by decide⟩
    | cons member members => exact ⟨'{', _, by rw [write], by decide, by decide⟩

/-! ## Steps of the reader -/

section Steps

variable {fuel : Nat} {bs cs mid rest : List Char}

theorem readNode_blanks (hbs : IsBlanks bs) : readNode fuel (bs ++ cs) = readNode fuel cs := by
  cases fuel <;> simp only [readNode, skipBlanks_append hbs]

theorem readItems_blanks (hbs : IsBlanks bs) (first : Bool) :
    readItems fuel first (bs ++ cs) = readItems fuel first cs := by
  cases fuel <;> simp only [readItems, skipBlanks_append hbs]

theorem readMembers_blanks (hbs : IsBlanks bs) (first : Bool) :
    readMembers fuel first (bs ++ cs) = readMembers fuel first cs := by
  cases fuel <;> simp only [readMembers, skipBlanks_append hbs]

theorem readMember_blanks (hbs : IsBlanks bs) :
    readMember fuel (bs ++ cs) = readMember fuel cs := by
  cases fuel <;> simp only [readMember, skipBlanks_append hbs]

/-- A string is read back from its quoted form. -/
theorem readNode_quote (s : String) :
    readNode (fuel + 1) (quote s.toList ++ rest) = (.string s, rest) := by
  have htext : quote s.toList ++ rest = '"' :: (s.toList.flatMap escape ++ '"' :: rest) := by
    simp [quote]
  rw [htext, readNode, skipBlanks_cons rfl]
  simp only [readString_quote]

theorem readNode_array {items : Items} (hitems : readItems fuel true cs = (items, rest)) :
    readNode (fuel + 1) ('[' :: cs) = (.array items, rest) := by
  rw [readNode, skipBlanks_cons rfl]
  simp only [hitems]

theorem readItems_close (first : Bool) :
    readItems (fuel + 1) first (']' :: rest) = (.done, rest) := by
  rw [readItems, skipBlanks_cons rfl]
  rfl

/-- The first item of an array starts with any other character. -/
theorem readItems_first {c : Char} (hc : isBlank c = false) (hclose : c ≠ ']') :
    readItems (fuel + 1) true (c :: cs) = readItem fuel (c :: cs) := by
  rw [readItems, skipBlanks_cons hc]
  split
  · rename_i heq
    exact absurd heq (List.cons_ne_nil c cs)
  · rename_i heq
    exact absurd (List.cons.inj heq).1 hclose
  · rename_i heq
    rw [if_pos rfl, heq]

theorem readItems_comma : readItems (fuel + 1) false (',' :: cs) = readItem fuel cs := by
  rw [readItems, skipBlanks_cons rfl]
  rfl

theorem readItem_eq {node : Node} {items : Items} (hnode : readNode fuel cs = (node, mid))
    (hitems : readItems fuel false mid = (items, rest)) :
    readItem (fuel + 1) cs = (.more node items, rest) := by
  simp only [readItem, hnode, hitems]

theorem readNode_object {members : Members}
    (hmembers : readMembers fuel true cs = (members, rest)) :
    readNode (fuel + 1) ('{' :: cs) = (.object members, rest) := by
  rw [readNode, skipBlanks_cons rfl]
  simp only [hmembers]

theorem readMembers_close (first : Bool) :
    readMembers (fuel + 1) first ('}' :: rest) = (.done, rest) := by
  rw [readMembers, skipBlanks_cons rfl]
  rfl

theorem readMembers_quote (key : List Char) :
    readMembers (fuel + 1) true (quote key ++ cs) = readMember fuel (quote key ++ cs) := by
  rw [quote, List.cons_append, readMembers, skipBlanks_cons rfl]
  rfl

theorem readMembers_comma : readMembers (fuel + 1) false (',' :: cs) = readMember fuel cs := by
  rw [readMembers, skipBlanks_cons rfl]
  rfl

/-- The value of a member stands behind a colon. -/
theorem readMemberValue_colon (layout : Layout) :
    readMemberValue (fuel + 1) (layout.colon ++ cs) = readNode fuel cs := by
  have hspace : IsBlanks [' '] := by simp [IsBlanks, isBlank]
  cases layout with
  | compact =>
    rw [Layout.colon, List.singleton_append, readMemberValue, skipBlanks_cons rfl]
    rfl
  | pretty =>
    rw [← readNode_blanks hspace, Layout.colon, List.cons_append, readMemberValue,
      skipBlanks_cons rfl]
    rfl

/-- A member and the members behind it. -/
theorem readMember_eq (layout : Layout) (key : String) {value : Node} {members : Members}
    (hvalue : readNode fuel cs = (value, mid))
    (hmembers : readMembers (fuel + 1) false mid = (members, rest)) :
    readMember (fuel + 2) (quote key.toList ++ (layout.colon ++ cs)) =
      (.more (some key) value members, rest) := by
  have htext : quote key.toList ++ (layout.colon ++ cs) =
      '"' :: (key.toList.flatMap escape ++ '"' :: (layout.colon ++ cs)) := by
    simp [quote]
  rw [htext, readMember, skipBlanks_cons rfl]
  simp only [readString_quote, readMemberValue_colon, hvalue, hmembers]

end Steps

/-! ## Reading what was written -/

-- The induction is on the value.  Four units of fuel for each character of its text are enough,
-- since between two characters the reader calls itself at most four times; the items behind the
-- first need one more, for the bracket that ends them, and so do the members.
mutual

/-- A value is read back from its text, if there is fuel for it and no numeral runs on behind it. -/
theorem readNode_write (layout : Layout) (level : Nat) (v : Json) (hv : v.IsIntegral) (fuel : Nat)
    (hfuel : 4 * (write layout level v).length ≤ fuel) {rest : List Char}
    (hrest : EndsNumeral rest) :
    readNode fuel (write layout level v ++ rest) = (v.toNode, rest) := by
  match v with
  | .null =>
    rw [write] at hfuel ⊢
    obtain ⟨fuel, rfl⟩ := Nat.exists_eq_add_of_le' (Nat.le_trans (by decide : 1 ≤ 4 * 4) hfuel)
    rfl
  | .bool true =>
    rw [write] at hfuel ⊢
    obtain ⟨fuel, rfl⟩ := Nat.exists_eq_add_of_le' (Nat.le_trans (by decide : 1 ≤ 4 * 4) hfuel)
    rfl
  | .bool false =>
    rw [write] at hfuel ⊢
    obtain ⟨fuel, rfl⟩ := Nat.exists_eq_add_of_le' (Nat.le_trans (by decide : 1 ≤ 4 * 5) hfuel)
    rfl
  | .number (.integer value fits) =>
    obtain ⟨c, cs, hc, -⟩ := exists_integerText_eq_cons value
    rw [write, Number.text] at hfuel ⊢
    have hlength := congrArg List.length hc
    rw [List.length_cons] at hlength
    obtain ⟨fuel, rfl⟩ := Nat.exists_eq_add_of_le' (by omega : 1 ≤ fuel)
    exact readNode_integerText fits fuel hrest
  | .string s =>
    rw [write] at hfuel ⊢
    have hlength : 0 < (quote s.toList).length := Nat.succ_pos _
    obtain ⟨fuel, rfl⟩ := Nat.exists_eq_add_of_le' (by omega : 1 ≤ fuel)
    exact readNode_quote s
  | .array [] =>
    rw [write] at hfuel ⊢
    obtain ⟨fuel, rfl⟩ := Nat.exists_eq_add_of_le' (Nat.le_trans (by decide : 2 ≤ 4 * 2) hfuel)
    exact readNode_array (readItems_close true)
  | .array (item :: items) =>
    obtain ⟨hitem, hitems⟩ := hv
    -- The text in the parts that the reader goes through, one step lemma for each.
    have htext : write layout level (.array (item :: items)) ++ rest =
        '[' :: (layout.lineBreak (level + 1) ++ (write layout (level + 1) item ++
          (writeItems layout (level + 1) items ++ (layout.lineBreak level ++ ']' :: rest)))) := by
      rw [write]
      simp
    have hlength := congrArg List.length htext
    simp only [List.length_cons, List.length_append] at hlength
    obtain ⟨fuel, rfl⟩ := Nat.exists_eq_add_of_le' (by omega : 3 ≤ fuel)
    obtain ⟨c, cs, hc, hblank, hbracket⟩ := exists_write_eq_cons layout (level + 1) hitem
    have hfirst := readNode_write layout (level + 1) item hitem fuel (by omega)
      (endsNumeral_writeItems layout (level + 1) items
        (endsNumeral_close layout level (.inl rfl) rest))
    have hmore := readItems_writeItems layout (level + 1) items hitems fuel (by omega)
      (isBlanks_lineBreak layout level) rest
    rw [htext]
    apply readNode_array
    rw [readItems_blanks (isBlanks_lineBreak layout (level + 1)), hc, List.cons_append,
      readItems_first hblank hbracket, ← List.cons_append, ← hc]
    exact readItem_eq hfirst hmore
  | .object [] =>
    rw [write] at hfuel ⊢
    obtain ⟨fuel, rfl⟩ := Nat.exists_eq_add_of_le' (Nat.le_trans (by decide : 2 ≤ 4 * 2) hfuel)
    exact readNode_object (readMembers_close true)
  | .object ((key, value) :: members) =>
    obtain ⟨hvalue, hmembers⟩ := hv
    have htext : write layout level (.object ((key, value) :: members)) ++ rest =
        '{' :: (layout.lineBreak (level + 1) ++ (quote key.toList ++ (layout.colon ++
          (write layout (level + 1) value ++ (writeMembers layout (level + 1) members ++
            (layout.lineBreak level ++ '}' :: rest)))))) := by
      rw [write]
      simp
    have hlength := congrArg List.length htext
    simp only [List.length_cons, List.length_append] at hlength
    obtain ⟨fuel, rfl⟩ := Nat.exists_eq_add_of_le' (by omega : 4 ≤ fuel)
    have hfirst := readNode_write layout (level + 1) value hvalue fuel (by omega)
      (endsNumeral_writeMembers layout (level + 1) members
        (endsNumeral_close layout level (.inr rfl) rest))
    have hmore := readMembers_writeMembers layout (level + 1) members hmembers (fuel + 1) (by omega)
      (isBlanks_lineBreak layout level) rest
    rw [htext]
    apply readNode_object
    rw [readMembers_blanks (isBlanks_lineBreak layout (level + 1)), readMembers_quote]
    exact readMember_eq layout key hfirst hmore

/-- The items behind the first are read back, up to the bracket behind them. -/
theorem readItems_writeItems (layout : Layout) (level : Nat) (items : List Json)
    (hitems : ItemsIntegral items) (fuel : Nat)
    (hfuel : 4 * (writeItems layout level items).length < fuel) {bs : List Char}
    (hbs : IsBlanks bs) (rest : List Char) :
    readItems fuel false (writeItems layout level items ++ (bs ++ ']' :: rest)) =
      (itemsToNode items, rest) := by
  match items with
  | [] =>
    rw [writeItems] at hfuel ⊢
    obtain ⟨fuel, rfl⟩ := Nat.exists_eq_add_of_le' (Nat.succ_le_of_lt hfuel)
    rw [List.nil_append, readItems_blanks hbs]
    exact readItems_close false
  | item :: items =>
    obtain ⟨hitem, hitems⟩ := hitems
    have htext : writeItems layout level (item :: items) ++ (bs ++ ']' :: rest) =
        ',' :: (layout.lineBreak level ++ (write layout level item ++
          (writeItems layout level items ++ (bs ++ ']' :: rest)))) := by
      rw [writeItems]
      simp
    have hlength := congrArg List.length htext
    simp only [List.length_cons, List.length_append] at hlength
    obtain ⟨fuel, rfl⟩ := Nat.exists_eq_add_of_le' (by omega : 2 ≤ fuel)
    have hclose : EndsNumeral (bs ++ ']' :: rest) :=
      endsNumeral_append hbs (endsNumeral_close .compact level (.inl rfl) rest)
    have hfirst := readNode_write layout level item hitem fuel (by omega)
      (endsNumeral_writeItems layout level items hclose)
    have hmore := readItems_writeItems layout level items hitems fuel (by omega) hbs rest
    rw [htext, readItems_comma]
    apply readItem_eq _ hmore
    rwa [readNode_blanks (isBlanks_lineBreak layout level)]

/-- The members behind the first are read back, up to the brace behind them. -/
theorem readMembers_writeMembers (layout : Layout) (level : Nat) (members : List (String × Json))
    (hmembers : MembersIntegral members) (fuel : Nat)
    (hfuel : 4 * (writeMembers layout level members).length < fuel) {bs : List Char}
    (hbs : IsBlanks bs) (rest : List Char) :
    readMembers fuel false (writeMembers layout level members ++ (bs ++ '}' :: rest)) =
      (membersToNode members, rest) := by
  match members with
  | [] =>
    rw [writeMembers] at hfuel ⊢
    obtain ⟨fuel, rfl⟩ := Nat.exists_eq_add_of_le' (Nat.succ_le_of_lt hfuel)
    rw [List.nil_append, readMembers_blanks hbs]
    exact readMembers_close false
  | (key, value) :: members =>
    obtain ⟨hvalue, hmembers⟩ := hmembers
    have htext : writeMembers layout level ((key, value) :: members) ++ (bs ++ '}' :: rest) =
        ',' :: (layout.lineBreak level ++ (quote key.toList ++ (layout.colon ++
          (write layout level value ++ (writeMembers layout level members ++
            (bs ++ '}' :: rest)))))) := by
      rw [writeMembers]
      simp
    have hlength := congrArg List.length htext
    simp only [List.length_cons, List.length_append] at hlength
    obtain ⟨fuel, rfl⟩ := Nat.exists_eq_add_of_le' (by omega : 3 ≤ fuel)
    have hclose : EndsNumeral (bs ++ '}' :: rest) :=
      endsNumeral_append hbs (endsNumeral_close .compact level (.inr rfl) rest)
    have hfirst := readNode_write layout level value hvalue fuel (by omega)
      (endsNumeral_writeMembers layout level members hclose)
    have hmore :=
      readMembers_writeMembers layout level members hmembers (fuel + 1) (by omega) hbs rest
    rw [htext, readMembers_comma, readMember_blanks (isBlanks_lineBreak layout level)]
    exact readMember_eq layout key hfirst hmore

end

/-- **A written value is read back**, in either layout, if no numeral runs on behind it. -/
theorem readText_write (layout : Layout) {v : Json} (hv : v.IsIntegral) {rest : List Char}
    (hrest : EndsNumeral rest) : readText (write layout 0 v ++ rest) = (v.toNode, rest) := by
  unfold readText
  apply readNode_write layout 0 v hv _ _ hrest
  rw [List.length_append]
  omega

/-! ## Single lines -/

/-- An integer is written without a line break. -/
theorem newline_not_mem_integerText (value : Int) : '\n' ∉ Number.integerText value := by
  have hdigits (n : Nat) : '\n' ∉ Nat.toDigits 10 n := fun h =>
    ne_of_isDigit (Nat.isDigit_of_mem_toDigits (by decide) (by decide) h) '\n' rfl rfl
  cases value with
  | ofNat n => exact hdigits n
  | negSucc n => simpa [Number.integerText] using hdigits (n + 1)

mutual

/-- **The compact text of a value is on one line.** -/
theorem newline_not_mem_write (level : Nat) (v : Json) (hv : v.IsIntegral) :
    '\n' ∉ write .compact level v := by
  match v with
  | .null | .bool true | .bool false | .array [] | .object [] => simp [write]
  | .number (.integer value fits) =>
    rw [write, Number.text]
    exact newline_not_mem_integerText value
  | .string s =>
    rw [write]
    exact newline_not_mem_quote s.toList
  | .array (item :: items) =>
    have hfirst := newline_not_mem_write (level + 1) item hv.1
    have hmore := newline_not_mem_writeItems (level + 1) items hv.2
    simp [write, Layout.lineBreak, hfirst, hmore]
  | .object ((key, value) :: members) =>
    have hkey := newline_not_mem_quote key.toList
    have hfirst := newline_not_mem_write (level + 1) value hv.1
    have hmore := newline_not_mem_writeMembers (level + 1) members hv.2
    simp [write, Layout.lineBreak, Layout.colon, hkey, hfirst, hmore]

/-- The compact text of the items behind the first is on one line. -/
theorem newline_not_mem_writeItems (level : Nat) (items : List Json)
    (hitems : ItemsIntegral items) :
    '\n' ∉ writeItems .compact level items := by
  match items with
  | [] => simp [writeItems]
  | item :: items =>
    have hfirst := newline_not_mem_write level item hitems.1
    have hmore := newline_not_mem_writeItems level items hitems.2
    simp [writeItems, Layout.lineBreak, hfirst, hmore]

/-- The compact text of the members behind the first is on one line. -/
theorem newline_not_mem_writeMembers (level : Nat) (members : List (String × Json))
    (hmembers : MembersIntegral members) : '\n' ∉ writeMembers .compact level members := by
  match members with
  | [] => simp [writeMembers]
  | (key, value) :: members =>
    have hkey := newline_not_mem_quote key.toList
    have hfirst := newline_not_mem_write level value hmembers.1
    have hmore := newline_not_mem_writeMembers level members hmembers.2
    simp [writeMembers, Layout.lineBreak, Layout.colon, hkey, hfirst, hmore]

end

end CompositeBuild.Json
