import Adwf.JsonText.RoundTrip

/-!
# Indented JSON text

`json.dumps` with an indent puts every item on a line of its own.  The loader
reads such a text back: each part is described by the fuel that reading it
needs, and the parts are put together to lists and objects.
-/

namespace Adwf.JsonText

variable (depth : Nat)

/-- The start of a line inside so many brackets. -/
def newline : List Char :=
  '\n' :: List.replicate (2 * depth) ' '

/-- Written items, each on its line. -/
def joinItems (depth : Nat) : List (List Char) → List Char
  | [] => []
  | [item] => item
  | item :: next :: items => item ++ ',' :: (newline depth ++ joinItems depth (next :: items))

/-- A list inside so many brackets. -/
def indentedList (items : List (List Char)) : List Char :=
  if items = [] then "[]".toList
  else '[' :: (newline (depth + 1) ++ joinItems (depth + 1) items ++ newline depth ++ [']'])

/-- A member and its value. -/
def indentedMember (mem : String × List Char) : List Char :=
  renderText false mem.1 ++ ':' :: ' ' :: mem.2

/-- An object with a member inside so many brackets. -/
def indentedObject (members : List (String × List Char)) : List Char :=
  '\x7b' :: (newline (depth + 1) ++ joinItems (depth + 1) (members.map indentedMember) ++
    newline depth ++ ['\x7d'])

variable {floats : Floats} {rest : List Char}

theorem skipBlanks_newline {char : Char} (solid : isBlank char = false) :
    skipBlanks (newline depth ++ char :: rest) = char :: rest := by
  have blanks : ∀ char ∈ newline depth, isBlank char = true := by
    intro char inside
    rcases List.mem_cons.mp inside with rfl | inside
    · rfl
    · rw [List.eq_of_mem_replicate inside]
      rfl
  rw [skipBlanks, List.dropWhile_append_of_pos blanks]
  exact skipBlanks_cons solid rest

/-- The text starts a value, and with the fuel it is read as the value. -/
structure ReadAs (floats : Floats) (fuel : Nat) (text : List Char) (value : Value) : Prop where
  read : ∀ more rest, fuel ≤ more → Stops rest →
    readValue floats more (text ++ rest) = .ok (value, rest)
  solid : ∃ first after, text = first :: after ∧ isBlank first = false ∧ first ≠ ']'

namespace ReadAs

variable {fuel : Nat} {text : List Char} {value : Value}

theorem mono {more : Nat} (readAs : ReadAs floats fuel text value) (enough : fuel ≤ more) :
    ReadAs floats more text value :=
  ⟨fun other rest least => readAs.read other rest (Nat.le_trans enough least), readAs.solid⟩

theorem skip (readAs : ReadAs floats fuel text value) (depth : Nat) :
    skipBlanks (newline depth ++ (text ++ rest)) = text ++ rest := by
  rcases readAs.solid with ⟨first, after, rfl, solid, _⟩
  exact skipBlanks_newline depth solid

theorem str (text : String) : ReadAs floats 1 (renderText false text) (.str text) where
  read := by
    intro more rest enough _
    rcases Nat.exists_eq_add_of_le' enough with ⟨fuel, rfl⟩
    rw [renderText, List.cons_append, readValue, List.append_assoc, List.singleton_append,
      readText_renderText]
    rfl
  solid := ⟨'"', _, rfl, rfl, by decide⟩

theorem int (value : Int) : ReadAs floats 1 (renderInt value) (.int value) where
  read := by
    intro more rest enough stops
    rcases Nat.exists_eq_add_of_le' enough with ⟨fuel, rfl⟩
    rcases exists_render_eq_cons (compact false) (.int value) with ⟨first, after, written, _⟩
    rw [render] at written
    exact readValue_token fuel (by simp [written])
      isTokenChar_of_mem_renderInt stops (readToken_renderInt value)
  solid := by
    rcases exists_render_eq_cons (compact false) (.int value) with ⟨first, after, written, solid⟩
    rw [render] at written
    exact ⟨first, after, written, solid⟩

end ReadAs

/-! ## Items on lines -/

theorem stops_newline (rest : List Char) : Stops (newline depth ++ rest) :=
  stops_cons rfl _

theorem skipBlanks_comma (chars : List Char) : skipBlanks (',' :: chars) = ',' :: chars :=
  skipBlanks_cons rfl chars

theorem joinItems_cons (item : List Char) (items : List (List Char)) :
    ∃ after, joinItems depth (item :: items) = item ++ after := by
  cases items with
  | nil => exact ⟨[], (List.append_nil item).symm⟩
  | cons next items => exact ⟨_, rfl⟩

section Steps

variable {fuel : Nat} {chars next : List Char} {items : List Value} {fields : Members}

theorem readValue_list_of_skip (skipped : skipBlanks chars = next) (notEnd : next.head? ≠ some ']')
    (read : readItems floats fuel next = .ok (items, rest)) :
    readValue floats (fuel + 1) ('[' :: chars) = .ok (.list items, rest) := by
  simp only [readValue, skipped]
  split
  · exact absurd rfl notEnd
  · rw [read]
    rfl

theorem readValue_dict_of_skip (skipped : skipBlanks chars = '"' :: next)
    (read : readMembers floats fuel ('"' :: next) = .ok (fields, rest))
    (distinct : (fields.map Prod.fst).Nodup) :
    readValue floats (fuel + 1) ('\x7b' :: chars) = .ok (.dictOf fields, rest) := by
  have object : objectOf fields = .ok (.dictOf fields) := by
    rw [objectOf, repeatedKey_eq_none distinct fun _ _ => List.not_mem_nil]
  simp only [readValue, skipped]
  split
  next same => simp at same
  next =>
    rw [read, Fallible.ok_bind]
    dsimp only
    rw [object]
    rfl

end Steps

section Lists

variable {fuel : Nat}

theorem readItems_joinItems {texts : List (List Char)} {values : List Value}
    (readsAs : List.Forall₂ (ReadAs floats fuel) texts values) (some : texts ≠ []) (depth : Nat)
    (more : Nat) (enough : texts.length + fuel ≤ more) :
    readItems floats more (joinItems (depth + 1) texts ++ (newline depth ++ ']' :: rest)) =
      .ok (values, rest) := by
  induction readsAs generalizing more with
  | nil => exact absurd rfl some
  | @cons text value texts values readAs others ih =>
      rw [List.length_cons] at enough
      rcases Nat.exists_eq_add_of_le' (show 1 ≤ more by omega) with ⟨left, rfl⟩
      cases others with
      | nil =>
          have read := readAs.read left (newline depth ++ ']' :: rest) (by omega)
            (stops_newline depth _)
          have skipped : skipBlanks (newline depth ++ ']' :: rest) = ']' :: rest :=
            skipBlanks_newline depth rfl
          rw [joinItems, readItems, read, Fallible.ok_bind]
          dsimp only
          rw [skipped]
          rfl
      | @cons next following texts values nextReadAs others =>
          have later := ih (List.cons_ne_nil _ _) left (by omega)
          have read := readAs.read left
            (',' :: (newline (depth + 1) ++ (joinItems (depth + 1) (next :: texts) ++
              (newline depth ++ ']' :: rest)))) (by omega) (stops_cons rfl _)
          have skipped : skipBlanks (newline (depth + 1) ++
              (joinItems (depth + 1) (next :: texts) ++ (newline depth ++ ']' :: rest))) =
              joinItems (depth + 1) (next :: texts) ++ (newline depth ++ ']' :: rest) := by
            rcases joinItems_cons (depth + 1) next texts with ⟨after, same⟩
            rw [same, List.append_assoc]
            exact nextReadAs.skip (depth + 1)
          rw [joinItems, List.append_assoc, List.cons_append, List.append_assoc, readItems, read,
            Fallible.ok_bind]
          dsimp only
          rw [skipBlanks_comma]
          simp only [skipped, later]
          rfl

theorem ReadAs.list {texts : List (List Char)} {values : List Value}
    (readsAs : List.Forall₂ (ReadAs floats fuel) texts values) (depth : Nat) :
    ReadAs floats (texts.length + fuel + 1) (indentedList depth texts) (.list values) := by
  have bracket : isBlank '[' = false ∧ '[' ≠ ']' := by decide
  cases readsAs with
  | nil =>
      refine ⟨?_, '[', _, rfl, bracket⟩
      intro more rest enough _
      rcases Nat.exists_eq_add_of_le' (show 1 ≤ more by omega) with ⟨left, rfl⟩
      rfl
  | @cons text value texts values readAs others =>
      have some : text :: texts ≠ [] := List.cons_ne_nil _ _
      rw [indentedList, if_neg some]
      refine ⟨?_, '[', _, rfl, bracket⟩
      intro more rest enough _
      rcases Nat.exists_eq_add_of_le' (show 1 ≤ more by omega) with ⟨left, rfl⟩
      have items := @readItems_joinItems _ rest _ _ _ (.cons readAs others) some depth left (by omega)
      rcases joinItems_cons (depth + 1) text texts with ⟨after, same⟩
      rcases readAs.solid with ⟨first, tail, isText, _, notEnd⟩
      rw [List.cons_append, List.append_assoc, List.append_assoc, List.append_assoc,
        List.singleton_append]
      refine readValue_list_of_skip ?_ ?_ items
      · rw [same, List.append_assoc]
        exact readAs.skip (depth + 1)
      · rw [same, isText]
        simpa using notEnd

end Lists

section Objects

variable {fuel : Nat}

/-- The member's value is read with the fuel. -/
def MemberReadAs (floats : Floats) (fuel : Nat) (mem : String × List Char)
    (field : String × Value) : Prop :=
  mem.1 = field.1 ∧ ReadAs floats fuel mem.2 field.2

theorem readMembers_joinItems {members : List (String × List Char)} {fields : Members}
    (readsAs : List.Forall₂ (MemberReadAs floats fuel) members fields) (some : members ≠ [])
    (depth : Nat) (more : Nat) (enough : members.length + fuel ≤ more) :
    readMembers floats more (joinItems (depth + 1) (members.map indentedMember) ++
      (newline depth ++ '\x7d' :: rest)) = .ok (fields, rest) := by
  induction readsAs generalizing more with
  | nil => exact absurd rfl some
  | @cons mem field members fields readAs others ih =>
      rcases mem with ⟨key, text⟩
      rcases field with ⟨name, value⟩
      rcases readAs with ⟨rfl, readAs⟩
      rw [List.length_cons] at enough
      rcases Nat.exists_eq_add_of_le' (show 1 ≤ more by omega) with ⟨left, rfl⟩
      have colon (chars : List Char) : skipBlanks (':' :: chars) = ':' :: chars :=
        skipBlanks_cons rfl chars
      have blank (rest : List Char) : skipBlanks (' ' :: (text ++ rest)) = text ++ rest := by
        rcases readAs.solid with ⟨first, after, rfl, solid, _⟩
        exact skipBlanks_cons solid _
      cases others with
      | nil =>
          have read := readAs.read left (newline depth ++ '\x7d' :: rest) (by omega)
            (stops_newline depth _)
          have skipped : skipBlanks (newline depth ++ '\x7d' :: rest) = '\x7d' :: rest :=
            skipBlanks_newline depth rfl
          simp only [List.map_cons, List.map_nil, joinItems, indentedMember, renderText,
            List.cons_append, List.append_assoc, List.nil_append, readMembers,
            readText_renderText, Fallible.ok_bind, colon, blank, read, skipped]
          rfl
      | @cons next following members fields nextReadAs others =>
          have later := ih (List.cons_ne_nil _ _) left (by omega)
          have read := readAs.read left
            (',' :: (newline (depth + 1) ++ (joinItems (depth + 1)
              ((next :: members).map indentedMember) ++ (newline depth ++ '\x7d' :: rest))))
            (by omega) (stops_cons rfl _)
          have skipped : skipBlanks (newline (depth + 1) ++ (joinItems (depth + 1)
              ((next :: members).map indentedMember) ++ (newline depth ++ '\x7d' :: rest))) =
              joinItems (depth + 1) ((next :: members).map indentedMember) ++
                (newline depth ++ '\x7d' :: rest) := by
            rcases joinItems_cons (depth + 1) (indentedMember next) (members.map indentedMember)
              with ⟨after, same⟩
            rw [List.map_cons, same, List.append_assoc]
            exact skipBlanks_newline (depth + 1) rfl
          have joined : joinItems (depth + 1) (((key, text) :: next :: members).map indentedMember) =
              indentedMember (key, text) ++ ',' :: (newline (depth + 1) ++
                joinItems (depth + 1) ((next :: members).map indentedMember)) := rfl
          rw [joined]
          simp only [indentedMember, renderText, List.cons_append, List.append_assoc,
            List.nil_append, readMembers, readText_renderText, Fallible.ok_bind, colon, blank]
          simp only [read, Fallible.ok_bind, skipBlanks_comma, skipped, later]
          rfl

theorem ReadAs.object {members : List (String × List Char)} {fields : Members}
    (readsAs : List.Forall₂ (MemberReadAs floats fuel) members fields) (some : members ≠ [])
    (distinct : (fields.map Prod.fst).Nodup) (depth : Nat) :
    ReadAs floats (members.length + fuel + 1) (indentedObject depth members) (.dictOf fields) := by
  refine ⟨?_, '\x7b', _, rfl, by decide⟩
  intro more rest enough _
  rcases Nat.exists_eq_add_of_le' (show 1 ≤ more by omega) with ⟨left, rfl⟩
  have read := @readMembers_joinItems _ rest _ _ _ readsAs some depth left (by omega)
  rcases List.exists_cons_of_ne_nil some with ⟨mem, others, rfl⟩
  have starts : ∃ next, joinItems (depth + 1) ((mem :: others).map indentedMember) ++
      (newline depth ++ '\x7d' :: rest) = '"' :: next := by
    rcases joinItems_cons (depth + 1) (indentedMember mem) (others.map indentedMember) with
      ⟨after, same⟩
    exact ⟨_, by rw [List.map_cons, same, indentedMember, renderText]; rfl⟩
  rcases starts with ⟨next, starts⟩
  rw [starts] at read
  rw [indentedObject, List.cons_append, List.append_assoc, List.append_assoc, List.append_assoc,
    List.singleton_append, starts]
  exact readValue_dict_of_skip (skipBlanks_newline (depth + 1) rfl) read distinct

end Objects

/-- The loader reads a whole text with a line end after it. -/
theorem loads_of_readAs {fuel : Nat} {text : List Char} {value : Value}
    (readAs : ReadAs floats fuel text value) (enough : fuel ≤ text.length + 2) :
    loads floats (text ++ ['\n']) = .ok value := by
  have start : skipBlanks (text ++ ['\n']) = text ++ ['\n'] := by
    rcases readAs.solid with ⟨first, after, rfl, solid, _⟩
    exact skipBlanks_cons solid _
  have read := readAs.read ((text ++ ['\n']).length + 1) ['\n']
    (by rw [List.length_append]; exact enough) (stops_cons rfl [])
  rw [loads, start, read]
  rfl

end Adwf.JsonText
