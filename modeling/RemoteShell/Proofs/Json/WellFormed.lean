import RemoteShell.Json.Reader

/-!
# Values in which every object has each key once

The members of an object are in the order of their keys, each key once, at any depth. Whatever is read from a text is
such a value, whatever keys the text repeats, and so is whatever is made from pairs of keys and such values.

Main statements:

* `isWellFormed_ofMembers`: what is made from pairs.
* `isWellFormed_parse`: what is read from a text.
-/

namespace RemoteShell.Json

/-- **A value in which every object has each key once,** in the order of the keys. -/
inductive IsWellFormed : Json → Prop
  | null : IsWellFormed .null
  | bool (flag : Bool) : IsWellFormed (.bool flag)
  | int (number : Int) : IsWellFormed (.int number)
  | real (negative : Bool) (magnitude : Decimal.Binary) : IsWellFormed (.real negative magnitude)
  | str (text : String) : IsWellFormed (.str text)
  | arr {items : List Json} (hitems : ∀ item ∈ items, IsWellFormed item) : IsWellFormed (.arr items)
  | obj {members : List (String × Json)} (hsorted : Dict.Sorted members)
      (hvalues : ∀ entry ∈ members, IsWellFormed entry.2) : IsWellFormed (.obj members)

attribute [simp] IsWellFormed.null IsWellFormed.bool IsWellFormed.int IsWellFormed.real IsWellFormed.str

theorem IsWellFormed.sorted {members : Dict Json} (h : IsWellFormed (.obj members)) : Dict.Sorted members := by
  cases h with
  | obj hsorted _ => exact hsorted

theorem IsWellFormed.values {members : Dict Json} (h : IsWellFormed (.obj members)) :
    ∀ entry ∈ members, entry.2.IsWellFormed := by
  cases h with
  | obj _ hvalues => exact hvalues

theorem IsWellFormed.get? {value member : Json} (h : value.IsWellFormed) {key : String}
    (hmember : value.get? key = some member) : member.IsWellFormed := by
  cases h with
  | obj _ hvalues => exact hvalues _ (Dict.mem_of_find? hmember)
  | _ => simp [Json.get?] at hmember

/-- A member is given a value. -/
theorem IsWellFormed.insert {members : Dict Json} (h : IsWellFormed (.obj members)) (key : String) {value : Json}
    (hvalue : value.IsWellFormed) : IsWellFormed (.obj (Dict.insert key value members)) := by
  refine .obj (Dict.sorted_insert h.sorted) ?_
  rintro entry hentry
  rcases Dict.mem_insert hentry with rfl | hentry
  · exact hvalue
  · exact h.values entry hentry

/-- What is made from pairs of keys and values. -/
theorem isWellFormed_ofMembers {members : List (String × Json)} (h : ∀ entry ∈ members, entry.2.IsWellFormed) :
    (ofMembers members).IsWellFormed :=
  .obj (Dict.sorted_ofList members) fun entry hentry => h entry (Dict.mem_ofList hentry)

@[simp]
theorem isWellFormed_ofText? (text : Option String) : (ofText? text).IsWellFormed := by
  cases text <;> simp [ofText?]

@[simp]
theorem isWellFormed_ofBool? (flag : Option Bool) : (ofBool? flag).IsWellFormed := by
  cases flag <;> simp [ofBool?]

@[simp]
theorem isWellFormed_ofInt? (number : Option Int) : (ofInt? number).IsWellFormed := by
  cases number <;> simp [ofInt?]

@[simp]
theorem isWellFormed_ofTexts (texts : List String) : (ofTexts texts).IsWellFormed :=
  .arr (by simp)

/-! ## What is read -/

/-- **What comes of reading a value:** a fault, or a value with each key once. -/
inductive ReadsWellFormed : Except Fault.At (Json × Cursor) → Prop
  | error (fault : Fault.At) : ReadsWellFormed (.error fault)
  | ok {value : Json} (h : value.IsWellFormed) (after : Cursor) : ReadsWellFormed (.ok (value, after))

theorem ReadsWellFormed.value {value : Json} {after : Cursor} (h : ReadsWellFormed (.ok (value, after))) :
    value.IsWellFormed := by
  cases h with
  | ok h _ => exact h

theorem readsWellFormed_bind {first : Except Fault.At α} {next : α → Except Fault.At (Json × Cursor)}
    (h : ∀ got, first = .ok got → ReadsWellFormed (next got)) : ReadsWellFormed (first >>= next) := by
  cases first with
  | error fault => exact .error fault
  | ok got => exact h got rfl

theorem readsWellFormed_realOf (negative : Bool) (digits : Nat) (exponent : Int) (cur : Cursor) :
    ReadsWellFormed (realOf negative digits exponent cur) := by
  fun_cases realOf with
  | case1 | case2 => exact .ok (.real ..) _
  | case3 => exact .error _

theorem readsWellFormed_readExponent (negative : Bool) (digits : Nat) (shift : Int) (cur : Cursor) :
    ReadsWellFormed (readExponent negative digits shift cur) := by
  fun_cases readExponent with
  | case1 | case2 | case3 => exact .error _
  | case4 => exact .ok (.real ..) _
  | case5 => exact readsWellFormed_realOf ..

theorem readsWellFormed_readReal (negative : Bool) (digits : Nat) (shift : Int) (cur : Cursor) :
    ReadsWellFormed (readReal negative digits shift cur) := by
  fun_cases readReal with
  | case1 | case2 => exact readsWellFormed_readExponent ..
  | case3 => exact readsWellFormed_realOf ..

theorem readsWellFormed_readFraction (negative : Bool) (digits : Nat) (shift : Int) (cur : Cursor) :
    ReadsWellFormed (readFraction negative digits shift cur) := by
  fun_cases readFraction with
  | case1 => exact .error _
  | case2 => exact readsWellFormed_readReal ..

theorem isWellFormed_wholeOf (negative : Bool) (number : Nat) : (wholeOf negative number).IsWellFormed := by
  fun_cases wholeOf with
  | case1 => exact .int _
  | case2 => exact .real ..
  | case3 => exact .int _

theorem readsWellFormed_readNumber (negative : Bool) (cur : Cursor) : ReadsWellFormed (readNumber negative cur) := by
  fun_cases readNumber with
  | case1 | case2 | case3 => exact .error _
  | case4 => exact readsWellFormed_readFraction ..
  | case5 | case6 => exact readsWellFormed_readReal ..
  | case7 => exact .ok (isWellFormed_wholeOf ..) _
  | case8 => exact readsWellFormed_realOf ..

section Nested

variable {read : Cursor → Except Fault.At (Json × Cursor)}

theorem readsWellFormed_readItems (hread : ∀ cur, ReadsWellFormed (read cur)) (bound : Nat) (isFirst : Bool)
    {taken : List Json} (htaken : ∀ item ∈ taken, item.IsWellFormed) (cur : Cursor) :
    ReadsWellFormed (readItems read bound isFirst taken cur) := by
  induction bound generalizing isFirst taken cur with
  | zero => exact .error _
  | succ bound ih =>
      -- One more item, and the rest of the list.
      have hnext : ∀ cur, ReadsWellFormed (read cur >>= fun got =>
          readItems read bound false (got.1 :: taken) got.2) := by
        intro cur
        refine readsWellFormed_bind ?_
        rintro ⟨item, after⟩ hitem
        exact ih false (List.forall_mem_cons.mpr ⟨hitem ▸ hread cur |>.value, htaken⟩) after
      unfold readItems
      dsimp only
      split
      · exact .error _
      · split
        · exact .ok (.arr (by simpa using htaken)) _
        · split
          · exact hnext _
          · split
            · split
              · exact .error _
              · exact .error _
              · exact hnext _
            · exact .error _

/-- The value of a member has each key once. -/
theorem isWellFormed_readMember (hread : ∀ cur, ReadsWellFormed (read cur)) {cur after : Cursor} {key : String}
    {value : Json} (h : readMember read cur = .ok ((key, value), after)) : value.IsWellFormed := by
  unfold readMember at h
  cases hkey : readText cur with
  | error fault => simp [hkey, bind, Except.bind] at h
  | ok behindKey =>
      simp only [hkey, bind, Except.bind] at h
      split at h
      · cases h
      · split at h
        · split at h
          · cases h
          · rename_i got hgot
            cases h
            exact (hgot ▸ hread _).value
        · cases h

theorem readsWellFormed_readMembers (hread : ∀ cur, ReadsWellFormed (read cur)) (bound : Nat) (isFirst : Bool)
    {taken : Dict Json} (htaken : IsWellFormed (.obj taken)) (cur : Cursor) :
    ReadsWellFormed (readMembers read bound isFirst taken cur) := by
  induction bound generalizing isFirst taken cur with
  | zero => exact .error _
  | succ bound ih =>
      -- One more member, and the rest of the object. A key that is there already is given the new value.
      have hnext : ∀ cur, ReadsWellFormed (readMember read cur >>= fun got =>
          readMembers read bound false (Dict.insert got.1.1 got.1.2 taken) got.2) := by
        intro cur
        refine readsWellFormed_bind ?_
        rintro ⟨⟨key, value⟩, after⟩ hmember
        exact ih false (htaken.insert key (isWellFormed_readMember hread hmember)) after
      unfold readMembers
      dsimp only
      split
      · exact .error _
      · split
        · exact .ok htaken _
        · split
          · split
            · exact hnext _
            · exact .error _
          · split
            · split
              · exact .error _
              · exact hnext _
              · exact .error _
              · exact .error _
            · exact .error _

end Nested

/-- A word stands for a value with each key once. -/
theorem readsWellFormed_word (cur : Cursor) (word : List Char) {value : Json} (h : value.IsWellFormed) :
    ReadsWellFormed (do return (value, ← readWord cur word)) :=
  readsWellFormed_bind fun _ _ => .ok h _

theorem readsWellFormed_readValue (depth : Nat) (cur : Cursor) : ReadsWellFormed (readValue depth cur) := by
  induction depth using Nat.strongRecOn generalizing cur with
  | ind depth ih =>
      fun_cases readValue depth cur with
      | case1 | case7 | case9 => exact .error _
      | case2 => exact readsWellFormed_word _ _ .null
      | case3 | case4 => exact readsWellFormed_word _ _ (.bool _)
      | case5 => exact readsWellFormed_readNumber ..
      | case6 => exact readsWellFormed_bind fun _ _ => .ok (.str _) _
      | case8 => exact readsWellFormed_readItems (ih _ (Nat.lt_succ_self _)) _ _ (by simp) _
      | case10 =>
          exact readsWellFormed_readMembers (ih _ (Nat.lt_succ_self _)) _ _ (.obj List.Pairwise.nil (by simp)) _
      | case11 => simpa [*] using readsWellFormed_readNumber ..
      | case12 => simpa [*] using .error _

/-- **What is read from a text** has each key once. -/
theorem isWellFormed_parse {text : String} {value : Json} (h : parse text = .ok value) : value.IsWellFormed := by
  unfold parse at h
  cases hread : readValue mostDepth { rest := text.toList, offset := 0 } with
  | error fault =>
      simp only [hread, bind, Except.bind] at h
      cases h
  | ok got =>
      simp only [hread, bind, Except.bind] at h
      split at h
      · obtain rfl : got.1 = value := Except.ok.inj h
        exact (hread ▸ readsWellFormed_readValue ..).value
      · cases h

end RemoteShell.Json
