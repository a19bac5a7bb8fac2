/-!
# Dictionaries in key order

A dictionary is a list of key-value pairs with strictly increasing keys. Everything is built with `insert`, which
keeps that order, so two dictionaries with the same entries are the same list.

Main statements:

* `find?_insert_self`, `find?_insert_of_ne`: what `insert` does to a look-up.
* `insert_comm`: two keys are given their values in either order.
* `sorted_insert`: inserting keeps the keys strictly increasing.
* `eq_of_find?`: dictionaries in which every key has the same value are the same.
-/

namespace RemoteShell

/-- Key-value pairs, by increasing key. -/
abbrev Dict (α : Type u) := List (String × α)

namespace Dict

variable {α : Type u}

/-- The value of a key. -/
def find? (key : String) : Dict α → Option α
  | [] => none
  | (k, v) :: rest => if k = key then some v else find? key rest

/-- Whether a key has a value. -/
def contains (key : String) (d : Dict α) : Bool :=
  (find? key d).isSome

/-- Gives a key a value, in place of the one it had. -/
def insert (key : String) (value : α) : Dict α → Dict α
  | [] => [(key, value)]
  | (k, v) :: rest =>
    if k = key then (key, value) :: rest
    else if key < k then (key, value) :: (k, v) :: rest
    else (k, v) :: insert key value rest

/-- The dictionary of some pairs; of two values for one key the later one stands. -/
def ofList (entries : List (String × α)) : Dict α :=
  entries.foldl (fun d (k, v) => insert k v d) []

/-- Strictly increasing keys. -/
def Sorted (d : Dict α) : Prop :=
  d.Pairwise fun a b => a.1 < b.1

/-- A key that was just given a value has it. -/
@[simp]
theorem find?_insert_self (key : String) (value : α) (d : Dict α) : find? key (insert key value d) = some value := by
  induction d with
  | nil => simp [insert, find?]
  | cons entry rest ih =>
    obtain ⟨k, v⟩ := entry
    by_cases hk : k = key
    · simp [insert, hk, find?]
    · by_cases hlt : key < k
      · simp [insert, hk, hlt, find?]
      · simp [insert, hk, hlt, find?, ih]

/-- Giving one key a value leaves the others as they were. -/
theorem find?_insert_of_ne {key other : String} (h : other ≠ key) (value : α) (d : Dict α) :
    find? other (insert key value d) = find? other d := by
  induction d with
  | nil => simp [insert, find?, Ne.symm h]
  | cons entry rest ih =>
    obtain ⟨k, v⟩ := entry
    by_cases hk : k = key
    · subst hk
      simp [insert, find?, Ne.symm h]
    · by_cases hlt : key < k
      · simp [insert, hk, hlt, find?, Ne.symm h]
      · simp [insert, hk, hlt, find?, ih]

/-- Giving one key a value leaves it to the others whether they have one. -/
theorem contains_insert_of_ne {key other : String} (h : other ≠ key) (value : α) (d : Dict α) :
    contains other (insert key value d) = contains other d := by
  rw [contains, find?_insert_of_ne h, contains]

/-- **Two keys are given their values in either order.** -/
theorem insert_comm {key other : String} (h : key ≠ other) (v w : α) (d : Dict α) :
    insert key v (insert other w d) = insert other w (insert key v d) := by
  induction d with
  | nil => grind [insert]
  | cons entry rest ih =>
    -- The two keys and the one in front may stand in any order.
    obtain ⟨k, x⟩ := entry
    grind [insert]

/-- The entries after an insertion are old ones and the new one. -/
theorem mem_insert {key : String} {value : α} {d : Dict α} {entry : String × α} (h : entry ∈ insert key value d) :
    entry = (key, value) ∨ entry ∈ d := by
  induction d with
  | nil => simpa [insert] using h
  | cons first rest ih =>
    unfold insert at h
    split at h
    · rcases List.mem_cons.mp h with rfl | h
      · exact Or.inl rfl
      · exact Or.inr (List.mem_cons_of_mem _ h)
    · split at h
      · rcases List.mem_cons.mp h with rfl | h
        · exact Or.inl rfl
        · exact Or.inr h
      · rcases List.mem_cons.mp h with rfl | h
        · exact Or.inr (List.mem_cons_self ..)
        · exact (ih h).imp_right (List.mem_cons_of_mem _)

theorem ofList_concat (entries : List (String × α)) (key : String) (value : α) :
    ofList (entries ++ [(key, value)]) = insert key value (ofList entries) := by
  simp [ofList]

/-- The entries of a dictionary made from pairs are some of them. -/
theorem mem_ofList {entries : List (String × α)} {entry : String × α} (h : entry ∈ ofList entries) :
    entry ∈ entries := by
  have hfold : ∀ d : Dict α, entry ∈ entries.foldl (fun d (k, v) => insert k v d) d → entry ∈ d ∨ entry ∈ entries := by
    clear h
    induction entries with
    | nil => exact fun d hd => Or.inl hd
    | cons first rest ih =>
      intro d hd
      rcases ih _ hd with hd | hd
      · rcases mem_insert hd with rfl | hd
        · exact Or.inr (List.mem_cons_self ..)
        · exact Or.inl hd
      · exact Or.inr (List.mem_cons_of_mem _ hd)
  simpa using hfold [] h

/-- **Inserting keeps the keys strictly increasing.** -/
theorem sorted_insert {key : String} {value : α} {d : Dict α} (h : Sorted d) : Sorted (insert key value d) := by
  induction d with
  | nil => simp [insert, Sorted]
  | cons entry rest ih =>
    obtain ⟨k, v⟩ := entry
    obtain ⟨hfirst, hrest⟩ := List.pairwise_cons.mp h
    by_cases hk : k = key
    · subst hk
      simp only [insert, if_true]
      exact List.pairwise_cons.mpr ⟨hfirst, hrest⟩
    · by_cases hlt : key < k
      · simp only [insert, hk, hlt, if_false, if_true]
        refine List.pairwise_cons.mpr ⟨fun other hmem => ?_, h⟩
        rcases List.mem_cons.mp hmem with rfl | hmem
        · exact hlt
        · exact String.lt_trans hlt (hfirst other hmem)
      · simp only [insert, hk, hlt, if_false]
        refine List.pairwise_cons.mpr ⟨fun other hmem => ?_, ih hrest⟩
        rcases mem_insert hmem with rfl | hmem
        · exact Std.lt_of_le_of_ne (Std.not_lt.mp hlt) hk
        · exact hfirst other hmem

/-- A value that is found is an entry. -/
theorem mem_of_find? {key : String} {value : α} {d : Dict α} (h : find? key d = some value) : (key, value) ∈ d := by
  induction d with
  | nil => simp [find?] at h
  | cons entry rest ih =>
    obtain ⟨k, v⟩ := entry
    by_cases hk : k = key
    · simp only [find?, hk, if_true, Option.some.injEq] at h
      simp [hk, h]
    · simp only [find?, hk, if_false] at h
      exact List.mem_cons_of_mem _ (ih h)

/-- A key below all others has no value. -/
theorem find?_eq_none_of_lt {key : String} {d : Dict α} (h : ∀ entry ∈ d, key < entry.1) : find? key d = none := by
  cases hfind : find? key d with
  | none => rfl
  | some value => exact absurd (h _ (mem_of_find? hfind)) (String.lt_irrefl key)

/-- **Dictionaries in which every key has the same value are the same.** -/
theorem eq_of_find? {d e : Dict α} (hd : Sorted d) (he : Sorted e) (h : ∀ key, find? key d = find? key e) : d = e := by
  induction d generalizing e with
  | nil =>
    cases e with
    | nil => rfl
    | cons entry rest => simpa [find?] using h entry.1
  | cons entry rest ih =>
    obtain ⟨k, v⟩ := entry
    obtain ⟨hfirst, hrest⟩ := List.pairwise_cons.mp hd
    cases e with
    | nil => simpa [find?] using h k
    | cons entry' rest' =>
      obtain ⟨k', v'⟩ := entry'
      obtain ⟨hfirst', hrest'⟩ := List.pairwise_cons.mp he
      -- A key at the front of only one of the two would be below all keys of the other.
      have hkey : k = k' := by
        have hk := h k
        have hk' := h k'
        by_cases hlt : k < k'
        · rw [find?_eq_none_of_lt (d := (k', v') :: rest')] at hk
          · simp [find?] at hk
          · intro other hmem
            rcases List.mem_cons.mp hmem with rfl | hmem
            · exact hlt
            · exact String.lt_trans hlt (hfirst' other hmem)
        · by_cases hlt' : k' < k
          · rw [find?_eq_none_of_lt (d := (k, v) :: rest)] at hk'
            · simp [find?] at hk'
            · intro other hmem
              rcases List.mem_cons.mp hmem with rfl | hmem
              · exact hlt'
              · exact String.lt_trans hlt' (hfirst other hmem)
          · exact Std.le_antisymm (Std.not_lt.mp hlt') (Std.not_lt.mp hlt)
      subst hkey
      have hvalue : v = v' := by simpa [find?] using h k
      have htail : rest = rest' := by
        refine ih hrest hrest' ?_
        intro key
        by_cases hk : k = key
        · subst hk
          rw [find?_eq_none_of_lt hfirst, find?_eq_none_of_lt hfirst']
        · simpa [find?, hk] using h key
      rw [hvalue, htail]

/-- A key keeps the value that it has. -/
theorem insert_of_find? {d : Dict α} (h : Sorted d) {key : String} {value : α} (hvalue : find? key d = some value) :
    insert key value d = d := by
  refine eq_of_find? (sorted_insert h) h fun other => ?_
  by_cases hother : other = key
  · rw [hother, find?_insert_self, hvalue]
  · rw [find?_insert_of_ne hother]

/-- A dictionary made from pairs has strictly increasing keys. -/
theorem sorted_ofList (entries : List (String × α)) : Sorted (ofList entries) := by
  have : ∀ (d : Dict α), Sorted d → Sorted (entries.foldl (fun d (k, v) => insert k v d) d) := by
    induction entries with
    | nil => exact fun d hd => hd
    | cons entry rest ih => exact fun d hd => ih _ (sorted_insert hd)
  exact this [] List.Pairwise.nil

end Dict

end RemoteShell
