/-!
# Fields between separators

A text cut at every occurrence of one character. A text without that character is one field, so there is always at
least one, and an empty text is one empty field.

Main statements:

* `join_fields`: joining the fields with the separator gives the text back.
* `not_mem_of_mem_fields`: no field holds the separator.
* `fields_append`: a separator divides the fields of a text.
* `fields_join`: texts without the separator are the fields of their joined text.
-/

namespace RemoteShell.Text

/-- Puts a character in front of the first field. -/
def consField (c : Char) : List (List Char) → List (List Char)
  | [] => [[c]]
  | field :: rest => (c :: field) :: rest

/-- The stretches between occurrences of a separator. -/
def fields (sep : Char) : List Char → List (List Char)
  | [] => [[]]
  | c :: rest => if c = sep then [] :: fields sep rest else consField c (fields sep rest)

/-- Joins texts with a separating text between neighbours. -/
def join (sep : List Char) : List (List Char) → List Char
  | [] => []
  | [field] => field
  | field :: next :: rest => field ++ sep ++ join sep (next :: rest)

/-- There is always at least one field. -/
theorem fields_ne_nil (sep : Char) (cs : List Char) : fields sep cs ≠ [] := by
  cases cs with
  | nil => simp [fields]
  | cons c rest =>
    by_cases h : c = sep
    · simp [fields, h]
    · simp only [fields, h, if_false]
      cases fields sep rest <;> simp [consField]

/-- **Joining the fields with the separator gives the text back.** -/
theorem join_fields (sep : Char) (cs : List Char) : join [sep] (fields sep cs) = cs := by
  induction cs with
  | nil => rfl
  | cons c rest ih =>
    obtain ⟨field, more, hf⟩ : ∃ field more, fields sep rest = field :: more :=
      List.exists_cons_of_ne_nil (fields_ne_nil sep rest)
    by_cases h : c = sep
    · subst h
      simp only [fields, if_true, hf, join, List.nil_append, List.cons_append]
      rw [← hf, ih]
    · simp only [fields, h, if_false, hf, consField]
      rw [hf] at ih
      cases more with
      | nil => simpa [join] using ih
      | cons next others => simpa [join] using ih

/-- No field holds the separator. -/
theorem not_mem_of_mem_fields {sep : Char} {cs field : List Char} (h : field ∈ fields sep cs) : sep ∉ field := by
  induction cs generalizing field with
  | nil =>
    simp only [fields, List.mem_singleton] at h
    simp [h]
  | cons c rest ih =>
    obtain ⟨first, more, hf⟩ : ∃ first more, fields sep rest = first :: more :=
      List.exists_cons_of_ne_nil (fields_ne_nil sep rest)
    by_cases hc : c = sep
    · simp only [fields, hc, if_true, List.mem_cons] at h
      rcases h with rfl | h
      · simp
      · exact ih h
    · simp only [fields, hc, if_false, hf, consField, List.mem_cons] at h
      rw [hf] at ih
      rcases h with rfl | h
      · have : sep ∉ first := ih (by simp)
        simp [this, Ne.symm hc]
      · exact ih (by simp [h])

/-- A text without the separator is one field. -/
theorem fields_of_not_mem {sep : Char} {cs : List Char} (h : sep ∉ cs) : fields sep cs = [cs] := by
  induction cs with
  | nil => rfl
  | cons c rest ih =>
    simp only [List.mem_cons, not_or] at h
    simp [fields, Ne.symm h.1, ih h.2, consField]

/-- **A text is cut at a separator,** into the fields before it and those behind it. -/
theorem fields_append (sep : Char) (xs ys : List Char) :
    fields sep (xs ++ sep :: ys) = fields sep xs ++ fields sep ys := by
  induction xs with
  | nil => simp [fields]
  | cons c rest ih =>
    obtain ⟨first, more, hf⟩ : ∃ first more, fields sep rest = first :: more :=
      List.exists_cons_of_ne_nil (fields_ne_nil sep rest)
    by_cases hc : c = sep
    · simp [fields, hc, ih]
    · simp [fields, hc, ih, hf, consField]

/-- A text without the separator belongs to the first field of what it is put in front of. -/
theorem fields_append_of_not_mem {sep : Char} {front cs head : List Char} {more : List (List Char)} (h : sep ∉ front)
    (hcs : fields sep cs = head :: more) : fields sep (front ++ cs) = (front ++ head) :: more := by
  induction front with
  | nil => exact hcs
  | cons c rest ih =>
    simp only [List.mem_cons, not_or] at h
    simp [fields, Ne.symm h.1, ih h.2, consField]

/-- The first separator ends the first field. -/
theorem fields_append_sep {sep : Char} {field : List Char} (h : sep ∉ field) (rest : List Char) :
    fields sep (field ++ sep :: rest) = field :: fields sep rest := by
  rw [fields_append, fields_of_not_mem h, List.singleton_append]

/-- **Texts without the separator are the fields of their joined text.** -/
theorem fields_join {sep : Char} {texts : List (List Char)} (hne : texts ≠ []) (h : ∀ text ∈ texts, sep ∉ text) :
    fields sep (join [sep] texts) = texts := by
  induction texts with
  | nil => exact absurd rfl hne
  | cons text rest ih =>
    cases rest with
    | nil => exact fields_of_not_mem (h text (by simp))
    | cons next others =>
      have hrest : ∀ other ∈ next :: others, sep ∉ other := fun other hmem => h other (List.mem_cons_of_mem _ hmem)
      have hjoin : join [sep] (text :: next :: others) = text ++ sep :: join [sep] (next :: others) := by
        simp [join]
      rw [hjoin, fields_append_sep (h text (by simp)), ih (by simp) hrest]

end RemoteShell.Text
