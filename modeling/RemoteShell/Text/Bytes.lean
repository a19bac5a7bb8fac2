/-!
# Byte offsets

Positions in a line are counted in bytes of its UTF-8 form. The bytes themselves are never needed: a text stays a
list of characters, and an offset is a measure on it.

Main statements:

* `size_append`: the measure of a joined text is the sum of the measures.
* `takeBytes_append_dropBytes`: cutting at an offset loses nothing.
* `size_takeBytes_le`: the cut never lies past the offset.
* `takeBytes_size`, `dropBytes_size_append`: a cut at the end of a text, and one between two texts.
-/

namespace RemoteShell.Text

/-- How many bytes a text takes in UTF-8. -/
def size : List Char → Nat
  | [] => 0
  | c :: rest => c.utf8Size + size rest

/-- The longest beginning of a text that ends at or before a byte offset, so that an offset inside a character
falls back to the start of that character. -/
def takeBytes (n : Nat) : List Char → List Char
  | [] => []
  | c :: rest => if c.utf8Size ≤ n then c :: takeBytes (n - c.utf8Size) rest else []

/-- What `takeBytes` leaves. -/
def dropBytes (n : Nat) : List Char → List Char
  | [] => []
  | c :: rest => if c.utf8Size ≤ n then dropBytes (n - c.utf8Size) rest else c :: rest

/-- The measure of a joined text is the sum of the measures. -/
@[simp]
theorem size_append (xs ys : List Char) : size (xs ++ ys) = size xs + size ys := by
  induction xs with
  | nil => simp [size]
  | cons c rest ih => simp [size, ih, Nat.add_assoc]

/-- **Cutting at an offset loses nothing.** -/
theorem takeBytes_append_dropBytes (n : Nat) (cs : List Char) : takeBytes n cs ++ dropBytes n cs = cs := by
  induction cs generalizing n with
  | nil => rfl
  | cons c rest ih =>
    by_cases h : c.utf8Size ≤ n
    · simp [takeBytes, dropBytes, h, ih]
    · simp [takeBytes, dropBytes, h]

/-- The cut never lies past the offset. -/
theorem size_takeBytes_le (n : Nat) (cs : List Char) : size (takeBytes n cs) ≤ n := by
  induction cs generalizing n with
  | nil => simp [takeBytes, size]
  | cons c rest ih =>
    by_cases h : c.utf8Size ≤ n
    · have := ih (n - c.utf8Size)
      simp only [takeBytes, h, if_true, size]
      omega
    · simp [takeBytes, h, size]

/-- Only the empty text takes no bytes. -/
theorem size_eq_zero_iff {cs : List Char} : size cs = 0 ↔ cs = [] := by
  cases cs with
  | nil => simp [size]
  | cons c rest =>
    have hpos : 0 < c.utf8Size := c.utf8Size_pos
    simp only [size, reduceCtorEq, iff_false]
    omega

/-- A cut between two texts takes the first. -/
theorem takeBytes_size_append (xs ys : List Char) : takeBytes (size xs) (xs ++ ys) = xs := by
  induction xs with
  | nil =>
    cases ys with
    | nil => rfl
    | cons c rest =>
      have hpos : 0 < c.utf8Size := c.utf8Size_pos
      have hnot : ¬ c.utf8Size ≤ 0 := by omega
      rw [List.nil_append, size, takeBytes, if_neg hnot]
  | cons c rest ih =>
    have hle : c.utf8Size ≤ c.utf8Size + size rest := Nat.le_add_right _ _
    rw [List.cons_append, size, takeBytes, if_pos hle, Nat.add_sub_cancel_left, ih]

/-- A cut at the end of a text takes all of it. -/
theorem takeBytes_size (cs : List Char) : takeBytes (size cs) cs = cs := by
  have htake := takeBytes_size_append cs []
  rwa [List.append_nil] at htake

/-- A cut between two texts leaves the second. -/
theorem dropBytes_size_append (xs ys : List Char) : dropBytes (size xs) (xs ++ ys) = ys := by
  induction xs with
  | nil =>
    cases ys with
    | nil => rfl
    | cons c rest =>
      have hpos : 0 < c.utf8Size := c.utf8Size_pos
      have hnot : ¬ c.utf8Size ≤ 0 := by omega
      rw [List.nil_append, size, dropBytes, if_neg hnot]
  | cons c rest ih =>
    have hle : c.utf8Size ≤ c.utf8Size + size rest := Nat.le_add_right _ _
    rw [List.cons_append, size, dropBytes, if_pos hle, Nat.add_sub_cancel_left, ih]

/-- A character of a joined text stands in the one text, before its end, or in the other. -/
theorem append_eq_append_cons {xs ys front back : List Char} {c : Char} (h : xs ++ ys = front ++ c :: back) :
    (c ∈ xs ∧ size front < size xs) ∨ ∃ more, front = xs ++ more ∧ ys = more ++ c :: back := by
  rcases List.append_eq_append_iff.mp h with ⟨more, hfront, hys⟩ | ⟨inner, hxs, hinner⟩
  · exact Or.inr ⟨more, hfront, hys⟩
  · cases inner with
    | nil => exact Or.inr ⟨[], by simpa using hxs.symm, by simpa using hinner.symm⟩
    | cons d inner =>
      obtain ⟨rfl, -⟩ := List.cons.inj hinner
      have hpos : 0 < c.utf8Size := c.utf8Size_pos
      refine Or.inl ⟨by simp [hxs], ?_⟩
      simp only [hxs, size_append, size]
      omega

/-- An ending of a text takes no more bytes than the text. -/
theorem size_le_of_suffix {xs ys : List Char} (h : xs <:+ ys) : size xs ≤ size ys := by
  obtain ⟨front, rfl⟩ := h
  rw [size_append]
  exact Nat.le_add_left _ _

end RemoteShell.Text
