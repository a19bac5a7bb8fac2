import RemoteShell.Text.Fields

/-!
# Remote paths

A path names a file by the folders that lead to it, separated by slashes. A path that does not start with a slash is
meant from the working directory. `resolve` gives every path its one absolute form: it walks the segments from left to
right and keeps the folders passed on a stack, where an empty segment and `.` stay in place and `..` goes back, at the
root to the root itself.

Main statements:

* `walk_append`: walking two stretches one after the other is walking them joined.
* `isFolder_of_mem_walk`: only names remain, never an empty segment, `.` or `..`.
* `resolve_absolute`: an absolute path does not depend on the working directory.
-/

namespace RemoteShell.Path

/-- The segments of a path, between its slashes. -/
abbrev segments (path : List Char) : List (List Char) :=
  Text.fields '/' path

/-- One step along a path, on the folders passed so far, newest first. -/
def step (passed : List (List Char)) (segment : List Char) : List (List Char) :=
  if segment = [] ∨ segment = ['.'] then passed
  else if segment = ['.', '.'] then passed.tail
  else segment :: passed

/-- The folders passed, newest first, after some segments. -/
def walk (passed : List (List Char)) (segs : List (List Char)) : List (List Char) :=
  segs.foldl step passed

/-- The absolute path to the last of the folders passed. -/
def absolute (passed : List (List Char)) : List Char :=
  '/' :: Text.join ['/'] passed.reverse

/-- The absolute form of a path that is meant from the folder `cwd`. -/
def resolveChars (cwd path : List Char) : List Char :=
  let source := if path.head? = some '/' then path else cwd ++ '/' :: path
  absolute (walk [] (segments source))

/-- The absolute form of a path that is meant from the folder `cwd`. -/
def resolve (cwd path : String) : String :=
  String.ofList (resolveChars cwd.toList path.toList)

/-- A partly typed path, cut into the folder part, with its last slash, and the beginning of a name. -/
def splitChars (path : List Char) : List Char × List Char :=
  ((path.reverse.dropWhile (· != '/')).reverse, (path.reverse.takeWhile (· != '/')).reverse)

/-- A partly typed path, cut into the folder part, with its last slash, and the beginning of a name. -/
def splitTyped (path : String) : String × String :=
  (String.ofList (splitChars path.toList).1, String.ofList (splitChars path.toList).2)

/-- A segment that names a folder or a file, rather than a way to go. -/
def IsFolder (segment : List Char) : Prop :=
  segment ≠ [] ∧ segment ≠ ['.'] ∧ segment ≠ ['.', '.'] ∧ '/' ∉ segment

instance (segment : List Char) : Decidable (IsFolder segment) :=
  inferInstanceAs (Decidable (_ ∧ _ ∧ _ ∧ _))

/-- Walking two stretches one after the other is walking them joined. -/
theorem walk_append (passed xs ys : List (List Char)) : walk passed (xs ++ ys) = walk (walk passed xs) ys :=
  List.foldl_append

/-- **Only names remain,** never an empty segment, `.` or `..`. -/
theorem isFolder_of_mem_walk {passed segs : List (List Char)} (hpassed : ∀ s ∈ passed, IsFolder s)
    (hsegs : ∀ s ∈ segs, '/' ∉ s) : ∀ s ∈ walk passed segs, IsFolder s := by
  induction segs generalizing passed with
  | nil => exact hpassed
  | cons segment rest ih =>
    refine ih ?_ fun s hs => hsegs s (List.mem_cons_of_mem _ hs)
    intro s hs
    unfold step at hs
    split at hs
    · exact hpassed s hs
    · next hstay =>
      split at hs
      · exact hpassed s (List.mem_of_mem_tail hs)
      · next hback =>
        rcases List.mem_cons.mp hs with rfl | hs
        · rw [not_or] at hstay
          exact ⟨hstay.1, hstay.2, hback, hsegs s (by simp)⟩
        · exact hpassed s hs

/-- An absolute path does not depend on the working directory. -/
theorem resolve_absolute {path : String} (h : path.toList.head? = some '/') (cwd cwd' : String) :
    resolve cwd path = resolve cwd' path := by
  simp [resolve, resolveChars, h]

/-- Cutting a typed path loses nothing. -/
theorem splitChars_append (path : List Char) : (splitChars path).1 ++ (splitChars path).2 = path := by
  simp only [splitChars]
  rw [← List.reverse_append, List.takeWhile_append_dropWhile, List.reverse_reverse]

end RemoteShell.Path
