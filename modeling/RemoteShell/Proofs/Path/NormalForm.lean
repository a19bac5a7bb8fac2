import RemoteShell.Path

/-!
# The normal form of a path

An absolute path is a slash and the names of the folders passed, with slashes between them. Resolving gives such a path
from any other, and leaves it alone from any working directory.

Main statements:

* `isNormal_resolve`: what resolving gives is in normal form.
* `resolve_of_isNormal`: a path in normal form stands for itself.
-/

namespace RemoteShell.Path

/-- A path in normal form: a slash and the names on the way, with slashes between them. -/
def IsNormal (path : String) : Prop :=
  ∃ passed : List (List Char), (∀ segment ∈ passed, IsFolder segment) ∧ path.toList = absolute passed

/-- A name is gone down to. -/
theorem step_of_isFolder {segment : List Char} (h : IsFolder segment) (passed : List (List Char)) :
    step passed segment = segment :: passed := by
  obtain ⟨hempty, hstay, hback, -⟩ := h
  simp [step, hempty, hstay, hback]

/-- Names are gone down to one after the other. -/
theorem walk_of_isFolder {names : List (List Char)} (h : ∀ segment ∈ names, IsFolder segment)
    (passed : List (List Char)) : walk passed names = names.reverse ++ passed := by
  induction names generalizing passed with
  | nil => rfl
  | cons name rest ih =>
      have hname : step passed name = name :: passed := step_of_isFolder (h name (by simp)) passed
      have hrest : walk (name :: passed) rest = rest.reverse ++ name :: passed :=
        ih (fun segment hs => h segment (List.mem_cons_of_mem _ hs)) (name :: passed)
      have hwalk : walk passed (name :: rest) = walk (step passed name) rest := rfl
      rw [hwalk, hname, hrest]
      simp

/-- An empty segment stays in place. -/
theorem walk_cons_nil (passed segs : List (List Char)) : walk passed ([] :: segs) = walk passed segs := by
  have hstep : step passed [] = passed := by simp [step]
  have hwalk : walk passed ([] :: segs) = walk (step passed []) segs := rfl
  rw [hwalk, hstep]

/-- The segments of an absolute path are the folders it was made from, behind the empty one at the root. -/
theorem segments_absolute {passed : List (List Char)} (hne : passed ≠ [])
    (h : ∀ segment ∈ passed, IsFolder segment) : segments (absolute passed) = [] :: passed.reverse := by
  have hslash : segments (absolute passed) = [] :: segments (Text.join ['/'] passed.reverse) := by
    simp [absolute, segments, Text.fields]
  have hfields : segments (Text.join ['/'] passed.reverse) = passed.reverse :=
    Text.fields_join (by simpa using hne) fun segment hs => (h segment (by simpa using hs)).2.2.2
  rw [hslash, hfields]

/-- Walking an absolute path passes just the folders it was made from. -/
theorem walk_segments_absolute {passed : List (List Char)} (h : ∀ segment ∈ passed, IsFolder segment) :
    walk [] (segments (absolute passed)) = passed := by
  by_cases hnil : passed = []
  · subst hnil
    rfl
  · have hreverse : ∀ segment ∈ passed.reverse, IsFolder segment := by simpa using h
    rw [segments_absolute hnil h, walk_cons_nil, walk_of_isFolder hreverse]
    simp

/-- What resolving gives is in normal form. -/
theorem isNormal_resolve (cwd path : String) : IsNormal (resolve cwd path) := by
  simp only [IsNormal, resolve, String.toList_ofList, resolveChars]
  refine ⟨_, ?_, rfl⟩
  exact isFolder_of_mem_walk (by simp) fun segment hs => Text.not_mem_of_mem_fields hs

/-- **A path in normal form stands for itself,** from every working directory. -/
theorem resolve_of_isNormal {path : String} (h : IsNormal path) (cwd : String) : resolve cwd path = path := by
  obtain ⟨passed, hfolders, hpath⟩ := h
  have hhead : path.toList.head? = some '/' := by
    rw [hpath]
    rfl
  apply String.toList_injective
  simp only [resolve, resolveChars, hhead, if_true, String.toList_ofList]
  rw [hpath, walk_segments_absolute hfolders]

/-- Resolving again, from anywhere, changes nothing. -/
theorem resolve_resolve (cwd cwd' path : String) : resolve cwd' (resolve cwd path) = resolve cwd path :=
  resolve_of_isNormal (isNormal_resolve cwd path) cwd'

end RemoteShell.Path
