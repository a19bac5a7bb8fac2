import RemoteShell.Proofs.Path.NormalForm

/-!
# Ways through folders

A path is a way to go: its segments are taken one after the other, from the root if it begins with a slash, else from
the working folder, which is itself the end of such a way. The rules of one segment are stated here as a relation, and
resolving a path ends where they lead. So paths act on folders: the way of two paths put together is the way of the
first and then, from where it ends, that of the second.

Main statements:

* `way_iff`: the rules lead where the walk over the segments ends.
* `resolveChars_append`: a path that goes on behind another is meant from where that leads.
* `place_folderPart_append`: a name behind a folder part is one step from where that leads.
* `isNormal_iff_isTidy`: the normal form of a path as it can be seen in the path.
* `resolve_acts`: the normal form, the action and the rules together.
-/

namespace RemoteShell.Path

/-! ## The rules -/

/-- One segment of a way, between the folders passed before it and those passed behind it, newest first. -/
inductive Leads : List (List Char) → List Char → List (List Char) → Prop
  /-- Two slashes in a row are one. -/
  | empty (passed : List (List Char)) : Leads passed [] passed
  | here (passed : List (List Char)) : Leads passed ['.'] passed
  | back (folder : List Char) (passed : List (List Char)) : Leads (folder :: passed) ['.', '.'] passed
  /-- Above the root is the root. -/
  | root : Leads [] ['.', '.'] []
  | down {name : List Char} (hname : IsFolder name) (passed : List (List Char)) : Leads passed name (name :: passed)

/-- Some segments of a way, one after the other. -/
inductive Way : List (List Char) → List (List Char) → List (List Char) → Prop
  | done (passed : List (List Char)) : Way passed [] passed
  | go {passed next last segs : List (List Char)} {segment : List Char} (hstep : Leads passed segment next)
      (hrest : Way next segs last) : Way passed (segment :: segs) last

/-- Where the way of a path begins: at the root, or where the way to the working folder ends. -/
inductive Begins (cwd path : List Char) : List (List Char) → Prop
  | root (hslash : path.head? = some '/') : Begins cwd path []
  | cwd {passed : List (List Char)} (hslash : path.head? ≠ some '/') (hway : Way [] (segments cwd) passed) :
      Begins cwd path passed

/-- Every segment leads somewhere. -/
theorem leads_step {segment : List Char} (h : '/' ∉ segment) (passed : List (List Char)) :
    Leads passed segment (step passed segment) := by
  by_cases hempty : segment = []
  · subst hempty
    exact Leads.empty passed
  by_cases hhere : segment = ['.']
  · subst hhere
    exact Leads.here passed
  by_cases hback : segment = ['.', '.']
  · subst hback
    cases passed with
    | nil => exact Leads.root
    | cons folder passed => exact Leads.back folder passed
  have hname : IsFolder segment := ⟨hempty, hhere, hback, h⟩
  rw [step_of_isFolder hname]
  exact Leads.down hname passed

/-- A segment leads to one place only. -/
theorem Leads.step_eq {passed next : List (List Char)} {segment : List Char} (h : Leads passed segment next) :
    step passed segment = next := by
  cases h with
  | empty => rfl
  | here => rfl
  | back => rfl
  | root => rfl
  | down hname => exact step_of_isFolder hname passed

/-- **The rules lead where the walk ends.** -/
theorem way_iff {passed last segs : List (List Char)} (h : ∀ segment ∈ segs, '/' ∉ segment) :
    Way passed segs last ↔ walk passed segs = last := by
  constructor
  · intro hway
    induction hway with
    | done => rfl
    | go hstep _ ih =>
        rw [← hstep.step_eq] at ih
        exact ih fun segment hs => h segment (List.mem_cons_of_mem _ hs)
  · rintro rfl
    induction segs generalizing passed with
    | nil => exact Way.done passed
    | cons segment rest ih =>
        exact Way.go (leads_step (h segment (by simp)) passed)
          (ih fun other hs => h other (List.mem_cons_of_mem _ hs))

theorem way_segments_iff {passed last : List (List Char)} (path : List Char) :
    Way passed (segments path) last ↔ walk passed (segments path) = last :=
  way_iff fun _ hs => Text.not_mem_of_mem_fields hs

/-! ## Where a path leads -/

/-- The folders passed before the first segment of a path. -/
def origin (cwd path : List Char) : List (List Char) :=
  if path.head? = some '/' then [] else walk [] (segments cwd)

/-- The folders passed at the end of a path. -/
def place (cwd path : List Char) : List (List Char) :=
  walk (origin cwd path) (segments path)

theorem origin_of_slash {path : List Char} (h : path.head? = some '/') (cwd : List Char) : origin cwd path = [] :=
  if_pos h

theorem origin_of_no_slash {path : List Char} (h : path.head? ≠ some '/') (cwd : List Char) :
    origin cwd path = walk [] (segments cwd) :=
  if_neg h

theorem begins_iff {cwd path : List Char} {start : List (List Char)} :
    Begins cwd path start ↔ origin cwd path = start := by
  constructor
  · rintro (hslash | ⟨hslash, hway⟩)
    · exact origin_of_slash hslash cwd
    · rw [origin_of_no_slash hslash, (way_segments_iff cwd).mp hway]
  · rintro rfl
    by_cases hslash : path.head? = some '/'
    · rw [origin_of_slash hslash]
      exact Begins.root hslash
    · rw [origin_of_no_slash hslash]
      exact Begins.cwd hslash ((way_segments_iff cwd).mpr rfl)

/-- Segments on both sides of a slash. -/
theorem segments_append (xs ys : List Char) : segments (xs ++ '/' :: ys) = segments xs ++ segments ys :=
  Text.fields_append '/' xs ys

/-- **Resolving a path gives the folder it leads to.** -/
theorem resolveChars_eq (cwd path : List Char) : resolveChars cwd path = absolute (place cwd path) := by
  by_cases hslash : path.head? = some '/'
  · simp only [resolveChars, place, origin_of_slash hslash, hslash, if_true]
  · simp only [resolveChars, place, origin_of_no_slash hslash, hslash, if_false, segments_append, walk_append]

theorem resolve_eq (cwd path : String) : resolve cwd path = String.ofList (absolute (place cwd.toList path.toList)) := by
  rw [resolve, resolveChars_eq]

theorem isFolder_place (cwd path : List Char) : ∀ segment ∈ place cwd path, IsFolder segment := by
  have hsegments : ∀ (text : List Char), ∀ segment ∈ segments text, '/' ∉ segment :=
    fun _ _ hs => Text.not_mem_of_mem_fields hs
  have horigin : ∀ segment ∈ origin cwd path, IsFolder segment := by
    unfold origin
    split
    · simp
    · exact isFolder_of_mem_walk (by simp) (hsegments cwd)
  exact isFolder_of_mem_walk horigin (hsegments path)

/-- The paths to two folders are different. -/
theorem absolute_inj {xs ys : List (List Char)} (hxs : ∀ segment ∈ xs, IsFolder segment)
    (hys : ∀ segment ∈ ys, IsFolder segment) : absolute xs = absolute ys ↔ xs = ys := by
  refine ⟨fun h => ?_, congrArg absolute⟩
  rw [← walk_segments_absolute hxs, h, walk_segments_absolute hys]

/-- Paths resolve alike exactly if they lead to one place. -/
theorem resolve_eq_iff {cwd path other : String} :
    resolve cwd path = resolve cwd other ↔ place cwd.toList path.toList = place cwd.toList other.toList := by
  rw [resolve_eq, resolve_eq, String.ofList_inj, absolute_inj (isFolder_place _ _) (isFolder_place _ _)]

/-- **Two paths put together.** The second is taken from where the first leads. -/
theorem place_append {path : List Char} (hpath : path ≠ []) (cwd rest : List Char) :
    place cwd (path ++ '/' :: rest) = walk (place cwd path) (segments rest) := by
  obtain ⟨c, cs, rfl⟩ := List.exists_cons_of_ne_nil hpath
  have horigin : origin cwd (c :: cs ++ '/' :: rest) = origin cwd (c :: cs) := rfl
  rw [place, horigin, segments_append, walk_append, place]

/-- A path that does not begin at the root is taken from the working folder. -/
theorem place_of_no_slash {rest : List Char} (h : rest.head? ≠ some '/') (cwd : List Char) :
    place cwd rest = walk (walk [] (segments cwd)) (segments rest) := by
  rw [place, origin_of_no_slash h]

/-- **Paths act on folders.** A path behind another is meant from where that leads. -/
theorem resolveChars_append {path rest : List Char} (hpath : path ≠ []) (hrest : rest.head? ≠ some '/')
    (cwd : List Char) : resolveChars (resolveChars cwd path) rest = resolveChars cwd (path ++ '/' :: rest) := by
  have hplace : place (resolveChars cwd path) rest = place cwd (path ++ '/' :: rest) :=
    calc place (resolveChars cwd path) rest
        = walk (walk [] (segments (absolute (place cwd path)))) (segments rest) := by
          rw [place_of_no_slash hrest, resolveChars_eq]
      _ = walk (place cwd path) (segments rest) := by rw [walk_segments_absolute (isFolder_place cwd path)]
      _ = place cwd (path ++ '/' :: rest) := (place_append hpath cwd rest).symm
  rw [resolveChars_eq _ rest, hplace, resolveChars_eq]

/-! ## A typed path in two parts -/

/-- The folder part of a path: nothing, or something that ends in a slash. -/
def IsFolderPart (folder : List Char) : Prop :=
  ∀ c ∈ folder.getLast?, c = '/'

theorem isFolderPart_splitChars (path : List Char) : IsFolderPart (splitChars path).1 := by
  intro c hc
  have hnot := List.head?_dropWhile_not (· != '/') path.reverse
  rw [splitChars, List.getLast?_reverse, Option.mem_def] at hc
  rw [hc] at hnot
  simpa using hnot

theorem slash_not_mem_splitChars (path : List Char) : '/' ∉ (splitChars path).2 := by
  intro hmem
  rw [splitChars, List.mem_reverse] at hmem
  have hslash := List.all_eq_true.mp List.all_takeWhile '/' hmem
  exact absurd hslash (by decide)

/-- **A name behind a folder part** is one step from where that leads. -/
theorem place_folderPart_append {folder name : List Char} (hfolder : IsFolderPart folder) (hname : '/' ∉ name)
    (cwd : List Char) : place cwd (folder ++ name) = step (place cwd folder) name := by
  have hsegments : segments name = [name] := Text.fields_of_not_mem hname
  cases hlast : folder.getLast? with
  | none =>
      obtain rfl := List.getLast?_eq_none_iff.mp hlast
      have hslash : name.head? ≠ some '/' := fun h => hname (List.mem_of_mem_head? h)
      have hstay : place cwd [] = walk [] (segments cwd) := place_of_no_slash (by simp) cwd
      rw [List.nil_append, place_of_no_slash hslash, hsegments, hstay]
      rfl
  | some c =>
      obtain rfl : c = '/' := hfolder c hlast
      obtain ⟨front, rfl⟩ := List.getLast?_eq_some_iff.mp hlast
      have horigin : origin cwd (front ++ '/' :: name) = origin cwd (front ++ ['/']) := by
        cases front <;> rfl
      have hfront : place cwd (front ++ ['/']) = walk (origin cwd (front ++ ['/'])) (segments front) := by
        rw [place, segments_append, walk_append]
        exact walk_cons_nil _ []
      rw [hfront, List.append_assoc, List.singleton_append, place, horigin, segments_append, walk_append, hsegments]
      rfl

/-- What is no name does not lead further down. -/
theorem length_step_le {segment : List Char} (h : ¬ IsFolder segment) (hslash : '/' ∉ segment)
    (passed : List (List Char)) : (step passed segment).length ≤ passed.length := by
  unfold step
  split
  · exact Nat.le_refl _
  · next hstay =>
      split
      · simp
      · next hback => exact absurd ⟨fun he => hstay (Or.inl he), fun hd => hstay (Or.inr hd), hback, hslash⟩ h

/-- What leads where a name does is a name. -/
theorem isFolder_of_step_eq {passed : List (List Char)} {name other : List Char} (hname : IsFolder name)
    (hother : '/' ∉ other) (h : step passed name = step passed other) : IsFolder other := by
  refine Decidable.byContradiction fun hnot => ?_
  have hle := length_step_le hnot hother passed
  rw [← h, step_of_isFolder hname, List.length_cons] at hle
  omega

/-- **Two steps to one place** began at one place exactly if both or neither went down to a name, and, if neither did,
they did. -/
theorem eq_iff_of_step_eq {xs ys : List (List Char)} {a b : List Char} (ha : '/' ∉ a) (hb : '/' ∉ b)
    (h : step xs a = step ys b) : xs = ys ↔ (IsFolder a ↔ IsFolder b) ∧ (¬ IsFolder a → xs = ys) := by
  constructor
  · rintro rfl
    exact ⟨⟨fun hname => isFolder_of_step_eq hname hb h, fun hname => isFolder_of_step_eq hname ha h.symm⟩,
      fun _ => rfl⟩
  · rintro ⟨hboth, hneither⟩
    by_cases hname : IsFolder a
    · rw [step_of_isFolder hname, step_of_isFolder (hboth.mp hname)] at h
      exact (List.cons.inj h).2
    · exact hneither hname

/-! ## The normal form as it can be seen -/

/-- A path that begins with a slash and, unless it is the root, neither ends in one nor has a segment behind the first
that is empty, `.` or `..`. -/
structure IsTidy (path : String) : Prop where
  rooted : path.toList.head? = some '/'
  unslashed : path ≠ "/" → path.toList.getLast? ≠ some '/'
  named : path ≠ "/" → ∀ segment ∈ (segments path.toList).tail,
    segment ≠ [] ∧ segment ≠ ['.'] ∧ segment ≠ ['.', '.']

/-- A path that ends in a slash has an empty segment at its end. -/
theorem getLast?_segments {path : List Char} (h : path.getLast? = some '/') :
    (segments path).getLast? = some [] := by
  obtain ⟨front, rfl⟩ := List.getLast?_eq_some_iff.mp h
  rw [segments_append, List.getLast?_append]
  rfl

/-- **The normal form as it can be seen.** -/
theorem isNormal_iff_isTidy {path : String} : IsNormal path ↔ IsTidy path := by
  constructor
  · rintro ⟨passed, hfolders, hpath⟩
    have hne : path ≠ "/" → passed ≠ [] := by
      rintro hroot rfl
      exact hroot (String.toList_injective hpath)
    refine ⟨by rw [hpath]; rfl, ?_, ?_⟩
    · intro hroot hlast
      rw [hpath] at hlast
      have hempty := getLast?_segments hlast
      rw [segments_absolute (hne hroot) hfolders] at hempty
      obtain ⟨newest, older, rfl⟩ := List.exists_cons_of_ne_nil (hne hroot)
      rw [List.reverse_cons, ← List.cons_append, List.getLast?_concat] at hempty
      exact (hfolders newest (by simp)).1 (Option.some.inj hempty)
    · intro hroot segment hs
      rw [hpath, segments_absolute (hne hroot) hfolders, List.tail_cons, List.mem_reverse] at hs
      obtain ⟨hempty, hhere, hback, -⟩ := hfolders segment hs
      exact ⟨hempty, hhere, hback⟩
  · rintro ⟨hrooted, -, hnamed⟩
    by_cases hroot : path = "/"
    · subst hroot
      exact ⟨[], by simp, rfl⟩
    · obtain ⟨rest, hrest⟩ := List.head?_eq_some_iff.mp hrooted
      have hsegments : segments path.toList = [] :: segments rest := by
        rw [hrest]
        simp [segments, Text.fields]
      refine ⟨(segments rest).reverse, ?_, ?_⟩
      · intro segment hs
        rw [List.mem_reverse] at hs
        obtain ⟨hempty, hhere, hback⟩ := hnamed hroot segment (by rwa [hsegments])
        exact ⟨hempty, hhere, hback, Text.not_mem_of_mem_fields hs⟩
      · rw [hrest, absolute, List.reverse_reverse, Text.join_fields]

/-- **What resolving a path comes to.** The result is in normal form and stands for itself from every working folder;
resolving a path that goes on behind another is resolving it from where the other leads; and the result is the path to
the folder in which the way of the segments ends, by the rules for one segment. -/
theorem resolve_acts (cwd path : String) :
    IsTidy (resolve cwd path) ∧
    (∀ cwd', resolve cwd' (resolve cwd path) = resolve cwd path) ∧
    (path ≠ "" → ∀ rest : String, rest.toList.head? ≠ some '/' →
      resolve (resolve cwd path) rest = resolve cwd (path ++ "/" ++ rest)) ∧
    ∀ result, resolve cwd path = result ↔
      ∃ start last, Begins cwd.toList path.toList start ∧ Way start (segments path.toList) last ∧
        result = String.ofList (absolute last) := by
  refine ⟨isNormal_iff_isTidy.mp (isNormal_resolve cwd path), fun cwd' => resolve_resolve cwd cwd' path, ?_, ?_⟩
  · intro hpath rest hrest
    have hne : path.toList ≠ [] := by simpa using hpath
    have hjoined : (path ++ "/" ++ rest).toList = path.toList ++ '/' :: rest.toList := by simp
    simp only [resolve, String.toList_ofList, hjoined]
    rw [resolveChars_append hne hrest]
  · intro result
    simp only [begins_iff, way_segments_iff, resolve_eq]
    constructor
    · rintro rfl
      exact ⟨_, _, rfl, rfl, rfl⟩
    · rintro ⟨start, last, rfl, rfl, rfl⟩
      rfl

/-- A way that climbs past the root, from a working folder that is relative and ends in a slash. -/
theorem resolve_acts_above_root :
    "../../../x/" ≠ "" ∧ "y//../z".toList.head? ≠ some '/' ∧ resolve "a/b/" "../../../x/" = "/x" ∧
      resolve "/x" "y//../z" = "/x/z" ∧ resolve "a/b/" "../../../x//y//../z" = "/x/z" :=
  have hfirst : resolve "a/b/" "../../../x/" = "/x" := by decide
  have hsecond : resolve "/x" "y//../z" = "/x/z" := by decide
  have hacts := (resolve_acts "a/b/" "../../../x/").2.2.1 (by decide) "y//../z" (by decide)
  ⟨by decide, by decide, hfirst, hsecond, by rw [← hsecond, ← hfirst]; exact hacts.symm⟩

end RemoteShell.Path
