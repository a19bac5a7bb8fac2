import RemoteShell.Proofs.Completion.Candidates
import RemoteShell.Proofs.Path.Way

/-!
# Requests that look the same

The service sees of a path that is typed only the folder or file it leads to, while a candidate is the typed folder
part with a name behind it. Two values can lead to one place and be continued in two: `docs` and `docs/` are asked for
alike, and a candidate for the one lies beside `docs`, for the other inside. Here stands when that happens. It does not
among values that end in a name, as `a/../do` and `do` do; it always does between one that ends in a name and one that
does not.

Main statements:

* `Typed.sameFiles_iff`: values that lead to one place, and the files their candidates mean.
* `Completer.sameFiles_iff_of_start`: the same for what two requests wait for.
-/

namespace RemoteShell

namespace Typed

/-- The folder part of what is typed, with its last slash. -/
def folderPart (typed : Typed) : String :=
  (Path.splitTyped typed.value).1

/-- Whether what is typed ends in the name of a file, or in the beginning of one. -/
def EndsInName (typed : Typed) : Prop :=
  Path.IsFolder (Path.splitTyped typed.value).2.toList

instance (typed : Typed) : Decidable typed.EndsInName :=
  inferInstanceAs (Decidable (Path.IsFolder _))

/-- The file that a candidate means: it reads as the folder part with a name behind it. -/
def file (typed : Typed) (cwd name : String) : String :=
  Path.resolve cwd (typed.folderPart ++ name)

/-- Candidates for either of two values mean the same file, whatever the name. -/
def SameFiles (cwd : String) (typed other : Typed) : Prop :=
  ∀ name : String, Path.IsFolder name.toList → typed.file cwd name = other.file cwd name

variable {cwd : String} {typed other : Typed}

theorem isFolderPart_folderPart (typed : Typed) : Path.IsFolderPart typed.folderPart.toList := by
  rw [folderPart, Path.splitTyped, String.toList_ofList]
  exact Path.isFolderPart_splitChars _

theorem slash_not_mem_fragment (typed : Typed) : '/' ∉ (Path.splitTyped typed.value).2.toList := by
  rw [Path.splitTyped, String.toList_ofList]
  exact Path.slash_not_mem_splitChars _

/-- What is typed leads one step further than its folder part. -/
theorem place_value (cwd : String) (typed : Typed) :
    Path.place cwd.toList typed.value.toList =
      Path.step (Path.place cwd.toList typed.folderPart.toList) (Path.splitTyped typed.value).2.toList := by
  rw [← Path.place_folderPart_append typed.isFolderPart_folderPart typed.slash_not_mem_fragment]
  congr 1
  simp only [folderPart, Path.splitTyped, String.toList_ofList, Path.splitChars_append]

/-- Candidates mean the same files if the folder parts lead to the same folder. -/
theorem sameFiles_iff_folderPart :
    SameFiles cwd typed other ↔ Path.resolve cwd typed.folderPart = Path.resolve cwd other.folderPart := by
  have hfile : ∀ (v : Typed) {name : String}, Path.IsFolder name.toList →
      Path.place cwd.toList (v.folderPart ++ name).toList =
        name.toList :: Path.place cwd.toList v.folderPart.toList := by
    intro v name hname
    rw [String.toList_append, Path.place_folderPart_append v.isFolderPart_folderPart hname.2.2.2,
      Path.step_of_isFolder hname]
  constructor
  · intro hsame
    have hname : Path.IsFolder "a".toList := by decide
    have hone := hsame "a" hname
    rw [file, file, Path.resolve_eq_iff, hfile typed hname, hfile other hname] at hone
    exact Path.resolve_eq_iff.mpr (List.cons.inj hone).2
  · intro hfolder name hname
    rw [file, file, Path.resolve_eq_iff, hfile typed hname, hfile other hname, Path.resolve_eq_iff.mp hfolder]

/-- **Values that lead to one place.** Their candidates mean the same files exactly if both or neither end in a name,
and, if neither does, their folder parts lead to one place as well. -/
theorem sameFiles_iff (h : Path.resolve cwd typed.value = Path.resolve cwd other.value) :
    SameFiles cwd typed other ↔ (typed.EndsInName ↔ other.EndsInName) ∧
      (¬ typed.EndsInName → Path.resolve cwd typed.folderPart = Path.resolve cwd other.folderPart) := by
  rw [Path.resolve_eq_iff, place_value, place_value] at h
  rw [sameFiles_iff_folderPart, Path.resolve_eq_iff]
  exact Path.eq_iff_of_step_eq typed.slash_not_mem_fragment other.slash_not_mem_fragment h

end Typed

/-- A request is for the place that the value being typed leads to. -/
theorem Completer.path_of_start {completer next : Completer} {registry : Registry} {line cwd : String} {pos : Nat}
    {request : MatchRequest} (h : completer.start registry line pos cwd = (next, .ask request)) :
    ∃ p, next.pending = some p ∧ request.path = Path.resolve cwd p.typed.value := by
  unfold Completer.start at h
  dsimp only at h
  split at h
  · simp at h
  · next typed path container hoffer =>
      obtain ⟨rfl, hrequest⟩ := Prod.mk.inj h
      obtain rfl := CompletionStep.ask.inj hrequest
      exact ⟨_, rfl, (Offer.path_of_ask hoffer).2.2⟩

/-- **Equal requests and the files of their candidates.** Let completion ask the service about two lines, from one
working folder and for the same path. What waits for the answers are two values, and the candidates for a name mean the
same file, whatever the name, exactly if both or neither value ends in a name, and, if neither does, the folder parts
lead to one place. -/
theorem Completer.sameFiles_iff_of_start {first second next next' : Completer} {registry : Registry}
    {line line' cwd : String} {pos pos' : Nat} {request request' : MatchRequest}
    (hfirst : first.start registry line pos cwd = (next, .ask request))
    (hsecond : second.start registry line' pos' cwd = (next', .ask request')) (hpath : request.path = request'.path) :
    ∃ p q, next.pending = some p ∧ next'.pending = some q ∧
      (Typed.SameFiles cwd p.typed q.typed ↔ (p.typed.EndsInName ↔ q.typed.EndsInName) ∧
        (¬ p.typed.EndsInName →
          Path.resolve cwd p.typed.folderPart = Path.resolve cwd q.typed.folderPart)) := by
  obtain ⟨p, hp, hasked⟩ := Completer.path_of_start hfirst
  obtain ⟨q, hq, hagain⟩ := Completer.path_of_start hsecond
  rw [hasked, hagain] at hpath
  exact ⟨p, q, hp, hq, Typed.sameFiles_iff hpath⟩

/-- Two spellings of one path, both with a name at the end. -/
theorem sameFiles_respelled :
    ∃ next next' request request' p q,
      ({} : Completer).start Commands.registry "ls docs/../re" 13 "/a" = (next, .ask request) ∧
      ({} : Completer).start Commands.registry "ls path=\"../a//re" 18 "/a" = (next', .ask request') ∧
      request.path = request'.path ∧ next.pending = some p ∧ next'.pending = some q ∧
      Typed.SameFiles "/a" p.typed q.typed := by
  have hfirst : ({} : Completer).start Commands.registry "ls docs/../re" 13 "/a" =
      ({ pending := some { id := 1, typed := { value := "docs/../re" }, start := 3 }, nextId := 2 },
        .ask { id := 1, path := "/a/re", container := false }) := by
    decide +kernel
  have hsecond : ({} : Completer).start Commands.registry "ls path=\"../a//re" 18 "/a" =
      ({ pending := some { id := 1, typed := { name := some "path", value := "../a//re", mark := some '"' }
                           start := 3 }
         nextId := 2 }, .ask { id := 1, path := "/a/re", container := false }) := by
    decide +kernel
  obtain ⟨p, q, hp, hq, hiff⟩ := Completer.sameFiles_iff_of_start hfirst hsecond rfl
  refine ⟨_, _, _, _, p, q, hfirst, hsecond, rfl, hp, hq, hiff.mpr ?_⟩
  obtain rfl := Option.some.inj hp
  obtain rfl := Option.some.inj hq
  decide

/-- **A slash at the end is lost in the request.** The service is asked the same for `docs` and for `docs/`, but the
candidates for the name `a` mean two files. -/
theorem not_sameFiles_slash :
    ∃ next next' request p q,
      ({} : Completer).start Commands.registry "ls docs" 7 "/" = (next, .ask request) ∧
      ({} : Completer).start Commands.registry "ls docs/" 8 "/" = (next', .ask request) ∧
      next.pending = some p ∧ next'.pending = some q ∧ p.candidate "a" = "a" ∧ q.candidate "a" = "docs/a" ∧
      Path.IsFolder "a".toList ∧ p.typed.file "/" "a" = "/a" ∧ q.typed.file "/" "a" = "/docs/a" ∧
      ¬ Typed.SameFiles "/" p.typed q.typed := by
  refine ⟨{ pending := some { id := 1, typed := { value := "docs" }, start := 3 }, nextId := 2 },
    { pending := some { id := 1, typed := { value := "docs/" }, start := 3 }, nextId := 2 },
    { id := 1, path := "/docs", container := false }, { id := 1, typed := { value := "docs" }, start := 3 },
    { id := 1, typed := { value := "docs/" }, start := 3 }, ?_, ?_, rfl, rfl, ?_, ?_, ?_, ?_, ?_, ?_⟩
  · decide +kernel
  · decide +kernel
  · decide
  · decide
  · decide
  · decide
  · decide
  · intro hsame
    exact absurd (hsame "a" (by decide)) (by decide)

end RemoteShell
