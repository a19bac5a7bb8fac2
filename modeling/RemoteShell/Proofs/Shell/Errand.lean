import Mathlib.Data.List.Induction
import RemoteShell.Proofs.Shell.FolderLine
import RemoteShell.Proofs.Shell.Output

/-!
# Lines and their errands

A line that is given to the shell is carried out at once, and may leave an errand: one call of the service, and a task
for what it comes to. Apart from `cd` and `pushd`, which are on their way to another folder, `mail`, which asks the user,
and `pager`, the errand depends on the line and the working folder alone.

A journal says which lines were given, in which session each of them, and what number its call will have. It goes from
line to line, and no outcome has a part in it.

Main statements:

* `planOf_work`: the errand of a line, from the line and the working folder.
* `Shell.submit_isolated`: what a line does to the shell.
* `Shell.tickets_journal`: errands are numbered in the order of their lines.
-/

namespace RemoteShell

/-- The commands that change nothing which other lines depend on, once they have returned. -/
def Verb.isIsolated : Verb → Bool
  | .cd | .pushd | .mail | .pager => false
  | _ => true

/-- A line that is an isolated command, or none at all. -/
def IsIsolatedLine (registry : Registry) (line : String) : Prop :=
  ∀ c ∈ (commandWord? line).bind registry.lookup, c.verb.isIsolated = true

instance (registry : Registry) (line : String) : Decidable (IsIsolatedLine registry line) :=
  decidable_of_iff (((commandWord? line).bind registry.lookup).all (·.verb.isIsolated) = true)
    (by cases h : (commandWord? line).bind registry.lookup <;> simp [IsIsolatedLine, h])

/-- What a line can look at that is given in a session, with paging off. -/
def Session.unpaged (registry : Registry) (session : Session) : Surroundings :=
  { registry, session, paging := false }

/-- The call that some work is, with its task. -/
def Work.errand? : Work → Option (Call × Task)
  | .call asked task => some (asked, task)
  | .letter _ => none

/-- Whether some work is a call that is not on the way to a folder. -/
def Work.isIsolated : Work → Bool
  | .call _ (.enter _ _) => false
  | .call _ _ => true
  | .letter _ => false

/-- **The errand of a line** that is given in a folder. -/
def errandOf? (registry : Registry) (cwd line : String) : Option (Call × Task) :=
  (planOf (Session.unpaged registry { cwd, home := cwd }) line).work.bind Work.errand?

/-! ## Plans of isolated commands -/

namespace Plan

/-- An isolated command leaves a call or nothing, and is not on its way to a folder. -/
theorem work_ofVerb_isolated {verb : Verb} (h : verb.isIsolated = true) (s : Surroundings) (args : Arguments) :
    ∀ work ∈ (ofVerb s args verb).work, work.isIsolated = true := by
  cases verb with
  | cd | pushd | mail | pager => simp [Verb.isIsolated] at h
  | lookup =>
      simp only [ofVerb, lookup]
      split <;> simp [ask, now, Work.isIsolated]
  | pshare =>
      simp only [ofVerb, addPathPolicy]
      split <;> simp [ask, now, Work.isIsolated]
  | gattr =>
      simp only [ofVerb, setAttributes]
      split <;> simp [ask, now, Work.isIsolated]
  | _ => simp [ofVerb, now, ask, who, changeFolder, link, applyPolicy, copyUsers, addMailer, Work.isIsolated]

/-- What an isolated command leaves depends on the session by its working folder only. -/
theorem work_ofVerb_congr {verb : Verb} (h : verb.isIsolated = true) {s t : Surroundings}
    (hcwd : s.session.cwd = t.session.cwd) (args : Arguments) :
    (ofVerb s args verb).work = (ofVerb t args verb).work := by
  cases verb with
  | cd | pushd | mail | pager => simp [Verb.isIsolated] at h
  | ls => simp only [ofVerb, hcwd]
  | _ => rfl

end Plan

/-! ## Isolated lines -/

/-- A line that is read as a command is one of the command that its first word names. -/
theorem lookup_of_parseLine {registry : Registry} {line cwd : String} {i : Invocation}
    (h : parseLine registry line cwd = .ok (some i)) : (commandWord? line).bind registry.lookup = some i.command := by
  obtain ⟨head, rest, htokens, -, -, hlookup, -⟩ := parseTokens_eq_ok_some_iff.mp h
  rw [commandWord?, htokens]
  exact hlookup

section

variable {registry : Registry} {line : String}

/-- An isolated line does something that the folder settles, or what an isolated command does. -/
theorem planOf_cases (h : IsIsolatedLine registry line) (cwd : String) :
    (∃ plan : Plan, plan.work = none ∧ (∀ e ∈ plan.effects, ∀ enabled, e ≠ .setPaging enabled) ∧
        ∀ session : Session, session.cwd = cwd → planOf (session.unpaged registry) line = plan) ∨
      ∃ args verb, Verb.isIsolated verb = true ∧ ∀ session : Session, session.cwd = cwd →
        planOf (session.unpaged registry) line = Plan.ofVerb (session.unpaged registry) args verb := by
  cases hread : parseLine registry line cwd with
  | error e =>
      refine Or.inl ⟨.now [.error (Shell.complaint e)], rfl, by simp [Plan.now], ?_⟩
      rintro session rfl
      rw [planOf, Session.unpaged, hread]
  | ok found =>
      cases found with
      | none =>
          refine Or.inl ⟨{}, rfl, by simp, ?_⟩
          rintro session rfl
          rw [planOf, Session.unpaged, hread]
      | some i =>
          refine Or.inr ⟨i.args, i.command.verb, h i.command (lookup_of_parseLine hread), ?_⟩
          rintro session rfl
          rw [planOf, Session.unpaged, hread]

/-- An isolated line leaves paging as it is. -/
theorem effects_planOf (h : IsIsolatedLine registry line) (session : Session) :
    ∀ e ∈ (planOf (session.unpaged registry) line).effects, ∀ enabled, e ≠ .setPaging enabled := by
  rcases planOf_cases h session.cwd with ⟨plan, -, heffects, hplan⟩ | ⟨args, verb, hverb, hplan⟩
  · rw [hplan session rfl]
    exact heffects
  · rw [hplan session rfl]
    refine Plan.effects_ofVerb ?_ _ args
    rintro rfl
    simp [Verb.isIsolated] at hverb

/-- What an isolated line leaves is a call that is not on the way to a folder. -/
theorem isIsolated_work_planOf (h : IsIsolatedLine registry line) (session : Session) :
    ∀ work ∈ (planOf (session.unpaged registry) line).work, work.isIsolated = true := by
  rcases planOf_cases h session.cwd with ⟨plan, hwork, -, hplan⟩ | ⟨args, verb, hverb, hplan⟩
  · rw [hplan session rfl, hwork]
    simp
  · rw [hplan session rfl]
    exact Plan.work_ofVerb_isolated hverb _ args

/-- **What an isolated line leaves is the errand of the line in the working folder.** -/
theorem planOf_work (h : IsIsolatedLine registry line) (session : Session) :
    (planOf (session.unpaged registry) line).work =
      (errandOf? registry session.cwd line).map fun errand => .call errand.1 errand.2 := by
  -- A session that has nothing but this folder leaves the same work.
  generalize hbare : ({ cwd := session.cwd, home := session.cwd } : Session) = bare
  have hcwd : bare.cwd = session.cwd := by rw [← hbare]
  have hsame : (planOf (session.unpaged registry) line).work = (planOf (bare.unpaged registry) line).work := by
    rcases planOf_cases h session.cwd with ⟨plan, -, -, hplan⟩ | ⟨args, verb, hverb, hplan⟩
    · rw [hplan session rfl, hplan bare hcwd]
    · rw [hplan session rfl, hplan bare hcwd]
      exact Plan.work_ofVerb_congr hverb hcwd.symm args
  have hisolated := isIsolated_work_planOf h bare
  rw [hsame, errandOf?, hbare]
  cases hwork : (planOf (bare.unpaged registry) line).work with
  | none => rfl
  | some work =>
      cases work with
      | call call task => rfl
      | letter letter => simpa [Work.isIsolated] using hisolated _ hwork

/-- An errand is not on the way to a folder. -/
theorem ne_enter_of_errandOf? (h : IsIsolatedLine registry line) {cwd : String} {call : Call} {task : Task}
    (herrand : errandOf? registry cwd line = some (call, task)) (folder : String) (remembered : Bool) :
    task ≠ .enter folder remembered := by
  have hwork := planOf_work h { cwd, home := cwd }
  rw [herrand] at hwork
  have hisolated := isIsolated_work_planOf h { cwd, home := cwd } _ hwork
  rintro rfl
  simp [Work.isIsolated] at hisolated

end

namespace Shell

/-- What has no part in paging is written, and leaves the pager as it is. -/
theorem performAll_unpaged {s : Shell} (hidle : s.isPaging = false) (hpaging : s.console.paging = false)
    {effects : List Effect} (h : ∀ e ∈ effects, ∀ enabled, e ≠ .setPaging enabled) :
    s.performAll effects =
      { s with
        console := { s.console with queue := s.console.queue ++ effects.flatMap Effect.output }
        session := effects.foldl Effect.move s.session } := by
  obtain ⟨hfits, hoff⟩ := fitsScreen_of_no_switch s.console.pager.rows h
  rw [← hpaging] at hfits
  rw [performAll_eq, Console.foldl_perform_eq_wrote hidle hfits, Console.wrote, hpaging, hoff,
    Pager.setEnabled_self hpaging]

/-- **What an isolated line does.** It writes, it may change the session, and its errand goes to the end of the queue. -/
theorem submit_isolated {s : Shell} (hidle : s.isPaging = false) (hasking : s.isAsking = false)
    (hpaging : s.console.paging = false) {line : String} (h : IsIsolatedLine s.registry line) :
    s.submit line =
      { s with
        console := { s.console with
          queue := s.console.queue ++
            (planOf (s.session.unpaged s.registry) line).effects.flatMap Effect.output }
        session := (planOf (s.session.unpaged s.registry) line).effects.foldl Effect.move s.session
        ready := s.ready ++
          ((errandOf? s.registry s.session.cwd line).map fun errand => Job.call errand.1 (.task errand.2)).toList } := by
  have hcommand : s.submit line = s.carryOut (planOf (s.session.unpaged s.registry) line) := by
    have hlook : s.surroundings = s.session.unpaged s.registry := by rw [surroundings, hpaging, Session.unpaged]
    simp only [submit, hidle, hasking, Bool.false_eq_true, if_false]
    rw [runCommand_eq, hlook]
  rw [hcommand, carryOut, performAll_unpaged hidle hpaging (effects_planOf h s.session), planOf_work h s.session]
  cases errandOf? s.registry s.session.cwd line with
  | none => simp
  | some errand => rfl

end Shell

/-! ## Journals -/

/-- A line that was given. -/
structure Given where
  line : String
  /-- The session in which it was given. -/
  session : Session
  /-- The number of its call, if it leaves an errand. -/
  ticket : Nat
deriving DecidableEq, Repr

/-- The errand of a line that was given. -/
structure Errand where
  given : Given
  call : Call
  task : Task
deriving DecidableEq, Repr

/-- The errand of a line, from the line and the folder it was given in. -/
def Given.errand? (registry : Registry) (g : Given) : Option Errand :=
  (errandOf? registry g.session.cwd g.line).map fun errand => { given := g, call := errand.1, task := errand.2 }

/-- The lines given so far, with the session and the number of the next call after them. -/
structure Journal where
  given : List Given
  session : Session
  calls : Nat

namespace Journal

/-- Takes a line down. -/
def note (registry : Registry) (j : Journal) (line : String) : Journal :=
  let g : Given := { line, session := j.session, ticket := j.calls }
  { given := j.given ++ [g]
    session := (planOf (j.session.unpaged registry) line).effects.foldl Effect.move j.session
    calls := j.calls + (g.errand? registry).toList.length }

/-- The errands of the lines, in order. -/
def errands (registry : Registry) (j : Journal) : List Errand :=
  j.given.filterMap (Given.errand? registry)

theorem errands_note (registry : Registry) (j : Journal) (line : String) :
    (j.note registry line).errands registry = j.errands registry ++
      (Given.errand? registry { line, session := j.session, ticket := j.calls }).toList := by
  rw [errands, note, List.filterMap_append]
  cases h : Given.errand? registry { line, session := j.session, ticket := j.calls } with
  | none => simp [errands, h]
  | some e => simp [errands, h]

end Journal

/-- The journal of some lines that are given to a shell one after the other. -/
def Shell.journal (s : Shell) (lines : List String) : Journal :=
  lines.foldl (Journal.note s.registry) { given := [], session := s.session, calls := s.calls }

namespace Shell

variable {s : Shell}

theorem journal_snoc (lines : List String) (line : String) :
    s.journal (lines ++ [line]) = (s.journal lines).note s.registry line := by
  rw [journal, List.foldl_append]
  rfl

theorem errands_journal_snoc (lines : List String) (line : String) :
    (s.journal (lines ++ [line])).errands s.registry = (s.journal lines).errands s.registry ++
      (Given.errand? s.registry
        { line, session := (s.journal lines).session, ticket := (s.journal lines).calls }).toList := by
  rw [journal_snoc, Journal.errands_note]

/-- The number of the next call is that of the errands so far. -/
theorem calls_journal (lines : List String) :
    (s.journal lines).calls = s.calls + ((s.journal lines).errands s.registry).length := by
  induction lines using List.reverseRecOn with
  | nil => rfl
  | append_singleton lines line ih =>
      rw [errands_journal_snoc, List.length_append, ← Nat.add_assoc, ← ih, journal_snoc]
      rfl

/-- **Errands are numbered in the order of their lines.** -/
theorem tickets_journal (lines : List String) :
    ((s.journal lines).errands s.registry).map (·.given.ticket) =
      List.range' s.calls ((s.journal lines).errands s.registry).length := by
  induction lines using List.reverseRecOn with
  | nil => rfl
  | append_singleton lines line ih =>
      rw [errands_journal_snoc, List.map_append, List.length_append, ih, ← List.range'_append_1, ← calls_journal]
      cases h : Given.errand? s.registry
          { line, session := (s.journal lines).session, ticket := (s.journal lines).calls } with
      | none => rfl
      | some e =>
          obtain ⟨errand, -, rfl⟩ := Option.map_eq_some_iff.mp h
          rfl

/-- An errand is that of a line that was given. -/
theorem mem_errands_journal {lines : List String} {e : Errand} (he : e ∈ (s.journal lines).errands s.registry) :
    e.given ∈ (s.journal lines).given ∧ errandOf? s.registry e.given.session.cwd e.given.line = some (e.call, e.task) := by
  obtain ⟨g, hg, hread⟩ := List.mem_filterMap.mp he
  obtain ⟨errand, herrand, rfl⟩ := Option.map_eq_some_iff.mp hread
  exact ⟨hg, herrand⟩

theorem line_given_journal (lines : List String) : (s.journal lines).given.map (·.line) = lines := by
  induction lines using List.reverseRecOn with
  | nil => rfl
  | append_singleton lines line ih =>
      rw [journal_snoc, Journal.note, List.map_append, ih]
      rfl

/-- The errands of isolated lines are not on the way to a folder. -/
theorem ne_enter_of_mem_errands {lines : List String} (h : ∀ line ∈ lines, IsIsolatedLine s.registry line) {e : Errand}
    (he : e ∈ (s.journal lines).errands s.registry) (folder : String) (remembered : Bool) :
    e.task ≠ .enter folder remembered := by
  obtain ⟨hgiven, herrand⟩ := mem_errands_journal he
  have hline : e.given.line ∈ lines := by
    rw [← line_given_journal (s := s) lines]
    exact List.mem_map_of_mem hgiven
  exact ne_enter_of_errandOf? (h _ hline) herrand folder remembered

end Shell

end RemoteShell
