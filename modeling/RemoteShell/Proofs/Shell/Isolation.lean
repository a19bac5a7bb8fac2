import Mathlib.Data.List.Perm.Subperm
import RemoteShell.Commands.Table
import RemoteShell.Proofs.Shell.Errand

/-!
# Commands that wait for the service at the same time

Lines are given to a shell, calls are made, and replies come in whatever order the service likes; some come at once. Who
wrote which lines of the output, and what was the service asked? As long as paging is off and the lines are isolated,
the output is made of blocks. A block is what one line wrote at once or what one reply wrote, it depends on nothing else,
and no other line writes into it. Another order of the replies gives the same blocks in another order.

The account of a run is kept in a ledger: which errands have been taken to the service, which of their replies are on
the desk, and which blocks were written. One lemma for each kind of event says how the ledger goes on.

Main statements:

* `Ledger.Describes.submit`, `Ledger.Describes.attend`, `Ledger.Describes.deliver`: how the ledger goes on.
* `Watched.exists_ledger`: every run has a ledger.
* `Watched.isolated`: blocks, calls, and runs that differ in the order of replies.
-/

namespace RemoteShell

/-! ## Runs that are watched -/

/-- What happens to a shell. -/
inductive Event where
  /-- A line is given. -/
  | line (text : String)
  /-- All jobs are carried on until they wait. -/
  | settle
  /-- Jobs are carried on until one ends. -/
  | next
  /-- The reply to the call with a number comes. -/
  | reply (ticket : Nat)
deriving DecidableEq, Repr

/-- The lines that are given. -/
def Event.line? : Event → Option String
  | .line text => some text
  | _ => none

/-- The call that is replied to. -/
def Event.reply? : Event → Option Nat
  | .reply ticket => some ticket
  | _ => none

/-- A service that takes every call down. It gives some of its answers at once, and keeps the others until they are
delivered. -/
def watching (atOnce : Nat → Bool) (answer : Nat → Outcome) : Service (List Call) := fun ticket call log =>
  (if atOnce ticket then some (answer ticket) else none, log ++ [call])

/-- A shell, and the calls it has made. -/
structure Watched where
  shell : Shell
  log : List Call

namespace Watched

/-- What an event does. -/
def step (atOnce : Nat → Bool) (answer : Nat → Outcome) (w : Watched) : Event → Watched
  | .line text => { w with shell := w.shell.submit text }
  | .settle =>
    let settled := Shell.settle (watching atOnce answer) w.shell w.log
    { shell := settled.1, log := settled.2 }
  | .next =>
    let turn := Shell.next (watching atOnce answer) w.shell w.log
    { shell := turn.shell, log := turn.world }
  | .reply ticket => { w with shell := w.shell.deliver ticket (answer ticket) }

/-- What events do, one after the other. -/
def run (atOnce : Nat → Bool) (answer : Nat → Outcome) (s : Shell) (events : List Event) : Watched :=
  events.foldl (step atOnce answer) { shell := s, log := [] }

end Watched

/-- A shell that nothing is going on in: paging is off, nothing owns the input, and there are no jobs. -/
structure Shell.IsQuiet (s : Shell) : Prop where
  paging : s.console.paging = false
  idle : s.isPaging = false
  asking : s.isAsking = false
  ready : s.ready = []
  waiting : s.waiting = []

/-- Nothing is pending if no job can go on and none waits. -/
theorem Shell.hasPending_eq_false_iff {s : Shell} : s.hasPending = false ↔ s.ready = [] ∧ s.waiting = [] := by
  simp [hasPending]

/-! ## Blocks and ledgers -/

/-- Lines of the output that belong together. -/
inductive Block where
  /-- What a line wrote at once. -/
  | atOnce (given : Given)
  /-- What the reply to an errand wrote. -/
  | reply (errand : Errand)
deriving DecidableEq, Repr

namespace Block

/-- The lines of a block. What a line writes at once depends on the line and the session it is given in, what a reply
writes on the errand and the reply alone. -/
def output (registry : Registry) (style : Style) (answer : Nat → Outcome) : Block → List OutputLine
  | .atOnce g => (planOf (g.session.unpaged registry) g.line).effects.flatMap Effect.output
  | .reply e => (e.task.conclude style (answer e.given.ticket)).flatMap Effect.output

/-- The line of a block that a line wrote at once. -/
def given? : Block → Option Given
  | .atOnce g => some g
  | .reply _ => none

/-- The errand of a block that a reply wrote. -/
def errand? : Block → Option Errand
  | .atOnce _ => none
  | .reply e => some e

@[simp]
theorem filterMap_given?_atOnce (g : Given) : [Block.atOnce g].filterMap given? = [g] := rfl

@[simp]
theorem filterMap_given?_reply (e : Errand) : [Block.reply e].filterMap given? = [] := rfl

@[simp]
theorem filterMap_errand?_atOnce (g : Given) : [Block.atOnce g].filterMap errand? = [] := rfl

@[simp]
theorem filterMap_errand?_reply (e : Errand) : [Block.reply e].filterMap errand? = [e] := rfl

end Block

/-- A job of an errand: its call, or its reply. -/
inductive Entry where
  | call (errand : Errand)
  | conclude (errand : Errand)

namespace Entry

/-- The job itself. -/
def job (answer : Nat → Outcome) : Entry → Job
  | .call e => .call e.call (.task e.task)
  | .conclude e => .conclude (.task e.task) (answer e.given.ticket)

/-- The errand, if it is still to be taken to the service. -/
def call? : Entry → Option Errand
  | .call e => some e
  | .conclude _ => none

/-- The errand, if its reply has come. -/
def replied? : Entry → Option Errand
  | .call _ => none
  | .conclude e => some e

end Entry

/-- The job of an errand that waits for its reply. -/
def Errand.waiting (e : Errand) : Waiting :=
  .reply e.given.ticket (.task e.task)

namespace Errand

theorem aim?_waiting (ticket : Nat) (e : Errand) :
    Waiting.aim? ticket e.waiting = if e.given.ticket = ticket then some (.task e.task) else none := rfl

/-- The errands that wait for the reply to a call. -/
theorem filterMap_aim?_waiting (ticket : Nat) (errands : List Errand) :
    (errands.map waiting).filterMap (Waiting.aim? ticket) =
      (errands.filter (·.given.ticket == ticket)).map fun e => Aim.task e.task := by
  induction errands with
  | nil => rfl
  | cons e rest ih =>
      by_cases hticket : e.given.ticket = ticket
      · simp [aim?_waiting, hticket, ih]
      · simp [aim?_waiting, hticket, ih]

/-- The errands that wait for other replies. -/
theorem filter_aim?_waiting (ticket : Nat) (errands : List Errand) :
    ((errands.map waiting).filter fun w => (Waiting.aim? ticket w).isNone) =
      (errands.filter (·.given.ticket != ticket)).map waiting := by
  induction errands with
  | nil => rfl
  | cons e rest ih =>
      by_cases hticket : e.given.ticket = ticket
      · simp [aim?_waiting, hticket, ih]
      · simp [aim?_waiting, hticket, ih]

end Errand

/-- The errands that have been taken to the service, the jobs that can go on, the errands that wait for their reply, and
the blocks of the output. -/
structure Ledger where
  made : List Errand := []
  ready : List Entry := []
  waiting : List Errand := []
  blocks : List Block := []

/-- The ledger of a run from a quiet shell: `lines` have been given, and the calls in `replies` were replied to. -/
structure Ledger.Describes (l : Ledger) (s : Shell) (atOnce : Nat → Bool) (answer : Nat → Outcome) (lines : List String)
    (replies : List Nat) (w : Watched) : Prop where
  registry : w.shell.registry = s.registry
  console : w.shell.console = { s.console with
    queue := s.console.queue ++ l.blocks.flatMap (Block.output s.registry s.console.style answer) }
  session : w.shell.session = (s.journal lines).session
  ready : w.shell.ready = l.ready.map (Entry.job answer)
  waiting : w.shell.waiting = l.waiting.map Errand.waiting
  calls : w.shell.calls = s.calls + l.made.length
  log : w.log = l.made.map (·.call)
  /-- Errands are taken to the service in the order of their lines. -/
  errands : l.made ++ l.ready.filterMap Entry.call? = (s.journal lines).errands s.registry
  /-- An errand that was taken to the service waits for its reply, has it on the desk, or is done. -/
  places : l.made.Perm (l.waiting ++ (l.ready.filterMap Entry.replied? ++ l.blocks.filterMap Block.errand?))
  given : l.blocks.filterMap Block.given? = (s.journal lines).given
  /-- A line writes at once before the reply to its errand does. -/
  after : ∀ before e, before ++ [.reply e] <+: l.blocks → .atOnce e.given ∈ before
  /-- Replies write in the order in which they come. -/
  order : (((l.blocks.filterMap Block.errand? ++ l.ready.filterMap Entry.replied?).map (·.given.ticket)).filter
    fun ticket => !atOnce ticket).Sublist replies

namespace Ledger

/-- A line is given: it writes at once, and its errand is to be taken to the service. -/
def submit (l : Ledger) (registry : Registry) (g : Given) : Ledger :=
  { l with ready := l.ready ++ (g.errand? registry).toList.map .call, blocks := l.blocks ++ [.atOnce g] }

/-- An errand is taken to the service, which gives the answer at once or keeps it. -/
def ask (l : Ledger) (atOnce : Bool) (e : Errand) (rest : List Entry) : Ledger :=
  if atOnce then { l with made := l.made ++ [e], ready := rest, blocks := l.blocks ++ [.reply e] }
  else { l with made := l.made ++ [e], ready := rest, waiting := l.waiting ++ [e] }

/-- A reply writes. -/
def conclude (l : Ledger) (e : Errand) (rest : List Entry) : Ledger :=
  { l with ready := rest, blocks := l.blocks ++ [.reply e] }

/-- The reply to a call comes. -/
def deliver (l : Ledger) (ticket : Nat) : Ledger :=
  { l with
    ready := l.ready ++ (l.waiting.filter (·.given.ticket == ticket)).map .conclude
    waiting := l.waiting.filter (·.given.ticket != ticket) }

namespace Describes

variable {l : Ledger} {s : Shell} {atOnce : Nat → Bool} {answer : Nat → Outcome} {lines : List String}
  {replies : List Nat} {w : Watched}

/-- At the beginning nothing has happened. -/
theorem start (hquiet : s.IsQuiet) : ({} : Ledger).Describes s atOnce answer [] [] { shell := s, log := [] } where
  registry := rfl
  console := by simp
  session := rfl
  ready := hquiet.ready
  waiting := hquiet.waiting
  calls := rfl
  log := rfl
  errands := rfl
  places := List.Perm.refl _
  given := rfl
  after := by simp
  order := by simp

/-- Paging stays off, and nothing takes the input over. -/
theorem isQuiet (h : l.Describes s atOnce answer lines replies w) (hquiet : s.IsQuiet) :
    w.shell.console.paging = false ∧ w.shell.isPaging = false ∧ w.shell.isAsking = false := by
  rw [Shell.isPaging, Shell.isAsking, h.console]
  exact ⟨hquiet.paging, hquiet.idle, hquiet.asking⟩

/-- An errand that was taken to the service is that of a line. -/
theorem mem_errands (h : l.Describes s atOnce answer lines replies w) {e : Errand} (he : e ∈ l.made) :
    e ∈ (s.journal lines).errands s.registry := by
  rw [← h.errands]
  exact List.mem_append_left _ he

/-- Before the reply to an errand writes, the line has written. -/
theorem after_snoc (h : l.Describes s atOnce answer lines replies w) {e : Errand}
    (he : e ∈ (s.journal lines).errands s.registry) :
    ∀ before other, before ++ [.reply other] <+: l.blocks ++ [.reply e] → .atOnce other.given ∈ before := by
  intro before other hbefore
  rcases List.prefix_concat_iff.mp hbefore with heq | hbefore
  · obtain ⟨rfl, hlast⟩ := List.append_inj' heq rfl
    obtain rfl : other = e := by simpa using hlast
    have hgiven := (Shell.mem_errands_journal he).1
    rw [← h.given] at hgiven
    obtain ⟨block, hblock, hg⟩ := List.mem_filterMap.mp hgiven
    cases block with
    | atOnce g =>
        obtain rfl := Option.some.inj hg
        exact hblock
    | reply e => simp [Block.given?] at hg
  · exact h.after before other hbefore

/-- **A line is given.** -/
theorem submit (h : l.Describes s atOnce answer lines replies w) (hquiet : s.IsQuiet) {line : String}
    (hline : IsIsolatedLine s.registry line) :
    (l.submit s.registry
        { line, session := (s.journal lines).session, ticket := (s.journal lines).calls }).Describes s atOnce answer
      (lines ++ [line]) replies { w with shell := w.shell.submit line } := by
  obtain ⟨hpaging, hidle, hasking⟩ := h.isQuiet hquiet
  have hisolated : IsIsolatedLine w.shell.registry line := by rwa [h.registry]
  have hsubmit := Shell.submit_isolated hidle hasking hpaging hisolated
  rw [h.registry, h.session] at hsubmit
  rw [hsubmit]
  generalize hg : ({ line, session := (s.journal lines).session, ticket := (s.journal lines).calls } : Given) = g
  have herrand : (g.errand? s.registry).toList.map (Entry.job answer ∘ Entry.call) =
      ((errandOf? s.registry (s.journal lines).session.cwd line).map fun errand =>
        Job.call errand.1 (.task errand.2)).toList := by
    subst hg
    cases hread : errandOf? s.registry (s.journal lines).session.cwd line with
    | none => simp [Given.errand?, hread]
    | some errand => simp [Given.errand?, hread, Entry.job]
  have hcalls : ((g.errand? s.registry).toList.map Entry.call).filterMap Entry.call? = (g.errand? s.registry).toList := by
    cases g.errand? s.registry <;> rfl
  have hreplied : ((g.errand? s.registry).toList.map Entry.call).filterMap Entry.replied? = [] := by
    cases g.errand? s.registry <;> rfl
  exact {
    registry := rfl
    console := by
      rw [h.console]
      simp [Ledger.submit, Block.output, ← hg]
    session := by rw [Shell.journal_snoc]; rfl
    ready := by simp [Ledger.submit, h.ready, herrand]
    waiting := h.waiting
    calls := h.calls
    log := h.log
    errands := by
      rw [Shell.errands_journal_snoc, hg, ← h.errands]
      simp [Ledger.submit, hcalls]
    places := by simpa [Ledger.submit, hreplied] using h.places
    given := by
      rw [Shell.journal_snoc, Journal.note, hg, ← h.given]
      simp [Ledger.submit]
    after := by
      intro before e hbefore
      rcases List.prefix_concat_iff.mp hbefore with heq | hbefore
      · have hlast := (List.append_inj' heq rfl).2
        simp at hlast
      · exact h.after before e hbefore
    order := by simpa [Ledger.submit, hreplied] using h.order }

/-- What a reply does to the shell: it writes its block. -/
theorem conclude_eq (h : l.Describes s atOnce answer lines replies w) (hquiet : s.IsQuiet)
    (hlines : ∀ line ∈ lines, IsIsolatedLine s.registry line) {e : Errand}
    (he : e ∈ (s.journal lines).errands s.registry) {t : Shell} (ht : t.console = w.shell.console) :
    t.conclude (.task e.task) (answer e.given.ticket) =
      { t with console := { s.console with
        queue := s.console.queue ++
          (l.blocks ++ [Block.reply e]).flatMap (Block.output s.registry s.console.style answer) } } := by
  obtain ⟨hpaging, hidle, -⟩ := h.isQuiet hquiet
  have hstyle : t.console.style = s.console.style := by rw [ht, h.console]
  have hwriting := Task.isWriting_conclude (Shell.ne_enter_of_mem_errands hlines he) t.console.style
    (answer e.given.ticket)
  have hunpaged : t.performAll (e.task.conclude t.console.style (answer e.given.ticket)) = _ :=
    Shell.performAll_unpaged (by rw [Shell.isPaging, ht]; exact hidle) (by rw [ht]; exact hpaging)
      fun effect heffect => Effect.ne_setPaging_of_isWriting (hwriting effect heffect)
  rw [Shell.conclude, hunpaged, foldl_move_of_isWriting hwriting, hstyle, ht, h.console]
  simp [Block.output]

/-- The next errand to be taken to the service has the number of the next call. -/
theorem calls_eq_ticket (h : l.Describes s atOnce answer lines replies w) {e : Errand} {rest : List Entry}
    (hready : l.ready = .call e :: rest) :
    e ∈ (s.journal lines).errands s.registry ∧ w.shell.calls = e.given.ticket := by
  have herrands : l.made ++ e :: rest.filterMap Entry.call? = (s.journal lines).errands s.registry := by
    have hall := h.errands
    rw [hready] at hall
    exact hall
  have htickets := Shell.tickets_journal (s := s) lines
  have hnumber := congrArg (fun tickets => tickets[l.made.length]?) htickets
  rw [← herrands] at hnumber ⊢
  have hlen : l.made.length < (l.made ++ e :: rest.filterMap Entry.call?).length := by simp
  refine ⟨by simp, ?_⟩
  rw [h.calls]
  simpa [List.getElem?_range', hlen] using hnumber.symm

/-- **An errand is taken to the service.** -/
theorem attend_call (h : l.Describes s atOnce answer lines replies w) (hquiet : s.IsQuiet)
    (hlines : ∀ line ∈ lines, IsIsolatedLine s.registry line) {e : Errand} {rest : List Entry}
    (hready : l.ready = .call e :: rest) {turn : Turn (List Call)}
    (hturn : turn = Shell.attend (watching atOnce answer) { w.shell with ready := rest.map (Entry.job answer) } w.log
      (.call e.call (.task e.task))) :
    (l.ask (atOnce e.given.ticket) e rest).Describes s atOnce answer lines replies
      { shell := turn.shell, log := turn.world } := by
  obtain ⟨he, hticket⟩ := h.calls_eq_ticket hready
  have hcalls : e.given.ticket + 1 = s.calls + (l.made ++ [e]).length := by
    rw [← hticket, h.calls]
    simp [Nat.add_assoc]
  have hlog : w.log ++ [e.call] = (l.made ++ [e]).map (·.call) := by simp [h.log]
  have herrands : l.made ++ [e] ++ rest.filterMap Entry.call? = (s.journal lines).errands s.registry := by
    have hall := h.errands
    rw [hready] at hall
    rw [List.append_assoc]
    exact hall
  have hplaces : l.made.Perm
      (l.waiting ++ (rest.filterMap Entry.replied? ++ l.blocks.filterMap Block.errand?)) := by
    have hall := h.places
    rwa [hready] at hall
  have horder := h.order
  rw [hready, List.filterMap_cons_none (by rfl)] at horder
  simp only [Shell.attend, Shell.place, watching, hticket] at hturn
  -- An answer at once writes its block before the next job is looked at. Any other errand starts to wait.
  by_cases honce : atOnce e.given.ticket = true
  · have hconclude := h.conclude_eq hquiet hlines he (t := { w.shell with
      ready := rest.map (Entry.job answer), calls := e.given.ticket + 1 }) rfl
    simp only [honce, if_true, hconclude] at hturn
    subst hturn
    exact {
      registry := h.registry
      console := by simp [Ledger.ask, honce]
      session := h.session
      ready := by simp [Ledger.ask, honce]
      waiting := by simp [Ledger.ask, honce, h.waiting]
      calls := by simpa [Ledger.ask, honce] using hcalls
      log := by simpa [Ledger.ask, honce] using hlog
      errands := by simpa [Ledger.ask, honce] using herrands
      places := by
        simp only [Ledger.ask, honce, if_true, List.filterMap_append, Block.filterMap_errand?_reply]
        rw [← List.append_assoc, ← List.append_assoc]
        exact (hplaces.trans (by simp)).append_right [e]
      given := by simpa [Ledger.ask, honce] using h.given
      after := by simpa only [Ledger.ask, honce, if_true] using h.after_snoc he
      order := by simpa [Ledger.ask, honce] using horder }
  · simp only [honce, if_false, Bool.false_eq_true] at hturn
    subst hturn
    exact {
      registry := h.registry
      console := by simpa [Ledger.ask, honce] using h.console
      session := h.session
      ready := by simp [Ledger.ask, honce]
      waiting := by simp [Ledger.ask, honce, h.waiting, Errand.waiting]
      calls := by simpa [Ledger.ask, honce] using hcalls
      log := by simpa [Ledger.ask, honce] using hlog
      errands := by simpa [Ledger.ask, honce] using herrands
      places := by
        simp only [Ledger.ask, honce, if_false, Bool.false_eq_true]
        refine (hplaces.append_right [e]).trans ?_
        rw [List.append_assoc, List.append_assoc l.waiting [e]]
        exact List.perm_append_comm.append_left l.waiting
      given := by simpa [Ledger.ask, honce] using h.given
      after := by simpa [Ledger.ask, honce] using h.after
      order := by simpa [Ledger.ask, honce] using horder }

/-- **A reply writes.** -/
theorem attend_conclude (h : l.Describes s atOnce answer lines replies w) (hquiet : s.IsQuiet)
    (hlines : ∀ line ∈ lines, IsIsolatedLine s.registry line) {e : Errand} {rest : List Entry}
    (hready : l.ready = .conclude e :: rest) {turn : Turn (List Call)}
    (hturn : turn = Shell.attend (watching atOnce answer) { w.shell with ready := rest.map (Entry.job answer) } w.log
      (.conclude (.task e.task) (answer e.given.ticket))) :
    (l.conclude e rest).Describes s atOnce answer lines replies { shell := turn.shell, log := turn.world } := by
  have hplaces : l.made.Perm
      (l.waiting ++ (e :: rest.filterMap Entry.replied? ++ l.blocks.filterMap Block.errand?)) := by
    have hall := h.places
    rw [hready] at hall
    exact hall
  have he : e ∈ (s.journal lines).errands s.registry := h.mem_errands (hplaces.mem_iff.mpr (by simp))
  have hconclude := h.conclude_eq hquiet hlines he (t := { w.shell with ready := rest.map (Entry.job answer) }) rfl
  simp only [Shell.attend, hconclude] at hturn
  subst hturn
  exact {
    registry := h.registry
    console := rfl
    session := h.session
    ready := rfl
    waiting := h.waiting
    calls := h.calls
    log := h.log
    errands := by
      have hall := h.errands
      rw [hready] at hall
      exact hall
    places := by
      simp only [Ledger.conclude, List.filterMap_append, Block.filterMap_errand?_reply]
      refine hplaces.trans (List.Perm.append_left l.waiting ?_)
      rw [← List.append_assoc]
      exact (@List.perm_append_comm _ [e] _)
    given := by simpa [Ledger.conclude] using h.given
    after := h.after_snoc he
    order := by
      have hall := h.order
      rw [hready] at hall
      simpa [Ledger.conclude, Entry.replied?] using hall }

/-- **A job is carried on.** -/
theorem attend (h : l.Describes s atOnce answer lines replies w) (hquiet : s.IsQuiet)
    (hlines : ∀ line ∈ lines, IsIsolatedLine s.registry line) {entry : Entry} {rest : List Entry}
    (hready : l.ready = entry :: rest) {turn : Turn (List Call)}
    (hturn : turn = Shell.attend (watching atOnce answer) { w.shell with ready := rest.map (Entry.job answer) } w.log
      (entry.job answer)) :
    ∃ next : Ledger, next.ready = rest ∧
      next.Describes s atOnce answer lines replies { shell := turn.shell, log := turn.world } := by
  cases entry with
  | call e =>
      refine ⟨l.ask (atOnce e.given.ticket) e rest, ?_, h.attend_call hquiet hlines hready hturn⟩
      unfold Ledger.ask
      split <;> rfl
  | conclude e => exact ⟨l.conclude e rest, rfl, h.attend_conclude hquiet hlines hready hturn⟩

/-- All jobs are carried on, one after the other. -/
theorem attendAll (hquiet : s.IsQuiet) (hlines : ∀ line ∈ lines, IsIsolatedLine s.registry line) {entries : List Entry}
    (hready : l.ready = entries) (h : l.Describes s atOnce answer lines replies w) :
    ∃ next : Ledger, next.Describes s atOnce answer lines replies
      { shell := (Shell.attendAll (watching atOnce answer) w.shell w.log (entries.map (Entry.job answer))).1
        log := (Shell.attendAll (watching atOnce answer) w.shell w.log (entries.map (Entry.job answer))).2 } := by
  induction entries generalizing l w with
  | nil =>
      have hempty : w.shell.ready = [] := by simp [h.ready, hready]
      have hsame : { w.shell with ready := [] } = w.shell := by rw [← hempty]
      rw [List.map_nil, Shell.attendAll, hsame]
      exact ⟨l, h⟩
  | cons entry rest ih =>
      obtain ⟨next, hnext, hdescribes⟩ := h.attend hquiet hlines hready rfl
      exact ih hnext hdescribes

/-- Jobs are carried on until one ends. -/
theorem attendUntilEnd (hquiet : s.IsQuiet) (hlines : ∀ line ∈ lines, IsIsolatedLine s.registry line)
    {entries : List Entry} (hready : l.ready = entries) (h : l.Describes s atOnce answer lines replies w) :
    ∃ next : Ledger, next.Describes s atOnce answer lines replies
      { shell := (Shell.attendUntilEnd (watching atOnce answer) w.shell w.log (entries.map (Entry.job answer))).shell
        log := (Shell.attendUntilEnd (watching atOnce answer) w.shell w.log
          (entries.map (Entry.job answer))).world } := by
  induction entries generalizing l w with
  | nil =>
      have hempty : w.shell.ready = [] := by simp [h.ready, hready]
      have hsame : { w.shell with ready := [] } = w.shell := by rw [← hempty]
      rw [List.map_nil, Shell.attendUntilEnd, hsame]
      exact ⟨l, h⟩
  | cons entry rest ih =>
      obtain ⟨next, hnext, hdescribes⟩ := h.attend hquiet hlines hready rfl
      rw [List.map_cons, Shell.attendUntilEnd]
      split
      · exact ⟨next, hdescribes⟩
      · exact ih hnext hdescribes

/-- No two errands wait under one number. -/
theorem nodup_waiting (h : l.Describes s atOnce answer lines replies w) :
    (l.waiting.map (·.given.ticket)).Nodup := by
  have hall : ((s.journal lines).errands s.registry |>.map (·.given.ticket)).Nodup := by
    rw [Shell.tickets_journal]
    exact List.nodup_range'
  rw [← h.errands, List.map_append] at hall
  have hplaces := h.places.map (·.given.ticket)
  rw [List.map_append] at hplaces
  exact (hplaces.nodup_iff.mp (List.nodup_append.mp hall).1).sublist (List.sublist_append_left _ _)

/-- At most one errand waits under a number. -/
theorem sublist_tickets_waiting (h : l.Describes s atOnce answer lines replies w) (ticket : Nat) :
    ((l.waiting.filter (·.given.ticket == ticket)).map (·.given.ticket)).Sublist [ticket] := by
  have hnodup : ((l.waiting.filter (·.given.ticket == ticket)).map (·.given.ticket)).Nodup :=
    h.nodup_waiting.sublist (List.filter_sublist.map _)
  have hall : ∀ other ∈ (l.waiting.filter (·.given.ticket == ticket)).map (·.given.ticket), other = ticket := by
    intro other hother
    obtain ⟨e, he, rfl⟩ := List.mem_map.mp hother
    simpa using (List.mem_filter.mp he).2
  rw [List.eq_replicate_of_mem hall] at hnodup ⊢
  exact (List.replicate_sublist_replicate ticket).mpr (List.nodup_replicate.mp hnodup)

/-- **The reply to a call comes.** -/
theorem deliver (h : l.Describes s atOnce answer lines replies w) (ticket : Nat) :
    (l.deliver ticket).Describes s atOnce answer lines (replies ++ [ticket])
      { w with shell := w.shell.deliver ticket (answer ticket) } := by
  have hcalls : ∀ errands : List Errand, (errands.map Entry.conclude).filterMap Entry.call? = [] := by
    intro errands
    simp [List.filterMap_map, Function.comp_def, Entry.call?]
  have hreplied : ∀ errands : List Errand, (errands.map Entry.conclude).filterMap Entry.replied? = errands := by
    intro errands
    simp [List.filterMap_map, Function.comp_def, Entry.replied?]
  have hsplit := List.filter_append_perm (fun e : Errand => e.given.ticket == ticket) l.waiting
  exact {
    registry := h.registry
    console := h.console
    session := h.session
    ready := by
      simp only [Shell.deliver, Ledger.deliver, h.ready, h.waiting, Errand.filterMap_aim?_waiting, List.map_append,
        List.map_map]
      congr 1
      refine List.map_congr_left ?_
      intro e he
      have hticket : e.given.ticket = ticket := by simpa using (List.mem_filter.mp he).2
      simp [Entry.job, hticket]
    waiting := by
      simp only [Shell.deliver, Ledger.deliver, h.waiting]
      exact Errand.filter_aim?_waiting ticket l.waiting
    calls := h.calls
    log := h.log
    errands := by simpa [Ledger.deliver, hcalls] using h.errands
    -- The errands that waited under this number have their reply on the desk now.
    places := by
      simp only [Ledger.deliver, List.filterMap_append, hreplied]
      refine h.places.trans ((hsplit.symm.append_right _).trans ?_)
      refine (List.perm_append_comm.append_right _).trans ?_
      rw [List.append_assoc, ← List.append_assoc (l.waiting.filter _) (l.ready.filterMap _)]
      exact (List.perm_append_comm.append_right _).append_left _
    given := h.given
    after := h.after
    order := by
      simp only [Ledger.deliver, List.filterMap_append, hreplied, ← List.append_assoc]
      rw [List.map_append, List.filter_append]
      exact h.order.append (List.filter_sublist.trans (h.sublist_tickets_waiting ticket)) }

end Describes

end Ledger

/-! ## All runs -/

/-- The lines of a run. -/
def linesOf (events : List Event) : List String :=
  events.filterMap Event.line?

/-- The calls that are replied to in a run. -/
def repliesOf (events : List Event) : List Nat :=
  events.filterMap Event.reply?

namespace Watched

variable {s : Shell} {atOnce : Nat → Bool} {answer : Nat → Outcome}

theorem run_snoc (events : List Event) (event : Event) :
    run atOnce answer s (events ++ [event]) = (run atOnce answer s events).step atOnce answer event := by
  rw [run, List.foldl_append]
  rfl

/-- **Every run has a ledger.** -/
theorem exists_ledger (atOnce : Nat → Bool) (answer : Nat → Outcome) (hquiet : s.IsQuiet) {events : List Event}
    (hlines : ∀ line ∈ linesOf events, IsIsolatedLine s.registry line) :
    ∃ l : Ledger, l.Describes s atOnce answer (linesOf events) (repliesOf events) (run atOnce answer s events) := by
  induction events using List.reverseRecOn with
  | nil => exact ⟨{}, Ledger.Describes.start hquiet⟩
  | append_singleton events event ih =>
      have hbefore : ∀ line ∈ linesOf events, IsIsolatedLine s.registry line := by
        intro line hline
        refine hlines line ?_
        rw [linesOf, List.filterMap_append]
        exact List.mem_append_left _ hline
      obtain ⟨l, hl⟩ := ih hbefore
      rw [run_snoc, linesOf, repliesOf, List.filterMap_append, List.filterMap_append]
      cases event with
      | line text =>
          have htext : IsIsolatedLine s.registry text := hlines text (by simp [linesOf, Event.line?])
          rw [show [Event.line text].filterMap Event.reply? = [] from rfl, List.append_nil]
          exact ⟨_, hl.submit hquiet htext⟩
      | settle =>
          rw [show [Event.settle].filterMap Event.line? = [] from rfl,
            show [Event.settle].filterMap Event.reply? = [] from rfl, List.append_nil, List.append_nil]
          obtain ⟨next, hnext⟩ := Ledger.Describes.attendAll hquiet hbefore rfl hl
          rw [← hl.ready] at hnext
          simp only [step, Shell.settle, (hl.isQuiet hquiet).2.2, Bool.false_eq_true, if_false]
          exact ⟨next, hnext⟩
      | next =>
          rw [show [Event.next].filterMap Event.line? = [] from rfl,
            show [Event.next].filterMap Event.reply? = [] from rfl, List.append_nil, List.append_nil]
          obtain ⟨next, hnext⟩ := Ledger.Describes.attendUntilEnd hquiet hbefore rfl hl
          rw [← hl.ready] at hnext
          exact ⟨next, hnext⟩
      | reply ticket =>
          rw [show [Event.reply ticket].filterMap Event.line? = [] from rfl, List.append_nil]
          exact ⟨_, hl.deliver ticket⟩

/-- What the blocks of a run say about it. -/
structure Account (s : Shell) (atOnce : Nat → Bool) (answer : Nat → Outcome) (events : List Event)
    (blocks : List Block) : Prop where
  /-- The output is made of the blocks. -/
  output : (run atOnce answer s events).shell.console.queue =
    s.console.queue ++ blocks.flatMap (Block.output s.registry s.console.style answer)
  /-- The session is that of the journal: no reply has a part in it. -/
  session : (run atOnce answer s events).shell.session = (s.journal (linesOf events)).session
  /-- There is a block for what each line wrote at once, in the order of the lines. -/
  lines : blocks.filterMap Block.given? = (s.journal (linesOf events)).given
  /-- There is at most one block for the reply to each errand. -/
  replies : (blocks.filterMap Block.errand?).Subperm ((s.journal (linesOf events)).errands s.registry)
  /-- A reply writes after what the line of its errand wrote at once. -/
  after : ∀ before e, before ++ [.reply e] <+: blocks → .atOnce e.given ∈ before
  /-- Replies that did not come at once write in the order in which they come. -/
  order : (((blocks.filterMap Block.errand?).map (·.given.ticket)).filter fun ticket => !atOnce ticket).Sublist
    (repliesOf events)
  /-- At most one call is made for each line, and it is that of the errand. -/
  calls : (run atOnce answer s events).log <+: ((s.journal (linesOf events)).errands s.registry).map (·.call)
  /-- Once nothing is pending, all calls have been made, and all replies have written. -/
  complete : (run atOnce answer s events).shell.hasPending = false →
    (run atOnce answer s events).log = ((s.journal (linesOf events)).errands s.registry).map (·.call) ∧
      (blocks.filterMap Block.errand?).Perm ((s.journal (linesOf events)).errands s.registry)

/-- The blocks of a ledger account for its run. -/
theorem account_of_describes {events : List Event} {l : Ledger}
    (h : l.Describes s atOnce answer (linesOf events) (repliesOf events) (run atOnce answer s events)) :
    Account s atOnce answer events l.blocks where
  output := by rw [h.console]
  session := h.session
  lines := h.given
  replies := by
    have hblocks : (l.blocks.filterMap Block.errand?).Subperm l.made := by
      rw [h.places.subperm_left, ← List.append_assoc]
      exact (List.sublist_append_right _ _).subperm
    rw [← h.errands]
    exact hblocks.trans (List.sublist_append_left _ _).subperm
  after := h.after
  order := by
    refine List.Sublist.trans ?_ h.order
    rw [List.map_append, List.filter_append]
    exact List.sublist_append_left _ _
  calls := by
    rw [h.log, ← h.errands, List.map_append]
    exact List.prefix_append _ _
  complete := by
    intro hdone
    obtain ⟨hnoReady, hnoWaiting⟩ := Shell.hasPending_eq_false_iff.mp hdone
    have hready : l.ready = [] := List.map_eq_nil_iff.mp (h.ready.symm.trans hnoReady)
    have hwaiting : l.waiting = [] := List.map_eq_nil_iff.mp (h.waiting.symm.trans hnoWaiting)
    have herrands := h.errands
    have hplaces := h.places
    simp only [hready, hwaiting, List.filterMap_nil, List.append_nil, List.nil_append] at herrands hplaces
    rw [h.log, ← herrands]
    exact ⟨rfl, hplaces.symm⟩

end Watched

/-- Blocks are those of lines and those of replies. -/
theorem perm_blocks (blocks : List Block) :
    blocks.Perm ((blocks.filterMap Block.given?).map .atOnce ++ (blocks.filterMap Block.errand?).map .reply) := by
  induction blocks with
  | nil => exact List.Perm.refl _
  | cons block rest ih =>
      cases block with
      | atOnce g => exact ih.cons _
      | reply e => exact (ih.cons _).trans List.perm_middle.symm

/-- **Commands that wait at the same time are isolated.** Let isolated lines be given to a quiet shell, and let their
replies come in two orders. Both outputs are made of blocks, one for what each line wrote at once and at most one for
the reply to its errand, which depends on the line, the folder it was given in and the reply alone; and at most one call
is made for each line, which depends on the line and the folder. Once nothing is pending, both have the same blocks, in
some other order. -/
theorem Watched.isolated {s : Shell} (hquiet : s.IsQuiet) (answer : Nat → Outcome) (atOnce late : Nat → Bool)
    {events others : List Event} (hlines : ∀ line ∈ linesOf events, IsIsolatedLine s.registry line)
    (hsame : linesOf others = linesOf events) :
    ∃ blocks permuted, Account s atOnce answer events blocks ∧ Account s late answer others permuted ∧
      ((run atOnce answer s events).shell.hasPending = false → (run late answer s others).shell.hasPending = false →
        permuted.Perm blocks) := by
  have hlines' : ∀ line ∈ linesOf others, IsIsolatedLine s.registry line := by rwa [hsame]
  obtain ⟨l, hl⟩ := exists_ledger atOnce answer hquiet hlines
  obtain ⟨m, hm⟩ := exists_ledger late answer hquiet hlines'
  have hfirst := account_of_describes hl
  have hsecond := account_of_describes hm
  refine ⟨l.blocks, m.blocks, hfirst, hsecond, ?_⟩
  intro hdone hdone'
  -- Both runs wrote a block for every errand of the same journal.
  have hreplies : (m.blocks.filterMap Block.errand?).Perm (l.blocks.filterMap Block.errand?) := by
    have hlate := (hsecond.complete hdone').2
    rw [hsame] at hlate
    exact hlate.trans (hfirst.complete hdone).2.symm
  have hgiven : m.blocks.filterMap Block.given? = l.blocks.filterMap Block.given? := by
    rw [hfirst.lines, hsecond.lines, hsame]
  refine (perm_blocks m.blocks).trans (List.Perm.trans ?_ (perm_blocks l.blocks).symm)
  rw [hgiven]
  exact (hreplies.map _).append_left _

/-- A listing and a removal that wait at the same time, with a line in between that does not wait. -/
theorem Watched.isolated_listing :
    let s := Shell.new Commands.registry "/" "" (Pager.new 24 false) { zone := 0 }
    let answer : Nat → Outcome := fun ticket =>
      .ok (if ticket = 0 then .arr [] else Json.ofMembers [("status", .int 1)])
    let events : List Event := [.line "ls a", .line "pwd", .line "rm b", .settle, .reply 1, .reply 0, .settle]
    let others : List Event := [.line "ls a", .line "pwd", .settle, .reply 0, .next, .line "rm b", .next, .reply 1, .next]
    s.IsQuiet ∧ (∀ line ∈ linesOf events, IsIsolatedLine s.registry line) ∧ linesOf others = linesOf events ∧
      ∃ blocks permuted, Account s (fun _ => false) answer events blocks ∧
        Account s (fun _ => false) answer others permuted ∧ permuted.Perm blocks := by
  intro s answer events others
  have hquiet : s.IsQuiet := ⟨rfl, rfl, rfl, rfl, rfl⟩
  have hlines : ∀ line ∈ linesOf events, IsIsolatedLine s.registry line := by decide +kernel
  have hdone : (run (fun _ => false) answer s events).shell.hasPending = false := by decide +kernel
  have hdone' : (run (fun _ => false) answer s others).shell.hasPending = false := by decide +kernel
  obtain ⟨blocks, permuted, hfirst, hsecond, hperm⟩ :=
    Watched.isolated hquiet answer (fun _ => false) (fun _ => false) hlines (show linesOf others = linesOf events from rfl)
  exact ⟨hquiet, hlines, rfl, blocks, permuted, hfirst, hsecond, hperm hdone hdone'⟩

end RemoteShell
