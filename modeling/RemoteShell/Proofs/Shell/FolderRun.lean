import RemoteShell.Proofs.Shell.FolderLine

/-!
# Runs of lines that change the folder

A run is made of lines of `cd` and `pushd`, and of the outcomes of their look-ups, in any order; many look-ups may be
pending at once. After each move the shell carries its jobs on until they wait or have ended. The service keeps every
call to itself, so an outcome comes only where the run says so, and an outcome that comes at once is one that is
delivered next.

What a run does to the folders is said once more by a walk, which has no queue, no tickets and no output: a working
folder, the folders remembered, each with the label of the line that remembered it, and the look-ups that are pending.
A walk leaves open what a refused `pushd` does. With the one that goes back it is what the shell does.

Main statements:

* `Course.follows_run`: the shell does what the walk does.
* `Walk.run_pending`: what is pending has been asked for by a line of the run.
-/

namespace RemoteShell

/-- One move of a run: a line that is given, under a label, or the outcome of the call that the line with a label made. -/
inductive Move where
  | line (label : Nat) (text : String)
  | reply (label : Nat) (outcome : Outcome)

namespace Move

/-- The label of a line. -/
def lineLabel? : Move → Option Nat
  | .line label _ => some label
  | .reply _ _ => none

/-- The label of a reply. -/
def replyLabel? : Move → Option Nat
  | .line _ _ => none
  | .reply label _ => some label

/-- The label of a move. -/
def label : Move → Nat
  | .line label _ => label
  | .reply label _ => label

end Move

/-- The labels of the lines of a run. -/
def lineLabels (moves : List Move) : List Nat :=
  moves.filterMap Move.lineLabel?

/-- The lines of a run: all of `cd` or `pushd`, each with a label of its own. -/
structure AreFolderLines (moves : List Move) : Prop where
  isFolderLine : ∀ label text, .line label text ∈ moves → IsFolderLine text
  nodup : (lineLabels moves).Nodup

/-- A service that keeps every call to itself. -/
def silent : Service Unit := fun _ _ world => (none, world)

/-- A shell with nothing to do and nothing that owns the input. -/
structure Shell.IsIdle (s : Shell) : Prop where
  registry : s.registry = Commands.registry
  paging : s.isPaging = false
  asking : s.isAsking = false
  ready : s.ready = []

/-! ## Runs of the shell -/

/-- A shell in a run, and the numbers of the calls that were made, by the labels of their lines. -/
structure Course where
  shell : Shell
  ticket? : Nat → Option Nat

namespace Course

/-- The beginning of a run. -/
def start (s : Shell) : Course :=
  { shell := s, ticket? := fun _ => none }

/-- Notes the number of the call that a line has made. -/
def note (ticket? : Nat → Option Nat) (label ticket : Nat) : Nat → Option Nat :=
  fun other => if other = label then some ticket else ticket? other

/-- Makes a move. -/
def step (c : Course) : Move → Course
  | .line label text =>
    let next := (Shell.settle silent (c.shell.submit text) ()).1
    { shell := next, ticket? := if next.calls = c.shell.calls then c.ticket? else note c.ticket? label c.shell.calls }
  | .reply label outcome =>
    match c.ticket? label with
    | none => c
    | some ticket => { c with shell := (Shell.settle silent (c.shell.deliver ticket outcome) ()).1 }

/-- Makes the moves of a run. -/
def run (s : Shell) (moves : List Move) : Course :=
  moves.foldl step (start s)

/-- The working folder and the folders remembered, the last one first. -/
def folders (c : Course) : String × List String :=
  (c.shell.session.cwd, c.shell.session.remembered)

end Course

/-! ## Walks -/

/-- A look-up that is pending. -/
structure Pending where
  /-- The label of the line that asked for it. -/
  label : Nat
  folder : String
  /-- Whether the line remembered the working folder. -/
  remember : Bool

/-- The folders of a run. -/
structure Walk where
  cwd : String
  home : String
  /-- The folders remembered, the last one first, each with the label of its line unless it was there before the run. -/
  entries : List (Option Nat × String)
  pending : List Pending

namespace Walk

/-- The folders of a session at the beginning of a run. -/
def start (s : Session) : Walk :=
  { cwd := s.cwd, home := s.home, entries := s.remembered.map (none, ·), pending := [] }

/-- Takes a line. -/
def take (w : Walk) (label : Nat) (text : String) : Walk :=
  match folderAsked? w.home w.cwd text with
  | some (folder, remember) =>
    { w with
      entries := if remember then (some label, w.cwd) :: w.entries else w.entries
      pending := w.pending ++ [{ label, folder, remember }] }
  | none => w

/-- Removes a look-up that is pending no longer. -/
def settle (w : Walk) (label : Nat) : Walk :=
  { w with pending := w.pending.filter (·.label != label) }

/-- Takes the outcome of a look-up, if it is pending. What a refused `pushd` does is left open. -/
def learn (withdraw : Nat → Walk → Walk) (w : Walk) (label : Nat) (outcome : Outcome) : Walk :=
  match w.pending.find? (·.label == label) with
  | none => w
  | some p => match arrival? p.folder outcome with
    | some path => { w.settle label with cwd := path }
    | none => if p.remember then withdraw label (w.settle label) else w.settle label

/-- Makes a move. -/
def step (withdraw : Nat → Walk → Walk) (w : Walk) : Move → Walk
  | .line label text => w.take label text
  | .reply label outcome => w.learn withdraw label outcome

/-- Makes the moves of a run. -/
def run (withdraw : Nat → Walk → Walk) (s : Session) (moves : List Move) : Walk :=
  moves.foldl (step withdraw) (start s)

/-- Goes back to the folder remembered last, whichever line remembered it. -/
def back (_ : Nat) (w : Walk) : Walk :=
  match w.entries with
  | [] => w
  | (_, folder) :: rest => { w with cwd := folder, entries := rest }

/-- The working folder and the folders remembered, the last one first. -/
def folders (w : Walk) : String × List String :=
  (w.cwd, w.entries.map (·.2))

end Walk

/-! ## Moves and their labels -/

/-- What holds at the beginning, and after a move whenever it holds before, holds of all runs. -/
@[elab_as_elim]
theorem moves_induction {motive : List Move → Prop} (nil : motive [])
    (snoc : ∀ before move, motive before → motive (before ++ [move])) (moves : List Move) : motive moves := by
  have hreverse : ∀ reversed : List Move, motive reversed.reverse := by
    intro reversed
    induction reversed with
    | nil => exact nil
    | cons move rest ih =>
        rw [List.reverse_cons]
        exact snoc rest.reverse move ih
  simpa using hreverse moves.reverse

theorem mem_lineLabels {moves : List Move} {label : Nat} :
    label ∈ lineLabels moves ↔ ∃ text, .line label text ∈ moves := by
  simp only [lineLabels, List.mem_filterMap]
  constructor
  · rintro ⟨move, hmove, hlabel⟩
    cases move with
    | line other text =>
        obtain rfl : other = label := by simpa [Move.lineLabel?] using hlabel
        exact ⟨text, hmove⟩
    | reply other outcome => simp [Move.lineLabel?] at hlabel
  · rintro ⟨text, htext⟩
    exact ⟨_, htext, rfl⟩

theorem lineLabels_snoc_line (before : List Move) (label : Nat) (text : String) :
    lineLabels (before ++ [.line label text]) = lineLabels before ++ [label] := by
  simp [lineLabels, Move.lineLabel?]

theorem lineLabels_snoc_reply (before : List Move) (label : Nat) (outcome : Outcome) :
    lineLabels (before ++ [.reply label outcome]) = lineLabels before := by
  simp [lineLabels, Move.lineLabel?]

theorem AreFolderLines.sublist {moves others : List Move} (h : AreFolderLines moves) (hsub : others.Sublist moves) :
    AreFolderLines others where
  isFolderLine := fun label text hline => h.isFolderLine label text (hsub.subset hline)
  nodup := (hsub.filterMap _).nodup h.nodup

/-- A line has a label that no line before it has. -/
theorem AreFolderLines.fresh {before : List Move} {label : Nat} {text : String}
    (h : AreFolderLines (before ++ [.line label text])) : label ∉ lineLabels before := by
  have hnodup := h.nodup
  rw [lineLabels_snoc_line, List.nodup_append] at hnodup
  intro hmem
  exact hnodup.2.2 label hmem label (by simp) rfl

/-! ## What is pending -/

namespace Walk

variable {withdraw : Nat → Walk → Walk}

theorem run_snoc (s : Session) (before : List Move) (move : Move) :
    run withdraw s (before ++ [move]) = (run withdraw s before).step withdraw move := by
  simp [run, List.foldl_append]

/-- A label finds a look-up that has it. -/
theorem mem_of_find?_label {pending : List Pending} {label : Nat} {p : Pending}
    (hfind : pending.find? (·.label == label) = some p) : p ∈ pending ∧ p.label = label :=
  ⟨List.mem_of_find?_eq_some hfind, by simpa using List.find?_some hfind⟩

/-- A label that no look-up has changes nothing. -/
theorem settle_of_find?_none {w : Walk} {label : Nat} (h : w.pending.find? (·.label == label) = none) :
    w.settle label = w := by
  have hall : w.pending.filter (·.label != label) = w.pending := by
    rw [List.filter_eq_self]
    intro p hp
    simpa using List.find?_eq_none.mp h p hp
  rw [settle, hall]

/-- **A reply settles its look-up,** whatever its outcome is. -/
theorem learn_pending (hwithdraw : ∀ label w, (withdraw label w).pending = w.pending) (w : Walk) (label : Nat)
    (outcome : Outcome) : (w.learn withdraw label outcome).pending = (w.settle label).pending := by
  unfold learn
  split
  · next hnone => rw [settle_of_find?_none hnone]
  · split
    · rfl
    · split
      · exact hwithdraw label _
      · rfl

/-- After a move, what is pending was pending before, or the move has asked for it. -/
theorem mem_pending_step (hwithdraw : ∀ label w, (withdraw label w).pending = w.pending) {w : Walk} {move : Move}
    {p : Pending} (hp : p ∈ (w.step withdraw move).pending) :
    p ∈ w.pending ∨ ∃ text, move = .line p.label text ∧ folderAsked? w.home w.cwd text = some (p.folder, p.remember) := by
  cases move with
  | line label text =>
      simp only [step, take] at hp
      split at hp
      · next folder remember hasked =>
          rcases List.mem_append.mp hp with hp | hp
          · exact Or.inl hp
          · obtain rfl := List.mem_singleton.mp hp
            exact Or.inr ⟨text, rfl, hasked⟩
      · exact Or.inl hp
  | reply label outcome =>
      rw [step, learn_pending hwithdraw] at hp
      exact Or.inl (List.mem_filter.mp hp).1

/-- **What is pending has been asked for by a line of the run,** and remembers the working folder only for `pushd`. -/
theorem run_pending (hwithdraw : ∀ label w, (withdraw label w).pending = w.pending) (s : Session) {moves : List Move}
    (hmoves : AreFolderLines moves) {p : Pending} (hp : p ∈ (run withdraw s moves).pending) :
    ∃ text, .line p.label text ∈ moves ∧ (p.remember = true → IsPushLine text) := by
  induction moves using moves_induction with
  | nil => simp [run, start] at hp
  | snoc before move ih =>
      rw [run_snoc] at hp
      rcases mem_pending_step hwithdraw hp with hp | ⟨text, rfl, hasked⟩
      · obtain ⟨text, hline, hpush⟩ := ih (hmoves.sublist (List.sublist_append_left _ _)) hp
        exact ⟨text, List.mem_append_left _ hline, hpush⟩
      · refine ⟨text, by simp, ?_⟩
        intro hremember
        rw [hremember] at hasked
        exact isPushLine_of_folderAsked? (hmoves.isFolderLine p.label text (by simp)) hasked

/-- Of one line, one look-up is pending at most. -/
theorem nodup_pending (hwithdraw : ∀ label w, (withdraw label w).pending = w.pending) (s : Session)
    {moves : List Move} (hmoves : AreFolderLines moves) : ((run withdraw s moves).pending.map (·.label)).Nodup := by
  induction moves using moves_induction with
  | nil => simp [run, start]
  | snoc before move ih =>
      have hbefore : AreFolderLines before := hmoves.sublist (List.sublist_append_left _ _)
      have hih := ih hbefore
      rw [run_snoc]
      cases move with
      | line label text =>
          simp only [step, take]
          split
          · rw [List.map_append, List.nodup_append]
            refine ⟨hih, by simp, ?_⟩
            intro other hother last hlast heq
            obtain ⟨p, hp, rfl⟩ := List.mem_map.mp hother
            obtain ⟨asked, hline, -⟩ := run_pending hwithdraw s hbefore hp
            have hlabel : last = label := by simpa using hlast
            rw [heq, hlabel] at hline
            exact hmoves.fresh (mem_lineLabels.mpr ⟨asked, hline⟩)
          · exact hih
          | reply label outcome =>
          rw [step, learn_pending hwithdraw]
          exact (List.filter_sublist.map _).nodup hih

/-- Going back leaves what is pending, and does not look at it. -/
theorem back_pending (label : Nat) (w : Walk) : (back label w).pending = w.pending := by
  unfold back
  split <;> rfl

theorem home_back_settle (label : Nat) (w : Walk) : (back label (w.settle label)).home = (back label w).home := by
  obtain ⟨cwd, home, entries, pending⟩ := w
  cases entries <;> rfl

theorem folders_back_settle (label : Nat) (w : Walk) :
    (back label (w.settle label)).folders = (back label w).folders := by
  obtain ⟨cwd, home, entries, pending⟩ := w
  cases entries <;> rfl

/-- A label finds the only look-up that has it. -/
theorem filter_of_find? {pending : List Pending} (hnodup : (pending.map (·.label)).Nodup) {label : Nat} {p : Pending}
    (hfind : pending.find? (·.label == label) = some p) : pending.filter (·.label == label) = [p] := by
  induction pending with
  | nil => simp at hfind
  | cons q rest ih =>
      obtain ⟨hfirst, hrest⟩ := List.nodup_cons.mp hnodup
      by_cases hlabel : q.label = label
      · obtain rfl : q = p := by simpa [hlabel] using hfind
        have hnone : rest.filter (·.label == label) = [] := by
          rw [List.filter_eq_nil_iff]
          intro other hother heq
          exact hfirst (List.mem_map.mpr ⟨other, hother, (beq_iff_eq.mp heq).trans hlabel.symm⟩)
        simp [hlabel, hnone]
      · have hfound : rest.find? (·.label == label) = some p := by simpa [hlabel] using hfind
        simp [hlabel, ih hrest hfound]

end Walk

/-! ## Settling -/

namespace Shell

theorem attendAll_nil {σ : Type} (service : Service σ) {s : Shell} (hready : s.ready = []) (world : σ) :
    attendAll service s world [] = (s, world) := by
  obtain ⟨registry, session, console, completer, ready, waiting, calls, completions, completed⟩ := s
  simp only at hready
  subst hready
  rfl

theorem settle_nil {σ : Type} (service : Service σ) {s : Shell} (hready : s.ready = []) (world : σ) :
    settle service s world = (s, world) := by
  rw [settle, hready, attendAll_nil service hready, ite_self]

/-- The only job that is ready is carried on. -/
theorem settle_singleton {σ : Type} (service : Service σ) {s : Shell} (hasking : s.isAsking = false) {job : Job}
    (hready : s.ready = [job]) (world : σ) :
    settle service s world =
      ((attend service { s with ready := [] } world job).shell, (attend service { s with ready := [] } world job).world) := by
  have hasking' : ¬ s.isAsking = true := by simp [hasking]
  rw [settle, if_neg hasking', hready, attendAll]
  exact attendAll_nil service (attend_ready service _ _ _) _

/-- A call that nobody answers leaves a job that waits. -/
theorem settle_silent_call {s : Shell} (hasking : s.isAsking = false) {call : Call} {aim : Aim}
    (hready : s.ready = [.call call aim]) :
    (settle silent s ()).1 =
      { s with ready := [], waiting := s.waiting ++ [.reply s.calls aim], calls := s.calls + 1 } := by
  rw [settle_singleton silent hasking hready]
  rfl

/-- An outcome that has come is concluded. -/
theorem settle_silent_conclude {s : Shell} (hasking : s.isAsking = false) {aim : Aim} {outcome : Outcome}
    (hready : s.ready = [.conclude aim outcome]) :
    (settle silent s ()).1 = { s with ready := [] }.conclude aim outcome := by
  rw [settle_singleton silent hasking hready]
  rfl

theorem settle_silent_nil {s : Shell} (hready : s.ready = []) : (settle silent s ()).1 = s := by
  rw [settle_nil silent hready]

end Shell

/-! ## The shell does what the walk does -/

namespace Course

/-- The waiting job of a look-up that is pending. -/
def waits (c : Course) (p : Pending) : Waiting :=
  .reply ((c.ticket? p.label).getD 0) (.task (.enter p.folder p.remember))

/-- The shell is where the walk is: it has the same folders, and its waiting jobs are the look-ups that are pending. -/
structure Follows (c : Course) (w : Walk) : Prop where
  idle : c.shell.IsIdle
  home : c.shell.session.home = w.home
  folders : c.folders = w.folders
  waiting : c.shell.waiting = w.pending.map c.waits
  ticketed : ∀ p ∈ w.pending, ∃ ticket, c.ticket? p.label = some ticket
  lt_calls : ∀ label ticket, c.ticket? label = some ticket → ticket < c.shell.calls
  injective : ∀ label other ticket, c.ticket? label = some ticket → c.ticket? other = some ticket → label = other

theorem Follows.cwd {c : Course} {w : Walk} (h : c.Follows w) : c.shell.session.cwd = w.cwd :=
  congrArg Prod.fst h.folders

theorem Follows.remembered {c : Course} {w : Walk} (h : c.Follows w) :
    c.shell.session.remembered = w.entries.map (·.2) :=
  congrArg Prod.snd h.folders

theorem note_self (ticket? : Nat → Option Nat) (label ticket : Nat) :
    note ticket? label ticket label = some ticket := by
  simp [note]

theorem note_of_ne (ticket? : Nat → Option Nat) {label other : Nat} (ticket : Nat) (h : other ≠ label) :
    note ticket? label ticket other = ticket? other := by
  simp [note, h]

/-- A line makes a call and leaves a job that waits, or it changes nothing but the output. -/
theorem settle_submit {s : Shell} (hidle : s.IsIdle) {text : String} (hline : IsFolderLine text) :
    ∃ console : Console, console.pager = s.console.pager ∧ console.reader = s.console.reader ∧
      (Shell.settle silent (s.submit text) ()).1 = match folderAsked? s.session.home s.session.cwd text with
        | some (folder, remember) =>
          { s with
            console, session := if remember then s.session.push else s.session
            ready := [], waiting := s.waiting ++ [.reply s.calls (.task (.enter folder remember))]
            calls := s.calls + 1 }
        | none => { s with console } := by
  obtain ⟨console, hpager, hreader, hsubmit⟩ := Shell.submit_folderLine hidle.registry hidle.paging hidle.asking hline
  have hasking : console.reader.isActive = false := by
    rw [hreader]
    exact hidle.asking
  refine ⟨console, hpager, hreader, ?_⟩
  rw [hsubmit]
  cases folderAsked? s.session.home s.session.cwd text with
  | none => exact Shell.settle_silent_nil hidle.ready
  | some asked =>
      obtain ⟨folder, remember⟩ := asked
      refine (@Shell.settle_silent_call _ ?_ (lookupCall folder) (.task (.enter folder remember)) ?_).trans rfl
      · exact hasking
      · simp [hidle.ready]

/-- With another console, pager and reader as they were, a shell is still idle. -/
theorem isIdle_of_console {s : Shell} (h : s.IsIdle) {next : Shell} (hregistry : next.registry = s.registry)
    (hpager : next.console.pager = s.console.pager) (hreader : next.console.reader = s.console.reader)
    (hready : next.ready = []) : next.IsIdle where
  registry := hregistry.trans h.registry
  paging := (congrArg Pager.isActive hpager).trans h.paging
  asking := (congrArg Reader.isActive hreader).trans h.asking
  ready := hready

/-- A line is followed. -/
theorem Follows.line {c : Course} {w : Walk} (h : c.Follows w) {label : Nat} {text : String}
    (hline : IsFolderLine text) (hfresh : ∀ p ∈ w.pending, p.label ≠ label) :
    (c.step (.line label text)).Follows (w.take label text) := by
  obtain ⟨console, hpager, hreader, hsettle⟩ := settle_submit h.idle hline
  rw [h.home, h.cwd] at hsettle
  unfold Walk.take
  cases hasked : folderAsked? w.home w.cwd text with
  | none =>
      rw [hasked] at hsettle
      simp only [step, hsettle]
      exact { h with idle := isIdle_of_console h.idle rfl hpager hreader h.idle.ready }
  | some asked =>
      obtain ⟨folder, remember⟩ := asked
      rw [hasked] at hsettle
      have hcalls : ¬ c.shell.calls + 1 = c.shell.calls := by omega
      simp only [step, hsettle, hcalls, if_false]
      constructor
      case idle => exact isIdle_of_console h.idle rfl hpager hreader rfl
      case home => cases remember <;> exact h.home
      case folders =>
        cases remember with
        | false => exact h.folders
        | true => simp [Course.folders, Walk.folders, Session.push, h.cwd, h.remembered]
      case waiting =>
        have hold : ∀ p ∈ w.pending,
            c.waits p = waits { shell := c.shell, ticket? := note c.ticket? label c.shell.calls } p := by
          intro p hp
          simp [waits, note_of_ne c.ticket? c.shell.calls (hfresh p hp)]
        rw [List.map_append, h.waiting, List.map_congr_left hold]
        simp only [List.map_cons, List.map_nil, waits, note_self]
        rfl
      case ticketed =>
        intro p hp
        rcases List.mem_append.mp hp with hp | hp
        · obtain ⟨ticket, hticket⟩ := h.ticketed p hp
          exact ⟨ticket, (note_of_ne c.ticket? c.shell.calls (hfresh p hp)).trans hticket⟩
        · rw [List.mem_singleton.mp hp]
          exact ⟨c.shell.calls, note_self c.ticket? label c.shell.calls⟩
      case lt_calls =>
        intro other ticket hticket
        by_cases hlabel : other = label
        · subst hlabel
          obtain rfl := Option.some.inj ((note_self c.ticket? other c.shell.calls).symm.trans hticket)
          exact Nat.lt_succ_self _
        · have hold := (note_of_ne c.ticket? c.shell.calls hlabel).symm.trans hticket
          exact Nat.lt_succ_of_lt (h.lt_calls other ticket hold)
      case injective =>
        -- The new ticket is greater than every ticket given so far, so it is no other line's.
        intro one other ticket hone hother
        by_cases hlabel : one = label
        · by_cases hlabel' : other = label
          · rw [hlabel, hlabel']
          · subst hlabel
            obtain rfl := Option.some.inj ((note_self c.ticket? one c.shell.calls).symm.trans hone)
            have hold := (note_of_ne c.ticket? c.shell.calls hlabel').symm.trans hother
            exact absurd (h.lt_calls other _ hold) (Nat.lt_irrefl _)
        · have hold := (note_of_ne c.ticket? c.shell.calls hlabel).symm.trans hone
          by_cases hlabel' : other = label
          · subst hlabel'
            obtain rfl := Option.some.inj ((note_self c.ticket? other c.shell.calls).symm.trans hother)
            exact absurd (h.lt_calls one _ hold) (Nat.lt_irrefl _)
          · have hold' := (note_of_ne c.ticket? c.shell.calls hlabel').symm.trans hother
            exact h.injective one other ticket hold hold'

/-- Which waiting job the ticket of a line is for. -/
theorem Follows.aim? {c : Course} {w : Walk} (h : c.Follows w) {label ticket : Nat}
    (hticket : c.ticket? label = some ticket) {p : Pending} (hp : p ∈ w.pending) :
    Waiting.aim? ticket (c.waits p) =
      if p.label = label then some (.task (.enter p.folder p.remember)) else none := by
  obtain ⟨other, hother⟩ := h.ticketed p hp
  by_cases hlabel : p.label = label
  · simp [waits, Waiting.aim?, hlabel, hticket]
  · have hne : other ≠ ticket := by
      rintro rfl
      exact hlabel (h.injective _ _ _ hother hticket)
    simp [waits, Waiting.aim?, hlabel, hother, hne]

/-- An outcome wakes the job that waits for it, and leaves the others waiting. -/
theorem Follows.deliver {c : Course} {w : Walk} (h : c.Follows w) {label ticket : Nat}
    (hticket : c.ticket? label = some ticket) (outcome : Outcome) :
    c.shell.deliver ticket outcome =
      { c.shell with
        ready := (w.pending.filter (·.label == label)).map fun p => .conclude (.task (.enter p.folder p.remember)) outcome
        waiting := (w.settle label).pending.map c.waits } := by
  have hwoken : ∀ ps : List Pending, (∀ p ∈ ps, p ∈ w.pending) →
      (ps.map c.waits).filterMap (Waiting.aim? ticket) =
        (ps.filter (·.label == label)).map fun p => .task (.enter p.folder p.remember) := by
    intro ps hps
    induction ps with
    | nil => rfl
    | cons p rest ih =>
        have hp := h.aim? hticket (hps p (by simp))
        have hrest := ih fun q hq => hps q (List.mem_cons_of_mem _ hq)
        by_cases hlabel : p.label = label
        · rw [if_pos hlabel] at hp
          simp [hp, hlabel, hrest]
        · rw [if_neg hlabel] at hp
          simp [hp, hlabel, hrest]
  have hleft : (w.pending.map c.waits).filter (fun waiting => (Waiting.aim? ticket waiting).isNone) =
      (w.settle label).pending.map c.waits := by
    rw [List.filter_map, Walk.settle]
    refine congrArg (List.map c.waits) (List.filter_congr ?_)
    intro p hp
    rw [Function.comp_apply, h.aim? hticket hp]
    by_cases hlabel : p.label = label <;> simp [hlabel]
  simp only [Shell.deliver, h.waiting, hwoken w.pending fun p hp => hp, hleft, h.idle.ready, List.nil_append, List.map_map]
  rfl

/-- Settling after the outcome of a look-up that is pending concludes it. -/
theorem Follows.settle_deliver {c : Course} {w : Walk} (h : c.Follows w) (hnodup : (w.pending.map (·.label)).Nodup)
    {label ticket : Nat} (hticket : c.ticket? label = some ticket) {p : Pending}
    (hfind : w.pending.find? (·.label == label) = some p) (outcome : Outcome) :
    ∃ console : Console, console.pager = c.shell.console.pager ∧ console.reader = c.shell.console.reader ∧
      (Shell.settle silent (c.shell.deliver ticket outcome) ()).1 =
        { c.shell with
          console, ready := [], waiting := (w.settle label).pending.map c.waits
          session := match arrival? p.folder outcome with
            | some path => c.shell.session.enter path
            | none => if p.remember then c.shell.session.back else c.shell.session } := by
  have hdeliver := h.deliver hticket outcome
  rw [Walk.filter_of_find? hnodup hfind, List.map_singleton] at hdeliver
  obtain ⟨console, hpager, hreader, hconclude⟩ :=
    Shell.conclude_enter { c.shell with ready := [], waiting := (w.settle label).pending.map c.waits } p.folder
      p.remember outcome
  refine ⟨console, hpager, hreader, ?_⟩
  rw [hdeliver]
  refine (Shell.settle_silent_conclude ?_ rfl).trans ?_
  · exact h.idle.asking
  · exact hconclude

/-- Whatever an outcome has done to the folders, the jobs that still wait are the look-ups that are still pending. -/
theorem Follows.conclude {c : Course} {w : Walk} (h : c.Follows w) {label : Nat} {console : Console}
    (hpager : console.pager = c.shell.console.pager) (hreader : console.reader = c.shell.console.reader)
    {session : Session} {next : Walk} (hpending : next.pending = (w.settle label).pending)
    (hhome : session.home = next.home) (hfolders : (session.cwd, session.remembered) = next.folders) :
    Follows
      { c with
        shell := { c.shell with console, session, ready := [], waiting := (w.settle label).pending.map c.waits } } next where
  idle := isIdle_of_console h.idle rfl hpager hreader rfl
  home := hhome
  folders := hfolders
  waiting := by
    rw [hpending]
    rfl
  ticketed := by
    intro p hp
    rw [hpending] at hp
    exact h.ticketed p (List.mem_filter.mp hp).1
  lt_calls := h.lt_calls
  injective := h.injective

/-- Going back in a session is going back in the walk. -/
theorem Follows.back {c : Course} {w : Walk} (h : c.Follows w) (label : Nat) :
    c.shell.session.back.home = (Walk.back label w).home ∧
      (c.shell.session.back.cwd, c.shell.session.back.remembered) = (Walk.back label w).folders := by
  have hremembered := h.remembered
  unfold Session.back Walk.back
  cases hentries : w.entries with
  | nil =>
      rw [hentries, List.map_nil] at hremembered
      rw [hremembered]
      exact ⟨h.home, h.folders⟩
  | cons entry rest =>
      rw [hentries, List.map_cons] at hremembered
      rw [hremembered]
      exact ⟨h.home, rfl⟩

/-- An outcome is followed, where a refused `pushd` goes back. -/
theorem Follows.reply {c : Course} {w : Walk} (h : c.Follows w) (hnodup : (w.pending.map (·.label)).Nodup) (label : Nat)
    (outcome : Outcome) : (c.step (.reply label outcome)).Follows (w.learn Walk.back label outcome) := by
  unfold Walk.learn
  cases hfind : w.pending.find? (·.label == label) with
  | none =>
      cases hticket : c.ticket? label with
      | none =>
          simp only [step, hticket]
          exact h
      | some ticket =>
          have hnone : w.pending.filter (·.label == label) = [] := by
            rw [List.filter_eq_nil_iff]
            exact List.find?_eq_none.mp hfind
          have hdeliver := h.deliver hticket outcome
          rw [hnone, Walk.settle_of_find?_none hfind, ← h.waiting] at hdeliver
          simp only [step, hticket]
          rw [hdeliver, Shell.settle_silent_nil rfl]
          exact { h with idle := isIdle_of_console h.idle rfl rfl rfl rfl }
  | some p =>
      obtain ⟨hp, hlabel⟩ := Walk.mem_of_find?_label hfind
      obtain ⟨ticket, hticket⟩ := h.ticketed p hp
      rw [hlabel] at hticket
      obtain ⟨console, hpager, hreader, hsettle⟩ := h.settle_deliver hnodup hticket hfind outcome
      simp only [step, hticket, hsettle]
      cases arrival? p.folder outcome with
      | some path =>
          refine h.conclude hpager hreader rfl h.home ?_
          simp [Session.enter, Walk.folders, Walk.settle, h.remembered]
      | none =>
          cases p.remember with
          | false => exact h.conclude hpager hreader rfl h.home h.folders
          | true =>
              obtain ⟨hhome, hfolders⟩ := h.back label
              refine h.conclude hpager hreader (Walk.back_pending label _) ?_ ?_
              · exact hhome.trans (Walk.home_back_settle label w).symm
              · exact hfolders.trans (Walk.folders_back_settle label w).symm

/-- The beginning of a run is the beginning of a walk. -/
theorem follows_start {s : Shell} (hidle : s.IsIdle) (hwaiting : s.waiting = []) :
    (start s).Follows (Walk.start s.session) where
  idle := hidle
  home := rfl
  folders := by simp [folders, start, Walk.folders, Walk.start, Function.comp_def]
  waiting := hwaiting
  ticketed := by simp [Walk.start]
  lt_calls := by simp [start]
  injective := by simp [start]

theorem run_snoc (s : Shell) (before : List Move) (move : Move) :
    run s (before ++ [move]) = (run s before).step move := by
  simp [run, List.foldl_append]

/-- **The shell does what the walk does,** move by move, where a refused `pushd` goes back. -/
theorem follows_run {s : Shell} (hidle : s.IsIdle) (hwaiting : s.waiting = []) {moves : List Move}
    (hmoves : AreFolderLines moves) : (run s moves).Follows (Walk.run Walk.back s.session moves) := by
  induction moves using moves_induction with
  | nil => exact follows_start hidle hwaiting
  | snoc before move ih =>
      have hbefore : AreFolderLines before := hmoves.sublist (List.sublist_append_left _ _)
      have hfollows := ih hbefore
      rw [run_snoc, Walk.run_snoc]
      cases move with
      | line label text =>
          refine hfollows.line (hmoves.isFolderLine label text (by simp)) ?_
          intro p hp heq
          obtain ⟨asked, hline, -⟩ := Walk.run_pending Walk.back_pending s.session hbefore hp
          rw [heq] at hline
          exact hmoves.fresh (mem_lineLabels.mpr ⟨asked, hline⟩)
      | reply label outcome =>
          exact hfollows.reply (Walk.nodup_pending Walk.back_pending s.session hbefore) label outcome

end Course

end RemoteShell
