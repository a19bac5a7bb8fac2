import RemoteShell.Shell.Settle

/-!
# What effects write

What a list of effects does to the shell, as long as the pager takes nothing for itself: their lines go to the output,
one after the other, and the session and the paging switch follow. That is so exactly if no output that is handed to the
pager while paging is on is longer than the screen.

Main statements:

* `Console.foldl_perform_eq_wrote`: effects that fit the screen write their lines.
* `Console.isActive_foldl_perform_iff`: the pager holds lines after effects exactly if some of them do not fit.
* `Plan.effects_ofVerb`: only `pager` turns paging on.
* `Task.isWriting_conclude`: what comes of a call is written, unless it is the way into a folder.
-/

namespace RemoteShell

/-! ## Effects -/

namespace Effect

/-- The lines of an effect. -/
def output : Effect → List OutputLine
  | .echo line => [.echo line]
  | .error line => [.error line]
  | .page lines => lines.map .echo
  | .enter _ | .push | .back | .setPaging _ | .exit => []

@[simp]
theorem output_echo (line : String) : (echo line).output = [.echo line] := rfl

@[simp]
theorem output_error (line : String) : (error line).output = [.error line] := rfl

@[simp]
theorem output_page (lines : List String) : (page lines).output = lines.map .echo := rfl

@[simp]
theorem output_enter (folder : String) : (enter folder).output = [] := rfl

@[simp]
theorem output_failed_ne_nil (message : String) : (failed message).output ≠ [] := by
  simp [failed]

@[simp]
theorem output_rejected_ne_nil (reply : Reply) : (rejected reply).output ≠ [] := by
  simp [rejected]

/-- The session after an effect. -/
def move (session : Session) : Effect → Session
  | .enter folder => session.enter folder
  | .push => session.push
  | .back => session.back
  | .exit => session.exit
  | .echo _ | .error _ | .page _ | .setPaging _ => session

/-- Whether paging is on after an effect. -/
def switch (paging : Bool) : Effect → Bool
  | .setPaging enabled => enabled
  | _ => paging

/-- Whether an effect does no more than to write. -/
def isWriting : Effect → Bool
  | .echo _ | .error _ | .page _ => true
  | .enter _ | .push | .back | .setPaging _ | .exit => false

/-- Whether an effect hands the pager no more than a screen, if paging is on. -/
def fits (rows : Nat) (paging : Bool) : Effect → Bool
  | .page lines => !paging || decide (lines.length ≤ rows)
  | _ => true

end Effect

/-- **Output that is handed to the pager while paging is on is no longer than the screen.** -/
def FitsScreen (rows : Nat) : Bool → List Effect → Prop
  | _, [] => True
  | paging, e :: rest => e.fits rows paging = true ∧ FitsScreen rows (e.switch paging) rest

instance decidableFitsScreen (rows : Nat) : ∀ paging effects, Decidable (FitsScreen rows paging effects)
  | _, [] => .isTrue trivial
  | paging, e :: rest =>
    have := decidableFitsScreen rows (e.switch paging) rest
    inferInstanceAs (Decidable (e.fits rows paging = true ∧ FitsScreen rows (e.switch paging) rest))

/-- Effects fit if those that come first do and then those behind them. -/
theorem fitsScreen_append {rows : Nat} {paging : Bool} {effects others : List Effect} :
    FitsScreen rows paging (effects ++ others) ↔
      FitsScreen rows paging effects ∧ FitsScreen rows (effects.foldl Effect.switch paging) others := by
  induction effects generalizing paging with
  | nil => simp [FitsScreen]
  | cons e rest ih => simp [FitsScreen, ih, and_assoc]

/-- With paging off, everything fits until paging is turned on. -/
theorem fitsScreen_of_no_switch (rows : Nat) {effects : List Effect}
    (h : ∀ e ∈ effects, ∀ enabled, e ≠ .setPaging enabled) :
    FitsScreen rows false effects ∧ effects.foldl Effect.switch false = false := by
  induction effects with
  | nil => exact ⟨trivial, rfl⟩
  | cons e rest ih =>
      have hswitch : e.switch false = false := by
        cases e with
        | setPaging enabled => exact absurd rfl (h _ (by simp) enabled)
        | _ => rfl
      have hfits : e.fits rows false = true := by
        cases e <;> rfl
      obtain ⟨hrest, hoff⟩ := ih fun e he => h e (List.mem_cons_of_mem _ he)
      rw [FitsScreen, List.foldl_cons, hswitch]
      exact ⟨⟨hfits, hrest⟩, hoff⟩

theorem foldl_move_of_isWriting {effects : List Effect} (h : ∀ e ∈ effects, e.isWriting = true) (session : Session) :
    effects.foldl Effect.move session = session := by
  induction effects with
  | nil => rfl
  | cons e rest ih =>
      have hmove : e.move session = session := by
        have hwriting := h e (by simp)
        cases e <;> first
          | rfl
          | simp [Effect.isWriting] at hwriting
      rw [List.foldl_cons, hmove]
      exact ih fun e he => h e (List.mem_cons_of_mem _ he)

theorem Effect.ne_setPaging_of_isWriting {e : Effect} (h : e.isWriting = true) (enabled : Bool) :
    e ≠ .setPaging enabled := by
  rintro rfl
  simp [Effect.isWriting] at h

/-! ## The console after effects -/

namespace Pager

/-- Output that fits is shown at once. -/
theorem page_of_fits {p : Pager} (hidle : p.isActive = false) {lines : List String}
    (hfits : (Effect.page lines).fits p.rows p.enabled = true) : p.page lines = (p, lines) := by
  rw [page, if_neg (by simp [hidle]), if_pos (by simpa [Effect.fits] using hfits)]

/-- Output that does not fit is held. -/
theorem page_isActive {p : Pager} (hidle : p.isActive = false) {lines : List String}
    (hlong : (Effect.page lines).fits p.rows p.enabled = false) : (p.page lines).1.isActive = true := by
  have hnot : ¬ (!p.enabled || decide (lines.length ≤ p.rows)) = true := by simpa [Effect.fits] using hlong
  have hmore : p.rows < lines.length := by simpa using (Bool.or_eq_false_iff.mp hlong).2
  rw [page, if_neg (by simp [hidle]), if_neg hnot]
  simpa [nextScreen, isActive] using hmore

/-- What leaves paging as it is leaves the pager as it is. -/
theorem setEnabled_self {p : Pager} {enabled : Bool} (h : p.enabled = enabled) : p.setEnabled enabled = p := by
  subst h
  rfl

end Pager

namespace Console

/-- What an effect does to the console. -/
def perform (c : Console) : Effect → Console
  | .echo line => c.echo line
  | .error line => c.error line
  | .page lines => c.page lines
  | .setPaging enabled => c.setPaging enabled
  | .enter _ | .push | .back | .exit => c

/-- The console after effects whose lines all go to the output. -/
def wrote (c : Console) (effects : List Effect) : Console :=
  { c with
    queue := c.queue ++ effects.flatMap Effect.output
    pager := c.pager.setEnabled (effects.foldl Effect.switch c.paging) }

/-- One effect that fits the screen writes its lines. -/
theorem perform_eq_wrote {c : Console} (hidle : c.pager.isActive = false) {e : Effect}
    (hfits : e.fits c.pager.rows c.paging = true) : c.perform e = c.wrote [e] := by
  cases e with
  | page lines =>
      have hpage := Pager.page_of_fits hidle hfits
      simp only [perform, Console.page, hpage, Console.echoAll]
      simp [wrote, Effect.output, Effect.switch, Pager.setEnabled, Console.paging]
  | echo => rfl
  | error => rfl
  | setPaging enabled => simp [perform, wrote, Effect.output, Effect.switch, Console.setPaging]
  | enter | push | back | exit =>
      simp [perform, wrote, Effect.output, Effect.switch, Pager.setEnabled, Console.paging]

theorem wrote_nil (c : Console) : c.wrote [] = c := by
  simp [wrote, Pager.setEnabled, Console.paging]

theorem wrote_append (c : Console) (effects others : List Effect) :
    (c.wrote effects).wrote others = c.wrote (effects ++ others) := by
  simp [wrote, Pager.setEnabled, Console.paging]

/-- **Effects that fit the screen write their lines.** -/
theorem foldl_perform_eq_wrote {c : Console} (hidle : c.pager.isActive = false) {effects : List Effect}
    (hfits : FitsScreen c.pager.rows c.paging effects) : effects.foldl perform c = c.wrote effects := by
  induction effects generalizing c with
  | nil => exact (wrote_nil c).symm
  | cons e rest ih =>
      have hrest : rest.foldl perform (c.wrote [e]) = (c.wrote [e]).wrote rest := ih hidle hfits.2
      rw [List.foldl_cons, perform_eq_wrote hidle hfits.1, hrest]
      exact wrote_append c [e] rest

/-- Lines that are held stay held until the user types a key. -/
theorem isActive_foldl_perform {c : Console} (hbusy : c.pager.isActive = true) (effects : List Effect) :
    (effects.foldl perform c).pager.isActive = true := by
  induction effects generalizing c with
  | nil => exact hbusy
  | cons e rest ih =>
      refine ih ?_
      cases e with
      | page lines =>
          have hheld : c.pager.held ≠ [] := by simpa [Pager.isActive] using hbusy
          simp [perform, Console.page, Console.echoAll, Pager.page, hbusy]
          simp [Pager.isActive, hheld]
      | _ => exact hbusy

/-- **The pager holds no lines after effects exactly if they fit the screen.** -/
theorem isActive_foldl_perform_iff {c : Console} (hidle : c.pager.isActive = false) (effects : List Effect) :
    (effects.foldl perform c).pager.isActive = false ↔ FitsScreen c.pager.rows c.paging effects := by
  constructor
  · intro hdone
    induction effects generalizing c with
    | nil => trivial
    | cons e rest ih =>
        -- Lines that the first effect leaves held would still be held at the end.
        have hfits : e.fits c.pager.rows c.paging = true := by
          refine (Bool.eq_false_or_eq_true _).resolve_right ?_
          intro hlong
          have hbusy : (c.perform e).pager.isActive = true := by
            cases e with
            | page lines => exact Pager.page_isActive hidle hlong
            | _ => simp [Effect.fits] at hlong
          rw [List.foldl_cons, isActive_foldl_perform hbusy rest] at hdone
          exact absurd hdone (by decide)
        refine ⟨hfits, ?_⟩
        rw [List.foldl_cons, perform_eq_wrote hidle hfits] at hdone
        exact @ih (c.wrote [e]) hidle hdone
  · intro hfits
    rw [foldl_perform_eq_wrote hidle hfits]
    exact hidle

/-- The reader has no part in effects. -/
theorem foldl_perform_reader (c : Console) (reader : Reader) (effects : List Effect) :
    effects.foldl perform { c with reader } = { effects.foldl perform c with reader } := by
  induction effects generalizing c with
  | nil => rfl
  | cons e rest ih =>
      have hfirst : perform { c with reader } e = { c.perform e with reader } := by
        cases e <;> rfl
      rw [List.foldl_cons, hfirst]
      exact ih (c.perform e)

theorem reader_foldl_perform (c : Console) (effects : List Effect) : (effects.foldl perform c).reader = c.reader := by
  rw [show c = { c with reader := c.reader } from rfl, foldl_perform_reader]

/-- Lines that are shown are echoed. -/
theorem foldl_perform_echo (c : Console) (lines : List String) :
    (lines.map Effect.echo).foldl perform c = c.echoAll lines := by
  induction lines generalizing c with
  | nil => simp [Console.echoAll]
  | cons line rest ih =>
      rw [List.map_cons, List.foldl_cons, ih]
      simp [perform, Console.echo, Console.echoAll]

end Console

/-- What effects do to the shell, they do to the console and the session. -/
theorem Shell.performAll_eq (s : Shell) (effects : List Effect) :
    s.performAll effects =
      { s with
        console := effects.foldl Console.perform s.console, session := effects.foldl Effect.move s.session } := by
  induction effects generalizing s with
  | nil => rfl
  | cons e rest ih =>
      have hfirst : s.perform e = { s with console := s.console.perform e, session := e.move s.session } := by
        cases e <;> rfl
      rw [performAll, List.foldl_cons, hfirst]
      exact ih _

/-! ## What lines do -/

/-- What a line does that is given in some surroundings. -/
def planOf (around : Surroundings) (line : String) : Plan :=
  match parseLine around.registry line around.session.cwd with
  | .error e => .now [.error (Shell.complaint e)]
  | .ok none => {}
  | .ok (some i) => Plan.ofVerb around i.args i.command.verb

/-- What a line can look at. -/
def Shell.surroundings (s : Shell) : Surroundings :=
  { registry := s.registry, session := s.session, paging := s.console.paging }

/-- **A line that is run as a command has its plan carried out.** -/
theorem Shell.runCommand_eq (s : Shell) (line : String) : s.runCommand line = s.carryOut (planOf s.surroundings line) := by
  simp only [runCommand, planOf, surroundings]
  cases parseLine s.registry line s.session.cwd with
  | error e => rfl
  | ok found => cases found <;> rfl

/-- Only `pager` turns paging on. -/
theorem Plan.effects_ofVerb {verb : Verb} (h : verb ≠ .pager) (around : Surroundings) (args : Arguments) :
    ∀ e ∈ (ofVerb around args verb).effects, ∀ enabled, e ≠ .setPaging enabled := by
  cases verb with
  | pager => exact absurd rfl h
  | help =>
      simp only [ofVerb, now, help]
      split
      · split <;> simp
      · simp
  | popd =>
      simp only [ofVerb, now, goBack]
      split <;> simp
  | pushd => simp [ofVerb, enter, ask]
  | lookup =>
      simp only [ofVerb, lookup]
      split <;> simp [ask, now]
  | pshare =>
      simp only [ofVerb, addPathPolicy]
      split <;> simp [ask, now]
  | gattr =>
      simp only [ofVerb, setAttributes]
      split <;> simp [ask, now]
  | _ => simp [ofVerb, now, ask, who, changeFolder, link, applyPolicy, copyUsers, addMailer, enter, write]

/-! ## What tasks write -/

namespace Task

@[simp]
theorem isWriting_echo (line : String) : (Effect.echo line).isWriting = true := rfl

@[simp]
theorem isWriting_error (line : String) : (Effect.error line).isWriting = true := rfl

@[simp]
theorem isWriting_page (lines : List String) : (Effect.page lines).isWriting = true := rfl

@[simp]
theorem isWriting_failed (message : String) : (Effect.failed message).isWriting = true := rfl

@[simp]
theorem isWriting_rejected (reply : Reply) : (Effect.rejected reply).isWriting = true := rfl

@[simp]
theorem isWriting_addedLine (entry : Json) : (addedLine entry).isWriting = true := by
  unfold addedLine
  split
  · split <;> rfl
  · rfl

@[simp]
theorem isWriting_copiedLine (entry : Json) : (copiedLine entry).isWriting = true := by
  simp only [copiedLine]
  split
  · split <;> rfl
  · rfl

theorem isWriting_pageUnlessEmpty (items : List Json) (lines : List Json → List String) (none : String) :
    ∀ e ∈ pageUnlessEmpty items lines none, e.isWriting = true := by
  unfold pageUnlessEmpty
  split <;> simp

theorem isWriting_removed (value : Json) : ∀ e ∈ removed value, e.isWriting = true := by
  unfold removed
  split
  · simp
  · split <;> simp

theorem isWriting_concludeReply {task : Task} (h : ∀ folder remembered, task ≠ .enter folder remembered)
    (style : Style) (reply : Reply) : ∀ e ∈ concludeReply style task reply, e.isWriting = true := by
  unfold concludeReply
  split
  · next folder remembered => exact absurd rfl (h folder remembered)
  · split <;> simp
  all_goals first
    | exact isWriting_pageUnlessEmpty _ _ _
    | (simp; done)
    | (split <;> simp)

/-- **Only a task that enters a folder does more than to write.** -/
theorem isWriting_conclude {task : Task} (h : ∀ folder remembered, task ≠ .enter folder remembered) (style : Style)
    (outcome : Outcome) : ∀ e ∈ task.conclude style outcome, e.isWriting = true := by
  cases outcome with
  | error failure =>
      cases task with
      | enter folder remembered => exact absurd rfl (h folder remembered)
      | _ => simp [conclude, concludeFailure]
  | ok value =>
      cases task with
      | reportRemoved => exact isWriting_removed value
      | _ => exact isWriting_concludeReply h style (Reply.classify value)

end Task

end RemoteShell
