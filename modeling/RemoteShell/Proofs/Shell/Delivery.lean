import RemoteShell.Proofs.Shell.Composition
import RemoteShell.Proofs.Shell.GivenUp

/-!
# One letter, one call

What is typed between `mail` and the mark is a letter, whatever it looks like, and the letter is sent by one call. The call
is made when the job of the letter is carried on after the mark, and what is left then is only the outcome. A letter that
is interrupted before the mark makes no call: its job has nothing to do any more, and the shell goes on as if it was not
there.

Main statements:

* `Letter.exists_isSentBy`: what stands in the call.
* `Shell.WindsDown.react`, `Shell.WindsDown.after`: a shell whose jobs have made their calls.
* `Shell.Sending.react`, `Shell.Sending.settle`: a letter that is complete makes its one call.
* `Shell.Composing.sends`, `Shell.Composing.givesUp`: what the mark does, and what an interruption does.
* `Shell.mailsLetter`: a letter from its first line to its end.
-/

namespace RemoteShell

/-! ## The call of a letter -/

namespace Letter

/-- The addresses on a line: what stands between the commas, without the blanks around it, where there is anything left. -/
def AreAddressesOn (line : String) (addresses : List String) : Prop :=
  ∃ parts : List (List Char), parts ≠ [] ∧ Text.join [','] parts = line.toList ∧ (∀ part ∈ parts, ',' ∉ part) ∧
    addresses = ((parts.map Text.trim).filter (· ≠ [])).map String.ofList

/-- **The call that sends a letter** with four answers and some lines of text. -/
def IsSentBy (letter : Letter) (receivers copies hidden subject : String) (body : List String) (call : Call) : Prop :=
  ∃ first second third, AreAddressesOn receivers first ∧ AreAddressesOn copies second ∧ AreAddressesOn hidden third ∧
    call =
      { api := .file, op := "smtp"
        params := Json.ofMembers
          [("mailer", Json.ofText? letter.mailer),
            ("message", Json.ofMembers
              [("from", Json.ofText? letter.sender), ("html", .bool letter.html), ("to", Json.ofTexts first),
                ("cc", Json.ofTexts second), ("bcc", Json.ofTexts third), ("subject", .str subject),
                ("content", .str ("\n".intercalate body))])] }

theorem areAddressesOn_addresses (line : String) : AreAddressesOn line (addresses line) := by
  refine ⟨Text.fields ',' line.toList, Text.fields_ne_nil _ _, Text.join_fields _ _,
    fun _ hmem => Text.not_mem_of_mem_fields hmem, ?_⟩
  unfold addresses addressChars
  congr 2
  funext part
  cases part <;> rfl

/-- **A letter with all its answers is sent.** -/
theorem exists_isSentBy (letter : Letter) (receivers copies hidden subject : String) (body : List String) :
    ∃ call, letter.call? [receivers, copies, hidden, subject, "\n".intercalate body] = some call ∧
      letter.IsSentBy receivers copies hidden subject body call :=
  ⟨_, rfl, addresses receivers, addresses copies, addresses hidden, areAddressesOn_addresses receivers,
    areAddressesOn_addresses copies, areAddressesOn_addresses hidden, rfl⟩

end Letter

/-! ## When the calls have been made -/

/-- Whether a stimulus neither gives a line nor asks for a completion. -/
def Stimulus.isIdle : Stimulus → Bool
  | .line _ | .complete _ _ => false
  | _ => true

/-- Whether a job makes no call any more: its outcome has come, or it has been told that there are no answers. -/
def Job.isSpent : Job → Bool
  | .conclude _ _ | .send _ (.error _) => true
  | .call _ _ | .complete _ _ _ _ | .compose _ _ | .send _ (.ok _) => false

namespace Shell

/-- **A shell winds down:** no question is open, and no job makes a call any more. -/
structure WindsDown (s : Shell) : Prop where
  closed : s.console.reader.chain = none
  ready : ∀ job ∈ s.ready, job.isSpent = true
  waiting : ∀ w ∈ s.waiting, ∃ ticket aim, w = .reply ticket aim

/-- **A letter is complete.** Its call is still to be made and nothing else is, or it has been made and the shell winds
down. -/
inductive Sending {σ : Type} (call : Call) (letter : Letter) (texts : List String) (here : Shell × (σ × List Call)) : Prop
  | before (hclosed : here.1.console.reader.chain = none) (hready : here.1.ready = [.send letter (.ok texts)])
      (hwaiting : here.1.waiting = []) (hlog : here.2.2 = [])
  | behind (hrest : here.1.WindsDown) (hlog : here.2.2 = [call])

section

variable {σ : Type} (service : Service σ) {s : Shell} {letter : Letter} {texts : List String} {call : Call}

theorem callOf?_of_isSpent {job : Job} (h : job.isSpent = true) : s.callOf? job = none := by
  cases job with
  | send letter answers =>
      cases answers with
      | error e => rfl
      | ok texts => simp [Job.isSpent] at h
  | conclude aim outcome => rfl
  | _ => simp [Job.isSpent] at h

/-- With no question open, nothing that happens without a line opens one. -/
theorem chain_react_of_idle (h : s.console.reader.chain = none) (world : σ) {stimulus : Stimulus}
    (hidle : stimulus.isIdle = true) : (react service (s, world) stimulus).1.console.reader.chain = none := by
  cases stimulus with
  | line text => simp [Stimulus.isIdle] at hidle
  | complete text pos => simp [Stimulus.isIdle] at hidle
  | interrupt =>
      obtain ⟨console, hreader, hinterrupt⟩ := interrupt_of_closed h
      rw [react, hinterrupt, hreader, h]
  | attend place =>
      cases hjob : s.ready[place]? with
      | none => rw [react_attend_none service hjob, h]
      | some job =>
          obtain ⟨console, hreader, hshell, -⟩ := react_attend service hjob world
          rw [hshell, hreader, h]
  | reply | print | handOver | setPaging => exact h

/-- **A shell that winds down makes no call,** whatever happens, as long as no line is given and no completion is asked
for. -/
theorem WindsDown.react {here : Shell × (σ × List Call)} (h : here.1.WindsDown) {stimulus : Stimulus}
    (hidle : stimulus.isIdle = true) :
    (react (logging service) here stimulus).1.WindsDown ∧ (react (logging service) here stimulus).2.2 = here.2.2 := by
  obtain ⟨s, world, log⟩ := here
  have hspent : ∀ job, s.attended? stimulus = some job → job.isSpent = true :=
    fun job hjob => h.ready job (mem_ready_of_attended? hjob)
  refine ⟨⟨chain_react_of_idle (logging service) h.closed (world, log) hidle, ?_, ?_⟩, ?_⟩
  · intro job hmem
    rcases mem_ready_react (logging service) hmem with hmem | hadds
    · exact h.ready job hmem
    · cases hadds with
      | work | complete | answered => simp [Stimulus.isIdle] at hidle
      | cancelled | outcome => rfl
  · intro w hmem
    rcases mem_waiting_react (logging service) hmem with hmem | haside
    · exact h.waiting w hmem
    · cases haside with
      | answers hjob => exact absurd (hspent _ hjob) (by simp [Job.isSpent])
      | reply => exact ⟨_, _, rfl⟩
  · have hnone : s.called? stimulus = none := by
      cases hjob : s.attended? stimulus with
      | none => simp [called?, hjob]
      | some job => simp [called?, hjob, callOf?_of_isSpent (hspent job hjob)]
    rw [log_react, hnone]
    simp

theorem WindsDown.after (here : Shell × (σ × List Call)) (h : here.1.WindsDown) {stimuli : List Stimulus}
    (hidle : ∀ stimulus ∈ stimuli, stimulus.isIdle = true) :
    (after (logging service) here stimuli).1.WindsDown ∧ (after (logging service) here stimuli).2.2 = here.2.2 := by
  induction stimuli generalizing here with
  | nil => exact ⟨h, rfl⟩
  | cons stimulus rest ih =>
      obtain ⟨hnext, hlog⟩ := h.react service (hidle stimulus List.mem_cons_self)
      obtain ⟨hlast, hsame⟩ := ih _ hnext fun other hmem => hidle other (List.mem_cons_of_mem _ hmem)
      exact ⟨hlast, hsame.trans hlog⟩

/-! ## A letter that is complete -/

/-- With no question open and nothing waiting, only to carry a job on changes the jobs. -/
theorem jobs_react_of_idle (h : s.console.reader.chain = none) (hwaiting : s.waiting = []) (world : σ)
    {stimulus : Stimulus} (hidle : stimulus.isIdle = true) (hjob : s.attended? stimulus = none) :
    (Shell.react service (s, world) stimulus).1.ready = s.ready ∧
      (Shell.react service (s, world) stimulus).1.waiting = [] := by
  cases stimulus with
  | line text => simp [Stimulus.isIdle] at hidle
  | complete text pos => simp [Stimulus.isIdle] at hidle
  | interrupt =>
      obtain ⟨console, -, hinterrupt⟩ := interrupt_of_closed h
      rw [Shell.react, hinterrupt]
      exact ⟨rfl, hwaiting⟩
  | attend place =>
      rw [react_attend_none service hjob]
      exact ⟨rfl, hwaiting⟩
  | reply ticket outcome => simp [Shell.react, deliver, hwaiting]
  | print | handOver | setPaging => exact ⟨rfl, hwaiting⟩

/-- To carry the letter on makes its call, and leaves no more than its outcome to be waited for. -/
theorem sending_attend (hcall : letter.call? texts = some call) (hclosed : s.console.reader.chain = none)
    (hready : s.ready = [.send letter (.ok texts)]) (hwaiting : s.waiting = []) (world : σ) :
    Sending call letter texts (react (logging service) (s, (world, [])) (.attend 0)) := by
  have hjob : s.attended? (.attend 0) = some (.send letter (.ok texts)) := by simp [attended?, hready]
  have hmade : s.callOf? (.send letter (.ok texts)) = some (call, .task (.confirm "Message sent.")) := by
    simp [callOf?, hcall]
  obtain ⟨console, hreader, hshell, -⟩ := react_attend (logging service) hjob (world, [])
  refine .behind ⟨by rw [hshell, hreader, hclosed], by simp [hshell, hready], fun w hmem => ?_⟩ ?_
  · rcases mem_waiting_react (logging service) hmem with hmem | haside
    · simp [hwaiting] at hmem
    · cases haside with
      | answers hother => simp [hjob] at hother
      | reply => exact ⟨_, _, rfl⟩
  · simp [log_react, called?, hjob, hmade]

/-- **A letter that is complete makes its one call,** whatever happens, as long as no line is given and no completion is
asked for. -/
theorem Sending.react (hcall : letter.call? texts = some call) {here : Shell × (σ × List Call)}
    (h : Sending call letter texts here) {stimulus : Stimulus} (hidle : stimulus.isIdle = true) :
    Sending call letter texts (react (logging service) here stimulus) := by
  obtain ⟨s, world, log⟩ := here
  cases h with
  | behind hrest hlog =>
      obtain ⟨hnext, hsame⟩ := hrest.react service hidle
      exact .behind hnext (hsame.trans hlog)
  | before hclosed hready hwaiting hlog =>
      dsimp only at hclosed hready hwaiting hlog
      subst hlog
      cases hjob : s.attended? stimulus with
      | none =>
          obtain ⟨hsame, hnone⟩ := jobs_react_of_idle (logging service) hclosed hwaiting (world, []) hidle hjob
          refine .before (chain_react_of_idle (logging service) hclosed (world, []) hidle) (hsame.trans hready) hnone ?_
          simp [log_react, called?, hjob]
      | some job =>
          cases stimulus with
          | attend place =>
              -- The letter is the only job, so it is the one that is carried on.
              have hplace : place < s.ready.length := (List.getElem?_eq_some_iff.mp hjob).1
              obtain rfl : place = 0 := by simpa [hready] using hplace
              exact sending_attend service hcall hclosed hready hwaiting world
          | _ => simp [attended?] at hjob

theorem Sending.after (hcall : letter.call? texts = some call) {here : Shell × (σ × List Call)}
    (h : Sending call letter texts here) {stimuli : List Stimulus}
    (hidle : ∀ stimulus ∈ stimuli, stimulus.isIdle = true) :
    Sending call letter texts (after (logging service) here stimuli) := by
  induction stimuli generalizing here with
  | nil => exact h
  | cons stimulus rest ih =>
      exact ih (h.react service hcall (hidle stimulus List.mem_cons_self))
        fun other hmem => hidle other (List.mem_cons_of_mem _ hmem)

/-- At most the one call has been made. -/
theorem Sending.log_cases {here : Shell × (σ × List Call)} (h : Sending call letter texts here) :
    here.2.2 = [] ∨ here.2.2 = [call] := by
  cases h with
  | before _ _ _ hlog => exact Or.inl hlog
  | behind _ hlog => exact Or.inr hlog

/-- **Settling makes the call,** unless it has been made. -/
theorem Sending.settle (hcall : letter.call? texts = some call) {here : Shell × (σ × List Call)}
    (h : Sending call letter texts here) : (settle (logging service) here.1 here.2).2.2 = [call] := by
  have hasking : here.1.isAsking = false := by
    cases h with
    | before hclosed _ _ _ => exact isAsking_of_closed hclosed
    | behind hrest _ => exact isAsking_of_closed hrest.closed
  have hempty := settle_ready (logging service) hasking here.2
  have hidle : ∀ stimulus ∈ List.replicate here.1.ready.length (.attend 0), Stimulus.isIdle stimulus = true := by
    simp [List.mem_replicate, Stimulus.isIdle]
  have hlast := h.after service hcall hidle
  rw [← settle_eq_after (logging service) hasking] at hlast
  cases hlast with
  | before _ hready _ _ => simp [hempty] at hready
  | behind _ hlog => exact hlog

/-! ## From the first line to the end -/

/-- **The mark sends a letter:** its one call is made, no matter when, and no other call is. -/
theorem Composing.sends {id : Nat} {receivers copies hidden subject mark : String} {body : List String}
    (h : s.Composing id letter ([receivers, copies, hidden, subject] ++ body)) (hmark : Text.trimmed mark = ".")
    (world : σ) :
    ∃ call, letter.IsSentBy receivers copies hidden subject body call ∧
      ∀ later : List Stimulus, (∀ stimulus ∈ later, stimulus.isIdle = true) →
        let here := Shell.after (logging service) (s, (world, [])) (.line mark :: later)
        (here.2.2 = [] ∨ here.2.2 = [call]) ∧ (settle (logging service) here.1 here.2).2.2 = [call] := by
  obtain ⟨call, hcall, hsent⟩ := letter.exists_isSentBy receivers copies hidden subject body
  obtain ⟨hmode, hwaiting, hready⟩ := h.submit_mark hmark
  have hsending : Sending call letter _ (Shell.react (logging service) (s, (world, [])) (.line mark)) :=
    .before (idle_of_command hmode).2 hready hwaiting rfl
  refine ⟨call, hsent, fun later hidle => ?_⟩
  have hlater := hsending.after service hcall hidle
  exact ⟨hlater.log_cases, hlater.settle service hcall⟩

/-- **An interrupted letter leaves nothing behind** that makes a call, or that what comes later can tell from nothing. -/
theorem Composing.givesUp {id : Nat} {typed : List String} (h : s.Composing id letter typed) (world : σ)
    (later : List Stimulus) :
    ((∀ stimulus ∈ later, stimulus.isIdle = true) →
        (Shell.after (logging service) (s.interrupt, (world, [])) later).2.2 = []) ∧
      ∃ others : List Stimulus, others.filter Stimulus.isOutside = later.filter Stimulus.isOutside ∧
        (Shell.after (logging service) (s.interrupt, (world, [])) later).2 =
          (Shell.after (logging service) (s.interrupt.withReady [], (world, [])) others).2 := by
  obtain ⟨hmode, hwaiting, hready⟩ := h.interrupt
  have hrest : s.interrupt.WindsDown :=
    ⟨(idle_of_command hmode).2, by simp [hready, Job.isSpent], by simp [hwaiting]⟩
  have hspares : s.interrupt.Spares (s.interrupt.withReady []) := by
    have hjob := Spares.job s.interrupt letter [] []
    rwa [List.nil_append, ← hready] at hjob
  obtain ⟨others, hothers, -, hsame⟩ := hspares.after (logging service) (world, []) later
  exact ⟨fun hidle => (hrest.after service (s.interrupt, (world, [])) hidle).2, others, hothers, hsame.symm⟩

/-- **What becomes of a letter** that a line begins. -/
structure MailsLetter (s : Shell) (world : σ) (line : String) (letter : Letter) : Prop where
  /-- Until the mark, or an interruption, the letter is being written: every line is an answer to it, and no call is
  made. -/
  composes (composing : List Stimulus) (hstimuli : .interrupt ∉ composing)
    (hlines : Letter.IsUnfinished (Stimulus.lines composing)) :
    let here := after (logging service) (s, (world, [])) (.line line :: composing)
    here.1.Composing s.console.reader.asked letter (Stimulus.lines composing) ∧ here.2.2 = [] ∧
      ∀ next, here.1.submit next = here.1.follow (here.1.console.answer next)
  /-- The mark sends the letter: its one call is made, no matter when, and no other call is. -/
  sends (composing : List Stimulus) (hstimuli : .interrupt ∉ composing) (receivers copies hidden subject : String)
    (body : List String) (hlines : Stimulus.lines composing = [receivers, copies, hidden, subject] ++ body)
    (hbody : ∀ text ∈ body, Text.trimmed text ≠ ".") (mark : String) (hmark : Text.trimmed mark = ".") :
    ∃ call, letter.IsSentBy receivers copies hidden subject body call ∧
      ∀ later : List Stimulus, (∀ stimulus ∈ later, stimulus.isIdle = true) →
        let here := after (logging service) (s, (world, [])) (.line line :: composing ++ .line mark :: later)
        (here.2.2 = [] ∨ here.2.2 = [call]) ∧ (settle (logging service) here.1 here.2).2.2 = [call]
  /-- After an interruption before the mark, the next line is a command and no job is left that makes a call: nothing is
  called as long as nothing else is asked for, and whatever is, the service is called as if there were no letter. -/
  givesUp (composing : List Stimulus) (hstimuli : .interrupt ∉ composing)
    (hlines : Letter.IsUnfinished (Stimulus.lines composing)) :
    let here := after (logging service) (s, (world, [])) (.line line :: composing ++ [.interrupt])
    (∀ next, here.1.submit next = here.1.runCommand next) ∧ here.1.waiting = [] ∧ here.2.2 = [] ∧
      ∀ later : List Stimulus,
        ((∀ stimulus ∈ later, stimulus.isIdle = true) → (after (logging service) here later).2.2 = []) ∧
        ∃ others : List Stimulus, others.filter Stimulus.isOutside = later.filter Stimulus.isOutside ∧
          (after (logging service) here later).2 = (after (logging service) (here.1.withReady [], here.2) others).2

/-- **A line of `mail` is the beginning of a letter,** if nothing else has the input and no work is pending. -/
theorem mailsLetter (hpaging : s.isPaging = false) (hasking : s.isAsking = false) (hpending : s.hasPending = false)
    {line : String} {i : Invocation} (hread : parseLine s.registry line s.session.cwd = .ok (some i))
    (hmail : i.command.verb = .mail) (world : σ) :
    s.MailsLetter service world line
      { mailer := i.args.str "mailer", sender := i.args.str "from", html := i.args.flag "html" } := by
  have hbegin := composing_submit hpaging hasking hpending hread hmail
  generalize ({ mailer := i.args.str "mailer", sender := i.args.str "from", html := i.args.flag "html" } : Letter) = letter
    at hbegin ⊢
  -- The state in which the letter is left by the lines of it that have been typed.
  have hcompose (composing : List Stimulus) (hstimuli : .interrupt ∉ composing)
      (hlines : Letter.IsUnfinished (Stimulus.lines composing)) :
      ∃ t : Shell, after (logging service) (s, (world, [])) (.line line :: composing) = (t, (world, [])) ∧
        t.Composing s.console.reader.asked letter (Stimulus.lines composing) := by
    obtain ⟨hcomposing, hworld⟩ := hbegin.after (logging service) (world, []) hstimuli hlines
    exact ⟨_, Prod.ext rfl hworld, hcomposing⟩
  refine ⟨fun composing hstimuli hlines => ?_, fun composing hstimuli receivers copies hidden subject body hlines hbody
    mark hmark => ?_, fun composing hstimuli hlines => ?_⟩
  · obtain ⟨t, heq, ht⟩ := hcompose composing hstimuli hlines
    rw [heq]
    exact ⟨ht, rfl, submit_question ht.idle ht.chain⟩
  · have hunfinished : Letter.IsUnfinished (Stimulus.lines composing) := by
      rw [hlines]
      exact hbody
    obtain ⟨t, heq, ht⟩ := hcompose composing hstimuli hunfinished
    rw [hlines] at ht
    obtain ⟨call, hsent, hlater⟩ := ht.sends service hmark world
    refine ⟨call, hsent, fun later hidle => ?_⟩
    rw [after_append, heq]
    exact hlater later hidle
  · obtain ⟨t, heq, ht⟩ := hcompose composing hstimuli hlines
    obtain ⟨hmode, hwaiting, -⟩ := ht.interrupt
    obtain ⟨hidle, hclosed⟩ := idle_of_command hmode
    rw [after_append, heq]
    exact ⟨submit_command hidle hclosed, hwaiting, rfl, ht.givesUp service world⟩

end

/-- A letter through a relay, with lines that look like a command, blank lines and lines that are almost the mark. -/
theorem mailsLetter_relay :
    let service : Service Unit := fun _ _ world => (none, world)
    let s := Shell.new Commands.registry "/home/alice" "> " (Pager.new 24 true) { zone := 0 }
    let i : Invocation :=
      { command := Commands.mail[1], args := [("from", .str "me@x"), ("mailer", .str "/m/relay")] }
    let letter : Letter := { mailer := some "/m/relay", sender := some "me@x", html := false }
    let composing : List Stimulus := [.line " a@x, ,b@y ,", .attend 0, .line "", .line "exit", .line " Hello ",
      .line "ls", .line "", .line ".."]
    (s.isPaging = false ∧ s.isAsking = false ∧ s.hasPending = false ∧
        parseLine s.registry "mail /m/relay from=me@x" s.session.cwd = .ok (some i) ∧ i.command.verb = .mail) ∧
      s.MailsLetter service () "mail /m/relay from=me@x" letter ∧
      ∃ call, letter.IsSentBy " a@x, ,b@y ," "" "exit" " Hello " ["ls", "", ".."] call ∧
        let here := after (logging service) (s, ((), []))
          (.line "mail /m/relay from=me@x" :: composing ++ [.line " . "])
        (settle (logging service) here.1 here.2).2.2 = [call] := by
  intro service s i letter composing
  have hread : parseLine s.registry "mail /m/relay from=me@x" s.session.cwd = .ok (some i) := by decide +kernel
  have hmails := mailsLetter service (s := s) rfl rfl rfl hread rfl ()
  have hbody : ∀ text ∈ ["ls", "", ".."], Text.trimmed text ≠ "." := by decide +kernel
  obtain ⟨call, hsent, hlater⟩ :=
    hmails.sends composing (by simp [composing]) _ _ _ _ ["ls", "", ".."] rfl hbody " . " (by decide +kernel)
  exact ⟨⟨rfl, rfl, rfl, hread, rfl⟩, hmails, call, hsent, (hlater [] (by simp)).2⟩

/-- All of it belongs to the letter. -/
example :
    let service : Service Unit := fun _ _ world => (none, world)
    let here := after (logging service)
      (Shell.new Commands.registry "/home/alice" "> " (Pager.new 24 true) { zone := 0 }, ((), []))
      [.line "mail /m/relay from=me@x", .line " a@x, ,b@y ,", .attend 0, .line "", .line "exit", .line " Hello ",
        .line "ls", .line "", .line "..", .line " . "]
    (settle (logging service) here.1 here.2).2.2 =
      [{ api := .file, op := "smtp"
         params := Json.ofMembers
           [("mailer", .str "/m/relay"),
             ("message", Json.ofMembers
               [("from", .str "me@x"), ("html", .bool false), ("to", .arr [.str "a@x", .str "b@y"]), ("cc", .arr []),
                 ("bcc", .arr [.str "exit"]), ("subject", .str " Hello "), ("content", .str "ls\n\n..")])] }] := by
  decide +kernel

end Shell

end RemoteShell
