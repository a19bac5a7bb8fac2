import RemoteShell.Proofs.Shell.Succession

/-!
# Writing a letter

While a letter is written, every line is an answer to one of its questions: four lines, and then the lines of the text up
to the first that is the mark, blanks around it aside. The chain of questions is therefore a function of the lines that
have been typed, and the job of the letter is the only one there is, either still in the queue or set aside. What is done
meanwhile apart from the lines changes neither. When the mark is typed the job has all answers, and the next time it is
carried on it makes its call. An interruption before that leaves a job that has been told to give up, and the line goes to
the commands again.

Main statements:

* `Reader.answer_chain`, `Reader.answer_mark`: the chain of questions, from the lines that have been typed.
* `Shell.Composing.react`, `Shell.Composing.after`: a letter that is being written, step by step and in a whole run.
* `Shell.Composing.submit_mark`, `Shell.Composing.interrupt`: how it comes to its end.
-/

namespace RemoteShell

/-! ## The questions of a letter -/

namespace Letter

/-- Lines that leave a letter unfinished: behind the first four, none is the mark that ends the text. -/
def IsUnfinished (typed : List String) : Prop :=
  ∀ line ∈ typed.drop 4, Text.trimmed line ≠ endOfText

/-- The chain of questions of a letter, once some lines have been typed. -/
def chain (id : Nat) (typed : List String) : Chain where
  id := id
  current := questions.dropLast.getD typed.length (.body "Message:" "> " endOfText)
  rest := questions.drop (typed.length + 1)
  answers := typed.take 4
  body := typed.drop 4

theorem IsUnfinished.of_append {typed more : List String} (h : IsUnfinished (typed ++ more)) : IsUnfinished typed := by
  intro line hmem
  refine h line ?_
  rw [List.drop_append]
  exact List.mem_append_left _ hmem

end Letter

namespace Reader

variable {r : Reader} {id : Nat}

theorem chain_start (h : r.chain = none) : (r.start Letter.questions).reader.chain = some (Letter.chain r.asked []) := by
  simp [start, h, Letter.questions, Letter.chain]

/-- **A line that leaves the letter unfinished is an answer, or a line of the text.** -/
theorem answer_chain {typed : List String} (hchain : r.chain = some (Letter.chain id typed)) {line : String}
    (h : Letter.IsUnfinished (typed ++ [line])) :
    (r.answer line).settled = none ∧ (r.answer line).reader.chain = some (Letter.chain id (typed ++ [line])) := by
  match typed with
  | [] | [_] | [_, _] | [_, _, _] =>
      simp [answer, hchain, Letter.chain, Letter.questions, advance]
  | receivers :: copies :: hidden :: subject :: body =>
      have hline : (Text.trimmed line == Letter.endOfText) = false := by
        simpa using h line (by simp)
      simp [answer, hchain, Letter.chain, Letter.questions, hline]

/-- **The mark completes the answers.** -/
theorem answer_mark {receivers copies hidden subject mark : String} {body : List String}
    (hchain : r.chain = some (Letter.chain id ([receivers, copies, hidden, subject] ++ body)))
    (hmark : Text.trimmed mark = Letter.endOfText) :
    (r.answer mark).settled = some (id, .ok [receivers, copies, hidden, subject, "\n".intercalate body]) ∧
      (r.answer mark).reader.chain = none := by
  simp [answer, hchain, Letter.chain, Letter.questions, hmark, advance]

end Reader

/-! ## A letter that is being written -/

/-- The line of a stimulus. -/
def Stimulus.line? : Stimulus → Option String
  | .line text => some text
  | _ => none

/-- The lines of some stimuli. -/
def Stimulus.lines (stimuli : List Stimulus) : List String :=
  stimuli.filterMap Stimulus.line?

theorem Stimulus.lines_cons (stimulus : Stimulus) (rest : List Stimulus) :
    Stimulus.lines (stimulus :: rest) = stimulus.line?.toList ++ Stimulus.lines rest := by
  unfold Stimulus.lines
  cases h : stimulus.line? with
  | none => rw [List.filterMap_cons_none h]; rfl
  | some line => rw [List.filterMap_cons_some h]; rfl

namespace Shell

/-- **A letter is being written,** and some lines of it have been typed: its questions have the input, and its job is the
only one. -/
structure Composing (id : Nat) (letter : Letter) (typed : List String) (s : Shell) : Prop where
  idle : s.isPaging = false
  chain : s.console.reader.chain = some (Letter.chain id typed)
  jobs : (s.ready = [.compose id letter] ∧ s.waiting = []) ∨ (s.ready = [] ∧ s.waiting = [.answers id letter])

section

variable {id : Nat} {letter : Letter} {typed : List String} {s : Shell}

theorem Composing.inputMode (h : s.Composing id letter typed) : s.inputMode = .question (Letter.chain id typed) :=
  inputMode_question h.idle h.chain

/-- The letter gets its answers, and no other job is left. -/
theorem Composing.answerLetter (h : s.Composing id letter typed) (console : Console) (completer : Completer)
    (answers : Answers) :
    ({ s with console, completer } : Shell).answerLetter id answers =
      { s with console, completer, ready := [.send letter answers], waiting := [] } := by
  rcases h.jobs with ⟨hready, hwaiting⟩ | ⟨hready, hwaiting⟩
  · simp [Shell.answerLetter, hready, hwaiting, Job.answered]
  · simp [Shell.answerLetter, hready, hwaiting, Waiting.letter?]

/-- **A line of `mail` begins a letter** if there is nothing else to do. -/
theorem composing_submit (hpaging : s.isPaging = false) (hasking : s.isAsking = false) (hpending : s.hasPending = false)
    {line : String} {i : Invocation} (hread : parseLine s.registry line s.session.cwd = .ok (some i))
    (hmail : i.command.verb = .mail) :
    (s.submit line).Composing s.console.reader.asked
      { mailer := i.args.str "mailer", sender := i.args.str "from", html := i.args.flag "html" } [] := by
  have hchain : s.console.reader.chain = none := by simpa [isAsking, Reader.isActive] using hasking
  have hjobs : s.ready = [] ∧ s.waiting = [] := by simpa [hasPending] using hpending
  have hplan : planOf s.surroundings line = Plan.write i.args := by
    simp only [planOf, surroundings, hread, hmail, Plan.ofVerb]
  rw [submit_of_command (inputMode_command hpaging hchain), hplan]
  refine ⟨hpaging, Reader.chain_start hchain, Or.inl ⟨?_, hjobs.2⟩⟩
  rw [hjobs.1]
  rfl

variable {σ : Type} (service : Service σ)

/-- **Whatever is done while a letter is written, other than to interrupt or to end it,** a line is one more line of it,
and the service is not called. -/
theorem Composing.react (h : s.Composing id letter typed) (world : σ) {stimulus : Stimulus}
    (hstimulus : stimulus ≠ .interrupt) (hline : Letter.IsUnfinished (typed ++ stimulus.line?.toList)) :
    (react service (s, world) stimulus).1.Composing id letter (typed ++ stimulus.line?.toList) ∧
      (react service (s, world) stimulus).2 = world := by
  cases stimulus with
  | interrupt => exact absurd rfl hstimulus
  | line text =>
      obtain ⟨hsettled, hchain⟩ := Reader.answer_chain h.chain hline
      refine ⟨?_, rfl⟩
      simp only [Shell.react, submit_question h.idle h.chain, follow, Console.answer, Console.follow, hsettled]
      exact ⟨h.idle, hchain, h.jobs⟩
  | complete text pos =>
      refine ⟨?_, rfl⟩
      rw [Shell.react, complete_inputMode, h.inputMode]
      simp only [Stimulus.line?, Option.toList_none, List.append_nil, reduceCtorEq, if_false]
      exact ⟨h.idle, h.chain, h.jobs⟩
  | attend place =>
      simp only [Stimulus.line?, Option.toList_none, List.append_nil]
      rcases h.jobs with ⟨hready, hwaiting⟩ | ⟨hready, hwaiting⟩
      · cases place with
        | zero =>
            rw [react_attend_zero service hready]
            exact ⟨⟨h.idle, h.chain, Or.inr ⟨rfl, by simp [attend, hwaiting]⟩⟩, rfl⟩
        | succ place =>
            rw [react_attend_none service (by simp [hready])]
            exact ⟨h, rfl⟩
      · rw [react_attend_none service (by simp [hready])]
        exact ⟨h, rfl⟩
  | reply ticket outcome =>
      simp only [Stimulus.line?, Option.toList_none, List.append_nil]
      refine ⟨⟨h.idle, h.chain, ?_⟩, rfl⟩
      rcases h.jobs with ⟨hready, hwaiting⟩ | ⟨hready, hwaiting⟩
      · exact Or.inl (by simp [Shell.react, deliver, hready, hwaiting])
      · exact Or.inr (by simp [Shell.react, deliver, hready, hwaiting, Waiting.aim?])
  | print | handOver | setPaging =>
      simp only [Stimulus.line?, Option.toList_none, List.append_nil]
      exact ⟨⟨h.idle, h.chain, h.jobs⟩, rfl⟩

/-- **A letter that is being written, in a whole run:** the lines of the run are lines of it, and the service is not
called. -/
theorem Composing.after (h : s.Composing id letter typed) (world : σ) {stimuli : List Stimulus}
    (hstimuli : .interrupt ∉ stimuli) (hlines : Letter.IsUnfinished (typed ++ Stimulus.lines stimuli)) :
    (after service (s, world) stimuli).1.Composing id letter (typed ++ Stimulus.lines stimuli) ∧
      (after service (s, world) stimuli).2 = world := by
  induction stimuli generalizing s typed with
  | nil => exact ⟨by simpa [Stimulus.lines, Shell.after] using h, rfl⟩
  | cons stimulus rest ih =>
      rw [Stimulus.lines_cons, ← List.append_assoc] at hlines ⊢
      have hfirst : stimulus ≠ .interrupt := fun heq => hstimuli (by simp [heq])
      obtain ⟨hnext, hworld⟩ := h.react service world hfirst hlines.of_append
      have hrest := ih hnext (fun hmem => hstimuli (List.mem_cons_of_mem _ hmem)) hlines
      have hsame : Shell.react service (s, world) stimulus = ((Shell.react service (s, world) stimulus).1, world) :=
        Prod.ext rfl hworld
      rw [after_cons, hsame]
      exact hrest

/-! ## The end of a letter -/

/-- **The mark completes the letter:** its job has all answers, and the line goes to the commands again. -/
theorem Composing.submit_mark {receivers copies hidden subject mark : String} {body : List String}
    (h : s.Composing id letter ([receivers, copies, hidden, subject] ++ body))
    (hmark : Text.trimmed mark = Letter.endOfText) :
    (s.submit mark).inputMode = .command ∧ (s.submit mark).waiting = [] ∧
      (s.submit mark).ready = [.send letter (.ok [receivers, copies, hidden, subject, "\n".intercalate body])] := by
  obtain ⟨hsettled, hchain⟩ := Reader.answer_mark h.chain hmark
  simp only [submit_question h.idle h.chain, follow, Console.answer, Console.follow, hsettled]
  rw [h.answerLetter]
  exact ⟨inputMode_command h.idle hchain, rfl, rfl⟩

/-- **An interruption gives the letter up:** its job is told so, and the line goes to the commands again. -/
theorem Composing.interrupt (h : s.Composing id letter typed) :
    s.interrupt.inputMode = .command ∧ s.interrupt.waiting = [] ∧
      s.interrupt.ready = [.send letter (.error .cancelled)] := by
  rw [interrupt_inputMode, h.inputMode]
  dsimp only [Letter.chain]
  rw [h.answerLetter]
  exact ⟨inputMode_command h.idle rfl, rfl, rfl⟩

end

end Shell

end RemoteShell
