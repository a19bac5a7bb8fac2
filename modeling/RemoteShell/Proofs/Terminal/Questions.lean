import Mathlib.Data.List.TakeWhile
import RemoteShell.Terminal.Reader

/-!
# How the answers to a chain of questions are found

A chain of questions cuts the lines that are typed into answers: one line for a line, the lines up to the first marker
for a body. What the reader hands over when a chain is complete is what this cutting gives, whatever else it is asked
to do in the meantime; and each chain that is asked for comes to exactly one end or is the one that is open.

Main statements:

* `answers?_eq_some_iff`: the answers to a chain, told by the lines that are cut off for each question.
* `answer_advance_or_body`: a line completes an answer, or it is one more line of a body.
* `account_run`: what has been asked for is open or has come to its end, once.
* `outcomes_of_outcome?`: nothing more comes of a chain that has come to its end.
* `outcomes_of_chain`: the end of an open chain, found from the lines that are still to come.
* `delivers_run`: what holds of every run.
-/

namespace RemoteShell

namespace Question

/-- The answer that a question takes from the lines that are typed, and the lines behind it. -/
def take? : Question → List String → Option (String × List String)
  | .line _, [] => none
  | .line _, typed :: rest => some (typed, rest)
  | .body _ _ marker, lines =>
    match lines.dropWhile (Text.trimmed · != marker) with
    | [] => none
    | _ :: rest => some ("\n".intercalate (lines.takeWhile (Text.trimmed · != marker)), rest)

/-- These lines are an answer to the question and no more: one line, or the lines of a body and the marker. -/
inductive Answered : Question → List String → String → Prop
  | line (prompt line : String) : Answered (.line prompt) [line] line
  | body (banner prompt : String) {marker last : String} {body : List String}
      (hbody : ∀ line ∈ body, Text.trimmed line ≠ marker) (hlast : Text.trimmed last = marker) :
      Answered (.body banner prompt marker) (body ++ [last]) ("\n".intercalate body)

theorem take?_line_eq_none_iff {prompt : String} {lines : List String} :
    (Question.line prompt).take? lines = none ↔ lines = [] := by
  cases lines <;> simp [take?]

theorem take?_body_eq_none_iff {banner prompt marker : String} {lines : List String} :
    (Question.body banner prompt marker).take? lines = none ↔ ∀ typed ∈ lines, Text.trimmed typed ≠ marker := by
  have hall : (∀ typed ∈ lines, Text.trimmed typed ≠ marker) ↔ lines.dropWhile (Text.trimmed · != marker) = [] := by
    simp [List.dropWhile_eq_nil_iff]
  rw [hall, take?]
  cases lines.dropWhile (Text.trimmed · != marker) <;> simp

theorem take?_nil (question : Question) : question.take? [] = none := by
  cases question <;> rfl

/-- An answer is taken, whatever is typed behind it. -/
theorem Answered.take? {question : Question} {piece : List String} {answer : String}
    (h : question.Answered piece answer) (rest : List String) :
    question.take? (piece ++ rest) = some (answer, rest) := by
  cases h with
  | line prompt typed => rfl
  | @body banner prompt marker last body hbody hlast =>
      have hopen : ∀ typed ∈ body, (Text.trimmed typed != marker) = true := by simpa using hbody
      simp [Question.take?, List.dropWhile_append_of_pos hopen, List.takeWhile_append_of_pos hopen, hlast]

/-- What is taken is an answer, and the other lines are left. -/
theorem exists_of_take?_eq_some {question : Question} {lines rest : List String} {answer : String}
    (h : question.take? lines = some (answer, rest)) :
    ∃ piece, lines = piece ++ rest ∧ question.Answered piece answer := by
  cases question with
  | line prompt =>
      cases lines with
      | nil => cases h
      | cons typed lines =>
          cases h
          exact ⟨[answer], rfl, .line prompt answer⟩
  | body banner prompt marker =>
      have hcut : lines.takeWhile (Text.trimmed · != marker) ++ lines.dropWhile (Text.trimmed · != marker) = lines :=
        List.takeWhile_append_dropWhile
      cases hbehind : lines.dropWhile (Text.trimmed · != marker) with
      | nil => simp [take?, hbehind] at h
      | cons last behind =>
          simp only [take?, hbehind, Option.some.injEq, Prod.mk.injEq] at h
          obtain ⟨rfl, rfl⟩ := h
          have hbody : ∀ typed ∈ lines.takeWhile (Text.trimmed · != marker), Text.trimmed typed ≠ marker := by
            intro typed htyped
            simpa using List.mem_takeWhile_imp htyped
          have hlast : Text.trimmed last = marker := by
            have hstop := List.head?_dropWhile_not (Text.trimmed · != marker) lines
            simpa [hbehind] using hstop
          refine ⟨lines.takeWhile (Text.trimmed · != marker) ++ [last], ?_, .body banner prompt hbody hlast⟩
          rw [List.append_assoc, List.singleton_append, ← hbehind, hcut]

end Question

/-! ## The answers to a chain -/

/-- The answers that the lines give to a chain of questions, as soon as there is one to each of them. -/
def answers? : List Question → List String → Option (List String)
  | [], _ => some []
  | question :: questions, lines =>
    (question.take? lines).bind fun taken => (answers? questions taken.2).map (taken.1 :: ·)

/-- The lines are cut into answers to these questions, one after the other, and nothing is left. -/
inductive Segmented : List Question → List String → List String → Prop
  | nil : Segmented [] [] []
  | cons {question : Question} {questions : List Question} {piece lines : List String} {answer : String}
      {answers : List String} (hfirst : question.Answered piece answer) (hrest : Segmented questions lines answers) :
      Segmented (question :: questions) (piece ++ lines) (answer :: answers)

/-- There is one answer to each question. -/
theorem Segmented.length_answers {questions : List Question} {lines answers : List String}
    (h : Segmented questions lines answers) : answers.length = questions.length := by
  induction h with
  | nil => rfl
  | cons hfirst hrest ih => rw [List.length_cons, List.length_cons, ih]

theorem answers?_of_answered {question : Question} {piece : List String} {answer : String}
    (h : question.Answered piece answer) (questions : List Question) (lines : List String) :
    answers? (question :: questions) (piece ++ lines) = (answers? questions lines).map (answer :: ·) := by
  rw [answers?, h.take?, Option.bind_some]

/-- **The answers are those into which the first of the lines are cut.** -/
theorem answers?_eq_some_iff {questions : List Question} {lines answers : List String} :
    answers? questions lines = some answers ↔ ∃ front, front <+: lines ∧ Segmented questions front answers := by
  constructor
  · intro h
    induction questions generalizing lines answers with
    | nil =>
        cases h
        exact ⟨[], List.nil_prefix, .nil⟩
    | cons question questions ih =>
        obtain ⟨⟨answer, behind⟩, htake, hmap⟩ := Option.bind_eq_some_iff.mp h
        obtain ⟨others, hothers, rfl⟩ := Option.map_eq_some_iff.mp hmap
        obtain ⟨piece, rfl, hfirst⟩ := Question.exists_of_take?_eq_some htake
        obtain ⟨front, hfront, hrest⟩ := ih hothers
        exact ⟨piece ++ front, (List.prefix_append_right_inj piece).mpr hfront, .cons hfirst hrest⟩
  · rintro ⟨front, ⟨behind, rfl⟩, h⟩
    induction h with
    | nil => rfl
    | cons hfirst hrest ih => rw [List.append_assoc, answers?_of_answered hfirst, ih, Option.map_some]

/-- The end to which a step brings the chain of this number. -/
def ReaderStep.outcome? (step : ReaderStep) (id : Nat) : Option Answers :=
  match step.settled with
  | some (settled, answers) => if settled = id then some answers else none
  | none => none

namespace Chain

/-- The answers to all questions of a chain, once the lines still to come complete them. -/
def completed? (c : Chain) (lines : List String) : Option (List String) :=
  (answers? (c.current :: c.rest) (c.body ++ lines)).map (c.answers ++ ·)

/-- A chain that is one of those that were asked for, and whose question waits for an answer. -/
structure Waits (c : Chain) (asked : Nat) : Prop where
  id_lt : c.id < asked
  unanswered : c.current.take? c.body = none

theorem Waits.completed?_nil {c : Chain} {asked : Nat} (h : c.Waits asked) : c.completed? [] = none := by
  rw [completed?, answers?, List.append_nil, h.unanswered]
  rfl

/-- A line of a body is typed before the lines still to come. -/
theorem completed?_body (c : Chain) (line : String) (lines : List String) :
    { c with body := c.body ++ [line] }.completed? lines = c.completed? (line :: lines) := by
  simp only [completed?, List.append_assoc, List.singleton_append]

/-- The line that completes an answer leaves the questions behind it to the lines still to come. -/
theorem completed?_of_answered {c : Chain} {line answer : String} (h : c.current.Answered (c.body ++ [line]) answer)
    (lines : List String) :
    c.completed? (line :: lines) = (answers? c.rest lines).map ((c.answers ++ [answer]) ++ ·) := by
  rw [completed?, List.append_cons, answers?_of_answered h, Option.map_map]
  simp only [Function.comp_def, List.append_assoc, List.singleton_append]

end Chain

namespace Reader

/-- What a reader may be asked to do. -/
inductive Event where
  | start (questions : List Question)
  | answer (line : String)
  | cancel
deriving DecidableEq, Repr

/-- Whether a chain is asked for. -/
def Event.asks : Event → Bool
  | .start _ => true
  | .answer _ => false
  | .cancel => false

/-- One step. -/
def handle (r : Reader) : Event → ReaderStep
  | .start questions => r.start questions
  | .answer line => r.answer line
  | .cancel => r.cancel

/-- The reader after a run. -/
def run (r : Reader) (events : List Event) : Reader :=
  events.foldl (fun r event => (r.handle event).reader) r

/-- The ends to which a run brings the chain of this number. -/
def outcomes (r : Reader) (id : Nat) : List Event → List Answers
  | [] => []
  | event :: rest => ((r.handle event).outcome? id).toList ++ (r.handle event).reader.outcomes id rest

theorem run_cons (r : Reader) (event : Event) (rest : List Event) :
    r.run (event :: rest) = (r.handle event).reader.run rest := rfl

theorem outcomes_append (r : Reader) (id : Nat) (before after : List Event) :
    r.outcomes id (before ++ after) = r.outcomes id before ++ (r.run before).outcomes id after := by
  induction before generalizing r with
  | nil => rfl
  | cons event before ih => rw [List.cons_append, outcomes, outcomes, ih, run_cons, List.append_assoc]

/-! ## What a line does -/

/-- A line completes the answer to the question, or it is one more line of a body. -/
theorem answer_advance_or_body {r : Reader} {c : Chain} (hchain : r.chain = some c) (line : String) :
    (∃ answer, r.answer line = r.advance c (c.answers ++ [answer]) ∧
      (c.current.take? c.body = none → c.current.Answered (c.body ++ [line]) answer)) ∨
    (r.answer line = { reader := { r with chain := some { c with body := c.body ++ [line] } } } ∧
      (c.current.take? c.body = none → c.current.take? (c.body ++ [line]) = none)) := by
  obtain ⟨id, current, rest, answers, body⟩ := c
  cases current with
  | line prompt =>
      refine .inl ⟨line, by simp [answer, hchain], fun hbody => ?_⟩
      obtain rfl : body = [] := Question.take?_line_eq_none_iff.mp hbody
      exact .line prompt line
  | body banner prompt marker =>
      by_cases hmarker : Text.trimmed line = marker
      · refine .inl ⟨"\n".intercalate body, by simp [answer, hchain, hmarker], fun hbody => ?_⟩
        exact .body banner prompt (Question.take?_body_eq_none_iff.mp hbody) hmarker
      · refine .inr ⟨by simp [answer, hchain, hmarker], fun hbody => ?_⟩
        rw [Question.take?_body_eq_none_iff] at hbody ⊢
        simpa [or_imp, forall_and, hmarker] using hbody

/-- While a chain is open, another is refused. -/
theorem start_of_chain {r : Reader} {c : Chain} (hchain : r.chain = some c) (questions : List Question) :
    r.start questions =
      { reader := { r with asked := r.asked + 1 }, settled := some (r.asked, .error .busy) } := by
  simp [start, hchain]

/-! ## Every chain has one end -/

/-- How often the chain of this number is open: once or not at all. -/
def opened (r : Reader) (id : Nat) : Nat :=
  if r.chain.map (·.id) = some id then 1 else 0

/-- How often a chain of this number has been asked for: once or not at all. -/
def counted (r : Reader) (id : Nat) : Nat :=
  if id < r.asked then 1 else 0

/-- A chain goes on to the next question, or comes to its end behind the last. -/
theorem account_advance (r : Reader) (c : Chain) (answers : List String) (id : Nat) :
    ((r.advance c answers).outcome? id).toList.length + (r.advance c answers).reader.opened id =
      if c.id = id then 1 else 0 := by
  obtain ⟨chain, current, rest, given, body⟩ := c
  cases rest with
  | nil => by_cases hid : chain = id <;> simp [advance, ReaderStep.outcome?, opened, hid]
  | cons next rest => simp [advance, ReaderStep.outcome?, opened]

theorem asked_advance (r : Reader) (c : Chain) (answers : List String) :
    (r.advance c answers).reader.asked = r.asked := by
  rw [advance]
  split <;> rfl

/-- A chain that is asked for takes the next number: it is refused, or answered at once, or opened. -/
theorem account_start (r : Reader) (questions : List Question) (id : Nat) :
    ((r.start questions).outcome? id).toList.length + (r.start questions).reader.opened id =
      r.opened id + if r.asked = id then 1 else 0 := by
  obtain ⟨chain, asked⟩ := r
  cases chain with
  | some c => by_cases hid : asked = id <;> simp [start, ReaderStep.outcome?, opened, hid, Nat.add_comm]
  | none =>
      cases questions with
      | nil => by_cases hid : asked = id <;> simp [start, ReaderStep.outcome?, opened, hid]
      | cons current rest => simp [start, ReaderStep.outcome?, opened]

theorem asked_start (r : Reader) (questions : List Question) : (r.start questions).reader.asked = r.asked + 1 := by
  obtain ⟨chain, asked⟩ := r
  cases chain <;> cases questions <;> rfl

theorem account_answer (r : Reader) (line : String) (id : Nat) :
    ((r.answer line).outcome? id).toList.length + (r.answer line).reader.opened id = r.opened id := by
  cases hchain : r.chain with
  | none => simp [answer, hchain, ReaderStep.outcome?]
  | some c =>
      have hopened : r.opened id = if c.id = id then 1 else 0 := by simp [opened, hchain]
      rw [hopened]
      rcases answer_advance_or_body hchain line with ⟨answer, hstep, -⟩ | ⟨hstep, -⟩
      · rw [hstep, account_advance]
      · simp [hstep, ReaderStep.outcome?, opened]

theorem asked_answer (r : Reader) (line : String) : (r.answer line).reader.asked = r.asked := by
  cases hchain : r.chain with
  | none => simp [answer, hchain]
  | some c =>
      rcases answer_advance_or_body hchain line with ⟨answer, hstep, -⟩ | ⟨hstep, -⟩
      · rw [hstep, asked_advance]
      · rw [hstep]

theorem account_cancel (r : Reader) (id : Nat) :
    (r.cancel.outcome? id).toList.length + r.cancel.reader.opened id = r.opened id := by
  obtain ⟨chain, asked⟩ := r
  cases chain with
  | none => simp [cancel, ReaderStep.outcome?]
  | some c => by_cases hid : c.id = id <;> simp [cancel, ReaderStep.outcome?, opened, hid]

theorem asked_cancel (r : Reader) : r.cancel.reader.asked = r.asked := by
  obtain ⟨chain, asked⟩ := r
  cases chain <;> rfl

theorem asked_handle (r : Reader) (event : Event) :
    (r.handle event).reader.asked = r.asked + if event.asks then 1 else 0 := by
  cases event with
  | start questions => exact r.asked_start questions
  | answer line => exact r.asked_answer line
  | cancel => exact r.asked_cancel

/-- The chains that are asked for are counted, whatever becomes of them. -/
theorem asked_run (r : Reader) (events : List Event) : (r.run events).asked = r.asked + events.countP Event.asks := by
  induction events generalizing r with
  | nil => rfl
  | cons event rest ih =>
      rw [run_cons, ih, asked_handle, List.countP_cons]
      omega

/-- **What is asked for in a step, or open before it, comes to its end in it or is open afterwards.** -/
theorem account_handle (r : Reader) (event : Event) (id : Nat) :
    ((r.handle event).outcome? id).toList.length + (r.handle event).reader.opened id + r.counted id =
      r.opened id + (r.handle event).reader.counted id := by
  cases event with
  | start questions =>
      have hstart := r.account_start questions id
      simp only [handle, counted, asked_start]
      split_ifs at * <;> omega
  | answer line => simp only [handle, counted, asked_answer, account_answer]
  | cancel => simp only [handle, counted, asked_cancel, account_cancel]

/-- **A run brings what is asked for in it, or open before it, to one end, or leaves it open.** -/
theorem account_run (r : Reader) (events : List Event) (id : Nat) :
    (r.outcomes id events).length + (r.run events).opened id + r.counted id =
      r.opened id + (r.run events).counted id := by
  induction events generalizing r with
  | nil => simp [outcomes, run]
  | cons event rest ih =>
      have hstep := r.account_handle event id
      have hrest := ih (r.handle event).reader
      rw [outcomes, List.length_append, run_cons]
      omega

theorem counted_le (r : Reader) (id : Nat) : r.counted id ≤ 1 := by
  rw [counted]
  split <;> omega

/-- **What has been asked for since the beginning has ended once, or is open.** -/
theorem account_new (events : List Event) (id : Nat) :
    (outcomes {} id events).length + (run {} events).opened id = (run {} events).counted id := by
  have haccount := account_run {} events id
  have hopened : opened {} id = 0 := rfl
  have hcounted : counted {} id = 0 := rfl
  omega

/-- A chain that has been asked for and is not open does not end any more. -/
theorem outcomes_of_closed {r : Reader} {id : Nat} (hclosed : r.opened id = 0) (hcounted : r.counted id = 1)
    (events : List Event) : r.outcomes id events = [] := by
  have haccount := r.account_run events id
  have hlast := (r.run events).counted_le id
  exact List.eq_nil_of_length_eq_zero (by omega)

/-- A chain ends once: behind a step that brings it to its end, nothing more comes of it. -/
theorem outcomes_of_outcome? {r : Reader} {id : Nat} (hcounted : r.opened id ≤ r.counted id) {event : Event}
    {answers : Answers} (hend : (r.handle event).outcome? id = some answers) (rest : List Event) :
    r.outcomes id (event :: rest) = [answers] := by
  have haccount := r.account_handle event id
  have hlast := (r.handle event).reader.counted_le id
  rw [hend, Option.toList_some, List.length_singleton] at haccount
  rw [outcomes, hend, outcomes_of_closed (by omega) (by omega), List.append_nil, Option.toList_some]

/-! ## Sound readers -/

/-- The open chain is one of those that were asked for, and its question waits for an answer. -/
def Sound (r : Reader) : Prop :=
  ∀ c, r.chain = some c → c.Waits r.asked

theorem sound_new : Sound {} := by
  intro c hchain
  cases hchain

/-- Only what has been asked for is open. -/
theorem Sound.opened_le {r : Reader} (h : r.Sound) (id : Nat) : r.opened id ≤ r.counted id := by
  rw [opened, counted]
  split
  · next hopen =>
      obtain ⟨c, hchain, rfl⟩ := Option.map_eq_some_iff.mp hopen
      rw [if_pos (h c hchain).id_lt]
  · exact Nat.zero_le _

/-- A question that is asked next waits for an answer. -/
theorem sound_advance {r : Reader} {c : Chain} (hid : c.id < r.asked) (answers : List String) :
    (r.advance c answers).reader.Sound := by
  intro d hchain
  rw [advance] at hchain ⊢
  split at hchain
  · cases hchain
    exact ⟨by simpa using hid, Question.take?_nil _⟩
  · cases hchain

theorem sound_start {r : Reader} (h : r.Sound) (questions : List Question) : (r.start questions).reader.Sound := by
  intro c hchain
  rw [asked_start]
  cases hbefore : r.chain with
  | some d =>
      have hsame : c = d := by simpa [start, hbefore] using hchain.symm
      obtain ⟨hid, hbody⟩ := h d hbefore
      exact ⟨by rw [hsame]; omega, by rw [hsame]; exact hbody⟩
  | none =>
      cases questions with
      | nil => simp [start, hbefore] at hchain
      | cons current rest =>
          obtain rfl : c = { id := r.asked, current, rest } := by simpa [start, hbefore] using hchain.symm
          exact ⟨Nat.lt_succ_self _, Question.take?_nil _⟩

theorem sound_answer {r : Reader} (h : r.Sound) (line : String) : (r.answer line).reader.Sound := by
  cases hchain : r.chain with
  | none => simpa [answer, hchain] using h
  | some c =>
      obtain ⟨hid, hbody⟩ := h c hchain
      rcases answer_advance_or_body hchain line with ⟨answer, hstep, -⟩ | ⟨hstep, hwaits⟩
      · rw [hstep]
        exact sound_advance hid _
      · rw [hstep]
        intro d hd
        cases hd
        exact ⟨hid, hwaits hbody⟩

theorem sound_handle {r : Reader} (h : r.Sound) (event : Event) : (r.handle event).reader.Sound := by
  cases event with
  | start questions => exact sound_start h questions
  | answer line => exact sound_answer h line
  | cancel =>
      cases hchain : r.chain with
      | none => simpa [handle, cancel, hchain] using h
      | some c => simp [handle, cancel, hchain, Sound]

theorem sound_run {r : Reader} (h : r.Sound) (events : List Event) : (r.run events).Sound := by
  induction events generalizing r with
  | nil => exact h
  | cons event rest ih => exact ih (sound_handle h event)

/-- A line leaves the chain open, and the lines behind it decide; or the chain comes to its end with the answers. -/
theorem answer_completed? {r : Reader} (h : r.Sound) {c : Chain} (hchain : r.chain = some c) (line : String) :
    (∃ next, (r.answer line).reader.chain = some next ∧ next.id = c.id ∧ (r.answer line).settled = none ∧
      ∀ lines, c.completed? (line :: lines) = next.completed? lines) ∨
    (∃ answers, r.answer line = { reader := { r with chain := none }, settled := some (c.id, .ok answers) } ∧
      ∀ lines, c.completed? (line :: lines) = some answers) := by
  have hbody := (h c hchain).unanswered
  rcases answer_advance_or_body hchain line with ⟨answer, hstep, hanswered⟩ | ⟨hstep, -⟩
  · have hcompleted := Chain.completed?_of_answered (hanswered hbody)
    rw [hstep, advance]
    split
    · next next rest hrest =>
        refine .inl ⟨_, rfl, rfl, rfl, fun lines => ?_⟩
        rw [hcompleted, hrest, Chain.completed?, List.nil_append]
    · next hrest =>
        refine .inr ⟨_, rfl, fun lines => ?_⟩
        rw [hcompleted, hrest, answers?, Option.map_some, List.append_nil]
  · rw [hstep]
    exact .inl ⟨_, rfl, rfl, rfl, fun lines => (c.completed?_body line lines).symm⟩

/-! ## The end of an open chain -/

/-- The lines that are typed before a cancellation. -/
def fed : List Event → List String
  | [] => []
  | .start _ :: rest => fed rest
  | .answer line :: rest => line :: fed rest
  | .cancel :: _ => []

/-- The end to which a run brings a chain, if these are the answers that lines complete. -/
def conclusion? (completed? : List String → Option (List String)) (events : List Event) : Option Answers :=
  match completed? (fed events) with
  | some answers => some (.ok answers)
  | none => if .cancel ∈ events then some (.error .cancelled) else none

theorem ok_mem_conclusion?_iff {completed? : List String → Option (List String)} {events : List Event}
    {answers : List String} :
    .ok answers ∈ (conclusion? completed? events).toList ↔ completed? (fed events) = some answers := by
  rw [conclusion?]
  cases completed? (fed events) with
  | none => by_cases hcancel : Event.cancel ∈ events <;> simp [hcancel]
  | some given => simp [eq_comm]

theorem cancelled_mem_conclusion?_iff {completed? : List String → Option (List String)} {events : List Event} :
    .error .cancelled ∈ (conclusion? completed? events).toList ↔ .cancel ∈ events ∧ completed? (fed events) = none := by
  rw [conclusion?]
  cases completed? (fed events) with
  | none => by_cases hcancel : Event.cancel ∈ events <;> simp [hcancel]
  | some given => simp

theorem busy_notMem_conclusion? {completed? : List String → Option (List String)} {events : List Event} :
    .error .busy ∉ (conclusion? completed? events).toList := by
  rw [conclusion?]
  cases completed? (fed events) with
  | none => by_cases hcancel : Event.cancel ∈ events <;> simp [hcancel]
  | some given => simp

/-- **The lines still to come decide how an open chain ends.** -/
theorem outcomes_of_chain {r : Reader} (h : r.Sound) {c : Chain} (hchain : r.chain = some c) (events : List Event) :
    r.outcomes c.id events = (conclusion? c.completed? events).toList := by
  -- One event at a time: a line that is taken moves from the lines still to come into the chain, and what both complete
  -- together stays the same.
  induction events generalizing r c with
  | nil => simp [outcomes, conclusion?, fed, (h c hchain).completed?_nil]
  | cons event rest ih =>
      have hsound := sound_handle h event
      cases event with
      | start questions =>
          -- Another chain is refused, and this one goes on.
          have hstep := start_of_chain hchain questions
          have hsame : (r.handle (.start questions)).reader.chain = some c := by rw [handle, hstep, ← hchain]
          have hother : r.asked ≠ c.id := Nat.ne_of_gt (h c hchain).id_lt
          rw [outcomes, ih hsound hsame]
          simp [handle, hstep, ReaderStep.outcome?, hother, conclusion?, fed]
      | answer line =>
          rcases answer_completed? h hchain line with ⟨next, hnext, hid, hsettled, hlines⟩ | ⟨answers, hstep, hlines⟩
          · rw [outcomes, ← hid, ih hsound hnext]
            simp [handle, hsettled, ReaderStep.outcome?, conclusion?, fed, hlines]
          · have hend : (r.handle (.answer line)).outcome? c.id = some (.ok answers) := by
              simp [handle, hstep, ReaderStep.outcome?]
            rw [outcomes_of_outcome? (h.opened_le c.id) hend]
            simp [conclusion?, fed, hlines]
      | cancel =>
          have hend : (r.handle .cancel).outcome? c.id = some (.error .cancelled) := by
            simp [handle, cancel, hchain, ReaderStep.outcome?]
          rw [outcomes_of_outcome? (h.opened_le c.id) hend]
          simp [conclusion?, fed, (h c hchain).completed?_nil]

/-! ## From the beginning -/

/-- **The lines behind an accepted chain decide how it ends.** -/
theorem outcomes_of_start {r : Reader} (h : r.Sound) (hidle : r.isActive = false) (questions : List Question)
    (events : List Event) :
    r.outcomes r.asked (.start questions :: events) = (conclusion? (answers? questions) events).toList := by
  have hchain : r.chain = none := by simpa [isActive] using hidle
  cases questions with
  | nil =>
      have hend : (r.handle (.start [])).outcome? r.asked = some (.ok []) := by
        simp [handle, start, hchain, ReaderStep.outcome?]
      rw [outcomes_of_outcome? (h.opened_le r.asked) hend]
      simp [conclusion?, answers?]
  | cons current rest =>
      have hopen : (r.start (current :: rest)).reader.chain = some { id := r.asked, current, rest } := by
        simp [start, hchain]
      have hquiet : (r.start (current :: rest)).settled = none := by simp [start, hchain]
      have hcompleted : ({ id := r.asked, current, rest } : Chain).completed? = answers? (current :: rest) := by
        funext lines
        simp [Chain.completed?]
      have hends := outcomes_of_chain (sound_start h (current :: rest)) hopen events
      rw [hcompleted] at hends
      simpa [outcomes, handle, ReaderStep.outcome?, hquiet] using hends

/-- How a chain that was accepted ends, as the events behind it decide. -/
structure Concludes (questions : List Question) (behind : List Event) (ends : List Answers) : Prop where
  /-- There are answers as soon as the lines complete them, and they are those that the lines are cut into. -/
  answered : ∀ answers, .ok answers ∈ ends ↔ ∃ lines, lines <+: fed behind ∧ Segmented questions lines answers
  /-- There is one answer to each question. -/
  oneEach : ∀ answers, .ok answers ∈ ends → answers.length = questions.length
  /-- The chain is given up if it is cancelled before the lines complete the answers. -/
  cancelled : .error .cancelled ∈ ends ↔
    .cancel ∈ behind ∧ ∀ lines answers, lines <+: fed behind → ¬Segmented questions lines answers
  accepted : .error .busy ∉ ends

theorem concludes_conclusion? (questions : List Question) (behind : List Event) :
    Concludes questions behind (conclusion? (answers? questions) behind).toList := by
  refine ⟨?_, ?_, ?_, busy_notMem_conclusion?⟩
  · intro answers
    rw [ok_mem_conclusion?_iff, answers?_eq_some_iff]
  · intro answers hanswers
    obtain ⟨lines, -, hlines⟩ := answers?_eq_some_iff.mp (ok_mem_conclusion?_iff.mp hanswers)
    exact hlines.length_answers
  · have hnone : answers? questions (fed behind) = none ↔
        ∀ lines answers, lines <+: fed behind → ¬Segmented questions lines answers := by
      simp only [Option.eq_none_iff_forall_ne_some, ne_eq, answers?_eq_some_iff, not_exists, not_and]
      exact forall_comm
    rw [cancelled_mem_conclusion?_iff, hnone]

/-- What holds of a run of a reader from its beginning. Each of its beginnings is such a run too. -/
structure Delivers (events : List Event) : Prop where
  /-- The number of a chain is how many were asked for before it. -/
  numbered : (run {} events).asked = events.countP Event.asks
  /-- No chain ends twice. -/
  once : ∀ id, (outcomes {} id events).length ≤ 1
  /-- Of the chains that were asked for, the open one is the only one that has not ended. -/
  pending : ∀ id, id < (run {} events).asked →
    (outcomes {} id events = [] ↔ (run {} events).chain.map (·.id) = some id)
  /-- While a chain is open, another is refused at once, nothing is shown, and the open chain stays what it is. -/
  refused : ∀ before questions behind, events = before ++ .start questions :: behind →
    (run {} before).isActive = true →
    (run {} before).start questions =
        { reader := { chain := (run {} before).chain, asked := (run {} before).asked + 1 }
          settled := some ((run {} before).asked, .error .busy) } ∧
      outcomes {} (run {} before).asked events = [.error .busy]
  /-- Any other chain is accepted, and the events behind it decide how it ends. -/
  delivered : ∀ before questions behind, events = before ++ .start questions :: behind →
    (run {} before).isActive = false → Concludes questions behind (outcomes {} (run {} before).asked events)

/-- Before a chain is asked for, nothing ends that has its number. -/
theorem outcomes_asked (before behind : List Event) :
    outcomes {} (run {} before).asked (before ++ behind) = (run {} before).outcomes (run {} before).asked behind := by
  have haccount := account_new before (run {} before).asked
  have hlater : (run {} before).counted (run {} before).asked = 0 := by simp [counted]
  have hnone : outcomes {} (run {} before).asked before = [] := List.eq_nil_of_length_eq_zero (by omega)
  rw [outcomes_append, hnone, List.nil_append]

/-- **A reader hands over the answers that the lines give,** whatever it is asked to do. -/
theorem delivers_run (events : List Event) : Delivers events := by
  refine ⟨?_, ?_, ?_, ?_, ?_⟩
  · rw [asked_run, Nat.zero_add]
  · intro id
    have haccount := account_new events id
    have hlast := (run {} events).counted_le id
    omega
  · intro id hid
    have haccount := account_new events id
    rw [counted, if_pos hid, opened] at haccount
    rw [← List.length_eq_zero_iff]
    split at haccount
    · next hopen => simp only [hopen, iff_true]; omega
    · next hopen => simp only [hopen, iff_false]; omega
  · rintro before questions behind rfl hactive
    obtain ⟨c, hchain⟩ := Option.isSome_iff_exists.mp hactive
    have hstep := start_of_chain hchain questions
    refine ⟨hstep, ?_⟩
    have hend : ((run {} before).handle (.start questions)).outcome? (run {} before).asked = some (.error .busy) := by
      simp [handle, hstep, ReaderStep.outcome?]
    rw [outcomes_asked, outcomes_of_outcome? ((sound_run sound_new before).opened_le _) hend]
  · rintro before questions behind rfl hidle
    rw [outcomes_asked, outcomes_of_start (sound_run sound_new before) hidle]
    exact concludes_conclusion? questions behind

example :
    outcomes {} 1 [.cancel, .start [], .start [.line "To: ", .body "" "> " "."], .answer ".", .start [.line "No: "],
      .answer "a", .answer "b.", .answer " . ", .cancel] = [.ok [".", "a\nb."]] := by
  decide

end Reader

end RemoteShell
