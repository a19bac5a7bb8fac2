import Mathlib.Data.List.Induction
import RemoteShell.Commands.Table
import RemoteShell.Proofs.Completion.Candidates

/-!
# Replies that come too late

A completion that asks the service does not wait for the reply. The user goes on typing, begins another completion or
gives the request up, and the reply comes late, twice, behind that to a later request, or never. Which replies still
lead to candidates, and for which line?

The history of a completer is a list of moves: completions begun, requests given up, and replies. A request *is awaited*
after some moves if the last completion begun has made it, and since then it has neither been given up nor been replied
to. That speaks of the moves alone. The completer holds a request exactly if it is awaited: this is what every move
keeps, and all the rest follows from it.

Main statements:

* `Completer.move_of_request`, `Completer.move_of_no_request`: all that a move can do.
* `Completer.pairwise_requests`: no two requests have one number.
* `Completer.pending_run_iff`: the completer holds the request that is awaited.
* `Completer.no_stale_candidates`: only the reply that is awaited leads to candidates, and to those of its line.
-/

namespace RemoteShell

/-- What is done to a completer. -/
inductive CompletionMove where
  /-- A completion is begun. -/
  | start (registry : Registry) (line : String) (pos : Nat) (cwd : String)
  /-- The request is given up. -/
  | reset
  /-- A reply to the request with a number comes. -/
  | reply (id : Nat) (outcome : Outcome)

namespace CompletionMove

/-- Whether a move begins a completion. -/
def isStart : CompletionMove → Bool
  | .start _ _ _ _ => true
  | .reset | .reply _ _ => false

/-- Whether a move puts an end to waiting for the request with a number. -/
def settles (id : Nat) : CompletionMove → Bool
  | .start _ _ _ _ | .reset => true
  | .reply other _ => other == id

end CompletionMove

/-- A request is for the value that is typed in a line at a byte offset. -/
structure PendingMatch.IsFor (p : PendingMatch) (request : MatchRequest) (line : String) (pos : Nat) : Prop where
  id : p.id = request.id
  start : p.start = (CursorView.of line pos).start
  typed : (CursorView.of line pos).typed = some p.typed

/-- A request leaves nothing open about what is held for it. -/
theorem PendingMatch.IsFor.unique {p q : PendingMatch} {request : MatchRequest} {line : String} {pos : Nat}
    (hp : p.IsFor request line pos) (hq : q.IsFor request line pos) : p = q := by
  have hid : p.id = q.id := hp.id.trans hq.id.symm
  have htyped : p.typed = q.typed := Option.some.inj (hp.typed.symm.trans hq.typed)
  have hstart : p.start = q.start := hp.start.trans hq.start.symm
  obtain ⟨id, typed, start⟩ := p
  obtain ⟨id', typed', start'⟩ := q
  dsimp only at hid htyped hstart
  rw [hid, htyped, hstart]

/-- What stands in front of a value that is given by name. -/
def Typed.namePrefix (typed : Typed) : String :=
  match typed.name with
  | some name => name ++ "="
  | none => ""

/-- An answer that is about the value typed in a line at a byte offset. It offers the names in the reply, in place of
that value, under its name, behind its folder part and in its quotes; and nothing only if there are no names. -/
def Completion.IsAbout (line : String) (pos : Nat) (outcome : Outcome) : Completion → Prop
  | .nothing => ∀ reply, outcome = .ok reply → PendingMatch.matchesOf reply = []
  | .candidates start items =>
    start = (CursorView.of line pos).start ∧ ∃ typed reply, (CursorView.of line pos).typed = some typed ∧
      outcome = .ok reply ∧ items = (PendingMatch.matchesOf reply).map fun name =>
        typed.namePrefix ++ PendingMatch.candidateText ((Path.splitTyped typed.value).1 ++ name) typed.mark
  | .insert _ => False

/-- The answer to a request is about the line that the request is for. -/
theorem PendingMatch.isAbout_answer {p : PendingMatch} {request : MatchRequest} {line : String} {pos : Nat}
    (h : p.IsFor request line pos) (outcome : Outcome) : (p.answer outcome).IsAbout line pos outcome := by
  cases outcome with
  | error failure =>
      intro reply hreply
      simp at hreply
  | ok value =>
      rw [answer, Completion.ofItems]
      split
      · next hnone =>
          intro reply hreply
          obtain rfl := Except.ok.inj hreply
          simpa using hnone
      · exact ⟨h.start, p.typed, value, h.typed, rfl, rfl⟩

namespace Completer

/-! ## Moves -/

/-- The completer after a move. -/
def move (c : Completer) : CompletionMove → Completer
  | .start registry line pos cwd => (c.start registry line pos cwd).1
  | .reset => c.reset
  | .reply id outcome => (c.resolve id outcome).1

/-- The request that a move makes. -/
def request? (c : Completer) : CompletionMove → Option MatchRequest
  | .start registry line pos cwd => match (c.start registry line pos cwd).2 with
    | .ask request => some request
    | .done _ => none
  | .reset | .reply _ _ => none

/-- The requests that some moves make, in order. -/
def requests (c : Completer) : List CompletionMove → List MatchRequest
  | [] => []
  | m :: rest => (c.request? m).toList ++ requests (c.move m) rest

/-- The completer after some moves, from the beginning. -/
def run (moves : List CompletionMove) : Completer :=
  moves.foldl move {}

theorem run_snoc (moves : List CompletionMove) (m : CompletionMove) : run (moves ++ [m]) = (run moves).move m := by
  rw [run, List.foldl_append]
  rfl

/-- **A move that makes a request** begins a completion, takes the next number, and leaves the request held. -/
theorem move_of_request {c : Completer} {m : CompletionMove} {request : MatchRequest}
    (h : c.request? m = some request) :
    ∃ registry line pos cwd p, m = .start registry line pos cwd ∧ p.IsFor request line pos ∧
      request.id = c.nextId ∧ (c.move m).nextId = c.nextId + 1 ∧ (c.move m).pending = some p := by
  cases m with
  | reset => simp [request?] at h
  | reply id outcome => simp [request?] at h
  | start registry line pos cwd =>
      unfold request? start at h
      unfold move start
      dsimp only at h ⊢
      cases hoffer : Offer.of registry (CursorView.of line pos) cwd with
      | done answer => simp [hoffer] at h
      | ask typed path container =>
          obtain ⟨htyped, -⟩ := Offer.of_ask hoffer
          simp only [hoffer, Option.some.injEq] at h ⊢
          subst h
          exact ⟨_, _, _, _, _, rfl, ⟨rfl, rfl, htyped⟩, rfl, trivial, rfl⟩

/-- **A move that makes no request** takes no number, and ends the waiting for the request it settles. -/
theorem move_of_no_request {c : Completer} {m : CompletionMove} (h : c.request? m = none) :
    (c.move m).nextId = c.nextId ∧ (c.move m).pending = c.pending.filter fun p => !m.settles p.id := by
  cases m with
  | reset => simp [move, reset, CompletionMove.settles]
  | reply id outcome =>
      unfold move resolve
      cases hpending : c.pending with
      | none => simp [hpending]
      | some p =>
          by_cases hid : p.id = id
          · simp [hid, reset, CompletionMove.settles, Option.filter]
          · have hother : ¬ id = p.id := fun heq => hid heq.symm
            simp [hid, hother, hpending, CompletionMove.settles, Option.filter]
  | start registry line pos cwd =>
      unfold request? start at h
      unfold move start
      dsimp only at h ⊢
      cases hoffer : Offer.of registry (CursorView.of line pos) cwd with
      | ask typed path container => simp [hoffer] at h
      | done answer => simp [reset, CompletionMove.settles]

/-! ## Numbers -/

/-- Requests have numbers from the next one on, and no more numbers are taken than completions are begun. -/
theorem id_mem_requests {c : Completer} {moves : List CompletionMove} {request : MatchRequest}
    (h : request ∈ c.requests moves) :
    c.nextId ≤ request.id ∧ request.id < c.nextId + moves.countP CompletionMove.isStart := by
  induction moves generalizing c with
  | nil => simp [requests] at h
  | cons m rest ih =>
      rw [requests, List.mem_append] at h
      cases hrequest : c.request? m with
      | none =>
          obtain ⟨hnext, -⟩ := move_of_no_request hrequest
          have hrest : request ∈ (c.move m).requests rest := by simpa [hrequest] using h
          have hbounds := ih hrest
          rw [hnext] at hbounds
          rw [List.countP_cons]
          omega
      | some made =>
          obtain ⟨registry, line, pos, cwd, -, rfl, -, hid, hnext, -⟩ := move_of_request hrequest
          have hcount : (CompletionMove.start registry line pos cwd :: rest).countP CompletionMove.isStart =
              rest.countP CompletionMove.isStart + 1 :=
            List.countP_cons_of_pos rfl
          rcases h with hfirst | hrest
          · obtain rfl : request = made := by simpa [hrequest] using hfirst
            omega
          · have hbounds := ih hrest
            omega

/-- **No two requests have one number:** a later request has a greater one. -/
theorem pairwise_requests (c : Completer) (moves : List CompletionMove) :
    ((c.requests moves).map (·.id)).Pairwise (· < ·) := by
  induction moves generalizing c with
  | nil => exact List.Pairwise.nil
  | cons m rest ih =>
      rw [requests]
      cases hrequest : c.request? m with
      | none => simpa using ih (c.move m)
      | some made =>
          obtain ⟨-, -, -, -, -, -, -, hid, hnext, -⟩ := move_of_request hrequest
          rw [Option.toList_some, List.singleton_append, List.map_cons, List.pairwise_cons]
          refine ⟨?_, ih (c.move m)⟩
          intro id hmem
          obtain ⟨later, hlater, rfl⟩ := List.mem_map.mp hmem
          have hbounds := id_mem_requests hlater
          omega

/-! ## The request that is awaited -/

/-- **A request is awaited,** which was made for a line with the cursor at a byte offset: the last completion begun has
made it, and since then it has neither been given up nor been replied to. -/
def IsAwaited (moves : List CompletionMove) (request : MatchRequest) (line : String) (pos : Nat) : Prop :=
  ∃ before registry cwd since, moves = before ++ .start registry line pos cwd :: since ∧
    (run before).request? (.start registry line pos cwd) = some request ∧
    ∀ m ∈ since, m.settles request.id = false

/-- After one more move, a request is awaited if it was and the move does not settle it, or if the move has made it. -/
theorem isAwaited_snoc {moves : List CompletionMove} {m : CompletionMove} {request : MatchRequest} {line : String}
    {pos : Nat} :
    IsAwaited (moves ++ [m]) request line pos ↔
      (IsAwaited moves request line pos ∧ m.settles request.id = false) ∨
        ∃ registry cwd, m = .start registry line pos cwd ∧ (run moves).request? m = some request := by
  constructor
  · rintro ⟨before, registry, cwd, since, heq, hrequest, hsince⟩
    rcases List.eq_nil_or_concat since with rfl | ⟨earlier, last, rfl⟩
    · obtain ⟨rfl, hlast⟩ := List.append_inj' heq rfl
      obtain rfl : m = .start registry line pos cwd := by simpa using hlast
      exact Or.inr ⟨registry, cwd, rfl, hrequest⟩
    · rw [List.concat_eq_append] at heq hsince
      rw [← List.cons_append, ← List.append_assoc] at heq
      obtain ⟨rfl, hlast⟩ := List.append_inj' heq rfl
      obtain rfl : m = last := by simpa using hlast
      refine Or.inl ⟨⟨before, registry, cwd, earlier, rfl, hrequest, ?_⟩, hsince m (by simp)⟩
      intro move hmove
      exact hsince move (by simp [hmove])
  · rintro (⟨⟨before, registry, cwd, since, rfl, hrequest, hsince⟩, hsettles⟩ | ⟨registry, cwd, rfl, hrequest⟩)
    · refine ⟨before, registry, cwd, since ++ [m], by simp, hrequest, ?_⟩
      intro move hmove
      rcases List.mem_append.mp hmove with hmove | hmove
      · exact hsince move hmove
      · rwa [List.mem_singleton.mp hmove]
    · exact ⟨moves, registry, cwd, [], rfl, hrequest, by simp⟩

/-- **The completer holds the request that is awaited,** and no other. -/
theorem pending_run_iff {moves : List CompletionMove} {p : PendingMatch} :
    (run moves).pending = some p ↔
      ∃ request line pos, IsAwaited moves request line pos ∧ p.IsFor request line pos := by
  induction moves using List.reverseRecOn generalizing p with
  | nil => simp [run, IsAwaited]
  | append_singleton moves m ih =>
      simp only [run_snoc, isAwaited_snoc]
      cases hrequest : (run moves).request? m with
      | none =>
          rw [(move_of_no_request hrequest).2, Option.filter_eq_some_iff, ih]
          constructor
          · rintro ⟨⟨request, line, pos, hawaited, hfor⟩, hsettles⟩
            have hkept : m.settles request.id = false := by simpa [hfor.id] using hsettles
            exact ⟨request, line, pos, Or.inl ⟨hawaited, hkept⟩, hfor⟩
          · rintro ⟨request, line, pos, ⟨hawaited, hkept⟩ | ⟨-, -, -, hmade⟩, hfor⟩
            · exact ⟨⟨request, line, pos, hawaited, hfor⟩, by simp [hfor.id, hkept]⟩
            · simp at hmade
      | some made =>
          obtain ⟨registry, line, pos, cwd, held, rfl, hheld, -, -, hpending⟩ := move_of_request hrequest
          rw [hpending, Option.some.injEq]
          constructor
          · rintro rfl
            exact ⟨made, line, pos, Or.inr ⟨registry, cwd, rfl, rfl⟩, hheld⟩
          · rintro ⟨request, line', pos', ⟨-, hkept⟩ | ⟨registry', cwd', hsame, hmade⟩, hfor⟩
            -- A completion that is begun settles whatever was awaited before.
            · simp [CompletionMove.settles] at hkept
            · obtain ⟨-, rfl, rfl, -⟩ := CompletionMove.start.inj hsame
              obtain rfl := Option.some.inj hmade
              exact hheld.unique hfor

/-- A request that is awaited is held. -/
theorem IsAwaited.exists_pending {moves : List CompletionMove} {request : MatchRequest} {line : String} {pos : Nat}
    (h : IsAwaited moves request line pos) : ∃ p, (run moves).pending = some p ∧ p.IsFor request line pos := by
  obtain ⟨before, registry, cwd, since, hmoves, hrequest, hsince⟩ := h
  obtain ⟨_, _, _, _, p, hstart, hfor, -⟩ := move_of_request hrequest
  obtain ⟨rfl, rfl, rfl, rfl⟩ := CompletionMove.start.inj hstart
  have hawaited : IsAwaited moves request line pos := ⟨before, registry, cwd, since, hmoves, hrequest, hsince⟩
  exact ⟨p, pending_run_iff.mpr ⟨request, line, pos, hawaited, hfor⟩, hfor⟩

/-- **Only the reply that is awaited leads to candidates.** Let completions be begun, requests be given up and replies
come in any order. Then no two requests have one number, and the numbers do not exceed the count of completions begun, so
that they fit sixty-four bits as long as that does. And when a reply comes, either the request with its number is
awaited, and then it no longer is, and the answer is about the line that the request was made for; or no such request is
awaited, and then the reply changes nothing and there is nothing to offer. -/
theorem no_stale_candidates (moves : List CompletionMove) :
    ((({} : Completer).requests moves).map (·.id)).Pairwise (· < ·) ∧
      (∀ request ∈ ({} : Completer).requests moves, request.id ≤ moves.countP CompletionMove.isStart) ∧
      ∀ id outcome,
        (∃ request line pos, IsAwaited moves request line pos ∧ request.id = id ∧
          ((run moves).resolve id outcome).1 = (run moves).reset ∧
          ((run moves).resolve id outcome).2.IsAbout line pos outcome) ∨
        ((∀ request line pos, IsAwaited moves request line pos → request.id ≠ id) ∧
          (run moves).resolve id outcome = (run moves, .nothing)) := by
  refine ⟨pairwise_requests {} moves, ?_, ?_⟩
  · intro request hrequest
    have hbounds := id_mem_requests hrequest
    dsimp only at hbounds
    omega
  · intro id outcome
    by_cases hheld : ∃ p, (run moves).pending = some p ∧ p.id = id
    · obtain ⟨p, hpending, hid⟩ := hheld
      obtain ⟨request, line, pos, hawaited, hfor⟩ := pending_run_iff.mp hpending
      refine Or.inl ⟨request, line, pos, hawaited, hfor.id.symm.trans hid, ?_⟩
      simp only [resolve, hpending, hid, if_true]
      exact ⟨trivial, p.isAbout_answer hfor outcome⟩
    · have hstale : ∀ p, (run moves).pending = some p → p.id ≠ id := by
        intro p hpending hid
        exact hheld ⟨p, hpending, hid⟩
      refine Or.inr ⟨?_, resolve_stale hstale outcome⟩
      intro request line pos hawaited hid
      obtain ⟨p, hpending, hfor⟩ := hawaited.exists_pending
      exact hstale p hpending (hfor.id.trans hid)

/-- A completion that is begun while another one waits: the late reply to the first changes nothing, and the reply to
the second leads to candidates. -/
theorem no_stale_candidates_late :
    let moves : List CompletionMove :=
      [.start Commands.registry "lookup a" 8 "/", .start Commands.registry "lookup ab" 9 "/"]
    let outcome : Outcome := .ok (Json.ofMembers [("status", .int 1), ("matches", .arr [.str "abc"])])
    (run moves).resolve 1 outcome = (run moves, .nothing) ∧
      ((run moves).resolve 2 outcome).2 = .candidates 7 ["abc"] ∧
      ∃ request line pos, IsAwaited moves request line pos ∧ request.id = 2 ∧
        ((run moves).resolve 2 outcome).2.IsAbout line pos outcome := by
  intro moves outcome
  obtain ⟨-, -, hreply⟩ := no_stale_candidates moves
  have hheld : (run moves).pending ≠ none := by decide +kernel
  have hanswer : ((run moves).resolve 2 outcome).2 = .candidates 7 ["abc"] := by decide +kernel
  refine ⟨?_, hanswer, ?_⟩
  · rcases hreply 1 outcome with ⟨-, -, -, -, -, hreset, -⟩ | ⟨-, hstale⟩
    · have hkept : ((run moves).resolve 1 outcome).1.pending ≠ none := by decide +kernel
      rw [hreset] at hkept
      exact absurd rfl hkept
    · exact hstale
  · rcases hreply 2 outcome with ⟨request, line, pos, hawaited, hid, -, habout⟩ | ⟨-, hstale⟩
    · exact ⟨request, line, pos, hawaited, hid, habout⟩
    · rw [hstale] at hanswer
      simp at hanswer

end Completer

end RemoteShell
