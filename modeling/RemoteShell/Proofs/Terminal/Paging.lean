import Mathlib.Data.List.Basic
import RemoteShell.Terminal.Pager

/-!
# What becomes of paged lines

A line that is handed to a pager is shown, or held and shown later, or dropped when the user has seen enough. Over any
run the lines that were shown or dropped and those still held, in this order, are the lines that were handed over: none
is lost, none comes twice, and none overtakes another. A screen has as many lines as the terminal has rows, or what is
left.

A pager need not forget a line once it is shown. One that keeps all lines of an output and counts those it has shown
does the same, and the lines it takes for a screen are always there.

Main statements:

* `Turn.conserves`, `turns_conserve`: one operation, and a run, neither lose nor reorder lines.
* `Scroll.Follows.operate?`: a pager that keeps its lines and counts goes on like one that forgets them.
* `accounts_run`: what holds of every run.
-/

namespace RemoteShell

namespace Pager

/-- What a pager may be asked to do. -/
inductive Operation where
  | page (lines : List String)
  | key (line : String)
  | setEnabled (enabled : Bool)
  | cancel
deriving DecidableEq, Repr

namespace Operation

/-- The lines that are handed to the pager. -/
def lines : Operation → List String
  | .page lines => lines
  | .key _ => []
  | .setEnabled _ => []
  | .cancel => []

/-- Whether the pager is asked to drop what it holds. -/
def cancels : Operation → Bool
  | .page _ => false
  | .key line => Text.trimmed line == cancelKey
  | .setEnabled _ => false
  | .cancel => true

end Operation

/-- The pager after an operation, and the lines it shows. -/
def operate (p : Pager) : Operation → Pager × List String
  | .page lines => p.page lines
  | .key line => p.key line
  | .setEnabled enabled => (p.setEnabled enabled, [])
  | .cancel => (p.cancel, [])

theorem isActive_iff {p : Pager} : p.isActive = true ↔ p.held ≠ [] := by
  simp [isActive]

/-- Whoever asks for it, what is held is dropped and nothing is shown. -/
theorem operate_of_cancels {p : Pager} {operation : Operation} (h : operation.cancels = true) :
    p.operate operation = (p.cancel, []) := by
  cases operation with
  | page lines => cases h
  | key line =>
      have hkey : (Text.trimmed line == cancelKey) = true := h
      by_cases hactive : p.isActive = true
      · simp [operate, key, hactive, hkey]
      · -- Nothing is held that could be dropped.
        have hheld : p.held = [] := by simpa [isActive_iff] using hactive
        have hcancel : p.cancel = p := by rw [cancel, ← hheld]
        simp [operate, key, hactive, hcancel]
  | setEnabled enabled => cases h
  | cancel => rfl

/-- Any other key asks for the next screen, which is empty where nothing is held. -/
theorem operate_key {p : Pager} {line : String} (h : (Operation.key line).cancels = false) :
    p.operate (.key line) = p.nextScreen := by
  have hkey : (Text.trimmed line == cancelKey) = false := h
  by_cases hactive : p.isActive = true
  · simp [operate, key, hactive, hkey]
  · have hheld : p.held = [] := by simpa [isActive_iff] using hactive
    have hscreen : p.nextScreen = (p, []) := by
      obtain ⟨rows, enabled, held, hrows⟩ := p
      obtain rfl : held = [] := hheld
      simp [nextScreen]
    simp [operate, key, hactive, hscreen]

/-- No operation changes the rows of the screen. -/
theorem rows_operate (p : Pager) (operation : Operation) : (p.operate operation).1.rows = p.rows := by
  cases operation with
  | page lines =>
      simp only [operate, page]
      split
      · rfl
      · split <;> rfl
  | key line =>
      cases hcancels : (Operation.key line).cancels with
      | true => rw [operate_of_cancels hcancels]; rfl
      | false => rw [operate_key hcancels]; rfl
  | setEnabled enabled => rfl
  | cancel => rfl

/-- While paging is on, no operation shows more than a screen. -/
theorem length_operate_le {p : Pager} (h : p.enabled = true) (operation : Operation) :
    (p.operate operation).2.length ≤ p.rows := by
  cases operation with
  | page lines =>
      simp only [operate, page]
      split
      · exact Nat.zero_le _
      · split
        · next hfits => simpa [h] using hfits
        · exact nextScreen_length_le _
  | key line =>
      cases hcancels : (Operation.key line).cancels with
      | true => rw [operate_of_cancels hcancels]; exact Nat.zero_le _
      | false => rw [operate_key hcancels]; exact nextScreen_length_le p
  | setEnabled enabled => exact Nat.zero_le _
  | cancel => exact Nat.zero_le _

/-! ## Runs -/

/-- One operation of a run. -/
structure Turn where
  before : Pager
  operation : Operation

namespace Turn

/-- The pager after the operation. -/
def after (t : Turn) : Pager :=
  (t.before.operate t.operation).1

/-- The lines that were shown. -/
def shown (t : Turn) : List String :=
  (t.before.operate t.operation).2

/-- The lines that were held and are not going to be shown any more. -/
def dropped (t : Turn) : List String :=
  if t.operation.cancels then t.before.held else []

/-- Only what is held can be dropped. -/
theorem dropped_eq_nil {t : Turn} (h : t.operation.cancels = true → t.before.isActive = false) : t.dropped = [] := by
  rw [dropped]
  split
  · next hcancels => simpa [isActive] using h hcancels
  · rfl

/-- **One operation neither loses nor reorders lines.** -/
theorem conserves (t : Turn) : t.shown ++ t.dropped ++ t.after.held = t.before.held ++ t.operation.lines := by
  obtain ⟨p, operation⟩ := t
  cases hcancels : operation.cancels with
  | true =>
      have hlines : operation.lines = [] := by
        cases operation with
        | page lines => cases hcancels
        | key line => rfl
        | setEnabled enabled => rfl
        | cancel => rfl
      simp [shown, dropped, after, operate_of_cancels hcancels, hcancels, Pager.cancel, hlines]
  | false =>
      have hkept : (p.operate operation).2 ++ (p.operate operation).1.held = p.held ++ operation.lines := by
        cases operation with
        | page lines => exact p.page_conserves lines
        | key line =>
            rw [operate_key hcancels, nextScreen_conserves]
            exact (List.append_nil _).symm
        | setEnabled enabled => exact (List.append_nil _).symm
        | cancel => cases hcancels
      simpa [shown, dropped, after, hcancels] using hkept

end Turn

/-- The turns of a run. -/
def turns (p : Pager) : List Operation → List Turn
  | [] => []
  | operation :: rest => { before := p, operation } :: turns (p.operate operation).1 rest

/-- The pager after a run. -/
def run (p : Pager) (operations : List Operation) : Pager :=
  operations.foldl (fun p operation => (p.operate operation).1) p

theorem turns_cons (p : Pager) (operation : Operation) (rest : List Operation) :
    p.turns (operation :: rest) = { before := p, operation } :: (p.operate operation).1.turns rest := rfl

theorem run_cons (p : Pager) (operation : Operation) (rest : List Operation) :
    p.run (operation :: rest) = (p.operate operation).1.run rest := rfl

/-- **A run neither loses nor reorders lines.** -/
theorem turns_conserve (p : Pager) (operations : List Operation) :
    ((p.turns operations).flatMap fun t => t.shown ++ t.dropped) ++ (p.run operations).held =
      p.held ++ operations.flatMap (·.lines) := by
  induction operations generalizing p with
  | nil => simp [turns, run]
  | cons operation rest ih =>
      have hturn := Turn.conserves { before := p, operation }
      rw [turns_cons, run_cons, List.flatMap_cons, List.flatMap_cons, List.append_assoc, ih, ← List.append_assoc,
        ← List.append_assoc, ← hturn]
      rfl

/-- Every turn of a run has a screen of the same size. -/
theorem rows_of_mem_turns {p : Pager} {operations : List Operation} {t : Turn} (h : t ∈ p.turns operations) :
    t.before.rows = p.rows := by
  induction operations generalizing p with
  | nil => simp [turns] at h
  | cons operation rest ih =>
      rw [turns_cons] at h
      rcases List.mem_cons.mp h with rfl | h
      · rfl
      · exact (ih h).trans (rows_operate p operation)

/-! ## Lines that are kept and counted -/

/-- The lines from one position up to another, if the lines reach that far. -/
def slice? (lines : List String) (first last : Nat) : Option (List String) :=
  if first ≤ last ∧ last ≤ lines.length then some ((lines.take last).drop first) else none

/-- A pager that keeps the lines of an output until the last of them is shown, and counts those it has shown. -/
structure Scroll where
  rows : Nat
  enabled : Bool
  kept : Option (List String × Nat) := none

namespace Scroll

/-- Shows the next screen. -/
def nextScreen? (s : Scroll) : Option (Scroll × List String) :=
  match s.kept with
  | none => some (s, [])
  | some (lines, cursor) => do
    let last := min (cursor + s.rows) lines.length
    let screen ← slice? lines cursor last
    return ({ s with kept := if lines.length ≤ last then none else some (lines, last) }, screen)

/-- One operation. There is no result where a line is asked for that is not there. -/
def operate? (s : Scroll) : Operation → Option (Scroll × List String)
  | .page lines => match s.kept with
    | some (before, cursor) => some ({ s with kept := some (before ++ lines, cursor) }, [])
    | none =>
      if !s.enabled || lines.length ≤ s.rows then some (s, lines)
      else nextScreen? { s with kept := some (lines, 0) }
  | .key line =>
    if s.kept.isNone then some (s, [])
    else if Text.trimmed line == cancelKey then some ({ s with kept := none }, [])
    else s.nextScreen?
  | .setEnabled enabled => some ({ s with enabled }, [])
  | .cancel => some ({ s with kept := none }, [])

/-- The results of a run, one for each operation. -/
def run? (s : Scroll) : List Operation → Option (Scroll × List (List String))
  | [] => some (s, [])
  | operation :: rest => do
    let (next, shown) ← s.operate? operation
    let (last, others) ← next.run? rest
    return (last, shown :: others)

/-- What is kept and not yet shown is what a pager holds that forgets what it has shown. Only what is longer than a
screen is kept, so a cursor that moves on by a screen stays below twice the number of the lines. -/
inductive Keeps (rows : Nat) : Option (List String × Nat) → List String → Prop
  | nothing : Keeps rows none []
  | lines {lines : List String} {cursor : Nat} (hlong : rows < lines.length) (hcursor : cursor < lines.length) :
      Keeps rows (some (lines, cursor)) (lines.drop cursor)

/-- A pager that keeps and counts its lines, beside one that forgets them. -/
structure Follows (s : Scroll) (p : Pager) : Prop where
  rows : s.rows = p.rows
  enabled : s.enabled = p.enabled
  keeps : Keeps p.rows s.kept p.held

/-- A screen is always there: it is what is to be shown of the lines behind the cursor. -/
theorem slice?_screen {lines : List String} {cursor : Nat} (h : cursor ≤ lines.length) (rows : Nat) :
    slice? lines cursor (min (cursor + rows) lines.length) = some ((lines.drop cursor).take rows) := by
  have hinside : cursor ≤ min (cursor + rows) lines.length ∧ min (cursor + rows) lines.length ≤ lines.length := by omega
  rw [slice?, if_pos hinside, List.drop_take, Option.some.injEq, List.take_eq_take_iff, List.length_drop]
  omega

/-- Behind a screen less is held, and nothing is kept any more once nothing is. -/
theorem keeps_screen {lines : List String} {rows : Nat} (hlong : rows < lines.length) (cursor : Nat) :
    Keeps rows (if lines.length ≤ min (cursor + rows) lines.length then none
      else some (lines, min (cursor + rows) lines.length)) ((lines.drop cursor).drop rows) := by
  rw [List.drop_drop]
  by_cases hend : lines.length ≤ cursor + rows
  · rw [if_pos (by omega), List.drop_eq_nil_of_le hend]
    exact Keeps.nothing
  · have hlast : min (cursor + rows) lines.length = cursor + rows := by omega
    rw [hlast, if_neg hend]
    exact Keeps.lines hlong (by omega)

theorem Follows.nextScreen? {s : Scroll} {p : Pager} (h : s.Follows p) :
    ∃ next, s.nextScreen? = some (next, p.nextScreen.2) ∧ next.Follows p.nextScreen.1 := by
  obtain ⟨rows, enabled, kept⟩ := s
  obtain ⟨_, _, held, hrows⟩ := p
  obtain ⟨rfl, rfl, hkeeps⟩ := h
  cases hkeeps with
  | nothing =>
      refine ⟨{ rows, enabled }, by simp [Scroll.nextScreen?, Pager.nextScreen], rfl, rfl, ?_⟩
      simpa [Pager.nextScreen] using Keeps.nothing
  | @lines lines cursor hlong hcursor =>
      refine ⟨{ rows, enabled, kept := _ }, ?_, rfl, rfl, keeps_screen hlong cursor⟩
      simp only [Scroll.nextScreen?, slice?_screen (Nat.le_of_lt hcursor)]
      rfl

/-- Output is taken in by both. -/
theorem Follows.page? {s : Scroll} {p : Pager} (h : s.Follows p) (lines : List String) :
    ∃ next, s.operate? (.page lines) = some (next, (p.page lines).2) ∧ next.Follows (p.page lines).1 := by
  obtain ⟨rows, enabled, kept⟩ := s
  obtain ⟨_, _, held, hrows⟩ := p
  obtain ⟨rfl, rfl, hkeeps⟩ := h
  cases hkeeps with
  | nothing =>
      simp only [Pager.page, isActive, List.isEmpty_nil, Bool.not_true, Bool.false_eq_true, if_false, Scroll.operate?]
      by_cases hfits : (!enabled || decide (lines.length ≤ rows)) = true
      · rw [if_pos hfits, if_pos hfits]
        exact ⟨_, rfl, rfl, rfl, Keeps.nothing⟩
      · rw [if_neg hfits, if_neg hfits]
        -- The output is longer than a screen, so there is a line to begin with.
        have hlong : enabled = true ∧ rows < lines.length := by simpa using hfits
        have hengaged : Follows { rows, enabled, kept := some (lines, 0) }
            { rows, enabled, held := lines, rows_pos := hrows } := ⟨rfl, rfl, Keeps.lines hlong.2 (by omega)⟩
        exact hengaged.nextScreen?
  | @lines before cursor hlong hcursor =>
      have hactive : (!(before.drop cursor).isEmpty) = true := by simpa using hcursor
      simp only [Pager.page, isActive, hactive, if_true, Scroll.operate?]
      refine ⟨_, rfl, rfl, rfl, ?_⟩
      rw [← List.drop_append_of_le_length (Nat.le_of_lt hcursor)]
      have hlonger : before.length ≤ (before ++ lines).length := by simp
      exact Keeps.lines (Nat.lt_of_lt_of_le hlong hlonger) (Nat.lt_of_lt_of_le hcursor hlonger)

/-- A key asks both for the same. -/
theorem Follows.key? {s : Scroll} {p : Pager} (h : s.Follows p) (line : String) :
    ∃ next, s.operate? (.key line) = some (next, (p.operate (.key line)).2) ∧
      next.Follows (p.operate (.key line)).1 := by
  cases hcancels : (Operation.key line).cancels with
  | true =>
      have hkey : (Text.trimmed line == cancelKey) = true := hcancels
      have hdrop : s.operate? (.key line) = some ({ s with kept := none }, []) := by
        obtain ⟨rows, enabled, kept⟩ := s
        cases kept <;> simp [Scroll.operate?, hkey]
      rw [operate_of_cancels hcancels, hdrop]
      exact ⟨_, rfl, h.rows, h.enabled, Keeps.nothing⟩
  | false =>
      have hkey : (Text.trimmed line == cancelKey) = false := hcancels
      have hnext : s.operate? (.key line) = s.nextScreen? := by
        obtain ⟨rows, enabled, kept⟩ := s
        cases kept <;> simp [Scroll.operate?, Scroll.nextScreen?, hkey]
      rw [operate_key hcancels, hnext]
      exact h.nextScreen?

/-- **A pager that keeps its lines and counts goes on like one that forgets them,** and never asks for a line that is
not there. -/
theorem Follows.operate? {s : Scroll} {p : Pager} (h : s.Follows p) (operation : Operation) :
    ∃ next, s.operate? operation = some (next, (p.operate operation).2) ∧ next.Follows (p.operate operation).1 := by
  cases operation with
  | page lines => exact h.page? lines
  | key line => exact h.key? line
  | setEnabled enabled => exact ⟨_, rfl, { rows := h.rows, enabled := rfl, keeps := h.keeps }⟩
  | cancel => exact ⟨_, rfl, { rows := h.rows, enabled := h.enabled, keeps := Keeps.nothing }⟩

theorem Follows.run? {s : Scroll} {p : Pager} (h : s.Follows p) (operations : List Operation) :
    ∃ last, s.run? operations = some (last, (p.turns operations).map (·.shown)) ∧ last.Follows (p.run operations) := by
  induction operations generalizing s p with
  | nil => exact ⟨s, rfl, h⟩
  | cons operation rest ih =>
      obtain ⟨next, hnext, hfollows⟩ := h.operate? operation
      obtain ⟨last, hlast, hend⟩ := ih hfollows
      refine ⟨last, ?_, hend⟩
      rw [Scroll.run?, hnext]
      simp [hlast, turns_cons, Turn.shown]

end Scroll

/-! ## From the beginning -/

/-- The same pager that keeps and counts, at the beginning. -/
theorem Scroll.follows_new (rows : Nat) (enabled : Bool) :
    Scroll.Follows { rows := max rows 1, enabled } (new rows enabled) :=
  ⟨rfl, rfl, Scroll.Keeps.nothing⟩

/-- What holds of a run of a pager from its beginning. Each of its beginnings is such a run too. -/
structure Accounts (rows : Nat) (enabled : Bool) (operations : List Operation) : Prop where
  /-- The lines that were shown or dropped, and then those that are held, are the lines that were handed over. -/
  inOrder : (((new rows enabled).turns operations).flatMap fun t => t.shown ++ t.dropped) ++
    ((new rows enabled).run operations).held = operations.flatMap (·.lines)
  /-- Unless it is cancelled while it holds lines, all of them are shown sooner or later. -/
  allShown : (∀ t ∈ (new rows enabled).turns operations, t.operation.cancels = true → t.before.isActive = false) →
    ((new rows enabled).turns operations).flatMap (·.shown) ++ ((new rows enabled).run operations).held =
      operations.flatMap (·.lines)
  /-- The pager is active exactly while fewer lines were shown or dropped than were handed over. -/
  activeIff : ((new rows enabled).run operations).isActive = true ↔
    (((new rows enabled).turns operations).flatMap fun t => t.shown ++ t.dropped).length <
      (operations.flatMap (·.lines)).length
  /-- What is cancelled shows nothing, and then nothing is held. -/
  cancelled : ∀ t ∈ (new rows enabled).turns operations, t.operation.cancels = true →
    t.shown = [] ∧ t.dropped = t.before.held ∧ t.after.held = []
  /-- Any other key shows a full screen or what is left, and never nothing. -/
  screen : ∀ t ∈ (new rows enabled).turns operations, ∀ line, t.operation = .key line → t.operation.cancels = false →
    t.before.isActive = true → t.shown.length = min (max rows 1) t.before.held.length ∧ 0 < t.shown.length
  /-- While paging is on, never more than a screen is shown. -/
  fits : ∀ t ∈ (new rows enabled).turns operations, t.before.enabled = true → t.shown.length ≤ max rows 1
  /-- The same lines are shown by a pager that keeps and counts them, and it always has the lines it asks for. -/
  inBounds : ∃ last, Scroll.run? { rows := max rows 1, enabled } operations =
    some (last, ((new rows enabled).turns operations).map (·.shown)) ∧ last.Follows ((new rows enabled).run operations)

/-- **A pager accounts for all lines,** whatever its rows, whether paging is on at first, and whatever it is asked to
do. -/
theorem accounts_run (rows : Nat) (enabled : Bool) (operations : List Operation) :
    Accounts rows enabled operations := by
  have hall := turns_conserve (new rows enabled) operations
  have hnew : (new rows enabled).held = [] := rfl
  rw [hnew, List.nil_append] at hall
  refine ⟨hall, ?_, ?_, ?_, ?_, ?_, (Scroll.follows_new rows enabled).run? operations⟩
  · intro hidle
    have hshown : ∀ t ∈ (new rows enabled).turns operations, t.shown ++ t.dropped = t.shown := by
      intro t ht
      rw [t.dropped_eq_nil (hidle t ht), List.append_nil]
    rw [← hall, List.flatMap_congr hshown]
  · have hlength := congrArg List.length hall
    rw [List.length_append] at hlength
    rw [isActive_iff, ← List.length_pos_iff]
    omega
  · intro t ht hcancels
    rw [Turn.shown, Turn.after, operate_of_cancels hcancels]
    exact ⟨rfl, if_pos hcancels, rfl⟩
  · intro t ht line hline hcancels hactive
    rw [hline] at hcancels
    have hshown : t.shown.length = min (max rows 1) t.before.held.length := by
      rw [Turn.shown, hline, operate_key hcancels, nextScreen, List.length_take, rows_of_mem_turns ht]
      rfl
    have hheld : 0 < t.before.held.length := List.length_pos_iff.mpr (isActive_iff.mp hactive)
    exact ⟨hshown, by omega⟩
  · intro t ht henabled
    have hrows : t.before.rows = max rows 1 := rows_of_mem_turns ht
    rw [← hrows]
    exact length_operate_le henabled t.operation

example :
    ((new 2 true).turns [.page ["a", "b", "c"], .setEnabled false, .page ["d", "e"], .key "", .key " q ",
      .page ["f", "g", "h"]]).map (fun t => (t.shown, t.dropped)) =
      [(["a", "b"], []), ([], []), ([], []), (["c", "d"], []), ([], ["e"]), (["f", "g", "h"], [])] := by
  decide

end Pager

end RemoteShell
