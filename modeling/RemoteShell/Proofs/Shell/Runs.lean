import RemoteShell.Proofs.Shell.FolderRun

/-!
# Runs

A run of the shell is a list of moves: lines of `cd` and `pushd`, and the replies to their look-ups, in any order in
which a reply comes after its line. A beginning of a run is a run, and a run goes on with any new line and with a reply
to any line that has none.

Main statements:

* `IsRun.of_isPrefix`: a beginning of a run is a run.
* `IsRun.snoc_line`, `IsRun.snoc_reply`: how a run goes on.
* `IsRun.reply_unique`: a line is replied to in one way.
-/

namespace RemoteShell

/-- The labels of the replies of a run. -/
def replyLabels (moves : List Move) : List Nat :=
  moves.filterMap Move.replyLabel?

/-- A run: lines of `cd` and `pushd`, each with a label of its own, and replies, each to a line given before it and at
most one to each. -/
structure IsRun (moves : List Move) : Prop extends AreFolderLines moves where
  replies_nodup : (replyLabels moves).Nodup
  replies_after : ∀ before label outcome, before ++ [.reply label outcome] <+: moves → label ∈ lineLabels before

theorem mem_replyLabels {moves : List Move} {label : Nat} :
    label ∈ replyLabels moves ↔ ∃ outcome, .reply label outcome ∈ moves := by
  simp only [replyLabels, List.mem_filterMap]
  constructor
  · rintro ⟨move, hmove, hlabel⟩
    cases move with
    | line other text => simp [Move.replyLabel?] at hlabel
    | reply other outcome =>
        obtain rfl : other = label := by simpa [Move.replyLabel?] using hlabel
        exact ⟨outcome, hmove⟩
  · rintro ⟨outcome, houtcome⟩
    exact ⟨_, houtcome, rfl⟩

theorem replyLabels_snoc_line (before : List Move) (label : Nat) (text : String) :
    replyLabels (before ++ [.line label text]) = replyLabels before := by
  simp [replyLabels, Move.replyLabel?]

theorem replyLabels_snoc_reply (before : List Move) (label : Nat) (outcome : Outcome) :
    replyLabels (before ++ [.reply label outcome]) = replyLabels before ++ [label] := by
  simp [replyLabels, Move.replyLabel?]

theorem IsRun.of_isPrefix {moves before : List Move} (h : IsRun moves) (hbefore : before <+: moves) : IsRun before where
  toAreFolderLines := h.toAreFolderLines.sublist hbefore.sublist
  replies_nodup := (hbefore.sublist.filterMap _).nodup h.replies_nodup
  replies_after := fun first label outcome hfirst => h.replies_after first label outcome (hfirst.trans hbefore)

/-- The beginnings of a longer run are those of the shorter one, and the longer one itself. -/
theorem forall_prefix_snoc {P : List Move → Prop} {before : List Move} {move : Move} :
    (∀ first, first <+: before ++ [move] → P first) ↔ (∀ first, first <+: before → P first) ∧ P (before ++ [move]) := by
  simp only [List.prefix_concat_iff]
  constructor
  · intro h
    exact ⟨fun first hfirst => h first (Or.inr hfirst), h _ (Or.inl rfl)⟩
  · rintro ⟨hbefore, hlast⟩ first (rfl | hfirst)
    · exact hlast
    · exact hbefore first hfirst

/-- The replies of a longer run are those of the shorter one, and perhaps its last move. -/
theorem forall_reply_snoc {P : List Move → Nat → Outcome → Prop} {before : List Move} {move : Move} :
    (∀ first label outcome, first ++ [.reply label outcome] <+: before ++ [move] → P first label outcome) ↔
      (∀ first label outcome, first ++ [.reply label outcome] <+: before → P first label outcome) ∧
        ∀ label outcome, move = .reply label outcome → P before label outcome := by
  simp only [List.prefix_concat_iff]
  constructor
  · intro h
    refine ⟨fun first label outcome hfirst => h first label outcome (Or.inr hfirst), ?_⟩
    rintro label outcome rfl
    exact h before label outcome (Or.inl rfl)
  · rintro ⟨hbefore, hlast⟩ first label outcome (heq | hfirst)
    · obtain ⟨rfl, hmove⟩ := List.append_inj' heq rfl
      exact hlast label outcome (List.cons.inj hmove).1.symm
    · exact hbefore first label outcome hfirst

theorem isRun_nil : IsRun [] where
  isFolderLine := by simp
  nodup := List.nodup_nil
  replies_nodup := List.nodup_nil
  replies_after := by simp

/-- A run goes on with a line that has a new label. -/
theorem IsRun.snoc_line {before : List Move} (h : IsRun before) {label : Nat} {text : String}
    (hline : IsFolderLine text) (hfresh : label ∉ lineLabels before) : IsRun (before ++ [.line label text]) where
  isFolderLine := by
    intro other asked hmem
    rcases List.mem_append.mp hmem with hmem | hmem
    · exact h.isFolderLine other asked hmem
    · obtain ⟨-, rfl⟩ := Move.line.inj (List.mem_singleton.mp hmem)
      exact hline
  nodup := by
    rw [lineLabels_snoc_line, List.nodup_append]
    refine ⟨h.nodup, by simp, ?_⟩
    intro other hother last hlast heq
    rw [List.mem_singleton.mp hlast] at heq
    exact hfresh (heq ▸ hother)
  replies_nodup := by
    rw [replyLabels_snoc_line]
    exact h.replies_nodup
  replies_after := by
    refine forall_reply_snoc.mpr ⟨h.replies_after, ?_⟩
    intro other outcome heq
    simp at heq

/-- A run goes on with a reply to a line that has none. -/
theorem IsRun.snoc_reply {before : List Move} (h : IsRun before) {label : Nat} (hline : label ∈ lineLabels before)
    (hfresh : label ∉ replyLabels before) (outcome : Outcome) : IsRun (before ++ [.reply label outcome]) where
  isFolderLine := by
    intro other asked hmem
    exact h.isFolderLine other asked (by simpa using hmem)
  nodup := by
    rw [lineLabels_snoc_reply]
    exact h.nodup
  replies_nodup := by
    rw [replyLabels_snoc_reply, List.nodup_append]
    refine ⟨h.replies_nodup, by simp, ?_⟩
    intro other hother last hlast heq
    rw [List.mem_singleton.mp hlast] at heq
    exact hfresh (heq ▸ hother)
  replies_after := by
    refine forall_reply_snoc.mpr ⟨h.replies_after, ?_⟩
    intro other result heq
    obtain ⟨rfl, -⟩ := Move.reply.inj heq
    exact hline

/-- A line has not been replied to before it is given. -/
theorem IsRun.not_replied {before : List Move} {label : Nat} {text : String}
    (h : IsRun (before ++ [.line label text])) (outcome : Outcome) : .reply label outcome ∉ before := by
  intro hreply
  obtain ⟨first, rest, rfl⟩ := List.append_of_mem hreply
  have hfirst : label ∈ lineLabels first := by
    refine h.replies_after first label outcome ?_
    exact ⟨rest ++ [.line label text], by simp⟩
  obtain ⟨other, hother⟩ := mem_lineLabels.mp hfirst
  exact h.fresh (mem_lineLabels.mpr ⟨other, List.mem_append_left _ hother⟩)

/-- A reply is the only one to its line. -/
theorem IsRun.not_replied_twice {before : List Move} {label : Nat} {outcome : Outcome}
    (h : IsRun (before ++ [.reply label outcome])) (other : Outcome) : .reply label other ∉ before := by
  have hnodup := h.replies_nodup
  rw [replyLabels_snoc_reply, List.nodup_append] at hnodup
  intro hreply
  exact hnodup.2.2 label (mem_replyLabels.mpr ⟨other, hreply⟩) label (by simp) rfl

/-- A line is replied to in one way. -/
theorem IsRun.reply_unique {moves : List Move} (hrun : IsRun moves) {label : Nat} {outcome other : Outcome}
    (houtcome : .reply label outcome ∈ moves) (hother : .reply label other ∈ moves) : outcome = other := by
  obtain ⟨before, rest, rfl⟩ := List.append_of_mem houtcome
  have hfirst : IsRun (before ++ [.reply label outcome]) := hrun.of_isPrefix ⟨rest, by simp⟩
  rcases List.mem_append.mp hother with hother | hother
  · exact absurd hother (hfirst.not_replied_twice other)
  · rcases List.mem_cons.mp hother with heq | hother
    · exact (Move.reply.inj heq).2.symm
    · obtain ⟨middle, last, rfl⟩ := List.append_of_mem hother
      have hsecond : IsRun (before ++ .reply label outcome :: middle ++ [.reply label other]) :=
        hrun.of_isPrefix ⟨last, by simp⟩
      exact absurd (by simp) (hsecond.not_replied_twice outcome)

end RemoteShell
