import RemoteShell.Proofs.Shell.Withdrawal

/-!
# Folders remembered for nothing

If there is no folder for a `pushd` to go to, what it has remembered should be forgotten again, and a run should end as
if the line had never been given. The walk in which a refused `pushd` withdraws its own entry ends where the run without
the refused lines of `pushd` ends. The shell keeps to it exactly as long as every refusal finds the working folder, and
every folder remembered since, to be the folder that the refused line remembered.

Main statements:

* `Walk.run_withoutRefused`: withdrawing is leaving out.
* `folders_eq_withoutRefused_iff`: when a run is not changed by its refused lines.
* `folders_ne_withoutRefused`: a run that is.
-/

namespace RemoteShell

/-- The labels of the lines of `pushd` that are refused in a run. -/
def refusedLabels (moves : List Move) : List Nat :=
  moves.filterMap fun
    | .line _ _ => none
    | .reply label outcome =>
      if isRefusal outcome && moves.any (fun
        | .line other text => other == label && decide (IsPushLine text)
        | .reply _ _ => false) then some label else none

/-- A run without the lines of `pushd` that are refused in it, and without the replies to them. -/
def withoutRefused (moves : List Move) : List Move :=
  moves.filter fun move => !(refusedLabels moves).contains move.label

/-! ## Leaving lines out -/

namespace Walk

/-- Whether an entry stays when the lines with some labels are left out. -/
def isLeft (labels : List Nat) (entry : Option Nat × String) : Bool :=
  entry.1.all fun label => !labels.contains label

/-- A walk without what the lines with some labels have left in another. -/
structure Thinned (labels : List Nat) (w v : Walk) : Prop where
  cwd : v.cwd = w.cwd
  home : v.home = w.home
  entries : v.entries = w.entries.filter (isLeft labels)
  pending : v.pending = w.pending.filter fun p => !labels.contains p.label

theorem Thinned.settle {labels : List Nat} {w v : Walk} (h : Thinned labels w v) (label : Nat) :
    Thinned labels (w.settle label) (v.settle label) where
  cwd := h.cwd
  home := h.home
  entries := h.entries
  pending := by simp only [Walk.settle, h.pending, List.filter_filter, Bool.and_comm]

/-- A line that is not left out. -/
theorem Thinned.take {labels : List Nat} {w v : Walk} (h : Thinned labels w v) {label : Nat} (hlabel : label ∉ labels)
    (text : String) : Thinned labels (w.take label text) (v.take label text) := by
  unfold Walk.take
  rw [h.home, h.cwd]
  cases hasked : folderAsked? w.home w.cwd text with
  | none => exact h
  | some asked =>
      obtain ⟨folder, remember⟩ := asked
      have hpending : v.pending ++ [{ label := label, folder, remember }] =
          (w.pending ++ [({ label := label, folder, remember } : Pending)]).filter fun p => !labels.contains p.label := by
        rw [List.filter_append, h.pending]
        simp [hlabel]
      cases remember with
      | false => exact ⟨rfl, rfl, h.entries, hpending⟩
      | true =>
          refine ⟨rfl, rfl, ?_, hpending⟩
          have hleft : isLeft labels (some label, w.cwd) = true := by simp [isLeft, hlabel]
          simp only [if_true]
          rw [List.filter_cons_of_pos hleft, h.entries]

/-- A line that is left out. -/
theorem Thinned.skip {labels : List Nat} {w v : Walk} (h : Thinned labels w v) {label : Nat} (hlabel : label ∈ labels)
    (text : String) : Thinned labels (w.take label text) v := by
  unfold Walk.take
  cases hasked : folderAsked? w.home w.cwd text with
  | none => exact h
  | some asked =>
      obtain ⟨folder, remember⟩ := asked
      have hpending : v.pending =
          (w.pending ++ [({ label := label, folder, remember } : Pending)]).filter fun p => !labels.contains p.label := by
        rw [List.filter_append, h.pending]
        simp [hlabel]
      cases remember with
      | false => exact ⟨h.cwd, h.home, h.entries, hpending⟩
      | true =>
          refine ⟨h.cwd, h.home, ?_, hpending⟩
          have hleft : ¬ isLeft labels (some label, w.cwd) = true := by simp [isLeft, hlabel]
          simp only [if_true]
          rw [List.filter_cons_of_neg hleft, h.entries]

/-- Withdrawing what is left out anyway. -/
theorem Thinned.withdraw {labels : List Nat} {w v : Walk} (h : Thinned labels w v) {label : Nat}
    (hlabel : label ∈ labels) : Thinned labels (withdraw label w) v := by
  refine ⟨h.cwd, h.home, ?_, h.pending⟩
  rw [Walk.withdraw, List.filter_filter, h.entries]
  refine List.filter_congr ?_
  intro entry hentry
  by_cases hsame : entry.1 = some label
  · simp [isLeft, hsame, hlabel]
  · simp [hsame]

/-- A refusal of a line that is left out. -/
theorem Thinned.refuse {labels : List Nat} {w v : Walk} (h : Thinned labels w v) {label : Nat}
    (hlabel : label ∈ labels) {outcome : Outcome} (hrefused : isRefusal outcome = true) :
    Thinned labels (w.learn Walk.withdraw label outcome) v := by
  have hsettle : Thinned labels (w.settle label) v := by
    refine ⟨h.cwd, h.home, h.entries, ?_⟩
    rw [h.pending, Walk.settle, List.filter_filter]
    refine List.filter_congr ?_
    intro p hp
    by_cases hsame : p.label = label
    · simp [hsame, hlabel]
    · simp [hsame]
  unfold Walk.learn
  cases hfind : w.pending.find? (·.label == label) with
  | none => exact h
  | some p =>
      have harrival : arrival? p.folder outcome = none := (arrival?_eq_none_iff p.folder outcome).mpr hrefused
      cases hremember : p.remember with
      | false =>
          simp only [harrival, hremember, if_false, Bool.false_eq_true]
          exact hsettle
      | true =>
          simp only [harrival, hremember, if_true]
          exact hsettle.withdraw hlabel

/-- A reply to a line that is not left out. It is not a refusal of `pushd`. -/
theorem Thinned.learn {labels : List Nat} {w v : Walk} (h : Thinned labels w v) {label : Nat} (hlabel : label ∉ labels)
    {outcome : Outcome}
    (haccepted : ∀ p ∈ w.pending, p.label = label → p.remember = true → isRefusal outcome = false) :
    Thinned labels (w.learn Walk.withdraw label outcome) (v.learn back label outcome) := by
  have hsettle := h.settle label
  have hfind : v.pending.find? (·.label == label) = w.pending.find? (·.label == label) := by
    rw [h.pending, List.find?_filter]
    refine congrArg (fun test => w.pending.find? test) (funext fun p => ?_)
    by_cases hsame : p.label = label
    · simp [hsame, hlabel]
    · simp [hsame]
  unfold Walk.learn
  rw [hfind]
  cases hfound : w.pending.find? (·.label == label) with
  | none => exact h
  | some p =>
      obtain ⟨hp, hsame⟩ := mem_of_find?_label hfound
      cases harrival : arrival? p.folder outcome with
      | some path =>
          simp only [harrival]
          exact ⟨rfl, hsettle.home, hsettle.entries, hsettle.pending⟩
      | none =>
          have hrefused : isRefusal outcome = true := (arrival?_eq_none_iff p.folder outcome).mp harrival
          cases hremember : p.remember with
          | false =>
              simp only [harrival, hremember, if_false, Bool.false_eq_true]
              exact hsettle
          | true =>
              rw [haccepted p hp hsame hremember] at hrefused
              exact absurd hrefused (by decide)

/-- **Withdrawing is leaving out.** Lines that are left out leave the walk without their entries, if every refused line
of `pushd` is among them, and no line that is not refused. -/
theorem thinned_run (s : Session) {labels : List Nat} {moves : List Move} (hmoves : AreFolderLines moves)
    (hrefused : ∀ label outcome, .reply label outcome ∈ moves → label ∈ labels → isRefusal outcome = true)
    (hall : ∀ label outcome text, .reply label outcome ∈ moves → isRefusal outcome = true →
      .line label text ∈ moves → IsPushLine text → label ∈ labels) :
    Thinned labels (run withdraw s moves) (run back s (moves.filter fun move => !labels.contains move.label)) := by
  induction moves using moves_induction with
  | nil =>
      refine ⟨rfl, rfl, ?_, rfl⟩
      have hstart : ∀ entry ∈ (start s).entries, isLeft labels entry = true := by
        intro entry hentry
        obtain ⟨folder, -, rfl⟩ := List.mem_map.mp hentry
        rfl
      exact (List.filter_eq_self.mpr hstart).symm
  | snoc before move ih =>
      have hbefore : AreFolderLines before := hmoves.sublist (List.sublist_append_left _ _)
      have hih := ih hbefore
        (fun label outcome hreply => hrefused label outcome (List.mem_append_left _ hreply))
        (fun label outcome text hreply hrefusal hline =>
          hall label outcome text (List.mem_append_left _ hreply) hrefusal (List.mem_append_left _ hline))
      rw [run_snoc, List.filter_append]
      by_cases hlabel : move.label ∈ labels
      · have hskip : [move].filter (fun move => !labels.contains move.label) = [] := by simp [hlabel]
        rw [hskip, List.append_nil]
        cases move with
        | line label text => exact hih.skip hlabel text
        | reply label outcome => exact hih.refuse hlabel (hrefused label outcome (by simp) hlabel)
      · have hkeep : [move].filter (fun move => !labels.contains move.label) = [move] := by simp [hlabel]
        rw [hkeep, run_snoc]
        cases move with
        | line label text => exact hih.take hlabel text
        | reply label outcome =>
            refine hih.learn hlabel ?_
            intro p hp hsame hremember
            obtain ⟨text, hline, hpush⟩ := run_pending withdraw_pending s hbefore hp
            rw [hsame] at hline
            refine Bool.eq_false_iff.mpr ?_
            intro hrefusal
            exact hlabel (hall label outcome text (by simp) hrefusal (List.mem_append_left _ hline) (hpush hremember))

end Walk

theorem mem_refusedLabels {moves : List Move} {label : Nat} :
    label ∈ refusedLabels moves ↔ ∃ outcome text, .reply label outcome ∈ moves ∧ isRefusal outcome = true ∧
      .line label text ∈ moves ∧ IsPushLine text := by
  simp only [refusedLabels, List.mem_filterMap]
  constructor
  · rintro ⟨move, hmove, hlabel⟩
    cases move with
    | line other text => simp at hlabel
    | reply other outcome =>
        simp only [Option.ite_none_right_eq_some, Bool.and_eq_true, List.any_eq_true, Option.some.injEq] at hlabel
        obtain ⟨⟨hrefused, line, hline, htest⟩, rfl⟩ := hlabel
        cases line with
        | line same text =>
            simp only [Bool.and_eq_true, beq_iff_eq, decide_eq_true_eq] at htest
            obtain ⟨rfl, hpush⟩ := htest
            exact ⟨outcome, text, hmove, hrefused, hline, hpush⟩
        | reply same result => simp at htest
  · rintro ⟨outcome, text, hreply, hrefused, hline, hpush⟩
    refine ⟨_, hreply, ?_⟩
    have hany : moves.any (fun
        | .line other text => other == label && decide (IsPushLine text)
        | .reply _ _ => false) = true := by
      rw [List.any_eq_true]
      exact ⟨_, hline, by simp [hpush]⟩
    simp only [hrefused, hany, Bool.and_self, if_true]

/-- **A walk that withdraws ends where the run without the refused lines of `pushd` ends.** -/
theorem Walk.run_withoutRefused (s : Session) {moves : List Move} (hrun : IsRun moves) :
    (Walk.run Walk.back s (withoutRefused moves)).folders = (Walk.run Walk.withdraw s moves).folders := by
  have hthinned := @Walk.thinned_run s (refusedLabels moves) moves hrun.toAreFolderLines
    (by
      intro label outcome hreply hlabel
      obtain ⟨other, text, hother, hrefused, -⟩ := mem_refusedLabels.mp hlabel
      rwa [hrun.reply_unique hreply hother])
    (fun label outcome text hreply hrefused hline hpush =>
      mem_refusedLabels.mpr ⟨outcome, text, hreply, hrefused, hline, hpush⟩)
  have hkeeps := Walk.keeps_run s hrun
  -- What is withdrawn has left no entry to be left out.
  have hleft : ∀ entry ∈ (Walk.run Walk.withdraw s moves).entries, Walk.isLeft (refusedLabels moves) entry = true := by
    rintro ⟨key, own⟩ hentry
    cases key with
    | none => rfl
    | some label =>
        have hlabel : label ∉ refusedLabels moves := by
          intro hmem
          obtain ⟨outcome, text, hreply, hrefused, -⟩ := mem_refusedLabels.mp hmem
          rcases hkeeps.entry label own hentry with ⟨p, hp, rfl, -⟩ | ⟨other, hother, haccepted⟩
          · exact hkeeps.unanswered p hp outcome hreply
          · rw [hrun.reply_unique hreply hother, haccepted] at hrefused
            exact absurd hrefused (by decide)
        simp [Walk.isLeft, hlabel]
  have hentries := hthinned.entries
  rw [List.filter_eq_self.mpr hleft] at hentries
  exact Prod.ext hthinned.cwd (congrArg (List.map Prod.snd) hentries)

/-- **When a run is not changed by its refused lines.** Take the run, or any beginning of it: the shell ends in the same
folders as without the lines of `pushd` that were refused by then. This is so exactly if, whenever a line is refused, the
working folder and every folder remembered since are the folder which that line remembered; where folders of refused
lines have been forgotten. -/
theorem folders_eq_withoutRefused_iff {s : Shell} (hidle : s.IsIdle) (hwaiting : s.waiting = []) {moves : List Move}
    (hrun : IsRun moves) :
    (∀ before, before <+: moves →
        (Course.run s before).folders = (Course.run s (withoutRefused before)).folders) ↔
      ∀ before label outcome, before ++ [.reply label outcome] <+: moves → isRefusal outcome = true →
        (Walk.run Walk.withdraw s.session before).IsUndisturbed label := by
  rw [← Walk.folders_run_back_iff s.session hrun]
  refine forall_congr' fun before => forall_congr' fun hbefore => ?_
  have hpart : IsRun before := hrun.of_isPrefix hbefore
  have hleftOut : AreFolderLines (withoutRefused before) := hpart.toAreFolderLines.sublist List.filter_sublist
  rw [(Course.follows_run hidle hwaiting hpart.toAreFolderLines).folders,
    (Course.follows_run hidle hwaiting hleftOut).folders, Walk.run_withoutRefused s.session hpart]

/-- A `pushd` that is refused while a `cd` is under way, before anything has changed. -/
theorem folders_eq_withoutRefused_cd :
    ∃ (s : Shell) (moves : List Move), s = Shell.new Commands.registry "/" "> " (Pager.new 24 true) { zone := 0 } ∧
      moves = [.line 0 "cd /x", .line 1 "pushd /a", .reply 1 (.error (.status 404 "")),
        .reply 0 (.ok (.obj [("container", .bool true)]))] ∧
      s.IsIdle ∧ s.waiting = [] ∧ IsRun moves ∧
      (Course.run s moves).folders = (Course.run s (withoutRefused moves)).folders := by
  refine ⟨_, _, rfl, rfl, ?_⟩
  have hidle : (Shell.new Commands.registry "/" "> " (Pager.new 24 true) { zone := 0 }).IsIdle :=
    ⟨rfl, rfl, rfl, rfl⟩
  have hcd : IsRun [.line 0 "cd /x"] := isRun_nil.snoc_line (by decide +kernel) (by decide)
  have hpushd : IsRun [.line 0 "cd /x", .line 1 "pushd /a"] := hcd.snoc_line (by decide +kernel) (by decide)
  have hrefused := @IsRun.snoc_reply _ hpushd 1 (by decide) (by decide) (.error (.status 404 ""))
  have hrun := @IsRun.snoc_reply _ hrefused 0 (by decide) (by decide) (.ok (.obj [("container", .bool true)]))
  refine ⟨hidle, rfl, hrun, (folders_eq_withoutRefused_iff hidle rfl hrun).mpr ?_ _ (List.prefix_refl _)⟩
  intro before label outcome hbefore hrefusal
  rcases List.prefix_concat_iff.mp hbefore with heq | hbefore
  · obtain ⟨-, hlast⟩ := List.append_inj' heq rfl
    obtain ⟨-, rfl⟩ := Move.reply.inj (List.cons.inj hlast).1
    exact absurd hrefusal (by decide)
  · rcases List.prefix_concat_iff.mp hbefore with heq | hbefore
    · obtain ⟨rfl, hlast⟩ := List.append_inj' heq rfl
      obtain ⟨rfl, -⟩ := Move.reply.inj (List.cons.inj hlast).1
      have hwalk : (Walk.run Walk.withdraw (Session.new "/") [.line 0 "cd /x", .line 1 "pushd /a"]).cwd = "/" ∧
          (Walk.run Walk.withdraw (Session.new "/") [.line 0 "cd /x", .line 1 "pushd /a"]).entries = [(some 1, "/")] := by
        decide +kernel
      intro above own below hentries
      have hone : [(some 1, "/")] = above ++ (some 1, own) :: below := hwalk.2.symm.trans hentries
      cases above with
      | nil =>
          obtain ⟨-, rfl⟩ := Prod.mk.inj (List.cons.inj hone).1
          exact ⟨hwalk.1, by simp⟩
      | cons entry rest => simp at hone
    · have hmem : Move.reply label outcome ∈ [Move.line 0 "cd /x", .line 1 "pushd /a"] := hbefore.subset (by simp)
      simp at hmem

/-- **A run that its refused line changes.** A `pushd` is under way when a `cd` and another `pushd` succeed; then it is
refused. The folder that the second one remembered is forgotten, and the folder it went to is left. -/
theorem folders_ne_withoutRefused :
    ∃ (s : Shell) (moves : List Move), s = Shell.new Commands.registry "/" "> " (Pager.new 24 true) { zone := 0 } ∧
      moves = [.line 0 "pushd /a", .line 1 "cd /x", .reply 1 (.ok (.obj [("container", .bool true)])),
        .line 2 "pushd /b", .reply 2 (.ok (.obj [("container", .bool true)])), .reply 0 (.error (.status 404 ""))] ∧
      IsRun moves ∧ (Course.run s moves).folders = ("/x", ["/"]) ∧
      (Course.run s (withoutRefused moves)).folders = ("/b", ["/x"]) := by
  refine ⟨_, _, rfl, rfl, ?_, ?_, ?_⟩
  · have hpushd : IsRun [.line 0 "pushd /a"] := isRun_nil.snoc_line (by decide +kernel) (by decide)
    have hcd : IsRun [.line 0 "pushd /a", .line 1 "cd /x"] := hpushd.snoc_line (by decide +kernel) (by decide)
    have harrived := @IsRun.snoc_reply _ hcd 1 (by decide) (by decide) (.ok (.obj [("container", .bool true)]))
    have hsecond := @IsRun.snoc_line _ harrived 2 "pushd /b" (by decide +kernel) (by decide)
    have hentered := @IsRun.snoc_reply _ hsecond 2 (by decide) (by decide) (.ok (.obj [("container", .bool true)]))
    exact @IsRun.snoc_reply _ hentered 0 (by decide) (by decide) (.error (.status 404 ""))
  · decide +kernel
  · decide +kernel

end RemoteShell
