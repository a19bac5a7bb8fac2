import RemoteShell.Proofs.Shell.Runs

/-!
# Withdrawing what was remembered

A `pushd` remembers the working folder when it is given, and learns only later whether there is a folder to go to. What
the shell does when there is none is to go back: it takes the folder that was remembered last, whichever line remembered
it, and makes it the working folder. The walk to compare with is the one in which the refused line withdraws its own
entry. The two come to the same only if nothing has happened meanwhile.

Main statements:

* `Walk.keeps_run`: what a walk that withdraws keeps of its lines.
* `Walk.back_iff_withdraw`: when going back is withdrawing.
* `Walk.folders_run_back_iff`: when it is, throughout a run.
-/

namespace RemoteShell

namespace Walk

/-- Withdraws what the line with a label has remembered. -/
def withdraw (label : Nat) (w : Walk) : Walk :=
  { w with entries := w.entries.filter (·.1 != some label) }

/-- Nothing has changed since the line with a label remembered the working folder, as far as going back could tell: the
working folder, and every folder remembered since, is the one that the line remembered. -/
def IsUndisturbed (w : Walk) (label : Nat) : Prop :=
  ∀ above own below, w.entries = above ++ (some label, own) :: below → w.cwd = own ∧ ∀ entry ∈ above, entry.2 = own

theorem withdraw_home (label : Nat) (w : Walk) : (withdraw label w).home = w.home := rfl

theorem withdraw_pending (label : Nat) (w : Walk) : (withdraw label w).pending = w.pending := rfl

/-! ## What is kept of the lines that are not withdrawn -/

/-- What a walk that withdraws keeps of the lines of a run. Each line has one entry at most; it has one as long as its
look-up is pending, and afterwards only if it was not refused. -/
structure Keeps (moves : List Move) (w : Walk) : Prop where
  labels_nodup : (w.entries.filterMap (·.1)).Nodup
  entry : ∀ label own, (some label, own) ∈ w.entries →
    (∃ p ∈ w.pending, p.label = label ∧ p.remember = true) ∨
      ∃ outcome, .reply label outcome ∈ moves ∧ isRefusal outcome = false
  remembered : ∀ p ∈ w.pending, p.remember = true → ∃ own, (some p.label, own) ∈ w.entries
  unanswered : ∀ p ∈ w.pending, ∀ outcome, .reply p.label outcome ∉ moves

theorem mem_settle {w : Walk} {label : Nat} {p : Pending} :
    p ∈ (w.settle label).pending ↔ p ∈ w.pending ∧ p.label ≠ label := by
  simp [settle]

/-- A line is kept. -/
theorem Keeps.take {before : List Move} {w : Walk} (h : w.Keeps before) {label : Nat} {text : String}
    (hentry : ∀ own, (some label, own) ∉ w.entries) (hreply : ∀ outcome, .reply label outcome ∉ before) :
    (w.take label text).Keeps (before ++ [.line label text]) := by
  have hmoves : ∀ other outcome, .reply other outcome ∈ before ++ [.line label text] → .reply other outcome ∈ before := by
    intro other outcome hmem
    simpa using hmem
  have hunanswered : ∀ p ∈ w.pending, ∀ outcome, .reply p.label outcome ∉ before ++ [.line label text] :=
    fun p hp outcome hmem => h.unanswered p hp outcome (hmoves _ _ hmem)
  unfold Walk.take
  cases hasked : folderAsked? w.home w.cwd text with
  | none =>
      exact { h with
        unanswered := hunanswered
        entry := fun other own hown => (h.entry other own hown).imp id
          fun ⟨outcome, hmem, haccepted⟩ => ⟨outcome, List.mem_append_left _ hmem, haccepted⟩ }
  | some asked =>
      obtain ⟨folder, remember⟩ := asked
      constructor
      case labels_nodup =>
        cases remember with
        | false => exact h.labels_nodup
        | true =>
            refine List.nodup_cons.mpr ⟨?_, h.labels_nodup⟩
            intro hmem
            obtain ⟨⟨key, own⟩, hown, hkey⟩ := List.mem_filterMap.mp hmem
            obtain rfl : key = some label := hkey
            exact hentry own hown
      case entry =>
        intro other own hown
        have hold : (some other, own) ∈ w.entries →
            (∃ p ∈ w.pending ++ [{ label := label, folder, remember }], p.label = other ∧ p.remember = true) ∨
              ∃ outcome, .reply other outcome ∈ before ++ [.line label text] ∧ isRefusal outcome = false := by
          intro hmem
          rcases h.entry other own hmem with ⟨p, hp, hlabel, hremember⟩ | ⟨outcome, hmem, haccepted⟩
          · exact Or.inl ⟨p, List.mem_append_left _ hp, hlabel, hremember⟩
          · exact Or.inr ⟨outcome, List.mem_append_left _ hmem, haccepted⟩
        cases remember with
        | false => exact hold hown
        | true =>
            rcases List.mem_cons.mp hown with heq | hown
            · obtain ⟨hlabel, -⟩ := Prod.mk.inj heq
              obtain rfl := Option.some.inj hlabel
              exact Or.inl ⟨{ label := other, folder, remember := true }, by simp, rfl, rfl⟩
            · exact hold hown
      case remembered =>
        intro p hp hremember
        rcases List.mem_append.mp hp with hp | hp
        · obtain ⟨own, hown⟩ := h.remembered p hp hremember
          cases remember with
          | false => exact ⟨own, hown⟩
          | true => exact ⟨own, List.mem_cons_of_mem _ hown⟩
        · obtain rfl := List.mem_singleton.mp hp
          obtain rfl : remember = true := hremember
          exact ⟨w.cwd, by simp⟩
      case unanswered =>
        intro p hp outcome hmem
        rcases List.mem_append.mp hp with hp | hp
        · exact hunanswered p hp outcome hmem
        · obtain rfl := List.mem_singleton.mp hp
          exact hreply outcome (hmoves _ _ hmem)

/-- Where labels are different, a look-up is found by its label. -/
theorem find?_label {pending : List Pending} (hnodup : (pending.map (·.label)).Nodup) {p : Pending}
    (hp : p ∈ pending) : pending.find? (·.label == p.label) = some p := by
  cases hfind : pending.find? (·.label == p.label) with
  | none => exact absurd (List.find?_eq_none.mp hfind p hp) (by simp)
  | some q =>
      obtain ⟨hq, hlabel⟩ := mem_of_find?_label hfind
      rw [eq_of_nodup_map hnodup hq hp hlabel]

/-- A reply withdraws the entry of its line, or leaves the entries as they are, where it does not refuse a `pushd`. -/
theorem learn_entries (w : Walk) (label : Nat) (outcome : Outcome) :
    (w.learn withdraw label outcome).entries = w.entries.filter (·.1 != some label) ∨
      (w.learn withdraw label outcome).entries = w.entries ∧
        ∀ p, w.pending.find? (·.label == label) = some p → p.remember = true → isRefusal outcome = false := by
  unfold Walk.learn
  cases hfind : w.pending.find? (·.label == label) with
  | none => exact Or.inr ⟨rfl, by simp⟩
  | some p =>
      cases harrival : arrival? p.folder outcome with
      | some path =>
          simp only [harrival]
          exact Or.inr ⟨rfl, fun _ _ _ => isRefusal_of_arrival? harrival⟩
      | none =>
          cases hremember : p.remember with
          | true =>
              simp only [harrival, hremember, if_true]
              exact Or.inl rfl
          | false =>
              simp only [harrival, hremember, if_false, Bool.false_eq_true]
              refine Or.inr ⟨rfl, ?_⟩
              intro q hq hpush
              obtain rfl := Option.some.inj hq
              rw [hremember] at hpush
              exact absurd hpush (by decide)

/-- A reply is kept, where a refused `pushd` withdraws. -/
theorem Keeps.learn {before : List Move} {w : Walk} (h : w.Keeps before)
    (hnodup : (w.pending.map (·.label)).Nodup) (label : Nat) (outcome : Outcome) :
    (w.learn withdraw label outcome).Keeps (before ++ [.reply label outcome]) := by
  have hpending := learn_pending withdraw_pending w label outcome
  have hentries := learn_entries w label outcome
  -- What the reply does not withdraw has an entry as before.
  have hkept : ∀ other own, other ≠ label → (some other, own) ∈ w.entries →
      (some other, own) ∈ (w.learn withdraw label outcome).entries := by
    intro other own hne hown
    rcases hentries with heq | ⟨heq, -⟩
    · rw [heq]
      exact List.mem_filter.mpr ⟨hown, by simpa using hne⟩
    · rwa [heq]
  constructor
  case labels_nodup =>
    rcases hentries with heq | ⟨heq, -⟩
    · rw [heq]
      exact (List.filter_sublist.filterMap _).nodup h.labels_nodup
    · rw [heq]
      exact h.labels_nodup
  case entry =>
    intro other own hown
    have hold : (some other, own) ∈ w.entries := by
      rcases hentries with heq | ⟨heq, -⟩
      · rw [heq] at hown
        exact (List.mem_filter.mp hown).1
      · rwa [heq] at hown
    rcases h.entry other own hold with ⟨p, hp, rfl, hremember⟩ | ⟨result, hmem, haccepted⟩
    · by_cases hlabel : p.label = label
      · subst hlabel
        refine Or.inr ⟨outcome, by simp, ?_⟩
        rcases hentries with heq | ⟨-, haccepted⟩
        · rw [heq] at hown
          simp at hown
        · exact haccepted p (find?_label hnodup hp) hremember
      · refine Or.inl ⟨p, ?_, rfl, hremember⟩
        rw [hpending]
        exact mem_settle.mpr ⟨hp, hlabel⟩
    · exact Or.inr ⟨result, List.mem_append_left _ hmem, haccepted⟩
  case remembered =>
    intro p hp hremember
    rw [hpending] at hp
    obtain ⟨hp, hlabel⟩ := mem_settle.mp hp
    obtain ⟨own, hown⟩ := h.remembered p hp hremember
    exact ⟨own, hkept p.label own hlabel hown⟩
  case unanswered =>
    intro p hp result hmem
    rw [hpending] at hp
    obtain ⟨hp, hlabel⟩ := mem_settle.mp hp
    rcases List.mem_append.mp hmem with hmem | hmem
    · exact h.unanswered p hp result hmem
    · exact hlabel (Move.reply.inj (List.mem_singleton.mp hmem)).1

/-- An entry has the label of a line that has been given. -/
theorem Keeps.mem_lineLabels {moves : List Move} (hrun : IsRun moves) {w : Walk} (h : w.Keeps moves)
    (hpending : ∀ p ∈ w.pending, p.label ∈ lineLabels moves) {label : Nat} {own : String}
    (hentry : (some label, own) ∈ w.entries) : label ∈ lineLabels moves := by
  rcases h.entry label own hentry with ⟨p, hp, rfl, -⟩ | ⟨outcome, hreply, -⟩
  · exact hpending p hp
  · obtain ⟨before, rest, rfl⟩ := List.append_of_mem hreply
    have hbefore : label ∈ lineLabels before := by
      refine hrun.replies_after before label outcome ?_
      exact ⟨rest, by simp⟩
    rw [lineLabels, List.filterMap_append]
    exact List.mem_append_left _ hbefore

/-- **What a run keeps of its lines,** where a refused `pushd` withdraws. -/
theorem keeps_run (s : Session) {moves : List Move} (hrun : IsRun moves) : (run withdraw s moves).Keeps moves := by
  induction moves using moves_induction with
  | nil =>
      refine ⟨?_, ?_, ?_, ?_⟩
      · have hnone : (run withdraw s []).entries.filterMap (·.1) = [] := by
          rw [List.filterMap_eq_nil_iff]
          intro entry hentry
          obtain ⟨folder, -, rfl⟩ := List.mem_map.mp hentry
          rfl
        rw [hnone]
        exact List.nodup_nil
      · intro label own hentry
        simp [run, start] at hentry
      · simp [run, start]
      · simp [run, start]
  | snoc before move ih =>
      have hbefore : IsRun before := hrun.of_isPrefix (List.prefix_append _ _)
      have hkeeps := ih hbefore
      have hpending : ∀ p ∈ (run withdraw s before).pending, p.label ∈ lineLabels before := by
        intro p hp
        obtain ⟨text, hline, -⟩ := run_pending withdraw_pending s hbefore.toAreFolderLines hp
        exact RemoteShell.mem_lineLabels.mpr ⟨text, hline⟩
      rw [run_snoc]
      cases move with
      | line label text =>
          refine hkeeps.take ?_ hrun.not_replied
          intro own hentry
          exact hrun.fresh (hkeeps.mem_lineLabels hbefore hpending hentry)
      | reply label outcome =>
          exact hkeeps.learn (nodup_pending withdraw_pending s hbefore.toAreFolderLines) label outcome

/-! ## Going back and withdrawing -/

/-- A list that is the same when its last item is put in front is made of one item. -/
theorem snoc_eq_cons_iff {items : List String} {last first : String} :
    items ++ [last] = first :: items ↔ first = last ∧ ∀ item ∈ items, item = last := by
  induction items generalizing first with
  | nil => simp [eq_comm]
  | cons item rest ih =>
      rw [List.cons_append, List.cons.injEq, ih]
      constructor
      · rintro ⟨rfl, heq, hrest⟩
        exact ⟨heq, by simpa [heq] using hrest⟩
      · rintro ⟨rfl, hall⟩
        have hitem : item = first := hall item (by simp)
        exact ⟨hitem, hitem, fun other hother => hall other (List.mem_cons_of_mem _ hother)⟩

/-- An entry stands at one place. -/
theorem filter_entries {above below : List (Option Nat × String)} {label : Nat} {own : String}
    (hnodup : ((above ++ (some label, own) :: below).filterMap (·.1)).Nodup) :
    (above ++ (some label, own) :: below).filter (·.1 != some label) = above ++ below := by
  have hhead : ((some label, own) :: below).filterMap (·.1) = label :: below.filterMap (·.1) := rfl
  rw [List.filterMap_append, List.nodup_append, hhead, List.nodup_cons] at hnodup
  have habove : above.filter (·.1 != some label) = above := by
    rw [List.filter_eq_self]
    intro entry hentry
    rw [bne_iff_ne]
    intro hlabel
    exact hnodup.2.2 label (List.mem_filterMap.mpr ⟨entry, hentry, hlabel⟩) label (by simp) rfl
  have hbelow : below.filter (·.1 != some label) = below := by
    rw [List.filter_eq_self]
    intro entry hentry
    rw [bne_iff_ne]
    intro hlabel
    exact hnodup.2.1.1 (List.mem_filterMap.mpr ⟨entry, hentry, hlabel⟩)
  rw [List.filter_append, habove, List.filter_cons_of_neg (by simp), hbelow]

/-- **When going back is withdrawing:** where the working folder, and every folder remembered since, is the one that the
line remembered. -/
theorem back_iff_withdraw {v w : Walk} (hsame : v.folders = w.folders) {label : Nat} {own : String}
    {above below : List (Option Nat × String)} (hnodup : (w.entries.filterMap (·.1)).Nodup)
    (hentries : w.entries = above ++ (some label, own) :: below) :
    (back label v).folders = (withdraw label w).folders ↔ w.cwd = own ∧ ∀ entry ∈ above, entry.2 = own := by
  have hremembered : v.entries.map (·.2) = above.map (·.2) ++ own :: below.map (·.2) := by
    have hmap : v.entries.map (·.2) = w.entries.map (·.2) := congrArg Prod.snd hsame
    rw [hmap, hentries]
    simp
  obtain ⟨first, rest, hfirst⟩ : ∃ first rest, v.entries = first :: rest := by
    refine List.exists_cons_of_ne_nil ?_
    intro hnil
    rw [hnil] at hremembered
    simp at hremembered
  have hback : (back label v).folders = (first.2, rest.map (·.2)) := by
    simp [back, folders, hfirst]
  have hwithdraw : (withdraw label w).folders = (w.cwd, above.map (·.2) ++ below.map (·.2)) := by
    rw [hentries] at hnodup
    simp only [withdraw, folders, hentries, filter_entries hnodup, List.map_append]
  rw [hfirst, List.map_cons] at hremembered
  have hall : (∀ item ∈ above.map (·.2), item = own) ↔ ∀ entry ∈ above, entry.2 = own := List.forall_mem_map
  rw [hback, hwithdraw, Prod.mk.injEq, ← hall]
  constructor
  · rintro ⟨hcwd, hrest⟩
    have hshift : above.map (·.2) ++ [own] = first.2 :: above.map (·.2) := by
      rw [hrest] at hremembered
      refine (List.append_left_inj (below.map (·.2))).mp ?_
      simpa using hremembered.symm
    obtain ⟨hown, habove⟩ := snoc_eq_cons_iff.mp hshift
    exact ⟨hcwd.symm.trans hown, habove⟩
  · rintro ⟨hcwd, habove⟩
    have hown : first.2 = own := by
      cases hmap : above.map (·.2) with
      | nil =>
          rw [hmap] at hremembered
          exact (List.cons.inj hremembered).1
      | cons item items =>
          rw [hmap] at hremembered habove
          exact (List.cons.inj hremembered).1.trans (habove item (by simp))
    refine ⟨hown.trans hcwd.symm, ?_⟩
    have hshift := snoc_eq_cons_iff.mpr ⟨hown, habove⟩
    have hjoined : first.2 :: rest.map (·.2) = first.2 :: (above.map (·.2) ++ below.map (·.2)) := by
      rw [hremembered, ← List.cons_append, ← hshift]
      simp
    exact (List.cons.inj hjoined).2

/-- Two walks that cannot be told apart but by the labels of their entries. -/
structure Alike (v w : Walk) : Prop where
  home : v.home = w.home
  folders : v.folders = w.folders
  pending : v.pending = w.pending

theorem Alike.cwd {v w : Walk} (h : v.Alike w) : v.cwd = w.cwd :=
  congrArg Prod.fst h.folders

theorem Alike.remembered {v w : Walk} (h : v.Alike w) : v.entries.map (·.2) = w.entries.map (·.2) :=
  congrArg Prod.snd h.folders

/-- A line does the same to both. -/
theorem Alike.take {v w : Walk} (h : v.Alike w) (label : Nat) (text : String) :
    (v.take label text).Alike (w.take label text) := by
  unfold Walk.take
  rw [h.home, h.cwd]
  cases hasked : folderAsked? w.home w.cwd text with
  | none => exact h
  | some asked =>
      obtain ⟨folder, remember⟩ := asked
      refine ⟨rfl, ?_, by rw [h.pending]⟩
      cases remember <;> simp [Walk.folders, h.remembered]

theorem Alike.settle {v w : Walk} (h : v.Alike w) (label : Nat) : (v.settle label).Alike (w.settle label) :=
  ⟨h.home, h.folders, by simp only [Walk.settle, h.pending]⟩

theorem back_home (label : Nat) (w : Walk) : (back label w).home = w.home := by
  unfold back
  split <;> rfl

theorem learn_home {withdraw : Nat → Walk → Walk} (hwithdraw : ∀ label w, (withdraw label w).home = w.home) (w : Walk)
    (label : Nat) (outcome : Outcome) : (w.learn withdraw label outcome).home = w.home := by
  unfold Walk.learn
  split
  · rfl
  · split
    · rfl
    · split
      · exact hwithdraw label _
      · rfl

/-- After a reply, too, they agree in everything but the folders. -/
theorem Alike.learn {v w : Walk} (h : v.Alike w) (label : Nat) (outcome : Outcome)
    (hfolders : (v.learn back label outcome).folders = (w.learn withdraw label outcome).folders) :
    (v.learn back label outcome).Alike (w.learn withdraw label outcome) where
  home := by
    rw [learn_home back_home, learn_home withdraw_home]
    exact h.home
  folders := hfolders
  pending := by
    rw [learn_pending back_pending, learn_pending withdraw_pending]
    exact (h.settle label).pending

/-- **When a reply does the same to both:** unless it is a refusal, and something has changed since the line remembered
the working folder. -/
theorem Alike.learn_folders_iff {before : List Move} {v w : Walk} (h : v.Alike w) (hkeeps : w.Keeps before)
    (hnodup : (w.pending.map (·.label)).Nodup) {label : Nat} {outcome : Outcome}
    (hreply : ∀ other, .reply label other ∉ before) :
    (v.learn back label outcome).folders = (w.learn withdraw label outcome).folders ↔
      (isRefusal outcome = true → w.IsUndisturbed label) := by
  have hsettle := h.settle label
  -- A line without an entry has nothing that could have been disturbed.
  have hvacuous : (∀ p ∈ w.pending, p.label = label → p.remember = false) → w.IsUndisturbed label := by
    intro hnone above own below hentries
    have hentry : (some label, own) ∈ w.entries := by
      rw [hentries]
      simp
    rcases hkeeps.entry label own hentry with ⟨p, hp, hlabel, hremember⟩ | ⟨other, hother, -⟩
    · rw [hnone p hp hlabel] at hremember
      exact absurd hremember (by decide)
    · exact absurd hother (hreply other)
  unfold Walk.learn
  rw [h.pending]
  cases hfind : w.pending.find? (·.label == label) with
  | none =>
      refine iff_of_true h.folders fun _ => hvacuous ?_
      intro p hp hlabel
      exact absurd hlabel (by simpa using List.find?_eq_none.mp hfind p hp)
  | some p =>
      obtain ⟨hp, hlabel⟩ := mem_of_find?_label hfind
      cases harrival : arrival? p.folder outcome with
      | some path =>
          simp only [harrival]
          refine iff_of_true ?_ ?_
          · simp [Walk.folders, hsettle.remembered]
          · rw [isRefusal_of_arrival? harrival]
            exact fun hrefused => absurd hrefused (by decide)
      | none =>
          have hrefused : isRefusal outcome = true := (arrival?_eq_none_iff p.folder outcome).mp harrival
          cases hremember : p.remember with
          | false =>
              simp only [harrival, hremember, if_false, Bool.false_eq_true]
              refine iff_of_true hsettle.folders fun _ => hvacuous ?_
              intro q hq hlabel'
              rwa [eq_of_nodup_map hnodup hq hp (hlabel'.trans hlabel.symm)]
          | true =>
              simp only [harrival, hremember, if_true]
              obtain ⟨own, hown⟩ := hkeeps.remembered p hp hremember
              rw [hlabel] at hown
              constructor
              · intro hsame _ above other below hentries
                exact (back_iff_withdraw hsettle.folders hkeeps.labels_nodup hentries).mp hsame
              · intro hundisturbed
                obtain ⟨above, below, hentries⟩ := List.append_of_mem hown
                have hcondition := hundisturbed hrefused above own below hentries
                exact (back_iff_withdraw hsettle.folders hkeeps.labels_nodup hentries).mpr hcondition

/-- As long as the folders are the same, going back and withdrawing cannot be told apart. -/
theorem alike_run (s : Session) {moves : List Move}
    (h : ∀ before, before <+: moves → (run back s before).folders = (run withdraw s before).folders) :
    (run back s moves).Alike (run withdraw s moves) := by
  induction moves using moves_induction with
  | nil => exact ⟨rfl, rfl, rfl⟩
  | snoc before move ih =>
      have hbefore := ih fun first hfirst => h first (hfirst.trans (List.prefix_append _ _))
      have hfolders := h (before ++ [move]) (List.prefix_refl _)
      rw [run_snoc, run_snoc] at hfolders
      rw [run_snoc, run_snoc]
      cases move with
      | line label text => exact hbefore.take label text
      | reply label outcome => exact hbefore.learn label outcome hfolders

/-- **When a move keeps going back and withdrawing the same:** unless it refuses a line for which something has
changed. -/
theorem folders_snoc_iff (s : Session) {before : List Move} {move : Move} (hrun : IsRun (before ++ [move]))
    (halike : (run back s before).Alike (run withdraw s before)) :
    (run back s (before ++ [move])).folders = (run withdraw s (before ++ [move])).folders ↔
      ∀ label outcome, move = .reply label outcome → isRefusal outcome = true →
        (run withdraw s before).IsUndisturbed label := by
  have hbefore : IsRun before := hrun.of_isPrefix (List.prefix_append _ _)
  rw [run_snoc, run_snoc]
  cases move with
  | line label text =>
      refine iff_of_true (halike.take label text).folders ?_
      intro other outcome heq
      simp at heq
  | reply label outcome =>
      have hnodup := nodup_pending withdraw_pending s hbefore.toAreFolderLines
      refine (halike.learn_folders_iff (keeps_run s hbefore) hnodup hrun.not_replied_twice).trans ?_
      constructor
      · rintro hundisturbed other result heq
        obtain ⟨rfl, rfl⟩ := Move.reply.inj heq
        exact hundisturbed
      · intro hundisturbed
        exact hundisturbed label outcome rfl

/-- **When going back is withdrawing throughout a run:** where nothing has changed for any line that is refused. -/
theorem folders_run_back_iff (s : Session) {moves : List Move} (hrun : IsRun moves) :
    (∀ before, before <+: moves → (run back s before).folders = (run withdraw s before).folders) ↔
      ∀ before label outcome, before ++ [.reply label outcome] <+: moves → isRefusal outcome = true →
        (run withdraw s before).IsUndisturbed label := by
  induction moves using moves_induction with
  | nil =>
      refine iff_of_true ?_ ?_
      · intro before hbefore
        rw [List.prefix_nil.mp hbefore]
        rfl
      · intro before label outcome hbefore
        simp at hbefore
  | snoc before move ih =>
      have hih := ih (hrun.of_isPrefix (List.prefix_append _ _))
      rw [forall_prefix_snoc, forall_reply_snoc, ← hih]
      refine and_congr_right ?_
      intro hsmaller
      exact folders_snoc_iff s hrun (alike_run s hsmaller)

end Walk

end RemoteShell
