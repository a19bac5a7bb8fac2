import Mathlib.Data.List.Induction
import RemoteShell.Schema.Registry

/-!
# What a table of commands knows

A table is built from declarations in any order. Which declarations can be put into a table, and does the table then find
every command under each of its names?

Entries are sorted by name, and then only neighbours are compared. In a sorted list of entries all names are different
exactly if no two neighbours share one, and then the names are strictly increasing. The search by halves needs just that:
an entry in one half is never under a name that has to be in the other.

Main statements:

* `Command.check_eq_ok_iff`: which declarations pass.
* `Registry.repeatedName?_eq_none_iff`: sorted entries have different names if no neighbours share one.
* `Registry.searchByName_eq_some_iff`: the search finds every entry of a strictly increasing list.
* `Registry.build_eq_ok_iff`: which declarations have a table, and which table.
* `Registry.build_tables`: what a table knows of its declarations.
-/

namespace RemoteShell

namespace Command

/-- All names of a declared command. -/
def allNames (c : Command) : List String :=
  c.aliases ++ [c.name]

/-- **A declaration is well formed:** its arguments have different names, and none that is needed and given in order
stands behind one that may be left out. -/
structure IsWellFormed (c : Command) : Prop where
  nodup : (c.arguments.map (·.name)).Nodup
  order : c.arguments.Pairwise fun a b => b.MayFollow a

/-- What an entry tells about a command, under whatever name. -/
structure Presents (entry c : Command) : Prop where
  arguments : entry.arguments = c.arguments
  help : entry.help = c.help
  longHelp : entry.longHelp = c.longHelp
  verb : entry.verb = c.verb

/-- **Which declarations pass.** -/
theorem check_eq_ok_iff {c : Command} : c.check = .ok () ↔ c.IsWellFormed := by
  rw [check, checkArguments_eq_ok_iff]
  constructor
  · rintro ⟨⟨hnodup, -⟩, horder, -⟩
    exact ⟨hnodup, horder⟩
  · intro h
    exact ⟨⟨h.nodup, by simp⟩, h.order, by simp⟩

theorem map_name_entries (c : Command) : c.entries.map (·.name) = c.allNames := by
  simp [entries, allNames, Function.comp_def]

/-- An entry of a command stands under one of its names. -/
theorem presents_of_mem_entries {entry c : Command} (h : entry ∈ c.entries) : entry.Presents c := by
  rcases List.mem_append.mp h with h | h
  · obtain ⟨name, -, rfl⟩ := List.mem_map.mp h
    exact ⟨rfl, rfl, rfl, rfl⟩
  · obtain rfl := List.mem_singleton.mp h
    exact ⟨rfl, rfl, rfl, rfl⟩

theorem Presents.isWellFormed_iff {entry c : Command} (h : entry.Presents c) : entry.IsWellFormed ↔ c.IsWellFormed := by
  constructor
  · intro hentry
    exact ⟨h.arguments ▸ hentry.nodup, h.arguments ▸ hentry.order⟩
  · intro hc
    exact ⟨h.arguments.symm ▸ hc.nodup, h.arguments.symm ▸ hc.order⟩

/-- The entries of a command are as well formed as the command. -/
theorem forall_entries_isWellFormed {c : Command} : (∀ entry ∈ c.entries, entry.IsWellFormed) ↔ c.IsWellFormed := by
  constructor
  · intro h
    exact h c (by simp [entries])
  · intro h entry hentry
    exact (presents_of_mem_entries hentry).isWellFormed_iff.mpr h

end Command

/-- **Declarations that fit into one table:** each is well formed, and no two names of all of them are the same. -/
structure FitTogether (declared : List Command) : Prop where
  wellFormed : ∀ c ∈ declared, c.IsWellFormed
  nodup : (declared.flatMap Command.allNames).Nodup

namespace Registry

/-! ## Sorting -/

theorem insertByName_perm (c : Command) (entries : List Command) : (insertByName c entries).Perm (c :: entries) := by
  induction entries with
  | nil => exact List.Perm.refl _
  | cons d rest ih =>
      unfold insertByName
      split
      · exact List.Perm.refl _
      · exact (ih.cons d).trans (List.Perm.swap c d rest)

/-- Sorting neither loses nor adds an entry. -/
theorem sortByName_perm (entries : List Command) : (sortByName entries).Perm entries := by
  induction entries using List.reverseRecOn with
  | nil => exact List.Perm.refl _
  | append_singleton entries c ih =>
      have hsort : sortByName (entries ++ [c]) = insertByName c (sortByName entries) := by
        simp [sortByName]
      rw [hsort]
      exact ((insertByName_perm c _).trans (ih.cons c)).trans (List.perm_append_singleton c entries).symm

theorem sorted_insertByName {c : Command} {entries : List Command} (h : entries.Pairwise fun d e => d.name ≤ e.name) :
    (insertByName c entries).Pairwise fun d e => d.name ≤ e.name := by
  induction entries with
  | nil => simp [insertByName]
  | cons d rest ih =>
      obtain ⟨hfirst, hrest⟩ := List.pairwise_cons.mp h
      unfold insertByName
      split
      · next hless =>
          refine List.pairwise_cons.mpr ⟨?_, h⟩
          intro e he
          rcases List.mem_cons.mp he with rfl | he
          · exact Std.le_of_lt hless
          · exact Std.le_trans (Std.le_of_lt hless) (hfirst e he)
      · next hless =>
          refine List.pairwise_cons.mpr ⟨?_, ih hrest⟩
          intro e he
          rcases List.mem_cons.mp ((insertByName_perm c rest).mem_iff.mp he) with rfl | he
          · exact Std.not_lt.mp hless
          · exact hfirst e he

/-- Sorted entries are in the order of their names. -/
theorem sorted_sortByName (entries : List Command) : (sortByName entries).Pairwise fun d e => d.name ≤ e.name := by
  induction entries using List.reverseRecOn with
  | nil => exact List.Pairwise.nil
  | append_singleton entries c ih =>
      have hsort : sortByName (entries ++ [c]) = insertByName c (sortByName entries) := by
        simp [sortByName]
      rw [hsort]
      exact sorted_insertByName ih

/-! ## Names that are different -/

/-- Sorted names are strictly increasing exactly if they are different. -/
theorem increasing_iff_nodup {entries : List Command} (h : entries.Pairwise fun d e => d.name ≤ e.name) :
    (entries.Pairwise fun d e => d.name < e.name) ↔ (entries.map (·.name)).Nodup := by
  rw [List.Nodup, List.pairwise_map]
  constructor
  · intro hless
    refine hless.imp ?_
    intro d e hlt heq
    rw [heq] at hlt
    exact String.lt_irrefl _ hlt
  · intro hne
    exact (h.and hne).imp fun ⟨hle, hne⟩ => Std.lt_of_le_of_ne hle hne

/-- **Sorted entries have different names if no two neighbours share one.** -/
theorem repeatedName?_eq_none_iff {entries : List Command} (h : entries.Pairwise fun d e => d.name ≤ e.name) :
    repeatedName? entries = none ↔ entries.Pairwise fun d e => d.name < e.name := by
  induction entries with
  | nil => simp [repeatedName?]
  | cons c rest ih =>
      obtain ⟨hfirst, hrest⟩ := List.pairwise_cons.mp h
      cases rest with
      | nil => simp [repeatedName?]
      | cons d others =>
          rw [repeatedName?, List.pairwise_cons]
          by_cases hsame : c.name = d.name
          · have hnot : ¬ c.name < d.name := hsame ▸ String.lt_irrefl d.name
            rw [if_pos hsame]
            exact iff_of_false (Option.some_ne_none _) fun hless => hnot (hless.1 d List.mem_cons_self)
          · rw [if_neg hsame, ih hrest]
            -- Being less than the next name is being less than all that are no less than it.
            have hnext : c.name < d.name := Std.lt_of_le_of_ne (hfirst d (by simp)) hsame
            refine ⟨fun hless => ⟨?_, hless⟩, fun hless => hless.2⟩
            intro e he
            rcases List.mem_cons.mp he with rfl | he
            · exact hnext
            · exact Std.lt_of_lt_of_le hnext ((List.pairwise_cons.mp hrest).1 e he)

/-! ## Searching -/

/-- **The entry in the middle tells the halves apart:** an entry in front of it has a lesser name, and one from it on has
not. -/
theorem mem_half_cases {entries : List Command} (h : entries.Pairwise fun d e => d.name < e.name) (half : Nat)
    (hhalf : half < entries.length) {c : Command} (hc : c ∈ entries) :
    (c ∈ entries.take half ∧ c.name < entries[half].name) ∨
      (c ∈ entries.drop half ∧ ¬ c.name < entries[half].name) := by
  have hdrop : entries.drop half = entries[half] :: entries.drop (half + 1) := List.drop_eq_getElem_cons hhalf
  rw [← List.take_append_drop half entries] at h hc
  obtain ⟨-, hupper, hacross⟩ := List.pairwise_append.mp h
  rcases List.mem_append.mp hc with hlow | hhigh
  · have hmiddle : entries[half] ∈ entries.drop half := by
      rw [hdrop]
      exact List.mem_cons_self
    exact Or.inl ⟨hlow, hacross c hlow _ hmiddle⟩
  · refine Or.inr ⟨hhigh, ?_⟩
    rw [hdrop] at hhigh hupper
    rcases List.mem_cons.mp hhigh with rfl | hbehind
    · exact String.lt_irrefl _
    · intro hless
      have hgreater : entries[half].name < c.name := (List.pairwise_cons.mp hupper).1 c hbehind
      exact String.lt_irrefl _ (String.lt_trans hless hgreater)

/-- **The search finds every entry of a strictly increasing list,** under its name and no other. -/
theorem searchByName_eq_some_iff {name : String} {entries : List Command}
    (h : entries.Pairwise fun d e => d.name < e.name) {c : Command} :
    searchByName name entries = some c ↔ c ∈ entries ∧ c.name = name := by
  refine ⟨of_searchByName, ?_⟩
  rintro ⟨hmem, rfl⟩
  fun_induction searchByName c.name entries with
  | case1 entries hlen half hless ih =>
      have hlow : c ∈ entries.take (entries.length - half) := by
        rcases mem_half_cases h half (by omega) hmem with ⟨hlow, -⟩ | ⟨-, hnot⟩
        · exact List.take_subset_take_left entries (by omega) hlow
        · exact absurd hless hnot
      exact ih (h.sublist (List.take_sublist _ _)) hlow
  | case2 entries hlen half hless ih =>
      have hhigh : c ∈ entries.drop half := by
        rcases mem_half_cases h half (by omega) hmem with ⟨-, hlow⟩ | ⟨hhigh, -⟩
        · exact absurd hlow hless
        · exact hhigh
      exact ih (h.sublist (List.drop_sublist _ _)) hhigh
  | case3 entries hlen =>
      -- The only entry that is left is the one looked for.
      match entries, hlen, hmem with
      | [d], _, hmem =>
        obtain rfl := List.mem_singleton.mp hmem
        simp
      | d :: e :: rest, hlen, _ => exact absurd (by simp) hlen

/-! ## Building -/

theorem forM_check_eq_ok_iff (entries : List Command) :
    entries.forM Command.check = .ok () ↔ ∀ entry ∈ entries, entry.IsWellFormed := by
  induction entries with
  | nil => simp [List.forM, pure, Except.pure]
  | cons c rest ih =>
      rw [List.forall_mem_cons, ← ih, ← Command.check_eq_ok_iff]
      cases hcheck : c.check with
      | error e => simp [List.forM, bind, Except.bind, hcheck]
      | ok passed => simp [List.forM, bind, Except.bind, hcheck]

/-- The names of all entries are those of the declarations. -/
theorem map_name_flatMap_entries (declared : List Command) :
    (declared.flatMap Command.entries).map (·.name) = declared.flatMap Command.allNames := by
  rw [List.map_flatMap]
  simp only [Command.map_name_entries]

/-- No name is shared by two neighbours in a table exactly if all names of the declarations are different. -/
theorem repeatedName?_sortByName_eq_none_iff (declared : List Command) :
    repeatedName? (sortByName (declared.flatMap Command.entries)) = none ↔
      (declared.flatMap Command.allNames).Nodup := by
  have hsorted := sorted_sortByName (declared.flatMap Command.entries)
  have hperm := (sortByName_perm (declared.flatMap Command.entries)).map (·.name)
  rw [repeatedName?_eq_none_iff hsorted, increasing_iff_nodup hsorted, hperm.nodup_iff, map_name_flatMap_entries]

/-- **Which declarations have a table, and which table:** they have to fit together, and the table is that of their
entries in the order of their names. -/
theorem build_eq_ok_iff {declared : List Command} {r : Registry} :
    build declared = .ok r ↔
      FitTogether declared ∧ r = { commands := sortByName (declared.flatMap Command.entries) } := by
  have hcheck : (declared.flatMap Command.entries).forM Command.check = .ok () ↔ ∀ c ∈ declared, c.IsWellFormed := by
    rw [forM_check_eq_ok_iff, List.forall_mem_flatMap]
    simp only [Command.forall_entries_isWellFormed]
  have hnames := repeatedName?_sortByName_eq_none_iff declared
  unfold build
  cases hforM : (declared.flatMap Command.entries).forM Command.check with
  | error e =>
      have hill : ¬ FitTogether declared := by
        intro hfit
        rw [hcheck.mpr hfit.wellFormed] at hforM
        cases hforM
      simp [bind, Except.bind, hforM, hill]
  | ok passed =>
      cases hrepeated : repeatedName? (sortByName (declared.flatMap Command.entries)) with
      | some name =>
          have hill : ¬ FitTogether declared := by
            intro hfit
            rw [hnames.mpr hfit.nodup] at hrepeated
            cases hrepeated
          simp [bind, Except.bind, hforM, hrepeated, hill]
      | none =>
          have hfit : FitTogether declared := ⟨hcheck.mp hforM, hnames.mp hrepeated⟩
          simp [bind, Except.bind, hforM, hrepeated, hfit, eq_comm]

/-- What a table knows of its declarations. -/
structure Tables (r : Registry) (declared : List Command) : Prop where
  /-- The table holds the entries of the declarations and nothing else. -/
  entries : r.commands.Perm (declared.flatMap Command.entries)
  /-- The names are strictly increasing. -/
  increasing : r.commands.Pairwise fun c d => c.name < d.name
  /-- A command is found under each of its names. -/
  found : ∀ d ∈ declared, ∀ name ∈ d.allNames, ∃ c, r.lookup name = some c ∧ c.name = name ∧ c.Presents d
  /-- Nothing is found under any other name. -/
  missing : ∀ name, (∀ d ∈ declared, name ∉ d.allNames) → r.lookup name = none
  /-- The names that are offered for a beginning are those that begin so. -/
  offered : ∀ start name, name ∈ r.namesWithPrefix start ↔
    (∃ d ∈ declared, name ∈ d.allNames) ∧ start.toList <+: name.toList
  /-- They are offered in increasing order. -/
  offered_increasing : ∀ start, (r.namesWithPrefix start).Pairwise (· < ·)

/-- The names of a table are those of the declarations. -/
theorem mem_names_iff {declared : List Command} {r : Registry} (h : r.commands.Perm (declared.flatMap Command.entries))
    {name : String} : name ∈ r.names ↔ ∃ d ∈ declared, name ∈ d.allNames := by
  rw [names, (h.map _).mem_iff, map_name_flatMap_entries, List.mem_flatMap]

/-- **A table of entries with strictly increasing names knows all that is declared.** -/
theorem tables_of_increasing {declared : List Command} {r : Registry}
    (hperm : r.commands.Perm (declared.flatMap Command.entries))
    (hincreasing : r.commands.Pairwise fun d e => d.name < e.name) : r.Tables declared := by
  refine ⟨hperm, hincreasing, ?_, ?_, ?_, ?_⟩
  · intro d hd name hname
    rw [← Command.map_name_entries] at hname
    obtain ⟨c, hc, rfl⟩ := List.mem_map.mp hname
    have hmem : c ∈ declared.flatMap Command.entries := List.mem_flatMap.mpr ⟨d, hd, hc⟩
    refine ⟨c, ?_, rfl, Command.presents_of_mem_entries hc⟩
    exact (searchByName_eq_some_iff hincreasing).mpr ⟨hperm.mem_iff.mpr hmem, rfl⟩
  · intro name hname
    rw [Option.eq_none_iff_forall_ne_some]
    intro c hc
    obtain ⟨hmem, rfl⟩ := (searchByName_eq_some_iff hincreasing).mp hc
    obtain ⟨d, hd, hdname⟩ := (mem_names_iff hperm).mp (List.mem_map_of_mem hmem)
    exact hname d hd hdname
  · intro start name
    rw [mem_namesWithPrefix_iff, mem_names_iff hperm]
  · intro start
    exact (List.pairwise_map.mpr hincreasing).filter _

/-- **A table is built exactly if the declarations fit together,** and then it knows all of them. -/
theorem build_tables (declared : List Command) :
    match build declared with
    | .ok r => FitTogether declared ∧ r.Tables declared
    | .error _ => ¬ FitTogether declared := by
  cases hbuild : build declared with
  | ok r =>
      obtain ⟨hfit, rfl⟩ := build_eq_ok_iff.mp hbuild
      refine ⟨hfit, tables_of_increasing (sortByName_perm _) ?_⟩
      have hsorted := sorted_sortByName (declared.flatMap Command.entries)
      exact (repeatedName?_eq_none_iff hsorted).mp ((repeatedName?_sortByName_eq_none_iff declared).mpr hfit.nodup)
  | error e =>
      intro hfit
      rw [build_eq_ok_iff.mpr ⟨hfit, rfl⟩] at hbuild
      cases hbuild

/-- A further name that is the name of another command is refused, in whatever order the two are declared. -/
example :
    let listing : Command := { name := "ls", help := "list files", aliases := ["dir", "ll"] }
    let change : Command := { name := "dir", help := "change directory" }
    build [listing, change] = .error (.duplicateCommand "dir") ∧
      build [change, listing] = .error (.duplicateCommand "dir") := by
  decide +kernel

end Registry

end RemoteShell
