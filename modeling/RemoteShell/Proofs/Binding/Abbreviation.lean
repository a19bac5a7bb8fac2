import RemoteShell.Binding.Bind

/-!
# Short forms of literal arguments

A literal argument is given by writing its name, or the beginning of its name if no other literal argument begins alike.
Names may be beginnings of one another: with `fold` and `folder` declared, the text `fold` is the whole name of the one
and a beginning of the other. The whole name wins, since as a beginning it is not alone.

Main statements:

* `literalMatches_iff`: the texts that stand for an argument.
* `name_eq_of_literalMatches`: arguments for which one text stands have one name.
* `convert_literal_unique`: no token is a value of two literal arguments.
* `literals_unambiguous`: a text stands for one literal argument at most, and a whole name always for its own.
-/

namespace RemoteShell

/-- A short form of an argument: some of its name from the beginning on, with which the name of no other literal argument
begins. -/
structure Abbreviates (arguments : List Argument) (a : Argument) (text : String) : Prop where
  ne_empty : text ≠ ""
  begins : text.toList <+: a.name.toList
  alone : ∀ b ∈ arguments, b.kind = .literal → b.name ≠ a.name → ¬ text.toList <+: b.name.toList

variable {arguments : List Argument} {a b : Argument} {text : String}

theorem startsWith_iff {name : String} : startsWith name text = true ↔ text.toList <+: name.toList :=
  List.isPrefixOf_iff_prefix

/-- **The texts that stand for an argument:** its name and its short forms. -/
theorem literalMatches_iff : literalMatches arguments a text = true ↔ text = a.name ∨ Abbreviates arguments a text := by
  have halone : (!arguments.any fun b => b.name != a.name && b.kind == .literal && startsWith b.name text) = true ↔
      ∀ b ∈ arguments, b.kind = .literal → b.name ≠ a.name → ¬ text.toList <+: b.name.toList := by
    simp only [Bool.not_eq_true', List.any_eq_false, Bool.and_eq_true, bne_iff_ne, beq_iff_eq, startsWith_iff]
    exact ⟨fun h b hb hkind hne hbegins => h b hb ⟨⟨hne, hkind⟩, hbegins⟩,
      fun h b hb hother => h b hb hother.1.2 hother.1.1 hother.2⟩
  rw [literalMatches, Bool.or_eq_true, beq_iff_eq, Bool.and_eq_true, Bool.and_eq_true, bne_iff_ne, startsWith_iff, halone]
  exact or_congr_right ⟨fun h => ⟨h.1.1, h.1.2, h.2⟩, fun h => ⟨⟨h.ne_empty, h.begins⟩, h.alone⟩⟩

/-- A text that stands for an argument begins its name. -/
theorem begins_of_literalMatches (h : literalMatches arguments a text = true) : text.toList <+: a.name.toList := by
  rcases literalMatches_iff.mp h with rfl | hshort
  · exact List.prefix_rfl
  · exact hshort.begins

/-- A short form of one argument does not stand for another. -/
theorem Abbreviates.name_eq (h : Abbreviates arguments a text) (hb : b ∈ arguments) (hkind : b.kind = .literal)
    (hmatch : literalMatches arguments b text = true) : b.name = a.name := by
  refine Decidable.byContradiction fun hne => ?_
  exact h.alone b hb hkind hne (begins_of_literalMatches hmatch)

/-- **Literal arguments for which one text stands have one name.** -/
theorem name_eq_of_literalMatches (ha : a ∈ arguments) (hb : b ∈ arguments) (hkindA : a.kind = .literal)
    (hkindB : b.kind = .literal) (hmatchA : literalMatches arguments a text = true)
    (hmatchB : literalMatches arguments b text = true) : a.name = b.name := by
  rcases literalMatches_iff.mp hmatchA with hnameA | hshortA
  · rcases literalMatches_iff.mp hmatchB with hnameB | hshortB
    · rw [← hnameA, hnameB]
    · exact hshortB.name_eq ha hkindA hmatchA
  · exact (hshortA.name_eq hb hkindB hmatchB).symm

/-- A token is a value of a literal argument only by a text that stands for it. -/
theorem literalMatches_of_convert (hkind : a.kind = .literal) {cwd : String} {token : Token} {value : Value}
    (h : convert arguments cwd a token = .ok value) : literalMatches arguments a token.text = true := by
  have htext : ∀ text, convertText arguments cwd a text = .ok value → literalMatches arguments a text = true := by
    intro text h
    simp only [convertText, hkind] at h
    split at h
    · assumption
    · simp at h
  cases token with
  | word text => exact htext text h
  | quoted q => exact htext q.text h
  | named name value => simp [convert] at h
  | punct mark => simp [convert] at h

/-- **No token is a value of two literal arguments.** -/
theorem convert_literal_unique (hnames : (arguments.map (·.name)).Nodup) (ha : a ∈ arguments) (hb : b ∈ arguments)
    (hkindA : a.kind = .literal) (hkindB : b.kind = .literal) {cwd : String} {token : Token} {value value' : Value}
    (hvalue : convert arguments cwd a token = .ok value) (hvalue' : convert arguments cwd b token = .ok value') :
    a = b :=
  eq_of_nodup_map hnames ha hb (name_eq_of_literalMatches ha hb hkindA hkindB
    (literalMatches_of_convert hkindA hvalue) (literalMatches_of_convert hkindB hvalue'))

/-- **Literal arguments are told apart by their short forms.** A text stands for one of them at most. Each stands for its
whole name, whatever else begins with it. And part of a name from the beginning on stands for the argument exactly if no
other literal argument begins with it. -/
theorem literals_unambiguous (hnames : (arguments.map (·.name)).Nodup) (text : String) :
    (∀ a ∈ arguments, ∀ b ∈ arguments, a.kind = .literal → b.kind = .literal →
        literalMatches arguments a text = true → literalMatches arguments b text = true → a = b) ∧
      (∀ a ∈ arguments, a.kind = .literal → literalMatches arguments a a.name = true) ∧
      ∀ a ∈ arguments, a.kind = .literal → text ≠ a.name →
        (literalMatches arguments a text = true ↔
          text ≠ "" ∧ text.toList <+: a.name.toList ∧
            ∀ b ∈ arguments, b.kind = .literal → b ≠ a → ¬ text.toList <+: b.name.toList) := by
  refine ⟨?_, fun a _ _ => literalMatches_self arguments a, ?_⟩
  · intro a ha b hb hkindA hkindB hmatchA hmatchB
    exact eq_of_nodup_map hnames ha hb (name_eq_of_literalMatches ha hb hkindA hkindB hmatchA hmatchB)
  · intro a ha _ hpart
    have hother : ∀ b ∈ arguments, b ≠ a ↔ b.name ≠ a.name := fun b hb =>
      not_congr ⟨congrArg Argument.name, eq_of_nodup_map hnames hb ha⟩
    rw [literalMatches_iff, or_iff_right hpart]
    constructor
    · intro h
      exact ⟨h.ne_empty, h.begins, fun b hb hkind hne => h.alone b hb hkind ((hother b hb).mp hne)⟩
    · rintro ⟨hsome, hbegins, halone⟩
      exact ⟨hsome, hbegins, fun b hb hkind hne => halone b hb hkind ((hother b hb).mpr hne)⟩

/-- A name that is a beginning of another one still stands for its own argument only, and anything longer for the
other. -/
theorem literals_unambiguous_fold :
    ([Argument.literal "fold", .literal "folder"].map (·.name)).Nodup ∧
      literalMatches [.literal "fold", .literal "folder"] (.literal "fold") "fold" = true ∧
      literalMatches [.literal "fold", .literal "folder"] (.literal "folder") "fold" = false ∧
      literalMatches [.literal "fold", .literal "folder"] (.literal "folder") "folde" = true := by
  have hnames : ([Argument.literal "fold", .literal "folder"].map (·.name)).Nodup := by decide
  obtain ⟨hunique, hwhole, -⟩ := literals_unambiguous hnames "fold"
  obtain ⟨-, -, hpart⟩ := literals_unambiguous hnames "folde"
  have hfold := hwhole (.literal "fold") (by simp) rfl
  refine ⟨hnames, hfold, ?_, ?_⟩
  · refine Bool.eq_false_iff.mpr fun hfolder => ?_
    exact absurd (hunique _ (by simp) _ (by simp) rfl rfl hfold hfolder) (by decide)
  · exact (hpart _ (by simp) rfl (by decide)).mpr ⟨by decide, by decide, by decide⟩

end RemoteShell
