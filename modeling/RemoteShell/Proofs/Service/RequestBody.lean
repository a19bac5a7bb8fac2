import RemoteShell.Commands.Plan
import RemoteShell.Proofs.Json.WellFormed

/-!
# What a request carries

The object that is sent for a call is its parameters, with the operation under `op` and without the members that are
nothing. What is left out is told by the ways through a value: a way follows keys from object to object, and it never
enters a list. Whatever a way leads to in the parameters, it leads to in what is sent, unless that is nothing; so a list
is sent with all that is in it. All of this rests on each key standing once in an object, which holds of the parameters of
every command.

Main statements:

* `prune_prune`: there is nothing left to be left out.
* `find?_pruneMembers`: what is left of a member.
* `follow?_prune`: where a way leads in what is left.
* `isBodyOf_requestBody`, `requestBody_requestBody`: what is sent, and what is sent of that.
* `requestBody_prunes_nulls_only`: both together.
* `Plan.isBodyOf_body`: what a command sends.
-/

namespace RemoteShell

namespace Json

/-- What a way leads to that follows keys from object to object. -/
def follow? (value : Json) : List String → Option Json
  | [] => some value
  | key :: path => (value.get? key).bind (follow? · path)

/-- What parameters give under a key. Parameters that are neither an object nor nothing stand under `params`. -/
def given? (params : Json) (key : String) : Option Json :=
  match params with
  | .obj members => Dict.find? key members
  | .null => none
  | value => if key = "params" then some value else none

/-- **What is sent for an operation with parameters.** -/
structure IsBodyOf (op : String) (params body : Json) : Prop where
  /-- It is an object, and each of its members stands there once. -/
  isObject : ∃ members, body = .obj members
  isWellFormed : body.IsWellFormed
  /-- The operation is the one that was asked for. -/
  op : body.get? "op" = some (.str op)
  /-- A way from another member leads to the same value as in the parameters, unless that is nothing. The value may be a
  list with anything in it. -/
  values : ∀ key ≠ "op", ∀ path value, (∀ members, value ≠ .obj members) →
    (body.follow? (key :: path) = some value ↔
      (params.given? key).bind (follow? · path) = some value ∧ value ≠ .null)
  /-- A way leads to an object where it does in the parameters, even if nothing is left in it. -/
  objects : ∀ key ≠ "op", ∀ path,
    ((∃ members, body.follow? (key :: path) = some (.obj members)) ↔
      ∃ members, (params.given? key).bind (follow? · path) = some (.obj members))
  /-- No way leads to nothing. -/
  noNull : ∀ path, body.follow? path ≠ some .null

/-! ## What is left -/

theorem prune_of_ne_obj {value : Json} (h : ∀ members, value ≠ .obj members) : value.prune = value := by
  cases value with
  | obj members => exact absurd rfl (h members)
  | _ => simp [prune]

/-- Nothing becomes of nothing, and of nothing else. -/
theorem isNull_prune (value : Json) : value.prune.isNull = value.isNull := by
  cases value with
  | obj members => rfl
  | _ => simp [prune]

mutual

/-- **There is nothing left to be left out.** -/
theorem prune_prune : ∀ value : Json, value.prune.prune = value.prune
  | .obj members => by simp [prune, pruneMembers_pruneMembers members]
  | .null => by simp [prune]
  | .bool _ => by simp [prune]
  | .int _ => by simp [prune]
  | .real _ _ => by simp [prune]
  | .str _ => by simp [prune]
  | .arr _ => by simp [prune]

theorem pruneMembers_pruneMembers :
    ∀ members : List (String × Json), pruneMembers (pruneMembers members) = pruneMembers members
  | [] => by simp [pruneMembers]
  | (key, value) :: rest => by
    cases hnull : value.isNull with
    | true => simp [pruneMembers, hnull, pruneMembers_pruneMembers rest]
    | false => simp [pruneMembers, hnull, isNull_prune, prune_prune value, pruneMembers_pruneMembers rest]

end

/-- The keys that are left are some of those that were there. -/
theorem sublist_keys_pruneMembers (members : List (String × Json)) :
    ((pruneMembers members).map Prod.fst).Sublist (members.map Prod.fst) := by
  induction members with
  | nil => simp [pruneMembers]
  | cons entry rest ih =>
      obtain ⟨key, value⟩ := entry
      unfold pruneMembers
      split
      · exact ih.cons key
      · exact ih.cons_cons key

theorem sorted_pruneMembers {members : Dict Json} (h : Dict.Sorted members) : Dict.Sorted (pruneMembers members) := by
  have hkeys : (members.map Prod.fst).Pairwise (· < ·) := List.pairwise_map.mpr h
  exact List.pairwise_map.mp (hkeys.sublist (sublist_keys_pruneMembers members))

/-- **What is left of a member.** -/
theorem find?_pruneMembers {members : Dict Json} (h : Dict.Sorted members) (key : String) :
    Dict.find? key (pruneMembers members) = ((Dict.find? key members).filter (!·.isNull)).map prune := by
  induction members with
  | nil => rfl
  | cons entry rest ih =>
      obtain ⟨k, value⟩ := entry
      obtain ⟨hfirst, hrest⟩ := List.pairwise_cons.mp h
      by_cases hk : k = key
      · subst hk
        -- No other member has the key, so nothing takes the place of a member that is left out.
        have hnone : Dict.find? k rest = none := Dict.find?_eq_none_of_lt hfirst
        cases hnull : value.isNull with
        | true => simp [pruneMembers, hnull, ih hrest, hnone, Dict.find?, Option.filter]
        | false => simp [pruneMembers, hnull, Dict.find?, Option.filter]
      · cases hnull : value.isNull with
        | true => simp [pruneMembers, hnull, ih hrest, hk, Dict.find?]
        | false => simp [pruneMembers, hnull, ih hrest, hk, Dict.find?]

/-- What is left of members that are sent was there, and is not nothing. -/
theorem mem_pruneMembers {members : List (String × Json)} {key : String} {value : Json}
    (h : (key, value) ∈ pruneMembers members) :
    ∃ given, (key, given) ∈ members ∧ given.isNull = false ∧ value = given.prune := by
  induction members with
  | nil => simp [pruneMembers] at h
  | cons first rest ih =>
      obtain ⟨other, given⟩ := first
      unfold pruneMembers at h
      cases hnull : given.isNull with
      | true =>
          rw [if_pos hnull] at h
          obtain ⟨found, hmem, hfound⟩ := ih h
          exact ⟨found, List.mem_cons_of_mem _ hmem, hfound⟩
      | false =>
          rw [if_neg (by simp [hnull])] at h
          rcases List.mem_cons.mp h with heq | h
          · obtain ⟨rfl, rfl⟩ := Prod.mk.inj heq
            exact ⟨given, List.mem_cons_self .., hnull, rfl⟩
          · obtain ⟨found, hmem, hfound⟩ := ih h
            exact ⟨found, List.mem_cons_of_mem _ hmem, hfound⟩

theorem isWellFormed_prune {value : Json} (h : value.IsWellFormed) : value.prune.IsWellFormed := by
  induction h with
  | @obj members hsorted _ ih =>
      rw [prune]
      refine .obj (sorted_pruneMembers hsorted) ?_
      rintro ⟨key, left⟩ hmem
      obtain ⟨given, hgiven, -, rfl⟩ := mem_pruneMembers hmem
      exact ih (key, given) hgiven
  | null | bool | int | real | str => simp [prune]
  | arr hitems => simpa [prune] using .arr hitems

/-! ## Ways -/

theorem get?_prune {value : Json} (h : value.IsWellFormed) (key : String) :
    value.prune.get? key = ((value.get? key).filter (!·.isNull)).map prune := by
  cases h with
  | obj hsorted _ => simpa [prune, get?] using find?_pruneMembers hsorted key
  | _ => simp [prune, get?]

/-- **Where a way leads in what is left of a value,** if there is one. It leads there in the value itself, or it leads to
nothing there. -/
theorem follow?_prune {found : Option Json} (h : ∀ value ∈ found, value.IsWellFormed) (path : List String) :
    ((found.filter (!·.isNull)).map prune).bind (follow? · path) =
      ((found.bind (follow? · path)).filter (!·.isNull)).map prune := by
  induction path generalizing found with
  | nil => simp [follow?]
  | cons key path ih =>
      cases found with
      | none => rfl
      | some value =>
          have hvalue := h value rfl
          cases hnull : value.isNull with
          | true =>
              obtain rfl : value = .null := by
                cases value with
                | null => rfl
                | _ => simp [isNull] at hnull
              rfl
          | false =>
              have hmember : ∀ member ∈ value.get? key, member.IsWellFormed := fun member => hvalue.get?
              have hstep := ih hmember
              simpa [Option.filter, hnull, follow?, get?_prune hvalue] using hstep

/-- What is left is a value that is no object exactly if it was this value, and is not nothing. -/
theorem map_prune_eq_some_iff {found : Option Json} {value : Json} (h : ∀ members, value ≠ .obj members) :
    (found.filter (!·.isNull)).map prune = some value ↔ found = some value ∧ value ≠ .null := by
  constructor
  · intro hleft
    obtain ⟨given, hgiven, rfl⟩ := Option.map_eq_some_iff.mp hleft
    obtain ⟨rfl, hnull⟩ := Option.filter_eq_some_iff.mp hgiven
    have hsame : given.prune = given := by
      refine prune_of_ne_obj ?_
      rintro members rfl
      exact h _ (by rw [prune])
    rw [hsame]
    refine ⟨rfl, ?_⟩
    rintro rfl
    simp [isNull] at hnull
  · rintro ⟨rfl, hne⟩
    have hnull : value.isNull = false := by
      cases value with
      | null => exact absurd rfl hne
      | _ => rfl
    simp [Option.filter, hnull, prune_of_ne_obj h]

/-- What is left is an object exactly if there was one. -/
theorem exists_map_prune_eq_obj_iff {found : Option Json} :
    (∃ members, (found.filter (!·.isNull)).map prune = some (.obj members)) ↔ ∃ members, found = some (.obj members) := by
  constructor
  · rintro ⟨members, hleft⟩
    obtain ⟨given, hgiven, hprune⟩ := Option.map_eq_some_iff.mp hleft
    obtain ⟨rfl, -⟩ := Option.filter_eq_some_iff.mp hgiven
    cases given with
    | obj members => exact ⟨members, rfl⟩
    | _ => simp [prune] at hprune
  · rintro ⟨members, rfl⟩
    exact ⟨pruneMembers members, by simp [Option.filter, isNull, prune]⟩

/-! ## Bodies -/

theorem isWellFormed_paramMembers {params : Json} (h : params.IsWellFormed) :
    (Json.obj (paramMembers params)).IsWellFormed := by
  cases h with
  | obj hsorted hvalues => exact .obj hsorted hvalues
  | null => exact .obj List.Pairwise.nil (by simp [paramMembers])
  | bool | int | real | str => exact .obj (List.pairwise_singleton _ _) (by simp [paramMembers])
  | arr hitems => exact .obj (List.pairwise_singleton _ _) (by simpa [paramMembers] using .arr hitems)

theorem find?_paramMembers (params : Json) (key : String) :
    Dict.find? key (paramMembers params) = params.given? key := by
  cases params <;> simp [paramMembers, given?, Dict.find?, eq_comm]

/-- Where a way leads from a member other than the operation. -/
theorem follow?_requestBody {params : Json} (h : params.IsWellFormed) (op : String) {key : String} (hkey : key ≠ "op")
    (path : List String) :
    (requestBody op params).follow? (key :: path) =
      (((params.given? key).bind (follow? · path)).filter (!·.isNull)).map prune := by
  have hmembers := isWellFormed_paramMembers h
  have hfound : ∀ value ∈ Dict.find? key (paramMembers params), value.IsWellFormed := fun value => hmembers.get?
  have hmember : (requestBody op params).get? key =
      ((Dict.find? key (paramMembers params)).filter (!·.isNull)).map prune := by
    rw [requestBody, prune, get?, find?_pruneMembers (Dict.sorted_insert hmembers.sorted), Dict.find?_insert_of_ne hkey]
  rw [follow?, hmember, follow?_prune hfound, find?_paramMembers]

theorem isWellFormed_requestBody (op : String) {params : Json} (h : params.IsWellFormed) :
    (requestBody op params).IsWellFormed :=
  isWellFormed_prune ((isWellFormed_paramMembers h).insert "op" (.str op))

/-- **A body is sent again as it is.** -/
theorem requestBody_requestBody (op : String) {params : Json} (h : params.IsWellFormed) :
    requestBody op (requestBody op params) = requestBody op params := by
  have hbody : requestBody op params = .obj (pruneMembers (Dict.insert "op" (.str op) (paramMembers params))) := by
    rw [requestBody, prune]
  have hsorted := isWellFormed_requestBody op h
  rw [hbody] at hsorted
  have hop : Dict.find? "op" (pruneMembers (Dict.insert "op" (.str op) (paramMembers params))) = some (.str op) :=
    find?_pruneMembers_str (Dict.find?_insert_self ..)
  rw [hbody, requestBody, paramMembers, Dict.insert_of_find? hsorted.sorted hop, prune, pruneMembers_pruneMembers]

/-- **What is sent for an operation with parameters** is that operation and all that is not nothing. -/
theorem isBodyOf_requestBody (op : String) {params : Json} (h : params.IsWellFormed) :
    IsBodyOf op params (requestBody op params) where
  isObject := ⟨_, by rw [requestBody, prune]⟩
  isWellFormed := isWellFormed_requestBody op h
  op := get?_op_requestBody op params
  values := by
    intro key hkey path value hvalue
    rw [follow?_requestBody h op hkey]
    exact map_prune_eq_some_iff hvalue
  objects := by
    intro key hkey path
    rw [follow?_requestBody h op hkey]
    exact exists_map_prune_eq_obj_iff
  noNull := by
    intro path
    cases path with
    | nil => simp [follow?, requestBody, prune]
    | cons key path =>
        by_cases hkey : key = "op"
        · rw [hkey, follow?, get?_op_requestBody]
          cases path <;> simp [follow?, get?]
        · rw [follow?_requestBody h op hkey]
          intro hnull
          obtain ⟨given, hgiven, hprune⟩ := Option.map_eq_some_iff.mp hnull
          have hkept := (Option.filter_eq_some_iff.mp hgiven).2
          rw [← isNull_prune, hprune] at hkept
          simp [isNull] at hkept

/-- **A request carries what is not nothing, and nothing else,** whatever its parameters are. Sent again, it stays as it
is. -/
theorem requestBody_prunes_nulls_only (op : String) {params : Json} (h : params.IsWellFormed) :
    IsBodyOf op params (requestBody op params) ∧ requestBody op (requestBody op params) = requestBody op params :=
  ⟨isBodyOf_requestBody op h, requestBody_requestBody op h⟩

/-- Of a mailer with an operation of its own and a user name that is nothing, these two are left out. The list is sent
with what is nothing in it. -/
theorem requestBody_prunes_nulls_only_mailer :
    let params := ofMembers [("op", .str "rm"), ("settings", ofMembers [("auth", .bool false), ("username", .null)]),
      ("tags", .arr [.null, ofMembers [("name", .null)]])]
    let body := Json.obj [("op", .str "mkmailer"), ("settings", .obj [("auth", .bool false)]),
      ("tags", .arr [.null, .obj [("name", .null)]])]
    params.IsWellFormed ∧ IsBodyOf "mkmailer" params body ∧ requestBody "mkmailer" body = body := by
  intro params body
  have hsettings : (ofMembers [("auth", .bool false), ("username", .null)]).IsWellFormed :=
    isWellFormed_ofMembers (by simp)
  have htags : (Json.arr [.null, ofMembers [("name", .null)]]).IsWellFormed :=
    .arr (by simp [isWellFormed_ofMembers])
  have hparams : params.IsWellFormed := isWellFormed_ofMembers (by simp [hsettings, htags])
  have hbody : requestBody "mkmailer" params = body := by
    decide +kernel
  have hsent := requestBody_prunes_nulls_only "mkmailer" hparams
  rw [hbody] at hsent
  exact ⟨hparams, hsent⟩

end Json

/-! ## Requests of commands -/

namespace Plan

open Json

theorem isWellFormed_yesOrNothing (flag : Bool) : (yesOrNothing flag).IsWellFormed := by
  cases flag <;> simp [yesOrNothing]

theorem isWellFormed_attributeValue? {args : Arguments} {name : String} {kind : AttributeKind} {value : Json}
    (h : attributeValue? args name kind = some value) : value.IsWellFormed := by
  cases kind with
  | onOff =>
      obtain ⟨flag, -, rfl⟩ := Option.map_eq_some_iff.mp h
      exact .bool flag
  | text =>
      obtain ⟨text, -, rfl⟩ := Option.map_eq_some_iff.mp h
      split
      · exact .null
      · exact .str text

theorem isWellFormed_attributes (args : Arguments) : (Json.arr (attributes args)).IsWellFormed := by
  refine .arr ?_
  intro entry hentry
  obtain ⟨⟨name, kind⟩, -, hsome⟩ := List.mem_filterMap.mp hentry
  obtain ⟨value, hvalue, rfl⟩ := Option.map_eq_some_iff.mp hsome
  exact isWellFormed_ofMembers (by simpa using isWellFormed_attributeValue? hvalue)

section

variable {around : Surroundings} {args : Arguments} {verb : Verb} {call : Call} {task : Task}

theorem isWellFormed_ask {api : Api} {op : String} {params : List (String × Json)} {left : Task}
    (h : .call call task ∈ (ask api op params left).work) (hparams : ∀ entry ∈ params, entry.2.IsWellFormed) :
    call.params.IsWellFormed := by
  cases h
  exact isWellFormed_ofMembers hparams

/-- **The parameters of every command have each key once.** -/
theorem isWellFormed_params (h : .call call task ∈ (ofVerb around args verb).work) : call.params.IsWellFormed := by
  cases verb with
  | help | exit | popd | pwd | dirs | pager | idle | mail => simp [ofVerb, now, write] at h
  | cd | pushd | who => exact isWellFormed_ask h (by simp [IsWellFormed.arr])
  | ls | mkdir | rm | link | mv | chown | setmt | share | unshare | gmove | lspolicy | mkuser | mkgroup | punshare
  | pplist => exact isWellFormed_ask h (by simp [textParam, flagParam])
  | groups | groupsUnder | users | usersUnder | rmgroup | rmgroupUnder =>
      exact isWellFormed_ask h (by simp [groupParams, isWellFormed_yesOrNothing])
  | adduser | rmuser => exact isWellFormed_ask h (by simp [memberParams])
  | lookup =>
      simp only [ofVerb, lookup] at h
      split at h
      · exact isWellFormed_ask h (by simp)
      · exact isWellFormed_ask h (by simp)
      · simp [now] at h
  | pshare =>
      simp only [ofVerb, addPathPolicy] at h
      split at h
      · exact isWellFormed_ask h (by simp [textParam])
      · simp [now] at h
  | ucopy =>
      refine isWellFormed_ask h ?_
      simp only [List.forall_mem_cons, textParam]
      refine ⟨by simp, by simp, by simp, ?_, by simp⟩
      split
      · exact .null
      · refine isWellFormed_ofMembers ?_
        intro entry hentry
        obtain ⟨⟨source, target⟩, -, rfl⟩ := List.mem_map.mp hentry
        exact .str target
  | gattr =>
      simp only [ofVerb, setAttributes] at h
      split at h
      · simp [now] at h
      · exact isWellFormed_ask h (by simp [isWellFormed_attributes])
  | mkmailer =>
      refine isWellFormed_ask h ?_
      simp only [List.forall_mem_cons, textParam]
      exact ⟨by simp, isWellFormed_ofMembers (by simp [filledParam]), by simp⟩

/-- **What a command sends** is the operation that it is on and its parameters. -/
theorem isBodyOf_body (h : .call call task ∈ (ofVerb around args verb).work) : IsBodyOf call.op call.params call.body :=
  isBodyOf_requestBody call.op (isWellFormed_params h)

end

end Plan

end RemoteShell
