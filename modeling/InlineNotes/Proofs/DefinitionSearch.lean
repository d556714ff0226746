import InlineNotes.Proofs.Occurrence

/-!
# Looking for definitions from left to right

Which ids a text defines is said by looking at every place of it. A search goes over the
text once and looks at fewer places. Behind an opener it takes as many id characters as it
can, gives them back one by one until `]:` follows, and resumes behind what it has found.
The colon of a definition is an id character, so the run that is tried first may well be
too long, and every place inside a definition is passed over.

Neither loses anything. An id is followed by a bracket, which is no id character, so only
one run can be followed by `]:`, and it is read in full. No definition starts inside another
one, because an opening bracket is no id character either. So the search finds the
definitions of all places, in their order and each as often as it stands there
(`searchDefinitions_eq`).
-/
namespace InlineNotes

/-- The longest non-empty run of id characters that `]:` follows, and what comes behind
that. Shorter runs are tried after longer ones. -/
def definingRun? : Text → Option (Text × Text)
  | [] => none
  | c :: r =>
    if isIdChar c then
      match definingRun? r with
      | some (run, rest) => some (c :: run, rest)
      | none =>
        match r with
        | ']' :: ':' :: rest => some ([c], rest)
        | _ => none
    else none

/-- The definition that starts here: its id, and what comes behind the colon. -/
def readDefinition? : Text → Option (Text × Text)
  | '[' :: '^' :: r => definingRun? r
  | _ => none

theorem definingRun?_append {id : Text} (h : IsId id) (rest : Text) :
    definingRun? (id ++ ']' :: ':' :: rest) = some (id, rest) := by
  obtain ⟨hne, hchars⟩ := h
  induction id with
  | nil => exact absurd rfl hne
  | cons c id ih =>
    obtain ⟨hc, hid⟩ := List.forall_mem_cons.mp hchars
    by_cases hnil : id = []
    · subst hnil
      simp [definingRun?, hc, Label.not_isIdChar_close]
    · simp [definingRun?, hc, ih hnil hid]

theorem eq_append_of_definingRun? {t id rest : Text} (h : definingRun? t = some (id, rest)) :
    IsId id ∧ t = id ++ ']' :: ':' :: rest := by
  fun_induction definingRun? t generalizing id with
  | case1 => cases h
  | case2 c r hc run rest' hrun ih =>
    cases h
    obtain ⟨hid, rfl⟩ := ih hrun
    exact ⟨⟨List.cons_ne_nil _ _, List.forall_mem_cons.mpr ⟨hc, hid.2⟩⟩, rfl⟩
  | case3 c hc rest' hnone ih =>
    cases h
    exact ⟨⟨List.cons_ne_nil _ _, List.forall_mem_singleton.mpr hc⟩, rfl⟩
  | case4 => cases h
  | case5 => cases h

theorem readDefinition?_eq_some_iff {t id rest : Text} :
    readDefinition? t = some (id, rest) ↔ IsId id ∧ t = Label.write id ++ ':' :: rest := by
  constructor
  · intro h
    unfold readDefinition? at h
    split at h
    · obtain ⟨hid, rfl⟩ := eq_append_of_definingRun? h
      exact ⟨hid, by simp [Label.write, Label.opener]⟩
    · cases h
  · rintro ⟨hid, rfl⟩
    have hrun := definingRun?_append hid rest
    simpa [readDefinition?, Label.write, Label.opener] using hrun

theorem length_lt_of_readDefinition? {t id rest : Text} (h : readDefinition? t = some (id, rest)) :
    rest.length < t.length := by
  obtain ⟨-, rfl⟩ := readDefinition?_eq_some_iff.mp h
  simp only [List.length_append, List.length_cons, Label.length_write]
  omega

/-- The ids of the definitions that are found from left to right. Behind a definition the
search goes on with what follows it. -/
def searchDefinitions : Text → List Text
  | [] => []
  | c :: r =>
    match h : readDefinition? (c :: r) with
    | some (id, rest) =>
      have := length_lt_of_readDefinition? h
      id :: searchDefinitions rest
    | none => searchDefinitions r
  termination_by t => t.length
  decreasing_by
    · assumption
    · simp

/-- Taking the longest run reads the same id as reading the label. -/
theorem definedId?_eq_map_readDefinition? (t : Text) :
    definedId? t = (readDefinition? t).map Prod.fst := by
  apply Option.ext
  intro id
  rw [definedId?_eq_some_iff, Option.map_eq_some_iff]
  constructor
  · rintro ⟨hid, rest, rfl⟩
    exact ⟨(id, rest), readDefinition?_eq_some_iff.mpr ⟨hid, by simp⟩, rfl⟩
  · rintro ⟨⟨id', rest⟩, h, rfl⟩
    obtain ⟨hid, rfl⟩ := readDefinition?_eq_some_iff.mp h
    exact ⟨hid, rest, by simp⟩

/-- No definition starts inside another one. -/
theorem definedIdList_of_readDefinition? {t id rest : Text}
    (h : readDefinition? t = some (id, rest)) : definedIdList t = id :: definedIdList rest := by
  obtain ⟨hid, rfl⟩ := readDefinition?_eq_some_iff.mp h
  have hcolon : definedIdList (':' :: rest) = definedIdList rest :=
    definedIdList_append_of_not_mem (t := [':']) (by decide) rest
  rw [definedIdList_write_append hid, if_pos ⟨rest, rfl⟩, hcolon]
  rfl

/-- The search passes over no definition. -/
theorem searchDefinitions_eq (t : Text) : searchDefinitions t = definedIdList t := by
  fun_induction searchDefinitions t with
  | case1 => rfl
  | case2 c r id rest h _ ih => rw [definedIdList_of_readDefinition? h, ih]
  | case3 c r h ih =>
    rw [definedIdList, definedId?_eq_map_readDefinition?, h, ih]
    rfl

/-- The ids that a text defines are exactly those that stand in a label before a colon
somewhere in it, whatever stands around the label, and the search finds all of them. -/
theorem definedIds_found (t : Text) :
    definedIds t = .ofList (searchDefinitions t) ∧
      ∀ id, id ∈ definedIds t ↔ IsId id ∧ (Label.write id ++ [':']) <:+: t := by
  refine ⟨?_, fun id => mem_definedIds_iff⟩
  rw [definedIds, searchDefinitions_eq]

/-- A definition in a label that fails, one whose id ends in a colon, one behind another, and
an opener that never closes. -/
example :
    searchDefinitions "[^a[^b]:[^c:]:x[^d]:[^d]: [^e [^f]:[^g]".toList =
      ["b".toList, "c:".toList, "d".toList, "d".toList, "f".toList] := by
  decide +kernel

end InlineNotes
