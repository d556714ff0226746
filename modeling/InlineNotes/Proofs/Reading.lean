import InlineNotes.Proofs.Atom

/-!
# Reading a text as tokens

A token of a text is a character, or a label that refers to a footnote which the
text defines, as one thing. `IsReading` says this without reading from left to
right: the tokens spell the text, every place where such a label stands is a
token, and every token that is a label stands at such a place. Each text has
exactly one reading, and protecting references finds it (`isReading_iff`).
-/
namespace InlineNotes
open Atom

abbrev Token := Atom Text

/-- The label refers to a footnote that the document defines. Before a colon it
would be a definition. -/
structure IsKept (document label after : Text) : Prop where
  isLabel : ∃ id, IsId id ∧ label = Label.write id
  defined : (label ++ [':']) <:+: document
  notDefinition : ¬ [':'] <+: after

structure IsReading (t : Text) (tokens : List Token) : Prop where
  spells : writeAll id tokens = t
  token_of_isKept : ∀ before label after, t = before ++ (label ++ after) → IsKept t label after →
    ∃ xs ys, tokens = xs ++ .reference label :: ys ∧ writeAll id xs = before
  isKept_of_token : ∀ xs label ys, tokens = xs ++ .reference label :: ys →
    IsKept t label (writeAll id ys)

theorem mem_definedIdList_iff {t id : Text} :
    id ∈ definedIdList t ↔ IsId id ∧ (Label.write id ++ [':']) <:+: t := by
  induction t with
  | nil => simp [definedIdList, Label.write, Label.opener]
  | cons c r ih =>
    rw [definedIdList, List.mem_append, ih, Option.mem_toList, definedId?_eq_some_iff,
      List.infix_cons_iff, and_or_left]

theorem mem_definedIds_iff {t id : Text} :
    id ∈ definedIds t ↔ IsId id ∧ (Label.write id ++ [':']) <:+: t := by
  rw [definedIds, IdSet.mem_ofList, mem_definedIdList_iff]

theorem readReference?_eq_some_iff {ids : IdSet} {t label rest : Text} :
    readReference? ids t = some (label, rest) ↔
      ∃ id, IsId id ∧ id ∈ ids ∧ label = Label.write id ∧ t = label ++ rest ∧ ¬ [':'] <+: rest := by
  constructor
  · intro h
    unfold readReference? at h
    split at h
    · cases h
    · next id rest' hcolon hr =>
      split at h
      · next hid =>
        cases h
        obtain ⟨hwf, ht⟩ := Label.eq_write_of_read? hr
        refine ⟨id, hwf, hid, rfl, ht, ?_⟩
        intro hc
        obtain ⟨u, rfl⟩ := hc
        exact hcolon u rfl
      · cases h
    · cases h
  · intro h
    obtain ⟨id, hwf, hid, rfl, rfl, hcolon⟩ := h
    unfold readReference?
    rw [Label.read?_write hwf]
    split
    · next h =>
      cases h
      exact absurd ⟨_, rfl⟩ hcolon
    · next h => cases h; rw [if_pos hid]
    · next h => cases h

theorem readReference?_definedIds {document t label rest : Text} :
    readReference? (definedIds document) t = some (label, rest) ↔
      t = label ++ rest ∧ IsKept document label rest := by
  rw [readReference?_eq_some_iff]
  constructor
  · intro h
    obtain ⟨id, hid, hmem, rfl, rfl, hcolon⟩ := h
    exact ⟨rfl, ⟨id, hid, rfl⟩, (mem_definedIds_iff.mp hmem).2, hcolon⟩
  · intro h
    obtain ⟨rfl, ⟨id, hid, rfl⟩, hdef, hcolon⟩ := h
    exact ⟨id, hid, mem_definedIds_iff.mpr ⟨hid, hdef⟩, rfl, rfl, hcolon⟩

/-- A label opens a bracket at its start and nowhere else. -/
theorem open_not_mem_tail_write {id : Text} (h : IsId id) : '[' ∉ (Label.write id).tail := by
  intro hm
  have hid : '[' ∈ id := by simpa [Label.write, Label.opener] using hm
  have hchar := h.2 _ hid
  rw [Label.not_isIdChar_open] at hchar
  cases hchar

/-- Labels do not overlap: what starts with a bracket inside a label and its rest
starts in the rest. -/
theorem eq_append_of_write_append {id before u rest : Text} (h : IsId id) (hb : before ≠ [])
    (hu : u.head? = some '[') (heq : Label.write id ++ rest = before ++ u) :
    ∃ middle, before = Label.write id ++ middle ∧ rest = middle ++ u := by
  rcases List.append_eq_append_iff.mp heq with ⟨x, hx, hr⟩ | ⟨x, hx, hr⟩
  · exact ⟨x, hx, hr⟩
  · cases x with
    | nil => exact ⟨[], by simpa using hx.symm, by simpa using hr.symm⟩
    | cons c x =>
      obtain ⟨d, ds, rfl⟩ := List.exists_cons_of_ne_nil hb
      have hc : c = '[' := by
        rw [hr] at hu
        exact Option.some.inj hu
      refine absurd ?_ (open_not_mem_tail_write h)
      rw [hx, hc]
      simp

/-- The tokens that protecting the references to `ids` makes of a text. -/
def tokensFor (ids : IdSet) (t : Text) : List Token := flatten Reference.label (protectFrom ids 0 t)

section
variable {ids : IdSet}

/-- The numbers of references do not show in the tokens. -/
theorem flatten_protectFrom (i j : Int) (t : Text) :
    flatten Reference.label (protectFrom ids i t) =
      flatten Reference.label (protectFrom ids j t) := by
  fun_induction protectFrom ids i t generalizing j with
  | case1 => simp
  | case2 i c r label rest h ih =>
    rw [protectFrom_of_reference h, flatten_reference, ih (j + 1)]
    rfl
  | case3 i c r h ih => rw [protectFrom_of_char h, flatten_consChar, flatten_consChar, ih j]

@[simp] theorem tokensFor_nil : tokensFor ids [] = [] := by
  simp [tokensFor]

theorem tokensFor_of_reference {t label rest : Text}
    (h : readReference? ids t = some (label, rest)) :
    tokensFor ids t = .reference label :: tokensFor ids rest := by
  rw [tokensFor, protectFrom_of_reference h, flatten_reference, flatten_protectFrom _ 0]
  rfl

theorem tokensFor_of_char {c : Char} {r : Text} (h : readReference? ids (c :: r) = none) :
    tokensFor ids (c :: r) = .char c :: tokensFor ids r := by
  rw [tokensFor, protectFrom_of_char h, flatten_consChar]
  rfl

/-- Induction over the tokens of a text. -/
@[elab_as_elim]
theorem tokensFor_induction {motive : Text → Prop} (nil : motive [])
    (reference : ∀ t label rest, readReference? ids t = some (label, rest) → motive rest → motive t)
    (char : ∀ c r, readReference? ids (c :: r) = none → motive r → motive (c :: r)) (t : Text) :
    motive t :=
  protectFrom.induct ids (fun _ t => motive t) (fun _ => nil)
    (fun _ _ _ label rest h ih => reference _ label rest h ih) (fun _ c r h ih => char c r h ih) 0 t

theorem writeAll_tokensFor (t : Text) : writeAll id (tokensFor ids t) = t := by
  induction t using tokensFor_induction with
  | nil => simp
  | reference t label rest h ih =>
    rw [tokensFor_of_reference h, writeAll_reference, ih]
    exact (eq_append_of_readReference? h).symm
  | char c r h ih => rw [tokensFor_of_char h, writeAll_char, ih]

theorem readReference?_of_token {t label : Text} {xs ys : List Token}
    (h : tokensFor ids t = xs ++ .reference label :: ys) :
    readReference? ids (label ++ writeAll id ys) = some (label, writeAll id ys) := by
  induction t using tokensFor_induction generalizing xs with
  | nil => simp at h
  | reference t label' rest hr ih =>
    rw [tokensFor_of_reference hr] at h
    cases xs with
    | nil =>
      obtain ⟨hlabel, hrest⟩ := List.cons.inj h
      cases hlabel
      rw [← hrest, writeAll_tokensFor, ← eq_append_of_readReference? hr]
      exact hr
    | cons x xs => exact ih (List.cons.inj h).2
  | char c r hr ih =>
    rw [tokensFor_of_char hr] at h
    cases xs with
    | nil => cases h
    | cons x xs => exact ih (List.cons.inj h).2

theorem isLabel_of_mem_tokensFor {t label : Text} (h : .reference label ∈ tokensFor ids t) :
    ∃ id, IsId id ∧ label = Label.write id := by
  obtain ⟨before, after, hsplit⟩ := List.append_of_mem h
  obtain ⟨id, hid, -, rfl, -⟩ := readReference?_eq_some_iff.mp (readReference?_of_token hsplit)
  exact ⟨id, hid, rfl⟩

/-- Wherever a label would be read it is a token. No reading passes over it,
because it starts with the bracket that no other label contains. -/
theorem exists_token_of_readReference? {t before u label rest : Text} (ht : t = before ++ u)
    (h : readReference? ids u = some (label, rest)) :
    ∃ xs ys, tokensFor ids t = xs ++ .reference label :: ys ∧ writeAll id xs = before := by
  induction t using tokensFor_induction generalizing before with
  | nil =>
    obtain ⟨rfl, rfl⟩ := List.nil_eq_append_iff.mp ht
    cases h
  | reference t label' rest' hr ih =>
    by_cases hb : before = []
    · subst hb
      rw [ht, List.nil_append, h] at hr
      cases hr
      rw [ht, List.nil_append]
      exact ⟨[], _, tokensFor_of_reference h, rfl⟩
    · obtain ⟨id, hid, -, rfl, hw, -⟩ := readReference?_eq_some_iff.mp hr
      have hu : u.head? = some '[' := by
        obtain ⟨id, -, -, rfl, rfl, -⟩ := readReference?_eq_some_iff.mp h
        rfl
      obtain ⟨middle, rfl, hrest⟩ := eq_append_of_write_append hid hb hu (hw.symm.trans ht)
      obtain ⟨xs, ys, htokens, hxs⟩ := ih hrest
      refine ⟨.reference (Label.write id) :: xs, ys, ?_, by simp [hxs]⟩
      rw [tokensFor_of_reference hr, htokens]
      rfl
  | char c r hr ih =>
    cases before with
    | nil =>
      rw [ht, List.nil_append, h] at hr
      cases hr
    | cons d before =>
      obtain ⟨rfl, rfl⟩ := List.cons.inj ht
      obtain ⟨xs, ys, htokens, hxs⟩ := ih rfl
      refine ⟨.char c :: xs, ys, ?_, by simp [hxs]⟩
      rw [tokensFor_of_char hr, htokens]
      rfl

/-- The tokens spell the text and are labels just where a reference to `ids` is read. -/
structure FindsReferences (ids : IdSet) (t : Text) (tokens : List Token) : Prop where
  spells : writeAll id tokens = t
  token_of_read : ∀ before u label rest, t = before ++ u →
    readReference? ids u = some (label, rest) →
    ∃ xs ys, tokens = xs ++ .reference label :: ys ∧ writeAll id xs = before
  read_of_token : ∀ xs label ys, tokens = xs ++ .reference label :: ys →
    readReference? ids (label ++ writeAll id ys) = some (label, writeAll id ys)

theorem findsReferences_tokensFor (ids : IdSet) (t : Text) :
    FindsReferences ids t (tokensFor ids t) where
  spells := writeAll_tokensFor t
  token_of_read := fun _ _ _ _ ht hread => exists_token_of_readReference? ht hread
  read_of_token := fun _ _ _ h => readReference?_of_token h

section
variable {t : Text} {tokens : List Token}

/-- Two tokens that start at the same place are the same token. -/
theorem FindsReferences.not_char_of_reference (h : FindsReferences ids t tokens)
    {xs ys xs' ys' : List Token} {c : Char} {label : Text} (hc : tokens = xs ++ .char c :: ys)
    (hr : tokens = xs' ++ .reference label :: ys') : writeAll id xs ≠ writeAll id xs' := by
  intro heq
  have hlabel : label ≠ [] := by
    obtain ⟨id, -, -, rfl, -⟩ :=
      readReference?_eq_some_iff.mp (h.read_of_token xs' label ys' hr)
    simp [Label.write, Label.opener]
  rcases List.append_eq_append_iff.mp (hc.symm.trans hr) with ⟨zs, rfl, hz⟩ | ⟨zs, rfl, hz⟩
  · cases zs with
    | nil => cases (List.cons.inj hz).1
    | cons z zs =>
      obtain ⟨rfl, -⟩ := List.cons.inj hz
      simp at heq
  · cases zs with
    | nil => cases (List.cons.inj hz).1
    | cons z zs =>
      obtain ⟨rfl, -⟩ := List.cons.inj hz
      simp [hlabel] at heq

/-- Such tokens are what protection finds, from any of them on. -/
theorem FindsReferences.eq_tokensFor_of_append (h : FindsReferences ids t tokens)
    {xs ys : List Token} (hxy : tokens = xs ++ ys) : ys = tokensFor ids (writeAll id ys) := by
  induction ys generalizing xs with
  | nil => simp
  | cons y ys ih =>
    have hys : ys = tokensFor ids (writeAll id ys) := by
      apply ih
      rw [hxy]
      exact List.append_cons xs y ys
    cases y with
    | reference label =>
      have hread := h.read_of_token xs label ys hxy
      rw [writeAll_reference, id, tokensFor_of_reference hread, ← hys]
    | char c =>
      have hnone : readReference? ids (c :: writeAll id ys) = none := by
        cases hr : readReference? ids (c :: writeAll id ys) with
        | none => rfl
        | some p =>
          have ht : t = writeAll id xs ++ c :: writeAll id ys := by
            rw [← h.spells, hxy, writeAll_append, writeAll_char]
          obtain ⟨xs', ys', hr', heq⟩ := h.token_of_read _ _ _ _ ht hr
          exact absurd heq.symm (h.not_char_of_reference hxy hr')
      rw [writeAll_char, tokensFor_of_char hnone, ← hys]

theorem findsReferences_iff : FindsReferences ids t tokens ↔ tokens = tokensFor ids t := by
  constructor
  · intro h
    have heq : tokens = tokensFor ids (writeAll id tokens) :=
      h.eq_tokensFor_of_append (List.nil_append tokens).symm
    rwa [h.spells] at heq
  · rintro rfl
    exact findsReferences_tokensFor ids t

end

end

/-- The reading of a text that protecting its references amounts to. -/
def tokensOf (t : Text) : List Token := tokensFor (definedIds t) t

theorem mem_definedIds_of_reference {t i : Text} (h : .reference (Label.write i) ∈ tokensOf t) :
    i ∈ definedIds t := by
  obtain ⟨before, after, hsplit⟩ := List.append_of_mem h
  obtain ⟨id, -, hid, heq, -⟩ := readReference?_eq_some_iff.mp (readReference?_of_token hsplit)
  have hi : i = id := List.append_cancel_left (List.append_cancel_right heq)
  exact hi ▸ hid

/-- A reading finds the references to all footnotes that the text defines. -/
theorem findsReferences_of_isReading {t : Text} {tokens : List Token} (h : IsReading t tokens) :
    FindsReferences (definedIds t) t tokens where
  spells := h.spells
  token_of_read := by
    intro before u label rest ht hread
    obtain ⟨rfl, hkept⟩ := readReference?_definedIds.mp hread
    exact h.token_of_isKept before label rest ht hkept
  read_of_token := fun xs label ys hsplit =>
    readReference?_definedIds.mpr ⟨rfl, h.isKept_of_token xs label ys hsplit⟩

theorem isReading_tokensOf (t : Text) : IsReading t (tokensOf t) where
  spells := writeAll_tokensFor t
  token_of_isKept := fun _ _ _ ht hkept =>
    exists_token_of_readReference? ht (readReference?_definedIds.mpr ⟨rfl, hkept⟩)
  isKept_of_token := fun _ _ _ h => (readReference?_definedIds.mp (readReference?_of_token h)).2

/-- Every text has exactly one reading. -/
theorem isReading_iff {t : Text} {tokens : List Token} :
    IsReading t tokens ↔ tokens = tokensOf t := by
  constructor
  · exact fun h => findsReferences_iff.mp (findsReferences_of_isReading h)
  · rintro rfl
    exact isReading_tokensOf t

end InlineNotes
