import InlineNotes.Proofs.Factorisation
import InlineNotes.Proofs.Occurrence

/-!
# Which definitions a conversion leaves

A converted document has the definitions that the conversion has written, one for
each footnote, and those that stand in a body or in a footnote that never closes.
There are no others. Outside footnotes every `[^id]:` of the document opens a
footnote and is gone; a reference that is kept stands before no colon, and putting
a label behind it or before it does not change that. Only a label that the
conversion has put before a colon reads as a definition, and its id is defined
anyway.

The definitions are listed part by part (`definedIdList_converted`), so each
place where one stands is accounted for.
-/
namespace InlineNotes
open Atom

/-- Plain tokens in which no label stands before a colon. -/
structure Undefining (as : List Token) : Prop where
  plain : Plain as
  isLabel : ∀ label, .reference label ∈ as → ∃ id, IsId id ∧ label = Label.write id
  notDefinition : ∀ xs label ys, as = xs ++ .reference label :: ys → ¬ [':'] <+: writeAll id ys

theorem Undefining.tail {a : Token} {as : List Token} (h : Undefining (a :: as)) :
    Undefining as where
  plain := (plain_cons_iff.mp h.plain).2
  isLabel := fun label hl => h.isLabel label (List.mem_cons_of_mem _ hl)
  notDefinition := fun xs label ys hxy => h.notDefinition (a :: xs) label ys (by rw [hxy]; rfl)

/-- The plain parts of a document. -/
theorem IsReading.undefining {t : Text} {tokens as : List Token} (h : IsReading t tokens)
    (hplain : Plain as) (hi : as <:+: tokens) : Undefining as where
  plain := hplain
  isLabel := by
    intro label hl
    obtain ⟨xs, ys, hxy⟩ := List.append_of_mem (hi.subset hl)
    exact (h.isKept_of_token xs label ys hxy).isLabel
  notDefinition := by
    rintro xs label ys rfl hcolon
    obtain ⟨before, after, rfl⟩ := hi
    have hkept := h.isKept_of_token (before ++ xs) label (ys ++ after) (by simp)
    refine hkept.notDefinition (hcolon.trans ?_)
    rw [writeAll_append]
    exact List.prefix_append _ _

/-- What follows a plain part does not go on with an opener or a definition. -/
def Closes (rest : Text) : Prop := ∀ c r, rest = c :: r → c ≠ '^' ∧ c ≠ ':'

theorem closes_cons {c : Char} (h : c ≠ '^' ∧ c ≠ ':') (rest : Text) : Closes (c :: rest) := by
  intro d r hd
  obtain ⟨rfl, -⟩ := List.cons.inj hd
  exact h

theorem closes_write_append (i rest : Text) : Closes (Label.write i ++ rest) :=
  closes_cons (by decide) _

section
variable {rest : Text}

theorem not_opener_prefix_of_undefining {c : Char} {as : List Token}
    (h : Undefining (.char c :: as)) (hrest : Closes rest) :
    ¬ Label.opener <+: c :: (writeAll id as ++ rest) := by
  intro ho
  obtain ⟨r, hr⟩ := ho
  have hsplit : '[' = c ∧ '^' :: r = writeAll id as ++ rest := List.cons.inj hr
  obtain ⟨rfl, hcaret⟩ := hsplit
  cases as with
  | nil => exact (hrest '^' r hcaret.symm).1 rfl
  | cons a as =>
    cases a with
    | char d =>
      obtain ⟨rfl, -⟩ := List.cons.inj hcaret
      exact h.plain ⟨[], as, rfl⟩
    | reference label =>
      obtain ⟨i, -, rfl⟩ := h.isLabel label (by simp)
      cases hcaret

theorem not_colon_prefix_of_undefining {label : Text} {as : List Token}
    (h : Undefining (.reference label :: as)) (hrest : Closes rest) :
    ¬ [':'] <+: writeAll id as ++ rest := by
  intro hcolon
  obtain ⟨r, hr⟩ := hcolon
  cases has : writeAll id as with
  | nil =>
    rw [has] at hr
    exact (hrest ':' r hr.symm).2 rfl
  | cons c t =>
    rw [has] at hr
    obtain ⟨rfl, -⟩ := List.cons.inj hr
    exact h.notDefinition [] label as rfl (by rw [has]; exact ⟨t, rfl⟩)

/-- A plain part has no definitions, and none starts in it. -/
theorem definedIdList_writeAll_append {as : List Token} (h : Undefining as) (hrest : Closes rest) :
    definedIdList (writeAll id as ++ rest) = definedIdList rest := by
  induction as with
  | nil => rfl
  | cons a as ih =>
    cases a with
    | char c =>
      have hnone : definedId? (c :: (writeAll id as ++ rest)) = none := by
        cases hdef : definedId? (c :: (writeAll id as ++ rest)) with
        | none => rfl
        | some i =>
          exact absurd (opener_prefix_of_definedId? hdef) (not_opener_prefix_of_undefining h hrest)
      rw [writeAll_char, List.cons_append, definedIdList, hnone, ih h.tail]
      rfl
    | reference label =>
      obtain ⟨i, hi, rfl⟩ := h.isLabel label List.mem_cons_self
      have hcolon := not_colon_prefix_of_undefining h hrest
      rw [writeAll_reference, id, List.append_assoc, definedIdList_write_append hi, if_neg hcolon,
        ih h.tail]
      rfl

end

/-- Plain parts, each with a label behind it. Only the labels can be definitions. -/
theorem definedIdList_marks {parts : List (List Token × Text)}
    (hparts : ∀ p ∈ parts, Undefining p.1 ∧ IsId p.2) (rest : Text) :
    ∃ marks, marks.Sublist (parts.map (·.2)) ∧
      definedIdList (parts.flatMap (fun p => writeAll id p.1 ++ Label.write p.2) ++ rest) =
        marks ++ definedIdList rest := by
  induction parts with
  | nil => exact ⟨[], .slnil, rfl⟩
  | cons p parts ih =>
    obtain ⟨⟨hplain, hid⟩, hrest⟩ := List.forall_mem_cons.mp hparts
    obtain ⟨marks, hsub, hlist⟩ := ih hrest
    rw [List.flatMap_cons, List.append_assoc, List.append_assoc,
      definedIdList_writeAll_append hplain (closes_write_append _ _),
      definedIdList_write_append hid, hlist]
    split
    · exact ⟨p.2 :: marks, hsub.cons_cons p.2, rfl⟩
    · exact ⟨marks, hsub.cons p.2, rfl⟩

theorem definedIdList_definition {i : Text} (hid : IsId i) (body rest : Text) :
    definedIdList (Label.write i ++ [':', ' '] ++ body ++ ['\n'] ++ rest) =
      (i :: definedIdList body) ++ definedIdList rest := by
  have htext : Label.write i ++ [':', ' '] ++ body ++ ['\n'] ++ rest =
      Label.write i ++ ([':'] ++ ' ' :: (body ++ '\n' :: rest)) := by
    simp
  have hbody : definedIdList (body ++ '\n' :: rest) = definedIdList body ++ definedIdList rest :=
    definedIdList_append_cons (by decide) (by decide) body rest
  have hblank : definedIdList ([':'] ++ ' ' :: (body ++ '\n' :: rest)) =
      definedIdList [':'] ++ definedIdList (body ++ '\n' :: rest) :=
    definedIdList_append_cons (by decide) (by decide) _ _
  rw [htext, definedIdList_write_append hid, if_pos ⟨_, rfl⟩, hblank, hbody]
  rfl

/-- The block defines the ids of the footnotes and what their bodies define. -/
theorem definedIdList_definitionsText {notes : List (Text × Text)} (hids : ∀ p ∈ notes, IsId p.1)
    (t : Text) :
    definedIdList (t ++ definitionsText notes) =
      definedIdList t ++ notes.flatMap fun p => p.1 :: definedIdList p.2 := by
  have hblock : ∀ ps : List (Text × Text), (∀ p ∈ ps, IsId p.1) →
      definedIdList (ps.flatMap fun p => Label.write p.1 ++ [':', ' '] ++ p.2 ++ ['\n']) =
        ps.flatMap fun p => p.1 :: definedIdList p.2 := by
    intro ps hps
    induction ps with
    | nil => rfl
    | cons p ps ih =>
      obtain ⟨hp, hrest⟩ := List.forall_mem_cons.mp hps
      rw [List.flatMap_cons, definedIdList_definition hp, ih hrest, List.flatMap_cons]
  unfold definitionsText
  split
  · next h => rw [h]; simp
  · have hline : ∀ t u : Text,
        definedIdList (t ++ '\n' :: u) = definedIdList t ++ definedIdList u :=
      definedIdList_append_cons (by decide) (by decide)
    have hempty : ∀ u : Text, definedIdList ('\n' :: u) = definedIdList u := hline []
    rw [List.cons_append, List.cons_append, List.nil_append, hline, hempty, hblock notes hids]

namespace Factorisation

section
variable {t : Text} {f : Factorisation} (h : f.Splits (tokensOf t))
include h

theorem Splits.undefining_before {span : List Token × List Token} (hspan : span ∈ f.spans) :
    Undefining span.1 :=
  (isReading_tokensOf t).undefining (h.plain_before _ hspan)
    (h.tokens_eq ▸ (infix_tokens hspan).1)

theorem Splits.undefining_last : Undefining f.last :=
  (isReading_tokensOf t).undefining h.plain_last (h.tokens_eq ▸ f.last_infix_tokens)

end

theorem Splits.closes_tail {ts : List Token} {f : Factorisation} (h : f.Splits ts) (rest : Text)
    (hrest : Closes rest) : Closes (writeAll id f.tail ++ rest) := by
  rcases h.unclosed with hnil | ⟨inside, hopen, -⟩
  · rw [hnil]
    exact hrest
  · rw [hopen]
    exact closes_cons (by decide) _

theorem Splits.closes_writeAll_tail {ts : List Token} {f : Factorisation} (h : f.Splits ts) :
    Closes (writeAll id f.tail) := by
  have hcloses := h.closes_tail [] fun _ _ hc => nomatch hc
  rwa [List.append_nil] at hcloses

/-- The definitions of a converted document, from left to right. -/
theorem definedIdList_converted {stem t : Text} (hstem : IsId stem) {f : Factorisation}
    (h : f.Splits (tokensOf t)) :
    ∃ marks, marks.Sublist ((f.notes stem).map (·.1)) ∧
      definedIdList (f.converted stem) = marks ++ definedIdList (writeAll id f.tail) ++
        (f.notes stem).flatMap fun p => p.1 :: definedIdList p.2 := by
  let parts := (f.spans.zipIdx 1).map fun p => (p.1.1, numberedId stem p.2)
  have hparts : ∀ p ∈ parts, Undefining p.1 ∧ IsId p.2 :=
    List.forall_mem_map.mpr fun p hp =>
      ⟨h.undefining_before (List.fst_mem_of_mem_zipIdx hp), isId_numberedId hstem p.2⟩
  have hids : ∀ p ∈ f.notes stem, IsId p.1 :=
    List.forall_mem_map.mpr fun p _ => isId_numberedId hstem p.2
  have hmarked : f.marked stem = parts.flatMap (fun p => writeAll id p.1 ++ Label.write p.2) ++
      (writeAll id f.last ++ writeAll id f.tail) := by
    simp [marked, parts, List.flatMap_map]
  obtain ⟨marks, hsub, hmarks⟩ :=
    definedIdList_marks hparts (writeAll id f.last ++ writeAll id f.tail)
  refine ⟨marks, ?_, ?_⟩
  · simpa [parts, notes, Function.comp_def] using hsub
  · rw [converted, definedIdList_definitionsText hids, hmarked, hmarks,
      definedIdList_writeAll_append h.undefining_last h.closes_writeAll_tail]

end Factorisation

/-- The ids are numbered from one on. -/
theorem Factorisation.keys_notes (stem : Text) (f : Factorisation) :
    (f.notes stem).map (·.1) =
      (List.range f.spans.length).map fun k : Nat => numberedId stem (k + 1 : Nat) := by
  have hrange : (List.range f.spans.length).map (· + 1) = (f.spans.zipIdx 1).map (·.2) := by
    rw [List.zipIdx_map_snd, List.range'_eq_map_range]
    exact List.map_congr_left fun k _ => Nat.add_comm k 1
  have hsucc : (List.range f.spans.length).map (fun k : Nat => numberedId stem (k + 1 : Nat)) =
      ((List.range f.spans.length).map (· + 1)).map fun n : Nat => numberedId stem n := by
    rw [List.map_map]
    rfl
  rw [hsucc, hrange, notes, List.map_map, List.map_map]
  rfl

/-- The definitions of a converted document are those of its footnotes, of their
bodies and of the footnote that never closes. In the text they come in this order:
labels that stand before a colon, the tail, and then each footnote with its body. -/
theorem convert_definedIds {stem t : Text} {limit : Option Int} (hstem : IsId stem)
    (hlimit : ∀ m ∈ limit, (t.length : Int) ≤ m) :
    ∃ (r : Conversion) (f : Factorisation), convert stem limit t = .ok r ∧
      (∀ g : Factorisation, g.Splits (tokensOf t) ↔ g = f) ∧
      r.notes.keys =
        (List.range f.spans.length).map (fun k : Nat => numberedId stem (k + 1 : Nat)) ∧
      (∀ i, i ∈ definedIds r.text ↔ i ∈ r.notes.keys ∨
        (∃ p ∈ r.notes.entries, i ∈ definedIds p.2) ∨ i ∈ definedIds (writeAll id f.tail)) ∧
      ∃ marks, marks.Sublist r.notes.keys ∧
        definedIdList r.text = marks ++ definedIdList (writeAll id f.tail) ++
          r.notes.entries.flatMap fun p => p.1 :: definedIdList p.2 := by
  obtain ⟨f, hf⟩ := Factorisation.exists_splits (tokensOf t)
  obtain ⟨hnotes, htext⟩ := Factorisation.convertValid_of_splits stem hf
  obtain ⟨marks, hsub, hlist⟩ := Factorisation.definedIdList_converted hstem hf
  rw [← hnotes, ← htext] at hlist
  rw [← hnotes] at hsub
  refine ⟨convertValid stem t, f, convert_eq_ok hstem hlimit,
    fun g => ⟨fun hg => hg.unique hf, fun hg => hg ▸ hf⟩, ?_, ?_, marks, hsub, hlist⟩
  · rw [Table.keys, hnotes]
    exact f.keys_notes stem
  · intro i
    have hmarks : i ∈ marks → i ∈ (convertValid stem t).notes.keys := fun h => hsub.subset h
    simp only [definedIds, IdSet.mem_ofList, hlist, List.mem_append, List.mem_flatMap,
      List.mem_cons]
    constructor
    · rintro ((hi | hi) | ⟨p, hp, rfl | hi⟩)
      · exact Or.inl (hmarks hi)
      · exact Or.inr (Or.inr hi)
      · exact Or.inl (List.mem_map_of_mem hp)
      · exact Or.inr (Or.inl ⟨p, hp, hi⟩)
    · rintro (hi | ⟨p, hp, hi⟩ | hi)
      · obtain ⟨p, hp, rfl⟩ := List.mem_map.mp hi
        exact Or.inr ⟨p, hp, Or.inl rfl⟩
      · exact Or.inr ⟨p, hp, Or.inr hi⟩
      · exact Or.inl (Or.inr hi)

/-- A definition that is read as a footnote and leaves a reference without one, a
definition in a body, and one in a footnote that never closes. -/
theorem convert_definedIds_dangling :
    let t : Text := "[^r]: [^r][^a[^s]:][^o[^u]:".toList
    let stem : Text := "n".toList
    (IsId stem ∧ ∀ m ∈ some 27, (t.length : Int) ≤ m) ∧
      ∃ r, convert stem (some 27) t = .ok r ∧ "[^r]".toList ∈ r.kept ∧
        (definedIds r.text).toList = ["n1".toList, "n2".toList, "s".toList, "u".toList] ∧
        "s".toList ∈ definedIds r.text := by
  intro t stem
  have hstem : IsId stem := by decide
  have hlimit : ∀ m ∈ some 27, (t.length : Int) ≤ m := by
    intro m hm
    cases hm
    decide
  obtain ⟨r, f, hr, -, -, hdefined, -⟩ := convert_definedIds hstem hlimit
  have hr' := hr
  rw [convert_eq_ok hstem hlimit] at hr'
  cases hr'
  refine ⟨⟨hstem, hlimit⟩, _, hr, by decide +kernel, by decide +kernel, ?_⟩
  refine (hdefined _).mpr (Or.inr (Or.inl ⟨("n2".toList, "a[^s]:".toList), ?_, ?_⟩))
  · decide +kernel
  · decide +kernel

end InlineNotes
