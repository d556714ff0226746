import Mathlib.Data.List.Infix
import InlineNotes.Proofs.Factorisation
import InlineNotes.Proofs.Occurrence
import InlineNotes.Proofs.References

/-!
# Conversion piece by piece

A document that is cut at the end of a line can be converted piece by piece, if no
footnote is open there and the two pieces do not need each other's definitions:
what one of them refers to and the other defines, it defines itself. No label lies
across the end of a line, so then the tokens of the document are those of its
pieces (`tokensOf_append`). The walk over them stands outside at the seam and goes
on with the next number, as if the first piece had never been there
(`convert_append`).
-/
namespace InlineNotes
open Atom

/-- The id stands in a label that no colon follows. -/
def RefersTo (t id : Text) : Prop :=
  ∃ before after, t = before ++ (Label.write id ++ after) ∧ ¬ [':'] <+: after

/-- What the text refers to and the other text defines, it defines itself. -/
def Resolves (t other : Text) : Prop :=
  ∀ id, RefersTo t id → id ∈ definedIds other → id ∈ definedIds t

/-- A label without a colon refers and one with a colon defines. -/
theorem resolves_iff {t other : Text} : Resolves t other ↔
    ∀ id ∈ (definedIds other).toList, Label.write id <:+: t → id ∈ definedIds t := by
  constructor
  · rintro h id hid ⟨before, after, rfl⟩
    rw [List.append_assoc] at h ⊢
    by_cases hcolon : [':'] <+: after
    · obtain ⟨r, rfl⟩ := hcolon
      refine mem_definedIds_iff.mpr ⟨(mem_definedIds_iff.mp hid).1, before, r, ?_⟩
      simp
    · exact h id ⟨before, after, rfl, hcolon⟩ hid
  · rintro h id ⟨before, after, rfl, -⟩ hid
    exact h id hid ⟨before, after, by simp⟩

instance (t other : Text) : Decidable (Resolves t other) := decidable_of_iff' _ resolves_iff

theorem isKept_iff {document label after : Text} : IsKept document label after ↔
    ∃ id, label = Label.write id ∧ id ∈ definedIds document ∧ ¬ [':'] <+: after := by
  constructor
  · intro h
    obtain ⟨⟨id, hid, rfl⟩, hdef, hcolon⟩ := h
    exact ⟨id, rfl, mem_definedIds_iff.mpr ⟨hid, hdef⟩, hcolon⟩
  · rintro ⟨id, rfl, hdef, hcolon⟩
    obtain ⟨hid, hdef⟩ := mem_definedIds_iff.mp hdef
    exact ⟨⟨id, hid, rfl⟩, hdef, hcolon⟩

/-- A member of two lists is in the first or in the second. -/
theorem exists_side_of_append_eq {α : Type} {as bs xs ys : List α} {a : α}
    (h : as ++ bs = xs ++ a :: ys) :
    (∃ zs, as = xs ++ a :: zs ∧ ys = zs ++ bs) ∨ ∃ zs, bs = zs ++ a :: ys := by
  rcases List.append_eq_append_iff.mp h with ⟨zs, -, hbs⟩ | ⟨zs, has, hys⟩
  · exact Or.inr ⟨zs, hbs⟩
  · cases zs with
    | nil => exact Or.inr ⟨[], hys.symm⟩
    | cons z zs =>
      have hcons : a = z ∧ ys = zs ++ bs := List.cons.inj hys
      obtain ⟨rfl, hzs⟩ := hcons
      exact Or.inl ⟨zs, has, hzs⟩

section
variable {t u : Text}

theorem definedIdList_append_of_line (h : ['\n'] <:+ t) :
    definedIdList (t ++ u) = definedIdList t ++ definedIdList u := by
  obtain ⟨line, rfl⟩ := h
  have hcut : ∀ rest : Text,
      definedIdList (line ++ '\n' :: rest) = definedIdList line ++ definedIdList rest :=
    definedIdList_append_cons (by decide) (by decide) line
  have hline : definedIdList (line ++ ['\n']) = definedIdList line :=
    (hcut []).trans (List.append_nil _)
  rw [List.append_assoc, hline]
  exact hcut u

theorem mem_definedIds_append (h : ['\n'] <:+ t) {id : Text} :
    id ∈ definedIds (t ++ u) ↔ id ∈ definedIds t ∨ id ∈ definedIds u := by
  simp only [definedIds, IdSet.mem_ofList, definedIdList_append_of_line h, List.mem_append]

theorem newline_mem_of_suffix (h : ['\n'] <:+ t) {x : Text} (hx : x <:+ t) (hne : x ≠ []) :
    '\n' ∈ x := by
  rcases List.suffix_or_suffix_of_suffix h hx with hs | hs
  · exact hs.subset List.mem_cons_self
  · obtain ⟨c, hc⟩ := List.exists_mem_of_ne_nil x hne
    exact List.mem_singleton.mp (hs.subset hc) ▸ hc

theorem newline_not_mem_write {id : Text} (hid : IsId id) : '\n' ∉ Label.write id :=
  not_mem_write_of_not_isIdChar hid (by decide) (by decide)

/-- Something follows a label on its line. -/
theorem ne_nil_of_label (h : ['\n'] <:+ t) {id before middle : Text} (hid : IsId id)
    (ht : t = before ++ (Label.write id ++ middle)) : middle ≠ [] := by
  rintro rfl
  rw [List.append_nil] at ht
  have hne : Label.write id ≠ [] := by simp [Label.write, Label.opener]
  exact newline_not_mem_write hid (newline_mem_of_suffix h ⟨before, ht.symm⟩ hne)

/-- A label lies on one side of the end of a line. -/
theorem label_on_one_side (h : ['\n'] <:+ t) {id before after : Text} (hid : IsId id)
    (heq : t ++ u = before ++ (Label.write id ++ after)) :
    (∃ middle, t = before ++ (Label.write id ++ middle) ∧ after = middle ++ u) ∨
      ∃ middle, before = t ++ middle ∧ u = middle ++ (Label.write id ++ after) := by
  rcases List.append_eq_append_iff.mp heq with ⟨x, hbefore, hu⟩ | ⟨x, ht, hx⟩
  · exact Or.inr ⟨x, hbefore, hu⟩
  rcases List.append_eq_append_iff.mp hx with ⟨y, rfl, hafter⟩ | ⟨y, hlabel, hu⟩
  · exact Or.inl ⟨y, ht, hafter⟩
  · by_cases hnil : x = []
    · subst hnil
      exact Or.inr ⟨[], by rw [ht]; simp, by rw [hlabel, hu]; simp⟩
    · have hmem : '\n' ∈ x := newline_mem_of_suffix h ⟨before, ht.symm⟩ hnil
      exact absurd (hlabel ▸ List.mem_append_left y hmem) (newline_not_mem_write hid)

theorem isKept_append_left_iff (h : ['\n'] <:+ t) (hres : Resolves t u) {before label middle : Text}
    (ht : t = before ++ (label ++ middle)) (hmiddle : middle ≠ []) :
    IsKept (t ++ u) label (middle ++ u) ↔ IsKept t label middle := by
  have hcolon : [':'] <+: middle ++ u ↔ [':'] <+: middle := by
    obtain ⟨c, m, rfl⟩ := List.exists_cons_of_ne_nil hmiddle
    simp [List.cons_prefix_cons]
  rw [isKept_iff, isKept_iff, hcolon]
  refine exists_congr fun i => and_congr_right ?_
  rintro rfl
  refine and_congr_left fun hnot => ?_
  rw [mem_definedIds_append h]
  exact ⟨fun hi => hi.elim id (hres i ⟨before, middle, ht, hnot⟩), Or.inl⟩

theorem isKept_append_right_iff (h : ['\n'] <:+ t) (hres : Resolves u t) {before label after : Text}
    (hu : u = before ++ (label ++ after)) : IsKept (t ++ u) label after ↔ IsKept u label after := by
  rw [isKept_iff, isKept_iff]
  refine exists_congr fun i => and_congr_right ?_
  rintro rfl
  refine and_congr_left fun hnot => ?_
  rw [mem_definedIds_append h]
  exact ⟨fun hi => hi.elim (hres i ⟨before, after, hu, hnot⟩) id, Or.inr⟩

/-- The tokens of the pieces are the tokens of the document. -/
theorem tokensOf_append (h : ['\n'] <:+ t) (ht : Resolves t u) (hu : Resolves u t) :
    tokensOf (t ++ u) = tokensOf t ++ tokensOf u := by
  have hreadt := isReading_tokensOf t
  have hreadu := isReading_tokensOf u
  refine (isReading_iff.mp ⟨?_, ?_, ?_⟩).symm
  · rw [writeAll_append, hreadt.spells, hreadu.spells]
  · intro before label after heq hkept
    obtain ⟨i, hi, rfl⟩ := hkept.isLabel
    rcases label_on_one_side h hi heq with ⟨middle, hleft, rfl⟩ | ⟨middle, rfl, hright⟩
    · have hmiddle := ne_nil_of_label h hi hleft
      have hkept' := (isKept_append_left_iff h ht hleft hmiddle).mp hkept
      obtain ⟨xs, ys, htokens, hxs⟩ := hreadt.token_of_isKept _ _ _ hleft hkept'
      exact ⟨xs, ys ++ tokensOf u, by rw [htokens]; simp, hxs⟩
    · have hkept' := (isKept_append_right_iff h hu hright).mp hkept
      obtain ⟨xs, ys, htokens, hxs⟩ := hreadu.token_of_isKept _ _ _ hright hkept'
      exact ⟨tokensOf t ++ xs, ys, by rw [htokens]; simp, by
        rw [writeAll_append, hreadt.spells, hxs]⟩
  · intro xs label ys heq
    rcases exists_side_of_append_eq heq with ⟨zs, hzs, rfl⟩ | ⟨zs, hzs⟩
    · have hkept := hreadt.isKept_of_token xs label zs hzs
      obtain ⟨i, hi, rfl⟩ := hkept.isLabel
      have hleft : t = writeAll id xs ++ (Label.write i ++ writeAll id zs) := by
        rw [← hreadt.spells, hzs]
        simp
      rw [writeAll_append, hreadu.spells]
      exact (isKept_append_left_iff h ht hleft (ne_nil_of_label h hi hleft)).mpr hkept
    · have hright : u = writeAll id zs ++ (label ++ writeAll id ys) := by
        rw [← hreadu.spells, hzs]
        simp
      exact (isKept_append_right_iff h hu hright).mpr (hreadu.isKept_of_token zs label ys hzs)

/-- No opener lies across the end of a line. -/
theorem not_cutsOpener_of_line (h : ['\n'] <:+ t) (bs : List Token) :
    ¬ Walk.CutsOpener (tokensOf t) bs := by
  intro hcut
  obtain ⟨xs, hxs⟩ := List.getLast?_eq_some_iff.mp hcut.1
  have hbracket : ['['] <:+ t := by
    refine ⟨writeAll id xs, ?_⟩
    rw [← (isReading_tokensOf t).spells, hxs]
    simp
  have hmem : '\n' ∈ ['['] := newline_mem_of_suffix h hbracket (by simp)
  revert hmem
  decide

/-- The walk over the document is the walk over its first piece, continued on the
second. -/
theorem ofDocument_append (stem : Text) (h : ['\n'] <:+ t) (ht : Resolves t u) (hu : Resolves u t) :
    Walk.ofDocument stem (t ++ u) = Walk.readAtoms stem (Walk.ofDocument stem t) (tokensOf u) := by
  rw [Walk.ofDocument, tokensOf_append h ht hu]
  exact Walk.readAtoms_append stem _ (not_cutsOpener_of_line h _)

end

section
variable (stem : Text)

/-- A walk that stands outside goes on as a walk from the start would with the same
number: what it has emitted and filed stays in front. -/
theorem Walk.readAtoms_resumed (ts emitted : List Token) {notes : Table Text (List Token)}
    {number : Nat} (hfresh : FreshFrom stem number notes) :
    let w := readAtoms stem ⟨emitted, notes, number, .outside⟩ ts
    let v := readAtoms stem ⟨[], .empty, number, .outside⟩ ts
    w.emitted ++ w.place.raw = emitted ++ (v.emitted ++ v.place.raw) ∧
      w.notes.entries = notes.entries ++ v.notes.entries := by
  intro w v
  obtain ⟨f, hf⟩ := Factorisation.exists_splits ts
  have hempty : FreshFrom stem (number : Int) (.empty : Table Text (List Token)) := freshFrom_empty
  obtain ⟨_, _, hentries, -, hraw, hw⟩ := Factorisation.readAtoms_of_splits stem hf emitted hfresh
  obtain ⟨_, _, hentries', -, hraw', hv⟩ := Factorisation.readAtoms_of_splits stem hf [] hempty
  have hw' : w = _ := hw
  have hv' : v = _ := hv
  rw [hw', hv', hraw, hraw', hentries, hentries']
  simp

/-- The bodies that a walk files are those of the factorisation, whatever its first
number is. -/
theorem Walk.values_readAtoms {f : Factorisation} {ts : List Token} (hf : f.Splits ts)
    (number : Nat) :
    (readAtoms stem ⟨[], .empty, number, .outside⟩ ts).notes.entries.map (·.2) =
      f.spans.map (·.2) := by
  have hempty : FreshFrom stem (number : Int) (.empty : Table Text (List Token)) := freshFrom_empty
  obtain ⟨_, _, hentries, -, -, hwalk⟩ := Factorisation.readAtoms_of_splits stem hf [] hempty
  rw [hwalk, hentries, List.map_append, List.map_map]
  exact Factorisation.map_fst_zipIdx (fun span => span.2) f.spans number

/-- Where the scan of a document ends outside, the next number is one more than the
number of its footnotes. -/
theorem Walk.ofDocument_of_closed {t : Text}
    (h : (Outline.ofSegments (protectReferences (definedIds t) t)).mode = .outside) :
    ∃ (emitted : List Token) (notes : Table Text (List Token)),
      ofDocument stem t = ⟨emitted, notes, (notes.entries.length + 1 : Nat), .outside⟩ ∧
        FreshFrom stem (notes.entries.length + 1 : Nat) notes := by
  obtain ⟨f, hf⟩ := Factorisation.exists_splits (tokensOf t)
  have hempty : FreshFrom stem (1 : Nat) (.empty : Table Text (List Token)) := freshFrom_empty
  obtain ⟨notes, place, hentries, hfresh, -, hwalk⟩ :=
    Factorisation.readAtoms_of_splits stem hf [] hempty
  have hdoc : ofDocument stem t = _ := hwalk
  have hplace : (ofDocument stem t).place = .outside := by
    have hend : (ofDocument stem t).place = _ := (restore_marked stem t 1).2
    rw [hend, h]
    rfl
  have hnext : ((1 : Nat) : Int) + f.spans.length = (notes.entries.length + 1 : Nat) := by
    rw [hentries, Table.entries_empty, List.nil_append, List.length_map, List.length_zipIdx]
    omega
  rw [hdoc] at hplace
  rw [hnext] at hfresh hdoc
  subst hplace
  exact ⟨_, notes, hdoc, hfresh⟩

end

/-- Where no footnote can start, nothing is defined either. -/
theorem mem_defined_convertValid {stem t i : Text} :
    i ∈ (convertValid stem t).defined ↔ i ∈ definedIds t := by
  unfold convertValid
  split
  · next h =>
    refine iff_of_false (IdSet.not_mem_empty i) fun hi => ?_
    have hlabel : Label.opener <:+: Label.write i ++ [':'] :=
      ⟨[], i ++ [']', ':'], by simp [Label.write]⟩
    exact not_infix_opener (Option.isNone_iff_eq_none.mp h)
      (hlabel.trans (mem_definedIds_iff.mp hi).2)
  · rfl

/-- Converting a document that is cut at the end of a line, outside footnotes and
so that neither piece refers to what only the other one defines. -/
theorem convert_append {stem t₁ t₂ : Text} {limit : Option Int} (hstem : IsId stem)
    (hlimit : ∀ m ∈ limit, ((t₁ ++ t₂).length : Int) ≤ m) (hline : ['\n'] <:+ t₁)
    (hclosed : (Outline.ofSegments (protectReferences (definedIds t₁) t₁)).mode = .outside)
    (h₁ : Resolves t₁ t₂) (h₂ : Resolves t₂ t₁) :
    ∃ (r r₁ r₂ : Conversion) (before : Text), convert stem limit (t₁ ++ t₂) = .ok r ∧
      convert stem limit t₁ = .ok r₁ ∧ convert stem limit t₂ = .ok r₂ ∧
      r.notes.entries.map (·.2) = r₁.notes.entries.map (·.2) ++ r₂.notes.entries.map (·.2) ∧
      r.kept = r₁.kept ++ r₂.kept ∧
      (∀ i, i ∈ r.defined ↔ i ∈ r₁.defined ∨ i ∈ r₂.defined) ∧
      r₁.text = before ++ definitionsText r₁.notes.entries ∧
      let segments := protectReferences (definedIds t₂) t₂
      let d := deferNotes stem .empty (r₁.notes.entries.length + 1) segments
      ∃ emitted, d.pieces = emitted ++ definitionBlock d.notes ∧
        r.text = before ++ restore (labelTable segments) emitted ++
          definitionsText r.notes.entries := by
  obtain ⟨emitted, notes, hfirst, hfresh⟩ := Walk.ofDocument_of_closed stem hclosed
  let next : Nat := notes.entries.length + 1
  let v := Walk.readAtoms stem ⟨[], .empty, next, .outside⟩ (tokensOf t₂)
  have hwalk : Walk.ofDocument stem (t₁ ++ t₂) = _ := ofDocument_append stem hline h₁ h₂
  rw [hfirst] at hwalk
  obtain ⟨hpieces, hentries⟩ := Walk.readAtoms_resumed stem (tokensOf t₂) emitted hfresh
  rw [← hwalk] at hpieces hentries
  have hbodies : v.notes.entries.map (·.2) = (Walk.ofDocument stem t₂).notes.entries.map (·.2) := by
    obtain ⟨f, hf⟩ := Factorisation.exists_splits (tokensOf t₂)
    exact (Walk.values_readAtoms stem hf next).trans (Walk.values_readAtoms stem hf 1).symm
  have hcount : (convertValid stem t₁).notes.entries.length = notes.entries.length := by
    rw [(convertValid_eq_walk stem t₁).2, hfirst, Table.entries_map, List.length_map]
  have hpart : ∀ u : Text, u.length ≤ (t₁ ++ t₂).length → ∀ m ∈ limit, (u.length : Int) ≤ m :=
    fun u hu m hm => Int.le_trans (Int.ofNat_le.mpr hu) (hlimit m hm)
  refine ⟨_, _, _, writeAll id emitted, convert_eq_ok hstem hlimit,
    convert_eq_ok hstem (hpart t₁ (by simp)), convert_eq_ok hstem (hpart t₂ (by simp)),
    ?_, ?_, ?_, ?_, ?_⟩
  · simp only [values_notes_convertValid]
    rw [hentries, hfirst, List.map_append, hbodies, List.map_append]
  · simp only [kept_convertValid]
    rw [tokensOf_append hline h₁ h₂, List.filterMap_append]
  · intro i
    simp only [mem_defined_convertValid]
    exact mem_definedIds_append hline
  · have htext := text_convertValid stem t₁
    rw [hfirst, Place.raw, List.append_nil] at htext
    exact htext
  · intro segments d
    refine ⟨(Outline.ofSegments segments).marked stem next, ?_, ?_⟩
    · simp only [d, deferNotes_eq, hcount]
      rfl
    · have hmarked : restore (labelTable segments) _ = _ := (restore_marked stem t₂ next).1
      rw [text_convertValid, hpieces, writeAll_append, hmarked]

/-- Both pieces define and use `r`, only the second one has `s`, and there a footnote
stays open. -/
theorem convert_append_unclosed :
    let t₁ : Text := "[^r]:a[^b[^r]]\n".toList
    let t₂ : Text := "[^s]: [^r]:[^c[^r]][^o[^s]".toList
    let stem : Text := "n".toList
    (IsId stem ∧ (∀ m ∈ some 41, ((t₁ ++ t₂).length : Int) ≤ m) ∧ ['\n'] <:+ t₁ ∧
      (Outline.ofSegments (protectReferences (definedIds t₁) t₁)).mode = .outside ∧
        Resolves t₁ t₂ ∧ Resolves t₂ t₁) ∧
      ∃ r r₁ r₂, convert stem (some 41) (t₁ ++ t₂) = .ok r ∧ convert stem (some 41) t₁ = .ok r₁ ∧
        convert stem (some 41) t₂ = .ok r₂ ∧ r.kept = r₁.kept ++ r₂.kept ∧
          r.text = ("[^n1]:a[^n2]\n[^n3]: [^n4]:[^n5][^o[^s]\n\n" ++
            "[^n1]: r\n[^n2]: b[^r]\n[^n3]: s\n[^n4]: r\n[^n5]: c[^r]\n").toList := by
  intro t₁ t₂ stem
  have hstem : IsId stem := by decide
  have hlimit : ∀ m ∈ some 41, ((t₁ ++ t₂).length : Int) ≤ m := by
    intro m hm
    cases hm
    decide
  have hline : ['\n'] <:+ t₁ := by decide
  have hclosed : (Outline.ofSegments (protectReferences (definedIds t₁) t₁)).mode = .outside := by
    decide +kernel
  have h₁ : Resolves t₁ t₂ := by decide +kernel
  have h₂ : Resolves t₂ t₁ := by decide +kernel
  obtain ⟨r, r₁, r₂, -, hr, hr₁, hr₂, -, hkept, -⟩ :=
    convert_append hstem hlimit hline hclosed h₁ h₂
  refine ⟨⟨hstem, hlimit, hline, hclosed, h₁, h₂⟩, r, r₁, r₂, hr, hr₁, hr₂, hkept, ?_⟩
  rw [convert_eq_ok hstem hlimit] at hr
  cases hr
  decide +kernel

end InlineNotes
