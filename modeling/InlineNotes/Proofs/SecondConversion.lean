import InlineNotes.Proofs.Decoding
import InlineNotes.Proofs.References
import InlineNotes.Proofs.Rereading
import InlineNotes.Proofs.Resumption

/-!
# Converting twice

Converting a converted document again is not without effect in general, since the
definitions that were written look like footnotes. What it does depends on where the
scan of the document ends.

If a footnote stays open, then everything behind its opener is inside, and so are the
definitions. They are balanced, so the footnote stays open, and as all labels before it
are references now, nothing changes at all.

If the scan ends outside and no body has an opener, then each definition is read as a
footnote again, with its own id as its body and its own number, and the labels before
are references. The document stays as it is, and gets a second block of definitions.

Both need that no footnote is followed by a colon, since its label would not be a
reference then (`convert_twice`). The second conversion is never computed: what comes out
of the first has a factorisation that can be written down, and there is only one.
-/
namespace InlineNotes
open Atom

theorem Plain.append_cons {as bs : List Token} {a : Token} (has : Plain as) (hbs : Plain bs)
    (ha : a ∉ (opener : List Token)) : Plain (as ++ a :: bs) := fun ho =>
  (infix_append_cons_of_not_mem ha ho).elim has hbs

/-- The block of definitions closes all brackets that it opens. -/
theorem balanced_definitionsText {notes : List (Text × Text)}
    (h : ∀ p ∈ notes, IsId p.1 ∧ Balanced (ofText p.2 : List Token)) :
    Balanced (ofText (definitionsText notes) : List Token) := by
  have hdefinition : ∀ p ∈ notes,
      Balanced (ofText (Label.write p.1 ++ [':', ' '] ++ p.2 ++ ['\n']) : List Token) := by
    intro p hp
    obtain ⟨hid, hbody⟩ := h p hp
    rw [ofText_append, ofText_append, ofText_append]
    have hlabel : Balanced (ofText (Label.write p.1) : List Token) :=
      balanced_iff.mpr (depthAfter_write 0 hid)
    exact ((hlabel.append (balanced_ofText (by simp))).append hbody).append
      (balanced_ofText (by simp))
  unfold definitionsText
  split
  · exact balanced_nil
  · have hblock : (ofText (notes.flatMap fun p =>
        Label.write p.1 ++ [':', ' '] ++ p.2 ++ ['\n']) : List Token) =
        notes.flatMap fun p => ofText (Label.write p.1 ++ [':', ' '] ++ p.2 ++ ['\n']) := by
      simp [ofText, List.map_flatMap]
    rw [ofText_append]
    refine (balanced_ofText (by simp)).append ?_
    have hitems := balanced_flatMap hdefinition
    rw [← hblock] at hitems
    exact hitems

namespace Factorisation

theorem plain_emittedFrom {stem : Text} {number : Nat} {last tail : List Token}
    {spans : List (List Token × List Token)} (hspans : ∀ span ∈ spans, Plain span.1)
    (hlast : Plain last) : Plain (emittedFrom stem number ⟨spans, last, tail⟩) := by
  induction spans generalizing number with
  | nil => exact hlast
  | cons span spans ih =>
    obtain ⟨before, body⟩ := span
    obtain ⟨hspan, hspans⟩ := List.forall_mem_cons.mp hspans
    rw [emittedFrom_cons]
    exact hspan.append_cons (ih hspans) (by simp [opener])

section
variable {stem t : Text} {f : Factorisation} (h : f.Splits (tokensOf t)) (hstem : IsId stem)
  (hcolon : f.NoColon)
include h hstem

theorem Splits.balanced_notes :
    ∀ p ∈ f.notes stem, IsId p.1 ∧ Balanced (ofText p.2 : List Token) := by
  refine List.forall_mem_map.mpr fun p hp => ⟨isId_numberedId hstem p.2, ?_⟩
  exact balanced_iff.mpr (h.depthAfter_body (List.fst_mem_of_mem_zipIdx hp))

include hcolon

/-- If a footnote of the document stays open, then the converted document has the same
open footnote, with the definitions in it, and no other. -/
theorem Splits.splits_converted_of_unclosed (htail : f.tail ≠ []) :
    ∃ tail, (⟨[], f.emittedFrom stem 1, tail⟩ : Factorisation).Splits
      (tokensOf (f.converted stem)) := by
  obtain ⟨rest, hopen, hrest⟩ := h.unclosed.resolve_left htail
  obtain ⟨d, hd⟩ := neverCloses_iff.mp hrest
  have hlabel : ∀ label, .reference label ∈ rest → ∃ id, IsId id ∧ label = Label.write id := by
    intro label hl
    have htokens : .reference label ∈ f.tokens := by
      rw [tokens, hopen]
      exact List.mem_append_right _ (List.mem_append_right _ hl)
    exact isLabel_of_mem_tokensFor (h.tokens_eq ▸ htokens)
  let behind := writeAll id rest ++ definitionsText (f.notes stem)
  have hblock : depthAfter d (ofText (definitionsText (f.notes stem)) : List Token) = some d :=
    depthAfter_add (balanced_iff.mp (balanced_definitionsText (h.balanced_notes hstem))) d
  have hdepth : depthAfter 0 (ofText behind : List Token) = some d := by
    rw [ofText_append, depthAfter_append, depthAfter_writeAll hlabel, hd]
    exact hblock
  refine ⟨opener ++ tokensFor (definedIds (f.converted stem)) behind, splits_nil_iff.mpr
    ⟨?_, plain_emittedFrom h.plain_before h.plain_last, Or.inr ⟨_, rfl, ?_⟩⟩⟩
  · rw [h.tokensOf_converted hstem hcolon, ← tokensFor_opener_append hdepth, hopen,
      writeAll_append, writeAll_opener, List.append_assoc]
  · rw [neverCloses_iff, ← depthAfter_writeAll fun label hl => isLabel_of_mem_tokensFor hl,
      writeAll_tokensFor]
    exact ⟨d, hdepth⟩

end

/-- A document that starts with a plain part and goes on with definitions of numbered
footnotes, as a scan sees it: each label is a footnote, with the rest of its definition
as the plain part behind it. -/
def ofDefinitions (stem : Text) (before : List Token) (number : Nat) : List Text → Factorisation
  | [] => ⟨[], before, []⟩
  | body :: bodies =>
    let rest := ofDefinitions stem (ofText (bodyText body)) (number + 1) bodies
    ⟨(before, ofText (numberedId stem number)) :: rest.spans, rest.last, rest.tail⟩

section
variable {stem : Text} {before : List Token} {number : Nat} {bodies : List Text}

theorem length_spans_ofDefinitions :
    (ofDefinitions stem before number bodies).spans.length = bodies.length := by
  induction bodies generalizing before number with
  | nil => rfl
  | cons body bodies ih => exact congrArg (· + 1) ih

theorem mem_spans_ofDefinitions :
    ∀ p ∈ (ofDefinitions stem before number bodies).spans.zipIdx number,
      p.1.2 = ofText (numberedId stem p.2) := by
  induction bodies generalizing before number with
  | nil => exact fun p hp => nomatch hp
  | cons body bodies ih =>
    have hspans : (ofDefinitions stem before number (body :: bodies)).spans =
        (before, ofText (numberedId stem number)) ::
          (ofDefinitions stem (ofText (bodyText body)) (number + 1) bodies).spans := rfl
    rw [hspans, List.zipIdx_cons]
    exact List.forall_mem_cons.mpr ⟨rfl, ih⟩

theorem plain_bodyText {body : Text} (h : Plain (ofText body : List Token)) :
    Plain (ofText (bodyText body) : List Token) := by
  have hcolon : Plain ([.char ':'] : List Token) := plain_ofText (t := [':']) (by decide)
  have hbody : Plain (ofText body ++ .char '\n' :: [] : List Token) :=
    h.append_cons plain_nil (by simp [opener])
  have hparts : Plain ([.char ':'] ++ .char ' ' :: (ofText body ++ [.char '\n']) : List Token) :=
    hcolon.append_cons hbody (by simp [opener])
  simpa [bodyText] using hparts

theorem splits_ofDefinitions (hstem : IsId stem) (hbefore : Plain before)
    (hbodies : ∀ body ∈ bodies, Plain (ofText body : List Token)) :
    (ofDefinitions stem before number bodies).Splits
      (before ++ ofText ((bodies.zipIdx number).flatMap fun (body, n) =>
        Label.write (numberedId stem n) ++ bodyText body)) := by
  induction bodies generalizing before number with
  | nil => exact splits_nil_iff.mpr ⟨by simp, hbefore, Or.inl rfl⟩
  | cons body bodies ih =>
    obtain ⟨hbody, hbodies⟩ := List.forall_mem_cons.mp hbodies
    have hid : Balanced (ofText (numberedId stem number) : List Token) :=
      balanced_ofText (isId_numberedId hstem number).not_bracket
    have hrest : (ofDefinitions stem (ofText (bodyText body)) (number + 1) bodies).Splits _ :=
      ih (plain_bodyText hbody) hbodies
    refine splits_cons_iff.mpr ⟨_, ?_, hbefore, hid, hrest⟩
    simp [Label.write, Label.opener, opener, closer]

end

/-- Where each footnote is its own id, its label is what stands there already. -/
theorem marked_of_numbered {stem : Text} {f : Factorisation}
    (h : ∀ p ∈ f.spans.zipIdx 1, p.1.2 = ofText (numberedId stem p.2)) :
    f.marked stem = writeAll id f.tokens := by
  let written : List Token × List Token → List Token := fun span =>
    span.1 ++ opener ++ span.2 ++ [closer]
  have hspan : ∀ p ∈ f.spans.zipIdx 1,
      writeAll id p.1.1 ++ Label.write (numberedId stem p.2) = writeAll id (written p.1) := by
    intro p hp
    simp [written, h p hp, Label.write, closer]
  have hspans := calc
    (f.spans.zipIdx 1).flatMap (fun p => writeAll id p.1.1 ++ Label.write (numberedId stem p.2))
      = (f.spans.zipIdx 1).flatMap fun p => writeAll id (written p.1) := List.flatMap_congr hspan
    _ = writeAll id (((f.spans.zipIdx 1).map Prod.fst).flatMap written) := by
      rw [writeAll_flatMap, List.flatMap_map]
    _ = writeAll id (f.spans.flatMap written) := by rw [List.zipIdx_map_fst]
  rw [tokens, writeAll_append, writeAll_append]
  exact congrArg (· ++ writeAll id f.last ++ writeAll id f.tail) hspans

theorem notes_of_numbered {stem : Text} {f : Factorisation}
    (h : ∀ p ∈ f.spans.zipIdx 1, p.1.2 = ofText (numberedId stem p.2)) :
    f.notes stem = ((f.notes stem).map (·.1)).map fun i => (i, i) := by
  rw [notes, List.map_map, List.map_map]
  refine List.map_congr_left fun p hp => ?_
  simp [h p hp]

theorem definitionsText_notes {stem : Text} {f : Factorisation} (h : f.spans ≠ []) :
    definitionsText (f.notes stem) = ['\n', '\n'] ++
      ((f.spans.map fun span => writeAll id span.2).zipIdx 1).flatMap fun (body, n) =>
        Label.write (numberedId stem n) ++ bodyText body := by
  simp [definitionsText, notes, bodyText, h, List.zipIdx_map, List.flatMap_map]

section
variable {stem t : Text} {f : Factorisation} (h : f.Splits (tokensOf t)) (hcolon : f.NoColon)
  (hstem : IsId stem) (htail : f.tail = []) (hbodies : ∀ p ∈ f.notes stem, ¬ Label.opener <:+: p.2)
include h hcolon htail hbodies

/-- A document that ends outside footnotes and has no opener in a body defines nothing. -/
theorem Splits.not_mem_definedIds (i : Text) : i ∉ definedIds t := by
  intro hi
  rcases h.mem_definedIds_notes_or_tail stem hcolon hi with ⟨p, hp, hbody⟩ | hin
  · exact hbodies p hp (opener_infix_of_mem_definedIds hbody)
  · rw [htail] at hin
    cases List.infix_nil.mp (opener_infix_of_mem_definedIds hin)

/-- The labels are all the references of the converted document that stand before its
definitions. -/
theorem Splits.filterMap_reference?_emittedFrom :
    (f.emittedFrom stem 1).filterMap Atom.reference? =
      ((f.notes stem).map (·.1)).map Label.write := by
  have htokens : f.tokens.filterMap Atom.reference? = [] := by
    rw [h.tokens_eq]
    exact filterMap_reference?_tokensOf (h.not_mem_definedIds hcolon htail hbodies)
  have hnone : ∀ as : List Token, as <:+: f.tokens → as.filterMap Atom.reference? = [] := by
    intro as has
    exact List.infix_nil.mp (htokens ▸ List.IsInfix.filterMap Atom.reference? has)
  have hspans : ∀ p ∈ f.spans.zipIdx 1,
      (p.1.1 ++ [Atom.reference (Label.write (numberedId stem p.2))]).filterMap Atom.reference? =
        [Label.write (numberedId stem p.2)] := by
    intro p hp
    rw [List.filterMap_append, hnone _ (infix_tokens (List.fst_mem_of_mem_zipIdx hp)).1]
    rfl
  rw [emittedFrom, List.filterMap_append, hnone _ f.last_infix_tokens, List.append_nil,
    List.filterMap_flatMap, List.flatMap_congr hspans, ← List.map_eq_flatMap, notes, List.map_map,
    List.map_map]
  rfl

include hstem

/-- The definitions of a converted document have no references. -/
theorem Splits.tokensOf_converted_of_outside :
    tokensOf (f.converted stem) =
      f.emittedFrom stem 1 ++ ofText (definitionsText (f.notes stem)) := by
  have hnotes : ∀ p ∈ f.notes stem, IsId p.1 ∧ Plain (ofText p.2 : List Token) := fun p hp =>
    ⟨(h.balanced_notes hstem p hp).1, plain_ofText (hbodies p hp)⟩
  rw [h.tokensOf_converted hstem hcolon, htail, writeAll_nil, List.nil_append,
    tokensFor_definitionsText hnotes]

/-- They are footnotes of their own, and the labels before them are plain. -/
theorem Splits.splits_converted_of_outside (hspans : f.spans ≠ []) :
    (ofDefinitions stem (f.emittedFrom stem 1 ++ ofText ['\n', '\n']) 1
      (f.spans.map fun span => writeAll id span.2)).Splits (tokensOf (f.converted stem)) := by
  have hplain : ∀ body ∈ f.spans.map (fun span => writeAll id span.2),
      Plain (ofText body : List Token) := by
    intro body hbody
    rw [← values_notes stem] at hbody
    obtain ⟨p, hp, rfl⟩ := List.mem_map.mp hbody
    exact plain_ofText (hbodies p hp)
  have hbefore : Plain (f.emittedFrom stem 1 ++ ofText ['\n', '\n']) :=
    (plain_emittedFrom h.plain_before h.plain_last).append_cons
      (plain_ofText (t := ['\n']) (by decide)) (by simp [opener])
  rw [h.tokensOf_converted_of_outside hcolon hstem htail hbodies, definitionsText_notes hspans,
    ofText_append, ← List.append_assoc]
  exact splits_ofDefinitions hstem hbefore hplain

end

/-- The scan of a document ends outside footnotes if its factorisation has no tail. -/
theorem Splits.endsOutside_iff {t : Text} {f : Factorisation} (h : f.Splits (tokensOf t)) :
    EndsOutside (protectReferences (definedIds t) t) ↔ f.tail = [] := by
  have hfresh : FreshFrom [] (1 : Nat) (.empty : Table Text (List Token)) := freshFrom_empty
  obtain ⟨_, place, -, -, hraw, hwalk⟩ := readAtoms_of_splits [] h [] hfresh
  have hplace := (restore_marked [] t 1).2
  have hend : place =
      (Outline.ofSegments (protectReferences (definedIds t) t)).mode.place Reference.label :=
    (congrArg Walk.place hwalk).symm.trans hplace
  rw [← hraw, hend, EndsOutside]
  cases (Outline.ofSegments (protectReferences (definedIds t) t)).mode with
  | outside => exact iff_of_true rfl rfl
  | inside body depth => simp [Place.raw, opener]

end Factorisation

section
variable {stem t : Text} {f : Factorisation} (h : f.Splits (tokensOf t)) (hstem : IsId stem)
  (hcolon : f.NoColon)
include h hstem hcolon

theorem convertValid_twice_of_unclosed (htail : f.tail ≠ []) :
    let s := convertValid stem (f.converted stem)
    s.text = f.converted stem ∧ s.notes.entries = [] := by
  obtain ⟨tail, hsecond⟩ := h.splits_converted_of_unclosed hstem hcolon htail
  exact convertValid_of_spans_eq_nil hsecond rfl

theorem convertValid_twice_of_outside (htail : f.tail = []) (hspans : f.spans ≠ [])
    (hbodies : ∀ p ∈ f.notes stem, ¬ Label.opener <:+: p.2) :
    let s := convertValid stem (f.converted stem)
    let ids := (f.notes stem).map (·.1)
    s.notes.entries = ids.map (fun i => (i, i)) ∧ s.kept = ids.map Label.write ∧
      s.text = f.converted stem ++ definitionsText (ids.map fun i => (i, i)) := by
  intro s ids
  have hsecond := h.splits_converted_of_outside hcolon hstem htail hbodies hspans
  obtain ⟨hnotes, htext⟩ := Factorisation.convertValid_of_splits stem hsecond
  let second := Factorisation.ofDefinitions stem (f.emittedFrom stem 1 ++ ofText ['\n', '\n']) 1
    (f.spans.map fun span => writeAll id span.2)
  have hown : ∀ p ∈ second.spans.zipIdx 1, p.1.2 = ofText (numberedId stem p.2) :=
    Factorisation.mem_spans_ofDefinitions
  have hkeys : (convertValid stem (f.converted stem)).notes.entries.map (·.1) = ids := by
    rw [hnotes, Factorisation.keys_notes, Factorisation.length_spans_ofDefinitions,
      List.length_map, ← Factorisation.keys_notes]
  have hentries : s.notes.entries = ids.map fun i => (i, i) := by
    rw [← hkeys, hnotes]
    exact Factorisation.notes_of_numbered hown
  refine ⟨hentries, ?_, ?_⟩
  · rw [kept_convertValid, h.tokensOf_converted_of_outside hcolon hstem htail hbodies,
      List.filterMap_append, filterMap_reference?_ofText, List.append_nil,
      h.filterMap_reference?_emittedFrom hcolon htail hbodies]
  · rw [← hentries, hnotes, htext, Factorisation.converted, Factorisation.marked_of_numbered hown,
      hsecond.spells]

end

theorem convert_without_limit {stem : Text} (hstem : IsId stem) (t : Text) :
    convert stem none t = .ok (convertValid stem t) :=
  convert_eq_ok hstem fun _ hm => nomatch hm

/-- What a second conversion does, if no footnote of the document is followed by a
colon. If a footnote stays open, it changes nothing. If the document ends outside and
no body has an opener, it makes a footnote of each definition, with its own id as the
body, keeps the labels, and puts these definitions behind the others. -/
theorem convert_twice {stem : Text} (hstem : IsId stem) (t : Text) :
    ∃ (r : Conversion) (f : Factorisation), convert stem none t = .ok r ∧
      (∀ g : Factorisation, g.Splits (tokensOf t) ↔ g = f) ∧ r.notes.entries = f.notes stem ∧
      r.notes.keys =
        (List.range f.spans.length).map (fun k : Nat => numberedId stem (k + 1 : Nat)) ∧
      (f.NoColon →
        (¬ EndsOutside (protectReferences (definedIds t) t) →
          ∃ s, convert stem none r.text = .ok s ∧ s.text = r.text ∧ s.notes.entries = [] ∧
            s.changed = false) ∧
        (EndsOutside (protectReferences (definedIds t) t) → r.notes.entries ≠ [] →
          (∀ p ∈ r.notes.entries, ¬ Label.opener <:+: p.2) →
          ∃ s, convert stem none r.text = .ok s ∧
            s.notes.entries = r.notes.keys.map (fun i => (i, i)) ∧
            s.kept = r.notes.keys.map Label.write ∧
            s.text = r.text ++ (['\n', '\n'] ++ r.notes.keys.flatMap fun i =>
              Label.write i ++ [':', ' '] ++ i ++ ['\n']))) := by
  obtain ⟨f, hf⟩ := Factorisation.exists_splits (tokensOf t)
  obtain ⟨hnotes, htext⟩ := Factorisation.convertValid_of_splits stem hf
  have hkeys : (convertValid stem t).notes.keys = (f.notes stem).map (·.1) :=
    congrArg (List.map Prod.fst) hnotes
  have hsecond : convert stem none (convertValid stem t).text =
      .ok (convertValid stem (f.converted stem)) := by
    rw [htext]
    exact convert_without_limit hstem _
  refine ⟨convertValid stem t, f, convert_without_limit hstem t,
    fun g => ⟨fun hg => hg.unique hf, fun hg => hg ▸ hf⟩, hnotes,
    hkeys.trans (f.keys_notes stem), fun hcolon => ⟨fun hopen => ?_, ?_⟩⟩
  · obtain ⟨hsame, hnone⟩ := convertValid_twice_of_unclosed hf hstem hcolon
      (hopen ∘ hf.endsOutside_iff.mpr)
    refine ⟨_, hsecond, hsame.trans htext.symm, hnone, ?_⟩
    simp [Conversion.changed, Table.isEmpty, hnone]
  · intro hout hne hbodies
    rw [hnotes] at hne hbodies
    have hspans : f.spans ≠ [] := fun hnil => hne (by rw [Factorisation.notes, hnil]; rfl)
    obtain ⟨hentries, hkept, hmore⟩ := convertValid_twice_of_outside hf hstem hcolon
      (hf.endsOutside_iff.mp hout) hspans hbodies
    rw [← hkeys] at hentries hkept hmore
    refine ⟨_, hsecond, hentries, hkept, ?_⟩
    have hkeysNe : (convertValid stem t).notes.keys.map (fun i => (i, i)) ≠ [] := by
      rw [hkeys]
      simpa using hne
    rw [hmore, htext, definitionsText, if_neg hkeysNe, List.flatMap_map]

/-- A document with a footnote that stays open, and one that ends outside. -/
theorem convert_twice_nested :
    let stem : Text := "n".toList
    let unclosed : Text := "a[^b[^c]][^o[".toList
    let closed : Text := "a[^b[c]]d[^]".toList
    IsId stem ∧
      (∃ r s, convert stem none unclosed = .ok r ∧ convert stem none r.text = .ok s ∧
        s.text = r.text ∧ r.text = "a[^n1][^o[\n\n[^n1]: b[^c]\n".toList) ∧
      ∃ r s, convert stem none closed = .ok r ∧ convert stem none r.text = .ok s ∧
        s.notes.entries = [("n1".toList, "n1".toList), ("n2".toList, "n2".toList)] ∧
        s.kept = ["[^n1]".toList, "[^n2]".toList] ∧
        s.text = r.text ++ "\n\n[^n1]: n1\n[^n2]: n2\n".toList := by
  intro stem unclosed closed
  have hstem : IsId stem := by decide
  refine ⟨hstem, ?_, ?_⟩
  · obtain ⟨r, f, hr, hf, -, -, htwice⟩ := convert_twice hstem unclosed
    have hopen : ¬ EndsOutside (protectReferences (definedIds unclosed) unclosed) := by
      decide +kernel
    have hsplits : Factorisation.Splits
        ⟨[(ofText "a".toList, ofText "b[^c]".toList)], [], ofText "[^o[".toList⟩
        (tokensOf unclosed) := by
      refine Factorisation.splits_cons_iff.mpr ⟨ofText "[^o[".toList, by decide +kernel,
        plain_ofText (by decide), balanced_iff.mpr rfl, ?_⟩
      exact Factorisation.splits_nil_iff.mpr ⟨rfl, plain_nil,
        Or.inr ⟨ofText "o[".toList, rfl, neverCloses_iff.mpr ⟨1, rfl⟩⟩⟩
    have hcolon : f.NoColon := by
      rw [← (hf _).mp hsplits]
      exact Factorisation.noColon_cons_iff.mpr ⟨by decide, Factorisation.noColon_nil⟩
    obtain ⟨s, hs, hsame, -⟩ := (htwice hcolon).1 hopen
    refine ⟨r, s, hr, hs, hsame, ?_⟩
    rw [convert_without_limit hstem] at hr
    cases hr
    decide +kernel
  · obtain ⟨r, f, hr, hf, -, -, htwice⟩ := convert_twice hstem closed
    have hr' := hr
    rw [convert_without_limit hstem] at hr'
    have hout : EndsOutside (protectReferences (definedIds closed) closed) := by decide +kernel
    have hsplits : Factorisation.Splits
        ⟨[(ofText "a".toList, ofText "b[c]".toList), (ofText "d".toList, [])], [], []⟩
        (tokensOf closed) := by
      refine Factorisation.splits_cons_iff.mpr ⟨ofText "d[^]".toList, by decide +kernel,
        plain_ofText (by decide), balanced_iff.mpr rfl, ?_⟩
      refine Factorisation.splits_cons_iff.mpr ⟨[], rfl, plain_ofText (by decide),
        balanced_nil, ?_⟩
      exact Factorisation.splits_nil_iff.mpr ⟨rfl, plain_nil, Or.inl rfl⟩
    have hcolon : f.NoColon := by
      rw [← (hf _).mp hsplits]
      refine Factorisation.noColon_cons_iff.mpr ⟨by decide, ?_⟩
      exact Factorisation.noColon_cons_iff.mpr ⟨by decide, Factorisation.noColon_nil⟩
    have hkeys : r.notes.keys = ["n1".toList, "n2".toList] := by
      cases hr'
      decide +kernel
    have hbodies : r.notes.entries ≠ [] ∧ ∀ p ∈ r.notes.entries, ¬ Label.opener <:+: p.2 := by
      cases hr'
      decide +kernel
    obtain ⟨s, hs, hentries, hkept, htext⟩ := (htwice hcolon).2 hout hbodies.1 hbodies.2
    rw [hkeys] at hentries hkept htext
    exact ⟨r, s, hr, hs, hentries, hkept, htext⟩

end InlineNotes
