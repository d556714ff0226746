import InlineNotes.Proofs.Factorisation
import InlineNotes.Proofs.Occurrence

/-!
# Conversion loses nothing

A converted document is cut into pieces by the labels that the conversion has put
there. What stands between them are parts of the document, apart from the few
characters around a definition. If the document has no label with a numbered id,
then neither has any of the pieces, and none can come about across a border,
since a label has its only opening bracket at its start. So the labels and with
them the pieces can be found again: there are two of the labels for each
footnote, and the pieces between them are the plain parts of the document and
then the bodies. Hence two such documents with the same conversion are the same
(`convert_injective`). No assumption is made on what else the documents contain.
-/
namespace InlineNotes
open Atom

/-- The stem followed by decimal digits, as in all ids that conversion makes. -/
def IsNumbered (stem id : Text) : Prop :=
  ∃ digits : Text, digits ≠ [] ∧ (∀ d ∈ digits, d.isDigit = true) ∧ id = stem ++ digits

/-- No label with a numbered id stands in the text. -/
def Unlabelled (stem t : Text) : Prop := ∀ id, IsNumbered stem id → ¬ Label.write id <:+: t

/-- A definition without its label. -/
def bodyText (body : Text) : Text := [':', ' '] ++ body ++ ['\n']

theorem bodyText_inj {body body' : Text} (h : bodyText body = bodyText body') :
    body = body' :=
  List.append_cancel_left (List.append_cancel_right h)

section
variable {stem : Text}

theorem isNumbered_numberedId (n : Nat) : IsNumbered stem (numberedId stem n) := by
  refine ⟨Nat.toDigits 10 n, Nat.toDigits_ne_nil, ?_, rfl⟩
  exact fun d hd => Nat.isDigit_of_mem_toDigits (by decide) (by decide) hd

theorem IsNumbered.isId {id : Text} (h : IsNumbered stem id) (hstem : IsId stem) : IsId id := by
  obtain ⟨digits, -, hdigits, rfl⟩ := h
  refine ⟨by simp [hstem.1], fun c hc => ?_⟩
  rcases List.mem_append.mp hc with hc | hc
  · exact hstem.2 c hc
  · exact isIdChar_of_isDigit (hdigits c hc)

theorem Unlabelled.of_infix {t u : Text} (h : Unlabelled stem u) (hi : t <:+: u) :
    Unlabelled stem t :=
  fun id hid => Lacks.of_infix (h id hid) hi

theorem Lacks.bodyText {i body : Text} (hi : IsId i) (h : Lacks i body) :
    Lacks i (bodyText body) := by
  have hcolon : Lacks i [':'] := lacks_of_length_le (by decide)
  have hend : Lacks i (body ++ ['\n']) :=
    h.append_cons hi (lacks_of_length_le (by decide)) (by decide) (by decide)
  have hparts : Lacks i ([':'] ++ ' ' :: (body ++ ['\n'])) :=
    hcolon.append_cons hi hend (by decide) (by decide)
  exact hparts

theorem Lacks.blank_line {i t : Text} (hi : IsId i) (h : Lacks i t) :
    Lacks i (t ++ ['\n', '\n']) :=
  h.append_cons hi (lacks_of_length_le (by decide)) (by decide) (by decide)

theorem Unlabelled.bodyText {body : Text} (hstem : IsId stem) (h : Unlabelled stem body) :
    Unlabelled stem (bodyText body) :=
  fun id hid => Lacks.bodyText (hid.isId hstem) (h id hid)

theorem Unlabelled.blank_line {t : Text} (hstem : IsId stem) (h : Unlabelled stem t) :
    Unlabelled stem (t ++ ['\n', '\n']) :=
  fun id hid => Lacks.blank_line (hid.isId hstem) (h id hid)

/-- The first label with a numbered id is determined, and so is what precedes it. -/
theorem first_label_unique {id id' before rest before' rest' : Text} (hstem : IsId stem)
    (hid : IsNumbered stem id) (hid' : IsNumbered stem id')
    (hbefore : Unlabelled stem before) (hbefore' : Unlabelled stem before')
    (h : before ++ (Label.write id ++ rest) = before' ++ (Label.write id' ++ rest')) :
    before = before' ∧ rest = rest' := by
  have hi := hid.isId hstem
  have hi' := hid'.isId hstem
  have hprefix : before ++ Label.write id <+: before' ++ (Label.write id' ++ rest') :=
    ⟨rest, by rw [List.append_assoc, h]⟩
  rcases prefix_append_write_append hi hi' hprefix with hl | ⟨rfl, -⟩ | ⟨middle, rfl, -⟩
  · exact absurd hl (Lacks.not_append_prefix (hbefore' id hid))
  · exact ⟨rfl, (Label.write_append_inj hi hi' (List.append_cancel_left h)).2⟩
  · exact absurd (List.infix_append' _ _ _) (hbefore id' hid')

/-- The text is made of pieces without such labels and of one such label between
each two of them. -/
inductive Woven (stem : Text) : Text → List Text → Prop
  | single {piece : Text} : Unlabelled stem piece → Woven stem piece [piece]
  | cons {piece id rest : Text} {pieces : List Text} : Unlabelled stem piece →
      IsNumbered stem id → Woven stem rest pieces →
        Woven stem (piece ++ (Label.write id ++ rest)) (piece :: pieces)

/-- The pieces of a text are determined. -/
theorem Woven.unique {t : Text} {ps qs : List Text} (hstem : IsId stem) (hp : Woven stem t ps)
    (hq : Woven stem t qs) : ps = qs := by
  induction hp generalizing qs with
  | single hpiece =>
    cases hq with
    | single => rfl
    | cons _ hid _ => exact absurd (List.infix_append' _ _ _) (hpiece _ hid)
  | @cons piece id rest pieces hpiece hid hrest ih =>
    generalize ht : piece ++ (Label.write id ++ rest) = t at hq
    cases hq with
    | single ht' =>
      subst ht
      exact absurd (List.infix_append' _ _ _) (ht' _ hid)
    | cons hpiece' hid' hrest' =>
      obtain ⟨rfl, rfl⟩ := first_label_unique hstem hid hid' hpiece hpiece' ht
      rw [ih hrest']

/-- Pieces, each with a label behind it. -/
theorem Woven.flatMap_append {pairs : List (Text × Text)} {rest : Text} {pieces : List Text}
    (hpairs : ∀ p ∈ pairs, Unlabelled stem p.1 ∧ IsNumbered stem p.2) (h : Woven stem rest pieces) :
    Woven stem (pairs.flatMap (fun p => p.1 ++ Label.write p.2) ++ rest)
      (pairs.map (·.1) ++ pieces) := by
  induction pairs with
  | nil => exact h
  | cons p pairs ih =>
    obtain ⟨⟨hpiece, hid⟩, hrest⟩ := List.forall_mem_cons.mp hpairs
    have hcons := Woven.cons hpiece hid (ih hrest)
    simpa using hcons

/-- Pieces, each with a label before it. -/
theorem Woven.append_flatMap {pairs : List (Text × Text)} {piece : Text}
    (hpairs : ∀ p ∈ pairs, IsNumbered stem p.1 ∧ Unlabelled stem p.2)
    (hpiece : Unlabelled stem piece) :
    Woven stem (piece ++ pairs.flatMap fun p => Label.write p.1 ++ p.2)
      (piece :: pairs.map (·.2)) := by
  induction pairs generalizing piece with
  | nil =>
    have hsingle := Woven.single hpiece
    simpa using hsingle
  | cons p pairs ih =>
    obtain ⟨⟨hid, hp⟩, hrest⟩ := List.forall_mem_cons.mp hpairs
    have hcons := Woven.cons hpiece hid (ih hrest hp)
    simpa using hcons

end

namespace Factorisation

/-- The plain parts, the rest after the last footnote, and the bodies with what
is put around them. A document without footnotes is one piece. -/
def pieces (f : Factorisation) : List Text :=
  if f.spans = [] then [writeAll id f.tokens]
  else f.spans.map (writeAll id ·.1) ++ (writeAll id (f.last ++ f.tail) ++ ['\n', '\n']) ::
    f.spans.map fun span => bodyText (writeAll id span.2)

section
variable {f g : Factorisation}

/-- The plain parts, each with the id of the label behind it. -/
def marks (stem : Text) (f : Factorisation) : List (Text × Text) :=
  (f.spans.zipIdx 1).map fun p => (writeAll id p.1.1, numberedId stem p.2)

/-- The bodies with what is put around them, each with the id of the label before it. -/
def bodies (stem : Text) (f : Factorisation) : List (Text × Text) :=
  (f.spans.zipIdx 1).map fun p => (numberedId stem p.2, bodyText (writeAll id p.1.2))

theorem converted_of_spans_ne_nil (stem : Text) (h : f.spans ≠ []) :
    f.converted stem = (f.marks stem).flatMap (fun p => p.1 ++ Label.write p.2) ++
      ((writeAll id (f.last ++ f.tail) ++ ['\n', '\n']) ++
        (f.bodies stem).flatMap fun p => Label.write p.1 ++ p.2) := by
  simp [converted, marked, definitionsText, notes, marks, bodies, bodyText, h, List.flatMap_map]

theorem pieces_of_spans_ne_nil (stem : Text) (h : f.spans ≠ []) :
    f.pieces = (f.marks stem).map (·.1) ++
      (writeAll id (f.last ++ f.tail) ++ ['\n', '\n']) :: (f.bodies stem).map (·.2) := by
  have hplain := map_fst_zipIdx (writeAll id ·.1) f.spans 1
  have hbody := map_fst_zipIdx (fun span => bodyText (writeAll id span.2)) f.spans 1
  rw [pieces, if_neg h, ← hplain, ← hbody, marks, bodies, List.map_map, List.map_map]
  rfl

/-- A converted document is woven from the pieces of its factorisation. -/
theorem woven_converted {stem t : Text} (hstem : IsId stem) (ht : Unlabelled stem t)
    (hf : f.Splits (tokensOf t)) : Woven stem (f.converted stem) f.pieces := by
  have hpart : ∀ {as : List Token}, as <:+: f.tokens → Unlabelled stem (writeAll id as) :=
    fun h => ht.of_infix (hf.infix_of_infix_tokens h)
  by_cases hspans : f.spans = []
  · rw [converted_of_spans_eq_nil stem hspans, pieces, if_pos hspans]
    exact .single (hpart List.infix_rfl)
  · have hmarks : ∀ p ∈ f.marks stem, Unlabelled stem p.1 ∧ IsNumbered stem p.2 := by
      refine List.forall_mem_map.mpr fun p hp => ?_
      have hspan := infix_tokens (List.fst_mem_of_mem_zipIdx hp)
      exact ⟨hpart hspan.1, isNumbered_numberedId p.2⟩
    have hbodies : ∀ p ∈ f.bodies stem, IsNumbered stem p.1 ∧ Unlabelled stem p.2 := by
      refine List.forall_mem_map.mpr fun p hp => ?_
      have hspan := infix_tokens (List.fst_mem_of_mem_zipIdx hp)
      exact ⟨isNumbered_numberedId p.2, (hpart hspan.2).bodyText hstem⟩
    have hlast : Unlabelled stem (writeAll id (f.last ++ f.tail)) :=
      hpart f.last_append_tail_suffix_tokens.isInfix
    rw [converted_of_spans_ne_nil stem hspans, pieces_of_spans_ne_nil stem hspans]
    exact (Woven.append_flatMap hbodies (hlast.blank_line hstem)).flatMap_append hmarks

theorem writeAll_tokens : writeAll id f.tokens =
    ((f.spans.map (writeAll id ·.1)).zip (f.spans.map (writeAll id ·.2))).flatMap
      (fun p => p.1 ++ Label.opener ++ p.2 ++ [']']) ++ writeAll id (f.last ++ f.tail) := by
  rw [List.zip_map']
  simp [tokens, closer, writeAll_flatMap, List.flatMap_map]

theorem length_pieces : f.pieces.length = 2 * f.spans.length + 1 := by
  unfold pieces
  split
  · next h => simp [h]
  · simp only [List.length_append, List.length_cons, List.length_map]
    omega

/-- The document can be put together from the pieces. -/
theorem writeAll_tokens_of_pieces_eq (h : f.pieces = g.pieces) :
    writeAll id f.tokens = writeAll id g.tokens := by
  have hlen : f.spans.length = g.spans.length := by
    have hpieces := congrArg List.length h
    rw [length_pieces, length_pieces] at hpieces
    omega
  have hnil : f.spans = [] ↔ g.spans = [] := by
    rw [← List.length_eq_zero_iff, ← List.length_eq_zero_iff, hlen]
  by_cases hf : f.spans = []
  · rw [pieces, pieces, if_pos hf, if_pos (hnil.mp hf)] at h
    exact (List.cons.inj h).1
  · rw [pieces, pieces, if_neg hf, if_neg fun hg => hf (hnil.mpr hg)] at h
    obtain ⟨hplain, hrest⟩ := List.append_inj h (by simpa using hlen)
    obtain ⟨hlast, hdefinitions⟩ := List.cons.inj hrest
    have hbody : f.spans.map (writeAll id ·.2) = g.spans.map (writeAll id ·.2) := by
      apply (List.map_inj_right fun _ _ => bodyText_inj).mp
      simpa [Function.comp_def] using hdefinitions
    rw [writeAll_tokens, writeAll_tokens, hplain, hbody, List.append_cancel_right hlast]

end

end Factorisation

/-- Two documents without labels of the kind that conversion makes are the same if
they come out the same. -/
theorem convert_injective {stem t u : Text} (hstem : IsId stem) (ht : Unlabelled stem t)
    (hu : Unlabelled stem u) :
    ∃ r s, convert stem none t = .ok r ∧ convert stem none u = .ok s ∧
      (r.text = s.text → t = u) := by
  refine ⟨convertValid stem t, convertValid stem u, convert_eq_ok hstem (by simp),
    convert_eq_ok hstem (by simp), fun h => ?_⟩
  obtain ⟨f, hf⟩ := Factorisation.exists_splits (tokensOf t)
  obtain ⟨g, hg⟩ := Factorisation.exists_splits (tokensOf u)
  have hconverted : f.converted stem = g.converted stem := by
    rw [← (Factorisation.convertValid_of_splits stem hf).2, h,
      (Factorisation.convertValid_of_splits stem hg).2]
  have hpieces : f.pieces = g.pieces := by
    have hwoven := Factorisation.woven_converted hstem ht hf
    rw [hconverted] at hwoven
    exact hwoven.unique hstem (Factorisation.woven_converted hstem hu hg)
  have htokens := Factorisation.writeAll_tokens_of_pieces_eq hpieces
  rw [hf.tokens_eq, hg.tokens_eq, tokensOf, writeAll_tokensFor, tokensOf, writeAll_tokensFor]
    at htokens
  exact htokens

theorem unlabelled_of_not_infix {stem t : Text} (h : ¬ Label.opener ++ stem <:+: t) :
    Unlabelled stem t := by
  rintro id ⟨digits, -, -, rfl⟩ hl
  refine h (List.IsInfix.trans ⟨[], digits ++ [']'], ?_⟩ hl)
  simp [Label.write]

/-- A footnote, and a text that looks like the outcome of its conversion. -/
theorem convert_injective_lookalike :
    let t : Text := "[^b]".toList
    let u : Text := "[^m1]\n\n[^m1]: b\n".toList
    let stem : Text := "n".toList
    (IsId stem ∧ Unlabelled stem t ∧ Unlabelled stem u) ∧
      ∃ r s, convert stem none t = .ok r ∧ convert stem none u = .ok s ∧ r.text ≠ s.text := by
  intro t u stem
  have hstem : IsId stem := by decide
  have ht : Unlabelled stem t := unlabelled_of_not_infix (by decide +kernel)
  have hu : Unlabelled stem u := unlabelled_of_not_infix (by decide +kernel)
  obtain ⟨r, s, hr, hs, hinj⟩ := convert_injective hstem ht hu
  refine ⟨⟨hstem, ht, hu⟩, r, s, hr, hs, fun htext => ?_⟩
  have hne : t ≠ u := by decide
  exact hne (hinj htext)

end InlineNotes
