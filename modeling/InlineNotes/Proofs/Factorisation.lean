import InlineNotes.Proofs.Numbering
import InlineNotes.Proofs.Protection

/-!
# What a conversion means

The tokens of a document are a plain part, a footnote, a plain part, a footnote
and so on; a last plain part; and a tail, which is a footnote that never closes
or nothing at all. There is one such factorisation. It does not depend on the
ids that are handed out, and the result of converting the document can be read
off it: labels in place of the footnotes, everything else as it was, and behind
it one definition for every footnote (`convert_factorisation`).
-/
namespace InlineNotes
open Atom

structure Factorisation where
  /-- What stands before each footnote, and its body. -/
  spans : List (List Token × List Token)
  last : List Token
  tail : List Token

namespace Factorisation

def tokens (f : Factorisation) : List Token :=
  f.spans.flatMap (fun (before, body) => before ++ opener ++ body ++ [closer]) ++ f.last ++ f.tail

/-- The factorisation of a list of tokens: no opener in a plain part, balanced
bodies, and a tail in which no bracket closes the footnote. -/
structure Splits (f : Factorisation) (tokens : List Token) : Prop where
  tokens_eq : f.tokens = tokens
  plain_before : ∀ span ∈ f.spans, Plain span.1
  plain_last : Plain f.last
  balanced : ∀ span ∈ f.spans, Balanced span.2
  unclosed : f.tail = [] ∨ ∃ rest, f.tail = opener ++ rest ∧ NeverCloses rest

/-- The footnotes in their order, numbered from one on. -/
def notes (stem : Text) (f : Factorisation) : List (Text × Text) :=
  (f.spans.zipIdx 1).map fun ((_, body), n) => (numberedId stem n, writeAll id body)

/-- The document with a label in place of each footnote. -/
def marked (stem : Text) (f : Factorisation) : Text :=
  (f.spans.zipIdx 1).flatMap (fun ((before, _), n) =>
    writeAll id before ++ Label.write (numberedId stem n)) ++
      writeAll id f.last ++ writeAll id f.tail

def converted (stem : Text) (f : Factorisation) : Text :=
  f.marked stem ++ definitionsText (f.notes stem)

section
variable {before body last tail ts : List Token} {spans : List (List Token × List Token)}

theorem tokens_cons : (⟨(before, body) :: spans, last, tail⟩ : Factorisation).tokens =
    before ++ (opener ++ (body ++ closer :: (⟨spans, last, tail⟩ : Factorisation).tokens)) := by
  simp [tokens]

theorem splits_nil_iff : (⟨[], last, tail⟩ : Factorisation).Splits ts ↔
    ts = last ++ tail ∧ Plain last ∧
      (tail = [] ∨ ∃ rest, tail = opener ++ rest ∧ NeverCloses rest) := by
  constructor
  · intro h
    exact ⟨by simpa [tokens] using h.tokens_eq.symm, h.plain_last, h.unclosed⟩
  · intro h
    obtain ⟨rfl, hlast, htail⟩ := h
    exact ⟨by simp [tokens], by simp, hlast, by simp, htail⟩

theorem splits_cons_iff : (⟨(before, body) :: spans, last, tail⟩ : Factorisation).Splits ts ↔
    ∃ rest, ts = before ++ (opener ++ (body ++ closer :: rest)) ∧ Plain before ∧ Balanced body ∧
      (⟨spans, last, tail⟩ : Factorisation).Splits rest := by
  constructor
  · intro h
    refine ⟨_, (tokens_cons.symm.trans h.tokens_eq).symm, h.plain_before _ List.mem_cons_self,
      h.balanced _ List.mem_cons_self, rfl, ?_, h.plain_last, ?_, h.unclosed⟩
    · exact fun span hs => h.plain_before span (List.mem_cons_of_mem _ hs)
    · exact fun span hs => h.balanced span (List.mem_cons_of_mem _ hs)
  · intro hsplit
    obtain ⟨rest, rfl, hbefore, hbody, h⟩ := hsplit
    refine ⟨by rw [tokens_cons, h.tokens_eq], ?_, h.plain_last, ?_, h.unclosed⟩
    · exact List.forall_mem_cons.mpr ⟨hbefore, h.plain_before⟩
    · exact List.forall_mem_cons.mpr ⟨hbody, h.balanced⟩

end

theorem infix_tokens {f : Factorisation} {span : List Token × List Token} (h : span ∈ f.spans) :
    span.1 <:+: f.tokens ∧ span.2 <:+: f.tokens := by
  obtain ⟨xs, ys, hspans⟩ := List.append_of_mem h
  have htokens : f.tokens = (⟨xs, [], []⟩ : Factorisation).tokens ++ (span.1 ++
      (opener ++ (span.2 ++ closer :: (⟨ys, f.last, f.tail⟩ : Factorisation).tokens))) := by
    simp [tokens, hspans]
  constructor
  · rw [htokens]
    exact List.infix_append' _ _ _
  · rw [htokens, ← List.append_assoc, ← List.append_assoc]
    exact List.infix_append' _ _ _

theorem last_infix_tokens (f : Factorisation) : f.last <:+: f.tokens :=
  List.infix_append _ _ _

theorem last_append_tail_suffix_tokens (f : Factorisation) : f.last ++ f.tail <:+ f.tokens := by
  rw [tokens, List.append_assoc]
  exact List.suffix_append _ _

theorem notes_eq_nil_iff {stem : Text} {f : Factorisation} : f.notes stem = [] ↔ f.spans = [] := by
  simp [notes]

section
variable {t : Text} {f : Factorisation} (h : f.Splits (tokensOf t))
include h

/-- The factorisation spells the document. -/
theorem Splits.spells : writeAll id f.tokens = t := by
  rw [h.tokens_eq]
  exact (isReading_tokensOf t).spells

theorem Splits.infix_of_infix_tokens {as : List Token} (has : as <:+: f.tokens) :
    writeAll id as <:+: t := by
  have hpart := writeAll_infix id has
  rwa [h.spells] at hpart

end

/-- Every list of tokens has a factorisation: cut it at its first opener and then
at the bracket that closes there. -/
theorem exists_splits (ts : List Token) : ∃ f : Factorisation, f.Splits ts := by
  induction h : ts.length using Nat.strong_induction_on generalizing ts with
  | _ n ih =>
    by_cases hplain : Plain ts
    · exact ⟨⟨[], ts, []⟩, splits_nil_iff.mpr ⟨by simp, hplain, Or.inl rfl⟩⟩
    · obtain ⟨before, after, rfl, hbefore⟩ := exists_first_opener hplain
      cases hdepth : depthAfter 0 after with
      | some d =>
        refine ⟨⟨[], before, opener ++ after⟩, splits_nil_iff.mpr ⟨rfl, hbefore, Or.inr ?_⟩⟩
        exact ⟨after, rfl, neverCloses_iff.mpr ⟨d, hdepth⟩⟩
      | none =>
        obtain ⟨body, rest, rfl, hbody⟩ := exists_first_closer hdepth
        have hlt : rest.length < n := by
          rw [← h]
          simp
          omega
        obtain ⟨f, hf⟩ := ih _ hlt rest rfl
        exact ⟨⟨(before, body) :: f.spans, f.last, f.tail⟩,
          splits_cons_iff.mpr ⟨rest, rfl, hbefore, balanced_iff.mpr hbody, hf⟩⟩

/-- A closed footnote is not also a tail that never closes. -/
theorem not_splits_nil_of_closed {before body rest last tail : List Token} (hbefore : Plain before)
    (hbody : Balanced body) :
    ¬ (⟨[], last, tail⟩ : Factorisation).Splits
      (before ++ (opener ++ (body ++ closer :: rest))) := by
  intro h
  obtain ⟨heq, hlast, rfl | ⟨r, rfl, hr⟩⟩ := splits_nil_iff.mp h
  · rw [List.append_nil] at heq
    exact hlast ⟨before, body ++ closer :: rest, by rw [← heq]; simp⟩
  · obtain ⟨rfl, rfl⟩ := first_opener_unique heq hbefore hlast
    obtain ⟨d, hd⟩ := neverCloses_iff.mp hr
    rw [depthAfter_append_closer (balanced_iff.mp hbody)] at hd
    cases hd

/-- A plain part ends where the tail starts. -/
theorem last_tail_unique {last tail last' tail' ts : List Token}
    (h : (⟨[], last, tail⟩ : Factorisation).Splits ts)
    (h' : (⟨[], last', tail'⟩ : Factorisation).Splits ts) : last = last' ∧ tail = tail' := by
  obtain ⟨rfl, hlast, htail⟩ := splits_nil_iff.mp h
  obtain ⟨heq, hlast', htail'⟩ := splits_nil_iff.mp h'
  rcases htail with rfl | ⟨rest, rfl, -⟩
  · rcases htail' with rfl | ⟨rest', rfl, -⟩
    · exact ⟨by simpa using heq, rfl⟩
    · rw [List.append_nil] at heq
      exact absurd ⟨last', rest', by rw [heq]; simp⟩ hlast
  · rcases htail' with rfl | ⟨rest', rfl, -⟩
    · rw [List.append_nil] at heq
      exact absurd ⟨last, rest, by rw [← heq]; simp⟩ hlast'
    · obtain ⟨rfl, rfl⟩ := first_opener_unique heq hlast hlast'
      exact ⟨rfl, rfl⟩

theorem Splits.unique {f g : Factorisation} {ts : List Token} (hf : f.Splits ts)
    (hg : g.Splits ts) : f = g := by
  obtain ⟨fs, fl, ft⟩ := f
  obtain ⟨gs, gl, gt⟩ := g
  induction fs generalizing gs ts with
  | nil =>
    cases gs with
    | nil =>
      obtain ⟨rfl, rfl⟩ := last_tail_unique hf hg
      rfl
    | cons span gs =>
      obtain ⟨rest, rfl, hbefore, hbody, -⟩ := splits_cons_iff.mp hg
      exact absurd hf (not_splits_nil_of_closed hbefore hbody)
  | cons span fs ih =>
    obtain ⟨rest, rfl, hbefore, hbody, hrest⟩ := splits_cons_iff.mp hf
    cases gs with
    | nil => exact absurd hg (not_splits_nil_of_closed hbefore hbody)
    | cons span' gs =>
      obtain ⟨rest', heq, hbefore', hbody', hrest'⟩ := splits_cons_iff.mp hg
      obtain ⟨hb, hafter⟩ := first_opener_unique heq hbefore hbefore'
      obtain ⟨hbd, rfl⟩ := first_closer_unique hafter (balanced_iff.mp hbody)
        (balanced_iff.mp hbody')
      have hspan : span = span' := Prod.ext hb hbd
      obtain ⟨rfl, rfl, rfl⟩ := by simpa using ih hrest gs hrest'
      rw [hspan]

theorem map_fst_zipIdx {α β : Type} (F : α → β) (xs : List α) (start : Nat) :
    (xs.zipIdx start).map (fun p => F p.1) = xs.map F := by
  have hcomp : (fun p : α × Nat => F p.1) = F ∘ Prod.fst := rfl
  rw [hcomp, ← List.map_map, List.zipIdx_map_fst]

section
variable (stem : Text)

/-- The walk over the closed footnotes: it emits the plain parts and the labels,
and puts the bodies at the end of the table. -/
theorem readAtoms_spans {spans : List (List Token × List Token)} {last tail ts : List Token}
    (h : (⟨spans, last, tail⟩ : Factorisation).Splits ts) (emitted : List Token)
    {notes : Table Text (List Token)} {number : Nat} (hfresh : FreshFrom stem number notes) :
    ∃ notes' : Table Text (List Token),
      notes'.entries = notes.entries ++
        (spans.zipIdx number).map (fun (span, n) => (numberedId stem n, span.2)) ∧
      FreshFrom stem (number + spans.length) notes' ∧
      Walk.readAtoms stem ⟨emitted, notes, number, .outside⟩ ts =
        Walk.readAtoms stem ⟨emitted ++ (spans.zipIdx number).flatMap (fun (span, n) =>
          span.1 ++ ofText (Label.write (numberedId stem n))), notes', number + spans.length,
            .outside⟩ (last ++ tail) := by
  induction spans generalizing emitted notes number ts with
  | nil =>
    obtain ⟨rfl, -⟩ := splits_nil_iff.mp h
    exact ⟨notes, by simp, by simpa using hfresh, by simp⟩
  | cons span spans ih =>
    obtain ⟨before, body⟩ := span
    obtain ⟨rest, rfl, hbefore, hbody, hrest⟩ := splits_cons_iff.mp h
    obtain ⟨notes', hentries, hfresh', hwalk⟩ := ih hrest
      (emitted ++ before ++ ofText (Label.write (numberedId stem number))) (hfresh.put body)
    refine ⟨notes', ?_, ?_, ?_⟩
    · rw [hentries, hfresh.entries_put body]
      simp
    · simpa [Int.add_assoc, Int.add_comm 1] using hfresh'
    · rw [Walk.readAtoms_first_opener stem emitted notes number hbefore,
        Walk.readAtoms_first_closer stem _ notes number (balanced_iff.mp hbody), List.nil_append]
      apply hwalk.trans
      simp [Int.add_assoc, Int.add_comm 1]

/-- After the last footnote the plain part is emitted and the tail stays open. -/
theorem readAtoms_last_tail {last tail ts : List Token}
    (h : (⟨[], last, tail⟩ : Factorisation).Splits ts) (emitted : List Token)
    (notes : Table Text (List Token)) (number : Int) :
    ∃ place : Place Text, place.raw = tail ∧
      Walk.readAtoms stem ⟨emitted, notes, number, .outside⟩ ts =
        ⟨emitted ++ last, notes, number, place⟩ := by
  obtain ⟨rfl, hlast, rfl | ⟨rest, rfl, hrest⟩⟩ := splits_nil_iff.mp h
  · refine ⟨.outside, rfl, ?_⟩
    rw [List.append_nil, Walk.readAtoms_of_plain stem emitted notes number hlast]
  · obtain ⟨d, hd⟩ := neverCloses_iff.mp hrest
    refine ⟨.inside rest d, rfl, ?_⟩
    rw [Walk.readAtoms_first_opener stem emitted notes number hlast,
      Walk.readAtoms_body stem _ notes number hd, List.nil_append]

/-- The walk over a factorisation, from any point outside footnotes. -/
theorem readAtoms_of_splits {f : Factorisation} {ts : List Token} (h : f.Splits ts)
    (emitted : List Token) {notes : Table Text (List Token)} {number : Nat}
    (hfresh : FreshFrom stem number notes) :
    ∃ (notes' : Table Text (List Token)) (place : Place Text),
      notes'.entries = notes.entries ++
        (f.spans.zipIdx number).map (fun (span, n) => (numberedId stem n, span.2)) ∧
      FreshFrom stem (number + f.spans.length) notes' ∧ place.raw = f.tail ∧
      Walk.readAtoms stem ⟨emitted, notes, number, .outside⟩ ts =
        ⟨emitted ++ (f.spans.zipIdx number).flatMap (fun (span, n) =>
          span.1 ++ ofText (Label.write (numberedId stem n))) ++ f.last, notes',
            number + f.spans.length, place⟩ := by
  have hrest : (⟨[], f.last, f.tail⟩ : Factorisation).Splits (f.last ++ f.tail) :=
    splits_nil_iff.mpr ⟨rfl, h.plain_last, h.unclosed⟩
  obtain ⟨notes', hentries, hfresh', hwalk⟩ := readAtoms_spans stem h emitted hfresh
  obtain ⟨place, hraw, hend⟩ := readAtoms_last_tail stem hrest _ notes' _
  exact ⟨notes', place, hentries, hfresh', hraw, hwalk.trans hend⟩

/-- What the walk over a document has emitted and filed, by its factorisation. -/
theorem ofDocument_of_splits {t : Text} {f : Factorisation} (h : f.Splits (tokensOf t)) :
    (Walk.ofDocument stem t).emitted ++ (Walk.ofDocument stem t).place.raw =
        (f.spans.zipIdx 1).flatMap (fun (span, n) =>
          span.1 ++ ofText (Label.write (numberedId stem n))) ++ f.last ++ f.tail ∧
      (Walk.ofDocument stem t).notes.entries =
        (f.spans.zipIdx 1).map fun (span, n) => (numberedId stem n, span.2) := by
  have hfresh : FreshFrom stem (1 : Nat) (.empty : Table Text (List Token)) := freshFrom_empty
  obtain ⟨notes, place, hentries, -, hraw, hwalk⟩ := readAtoms_of_splits stem h [] hfresh
  have hdoc : Walk.ofDocument stem t = _ := hwalk
  rw [hdoc, hraw]
  exact ⟨rfl, hentries⟩

/-- Converting a document writes what its factorisation says. -/
theorem convertValid_of_splits {t : Text} {f : Factorisation} (h : f.Splits (tokensOf t)) :
    (convertValid stem t).notes.entries = f.notes stem ∧
      (convertValid stem t).text = f.converted stem := by
  obtain ⟨hpieces, hentries⟩ := ofDocument_of_splits stem h
  have hfiled : (convertValid stem t).notes.entries = f.notes stem := by
    rw [(convertValid_eq_walk stem t).2, Table.entries_map, hentries]
    simp [notes]
  refine ⟨hfiled, ?_⟩
  rw [text_convertValid, hpieces, hfiled, converted, marked]
  simp [writeAll_flatMap]

/-- Without footnotes nothing is added. -/
theorem converted_of_spans_eq_nil {f : Factorisation} (h : f.spans = []) :
    f.converted stem = writeAll id f.tokens := by
  simp [converted, marked, notes, definitionsText, tokens, h]

end

end Factorisation

/-- Without footnotes a conversion changes nothing. -/
theorem convertValid_of_spans_eq_nil {stem t : Text} {f : Factorisation}
    (h : f.Splits (tokensOf t)) (hspans : f.spans = []) :
    (convertValid stem t).text = t ∧ (convertValid stem t).notes.entries = [] := by
  obtain ⟨hnotes, htext⟩ := Factorisation.convertValid_of_splits stem h
  rw [Factorisation.converted_of_spans_eq_nil stem hspans, h.spells] at htext
  exact ⟨htext, hnotes.trans (Factorisation.notes_eq_nil_iff.mpr hspans)⟩

/-- Every document has one reading and one factorisation, whatever the stem of
the ids; converting it gives the bodies in their order and puts labels and
definitions where they belong. -/
theorem convert_factorisation (t : Text) :
    ∃ (tokens : List Token) (f : Factorisation),
      (∀ us, IsReading t us ↔ us = tokens) ∧ (∀ g : Factorisation, g.Splits tokens ↔ g = f) ∧
        ∀ (stem : Text) (limit : Option Int), IsId stem → (∀ m ∈ limit, (t.length : Int) ≤ m) →
          ∃ r, convert stem limit t = .ok r ∧ r.notes.entries = f.notes stem ∧
            r.text = f.converted stem ∧ (f.spans = [] → r.text = t) := by
  obtain ⟨f, hf⟩ := Factorisation.exists_splits (tokensOf t)
  refine ⟨tokensOf t, f, fun us => isReading_iff, fun g => ?_, ?_⟩
  · exact ⟨fun hg => hg.unique hf, fun hg => hg ▸ hf⟩
  · intro stem limit hstem hlimit
    obtain ⟨hnotes, htext⟩ := Factorisation.convertValid_of_splits stem hf
    refine ⟨convertValid stem t, convert_eq_ok hstem hlimit, hnotes, htext, fun hspans => ?_⟩
    rw [htext, Factorisation.converted_of_spans_eq_nil stem hspans, hf.tokens_eq]
    exact (isReading_tokensOf t).spells

/-- A footnote with a reference in its body, an empty one, the document's own
definition, which is read as a footnote too, and an opener that never closes. -/
theorem convert_factorisation_nested :
    let t : Text := "[[^a[^r]b]]x[^]\n[^r]:[^[o".toList
    let stem : Text := "fn".toList
    IsId stem ∧ (∀ m ∈ some 26, (t.length : Int) ≤ m) ∧
      ∃ (f : Factorisation) (r : Conversion), IsReading t f.tokens ∧ f.Splits f.tokens ∧
        convert stem (some 26) t = .ok r ∧ r.notes.entries = f.notes stem ∧
          r.text = f.converted stem ∧
            r.text = ("[[^fn1]]x[^fn2]\n[^fn3]:[^[o\n\n" ++
              "[^fn1]: a[^r]b\n[^fn2]: \n[^fn3]: r\n").toList := by
  intro t stem
  have hstem : IsId stem := by decide
  have hlimit : ∀ m ∈ some 26, (t.length : Int) ≤ m := by
    intro m hm
    cases hm
    decide
  obtain ⟨tokens, f, hread, hsplit, hconvert⟩ := convert_factorisation t
  obtain ⟨r, hr, hnotes, htext, -⟩ := hconvert stem (some 26) hstem hlimit
  have hf : f.Splits tokens := (hsplit f).mpr rfl
  have htokens : f.tokens = tokens := hf.tokens_eq
  refine ⟨hstem, hlimit, f, r, (hread f.tokens).mpr htokens, htokens.symm ▸ hf, hr, hnotes, htext,
    ?_⟩
  rw [convert_eq_ok hstem hlimit] at hr
  cases hr
  decide +kernel

end InlineNotes
