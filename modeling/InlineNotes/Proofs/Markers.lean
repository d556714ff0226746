import InlineNotes.Proofs.Decoding

/-!
# Labels that stand for one footnote

If a document does not hold the label that one of its footnotes gets, then this label
stands in the converted document twice: in the place of the footnote, and where the
footnote is defined (`convert_marks_twice`). The labels of other footnotes and the few
characters of the definitions are put between parts of the document, and a label can
neither lie across one of these borders nor overlap another label, even if one id starts
with the other. The labels in front of the definitions come in the order of the
footnotes, and all of them before the first definition.
-/
namespace InlineNotes
open Atom

section
variable {i : Text} (hi : IsId i)
include hi

/-- A text that is put together with a label in two places has it in these two. -/
theorem prefix_iff_of_twice {first middle last before : Text} (hfirst : Lacks i first)
    (hmiddle : Lacks i middle) (hlast : Lacks i last) :
    before ++ Label.write i <+: first ++ (Label.write i ++ (middle ++ (Label.write i ++ last))) ↔
      before = first ∨ before = first ++ (Label.write i ++ middle) := by
  constructor
  · intro h
    rcases prefix_append_write_append hi hi h with hin | ⟨rfl, -⟩ | ⟨b, rfl, hrest⟩
    · exact absurd hin hfirst.not_append_prefix
    · exact Or.inl rfl
    rcases prefix_append_write_append hi hi hrest with hin | ⟨rfl, -⟩ | ⟨b', -, hin⟩
    · exact absurd hin hmiddle.not_append_prefix
    · exact Or.inr rfl
    · exact absurd hin hlast.not_append_prefix
  · rintro (rfl | rfl)
    · exact ⟨middle ++ (Label.write i ++ last), by simp⟩
    · exact ⟨last, by simp⟩

/-- Parts that lack a label, each with another label behind it. -/
theorem Lacks.flatMap_append {pairs : List (Text × Text)} {rest : Text}
    (hpairs : ∀ p ∈ pairs, Lacks i p.1 ∧ IsId p.2 ∧ i ≠ p.2) (h : Lacks i rest) :
    Lacks i (pairs.flatMap (fun p => p.1 ++ Label.write p.2) ++ rest) := by
  induction pairs with
  | nil => exact h
  | cons p pairs ih =>
    obtain ⟨⟨hp, hid, hne⟩, hrest⟩ := List.forall_mem_cons.mp hpairs
    rw [List.flatMap_cons, List.append_assoc, List.append_assoc]
    exact hp.append_write hi hid hne (ih hrest)

/-- Parts that lack a label, each with another label before it. -/
theorem Lacks.append_flatMap {pairs : List (Text × Text)} {part : Text} (h : Lacks i part)
    (hpairs : ∀ p ∈ pairs, IsId p.1 ∧ i ≠ p.1 ∧ Lacks i p.2) :
    Lacks i (part ++ pairs.flatMap fun p => Label.write p.1 ++ p.2) := by
  induction pairs generalizing part with
  | nil => simpa using h
  | cons p pairs ih =>
    obtain ⟨⟨hid, hne, hp⟩, hrest⟩ := List.forall_mem_cons.mp hpairs
    rw [List.flatMap_cons, List.append_assoc]
    exact h.append_write hi hid hne (ih hp hrest)

end

namespace Factorisation

/-- What precedes the footnote with the given index, the first one having index zero. -/
def upTo (f : Factorisation) (k : Nat) : Factorisation :=
  ⟨f.spans.take k, (f.spans[k]?.map (·.1)).getD [], []⟩

/-- What precedes the label in the place of the footnote. -/
def front (stem : Text) (f : Factorisation) (k : Nat) : Text := (f.upTo k).marked stem

/-- What precedes the label in the definition of the footnote. -/
def back (stem : Text) (f : Factorisation) (k : Nat) : Text :=
  f.marked stem ++ (['\n', '\n'] ++
    ((f.notes stem).take k).flatMap fun (id, body) => Label.write id ++ bodyText body)

/-- Plain parts, each with the id of the label behind it, which are numbered from `n` on. -/
def marksFrom (stem : Text) (n : Nat) (spans : List (List Token × List Token)) :
    List (Text × Text) :=
  (spans.zipIdx n).map fun p => (writeAll id p.1.1, numberedId stem p.2)

/-- Bodies with what is put around them, each with the id of the label before it. -/
def bodiesFrom (stem : Text) (n : Nat) (spans : List (List Token × List Token)) :
    List (Text × Text) :=
  (spans.zipIdx n).map fun p => (numberedId stem p.2, bodyText (writeAll id p.1.2))

section
variable {stem : Text} {f : Factorisation} {span : List Token × List Token}
  {xs ys : List (List Token × List Token)}

theorem upTo_of_spans_eq (h : f.spans = xs ++ span :: ys) :
    f.upTo xs.length = ⟨xs, span.1, []⟩ := by
  simp [upTo, h]

theorem upTo_upTo {j k : Nat} (h : j < k) : (f.upTo k).upTo j = f.upTo j := by
  simp [upTo, List.take_take, h, Nat.min_eq_left (Nat.le_of_lt h)]

theorem front_of_spans_eq (stem : Text) (h : f.spans = xs ++ span :: ys) :
    f.front stem xs.length =
      (marksFrom stem 1 xs).flatMap (fun p => p.1 ++ Label.write p.2) ++ writeAll id span.1 := by
  rw [front, upTo_of_spans_eq h]
  simp [marked, marksFrom, List.flatMap_map]

theorem marked_of_spans_eq (stem : Text) (h : f.spans = xs ++ span :: ys) :
    f.marked stem = f.front stem xs.length ++
      (Label.write (numberedId stem (xs.length + 1 : Nat)) ++
        ((marksFrom stem (xs.length + 2) ys).flatMap (fun p => p.1 ++ Label.write p.2) ++
          writeAll id (f.last ++ f.tail))) := by
  rw [front_of_spans_eq stem h, marked, h, List.zipIdx_append, List.zipIdx_cons]
  simp [marksFrom, List.flatMap_map, Nat.add_comm, Nat.add_left_comm]

theorem back_of_spans_eq (stem : Text) (h : f.spans = xs ++ span :: ys) :
    f.back stem xs.length = f.marked stem ++ (['\n', '\n'] ++
      (bodiesFrom stem 1 xs).flatMap fun p => Label.write p.1 ++ p.2) := by
  rw [back, notes, h, List.zipIdx_append, List.map_append, List.take_left' (by simp)]
  simp [bodiesFrom, List.flatMap_map]

/-- A converted document from one of its definitions on. -/
theorem converted_of_spans_eq (stem : Text) (h : f.spans = xs ++ span :: ys) :
    f.converted stem = f.back stem xs.length ++
      (Label.write (numberedId stem (xs.length + 1 : Nat)) ++ (bodyText (writeAll id span.2) ++
        (bodiesFrom stem (xs.length + 2) ys).flatMap fun p => Label.write p.1 ++ p.2)) := by
  rw [back_of_spans_eq stem h, converted, definitionsText, notes, h, List.zipIdx_append,
    List.zipIdx_cons, if_neg (by simp)]
  simp [bodiesFrom, bodyText, List.flatMap_map, Nat.add_comm, Nat.add_left_comm]

theorem numberedId_ne_of_mem_zipIdx {n m : Nat} {zs : List (List Token × List Token)}
    {p : (List Token × List Token) × Nat} (hp : p ∈ zs.zipIdx m)
    (hn : n < m ∨ m + zs.length ≤ n) : numberedId stem n ≠ numberedId stem p.2 := by
  intro heq
  have hlow := List.le_snd_of_mem_zipIdx hp
  have hhigh := List.snd_lt_add_of_mem_zipIdx hp
  have hnumber := numberedId_inj heq
  omega

section
variable {n m : Nat} {zs : List (List Token × List Token)} (hstem : IsId stem)
  (hlacks : Lacks (numberedId stem n) (writeAll id f.tokens)) (hzs : zs ⊆ f.spans)
  (hn : n < m ∨ m + zs.length ≤ n)
include hstem hlacks hzs hn

/-- The parts of a document lack a label that the document lacks, and the labels that other
footnotes get are different from it. -/
theorem lacks_of_mem_marksFrom : ∀ p ∈ marksFrom stem m zs,
    Lacks (numberedId stem n) p.1 ∧ IsId p.2 ∧ numberedId stem n ≠ p.2 := by
  refine List.forall_mem_map.mpr fun p hp => ?_
  have hpart := infix_tokens (hzs (List.fst_mem_of_mem_zipIdx hp))
  have hwritten := writeAll_infix id hpart.1
  exact ⟨hlacks.of_infix hwritten, isId_numberedId hstem p.2, numberedId_ne_of_mem_zipIdx hp hn⟩

theorem lacks_of_mem_bodiesFrom : ∀ p ∈ bodiesFrom stem m zs,
    IsId p.1 ∧ numberedId stem n ≠ p.1 ∧ Lacks (numberedId stem n) p.2 := by
  refine List.forall_mem_map.mpr fun p hp => ?_
  have hpart := infix_tokens (hzs (List.fst_mem_of_mem_zipIdx hp))
  have hwritten := writeAll_infix id hpart.2
  exact ⟨isId_numberedId hstem p.2, numberedId_ne_of_mem_zipIdx hp hn,
    (hlacks.of_infix hwritten).bodyText (isId_numberedId hstem n)⟩

end

/-- What stands in a converted document between the two labels of a footnote: the later
footnotes, the rest of the document, and the definitions of the earlier footnotes. -/
def between (stem : Text) (f : Factorisation) (k : Nat) : Text :=
  (marksFrom stem (k + 2) (f.spans.drop (k + 1))).flatMap (fun p => p.1 ++ Label.write p.2) ++
    (writeAll id (f.last ++ f.tail) ++ ['\n', '\n'] ++
      (bodiesFrom stem 1 (f.spans.take k)).flatMap fun p => Label.write p.1 ++ p.2)

theorem back_eq (stem : Text) (h : f.spans = xs ++ span :: ys) :
    f.back stem xs.length = f.front stem xs.length ++
      (Label.write (numberedId stem (xs.length + 1 : Nat)) ++ f.between stem xs.length) := by
  rw [back_of_spans_eq stem h, marked_of_spans_eq stem h, between, h]
  simp

theorem lacks_between {k : Nat} (hstem : IsId stem)
    (hlacks : Lacks (numberedId stem (k + 1 : Nat)) (writeAll id f.tokens)) :
    Lacks (numberedId stem (k + 1 : Nat)) (f.between stem k) := by
  have hi := isId_numberedId hstem (k + 1)
  have hend := writeAll_infix id f.last_append_tail_suffix_tokens.isInfix
  refine Lacks.flatMap_append hi ?_ (Lacks.append_flatMap hi ?_ ?_)
  · exact lacks_of_mem_marksFrom hstem hlacks (List.drop_subset _ _) (by omega)
  · exact (hlacks.of_infix hend).blank_line hi
  · refine lacks_of_mem_bodiesFrom hstem hlacks (List.take_subset _ _) (Or.inr ?_)
    have hlength := List.length_take_le k f.spans
    omega

section
variable (hstem : IsId stem)
  (hlacks : Lacks (numberedId stem (xs.length + 1 : Nat)) (writeAll id f.tokens))
  (h : f.spans = xs ++ span :: ys)
include hstem hlacks h

theorem lacks_front : Lacks (numberedId stem (xs.length + 1 : Nat)) (f.front stem xs.length) := by
  have hxs : xs ⊆ f.spans := h ▸ List.subset_append_left _ _
  have hspan : span ∈ f.spans := h ▸ List.mem_append_right _ List.mem_cons_self
  have hbefore := writeAll_infix id (infix_tokens hspan).1
  rw [front_of_spans_eq stem h]
  exact Lacks.flatMap_append (isId_numberedId hstem _)
    (lacks_of_mem_marksFrom hstem hlacks hxs (by omega)) (hlacks.of_infix hbefore)

/-- A label that the document lacks stands in the converted document twice. -/
theorem prefix_converted_iff {before : Text} :
    before ++ Label.write (numberedId stem (xs.length + 1 : Nat)) <+: f.converted stem ↔
      before = f.front stem xs.length ∨ before = f.back stem xs.length := by
  have hi := isId_numberedId hstem (xs.length + 1)
  have hys : ys ⊆ f.spans := fun other hother =>
    h ▸ List.mem_append_right _ (List.mem_cons_of_mem _ hother)
  have hspan : span ∈ f.spans := h ▸ List.mem_append_right _ List.mem_cons_self
  have hbody := writeAll_infix id (infix_tokens hspan).2
  have hrest : Lacks (numberedId stem (xs.length + 1 : Nat)) (bodyText (writeAll id span.2) ++
      (bodiesFrom stem (xs.length + 2) ys).flatMap fun p => Label.write p.1 ++ p.2) :=
    Lacks.append_flatMap hi ((hlacks.of_infix hbody).bodyText hi)
      (lacks_of_mem_bodiesFrom hstem hlacks hys (by omega))
  rw [converted_of_spans_eq stem h, back_eq stem h, ← prefix_iff_of_twice hi
    (lacks_front hstem hlacks h) (lacks_between hstem hlacks) hrest]
  simp only [List.append_assoc]

end

/-- The footnote stands in the document where its label stands in the converted one. -/
theorem tokens_of_spans_eq (h : f.spans = xs ++ span :: ys) :
    f.tokens = (f.upTo xs.length).tokens ++ (opener ++ span.2 ++ [closer]) ++
      (⟨ys, f.last, f.tail⟩ : Factorisation).tokens := by
  rw [upTo_of_spans_eq h]
  simp [tokens, h]

theorem exists_spans_eq {k : Nat} (h : f.spans[k]? = some span) :
    ∃ xs ys, f.spans = xs ++ span :: ys ∧ xs.length = k := by
  obtain ⟨hk, hspan⟩ := List.getElem?_eq_some_iff.mp h
  refine ⟨f.spans.take k, f.spans.drop (k + 1), ?_, List.length_take_of_le (Nat.le_of_lt hk)⟩
  rw [← hspan, List.getElem_cons_drop, List.take_append_drop]

theorem front_append_label_prefix_marked (stem : Text) {k : Nat} (h : k < f.spans.length) :
    f.front stem k ++ Label.write (numberedId stem (k + 1 : Nat)) <+: f.marked stem := by
  obtain ⟨xs, ys, hspans, rfl⟩ := exists_spans_eq (List.getElem?_eq_getElem h)
  rw [marked_of_spans_eq stem hspans, ← List.append_assoc]
  exact List.prefix_append _ _

theorem length_front_lt_length_marked (stem : Text) {k : Nat} (h : k < f.spans.length) :
    (f.front stem k).length < (f.marked stem).length := by
  have hle := (front_append_label_prefix_marked stem h).length_le
  simp only [Label.write, Label.opener, List.length_append, List.length_cons] at hle
  omega

/-- The labels in the places of the footnotes come in the order of the footnotes. What
precedes the later footnote is a document of its own, in which the earlier one is. -/
theorem length_front_lt_length_front (stem : Text) {j k : Nat} (hjk : j < k)
    (h : k < f.spans.length) : (f.front stem j).length < (f.front stem k).length := by
  have hj : j < (f.upTo k).spans.length := by
    rw [upTo, List.length_take]
    omega
  have hlt := length_front_lt_length_marked stem hj
  rwa [front, upTo_upTo hjk] at hlt

theorem length_front_lt_length_back (stem : Text) {j k : Nat} (h : j < f.spans.length) :
    (f.front stem j).length < (f.back stem k).length := by
  have hlt := length_front_lt_length_marked stem h
  rw [back, List.length_append]
  omega

end

end Factorisation

/-- The label that a conversion makes for a footnote stands in the place of the footnote and
in front of its definition. If it does not stand in the document, it stands nowhere else.
The labels of all footnotes come in order, and behind them come the definitions. -/
theorem convert_marks_twice {stem t : Text} {limit : Option Int} (hstem : IsId stem)
    (hlimit : ∀ m ∈ limit, (t.length : Int) ≤ m) :
    ∃ (r : Conversion) (f : Factorisation), convert stem limit t = .ok r ∧
      (∀ g : Factorisation, g.Splits (tokensOf t) ↔ g = f) ∧ r.notes.entries = f.notes stem ∧
      r.text = f.marked stem ++ definitionsText r.notes.entries ∧
      ∀ k span, f.spans[k]? = some span →
        let label := Label.write (numberedId stem (k + 1 : Nat))
        let body := writeAll id span.2
        (¬ label <:+: t → ∀ before,
          before ++ label <+: r.text ↔ before = f.front stem k ∨ before = f.back stem k) ∧
        writeAll id (f.upTo k).tokens ++ (Label.opener ++ body ++ [']']) <+: t ∧
        f.front stem k ++ label <+: f.marked stem ∧
        f.back stem k ++ (label ++ ([':', ' '] ++ body ++ ['\n'])) <+: r.text ∧
        (∀ j < k, (f.front stem j).length < (f.front stem k).length) ∧
        ∀ j < f.spans.length, (f.front stem k).length < (f.back stem j).length := by
  obtain ⟨f, hf⟩ := Factorisation.exists_splits (tokensOf t)
  obtain ⟨hnotes, htext⟩ := Factorisation.convertValid_of_splits stem hf
  have hwrite : writeAll id f.tokens = t := by
    rw [hf.tokens_eq]
    exact (isReading_tokensOf t).spells
  refine ⟨convertValid stem t, f, convert_eq_ok hstem hlimit,
    fun g => ⟨fun hg => hg.unique hf, fun hg => hg ▸ hf⟩, hnotes, hnotes ▸ htext,
    fun k span hspan => ?_⟩
  have hk : k < f.spans.length := (List.getElem?_eq_some_iff.mp hspan).1
  obtain ⟨xs, ys, hspans, rfl⟩ := Factorisation.exists_spans_eq hspan
  rw [htext]
  refine ⟨fun hlacks before => ?_, ?_, Factorisation.front_append_label_prefix_marked stem hk, ?_,
    fun j hj => Factorisation.length_front_lt_length_front stem hj hk,
    fun j _ => Factorisation.length_front_lt_length_back stem hk⟩
  · rw [← hwrite] at hlacks
    exact Factorisation.prefix_converted_iff hstem hlacks hspans
  · rw [← hwrite, Factorisation.tokens_of_spans_eq hspans]
    simp [closer]
  · rw [Factorisation.converted_of_spans_eq stem hspans]
    simp [bodyText]

/-- A footnote whose label the document lacks, and one whose label stands in the body of the
first. -/
theorem convert_marks_twice_nested :
    let t : Text := "[^a[^n2]]x[^b]".toList
    let stem : Text := "n".toList
    let label := Label.write "n1".toList
    (IsId stem ∧ (∀ m ∈ some 14, (t.length : Int) ≤ m) ∧ ¬ label <:+: t) ∧
      ∃ r, convert stem (some 14) t = .ok r ∧
        r.text = "[^n1]x[^n2]\n\n[^n1]: a[^n2]\n[^n2]: b\n".toList ∧
        ∀ before, before ++ label <+: r.text ↔
          before = [] ∨ before = "[^n1]x[^n2]\n\n".toList := by
  intro t stem label
  have hstem : IsId stem := by decide
  have hlimit : ∀ m ∈ some 14, (t.length : Int) ≤ m := by
    intro m hm
    cases hm
    decide
  have hlacks : ¬ label <:+: t := by decide +kernel
  obtain ⟨r, f, hr, hunique, -, -, hmarks⟩ := convert_marks_twice hstem hlimit
  let g : Factorisation :=
    ⟨[([], ofText "a[^n2]".toList), (ofText "x".toList, ofText "b".toList)], [], []⟩
  have hplain : Plain (ofText "x".toList : List Token) := by
    unfold Plain
    decide +kernel
  have hg : g.Splits (tokensOf t) :=
    { tokens_eq := by decide +kernel
      plain_before := List.forall_mem_cons.mpr ⟨plain_nil, List.forall_mem_singleton.mpr hplain⟩
      plain_last := plain_nil
      balanced := List.forall_mem_cons.mpr
        ⟨balanced_iff.mpr rfl, List.forall_mem_singleton.mpr (balanced_iff.mpr rfl)⟩
      unclosed := Or.inl rfl }
  obtain rfl := (hunique g).mp hg
  obtain ⟨htwice, -⟩ := hmarks 0 _ rfl
  have hfront : g.front stem 0 = [] := by decide +kernel
  have hback : g.back stem 0 = "[^n1]x[^n2]\n\n".toList := by decide +kernel
  rw [hfront, hback] at htwice
  have hr' := hr
  rw [convert_eq_ok hstem hlimit] at hr'
  cases hr'
  exact ⟨⟨hstem, hlimit, hlacks⟩, _, hr, by decide +kernel, htwice hlacks⟩

end InlineNotes
