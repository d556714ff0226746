import Mathlib.Algebra.Ring.Nat
import InlineNotes.Pipeline.Basic
import InlineNotes.Proofs.Definitions

/-!
# The stage on lines

The stage joins its lines, converts the document and cuts the result into lines again,
but where no footnote was deferred it hands its own input on. Either way the lines that
it returns are those of the converted document (`convertLines_of_convert`), though they
may be cut at other places, since a line that comes in may hold newlines.

Whether a footnote was deferred and whether the text differs are the same question. Each
footnote leaves its id twice and six characters more than it had, and its body comes out
as long as it was (`length_spans`). So a conversion that defers something makes the
document longer, and never gives it back as it was.
-/
namespace InlineNotes
open Atom

/-- What a footnote with this id adds to the document, whatever its body is. -/
def growth (i : Text) : Nat := 2 * i.length + 6

namespace Factorisation

section
variable (stem : Text)

/-- The label and the definition of a footnote against the footnote itself, for one
footnote after the other: the body is on both sides. -/
theorem length_spans (spans : List (List Token × List Token)) (number : Nat) :
    ((spans.zipIdx number).flatMap fun (span, n) =>
        writeAll id span.1 ++ Label.write (numberedId stem n)).length +
      ((spans.zipIdx number).flatMap fun (span, n) =>
        Label.write (numberedId stem n) ++ [':', ' '] ++ writeAll id span.2 ++ ['\n']).length =
    (writeAll id (spans.flatMap fun span => span.1 ++ opener ++ span.2 ++ [closer])).length +
      ((spans.zipIdx number).map fun (_, n) => growth (numberedId stem n)).sum := by
  induction spans generalizing number with
  | nil => rfl
  | cons span spans ih =>
    have hrest := ih (number + 1)
    have hopener : (writeAll id opener : Text).length = 2 := rfl
    have hcloser : (writeAll id [closer] : Text).length = 1 := rfl
    simp only [List.zipIdx_cons, List.flatMap_cons, List.map_cons, List.sum_cons,
      writeAll_append, List.length_append, Label.length_write, hopener, hcloser, growth] at hrest ⊢
    simp only [List.length_cons, List.length_nil]
    omega

/-- With footnotes, the document grows by the blank line and by each of them. -/
theorem length_converted {f : Factorisation} (h : f.spans ≠ []) :
    (f.converted stem).length =
      (writeAll id f.tokens).length + 2 + ((f.notes stem).map fun p => growth p.1).sum := by
  have hspans := length_spans stem f.spans 1
  have hnotes : f.notes stem ≠ [] := fun hnil => h (notes_eq_nil_iff.mp hnil)
  have hgrowth : (f.notes stem).map (fun p => growth p.1) =
      (f.spans.zipIdx 1).map fun (_, n) => growth (numberedId stem n) := by
    simp [notes, Function.comp_def]
  have hdefinitions : (definitionsText (f.notes stem)).length = 2 +
      ((f.spans.zipIdx 1).flatMap fun (span, n) => Label.write (numberedId stem n) ++ [':', ' '] ++
        writeAll id span.2 ++ ['\n']).length := by
    rw [definitionsText, if_neg hnotes, notes, List.flatMap_map, List.length_append]
    rfl
  have htokens : f.tokens = f.spans.flatMap (fun span => span.1 ++ opener ++ span.2 ++ [closer]) ++
      f.last ++ f.tail := rfl
  have hmarked : f.marked stem = (f.spans.zipIdx 1).flatMap (fun (span, n) =>
      writeAll id span.1 ++ Label.write (numberedId stem n)) ++ writeAll id f.last ++
        writeAll id f.tail := rfl
  rw [converted, List.length_append, hdefinitions, hmarked, htokens, hgrowth]
  simp only [writeAll_append, List.length_append] at hspans ⊢
  omega

end

end Factorisation

/-- The document and the ids of the footnotes determine how long it comes out. -/
theorem length_convertValid {stem t : Text} (h : (convertValid stem t).notes.entries ≠ []) :
    (convertValid stem t).text.length =
      t.length + 2 + ((convertValid stem t).notes.keys.map growth).sum := by
  obtain ⟨f, hf⟩ := Factorisation.exists_splits (tokensOf t)
  obtain ⟨hnotes, htext⟩ := Factorisation.convertValid_of_splits stem hf
  have hspans : f.spans ≠ [] := by
    intro hnil
    exact h (convertValid_of_spans_eq_nil hf hnil).2
  rw [htext, Table.keys, hnotes, Factorisation.length_converted stem hspans, hf.spells,
    List.map_map]
  rfl

theorem keys_convertValid (stem t : Text) :
    (convertValid stem t).notes.keys =
      (List.range (convertValid stem t).notes.entries.length).map
        fun k : Nat => numberedId stem (k + 1 : Nat) := by
  obtain ⟨f, hf⟩ := Factorisation.exists_splits (tokensOf t)
  obtain ⟨hnotes, -⟩ := Factorisation.convertValid_of_splits stem hf
  have hlength : (f.notes stem).length = f.spans.length := by simp [Factorisation.notes]
  rw [Table.keys, hnotes, hlength]
  exact f.keys_notes stem

/-- A conversion gives the document back as it was just when it has no footnotes. -/
theorem text_convertValid_eq_self_iff {stem t : Text} :
    (convertValid stem t).text = t ↔ (convertValid stem t).notes.entries = [] := by
  constructor
  · intro htext
    by_contra hnotes
    have hlength := length_convertValid hnotes
    rw [htext] at hlength
    omega
  · intro hnotes
    obtain ⟨f, hf⟩ := Factorisation.exists_splits (tokensOf t)
    obtain ⟨hentries, -⟩ := Factorisation.convertValid_of_splits stem hf
    rw [hentries, Factorisation.notes_eq_nil_iff] at hnotes
    exact (convertValid_of_spans_eq_nil hf hnotes).1

theorem convertLines?_of_convert {stem : Text} {limit : Option Int} {ls : List Text}
    {r : Conversion} (h : convert stem limit (Text.unlines ls) = .ok r) :
    convertLines? stem limit ls =
      .ok (if r.notes.entries = [] then none else some (Text.lines r.text)) := by
  have hchanged : r.changed = true ↔ ¬ r.notes.entries = [] := r.changed_eq_true_iff
  rw [convertLines?, h]
  simp only [hchanged, ite_not]

/-- The stage on a document that can be converted: its lines spell the converted
document, it hands its input on just when the conversion leaves the document as it is,
and otherwise its lines are free of newlines and the document has grown by a blank line
and by what each footnote adds. -/
theorem convertLines_of_convert {stem : Text} {limit : Option Int} {ls : List Text}
    {r : Conversion} (h : convert stem limit (Text.unlines ls) = .ok r) :
    ∃ out, convertLines stem limit ls = .ok out ∧ Text.unlines out = r.text ∧
      (convertLines? stem limit ls = .ok none ↔ r.text = Text.unlines ls) ∧
      (out = ls ↔ r.text = Text.unlines ls) ∧
      (r.changed = true ↔ r.text ≠ Text.unlines ls) ∧
      let n := r.notes.entries.length
      0 < n →
        r.notes.keys = (List.range n).map (fun k : Nat => numberedId stem (k + 1 : Nat)) ∧
        r.text.length = (Text.unlines ls).length + 2 +
          ((List.range n).map fun k : Nat =>
            2 * (numberedId stem (k + 1 : Nat)).length + 6).sum ∧
        ∀ line ∈ out, '\n' ∉ line := by
  obtain ⟨-, -, rfl⟩ := convert_eq_ok_iff.mp h
  have hstage := convertLines?_of_convert h
  have htext : (convertValid stem (Text.unlines ls)).text = Text.unlines ls ↔ _ :=
    text_convertValid_eq_self_iff
  have hchanged : (convertValid stem (Text.unlines ls)).changed = true ↔
      (convertValid stem (Text.unlines ls)).text ≠ Text.unlines ls := by
    rw [Conversion.changed_eq_true_iff, Ne, Ne, htext]
  by_cases hnotes : (convertValid stem (Text.unlines ls)).notes.entries = []
  · rw [if_pos hnotes] at hstage
    have hsame := htext.mpr hnotes
    refine ⟨ls, by rw [convertLines, hstage]; rfl, hsame.symm, ?_, ?_, hchanged, ?_⟩
    · exact iff_of_true hstage hsame
    · exact iff_of_true rfl hsame
    · intro n hn
      simp [n, hnotes] at hn
  · rw [if_neg hnotes] at hstage
    have hdiffers := fun heq => hnotes (htext.mp heq)
    refine ⟨Text.lines _, by rw [convertLines, hstage]; rfl, Text.unlines_lines _, ?_, ?_,
      hchanged, ?_⟩
    · rw [hstage]
      exact iff_of_false (by simp) hdiffers
    · refine iff_of_false (fun heq => hdiffers ?_) hdiffers
      have hjoined := congrArg Text.unlines heq
      rwa [Text.unlines_lines] at hjoined
    · intro n _
      have hkeys := keys_convertValid stem (Text.unlines ls)
      have hlength := length_convertValid hnotes
      rw [hkeys, List.map_map] at hlength
      exact ⟨hkeys, hlength, fun line hline => Text.not_mem_of_mem_split hline⟩

/-- Lines with a newline and a carriage return in them: a footnote goes beyond the end of
its line, and the stage returns more lines than it was given. -/
theorem convertLines_of_convert_newlines :
    let ls : List Text := ["a[^b\nc]".toList, "\r[^[x]]".toList]
    let stem : Text := "fn".toList
    ∃ r out, convert stem (some 15) (Text.unlines ls) = .ok r ∧
      convertLines stem (some 15) ls = .ok out ∧ Text.unlines out = r.text ∧
        r.text.length = (Text.unlines ls).length + 2 + (12 + 12) ∧
          out = ["a[^fn1]".toList, "\r[^fn2]".toList, [], "[^fn1]: b".toList, "c".toList,
            "[^fn2]: [x]".toList, []] := by
  intro ls stem
  have hstem : IsId stem := by decide
  have hlimit : ∀ m ∈ some 15, ((Text.unlines ls).length : Int) ≤ m := by
    intro m hm
    cases hm
    decide
  have h := convert_eq_ok hstem hlimit
  obtain ⟨out, hout, hjoined, -, -, -, hgrown⟩ := convertLines_of_convert h
  obtain ⟨-, hlength, -⟩ := hgrown (by decide +kernel)
  refine ⟨_, out, h, hout, hjoined, hlength.trans (by decide +kernel), ?_⟩
  rw [convertLines, convertLines?_of_convert h] at hout
  cases hout
  decide +kernel

end InlineNotes
