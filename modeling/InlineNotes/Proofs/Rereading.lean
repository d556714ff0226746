import InlineNotes.Proofs.Survival

/-!
# Reading a converted document

How a converted document is read can be said part by part. A plain part is read as it
was, since its references are still defined and it has no openers of its own. A label
that stands for a footnote is now a reference, unless a colon follows. A label before a
colon is read as characters, and so is a whole definition if its body has no opener. So up
to the tail the tokens of a converted document are those of the document, with a reference
in place of each footnote (`tokensOf_converted`).
-/
namespace InlineNotes
open Atom

section
variable {ids : IdSet} {i t rest : Text}

theorem opener_prefix_of_readReference? {found : Text × Text}
    (h : readReference? ids t = some found) : Label.opener <+: t := by
  obtain ⟨label, rest⟩ := found
  obtain ⟨id, -, -, rfl, rfl, -⟩ := readReference?_eq_some_iff.mp h
  exact ⟨id ++ [']'] ++ rest, by simp [Label.write]⟩

theorem readReference?_eq_none (h : ¬ Label.opener <+: t) : readReference? ids t = none := by
  cases hread : readReference? ids t with
  | none => rfl
  | some found => exact absurd (opener_prefix_of_readReference? hread) h

theorem not_opener_prefix_of_ne {c : Char} (hc : c ≠ '[') (r : Text) :
    ¬ Label.opener <+: c :: r := by
  rintro ⟨after, hafter⟩
  exact hc (List.cons.inj hafter).1.symm

/-- Where no bracket opens, everything is a character. -/
theorem tokensFor_append_of_not_mem (h : '[' ∉ t) (rest : Text) :
    tokensFor ids (t ++ rest) = ofText t ++ tokensFor ids rest := by
  induction t with
  | nil => rfl
  | cons c t ih =>
    rw [List.mem_cons, not_or] at h
    have hnone : readReference? ids (c :: (t ++ rest)) = none :=
      readReference?_eq_none (not_opener_prefix_of_ne (Ne.symm h.1) _)
    rw [List.cons_append, tokensFor_of_char hnone, ih h.2]
    rfl

/-- A plain part is read as it was if its references are still defined. -/
theorem tokensFor_writeAll_append {as : List Token} (h : Undefining as)
    (hids : ∀ i, .reference (Label.write i) ∈ as → i ∈ ids) (hrest : Closes rest) :
    tokensFor ids (writeAll id as ++ rest) = as ++ tokensFor ids rest := by
  induction as with
  | nil => rfl
  | cons a as ih =>
    have hrec := ih h.tail fun i hi => hids i (List.mem_cons_of_mem _ hi)
    cases a with
    | char c =>
      have hnone : readReference? ids (c :: (writeAll id as ++ rest)) = none :=
        readReference?_eq_none (not_opener_prefix_of_undefining h hrest)
      rw [writeAll_char, List.cons_append, tokensFor_of_char hnone, hrec]
      rfl
    | reference label =>
      obtain ⟨i, hi, rfl⟩ := h.isLabel label List.mem_cons_self
      have hread := readReference?_eq_some_iff.mpr ⟨i, hi, hids i List.mem_cons_self, rfl, rfl,
        not_colon_prefix_of_undefining h hrest⟩
      rw [writeAll_reference, id, List.append_assoc, tokensFor_of_reference hread, hrec]
      rfl

theorem tokensFor_label (hi : IsId i) (hids : i ∈ ids) (hcolon : ¬ [':'] <+: rest) :
    tokensFor ids (Label.write i ++ rest) = .reference (Label.write i) :: tokensFor ids rest :=
  tokensFor_of_reference (readReference?_eq_some_iff.mpr ⟨i, hi, hids, rfl, rfl, hcolon⟩)

/-- The label of a definition is no reference. -/
theorem tokensFor_definition (hi : IsId i) (rest : Text) :
    tokensFor ids (Label.write i ++ ':' :: rest) =
      ofText (Label.write i) ++ tokensFor ids (':' :: rest) := by
  have hnone : readReference? ids (Label.write i ++ ':' :: rest) = none := by
    unfold readReference?
    rw [Label.read?_write hi]
    rfl
  have htail : tokensFor ids ((Label.write i).tail ++ ':' :: rest) =
      ofText (Label.write i).tail ++ tokensFor ids (':' :: rest) :=
    tokensFor_append_of_not_mem (open_not_mem_tail_write hi) _
  have hcons := tokensFor_of_char (c := '[') (r := (Label.write i).tail ++ ':' :: rest) hnone
  rw [htail] at hcons
  exact hcons

end

/-- An opener at which a footnote never closes is read as an opener, whatever is defined. -/
theorem tokensFor_opener_append {ids : IdSet} {t : Text} {d : Nat}
    (h : depthAfter 0 (ofText t : List Token) = some d) :
    tokensFor ids (Label.opener ++ t) = opener ++ tokensFor ids t := by
  have hnone : readReference? ids ('[' :: '^' :: t) = none := by
    cases hread : readReference? ids ('[' :: '^' :: t) with
    | none => rfl
    | some found =>
      obtain ⟨label, rest⟩ := found
      obtain ⟨i, hi, -, rfl, heq, -⟩ := readReference?_eq_some_iff.mp hread
      have ht : t = i ++ ']' :: rest := by simpa [Label.write, Label.opener] using heq
      have hclosed := depthAfter_append_closer (depthAfter_id hi 0) (ofText rest)
      have hatoms : (ofText t : List Token) = ofText i ++ closer :: ofText rest := by
        rw [ht, ofText_append]
        rfl
      rw [← hatoms, h] at hclosed
      cases hclosed
  have hcaret : tokensFor ids ('^' :: t) = .char '^' :: tokensFor ids t :=
    tokensFor_append_of_not_mem (t := ['^']) (by decide) t
  have hbracket := tokensFor_of_char hnone
  rw [hcaret] at hbracket
  exact hbracket

theorem plain_ofText {t : Text} (h : ¬ Label.opener <:+: t) : Plain (ofText t : List Token) := by
  intro ho
  have hwrite := writeAll_infix id ho
  rw [writeAll_ofText, writeAll_opener] at hwrite
  exact h hwrite

/-- Characters without an opener read as a plain part. -/
theorem undefining_ofText {t : Text} (h : Plain (ofText t : List Token)) :
    Undefining (ofText t : List Token) where
  plain := h
  isLabel := by simp [ofText]
  notDefinition := by
    intro before label after hsplit
    have hmem : .reference label ∈ (ofText t : List Token) := by
      rw [hsplit]
      exact List.mem_append_right before List.mem_cons_self
    simp [ofText] at hmem

/-- A definition is read as characters if its body has no opener. -/
theorem tokensFor_definition_append {ids : IdSet} {i body : Text} (hi : IsId i)
    (hbody : Plain (ofText body : List Token)) (rest : Text) :
    tokensFor ids (Label.write i ++ [':', ' '] ++ body ++ ['\n'] ++ rest) =
      ofText (Label.write i ++ [':', ' '] ++ body ++ ['\n']) ++ tokensFor ids rest := by
  have hend : tokensFor ids ('\n' :: rest) = .char '\n' :: tokensFor ids rest :=
    tokensFor_append_of_not_mem (t := ['\n']) (by decide) rest
  have hread : tokensFor ids (body ++ '\n' :: rest) =
      ofText body ++ tokensFor ids ('\n' :: rest) := by
    have hplain : tokensFor ids (writeAll id (ofText body) ++ '\n' :: rest) = _ :=
      tokensFor_writeAll_append (undefining_ofText hbody) (fun i hi => by simp [ofText] at hi)
        (closes_cons (by decide) rest)
    rwa [writeAll_ofText] at hplain
  have hcolon : tokensFor ids (':' :: ' ' :: (body ++ '\n' :: rest)) =
      .char ':' :: .char ' ' :: tokensFor ids (body ++ '\n' :: rest) :=
    tokensFor_append_of_not_mem (t := [':', ' ']) (by decide) _
  have htext : Label.write i ++ [':', ' '] ++ body ++ ['\n'] ++ rest =
      Label.write i ++ ':' :: ' ' :: (body ++ '\n' :: rest) := by
    simp
  rw [htext, tokensFor_definition hi, hcolon, hread, hend]
  simp

theorem tokensFor_definitionsText {ids : IdSet} {notes : List (Text × Text)}
    (h : ∀ p ∈ notes, IsId p.1 ∧ Plain (ofText p.2 : List Token)) :
    tokensFor ids (definitionsText notes) = ofText (definitionsText notes) := by
  have hitems : ∀ ps : List (Text × Text),
      (∀ p ∈ ps, IsId p.1 ∧ Plain (ofText p.2 : List Token)) →
      tokensFor ids (ps.flatMap fun p => Label.write p.1 ++ [':', ' '] ++ p.2 ++ ['\n']) =
        ofText (ps.flatMap fun p => Label.write p.1 ++ [':', ' '] ++ p.2 ++ ['\n']) := by
    intro ps hps
    induction ps with
    | nil => exact tokensFor_nil
    | cons p ps ih =>
      obtain ⟨⟨hid, hplain⟩, hps⟩ := List.forall_mem_cons.mp hps
      rw [List.flatMap_cons, tokensFor_definition_append hid hplain, ih hps]
      exact (ofText_append _ _).symm
  unfold definitionsText
  split
  · exact tokensFor_nil
  · rw [tokensFor_append_of_not_mem (by decide), hitems notes h, ofText_append]

theorem not_colon_prefix_append {t u rest : Text} (h : ¬ [':'] <+: t ++ u) (hrest : Closes rest) :
    ¬ [':'] <+: t ++ rest := by
  cases t with
  | nil =>
    rintro ⟨after, hafter⟩
    exact (hrest ':' after hafter.symm).2 rfl
  | cons c t =>
    rintro ⟨after, hafter⟩
    obtain ⟨rfl, -⟩ := List.cons.inj hafter
    exact h ⟨t ++ u, rfl⟩

theorem closes_definitionsText (notes : List (Text × Text)) : Closes (definitionsText notes) := by
  unfold definitionsText
  split
  · exact fun _ _ hc => nomatch hc
  · exact closes_cons (by decide) _

namespace Factorisation

/-- The plain parts, with a label behind each that stands before a footnote. -/
def markedFrom (stem : Text) (number : Nat) (f : Factorisation) : Text :=
  (f.spans.zipIdx number).flatMap (fun (span, n) =>
    writeAll id span.1 ++ Label.write (numberedId stem n)) ++ writeAll id f.last

/-- The same with references as tokens. -/
def emittedFrom (stem : Text) (number : Nat) (f : Factorisation) : List Token :=
  (f.spans.zipIdx number).flatMap (fun (span, n) =>
    span.1 ++ [.reference (Label.write (numberedId stem n))]) ++ f.last

section
variable {stem rest : Text} {number : Nat} {before body last tail : List Token}
  {spans : List (List Token × List Token)}

theorem markedFrom_cons : markedFrom stem number ⟨(before, body) :: spans, last, tail⟩ ++ rest =
    writeAll id before ++ (Label.write (numberedId stem number) ++
      (markedFrom stem (number + 1) ⟨spans, last, tail⟩ ++ rest)) := by
  simp [markedFrom]

theorem emittedFrom_cons : emittedFrom stem number ⟨(before, body) :: spans, last, tail⟩ =
    before ++ .reference (Label.write (numberedId stem number)) ::
      emittedFrom stem (number + 1) ⟨spans, last, tail⟩ := by
  simp [emittedFrom]

/-- What no colon follows in the document, no colon follows behind the label. -/
theorem not_colon_prefix_markedFrom
    (h : ¬ [':'] <+: writeAll id (⟨spans, last, tail⟩ : Factorisation).tokens)
    (hrest : Closes rest) :
    ¬ [':'] <+: markedFrom stem number ⟨spans, last, tail⟩ ++ rest := by
  cases spans with
  | nil =>
    have htokens : writeAll id (⟨[], last, tail⟩ : Factorisation).tokens =
        writeAll id last ++ writeAll id tail := by
      simp [tokens]
    rw [htokens] at h
    exact not_colon_prefix_append h hrest
  | cons span spans =>
    rw [tokens_cons, writeAll_append] at h
    rw [markedFrom_cons]
    exact not_colon_prefix_append h (closes_write_append _ _)

/-- Up to the tail everything is read as it was, and the new labels are references. -/
theorem tokensFor_markedFrom {ids : IdSet} (hstem : IsId stem)
    (hids : ∀ n : Nat, number ≤ n → n < number + spans.length → numberedId stem n ∈ ids)
    (hplain : ∀ span ∈ spans, Undefining span.1 ∧
      ∀ i, .reference (Label.write i) ∈ span.1 → i ∈ ids)
    (hlast : Undefining last) (hlastIds : ∀ i, .reference (Label.write i) ∈ last → i ∈ ids)
    (hcolon : (⟨spans, last, tail⟩ : Factorisation).NoColon) (hrest : Closes rest) :
    tokensFor ids (markedFrom stem number ⟨spans, last, tail⟩ ++ rest) =
      emittedFrom stem number ⟨spans, last, tail⟩ ++ tokensFor ids rest := by
  induction spans generalizing number with
  | nil => exact tokensFor_writeAll_append hlast hlastIds hrest
  | cons span spans ih =>
    obtain ⟨before, body⟩ := span
    obtain ⟨⟨hbefore, hbeforeIds⟩, hplain⟩ := List.forall_mem_cons.mp hplain
    obtain ⟨hnot, hcolon⟩ := noColon_cons_iff.mp hcolon
    have hid : numberedId stem number ∈ ids := hids number (Nat.le_refl _) (by simp)
    have hspans : tokensFor ids (markedFrom stem (number + 1) ⟨spans, last, tail⟩ ++ rest) =
        emittedFrom stem (number + 1) ⟨spans, last, tail⟩ ++ tokensFor ids rest := by
      refine ih (fun n hn hlt => hids n (by omega) ?_) hplain hcolon
      rw [List.length_cons]
      omega
    rw [markedFrom_cons, emittedFrom_cons,
      tokensFor_writeAll_append hbefore hbeforeIds (closes_write_append _ _),
      tokensFor_label (isId_numberedId hstem number) hid (not_colon_prefix_markedFrom hnot hrest),
      hspans, List.append_assoc]
    rfl

end

theorem marked_eq (stem : Text) (f : Factorisation) :
    f.marked stem = f.markedFrom stem 1 ++ writeAll id f.tail := rfl

section
variable {stem t : Text} {f : Factorisation} (h : f.Splits (tokensOf t)) (hstem : IsId stem)
include h hstem

/-- Every footnote is defined in the converted document. -/
theorem Splits.numberedId_mem_definedIds {n : Nat} (hlow : 1 ≤ n) (hhigh : n < 1 + f.spans.length) :
    numberedId stem n ∈ definedIds (f.converted stem) := by
  obtain ⟨marks, -, hlist⟩ := definedIdList_converted hstem h
  have hkey : numberedId stem n ∈ (f.notes stem).map (·.1) := by
    rw [f.keys_notes stem]
    refine List.mem_map.mpr ⟨n - 1, List.mem_range.mpr (by omega), ?_⟩
    rw [Nat.sub_add_cancel hlow]
  obtain ⟨p, hp, hn⟩ := List.mem_map.mp hkey
  rw [definedIds, IdSet.mem_ofList, hlist]
  exact List.mem_append_right _ (List.mem_flatMap.mpr ⟨p, hp, hn ▸ List.mem_cons_self⟩)

/-- The tokens of a converted document, up to the tail and the definitions. -/
theorem Splits.tokensOf_converted (hcolon : f.NoColon) :
    tokensOf (f.converted stem) = f.emittedFrom stem 1 ++
      tokensFor (definedIds (f.converted stem))
        (writeAll id f.tail ++ definitionsText (f.notes stem)) := by
  have hkept : ∀ i, .reference (Label.write i) ∈ tokensOf t → i ∈ definedIds (f.converted stem) :=
    fun i hi => h.mem_definedIds_converted hstem hcolon (mem_definedIds_of_reference hi)
  have hplain : ∀ span ∈ f.spans, Undefining span.1 ∧
      ∀ i, .reference (Label.write i) ∈ span.1 → i ∈ definedIds (f.converted stem) := by
    intro span hspan
    exact ⟨h.undefining_before hspan,
      fun i hi => hkept i (h.tokens_eq ▸ (infix_tokens hspan).1.subset hi)⟩
  have hlast : ∀ i, .reference (Label.write i) ∈ f.last → i ∈ definedIds (f.converted stem) :=
    fun i hi => hkept i (h.tokens_eq ▸ f.last_infix_tokens.subset hi)
  have htokens := tokensFor_markedFrom hstem
    (fun n => h.numberedId_mem_definedIds hstem) hplain h.undefining_last hlast hcolon
    (h.closes_tail _ (closes_definitionsText (f.notes stem)))
  rw [← List.append_assoc, ← marked_eq stem f] at htokens
  exact htokens

end

end Factorisation

end InlineNotes
