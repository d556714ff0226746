import InlineNotes.Proofs.Definitions
import InlineNotes.Proofs.OnePass

/-!
# Definitions that survive a conversion

Outside footnotes `[^id]:` is read as a footnote, and its definition is gone. This is
the only way in which a conversion loses one: a definition in a body stands in the
block afterwards, and one in a footnote that never closes is left as it was. No
definition lies across the end of a footnote, since its label would open a bracket in
the body and close it behind. So where no footnote is followed by a colon, all ids that
the document defines are defined in the converted document (`mem_definedIds_converted`).
-/
namespace InlineNotes
open Atom

section
variable {α : Type} {xs ys zs : List α} {x : α}

/-- A part of a list lies on one side of an element or across it. -/
theorem infix_append_cons (h : zs <:+: xs ++ x :: ys) :
    zs <:+: xs ∨ zs <:+: ys ∨ ∃ us vs, zs = us ++ x :: vs ∧ us <:+ xs := by
  obtain ⟨before, after, h⟩ := h
  rw [List.append_assoc] at h
  rcases List.append_eq_append_iff.mp h with ⟨as, hxs, has⟩ | ⟨as, hbefore, has⟩
  · rcases List.append_eq_append_iff.mp has with ⟨bs, rfl, -⟩ | ⟨bs, rfl, hbs⟩
    · exact Or.inl ⟨before, bs, by rw [hxs, List.append_assoc]⟩
    · cases bs with
      | nil => exact Or.inl ⟨before, [], by rw [hxs]; simp⟩
      | cons b bs =>
        obtain ⟨rfl, -⟩ := List.cons.inj hbs
        exact Or.inr (Or.inr ⟨as, bs, rfl, before, hxs.symm⟩)
  · cases as with
    | nil =>
      cases zs with
      | nil => exact Or.inl List.nil_infix
      | cons z zs =>
        obtain ⟨rfl, -⟩ := List.cons.inj has
        exact Or.inr (Or.inr ⟨[], zs, rfl, List.nil_suffix⟩)
    | cons a as =>
      obtain ⟨-, rfl⟩ := List.cons.inj has
      exact Or.inr (Or.inl ⟨as, after, List.append_assoc _ _ _⟩)

/-- An element that occurs once splits a list in one way. -/
theorem eq_of_append_cons_eq {us vs : List α} (hxs : x ∉ xs) (hys : x ∉ ys)
    (h : xs ++ x :: ys = us ++ x :: vs) : xs = us := by
  rcases List.append_eq_append_iff.mp h with ⟨as, rfl, has⟩ | ⟨as, rfl, has⟩
  · cases as with
    | nil => exact (List.append_nil xs).symm
    | cons a as =>
      obtain ⟨-, rfl⟩ := List.cons.inj has
      exact absurd (List.mem_append_right as List.mem_cons_self) hys
  · cases as with
    | nil => exact List.append_nil us
    | cons a as =>
      obtain ⟨rfl, -⟩ := List.cons.inj has
      exact absurd (List.mem_append_right us List.mem_cons_self) hxs

end

theorem depthAfter_id {id : Text} (h : IsId id) (depth : Nat) :
    depthAfter depth (ofText id : List Token) = some depth :=
  depthAfter_ofText h.not_bracket depth

/-- A label without its last bracket leaves one open. -/
theorem depthAfter_opener_id {id : Text} (h : IsId id) (depth : Nat) :
    depthAfter depth (ofText (Label.opener ++ id) : List Token) = some (depth + 1) :=
  depthAfter_id h (depth + 1)

section
variable {i body rest : Text} (hi : IsId i)
  (hbody : depthAfter 0 (ofText body : List Token) = some 0)
include hi hbody

/-- No definition lies across the bracket that closes a footnote. -/
theorem definition_beside_closer (h : Label.write i ++ [':'] <:+: body ++ ']' :: rest) :
    Label.write i ++ [':'] <:+: body ∨ Label.write i ++ [':'] <:+: rest := by
  have hdefinition : Label.write i ++ [':'] = (Label.opener ++ i) ++ ']' :: [':'] := by
    simp [Label.write]
  rcases infix_append_cons h with hin | hin | ⟨us, vs, heq, before, rfl⟩
  · exact Or.inl hin
  · exact Or.inr hin
  · have hi' : ']' ∉ Label.opener ++ i := by
      rw [List.mem_append, not_or]
      exact ⟨by decide, fun hmem => (hi.not_bracket _ hmem).2 rfl⟩
    have hus : Label.opener ++ i = us :=
      eq_of_append_cons_eq hi' (by decide) (hdefinition.symm.trans heq)
    rw [← hus, ofText_append, depthAfter_append] at hbody
    obtain ⟨depth, -, hdepth⟩ := Option.bind_eq_some_iff.mp hbody
    rw [depthAfter_opener_id hi] at hdepth
    cases hdepth

/-- A definition that starts with the opener of a footnote is this footnote and the
colon behind it. -/
theorem colon_of_prefix_definition
    (h : Label.write i ++ [':'] <+: Label.opener ++ (body ++ ']' :: rest)) : [':'] <+: rest := by
  obtain ⟨after, hafter⟩ := h
  have heq : i ++ ']' :: ':' :: after = body ++ ']' :: rest := by
    simpa [Label.write, Label.opener] using hafter
  have hatoms : (ofText i ++ closer :: ofText (':' :: after) : List Token) =
      ofText body ++ closer :: ofText rest := by
    have htext := congrArg (ofText : Text → List Token) heq
    rwa [ofText_append, ofText_append] at htext
  obtain ⟨-, hrest⟩ := first_closer_unique hatoms (depthAfter_id hi 0) hbody
  exact ⟨after, ofText_inj.mp hrest⟩

/-- A definition from the opener of a footnote on stands in its body or behind it. -/
theorem definition_in_body_or_behind (hcolon : ¬ [':'] <+: rest)
    (h : Label.write i ++ [':'] <:+: Label.opener ++ (body ++ ']' :: rest)) :
    Label.write i ++ [':'] <:+: body ∨ Label.write i ++ [':'] <:+: rest := by
  rcases List.infix_cons_iff.mp h with hstart | hin
  · exact absurd (colon_of_prefix_definition hi hbody hstart) hcolon
  rcases List.infix_cons_iff.mp hin with hcaret | hin
  · obtain ⟨after, hafter⟩ := hcaret
    cases (List.cons.inj hafter).1
  · exact definition_beside_closer hi hbody hin

end

theorem mem_definedIds_writeAll_append {as : List Token} {i rest : Text} (h : Undefining as)
    (hrest : Closes rest) : i ∈ definedIds (writeAll id as ++ rest) ↔ i ∈ definedIds rest := by
  rw [definedIds, definedIds, IdSet.mem_ofList, IdSet.mem_ofList,
    definedIdList_writeAll_append h hrest]

namespace Factorisation

/-- No footnote is followed by a colon. -/
def NoColon (f : Factorisation) : Prop :=
  ∀ before span after, f.spans = before ++ span :: after →
    ¬ [':'] <+: writeAll id (⟨after, f.last, f.tail⟩ : Factorisation).tokens

section
variable {span : List Token × List Token} {spans : List (List Token × List Token)}
  {last tail : List Token}

theorem noColon_nil : (⟨[], last, tail⟩ : Factorisation).NoColon := by
  intro before span after hspans
  simp at hspans

theorem noColon_cons_iff : (⟨span :: spans, last, tail⟩ : Factorisation).NoColon ↔
    ¬ [':'] <+: writeAll id (⟨spans, last, tail⟩ : Factorisation).tokens ∧
      (⟨spans, last, tail⟩ : Factorisation).NoColon := by
  constructor
  · intro h
    refine ⟨h [] span spans rfl, fun before other after hspans => ?_⟩
    refine h (span :: before) other after ?_
    rw [List.cons_append, ← hspans]
  · rintro ⟨hspan, h⟩ before other after hspans
    cases before with
    | nil =>
      obtain ⟨-, rfl⟩ := List.cons.inj hspans
      exact hspan
    | cons first before =>
      obtain ⟨-, hrest⟩ := List.cons.inj hspans
      exact h before other after hrest

/-- Without such colons definitions stand in bodies and in the tail, and nowhere else. -/
theorem definition_in_body_or_tail {i : Text} (hplain : ∀ span ∈ spans, Undefining span.1)
    (hlast : Undefining last) (htail : Closes (writeAll id tail))
    (hbody : ∀ span ∈ spans, depthAfter 0 (ofText (writeAll id span.2) : List Token) = some 0)
    (hcolon : (⟨spans, last, tail⟩ : Factorisation).NoColon)
    (h : i ∈ definedIds (writeAll id (⟨spans, last, tail⟩ : Factorisation).tokens)) :
    (∃ span ∈ spans, i ∈ definedIds (writeAll id span.2)) ∨ i ∈ definedIds (writeAll id tail) := by
  induction spans with
  | nil =>
    have htokens : writeAll id (⟨[], last, tail⟩ : Factorisation).tokens =
        writeAll id last ++ writeAll id tail := by
      simp [tokens]
    rw [htokens, mem_definedIds_writeAll_append hlast htail] at h
    exact Or.inr h
  | cons span spans ih =>
    obtain ⟨before, body⟩ := span
    obtain ⟨hbefore, hplain⟩ := List.forall_mem_cons.mp hplain
    obtain ⟨hbalanced, hbody⟩ := List.forall_mem_cons.mp hbody
    obtain ⟨hnot, hcolon⟩ := noColon_cons_iff.mp hcolon
    have htokens : writeAll id (⟨(before, body) :: spans, last, tail⟩ : Factorisation).tokens =
        writeAll id before ++ (Label.opener ++ (writeAll id body ++
          ']' :: writeAll id (⟨spans, last, tail⟩ : Factorisation).tokens)) := by
      rw [tokens_cons]
      simp [closer]
    have hopen : ∀ rest, Closes (Label.opener ++ rest) := fun _ => closes_cons (by decide) _
    rw [htokens, mem_definedIds_writeAll_append hbefore (hopen _), mem_definedIds_iff] at h
    obtain ⟨hi, hwithin⟩ := h
    rcases definition_in_body_or_behind hi hbalanced hnot hwithin with hin | hbehind
    · exact Or.inl ⟨_, List.mem_cons_self, mem_definedIds_iff.mpr ⟨hi, hin⟩⟩
    · refine (ih hplain hbody hcolon (mem_definedIds_iff.mpr ⟨hi, hbehind⟩)).imp_left ?_
      rintro ⟨other, hother, hdefined⟩
      exact ⟨other, List.mem_cons_of_mem _ hother, hdefined⟩

end

theorem values_notes (stem : Text) (f : Factorisation) :
    (f.notes stem).map (·.2) = f.spans.map fun span => writeAll id span.2 := by
  rw [notes, List.map_map]
  exact map_fst_zipIdx (fun span => writeAll id span.2) f.spans 1

section
variable {t : Text} {f : Factorisation} (h : f.Splits (tokensOf t))
include h

theorem Splits.depthAfter_body {span : List Token × List Token} (hspan : span ∈ f.spans) :
    depthAfter 0 (ofText (writeAll id span.2) : List Token) = some 0 := by
  have hlabel : ∀ label, .reference label ∈ span.2 → ∃ id, IsId id ∧ label = Label.write id :=
    fun label hl => isLabel_of_mem_tokensFor (h.tokens_eq ▸ (infix_tokens hspan).2.subset hl)
  rw [depthAfter_writeAll hlabel]
  exact balanced_iff.mp (h.balanced _ hspan)

/-- Without colons behind footnotes, what the document defines is defined in a body or in
the tail. -/
theorem Splits.mem_definedIds_notes_or_tail (stem : Text) {i : Text} (hcolon : f.NoColon)
    (hi : i ∈ definedIds t) :
    (∃ p ∈ f.notes stem, i ∈ definedIds p.2) ∨ i ∈ definedIds (writeAll id f.tail) := by
  have ht : i ∈ definedIds (writeAll id f.tokens) := by
    rw [h.spells]
    exact hi
  refine (definition_in_body_or_tail (fun _ hs => h.undefining_before hs) h.undefining_last
    h.closes_writeAll_tail (fun _ hs => h.depthAfter_body hs) hcolon ht).imp_left ?_
  rintro ⟨span, hspan, hbody⟩
  have hvalue : writeAll id span.2 ∈ (f.notes stem).map (·.2) := by
    rw [values_notes]
    exact List.mem_map_of_mem hspan
  obtain ⟨p, hp, hvalue⟩ := List.mem_map.mp hvalue
  exact ⟨p, hp, hvalue ▸ hbody⟩

/-- Every id that the document defines is defined in the converted document. -/
theorem Splits.mem_definedIds_converted {stem i : Text} (hstem : IsId stem) (hcolon : f.NoColon)
    (hi : i ∈ definedIds t) : i ∈ definedIds (f.converted stem) := by
  obtain ⟨marks, -, hlist⟩ := definedIdList_converted hstem h
  have hplace := h.mem_definedIds_notes_or_tail stem hcolon hi
  simp only [definedIds, IdSet.mem_ofList, hlist, List.mem_append, List.mem_flatMap] at hplace ⊢
  rcases hplace with ⟨p, hp, hbody⟩ | hin
  · exact Or.inr ⟨p, hp, List.mem_cons_of_mem _ hbody⟩
  · exact Or.inl (Or.inr hin)

end

end Factorisation

end InlineNotes
