import InlineNotes.Proofs.Encoding
import InlineNotes.Proofs.Factorisation
import InlineNotes.Proofs.Occurrence
import InlineNotes.Proofs.Saving

/-!
# Saved documents come back

A document is saved as it is and loaded with its newlines unified. Strict UTF-8 gives the
text back that was written, whatever its characters are, so only carriage returns make a
difference: a saved document comes back as it was just when it has none. A document that
was loaded has none. Converting it adds labels, blanks and newlines and nothing else
(`not_mem_text_convertValid`), so the converted document has none either, and when it is
saved and loaded it comes back as it was (`Disk.loadDocument_after_save`).
-/
namespace InlineNotes
open Atom

section
variable {c : Char} (hc : isIdChar c = false) (hmarks : c ∉ ['[', '^', ']', ' ', '\n'])
include hc hmarks

theorem not_mem_label {i : Text} (hi : IsId i) : c ∉ Label.write i := by
  refine not_mem_write_of_not_isIdChar hi hc fun hbracket => hmarks ?_
  exact List.mem_append_left [' ', '\n'] hbracket

theorem not_mem_definitionsText {notes : List (Text × Text)}
    (h : ∀ p ∈ notes, IsId p.1 ∧ c ∉ p.2) : c ∉ definitionsText notes := by
  have hcolon : c ≠ ':' := by
    rintro rfl
    exact absurd hc (by decide)
  have hblank : c ≠ ' ' := fun heq => hmarks (by simp [heq])
  have hnewline : c ≠ '\n' := fun heq => hmarks (by simp [heq])
  have hdefinition : ∀ p ∈ notes, c ∉ Label.write p.1 ++ [':', ' '] ++ p.2 ++ ['\n'] := by
    intro p hp
    have hlabel := not_mem_label hc hmarks (h p hp).1
    simp [hlabel, hcolon, hblank, hnewline, (h p hp).2]
  unfold definitionsText
  split
  · exact List.not_mem_nil
  · intro hmem
    rcases List.mem_append.mp hmem with hlines | hrest
    · simp [hnewline] at hlines
    · obtain ⟨p, hp, hin⟩ := List.mem_flatMap.mp hrest
      exact hdefinition p hp hin

/-- What a conversion writes are labels, colons, blanks and newlines. Any other character
of the converted document comes from the document. -/
theorem not_mem_text_convertValid {stem t : Text} (hstem : IsId stem) (ht : c ∉ t) :
    c ∉ (convertValid stem t).text := by
  obtain ⟨f, hf⟩ := Factorisation.exists_splits (tokensOf t)
  obtain ⟨-, htext⟩ := Factorisation.convertValid_of_splits stem hf
  have hpart : ∀ as : List Token, as <:+: f.tokens → c ∉ writeAll id as :=
    fun as has hmem => ht ((hf.infix_of_infix_tokens has).subset hmem)
  have hnotes : ∀ p ∈ f.notes stem, IsId p.1 ∧ c ∉ p.2 := by
    refine List.forall_mem_map.mpr fun p hp => ⟨isId_numberedId hstem p.2, ?_⟩
    exact hpart _ (Factorisation.infix_tokens (List.fst_mem_of_mem_zipIdx hp)).2
  have hmarked : c ∉ f.marked stem := by
    intro hmem
    rcases List.mem_append.mp hmem with hmem | htail
    · rcases List.mem_append.mp hmem with hspans | hlast
      · obtain ⟨p, hp, hin⟩ := List.mem_flatMap.mp hspans
        rcases List.mem_append.mp hin with hbefore | hlabel
        · exact hpart _ (Factorisation.infix_tokens (List.fst_mem_of_mem_zipIdx hp)).1 hbefore
        · exact not_mem_label hc hmarks (isId_numberedId hstem p.2) hlabel
      · exact hpart _ f.last_infix_tokens hlast
    · exact hpart _ (List.suffix_append _ _).isInfix htail
  rw [htext, Factorisation.converted, List.mem_append, not_or]
  exact ⟨hmarked, not_mem_definitionsText hc hmarks hnotes⟩

end

namespace Disk

theorem loadDocument_of_saveDocument {d d' : Disk} {p : Path} {t : Text}
    (h : d.saveDocument p t = (d', none)) : d'.loadDocument p = .ok (Text.unifyNewlines t) := by
  have hread : d'.readFile p = .ok (Utf8.encode t) := readFile_of_saveBytes h
  have hdecode : decodeDocument (Utf8.encode t) = .ok (Text.unifyNewlines t) := by
    rw [decodeDocument, Utf8.decode_encode]
    rfl
  rw [loadDocument, hread]
  dsimp only
  rw [hdecode]
  rfl

/-- A document that was loaded has its newlines unified. -/
theorem return_not_mem_of_loadDocument {d : Disk} {p : Path} {t : Text}
    (h : d.loadDocument p = .ok t) : '\r' ∉ t := by
  unfold loadDocument at h
  split at h
  · cases h
  · next bytes _ =>
    cases hdecode : Utf8.decode bytes with
    | error e =>
      rw [decodeDocument, hdecode] at h
      cases h
    | ok text =>
      rw [decodeDocument, hdecode] at h
      cases h
      exact Text.not_mem_unifyNewlines text

/-- A saved document comes back with its newlines unified, so it is the same just when it
has no carriage return. A converted document that was loaded comes back as it is. -/
theorem loadDocument_after_save :
    (∀ (d d' : Disk) (p : Path) (t : Text), d.saveDocument p t = (d', none) →
      d'.loadDocument p = .ok (Text.unifyNewlines t) ∧
        (d'.loadDocument p = .ok t ↔ '\r' ∉ t)) ∧
    ∀ (d₀ d d' : Disk) (source p : Path) (t stem : Text) (limit : Option Int) (r : Conversion),
      d₀.loadDocument source = .ok t → convert stem limit t = .ok r →
        d.saveDocument p r.text = (d', none) → d'.loadDocument p = .ok r.text := by
  constructor
  · intro d d' p t hsave
    have hload := loadDocument_of_saveDocument hsave
    refine ⟨hload, ?_⟩
    rw [hload, Except.ok.injEq, Text.unifyNewlines_eq_self_iff]
  · intro d₀ d d' source p t stem limit r hsource hconvert hsave
    obtain ⟨hstem, -, rfl⟩ := convert_eq_ok_iff.mp hconvert
    have hreturn : '\r' ∉ (convertValid stem t).text :=
      not_mem_text_convertValid (by decide) (by decide) hstem
        (return_not_mem_of_loadDocument hsource)
    rw [loadDocument_of_saveDocument hsave, Text.unifyNewlines_of_not_mem hreturn]

/-- A file with both kinds of carriage return, which is loaded, converted and saved on a
way through a new folder; and a text whose carriage returns do not come back. -/
theorem loadDocument_after_save_converted :
    let d : Disk := ⟨.ofList [(["f".toList], .file (Utf8.encode "é\r[^n\r\nx]".toList))], []⟩
    let p : Path := .ofText "a/../b".toList
    let t : Text := "\r\n\r€".toList
    ∃ r d' d'', d.loadDocument (.ofText "f".toList) = .ok "é\n[^n\nx]".toList ∧
      convert "fn".toList none "é\n[^n\nx]".toList = .ok r ∧
      d.saveDocument p r.text = (d', none) ∧ d'.loadDocument p = .ok r.text ∧
      d.saveDocument p t = (d'', none) ∧ d''.loadDocument p = .ok "\n\n€".toList := by
  intro d p t
  have hload : d.loadDocument (.ofText "f".toList) = .ok "é\n[^n\nx]".toList := by
    decide +kernel
  have hconvert : convert "fn".toList none "é\n[^n\nx]".toList = .ok _ :=
    convert_eq_ok (by decide) fun _ hm => nomatch hm
  have hsaved : ∀ u : Text, d.saveDocument p u = ((d.saveDocument p u).1, none) :=
    fun u => Prod.ext rfl rfl
  obtain ⟨hfirst, hsecond⟩ := loadDocument_after_save
  exact ⟨_, _, _, hload, hconvert, hsaved _,
    hsecond d d _ _ p _ _ none _ hload hconvert (hsaved _), hsaved t, (hfirst d _ p t (hsaved t)).1⟩

end Disk

end InlineNotes
