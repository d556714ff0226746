import InlineNotes.Pipeline.Basic
import InlineNotes.Proofs.NormalForm
import InlineNotes.Proofs.Protection

/-!
# Where the limit is measured

Both ways to convert a document refuse it for its length, but they do not measure the
same text. Conversion alone measures the document. In the pipeline the stage comes after
white space has been put into one form, and then two newlines stand at the end that are
not the document's. So the stage refuses from two characters below on: with a limit of
`N` it refuses documents of `N - 1` and of `N` characters, which are no longer than the
limit and which conversion accepts (`Settings.process_refuses_iff`). At every other
length the two agree, except that blank documents do not come to the stage and are never
refused there.
-/
namespace InlineNotes

/-- The document is refused for its length. -/
def RefusesLength {α : Type} (outcome : Except ConversionError α) : Prop :=
  ∃ length limit, outcome = .error (.tooLong length limit)

theorem not_refusesLength_ok {α : Type} (a : α) : ¬ RefusesLength (.ok a) := by
  rintro ⟨_, _, h⟩
  cases h

section
variable {stem t : Text} {limit : Int}

/-- With a valid stem, only the length counts, and the refusal says what it is. -/
theorem convert_eq_ite (hstem : IsId stem) :
    convert stem (some limit) t =
      if limit < t.length then .error (.tooLong t.length limit) else .ok (convertValid stem t) := by
  have hcheck : checkRequest stem (some limit) t =
      if limit < t.length then some (.tooLong t.length limit) else none := by
    rw [checkRequest, if_neg (not_not_intro hstem)]
  rw [convert, hcheck]
  by_cases h : limit < t.length
  · rw [if_pos h, if_pos h]
  · rw [if_neg h, if_neg h]

theorem refusesLength_convert_iff (hstem : IsId stem) :
    RefusesLength (convert stem (some limit) t) ↔ limit < t.length := by
  rw [convert_eq_ite hstem]
  split
  · next h => exact iff_of_true ⟨_, _, rfl⟩ h
  · next h => exact iff_of_false (not_refusesLength_ok _) h

end

/-- The stage fails as the conversion of its joined lines fails. -/
theorem convertLines_eq_error_iff {stem : Text} {limit : Option Int} {ls : List Text}
    {e : ConversionError} :
    convertLines stem limit ls = .error e ↔ convert stem limit (Text.unlines ls) = .error e := by
  unfold convertLines convertLines?
  cases convert stem limit (Text.unlines ls) with
  | error e' => simp [Except.map]
  | ok r => exact iff_of_false (by simp [Except.map]) (by simp)

namespace Settings

/-- What the stage measures in the pipeline is the document after normalisation. -/
theorem runDocument_eq_error_iff {s : Settings} {t : Text} {e : ConversionError} :
    s.runDocument t = .error e ↔
      convert s.stem s.effectiveLimit (normalizeWhitespace t) = .error e := by
  rw [runDocument, convertLines_eq_error_iff, Text.unlines_lines]

theorem refusesLength_runDocument_iff {s : Settings} {t : Text} :
    RefusesLength (s.runDocument t) ↔
      RefusesLength (convert s.stem s.effectiveLimit (normalizeWhitespace t)) := by
  simp only [RefusesLength, runDocument_eq_error_iff]

theorem process_of_blank {s : Settings} {t : Text} (h : Text.trim t = []) :
    s.process t = .ok [] := by
  rw [process, if_pos h]

theorem process_of_not_blank {s : Settings} {t : Text} (h : Text.trim t ≠ []) :
    s.process t = s.runDocument t := by
  rw [process, if_neg h]

/-- A document whose white space has its one form, in a pipeline with a limit: unless it is
blank, the stage counts the two newlines that were appended, conversion does not, and they
differ for documents that are as long as the limit or one character shorter. -/
theorem process_refuses_iff {stem t : Text} {limit : Int} (hstem : IsId stem)
    (hlimit : 1 ≤ limit) (ht : IsNormal t) :
    ∃ s, Settings.ofList [(SettingName.stem.text, .text stem),
        (SettingName.limit.text, .number limit)] = .ok s ∧
      (RefusesLength (s.process t) ↔ Text.trim t ≠ [] ∧ limit < t.length + 2) ∧
      (RefusesLength (convert stem (some limit) t) ↔ limit < t.length) ∧
      (∀ e, s.process t = .error e → e = .tooLong (t.length + 2) limit) ∧
      (Text.trim t = [] → s.process t = .ok []) ∧
      (Text.trim t ≠ [] →
        ((RefusesLength (s.process t) ↔ RefusesLength (convert stem (some limit) t)) ↔
          (t.length : Int) ≠ limit ∧ (t.length : Int) ≠ limit - 1)) := by
  have heffective : (⟨stem, some limit⟩ : Settings).effectiveLimit = some limit := by
    have hne : limit ≠ 0 := by omega
    simp [effectiveLimit, hne]
  have hlength : ((normalizeWhitespace t).length : Int) = t.length + 2 := by
    rw [ht.normalizeWhitespace_eq]
    simp
  have hstage : RefusesLength ((⟨stem, some limit⟩ : Settings).process t) ↔
      Text.trim t ≠ [] ∧ limit < t.length + 2 := by
    by_cases hblank : Text.trim t = []
    · rw [process_of_blank hblank]
      exact iff_of_false (not_refusesLength_ok _) fun h => h.1 hblank
    · rw [process_of_not_blank hblank, refusesLength_runDocument_iff, heffective,
        refusesLength_convert_iff hstem, hlength]
      exact (and_iff_right hblank).symm
  have hconvert : RefusesLength (convert stem (some limit) t) ↔ limit < t.length :=
    refusesLength_convert_iff hstem
  refine ⟨⟨stem, some limit⟩, rfl, hstage, hconvert, ?_, process_of_blank, fun hblank => ?_⟩
  · intro e he
    by_cases hblank : Text.trim t = []
    · rw [process_of_blank hblank] at he
      cases he
    · rw [process_of_not_blank hblank, runDocument_eq_error_iff, heffective,
        convert_eq_ite hstem] at he
      split at he
      · cases he
        rw [ht.normalizeWhitespace_eq]
        simp
      · cases he
  · rw [hstage, hconvert, and_iff_right hblank]
    omega

/-- A line of blanks in front, a footnote, and one character less than the limit. -/
theorem process_refuses_iff_short :
    let t : Text := "  \na[^b]".toList
    let stem : Text := "fn".toList
    (IsId stem ∧ (1 : Int) ≤ 9 ∧ IsNormal t) ∧ (t.length : Int) = 8 ∧
      ∃ s, Settings.ofList [(SettingName.stem.text, .text stem),
          (SettingName.limit.text, .number 9)] = .ok s ∧
        RefusesLength (s.process t) ∧ ¬ RefusesLength (convert stem (some 9) t) := by
  intro t stem
  have hstem : IsId stem := by decide
  have ht : IsNormal t := isNormal_iff.mpr (by decide +kernel)
  obtain ⟨s, hs, hstage, hconvert, -, -, -⟩ :=
    process_refuses_iff hstem (show (1 : Int) ≤ 9 by decide) ht
  refine ⟨⟨hstem, by decide, ht⟩, by decide, s, hs, hstage.mpr ⟨by decide, by decide⟩, ?_⟩
  rw [hconvert]
  decide

/-- A document that is just as long as the limit: conversion takes it, and the stage
refuses it for five characters. -/
theorem process_refuses_fitting :
    let t : Text := "abc".toList
    let s : Settings := ⟨defaultStem, some 3⟩
    IsId defaultStem ∧ IsNormal t ∧ (t.length : Int) = 3 ∧
      s.process t = .error (.tooLong 5 3) ∧
        ¬ (RefusesLength (s.process t) ↔ RefusesLength (convert defaultStem (some 3) t)) := by
  intro t s
  have hstem : IsId defaultStem := by decide
  have ht : IsNormal t := isNormal_iff.mpr (by decide +kernel)
  have hlength : (t.length : Int) = 3 := by decide
  have hstage : s.process t = .error (.tooLong 5 3) := by
    rw [process_of_not_blank (by decide), runDocument_eq_error_iff, ht.normalizeWhitespace_eq]
    exact convert_eq_ite hstem
  refine ⟨hstem, ht, hlength, hstage, fun hagree => ?_⟩
  have hrefused := hagree.mp ⟨5, 3, hstage⟩
  rw [refusesLength_convert_iff hstem, hlength] at hrefused
  exact absurd hrefused (by decide)

end Settings

end InlineNotes
