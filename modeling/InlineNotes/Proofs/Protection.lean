import Mathlib.Data.List.Chain
import Mathlib.Data.List.Nodup
import InlineNotes.Conversion
import InlineNotes.Proofs.Reading
import InlineNotes.Proofs.Refinement

/-!
# Conversion is a walk over tokens

The segments that protection makes of a text have no two literals next to each
other, so no border lies in an opener, and their references are numbered in
order, so the table of labels gives each of them its own label back. Hence the
segments and their numbers can be forgotten: converting a document is walking
over its tokens and writing down what comes out (`convertValid_eq_walk`).
-/
namespace InlineNotes
open Atom

/-- Two segments that may be next to each other: not two literals. -/
def Segment.Apart : Segment → Segment → Prop
  | .literal _, .literal _ => False
  | _, _ => True

theorem isChain_consChar (c : Char) {segments : List Segment}
    (h : segments.IsChain Segment.Apart) : (Segment.consChar c segments).IsChain Segment.Apart := by
  cases segments with
  | nil => exact List.isChain_singleton _
  | cons x xs =>
    cases x with
    | reference ref => exact List.isChain_cons_cons.mpr ⟨trivial, h⟩
    | literal t =>
      cases xs with
      | nil => exact List.isChain_singleton _
      | cons y ys =>
        obtain ⟨hty, hys⟩ := List.isChain_cons_cons.mp h
        refine List.isChain_cons_cons.mpr ⟨?_, hys⟩
        cases y with
        | literal u => exact hty
        | reference ref => trivial

theorem isChain_protectFrom (ids : IdSet) (index : Int) (t : Text) :
    (protectFrom ids index t).IsChain Segment.Apart := by
  fun_induction protectFrom ids index t with
  | case1 => exact List.isChain_nil
  | case2 index c r label rest h ih =>
    cases hrest : protectFrom ids (index + 1) rest with
    | nil => exact List.isChain_singleton _
    | cons x xs =>
      rw [hrest] at ih
      exact List.isChain_cons_cons.mpr ⟨trivial, ih⟩
  | case3 index c r h ih => exact isChain_consChar c ih

theorem Walk.keepsOpeners_of_isChain {ρ : Type} (view : Reference → ρ) {segments : List Segment}
    (h : segments.IsChain Segment.Apart) : KeepsOpeners view segments := by
  induction segments with
  | nil => exact keepsOpeners_nil view
  | cons x xs ih =>
    refine (keepsOpeners_cons_iff view).mpr ⟨?_, ih h.tail⟩
    cases x with
    | reference ref => simp [CutsOpener, Segment.atoms]
    | literal t =>
      cases xs with
      | nil => simp [CutsOpener]
      | cons y ys =>
        cases y with
        | literal u => exact absurd (List.isChain_cons_cons.mp h).1 id
        | reference ref => simp [CutsOpener]

def references (segments : List Segment) : List Reference := segments.filterMap Segment.reference?

@[simp] theorem references_consChar (c : Char) (segments : List Segment) :
    references (Segment.consChar c segments) = references segments := by
  cases segments with
  | nil => rfl
  | cons x xs => cases x <;> rfl

/-- References are numbered without gaps, in their order. -/
theorem indices_protectFrom (ids : IdSet) (index : Int) (t : Text) :
    (references (protectFrom ids index t)).map (·.index) =
      (List.range (references (protectFrom ids index t)).length).map
        fun n : Nat => index + (n : Int) := by
  fun_induction protectFrom ids index t with
  | case1 => rfl
  | case2 index c r label rest h ih =>
    have hcons : references (.reference ⟨index, label⟩ :: protectFrom ids (index + 1) rest) =
        ⟨index, label⟩ :: references (protectFrom ids (index + 1) rest) := rfl
    rw [hcons, List.map_cons, ih, List.length_cons, List.range_succ_eq_map]
    simp [Function.comp_def, Int.add_assoc, Int.add_comm 1]
  | case3 index c r h ih => simpa using ih

/-- The table of labels lists the references in their order. -/
theorem entries_labelTable (ids : IdSet) (t : Text) :
    (labelTable (protectReferences ids t)).entries =
      (references (protectReferences ids t)).map fun ref => (ref.index, ref.label) := by
  have hnodup : ((references (protectReferences ids t)).map (·.index)).Nodup := by
    rw [protectReferences, indices_protectFrom]
    exact List.nodup_range.map fun m n h => Int.ofNat.inj (Int.add_left_cancel h)
  exact Table.entries_ofList_of_nodup (by simpa [references, Function.comp_def] using hnodup)

/-- The table of labels has every reference of a text under its own number. -/
theorem get?_labelTable {ids : IdSet} {t : Text} {ref : Reference}
    (h : .reference ref ∈ protectReferences ids t) :
    (labelTable (protectReferences ids t)).get? ref.index = some ref.label := by
  apply Table.get?_eq_some_of_mem
  rw [entries_labelTable]
  exact List.mem_map.mpr ⟨ref, List.mem_filterMap.mpr ⟨_, h, rfl⟩, rfl⟩

theorem flatten_congr {ρ : Type} {view view' : Reference → ρ} {segments : List Segment}
    (h : ∀ ref, .reference ref ∈ segments → view ref = view' ref) :
    flatten view segments = flatten view' segments := by
  induction segments with
  | nil => rfl
  | cons x xs ih =>
    have hxs := ih fun ref hr => h ref (List.mem_cons_of_mem _ hr)
    cases x with
    | literal t => rw [flatten_literal, flatten_literal, hxs]
    | reference ref => rw [flatten_reference, flatten_reference, hxs, h ref List.mem_cons_self]

/-- The walk over the tokens of a document. -/
def Walk.ofDocument (stem t : Text) : Walk Text :=
  readAtoms stem ⟨[], .empty, 1, .outside⟩ (tokensOf t)

/-- A text without an opener has no label. -/
theorem not_infix_opener {t : Text} (h : cutAtOpener? t = none) : ¬ Label.opener <:+: t := by
  intro ho
  have hplain : Plain (ofText t : List Token) := cutAtOpener?_eq_none_iff.mp h
  exact hplain (ho.map Atom.char)

theorem plain_tokensOf {t : Text} (h : cutAtOpener? t = none) : Plain (tokensOf t) := by
  intro ho
  have hwrite := writeAll_infix id ho
  rw [(isReading_tokensOf t).spells] at hwrite
  exact not_infix_opener h hwrite

/-- Segments made of a text are walked over as its tokens are. -/
theorem Walk.readSegments_protectReferences (stem : Text) (view : Reference → Text) (w : Walk Text)
    {t : Text} (h : flatten view (protectReferences (definedIds t) t) = tokensOf t) :
    readSegments stem view w (protectReferences (definedIds t) t) =
      readAtoms stem w (tokensOf t) := by
  have hchain := isChain_protectFrom (definedIds t) 0 t
  rw [← h]
  exact readSegments_eq_readAtoms view stem w (keepsOpeners_of_isChain view hchain)

/-- Segments made of a text are deferred and restored as its tokens are walked over. -/
theorem restore_deferNotes (stem t : Text) :
    let segments := protectReferences (definedIds t) t
    let labels := labelTable segments
    let d := deferNotes stem .empty 1 segments
    restore labels d.pieces = writeAll id (Walk.ofDocument stem t).output ∧
      d.notes.map (restore labels) = (Walk.ofDocument stem t).notes.map (writeAll id) := by
  intro segments labels d
  let view : Reference → Text := fun ref => (labels.get? ref.index).getD ref.label
  have hrestore : restore labels = fun xs => writeAll id (flatten view xs) :=
    funext (restore_eq_writeAll labels)
  have htokens : flatten view segments = tokensOf t := by
    apply flatten_congr
    intro ref href
    simp only [view, labels, segments]
    rw [get?_labelTable href, Option.getD_some]
  have hwalk : Walk.readSegments stem view ⟨[], .empty, 1, .outside⟩ segments =
      Walk.ofDocument stem t :=
    Walk.readSegments_protectReferences stem view _ htokens
  obtain ⟨hpieces, hnotes, -⟩ := flatten_deferNotes stem view .empty 1 segments
  have hempty : Table.empty.map (flatten view) = (.empty : Table Text (List Token)) := rfl
  rw [hempty, hwalk] at hpieces hnotes
  rw [hrestore, ← hpieces, ← hnotes, Table.map_map]
  exact ⟨rfl, rfl⟩

/-- Converting a document is walking over its tokens. -/
theorem convertValid_eq_walk (stem t : Text) :
    (convertValid stem t).text = writeAll id (Walk.ofDocument stem t).output ∧
      (convertValid stem t).notes = (Walk.ofDocument stem t).notes.map (writeAll id) := by
  unfold convertValid
  split
  · next h =>
    have hplain : Plain (tokensOf t) := plain_tokensOf (Option.isNone_iff_eq_none.mp h)
    have hwalk : Walk.ofDocument stem t = ⟨tokensOf t, .empty, 1, .outside⟩ :=
      Walk.readAtoms_of_plain stem [] .empty 1 hplain
    rw [hwalk]
    refine ⟨?_, rfl⟩
    have ht : writeAll id (tokensOf t) = t := (isReading_tokensOf t).spells
    simp [Conversion.unchanged, Walk.output, Place.raw, Walk.block, Table.isEmpty, ht]
  · exact restore_deferNotes stem t

theorem values_notes_convertValid (stem t : Text) :
    (convertValid stem t).notes.entries.map (·.2) =
      ((Walk.ofDocument stem t).notes.entries.map (·.2)).map (writeAll id) := by
  rw [(convertValid_eq_walk stem t).2, Table.entries_map, List.map_map, List.map_map]
  rfl

/-- What the walk comes to before the definitions, and the definitions. -/
theorem text_convertValid (stem t : Text) :
    (convertValid stem t).text =
      writeAll id ((Walk.ofDocument stem t).emitted ++ (Walk.ofDocument stem t).place.raw) ++
        definitionsText (convertValid stem t).notes.entries := by
  obtain ⟨htext, hnotes⟩ := convertValid_eq_walk stem t
  rw [htext, hnotes, Walk.output, writeAll_append, Walk.writeAll_block]

/-- A valid stem and a document within the limit are not refused. -/
theorem convert_eq_ok {stem t : Text} {limit : Option Int} (hstem : IsId stem)
    (hlimit : ∀ m ∈ limit, (t.length : Int) ≤ m) :
    convert stem limit t = .ok (convertValid stem t) := by
  have hcheck : checkRequest stem limit t = none := by
    unfold checkRequest
    rw [if_neg (not_not_intro hstem)]
    cases limit with
    | none => rfl
    | some m => exact if_neg (Int.not_lt.mpr (hlimit m rfl))
  rw [convert, hcheck]

/-- Which conversions succeed, and with what. -/
theorem convert_eq_ok_iff {stem t : Text} {limit : Option Int} {r : Conversion} :
    convert stem limit t = .ok r ↔
      IsId stem ∧ (∀ m ∈ limit, (t.length : Int) ≤ m) ∧ r = convertValid stem t := by
  constructor
  · intro h
    unfold convert at h
    split at h
    · cases h
    · next hcheck =>
      cases h
      unfold checkRequest at hcheck
      split at hcheck
      · cases hcheck
      · next hstem =>
        refine ⟨Classical.not_not.mp hstem, fun m hm => Int.not_lt.mp fun hlong => ?_, rfl⟩
        cases hm
        dsimp only at hcheck
        rw [if_pos hlong] at hcheck
        cases hcheck
  · rintro ⟨hstem, hlimit, rfl⟩
    exact convert_eq_ok hstem hlimit

end InlineNotes
