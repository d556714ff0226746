import InlineNotes.Proofs.References

/-!
# Protecting references is one way to cut a text

`Protects` says what the segments of a text have to be, in terms of the places at which
labels stand in it: the segments spell the text, every reference stands where a label of
one of the ids stands that no colon follows, every such place has its reference, literals
are not empty and not next to each other, and references are numbered from zero on. There
is exactly one such list of segments, and it is the one that protection makes
(`protectReferences_unique`).

The segments are determined by their tokens, because the tokens can be put together again
(`segmentsOf_flatten`), and the tokens are determined by where references are read.
-/
namespace InlineNotes
open Atom

/-- The references among the segments are the labels of the ids that stand in the text and
that no colon follows, each at its place. -/
structure Protects (ids : IdSet) (t : Text) (segments : List Segment) : Prop where
  spells : restore .empty segments = t
  reference_of_label : ∀ before i after, t = before ++ (Label.write i ++ after) → IsId i →
    i ∈ ids → ¬ [':'] <+: after →
    ∃ xs ref ys, segments = xs ++ .reference ref :: ys ∧ restore .empty xs = before ∧
      ref.label = Label.write i
  label_of_reference : ∀ xs ref ys, segments = xs ++ .reference ref :: ys →
    ∃ i, IsId i ∧ i ∈ ids ∧ ref.label = Label.write i ∧ ¬ [':'] <+: restore .empty ys
  literal_ne_nil : .literal [] ∉ segments
  apart : segments.IsChain Segment.Apart
  index_eq : ∀ (n : Nat) ref, (references segments)[n]? = some ref → ref.index = n

/-- The segments that tokens make up, with references numbered from `index` on. -/
def segmentsOf (index : Int) : List Token → List Segment
  | [] => []
  | .char c :: tokens => Segment.consChar c (segmentsOf index tokens)
  | .reference label :: tokens => .reference ⟨index, label⟩ :: segmentsOf (index + 1) tokens

section
variable (ids : IdSet) (index : Int)

theorem protectFrom_eq_segmentsOf (t : Text) :
    protectFrom ids index t = segmentsOf index (tokensFor ids t) := by
  fun_induction protectFrom ids index t with
  | case1 => simp [segmentsOf]
  | case2 index c r label rest h ih => rw [tokensFor_of_reference h, segmentsOf, ih]
  | case3 index c r h ih => rw [tokensFor_of_char h, segmentsOf, ih]

theorem segmentsOf_ofText_append (t : Text) (tokens : List Token) :
    segmentsOf index (ofText t ++ tokens) =
      t.foldr Segment.consChar (segmentsOf index tokens) := by
  induction t with
  | nil => rfl
  | cons c t ih => rw [ofText_cons, List.cons_append, segmentsOf, ih, List.foldr_cons]

theorem literal_ne_nil_of_mem_protectFrom (t : Text) :
    .literal [] ∉ protectFrom ids index t := by
  fun_induction protectFrom ids index t with
  | case1 => exact List.not_mem_nil
  | case2 index c r label rest h ih => simpa using ih
  | case3 index c r h ih =>
    unfold Segment.consChar
    split
    · next hsegments =>
      rw [hsegments] at ih
      simpa using fun hm => ih (List.mem_cons_of_mem _ hm)
    · simpa using ih

end

/-- The characters of a literal make a literal again, unless one follows it already. -/
theorem foldr_consChar {t : Text} {segments : List Segment} (ht : t ≠ [])
    (h : (Segment.literal t :: segments).IsChain Segment.Apart) :
    t.foldr Segment.consChar segments = .literal t :: segments := by
  induction t with
  | nil => exact absurd rfl ht
  | cons c t ih =>
    rw [List.foldr_cons]
    by_cases hempty : t = []
    · subst hempty
      rw [List.foldr_nil]
      cases segments with
      | nil => rfl
      | cons x xs =>
        cases x with
        | literal u => exact absurd (List.isChain_cons_cons.mp h).1 id
        | reference ref => rfl
    · have hchain : (Segment.literal t :: segments).IsChain Segment.Apart := by
        cases segments with
        | nil => exact List.isChain_singleton _
        | cons x xs =>
          obtain ⟨hx, hxs⟩ := List.isChain_cons_cons.mp h
          cases x with
          | literal u => exact absurd hx id
          | reference ref => exact List.isChain_cons_cons.mpr ⟨trivial, hxs⟩
      rw [ih hempty hchain]
      rfl

/-- Segments are made up of their tokens, if they are cut as coarsely as possible and
numbered in order. -/
theorem segmentsOf_flatten {segments : List Segment} {index : Int}
    (hne : .literal [] ∉ segments) (hapart : segments.IsChain Segment.Apart)
    (hindex : ∀ (n : Nat) ref, (references segments)[n]? = some ref → ref.index = index + n) :
    segmentsOf index (flatten Reference.label segments) = segments := by
  induction segments generalizing index with
  | nil => rfl
  | cons x xs ih =>
    rw [List.mem_cons, not_or] at hne
    cases x with
    | literal t =>
      have ht : t ≠ [] := by
        rintro rfl
        exact hne.1 rfl
      rw [flatten_literal, segmentsOf_ofText_append, ih hne.2 hapart.tail hindex]
      exact foldr_consChar ht hapart
    | reference ref =>
      have hfirst : ref.index = index := by
        have hzero := hindex 0 ref rfl
        simpa using hzero
      have hrest : ∀ (n : Nat) other, (references xs)[n]? = some other →
          other.index = index + 1 + n := by
        intro n other hn
        have hsucc := hindex (n + 1) other hn
        push_cast at hsucc
        omega
      rw [flatten_reference, segmentsOf, ih hne.2 hapart.tail hrest, ← hfirst]

/-- A label among the tokens of segments comes from a reference. -/
theorem exists_reference_of_flatten {segments : List Segment} {tokens tokens' : List Token}
    {label : Text}
    (h : flatten Reference.label segments = tokens ++ .reference label :: tokens') :
    ∃ xs ref ys, segments = xs ++ .reference ref :: ys ∧ flatten Reference.label xs = tokens ∧
      ref.label = label ∧ flatten Reference.label ys = tokens' := by
  induction segments generalizing tokens with
  | nil => simp at h
  | cons x segments ih =>
    cases x with
    | literal t =>
      rw [flatten_literal] at h
      rcases List.append_eq_append_iff.mp h with ⟨as, rfl, hrest⟩ | ⟨as, ht, hrest⟩
      · obtain ⟨xs, ref, ys, rfl, rfl, hlabel, hys⟩ := ih hrest
        exact ⟨.literal t :: xs, ref, ys, rfl, rfl, hlabel, hys⟩
      · cases as with
        | nil =>
          have hnext : flatten Reference.label segments = [] ++ .reference label :: tokens' :=
            hrest.symm
          obtain ⟨xs, ref, ys, rfl, hxs, hlabel, hys⟩ := ih hnext
          refine ⟨.literal t :: xs, ref, ys, rfl, ?_, hlabel, hys⟩
          rw [flatten_literal, hxs, ht]
          simp
        | cons a as =>
          obtain ⟨rfl, -⟩ := List.cons.inj hrest
          have hmem : .reference label ∈ (ofText t : List Token) := ht ▸ by simp
          simp [ofText] at hmem
    | reference ref =>
      rw [flatten_reference] at h
      cases tokens with
      | nil =>
        obtain ⟨hlabel, hys⟩ := List.cons.inj h
        exact ⟨[], ref, segments, rfl, rfl, Atom.reference.inj hlabel, hys⟩
      | cons a tokens =>
        obtain ⟨ha, hrest⟩ := List.cons.inj h
        obtain ⟨xs, other, ys, rfl, rfl, hlabel, hys⟩ := ih hrest
        refine ⟨.reference ref :: xs, other, ys, rfl, ?_, hlabel, hys⟩
        rw [flatten_reference, ha]

section
variable {ids : IdSet} {t : Text} {segments : List Segment}

theorem Protects.findsReferences (h : Protects ids t segments) :
    FindsReferences ids t (flatten Reference.label segments) where
  spells := (restore_empty segments).symm.trans h.spells
  token_of_read := by
    intro before u label rest ht hread
    obtain ⟨i, hi, hmem, rfl, rfl, hcolon⟩ := readReference?_eq_some_iff.mp hread
    obtain ⟨xs, ref, ys, rfl, rfl, hlabel⟩ := h.reference_of_label before i rest ht hi hmem hcolon
    refine ⟨flatten Reference.label xs, flatten Reference.label ys, ?_, (restore_empty xs).symm⟩
    rw [flatten_append, flatten_reference, hlabel]
  read_of_token := by
    intro as label as' htokens
    obtain ⟨xs, ref, ys, hsegments, -, rfl, rfl⟩ := exists_reference_of_flatten htokens
    obtain ⟨i, hi, hmem, hlabel, hcolon⟩ := h.label_of_reference xs ref ys hsegments
    rw [restore_empty] at hcolon
    exact readReference?_eq_some_iff.mpr ⟨i, hi, hmem, hlabel, rfl, hcolon⟩

theorem Protects.eq_protectReferences (h : Protects ids t segments) :
    segments = protectReferences ids t := by
  have htokens : flatten Reference.label segments = tokensFor ids t :=
    findsReferences_iff.mp h.findsReferences
  have hindex : ∀ (n : Nat) ref, (references segments)[n]? = some ref → ref.index = 0 + n := by
    intro n ref hn
    rw [h.index_eq n ref hn, Int.zero_add]
  rw [protectReferences, protectFrom_eq_segmentsOf, ← htokens,
    segmentsOf_flatten h.literal_ne_nil h.apart hindex]

end

theorem index_eq_of_getElem?_protectReferences {ids : IdSet} {t : Text} {n : Nat}
    {ref : Reference} (h : (references (protectReferences ids t))[n]? = some ref) :
    ref.index = n := by
  have hindices := congrArg (·[n]?) (indices_protectFrom ids 0 t)
  have hn := (List.getElem?_eq_some_iff.mp h).1
  rw [protectReferences] at h hn
  simpa [h, List.getElem?_range hn] using hindices

theorem protects_protectReferences (ids : IdSet) (t : Text) :
    Protects ids t (protectReferences ids t) where
  spells := (restore_empty _).trans (writeAll_tokensFor t)
  reference_of_label := by
    intro before i after ht hi hmem hcolon
    obtain ⟨as, as', htokens, hbefore⟩ := exists_token_of_readReference? ht
      (readReference?_eq_some_iff.mpr ⟨i, hi, hmem, rfl, rfl, hcolon⟩)
    obtain ⟨xs, ref, ys, hsegments, rfl, hlabel, -⟩ := exists_reference_of_flatten htokens
    exact ⟨xs, ref, ys, hsegments, (restore_empty xs).trans hbefore, hlabel⟩
  label_of_reference := by
    intro xs ref ys hsegments
    have htokens : tokensFor ids t = flatten Reference.label xs ++
        .reference ref.label :: flatten Reference.label ys := by
      rw [← flatten_reference, ← flatten_append, ← hsegments]
      rfl
    obtain ⟨i, hi, hmem, hlabel, -, hcolon⟩ :=
      readReference?_eq_some_iff.mp (readReference?_of_token htokens)
    exact ⟨i, hi, hmem, hlabel, by rwa [restore_empty]⟩
  literal_ne_nil := literal_ne_nil_of_mem_protectFrom ids 0 t
  apart := isChain_protectFrom ids 0 t
  index_eq := fun _ _ h => index_eq_of_getElem?_protectReferences h

/-- There is one way to protect the references of a text. The table of labels lists the
references, and with it the segments give the text back. -/
theorem protectReferences_unique (ids : IdSet) (t : Text) :
    let segments := protectReferences ids t
    let labels := labelTable segments
    (∀ xs, Protects ids t xs ↔ xs = segments) ∧
    labels.entries = (references segments).map (fun ref => (ref.index, ref.label)) ∧
    restore labels segments = t := by
  intro segments labels
  have hprotects : Protects ids t segments := protects_protectReferences ids t
  refine ⟨fun xs => ⟨fun h => h.eq_protectReferences, ?_⟩, entries_labelTable ids t, ?_⟩
  · rintro rfl
    exact hprotects
  · rw [restore_labelTable (List.Subset.refl _)]
    exact hprotects.spells

end InlineNotes
