import Mathlib.Data.List.Infix
import InlineNotes.Proofs.Numbering
import InlineNotes.Proofs.Protection

/-!
# Conversion in one pass

A document can be converted by reading it once from left to right, with nothing
cut out of it first. Outside footnotes the pass copies characters and whole
labels of footnotes that the document defines; at any other opener a footnote
begins. Inside a footnote it counts brackets, those of such labels too, until one
closes that none of the body has opened. What is still open at the end is written
back as it stood.

The pass does what conversion does (`convert_eq_onePass`), although conversion
does not see the brackets of references. A label opens one bracket and closes it
at once, so counting its brackets changes nothing.
-/
namespace InlineNotes
open Atom

theorem IsId.not_bracket {id : Text} (h : IsId id) : ∀ c ∈ id, c ≠ '[' ∧ c ≠ ']' := by
  intro c hc
  have hchar := h.2 c hc
  constructor
  · rintro rfl
    simp [Label.not_isIdChar_open] at hchar
  · rintro rfl
    simp [Label.not_isIdChar_close] at hchar

/-- The label opens a bracket at its start and closes it at its end. -/
theorem depthAfter_write {ρ : Type} (depth : Nat) {id : Text} (h : IsId id) :
    depthAfter depth (ofText (Label.write id) : List (Atom ρ)) = some depth := by
  have hwrite : (ofText (Label.write id) : List (Atom ρ)) =
      .char '[' :: .char '^' :: (ofText id ++ [closer]) := by
    simp [Label.write, Label.opener, closer]
  have hcount := depthAfter_ofText_append h.not_bracket (depth + 1) ([closer] : List (Atom ρ))
  rw [hwrite]
  exact hcount

/-- Brackets can be counted with the labels or without. -/
theorem depthAfter_writeAll {tokens : List Token}
    (h : ∀ label, .reference label ∈ tokens → ∃ id, IsId id ∧ label = Label.write id)
    (depth : Nat) :
    depthAfter depth (ofText (writeAll id tokens) : List Token) = depthAfter depth tokens := by
  induction tokens generalizing depth with
  | nil => rfl
  | cons a tokens ih =>
    have hrest := ih fun label hl => h label (List.mem_cons_of_mem _ hl)
    have hcons : depthAfter depth (a :: tokens) =
        (depthAfter depth [a]).bind fun d => depthAfter d tokens :=
      depthAfter_append depth [a] tokens
    have ha : depthAfter depth (ofText (a.write id) : List Token) = depthAfter depth [a] := by
      cases a with
      | char c => rfl
      | reference label =>
        obtain ⟨i, hi, rfl⟩ := h label List.mem_cons_self
        exact depthAfter_write depth hi
    have hwrite : writeAll id (a :: tokens) = a.write id ++ writeAll id tokens := rfl
    rw [hwrite, ofText_append, depthAfter_append, ha, hcons]
    simp only [hrest]

/-- The label at the start of a text, and what follows it, if the document
defines its id and this is not a definition itself. -/
def keptLabel? (document t : Text) : Option (Text × Text) :=
  match Label.read? t with
  | some (_, ':' :: _) => none
  | some (id, rest) =>
    if (Label.write id ++ [':']) <:+: document then some (Label.write id, rest) else none
  | none => none

theorem keptLabel?_eq (document t : Text) :
    keptLabel? document t = readReference? (definedIds document) t := by
  unfold keptLabel? readReference?
  cases hread : Label.read? t with
  | none => rfl
  | some found =>
    obtain ⟨id, rest⟩ := found
    have hid : IsId id := (Label.eq_write_of_read? hread).1
    have hdefined : id ∈ definedIds document ↔ (Label.write id ++ [':']) <:+: document := by
      rw [mem_definedIds_iff]
      exact and_iff_right hid
    split
    · next h => cases h; rfl
    · next hcolon h => cases h; simp only [hdefined]
    · next h => cases h

/-- Where a walk over tokens stands, seen as text. -/
def Place.span : Place Text → Option (Text × Nat)
  | .outside => none
  | .inside body depth => some (writeAll id body, depth)

/-- What one pass over a document has done so far. Inside a footnote it knows the
body so far and how many brackets of the body are open. -/
structure Pass where
  written : Text
  notes : List (Text × Text)
  number : Int
  changed : Bool
  span : Option (Text × Nat)

namespace Pass

def start : Pass := ⟨[], [], 1, false, none⟩

/-- Reads a character of a footnote. -/
def readInside (stem : Text) (p : Pass) (body : Text) : Nat → Char → Pass
  | depth, '[' => { p with span := some (body ++ ['['], depth + 1) }
  | 0, ']' =>
    let id := numberedId stem p.number
    ⟨p.written ++ Label.write id, p.notes ++ [(id, body)], p.number + 1, true, none⟩
  | depth + 1, ']' => { p with span := some (body ++ [']'], depth) }
  | depth, c => { p with span := some (body ++ [c], depth) }

/-- Reads a label, an opener or a character outside footnotes. The second part is
what the pass has not read yet. -/
def readOutside (document : Text) (p : Pass) (c : Char) (r : Text) : Pass × Text :=
  match keptLabel? document (c :: r) with
  | some (label, rest) => ({ p with written := p.written ++ label }, rest)
  | none =>
    match c, r with
    | '[', '^' :: rest => ({ p with span := some ([], 0) }, rest)
    | c, r => ({ p with written := p.written ++ [c] }, r)

def step (stem document : Text) (p : Pass) (c : Char) (r : Text) : Pass × Text :=
  match p.span with
  | some (body, depth) => (p.readInside stem body depth c, r)
  | none => p.readOutside document c r

theorem length_step_lt (stem document : Text) (p : Pass) (c : Char) (r : Text) :
    (p.step stem document c r).2.length < (c :: r).length := by
  unfold step
  split
  · simp
  · unfold readOutside
    split
    · next h => exact length_lt_of_readReference? ((keptLabel?_eq document _).symm.trans h)
    · split
      · simp only [List.length_cons]
        omega
      · simp

def run (stem document : Text) (p : Pass) : Text → Pass
  | [] => p
  | c :: r => run stem document (p.step stem document c r).1 (p.step stem document c r).2
  termination_by t => t.length
  decreasing_by exact length_step_lt stem document p c r

def unclosed (p : Pass) : Text :=
  match p.span with
  | some (body, _) => Label.opener ++ body
  | none => []

/-- The text that the pass gives when the document ends here. -/
def text (p : Pass) : Text := p.written ++ p.unclosed ++ definitionsText p.notes

section
variable (stem document written : Text) (notes : List (Text × Text)) (number : Int) (changed : Bool)

@[simp] theorem run_nil (p : Pass) : p.run stem document [] = p := by
  rw [run]

theorem run_inside (body : Text) (depth : Nat) (c : Char) (r : Text) :
    run stem document ⟨written, notes, number, changed, some (body, depth)⟩ (c :: r) =
      run stem document
        (readInside stem ⟨written, notes, number, changed, some (body, depth)⟩ body depth c) r := by
  rw [run, step]

theorem run_kept {t label rest : Text} (h : keptLabel? document t = some (label, rest)) :
    run stem document ⟨written, notes, number, changed, none⟩ t =
      run stem document ⟨written ++ label, notes, number, changed, none⟩ rest := by
  cases t with
  | nil => cases h
  | cons c r =>
    have hread : readOutside document ⟨written, notes, number, changed, none⟩ c r =
        (⟨written ++ label, notes, number, changed, none⟩, rest) := by
      simp only [readOutside, h]
    rw [run, step, hread]

theorem run_opener {r : Text} (h : keptLabel? document ('[' :: '^' :: r) = none) :
    run stem document ⟨written, notes, number, changed, none⟩ ('[' :: '^' :: r) =
      run stem document ⟨written, notes, number, changed, some ([], 0)⟩ r := by
  have hread : readOutside document ⟨written, notes, number, changed, none⟩ '[' ('^' :: r) =
      (⟨written, notes, number, changed, some ([], 0)⟩, r) := by
    rw [readOutside, h]
  rw [run, step, hread]

theorem run_char {c : Char} {r : Text} (h : keptLabel? document (c :: r) = none)
    (hc : ¬ (c = '[' ∧ ∃ rest, r = '^' :: rest)) :
    run stem document ⟨written, notes, number, changed, none⟩ (c :: r) =
      run stem document ⟨written ++ [c], notes, number, changed, none⟩ r := by
  have hread : readOutside document ⟨written, notes, number, changed, none⟩ c r =
      (⟨written ++ [c], notes, number, changed, none⟩, r) := by
    rw [readOutside, h]
    exact fun rest hopen hr => hc ⟨hopen, rest, hr⟩
  rw [run, step, hread]

/-- Where no bracket closes the footnote, the body grows and the depth is counted. -/
theorem run_body {depth left : Nat} {t : Text} (h : Closing.find depth t = .unclosed left)
    (body rest : Text) :
    run stem document ⟨written, notes, number, changed, some (body, depth)⟩ (t ++ rest) =
      run stem document ⟨written, notes, number, changed, some (body ++ t, left)⟩ rest := by
  fun_induction Closing.find depth t generalizing body with
  | case1 depth =>
    cases h
    simp
  | case2 depth r ih =>
    rw [List.cons_append, run_inside, List.append_cons]
    exact ih (Closing.cons_eq_unclosed.mp h) _
  | case3 => cases h
  | case4 depth r ih =>
    rw [List.cons_append, run_inside, List.append_cons]
    exact ih (Closing.cons_eq_unclosed.mp h) _
  | case5 depth c r hopen hzero hsucc ih =>
    have hread :
        readInside stem ⟨written, notes, number, changed, some (body, depth)⟩ body depth c =
          ⟨written, notes, number, changed, some (body ++ [c], depth)⟩ := by
      rw [readInside]
      · exact hopen
      · exact hzero
      · exact hsucc
    rw [List.cons_append, run_inside, hread, ih (Closing.cons_eq_unclosed.mp h)]
    simp

end

/-- The pass that stands where a walk over tokens stands. -/
def ofWalk (w : Walk Text) : Pass :=
  ⟨writeAll id w.emitted, (w.notes.map (writeAll id)).entries, w.number, !w.notes.isEmpty,
    w.place.span⟩

section
variable (stem : Text) (emitted : List Token) {notes : Table Text (List Token)} {number : Int}

/-- A character of a footnote takes the pass where it takes the walk. -/
theorem readInside_ofWalk (hfresh : FreshFrom stem number notes) (body : List Token) (depth : Nat)
    (c : Char) :
    let w : Walk Text := ⟨emitted, notes, number, .inside body depth⟩
    (ofWalk w).readInside stem (writeAll id body) depth c = ofWalk (w.step stem (.char c)) := by
  intro w
  by_cases hopen : c = '['
  · subst hopen
    simp [readInside, Walk.step, ofWalk, Place.span, w]
  by_cases hclose : c = ']'
  · subst hclose
    cases depth with
    | zero =>
      have hput : (notes.put (numberedId stem number) body).entries =
          notes.entries ++ [(numberedId stem number, body)] := hfresh.entries_put body
      simp [readInside, Walk.step, Walk.close, ofWalk, Place.span, Table.isEmpty, hput, w]
    | succ depth => simp [readInside, Walk.step, ofWalk, Place.span, w]
  · have hread : ∀ p : Pass, p.readInside stem (writeAll id body) depth c =
        { p with span := some (writeAll id body ++ [c], depth) } := by
      intro p
      unfold readInside
      split <;> simp_all
    have hstep : w.step stem (.char c) = { w with place := .inside (body ++ [.char c]) depth } := by
      unfold Walk.step
      split <;> simp_all [w]
    rw [hread, hstep]
    simp [ofWalk, Place.span, w]

end

theorem freshFrom_step {stem : Text} {w : Walk Text} (hfresh : FreshFrom stem w.number w.notes)
    (a : Token) : FreshFrom stem (w.step stem a).number (w.step stem a).notes := by
  unfold Walk.step
  split
  · exact hfresh
  · exact hfresh
  · exact hfresh.put _
  · exact hfresh
  · exact hfresh

/-- Tokens start with an opener only where the text does. -/
theorem of_opener_prefix_tokensFor {ids : IdSet} {c : Char} {r : Text}
    (h : opener <+: .char c :: tokensFor ids r) : c = '[' ∧ ∃ rest, r = '^' :: rest := by
  obtain ⟨hc, bs, hbs⟩ := opener_prefix_cons_iff.mp h
  have hr : writeAll id (tokensFor ids r) = r := writeAll_tokensFor r
  refine ⟨Atom.char.inj hc, writeAll id bs, ?_⟩
  rw [← hr, hbs]
  rfl

/-- A whole label: outside it is copied, inside its brackets cancel out. -/
theorem run_ofWalk_label {stem document t label rest : Text}
    (h : keptLabel? document t = some (label, rest)) (w : Walk Text) :
    run stem document (ofWalk w) t =
      run stem document (ofWalk (w.step stem (.reference label))) rest := by
  obtain ⟨emitted, notes, number, place⟩ := w
  cases place with
  | outside =>
    apply (run_kept stem document _ _ _ _ h).trans
    simp [ofWalk, Walk.step, Place.span]
  | inside body depth =>
    rw [keptLabel?_eq] at h
    obtain ⟨i, hi, -, rfl, rfl, -⟩ := readReference?_eq_some_iff.mp h
    have hdepth : depthAfter depth (ofText (Label.write i) : List Token) = some depth :=
      depthAfter_write depth hi
    have hfind : Closing.find depth (Label.write i) = .unclosed depth :=
      find_of_depthAfter_eq_some hdepth
    apply (run_body stem document _ _ _ _ hfind _ rest).trans
    simp [ofWalk, Walk.step, Place.span]

section
variable {stem document : Text} (emitted : List Token) {notes : Table Text (List Token)}
  {number : Int}

theorem run_ofWalk_inside (hfresh : FreshFrom stem number notes) (body : List Token) (depth : Nat)
    (c : Char) (r : Text) :
    run stem document (ofWalk ⟨emitted, notes, number, .inside body depth⟩) (c :: r) =
      run stem document
        (ofWalk (Walk.step stem ⟨emitted, notes, number, .inside body depth⟩ (.char c))) r := by
  have hread := readInside_ofWalk stem emitted hfresh body depth c
  exact (run_inside stem document _ _ _ _ _ depth c r).trans
    (congrArg (run stem document · r) hread)

theorem run_ofWalk_opener {r : Text} (h : keptLabel? document ('[' :: '^' :: r) = none) :
    run stem document (ofWalk ⟨emitted, notes, number, .outside⟩) ('[' :: '^' :: r) =
      run stem document (ofWalk ⟨emitted, notes, number, .inside [] 0⟩) r :=
  run_opener stem document _ _ _ _ h

theorem run_ofWalk_outside {c : Char} {r : Text} (h : keptLabel? document (c :: r) = none)
    (hc : ¬ (c = '[' ∧ ∃ rest, r = '^' :: rest)) :
    run stem document (ofWalk ⟨emitted, notes, number, .outside⟩) (c :: r) =
      run stem document (ofWalk ⟨emitted ++ [.char c], notes, number, .outside⟩) r := by
  have hwrite : writeAll id (emitted ++ [.char c]) = writeAll id emitted ++ [c] := by simp
  rw [ofWalk, ofWalk, hwrite]
  exact run_char stem document _ _ _ _ h hc

end

/-- Reading a text in one pass is walking over its tokens. The induction is on the
length of the text, since a label or an opener is read at once. -/
theorem run_ofWalk (stem document : Text) (w : Walk Text) (hfresh : FreshFrom stem w.number w.notes)
    (t : Text) :
    run stem document (ofWalk w) t =
      ofWalk (Walk.readAtoms stem w (tokensFor (definedIds document) t)) := by
  induction hlen : t.length using Nat.strong_induction_on generalizing w t with
  | _ n ih =>
    subst hlen
    cases hkept : keptLabel? document t with
    | some found =>
      obtain ⟨label, rest⟩ := found
      have href : readReference? (definedIds document) t = some (label, rest) :=
        (keptLabel?_eq document t).symm.trans hkept
      have hlt : rest.length < t.length := length_lt_of_readReference? href
      rw [run_ofWalk_label hkept, tokensFor_of_reference href, Walk.readAtoms_reference]
      exact ih _ hlt _ (freshFrom_step hfresh _) rest rfl
    | none =>
      cases t with
      | nil => simp
      | cons c r =>
        have hnone : readReference? (definedIds document) (c :: r) = none :=
          (keptLabel?_eq document _).symm.trans hkept
        have hr : r.length < (c :: r).length := by simp
        obtain ⟨emitted, notes, number, place⟩ := w
        cases place with
        | inside body depth =>
          rw [run_ofWalk_inside emitted hfresh, tokensFor_of_char hnone, Walk.readAtoms_inside_cons]
          exact ih _ hr _ (freshFrom_step hfresh _) r rfl
        | outside =>
          by_cases hopen : c = '[' ∧ ∃ rest, r = '^' :: rest
          · obtain ⟨rfl, rest, rfl⟩ := hopen
            have hcaret : readReference? (definedIds document) ('^' :: rest) = none := rfl
            have hrest : rest.length < ('[' :: '^' :: rest).length := by
              simp only [List.length_cons]
              omega
            have hwalk := Walk.readAtoms_opener stem emitted notes number
              (tokensFor (definedIds document) rest)
            rw [run_ofWalk_opener emitted hkept, tokensFor_of_char hnone, tokensFor_of_char hcaret]
            have hrun := ih _ hrest ⟨emitted, notes, number, .inside [] 0⟩ hfresh rest rfl
            exact hrun.trans (congrArg ofWalk hwalk.symm)
          · have hplain : ¬ opener <+: .char c :: tokensFor (definedIds document) r :=
              fun ho => hopen (of_opener_prefix_tokensFor ho)
            rw [run_ofWalk_outside emitted hkept hopen, tokensFor_of_char hnone,
              Walk.readAtoms_outside_cons stem emitted notes number hplain]
            exact ih _ hr ⟨emitted ++ [.char c], notes, number, .outside⟩ hfresh r rfl

theorem text_ofWalk (w : Walk Text) : (ofWalk w).text = writeAll id w.output := by
  have hunclosed : (ofWalk w).unclosed = writeAll id w.place.raw := by
    obtain ⟨emitted, notes, number, place⟩ := w
    cases place with
    | outside => rfl
    | inside body depth => simp [ofWalk, unclosed, Place.span, Place.raw]
  rw [text, hunclosed, Walk.output, writeAll_append, writeAll_append, Walk.writeAll_block]
  rfl

end Pass

/-- One pass over a whole document. -/
def onePass (stem t : Text) : Pass := Pass.run stem t .start t

theorem onePass_eq (stem t : Text) : onePass stem t = .ofWalk (Walk.ofDocument stem t) :=
  Pass.run_ofWalk stem t ⟨[], .empty, 1, .outside⟩ freshFrom_empty t

/-- The bracket that closes a footnote is found whether labels are looked into or not. -/
theorem find_writeAll {t : Text} {before after : List Token} (h : tokensOf t = before ++ after) :
    (∀ body rest, after = body ++ closer :: rest → Balanced body →
        Closing.find 0 (writeAll id after) = .closed (writeAll id body) (writeAll id rest)) ∧
      (NeverCloses after → ∃ depth, Closing.find 0 (writeAll id after) = .unclosed depth) := by
  have hlabels : ∀ label, .reference label ∈ after → ∃ id, IsId id ∧ label = Label.write id := by
    intro label hl
    have htokens : .reference label ∈ tokensOf t := h ▸ List.mem_append_right before hl
    exact isLabel_of_mem_tokensFor htokens
  constructor
  · rintro body rest rfl hbody
    have hcount : depthAfter 0 (ofText (writeAll id body) : List Token) = some 0 := by
      rw [depthAfter_writeAll fun label hl => hlabels label (List.mem_append_left _ hl)]
      exact balanced_iff.mp hbody
    have hwrite : writeAll id (body ++ closer :: rest) =
        writeAll id body ++ ']' :: writeAll id rest := by
      simp [closer]
    rw [hwrite]
    exact find_of_depthAfter_eq_zero hcount
  · intro hopen
    obtain ⟨depth, hdepth⟩ := neverCloses_iff.mp hopen
    rw [← depthAfter_writeAll hlabels] at hdepth
    exact ⟨depth, find_of_depthAfter_eq_some hdepth⟩

/-- Conversion gives what one pass over the text gives: the same text, the same
footnotes and the same flag. And where a footnote ends does not depend on the
brackets of the labels that conversion does not look into. -/
theorem convert_eq_onePass {stem t : Text} {limit : Option Int} (hstem : IsId stem)
    (hlimit : ∀ m ∈ limit, (t.length : Int) ≤ m) :
    (∃ r, convert stem limit t = .ok r ∧ r.text = (onePass stem t).text ∧
      r.notes.entries = (onePass stem t).notes ∧ r.changed = (onePass stem t).changed) ∧
    ∀ before after, tokensOf t = before ++ (opener ++ after) →
      (∀ body rest, after = body ++ closer :: rest → Balanced body →
        Closing.find 0 (writeAll id after) = .closed (writeAll id body) (writeAll id rest)) ∧
      (NeverCloses after → ∃ depth, Closing.find 0 (writeAll id after) = .unclosed depth) := by
  constructor
  · obtain ⟨htext, hnotes⟩ := convertValid_eq_walk stem t
    refine ⟨convertValid stem t, convert_eq_ok hstem hlimit, ?_, ?_, ?_⟩
    · rw [htext, onePass_eq, Pass.text_ofWalk]
    · rw [hnotes, onePass_eq]
      rfl
    · rw [Conversion.changed, hnotes, onePass_eq]
      simp [Pass.ofWalk, Table.isEmpty, Table.map]
  · intro before after h
    rw [← List.append_assoc] at h
    exact find_writeAll h

/-- A reference inside a body and one inside a footnote that never closes. -/
theorem convert_eq_onePass_references :
    let t : Text := "[^r]: [^a[^r]][^o[^r]".toList
    let stem : Text := "n".toList
    (IsId stem ∧ ∀ m ∈ some 21, (t.length : Int) ≤ m) ∧
      (onePass stem t).text = "[^n1]: [^n2][^o[^r]\n\n[^n1]: r\n[^n2]: a[^r]\n".toList ∧
        (onePass stem t).changed = true := by
  intro t stem
  have hstem : IsId stem := by decide
  have hlimit : ∀ m ∈ some 21, (t.length : Int) ≤ m := by
    intro m hm
    cases hm
    decide
  obtain ⟨⟨r, hr, htext, -, hchanged⟩, -⟩ := convert_eq_onePass hstem hlimit
  rw [convert_eq_ok hstem hlimit] at hr
  refine ⟨⟨hstem, hlimit⟩, htext.symm.trans ?_, hchanged.symm.trans ?_⟩
  · cases hr
    decide +kernel
  · cases hr
    decide +kernel

end InlineNotes
