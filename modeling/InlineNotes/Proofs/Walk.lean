import InlineNotes.Deferral
import InlineNotes.Proofs.Nesting

/-!
# Walking over a document

Deferral cuts whole texts at openers and closing brackets. The walk is the plain
account of the same thing. It goes over the atoms one at a time and keeps what
it has emitted, the table of footnotes, the next number, and the footnote that
is open. Outside, the two characters of an opener start a footnote and every
other atom is emitted. Inside, an opening bracket adds one to the depth, a
closing bracket subtracts one or, at depth zero, closes the footnote, and
references are carried along.

A walk over segments goes over the atoms of one segment at a time, so an opener
has to stand in one literal. Where no opener lies across a border, the borders
make no difference (`readSegments_eq_readAtoms`).
-/
namespace InlineNotes
open Atom
variable {ρ : Type}

/-- The definitions of footnotes as they are written: after a blank line, one for each. -/
def definitionsText (notes : List (Text × Text)) : Text :=
  if notes = [] then []
  else ['\n', '\n'] ++ notes.flatMap fun (id, body) =>
    Label.write id ++ [':', ' '] ++ body ++ ['\n']

/-- Where a walk is. Inside a footnote it has its body so far and its depth. -/
inductive Place (ρ : Type)
  | outside
  | inside (body : List (Atom ρ)) (depth : Nat)

/-- What is read of a footnote that is still open, from its opener on. -/
def Place.raw : Place ρ → List (Atom ρ)
  | .outside => []
  | .inside body _ => opener ++ body

structure Walk (ρ : Type) where
  emitted : List (Atom ρ)
  notes : Table Text (List (Atom ρ))
  number : Int
  place : Place ρ

namespace Walk

/-- Files the body under the next id and emits the label in its place. -/
def close (stem : Text) (w : Walk ρ) (body : List (Atom ρ)) : Walk ρ :=
  let id := numberedId stem w.number
  ⟨w.emitted ++ ofText (Label.write id), w.notes.put id body, w.number + 1, .outside⟩

/-- Reads one atom that is not part of an opener. -/
def step (stem : Text) (w : Walk ρ) (a : Atom ρ) : Walk ρ :=
  match w.place, a with
  | .outside, a => { w with emitted := w.emitted ++ [a] }
  | .inside body depth, .char '[' => { w with place := .inside (body ++ [.char '[']) (depth + 1) }
  | .inside body 0, .char ']' => w.close stem body
  | .inside body (depth + 1), .char ']' => { w with place := .inside (body ++ [.char ']']) depth }
  | .inside body depth, a => { w with place := .inside (body ++ [a]) depth }

def readAtoms (stem : Text) : Walk ρ → List (Atom ρ) → Walk ρ
  | w, [] => w
  | ⟨emitted, notes, number, .outside⟩, .char '[' :: .char '^' :: as =>
    readAtoms stem ⟨emitted, notes, number, .inside [] 0⟩ as
  | w, a :: as => readAtoms stem (w.step stem a) as

def readSegments (stem : Text) (view : Reference → ρ) (w : Walk ρ) (segments : List Segment) :
    Walk ρ :=
  segments.foldl (fun w segment => readAtoms stem w (segment.atoms view)) w

/-- The definitions of all footnotes, after a blank line. -/
def block (notes : Table Text (List (Atom ρ))) : List (Atom ρ) :=
  if notes.isEmpty then []
  else ofText ['\n', '\n'] ++ notes.entries.flatMap fun (id, body) =>
    ofText (Label.write id ++ [':', ' ']) ++ body ++ ofText ['\n']

/-- The whole output of a walk that ends here: a footnote that is still open is
given back as it stood. -/
def output (w : Walk ρ) : List (Atom ρ) := w.emitted ++ w.place.raw ++ block w.notes

theorem writeAll_block (label : ρ → Text) (notes : Table Text (List (Atom ρ))) :
    writeAll label (block notes) = definitionsText (notes.map (writeAll label)).entries := by
  rw [block, definitionsText, Table.entries_map]
  simp only [Table.isEmpty_iff, List.map_eq_nil_iff]
  split
  · rfl
  · simp [writeAll_flatMap, List.flatMap_map]

section
variable (stem : Text) (emitted : List (Atom ρ)) (notes : Table Text (List (Atom ρ))) (number : Int)

@[simp] theorem readAtoms_nil (w : Walk ρ) : readAtoms stem w [] = w := by
  simp [readAtoms]

theorem readAtoms_opener (as : List (Atom ρ)) :
    readAtoms stem ⟨emitted, notes, number, .outside⟩ (opener ++ as) =
      readAtoms stem ⟨emitted, notes, number, .inside [] 0⟩ as := by
  simp [opener, readAtoms]

theorem readAtoms_outside_cons {a : Atom ρ} {as : List (Atom ρ)} (h : ¬ opener <+: a :: as) :
    readAtoms stem ⟨emitted, notes, number, .outside⟩ (a :: as) =
      readAtoms stem ⟨emitted ++ [a], notes, number, .outside⟩ as := by
  rw [readAtoms]
  · rfl
  · intro _ _ _ bs _ ha has
    subst ha has
    exact h ⟨bs, rfl⟩

theorem readAtoms_inside_cons (body : List (Atom ρ)) (depth : Nat) (a : Atom ρ)
    (as : List (Atom ρ)) :
    readAtoms stem ⟨emitted, notes, number, .inside body depth⟩ (a :: as) =
      readAtoms stem (step stem ⟨emitted, notes, number, .inside body depth⟩ a) as := by
  rw [readAtoms]
  intro _ _ _ _ h
  cases h

theorem readAtoms_reference (w : Walk ρ) (ref : ρ) (as : List (Atom ρ)) :
    readAtoms stem w (.reference ref :: as) = readAtoms stem (w.step stem (.reference ref)) as := by
  rw [readAtoms]
  intro _ _ _ _ _ h
  cases h

/-- An opener lies across the border of two lists of atoms. -/
def CutsOpener (as bs : List (Atom ρ)) : Prop :=
  as.getLast? = some (.char '[') ∧ bs.head? = some (.char '^')

theorem CutsOpener.cons {a : Atom ρ} {as bs : List (Atom ρ)} (h : CutsOpener as bs) :
    CutsOpener (a :: as) bs := by
  refine ⟨?_, h.2⟩
  rw [List.getLast?_cons, h.1]
  rfl

theorem not_cutsOpener_of_ne {as bs : List (Atom ρ)} {b : Atom ρ} (h : b ≠ .char '^') :
    ¬ CutsOpener as (b :: bs) := by
  intro h
  obtain ⟨-, hb⟩ := h
  exact h (Option.some.inj hb)

/-- A walk over two lists is a walk over the first, continued on the second,
where no opener is lost between them. -/
theorem readAtoms_append (w : Walk ρ) {as bs : List (Atom ρ)} (h : ¬ CutsOpener as bs) :
    readAtoms stem w (as ++ bs) = readAtoms stem (readAtoms stem w as) bs := by
  fun_induction readAtoms stem w as with
  | case1 w => rfl
  | case2 emitted notes number as ih =>
    rw [← ih fun hc => h hc.cons.cons]
    exact readAtoms_opener stem emitted notes number (as ++ bs)
  | case3 w a as hno ih =>
    rw [← ih fun hc => h hc.cons]
    obtain ⟨emitted, notes, number, place⟩ := w
    cases place with
    | inside body depth => exact readAtoms_inside_cons stem emitted notes number body depth a _
    | outside =>
      apply readAtoms_outside_cons
      intro ho
      obtain ⟨rfl, cs, hcs⟩ := opener_prefix_cons_iff.mp ho
      cases as with
      | nil => exact h ⟨rfl, congrArg List.head? hcs⟩
      | cons b as =>
        obtain ⟨rfl, -⟩ := List.cons.inj hcs
        exact hno emitted notes number as rfl rfl rfl

theorem readAtoms_of_plain {as : List (Atom ρ)} (h : Plain as) :
    readAtoms stem ⟨emitted, notes, number, .outside⟩ as =
      ⟨emitted ++ as, notes, number, .outside⟩ := by
  induction as generalizing emitted with
  | nil => simp
  | cons a as ih =>
    obtain ⟨ho, has⟩ := plain_cons_iff.mp h
    rw [readAtoms_outside_cons stem emitted notes number ho, ih _ has]
    simp

/-- Up to the first opener the atoms are emitted as they are. -/
theorem readAtoms_first_opener {before : List (Atom ρ)} (h : Plain before) (after : List (Atom ρ)) :
    readAtoms stem ⟨emitted, notes, number, .outside⟩ (before ++ (opener ++ after)) =
      readAtoms stem ⟨emitted ++ before, notes, number, .inside [] 0⟩ after := by
  have hcut : ¬ CutsOpener before (opener ++ after) := not_cutsOpener_of_ne (by simp)
  rw [readAtoms_append stem _ hcut, readAtoms_of_plain stem emitted notes number h,
    readAtoms_opener]

/-- While the footnote stays open its body grows, and the depth is the count of
brackets. -/
theorem readAtoms_body {depth d : Nat} {as : List (Atom ρ)} (h : depthAfter depth as = some d)
    (body : List (Atom ρ)) :
    readAtoms stem ⟨emitted, notes, number, .inside body depth⟩ as =
      ⟨emitted, notes, number, .inside (body ++ as) d⟩ := by
  fun_induction depthAfter depth as generalizing body with
  | case1 depth => simp_all
  | case2 depth as ih =>
    rw [readAtoms_inside_cons, List.append_cons]
    exact ih h _
  | case3 => cases h
  | case4 depth as ih =>
    rw [readAtoms_inside_cons, List.append_cons]
    exact ih h _
  | case5 depth a as hopen hzero hsucc ih =>
    have hstep : step stem ⟨emitted, notes, number, .inside body depth⟩ a =
        ⟨emitted, notes, number, .inside (body ++ [a]) depth⟩ := by
      unfold step
      split <;> simp_all
    rw [readAtoms_inside_cons, hstep, ih h]
    simp

/-- The first closing bracket that is not paired closes the footnote. -/
theorem readAtoms_first_closer {depth : Nat} {before : List (Atom ρ)}
    (h : depthAfter depth before = some 0) (body after : List (Atom ρ)) :
    readAtoms stem ⟨emitted, notes, number, .inside body depth⟩ (before ++ closer :: after) =
      readAtoms stem (close stem ⟨emitted, notes, number, .inside body depth⟩ (body ++ before))
        after := by
  have hcut : ¬ CutsOpener before (closer :: after) := not_cutsOpener_of_ne (by simp [closer])
  rw [readAtoms_append stem _ hcut, readAtoms_body stem emitted notes number h,
    readAtoms_inside_cons]
  rfl

end

section
variable (view : Reference → ρ)

/-- No border of two segments lies in an opener. -/
def KeepsOpeners (segments : List Segment) : Prop :=
  ∀ xs ys, segments = xs ++ ys → ¬ CutsOpener (flatten view xs) (flatten view ys)

theorem keepsOpeners_nil : KeepsOpeners view [] := by
  intro xs ys h
  obtain ⟨rfl, rfl⟩ := List.nil_eq_append_iff.mp h
  simp [CutsOpener]

theorem keepsOpeners_cons_iff {x : Segment} {xs : List Segment} :
    KeepsOpeners view (x :: xs) ↔
      ¬ CutsOpener (x.atoms view) (flatten view xs) ∧ KeepsOpeners view xs := by
  have hcons : ∀ us, flatten view (x :: us) = x.atoms view ++ flatten view us := fun _ => rfl
  constructor
  · intro h
    refine ⟨by simpa [flatten] using h [x] xs rfl, fun us vs huv hc => ?_⟩
    refine h (x :: us) vs (by rw [huv]; rfl) ⟨?_, hc.2⟩
    rw [hcons, List.getLast?_append, hc.1]
    rfl
  · rintro ⟨hx, hxs⟩ us vs huv ⟨hlast, hhead⟩
    cases us with
    | nil => simp at hlast
    | cons y us =>
      obtain ⟨rfl, htail : xs = us ++ vs⟩ := List.cons.inj huv
      rw [hcons, List.getLast?_append] at hlast
      cases hus : flatten view us with
      | nil =>
        refine hx ⟨by simpa [hus] using hlast, ?_⟩
        rw [htail, flatten_append, hus]
        exact hhead
      | cons a as =>
        refine hxs us vs htail ⟨?_, hhead⟩
        simpa [hus, List.getLast?_cons] using hlast

theorem readSegments_eq_readAtoms (stem : Text) (w : Walk ρ) {segments : List Segment}
    (h : KeepsOpeners view segments) :
    readSegments stem view w segments = readAtoms stem w (flatten view segments) := by
  induction segments generalizing w with
  | nil => simp [readSegments]
  | cons x xs ih =>
    obtain ⟨hx, hxs⟩ := (keepsOpeners_cons_iff view).mp h
    have happ := readAtoms_append stem w hx
    exact (ih _ hxs).trans happ.symm

end

end Walk

end InlineNotes
