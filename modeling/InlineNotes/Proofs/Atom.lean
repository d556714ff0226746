import InlineNotes.Outline

/-!
# Atoms

How a document is cut into segments is no part of what it says. Underneath it is
a list of atoms: the characters of its literals one by one, and its references,
each as one thing that cannot be looked into. The type `ρ` of references is
arbitrary, so nothing that is said here can depend on what a reference holds.

Footnotes start at openers, and `Plain` atoms hold none. A list of atoms that is
not plain has one first opener, and it can be cut there in one way only.
-/
namespace InlineNotes

inductive Atom (ρ : Type)
  | char (c : Char)
  | reference (ref : ρ)
  deriving DecidableEq

namespace Atom
variable {ρ : Type}

def ofText (t : Text) : List (Atom ρ) := t.map char

def write (label : ρ → Text) : Atom ρ → Text
  | char c => [c]
  | reference ref => label ref

/-- The text of a list of atoms, with every reference as its label. -/
def writeAll (label : ρ → Text) (as : List (Atom ρ)) : Text := as.flatMap (write label)

/-- The two characters with which a footnote starts. -/
def opener : List (Atom ρ) := [char '[', char '^']

def closer : Atom ρ := char ']'

@[simp] theorem ofText_nil : (ofText [] : List (Atom ρ)) = [] := rfl

@[simp] theorem ofText_cons (c : Char) (t : Text) :
    (ofText (c :: t) : List (Atom ρ)) = char c :: ofText t := rfl

@[simp] theorem ofText_append (t u : Text) :
    (ofText (t ++ u) : List (Atom ρ)) = ofText t ++ ofText u := by
  simp [ofText]

theorem ofText_inj {t u : Text} : (ofText t : List (Atom ρ)) = ofText u ↔ t = u :=
  List.map_inj_right fun _ _ => char.inj

theorem ofText_opener : (ofText Label.opener : List (Atom ρ)) = opener := rfl

@[simp] theorem writeAll_nil (label : ρ → Text) : writeAll label [] = [] := rfl

@[simp] theorem writeAll_char (label : ρ → Text) (c : Char) (as : List (Atom ρ)) :
    writeAll label (char c :: as) = c :: writeAll label as := rfl

@[simp] theorem writeAll_reference (label : ρ → Text) (ref : ρ) (as : List (Atom ρ)) :
    writeAll label (reference ref :: as) = label ref ++ writeAll label as := rfl

@[simp] theorem writeAll_append (label : ρ → Text) (as bs : List (Atom ρ)) :
    writeAll label (as ++ bs) = writeAll label as ++ writeAll label bs := by
  simp [writeAll]

theorem writeAll_infix (label : ρ → Text) {as bs : List (Atom ρ)} (h : as <:+: bs) :
    writeAll label as <:+: writeAll label bs := by
  obtain ⟨before, after, rfl⟩ := h
  exact ⟨writeAll label before, writeAll label after, by simp⟩

theorem writeAll_flatMap {α : Type} (label : ρ → Text) (xs : List α) (f : α → List (Atom ρ)) :
    writeAll label (xs.flatMap f) = xs.flatMap fun x => writeAll label (f x) := by
  simp [writeAll, List.flatMap_assoc]

@[simp] theorem writeAll_ofText (label : ρ → Text) (t : Text) :
    writeAll label (ofText t) = t := by
  induction t with
  | nil => rfl
  | cons c t ih => simp [ih]

@[simp] theorem writeAll_opener (label : ρ → Text) :
    writeAll label opener = Label.opener := rfl

end Atom

open Atom

variable {ρ : Type}

/-- The atoms of a segment, with `view` of every reference. -/
def Segment.atoms (view : Reference → ρ) : Segment → List (Atom ρ)
  | .literal t => Atom.ofText t
  | .reference ref => [.reference (view ref)]

def flatten (view : Reference → ρ) (segments : List Segment) : List (Atom ρ) :=
  segments.flatMap (Segment.atoms view)

section
variable (view : Reference → ρ)

@[simp] theorem flatten_nil : flatten view [] = [] := rfl

@[simp] theorem flatten_literal (t : Text) (segments : List Segment) :
    flatten view (.literal t :: segments) = ofText t ++ flatten view segments := rfl

@[simp] theorem flatten_reference (ref : Reference) (segments : List Segment) :
    flatten view (.reference ref :: segments) = .reference (view ref) :: flatten view segments :=
  rfl

@[simp] theorem flatten_append (xs ys : List Segment) :
    flatten view (xs ++ ys) = flatten view xs ++ flatten view ys := by
  simp [flatten]

@[simp] theorem flatten_ofText (t : Text) : flatten view (Segment.ofText t) = ofText t := by
  cases t <;> simp [Segment.ofText]

@[simp] theorem flatten_consChar (c : Char) (segments : List Segment) :
    flatten view (Segment.consChar c segments) = .char c :: flatten view segments := by
  unfold Segment.consChar
  split <;> simp

/-- Restoring writes the atoms, with the label that the table has for a reference. -/
theorem restore_eq_writeAll (labels : Table Int Text) (segments : List Segment) :
    restore labels segments =
      writeAll id (flatten (fun ref => (labels.get? ref.index).getD ref.label) segments) := by
  induction segments with
  | nil => rfl
  | cons x xs ih =>
    have hcons : restore labels (x :: xs) = x.write labels ++ restore labels xs := rfl
    cases x with
    | literal t => simp [hcons, ih, Segment.write]
    | reference ref => simp [hcons, ih, Segment.write]

end

/-- No opener stands among the atoms. -/
def Plain (as : List (Atom ρ)) : Prop := ¬ opener <:+: as

theorem plain_nil : Plain ([] : List (Atom ρ)) := by
  simp [Plain, opener]

theorem plain_cons_iff {a : Atom ρ} {as : List (Atom ρ)} :
    Plain (a :: as) ↔ ¬ opener <+: a :: as ∧ Plain as := by
  simp [Plain, List.infix_cons_iff]

theorem Plain.of_infix {as bs : List (Atom ρ)} (h : Plain bs) (hi : as <:+: bs) : Plain as :=
  fun ho => h (ho.trans hi)

/-- An atom before a plain list starts an opener only as its first character. -/
theorem opener_prefix_cons_iff {a : Atom ρ} {as : List (Atom ρ)} :
    opener <+: a :: as ↔ a = .char '[' ∧ ∃ bs, as = .char '^' :: bs := by
  constructor
  · intro hp
    obtain ⟨bs, h⟩ := hp
    cases h
    exact ⟨rfl, bs, rfl⟩
  · intro h
    obtain ⟨rfl, bs, rfl⟩ := h
    exact ⟨bs, rfl⟩

/-- Atoms that hold an opener hold a first one. -/
theorem exists_first_opener {as : List (Atom ρ)} (h : ¬ Plain as) :
    ∃ before after, as = before ++ (opener ++ after) ∧ Plain before := by
  induction as with
  | nil => exact absurd plain_nil h
  | cons a as ih =>
    by_cases hp : opener <+: a :: as
    · obtain ⟨after, ha⟩ := hp
      exact ⟨[], after, ha.symm, plain_nil⟩
    · have has : ¬ Plain as := fun hs => h (plain_cons_iff.mpr ⟨hp, hs⟩)
      obtain ⟨before, after, rfl, hb⟩ := ih has
      refine ⟨a :: before, after, rfl, plain_cons_iff.mpr ⟨?_, hb⟩⟩
      intro ho
      exact hp (ho.trans (List.prefix_append _ _))

theorem eq_nil_of_opener_append {as after after' : List (Atom ρ)}
    (h : opener ++ after = as ++ (opener ++ after')) (ha : Plain as) : as = [] := by
  match as, ha with
  | [], _ => rfl
  | [a], _ => simp [opener] at h
  | a :: b :: as, ha =>
    simp only [opener, List.cons_append, List.cons.injEq] at h
    obtain ⟨rfl, rfl, -⟩ := h
    exact absurd ⟨[], as, rfl⟩ ha

/-- The place of the first opener is determined. -/
theorem first_opener_unique {before after before' after' : List (Atom ρ)}
    (h : before ++ (opener ++ after) = before' ++ (opener ++ after'))
    (hb : Plain before) (hb' : Plain before') : before = before' ∧ after = after' := by
  have heq : before = before' := by
    rcases List.append_eq_append_iff.mp h with ⟨xs, rfl, hx⟩ | ⟨xs, rfl, hx⟩
    · rw [eq_nil_of_opener_append hx (hb'.of_infix (List.infix_append_right)), List.append_nil]
    · rw [eq_nil_of_opener_append hx (hb.of_infix (List.infix_append_right)), List.append_nil]
  subst heq
  exact ⟨rfl, List.append_cancel_left (List.append_cancel_left h)⟩

theorem opener_prefix_ofText_iff {c : Char} {r : Text} :
    opener <+: (ofText (c :: r) : List (Atom ρ)) ↔ c = '[' ∧ ∃ r', r = '^' :: r' := by
  rw [ofText_cons, opener_prefix_cons_iff, Atom.char.injEq]
  refine and_congr_right fun _ => ⟨?_, fun ⟨r', h⟩ => ⟨ofText r', by rw [h]; rfl⟩⟩
  intro h
  obtain ⟨bs, hbs⟩ := h
  cases r with
  | nil => cases hbs
  | cons d r => exact ⟨r, by rw [Atom.char.inj (List.cons.inj hbs).1]⟩

/-- A literal is cut at an opener whenever it has one. -/
theorem cutAtOpener?_eq_none_iff {t : Text} :
    cutAtOpener? t = none ↔ Plain (ofText t : List (Atom ρ)) := by
  fun_induction cutAtOpener? t with
  | case1 => simp [plain_nil]
  | case2 r => exact ⟨fun h => (by cases h), fun h => absurd ⟨[], ofText r, rfl⟩ h⟩
  | case3 c r hno ih =>
    have hc : ¬ opener <+: (ofText (c :: r) : List (Atom ρ)) := by
      intro h
      obtain ⟨hc, r', hr⟩ := opener_prefix_ofText_iff.mp h
      exact hno r' hc hr
    rw [ofText_cons, plain_cons_iff, ← ih, Option.map_eq_none_iff]
    exact ⟨fun h => ⟨hc, h⟩, fun h => h.2⟩

/-- The opener at which a literal is cut is its first one. -/
theorem plain_of_cutAtOpener? {t before after : Text} (h : cutAtOpener? t = some (before, after)) :
    Plain (ofText before : List (Atom ρ)) := by
  fun_induction cutAtOpener? t generalizing before with
  | case1 => cases h
  | case2 r => cases h; exact plain_nil
  | case3 c r hno ih =>
    obtain ⟨⟨b, a⟩, hb, heq⟩ := Option.map_eq_some_iff.mp h
    cases heq
    refine plain_cons_iff.mpr ⟨fun ho => ?_, ih hb⟩
    obtain ⟨hc, b', rfl⟩ := opener_prefix_ofText_iff.mp ho
    exact hno _ hc (eq_append_of_cutAtOpener? hb)

end InlineNotes
