import InlineNotes.Proofs.Atom

/-!
# Nesting of brackets

A body is what stands between the opener of a footnote and the bracket that
closes it. Its own brackets pair up, which can be said without any scanning: no
prefix has closed more brackets than it has opened, and in the end all are
closed. `depthAfter` is the scanning side of it. It counts the brackets that are
open and gives up at a closing bracket that none has opened; a body is balanced
exactly if the count starts and ends at zero.

References have no brackets here, whatever their labels look like.
-/
namespace InlineNotes
open Atom
variable {ρ : Type}

namespace Atom

def isOpening : Atom ρ → Bool
  | char c => c == '['
  | reference _ => false

def isClosing : Atom ρ → Bool
  | char c => c == ']'
  | reference _ => false

end Atom

/-- No prefix closes a bracket that it has not opened. -/
def NeverCloses (as : List (Atom ρ)) : Prop :=
  ∀ p, p <+: as → p.countP isClosing ≤ p.countP isOpening

structure Balanced (as : List (Atom ρ)) : Prop where
  neverCloses : NeverCloses as
  total : as.countP isClosing = as.countP isOpening

/-- The number of open brackets after the atoms, from `depth` open ones before. -/
def depthAfter : Nat → List (Atom ρ) → Option Nat
  | depth, [] => some depth
  | depth, .char '[' :: as => depthAfter (depth + 1) as
  | 0, .char ']' :: _ => none
  | depth + 1, .char ']' :: as => depthAfter depth as
  | depth, _ :: as => depthAfter depth as

@[simp] theorem depthAfter_nil (depth : Nat) : depthAfter depth ([] : List (Atom ρ)) = some depth :=
  rfl

theorem depthAfter_append (depth : Nat) (as bs : List (Atom ρ)) :
    depthAfter depth (as ++ bs) = (depthAfter depth as).bind fun d => depthAfter d bs := by
  fun_induction depthAfter depth as with
  | case1 => rfl
  | case2 depth as ih => simpa [depthAfter] using ih
  | case3 => simp [depthAfter]
  | case4 depth as ih => simpa [depthAfter] using ih
  | case5 depth a as h₁ h₂ h₃ ih => simpa [depthAfter] using ih

theorem forall_prefix_cons_iff {P : List (Atom ρ) → Prop} {a : Atom ρ} {as : List (Atom ρ)} :
    (∀ p, p <+: a :: as → P p) ↔ P [] ∧ ∀ p, p <+: as → P (a :: p) := by
  constructor
  · intro h
    exact ⟨h [] List.nil_prefix, fun p hp => h (a :: p) (List.cons_prefix_cons.mpr ⟨rfl, hp⟩)⟩
  · rintro ⟨hn, hc⟩ p hp
    rcases List.prefix_cons_iff.mp hp with rfl | ⟨q, rfl, hq⟩
    · exact hn
    · exact hc q hq

/-- The count goes through exactly where no prefix closes too much, and its
outcome is the surplus of opening brackets. -/
theorem depthAfter_eq_some_iff {depth d : Nat} {as : List (Atom ρ)} :
    depthAfter depth as = some d ↔
      (∀ p, p <+: as → p.countP isClosing ≤ depth + p.countP isOpening) ∧
        as.countP isClosing + d = depth + as.countP isOpening := by
  fun_induction depthAfter depth as with
  | case1 depth => simp [eq_comm]
  | case2 depth as ih =>
    have ho : isOpening (.char '[' : Atom ρ) = true := rfl
    have hc : isClosing (.char '[' : Atom ρ) = false := rfl
    simp only [ih, forall_prefix_cons_iff, List.countP_cons, ho, hc, if_true, if_false,
      List.countP_nil, Nat.zero_le, true_and, Nat.add_zero, Bool.false_eq_true]
    exact and_congr (forall₂_congr fun p _ => by omega) (by omega)
  | case3 as =>
    have hc : isClosing (.char ']' : Atom ρ) = true := rfl
    have ho : isOpening (.char ']' : Atom ρ) = false := rfl
    simp only [forall_prefix_cons_iff, List.countP_cons, ho, hc, if_true, if_false,
      Bool.false_eq_true, reduceCtorEq, false_iff, not_and]
    intro h
    have hn := h.2 [] List.nil_prefix
    simp at hn
  | case4 depth as ih =>
    have hc : isClosing (.char ']' : Atom ρ) = true := rfl
    have ho : isOpening (.char ']' : Atom ρ) = false := rfl
    simp only [ih, forall_prefix_cons_iff, List.countP_cons, ho, hc, if_true, if_false,
      List.countP_nil, Nat.zero_le, true_and, Nat.add_zero, Bool.false_eq_true]
    exact and_congr (forall₂_congr fun p _ => by omega) (by omega)
  | case5 depth a as hopen hzero hsucc ih =>
    have ho : a.isOpening = false := by
      cases a with
      | char c => simpa [isOpening] using hopen
      | reference => rfl
    have hc : a.isClosing = false := by
      cases a with
      | char c =>
        cases depth with
        | zero => simpa [isClosing] using hzero
        | succ n => simpa [isClosing] using hsucc
      | reference => rfl
    simp only [ih, forall_prefix_cons_iff, List.countP_cons, ho, hc, if_false,
      List.countP_nil, Nat.zero_le, true_and, Nat.add_zero, Bool.false_eq_true]

theorem balanced_iff {as : List (Atom ρ)} : Balanced as ↔ depthAfter 0 as = some 0 := by
  rw [depthAfter_eq_some_iff]
  simp only [Nat.zero_add, Nat.add_zero]
  exact ⟨fun h => ⟨h.neverCloses, h.total⟩, fun h => ⟨h.1, h.2⟩⟩

theorem balanced_nil : Balanced ([] : List (Atom ρ)) := balanced_iff.mpr rfl

theorem Balanced.append {as bs : List (Atom ρ)} (has : Balanced as) (hbs : Balanced bs) :
    Balanced (as ++ bs) := by
  rw [balanced_iff] at has hbs ⊢
  rw [depthAfter_append, has]
  exact hbs

theorem balanced_flatMap {α : Type} {xs : List α} {g : α → List (Atom ρ)}
    (h : ∀ x ∈ xs, Balanced (g x)) : Balanced (xs.flatMap g) := by
  induction xs with
  | nil => exact balanced_nil
  | cons x xs ih =>
    obtain ⟨hx, hxs⟩ := List.forall_mem_cons.mp h
    exact hx.append (ih hxs)

theorem neverCloses_iff {as : List (Atom ρ)} : NeverCloses as ↔ ∃ d, depthAfter 0 as = some d := by
  constructor
  · intro h
    have hle := h as List.prefix_rfl
    exact ⟨as.countP isOpening - as.countP isClosing,
      depthAfter_eq_some_iff.mpr ⟨fun p hp => by simpa using h p hp, by omega⟩⟩
  · rintro ⟨d, hd⟩ p hp
    simpa using (depthAfter_eq_some_iff.mp hd).1 p hp

/-- Brackets that are open before stay open. -/
theorem depthAfter_add {d : Nat} {as : List (Atom ρ)} (h : depthAfter 0 as = some d)
    (depth : Nat) : depthAfter depth as = some (depth + d) := by
  obtain ⟨hnever, htotal⟩ := depthAfter_eq_some_iff.mp h
  refine depthAfter_eq_some_iff.mpr ⟨fun p hp => ?_, by omega⟩
  have hle := hnever p hp
  omega

/-- After a balanced part the next closing bracket is the first that closes too much. -/
theorem depthAfter_append_closer {depth : Nat} {body : List (Atom ρ)}
    (h : depthAfter depth body = some 0) (rest : List (Atom ρ)) :
    depthAfter depth (body ++ closer :: rest) = none := by
  simp [depthAfter_append, h, closer, depthAfter]

theorem exists_first_closer {depth : Nat} {as : List (Atom ρ)} (h : depthAfter depth as = none) :
    ∃ body rest, as = body ++ closer :: rest ∧ depthAfter depth body = some 0 := by
  fun_induction depthAfter depth as with
  | case1 => cases h
  | case2 depth as ih =>
    obtain ⟨body, rest, rfl, hb⟩ := ih h
    exact ⟨.char '[' :: body, rest, rfl, by simpa [depthAfter] using hb⟩
  | case3 as => exact ⟨[], as, rfl, rfl⟩
  | case4 depth as ih =>
    obtain ⟨body, rest, rfl, hb⟩ := ih h
    exact ⟨closer :: body, rest, rfl, by simpa [depthAfter, closer] using hb⟩
  | case5 depth a as h₁ h₂ h₃ ih =>
    obtain ⟨body, rest, rfl, hb⟩ := ih h
    exact ⟨a :: body, rest, rfl, by simpa [depthAfter] using hb⟩

theorem eq_nil_of_closer_append {depth : Nat} {body as rest rest' : List (Atom ρ)}
    (h : closer :: rest = as ++ closer :: rest') (hb : depthAfter depth body = some 0)
    (ha : depthAfter depth (body ++ as) = some 0) : as = [] := by
  cases as with
  | nil => rfl
  | cons a as =>
    obtain ⟨rfl, -⟩ := List.cons.inj h
    rw [depthAfter_append_closer hb] at ha
    cases ha

/-- The place where a body ends is determined. -/
theorem first_closer_unique {depth : Nat} {body rest body' rest' : List (Atom ρ)}
    (h : body ++ closer :: rest = body' ++ closer :: rest')
    (hb : depthAfter depth body = some 0) (hb' : depthAfter depth body' = some 0) :
    body = body' ∧ rest = rest' := by
  have heq : body = body' := by
    rcases List.append_eq_append_iff.mp h with ⟨as, rfl, ha⟩ | ⟨as, rfl, ha⟩
    · rw [eq_nil_of_closer_append ha hb hb', List.append_nil]
    · rw [eq_nil_of_closer_append ha hb' hb, List.append_nil]
  subst heq
  exact ⟨rfl, (List.cons.inj (List.append_cancel_left h)).2⟩

theorem depthAfter_char {depth : Nat} {c : Char} (hopen : c ≠ '[') (hzero : depth = 0 → c ≠ ']')
    (hsucc : ∀ n, depth = n + 1 → c ≠ ']') (as : List (Atom ρ)) :
    depthAfter depth (.char c :: as) = depthAfter depth as := by
  rw [depthAfter]
  · simpa using hopen
  · simpa using hzero
  · simpa using hsucc

/-- Characters other than brackets are not counted. -/
theorem depthAfter_ofText_append {t : Text} (h : ∀ c ∈ t, c ≠ '[' ∧ c ≠ ']') (depth : Nat)
    (as : List (Atom ρ)) : depthAfter depth (ofText t ++ as) = depthAfter depth as := by
  induction t with
  | nil => rfl
  | cons c t ih =>
    obtain ⟨⟨hopen, hclose⟩, ht⟩ := List.forall_mem_cons.mp h
    rw [ofText_cons, List.cons_append, depthAfter_char hopen (fun _ => hclose) fun _ _ => hclose]
    exact ih ht

theorem depthAfter_ofText {t : Text} (h : ∀ c ∈ t, c ≠ '[' ∧ c ≠ ']') (depth : Nat) :
    depthAfter depth (ofText t : List (Atom ρ)) = some depth := by
  have hcount := depthAfter_ofText_append h depth ([] : List (Atom ρ))
  rwa [List.append_nil] at hcount

theorem balanced_ofText {t : Text} (h : ∀ c ∈ t, c ≠ '[' ∧ c ≠ ']') :
    Balanced (ofText t : List (Atom ρ)) :=
  balanced_iff.mpr (depthAfter_ofText h 0)

theorem Closing.cons_eq_unclosed {c : Char} {found : Closing} {depth : Nat} :
    found.cons c = unclosed depth ↔ found = unclosed depth := by
  cases found <;> simp [cons]

/-- Looking for the closing bracket of a literal counts its brackets. -/
theorem depthAfter_of_unclosed {depth left : Nat} {t : Text}
    (h : Closing.find depth t = .unclosed left) :
    depthAfter depth (ofText t : List (Atom ρ)) = some left := by
  fun_induction Closing.find depth t with
  | case1 depth => cases h; rfl
  | case2 depth r ih => exact ih (Closing.cons_eq_unclosed.mp h)
  | case3 => cases h
  | case4 depth r ih => exact ih (Closing.cons_eq_unclosed.mp h)
  | case5 depth c r hopen hzero hsucc ih =>
    rw [ofText_cons, depthAfter_char hopen hzero hsucc]
    exact ih (Closing.cons_eq_unclosed.mp h)

theorem depthAfter_of_closed {depth : Nat} {t before after : Text}
    (h : Closing.find depth t = .closed before after) :
    depthAfter depth (ofText before : List (Atom ρ)) = some 0 := by
  fun_induction Closing.find depth t generalizing before with
  | case1 => cases h
  | case2 depth r ih =>
    obtain ⟨b, rfl, hb⟩ := Closing.cons_eq_closed.mp h
    exact ih hb
  | case3 r => cases h; rfl
  | case4 depth r ih =>
    obtain ⟨b, rfl, hb⟩ := Closing.cons_eq_closed.mp h
    exact ih hb
  | case5 depth c r hopen hzero hsucc ih =>
    obtain ⟨b, rfl, hb⟩ := Closing.cons_eq_closed.mp h
    rw [ofText_cons, depthAfter_char hopen hzero hsucc]
    exact ih hb

/-- The bracket that is found is the first one that closes too much. -/
theorem find_of_depthAfter_eq_zero {depth : Nat} {body rest : Text}
    (h : depthAfter depth (ofText body : List (Atom ρ)) = some 0) :
    Closing.find depth (body ++ ']' :: rest) = .closed body rest := by
  have htext : (ofText (body ++ ']' :: rest) : List (Atom ρ)) =
      ofText body ++ closer :: ofText rest := by
    simp [closer]
  cases hfind : Closing.find depth (body ++ ']' :: rest) with
  | unclosed left =>
    have hleft : depthAfter depth (ofText (body ++ ']' :: rest) : List (Atom ρ)) = some left :=
      depthAfter_of_unclosed hfind
    rw [htext, depthAfter_append_closer h] at hleft
    cases hleft
  | closed body' rest' =>
    have hbody' : depthAfter depth (ofText body' : List (Atom ρ)) = some 0 :=
      depthAfter_of_closed hfind
    have heq : (ofText body ++ closer :: ofText rest : List (Atom ρ)) =
        ofText body' ++ closer :: ofText rest' := by
      rw [← htext, Closing.eq_append_of_find hfind]
      simp [closer]
    obtain ⟨hb, hr⟩ := first_closer_unique heq h hbody'
    rw [ofText_inj.mp hb, ofText_inj.mp hr]

theorem find_of_depthAfter_eq_some {depth left : Nat} {t : Text}
    (h : depthAfter depth (ofText t : List (Atom ρ)) = some left) :
    Closing.find depth t = .unclosed left := by
  cases hfind : Closing.find depth t with
  | unclosed d =>
    have hd : depthAfter depth (ofText t : List (Atom ρ)) = some d := depthAfter_of_unclosed hfind
    rw [h] at hd
    rw [Option.some.inj hd]
  | closed body rest =>
    have hbody : depthAfter depth (ofText body : List (Atom ρ)) = some 0 :=
      depthAfter_of_closed hfind
    have htext : (ofText t : List (Atom ρ)) = ofText body ++ closer :: ofText rest := by
      rw [Closing.eq_append_of_find hfind]
      simp [closer]
    rw [htext, depthAfter_append_closer hbody] at h
    cases h

end InlineNotes
