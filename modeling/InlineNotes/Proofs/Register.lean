import Mathlib.Data.List.Nodup
import InlineNotes.Proofs.Numbering

/-!
# The table over many calls

Footnotes of several lists of segments can be deferred into one table. Each call
has its own stem and its own first number, so ids may meet: `a1` with number 1
and `a` with number 11 are the same id, and a number may be used again. What a
call does to the table does not depend on that (`Call.defer_eq`). It files the
bodies that its scan has closed, one under each of the numbers from its first one
on. An id that the table has not seen goes to the end; any other keeps its place
and gets the new body.

Calls that share a stem and go on with the number that the call before them has
returned never meet an id again. Then the table is the list of all bodies in
their order, numbered without a gap (`Register.run_numbered`).
-/
namespace InlineNotes

namespace Table
variable {κ α : Type} [DecidableEq κ]

/-- Puts the pairs one after the other. -/
def putAll (t : Table κ α) (ps : List (κ × α)) : Table κ α := ps.foldl (fun t p => t.put p.1 p.2) t

/-- The entry with the value that the pairs have for its key, if they have one. -/
def renew (ps : List (κ × α)) (e : κ × α) : κ × α := (e.1, (ps.lookup e.1).getD e.2)

/-- The pairs with keys that the table does not have. -/
def unseen (t : Table κ α) (ps : List (κ × α)) : List (κ × α) := ps.filter fun p => p.1 ∉ t.keys

@[simp] theorem putAll_nil (t : Table κ α) : t.putAll [] = t := rfl

theorem putAll_cons (t : Table κ α) (p : κ × α) (ps : List (κ × α)) :
    t.putAll (p :: ps) = (t.put p.1 p.2).putAll ps := rfl

@[simp] theorem renew_nil : renew ([] : List (κ × α)) = id := rfl

theorem renew_of_not_mem {ps : List (κ × α)} {e : κ × α} (h : e.1 ∉ ps.map (·.1)) :
    renew ps e = e := by
  have hnone : ps.lookup e.1 = none := by
    rw [List.lookup_eq_none_iff]
    intro p hp
    have hne : p.1 ≠ e.1 := fun heq => h (List.mem_map.mpr ⟨p, hp, heq⟩)
    simpa using hne.symm
  rw [renew, hnone, Option.getD_none]

theorem renew_cons_self (key : κ) (value old : α) (ps : List (κ × α)) :
    renew ((key, value) :: ps) (key, old) = (key, value) := by
  simp [renew]

theorem renew_cons_of_ne {p e : κ × α} (h : e.1 ≠ p.1) (ps : List (κ × α)) :
    renew (p :: ps) e = renew ps e := by
  rw [renew, List.lookup_cons, beq_false_of_ne h]
  rfl

theorem keys_put_of_mem {t : Table κ α} {key : κ} (value : α) (h : key ∈ t.keys) :
    (t.put key value).keys = t.keys := by
  rw [keys_put, if_pos h]

theorem keys_put_of_not_mem {t : Table κ α} {key : κ} (value : α) (h : key ∉ t.keys) :
    (t.put key value).keys = t.keys ++ [key] := by
  rw [keys_put, if_neg h]

/-- Replacing the value of a key leaves the other entries as they are. -/
theorem putPair_of_mem {key : κ} (value : α) {es : List (κ × α)} (hnodup : (es.map (·.1)).Nodup)
    (h : key ∈ es.map (·.1)) : putPair key value es = es.map (renew [(key, value)]) := by
  induction es with
  | nil => cases h
  | cons e es ih =>
    obtain ⟨he, hes⟩ := List.nodup_cons.mp hnodup
    by_cases hkey : e.1 = key
    · subst hkey
      have hrest : es.map (renew [(e.1, value)]) = es.map id := by
        refine List.map_congr_left fun e' he' => renew_of_not_mem fun hmem => he ?_
        rw [← List.mem_singleton.mp hmem]
        exact List.mem_map_of_mem he'
      rw [putPair, if_pos rfl, List.map_cons, hrest, List.map_id, renew_cons_self]
    · have hmem : key ∈ es.map (·.1) := (List.mem_cons.mp h).resolve_left (Ne.symm hkey)
      rw [putPair, if_neg hkey, ih hes hmem, List.map_cons, renew_of_not_mem (by simpa using hkey)]

theorem renew_renew {p : κ × α} {ps : List (κ × α)} (hp : p.1 ∉ ps.map (·.1)) (e : κ × α) :
    renew ps (renew [p] e) = renew (p :: ps) e := by
  obtain ⟨key, old⟩ := e
  by_cases hkey : key = p.1
  · subst hkey
    rw [renew_cons_self, renew_cons_self, renew_of_not_mem hp]
  · rw [renew_cons_of_ne hkey, renew_cons_of_ne hkey, renew_nil, id]

/-- Pairs with different keys: keys that are there keep their places and take the
new values, the other pairs go to the end in their order. -/
theorem entries_putAll (t : Table κ α) {ps : List (κ × α)} (h : (ps.map (·.1)).Nodup) :
    (t.putAll ps).entries = t.entries.map (renew ps) ++ t.unseen ps := by
  induction ps generalizing t with
  | nil => simp [unseen]
  | cons p ps ih =>
    obtain ⟨hp, hps⟩ := List.nodup_cons.mp h
    rw [putAll_cons, ih _ hps, unseen, unseen]
    by_cases hmem : p.1 ∈ t.keys
    · have hentries : (t.put p.1 p.2).entries = t.entries.map (renew [p]) :=
        putPair_of_mem p.2 t.nodup hmem
      have hrenew : (t.entries.map (renew [p])).map (renew ps) =
          t.entries.map (renew (p :: ps)) := by
        rw [List.map_map]
        exact List.map_congr_left fun e _ => renew_renew hp e
      rw [hentries, hrenew, keys_put_of_mem p.2 hmem, List.filter_cons_of_neg (by simpa using hmem)]
    · have hentries : (t.put p.1 p.2).entries = t.entries ++ [p] := entries_put_of_not_mem p.2 hmem
      have hrenew : t.entries.map (renew ps) = t.entries.map (renew (p :: ps)) := by
        refine List.map_congr_left fun e he => (renew_cons_of_ne (fun heq => hmem ?_) ps).symm
        exact List.mem_map.mpr ⟨e, he, heq⟩
      have hfilter : (ps.filter fun q => q.1 ∉ t.keys ++ [p.1]) =
          ps.filter fun q => q.1 ∉ t.keys := by
        refine List.filter_congr fun q hq => ?_
        have hne : q.1 ≠ p.1 := fun heq => hp (List.mem_map.mpr ⟨q, hq, heq⟩)
        simp [hne]
      rw [hentries, keys_put_of_not_mem p.2 hmem, hfilter, List.map_append, hrenew,
        List.filter_cons_of_pos (by simpa using hmem), List.map_singleton, renew_of_not_mem hp]
      simp

end Table

section
variable {α : Type}

/-- Values under the ids that they get when they are numbered from `number` on. -/
def numbered (stem : Text) : Int → List α → List (Text × α)
  | _, [] => []
  | number, x :: xs => (numberedId stem number, x) :: numbered stem (number + 1) xs

@[simp] theorem numbered_nil (stem : Text) (number : Int) :
    numbered stem number ([] : List α) = [] := rfl

theorem numbered_append (stem : Text) (number : Int) (xs ys : List α) :
    numbered stem number (xs ++ ys) =
      numbered stem number xs ++ numbered stem (number + xs.length) ys := by
  induction xs generalizing number with
  | nil => simp
  | cons x xs ih =>
    have hnumber : number + 1 + (xs.length : Int) = number + ((x :: xs).length : Int) := by
      rw [List.length_cons]
      omega
    rw [List.cons_append, numbered, ih, hnumber]
    rfl

theorem values_numbered (stem : Text) (number : Int) (xs : List α) :
    (numbered stem number xs).map (·.2) = xs := by
  induction xs generalizing number with
  | nil => rfl
  | cons x xs ih => rw [numbered, List.map_cons, ih]

theorem keys_numbered (stem : Text) (number : Int) (xs : List α) :
    (numbered stem number xs).map (·.1) =
      (List.range xs.length).map fun k : Nat => numberedId stem (number + k) := by
  induction xs generalizing number with
  | nil => rfl
  | cons x xs ih =>
    rw [numbered, List.map_cons, ih, List.length_cons, List.range_succ_eq_map]
    simp [Function.comp_def, Int.add_assoc, Int.add_comm 1]

theorem nodup_keys_numbered (stem : Text) (number : Int) (xs : List α) :
    ((numbered stem number xs).map (·.1)).Nodup := by
  rw [keys_numbered]
  refine List.nodup_range.map fun m n h => ?_
  have heq := numberedId_inj h
  omega

theorem FreshFrom.putAll_numbered {stem : Text} {number : Int} {notes : Table Text α}
    (h : FreshFrom stem number notes) (xs : List α) :
    (notes.putAll (numbered stem number xs)).entries = notes.entries ++ numbered stem number xs ∧
      FreshFrom stem (number + xs.length) (notes.putAll (numbered stem number xs)) := by
  induction xs generalizing notes number with
  | nil => simpa using h
  | cons x xs ih =>
    obtain ⟨hentries, hfresh⟩ := ih (h.put x)
    have hnumber : number + ((x :: xs).length : Int) = number + 1 + (xs.length : Int) := by
      rw [List.length_cons]
      omega
    rw [numbered, Table.putAll_cons, hnumber]
    refine ⟨?_, hfresh⟩
    rw [hentries, h.entries_put x, List.append_assoc, List.singleton_append]

end

def Item.body? : Item → Option (List Segment)
  | .plain _ => none
  | .note body => some body

/-- Items with a label in place of each footnote. -/
def markItems (stem : Text) : Int → List Item → List Segment
  | _, [] => []
  | number, .plain piece :: rest => piece :: markItems stem number rest
  | number, .note _ :: rest =>
    .literal (Label.write (numberedId stem number)) :: markItems stem (number + 1) rest

namespace Outline

/-- The bodies of the footnotes that the scan has closed. -/
def bodies (o : Outline) : List (List Segment) := o.items.filterMap Item.body?

/-- What is emitted before the definitions. A footnote that never closes is part
of it and has no number. -/
def marked (stem : Text) (number : Int) (o : Outline) : List Segment :=
  markItems stem number o.items ++ o.tail

end Outline

theorem Deferral.ofItems_eq (stem : Text) (notes : Table Text (List Segment)) (number : Int)
    (items : List Item) :
    let bodies := items.filterMap Item.body?
    ofItems stem notes number items =
      ⟨markItems stem number items, notes.putAll (numbered stem number bodies),
        number + bodies.length⟩ := by
  induction items generalizing notes number with
  | nil => simp [ofItems, markItems]
  | cons item items ih =>
    cases item with
    | plain piece => simp [ofItems, markItems, ih, List.filterMap_cons, Item.body?]
    | note body =>
      simp [ofItems, markItems, ih, Item.body?, numbered, Table.putAll_cons, Int.add_assoc,
        Int.add_comm 1]

theorem deferNotes_eq (stem : Text) (notes : Table Text (List Segment)) (number : Int)
    (segments : List Segment) :
    let o := Outline.ofSegments segments
    let filed := notes.putAll (numbered stem number o.bodies)
    deferNotes stem notes number segments =
      ⟨o.marked stem number ++ definitionBlock filed, filed, number + o.bodies.length⟩ := by
  rw [deferNotes, Deferral.ofItems_eq]
  rfl

theorem entries_deferNotes_empty (stem : Text) (number : Int) (segments : List Segment) :
    (deferNotes stem .empty number segments).notes.entries =
      numbered stem number (Outline.ofSegments segments).bodies := by
  rw [deferNotes_eq]
  exact (freshFrom_empty.putAll_numbered _).1

/-- Footnotes of the segments are deferred into a table that is there already. -/
structure Call where
  stem : Text
  number : Int
  segments : List Segment

namespace Call

def outline (c : Call) : Outline := .ofSegments c.segments

/-- The entries that the call makes. -/
def filed (c : Call) : List (Text × List Segment) := numbered c.stem c.number c.outline.bodies

def defer (c : Call) (notes : Table Text (List Segment)) : Deferral :=
  deferNotes c.stem notes c.number c.segments

theorem defer_eq (c : Call) (notes : Table Text (List Segment)) :
    c.defer notes =
      ⟨c.outline.marked c.stem c.number ++ definitionBlock (notes.putAll c.filed),
        notes.putAll c.filed, c.number + c.outline.bodies.length⟩ :=
  deferNotes_eq c.stem notes c.number c.segments

/-- What a call makes of a table, and what it returns. -/
structure Files (c : Call) (old : Table Text (List Segment)) (d : Deferral) : Prop where
  next_eq : d.next = c.number + c.outline.bodies.length
  keys_eq : c.filed.map (·.1) =
    (List.range c.outline.bodies.length).map fun k : Nat => numberedId c.stem (c.number + k)
  keys_nodup : (c.filed.map (·.1)).Nodup
  entries_eq : d.notes.entries =
    old.entries.map (Table.renew c.filed) ++ old.unseen c.filed
  pieces_eq : d.pieces = c.outline.marked c.stem c.number ++
    if d.notes.entries = [] then []
    else .literal ['\n', '\n'] :: d.notes.entries.flatMap fun p => definition p.1 p.2

theorem files_defer (c : Call) (old : Table Text (List Segment)) : c.Files old (c.defer old) := by
  have hnodup := nodup_keys_numbered c.stem c.number c.outline.bodies
  rw [defer_eq]
  refine ⟨rfl, keys_numbered _ _ _, hnodup, old.entries_putAll hnodup, ?_⟩
  simp only [definitionBlock, Table.isEmpty_iff]

end Call

/-- The table and the number that the last call has returned. -/
structure Register where
  notes : Table Text (List Segment)
  next : Int

namespace Register

def call (s : Register) (c : Call) : Register := ⟨(c.defer s.notes).notes, (c.defer s.notes).next⟩

def run (s : Register) (calls : List Call) : Register := calls.foldl call s

/-- The calls share a stem, and each goes on with the number that the last one has
returned. -/
def Continues (stem : Text) : Register → List Call → Prop
  | _, [] => True
  | s, c :: calls => c.stem = stem ∧ c.number = s.next ∧ Continues stem (s.call c) calls

@[simp] theorem run_nil (s : Register) : s.run [] = s := rfl

theorem run_cons (s : Register) (c : Call) (calls : List Call) :
    s.run (c :: calls) = (s.call c).run calls := rfl

theorem run_append (s : Register) (xs ys : List Call) : s.run (xs ++ ys) = (s.run xs).run ys :=
  List.foldl_append

theorem continues_append_iff {stem : Text} {s : Register} {xs ys : List Call} :
    Continues stem s (xs ++ ys) ↔ Continues stem s xs ∧ Continues stem (s.run xs) ys := by
  induction xs generalizing s with
  | nil => simp [Continues]
  | cons c xs ih => simp [Continues, ih, run_cons, and_assoc]

section
variable {stem : Text} {s : Register}

/-- A call with fresh ids adds its entries at the end, and fresh ids remain. -/
theorem call_of_freshFrom (hfresh : FreshFrom stem s.next s.notes) {c : Call}
    (hstem : c.stem = stem) (hnumber : c.number = s.next) :
    (s.call c).notes.entries = s.notes.entries ++ c.filed ∧
      (s.call c).next = s.next + c.outline.bodies.length ∧
        FreshFrom stem (s.call c).next (s.call c).notes := by
  have hcall : s.call c = ⟨s.notes.putAll c.filed, c.number + c.outline.bodies.length⟩ := by
    rw [call, c.defer_eq]
  obtain ⟨hentries, hrest⟩ := hfresh.putAll_numbered c.outline.bodies
  rw [← hstem, ← hnumber] at hentries hrest
  rw [hcall, ← hnumber, ← hstem]
  exact ⟨hentries, rfl, hrest⟩

/-- Calls that go on from one another number all their bodies in a row. -/
theorem run_of_continues (hfresh : FreshFrom stem s.next s.notes) {calls : List Call}
    (h : Continues stem s calls) :
    let bodies := calls.flatMap fun c => c.outline.bodies
    (s.run calls).notes.entries = s.notes.entries ++ numbered stem s.next bodies ∧
      (s.run calls).next = s.next + bodies.length ∧
        FreshFrom stem (s.run calls).next (s.run calls).notes := by
  induction calls generalizing s with
  | nil => simpa using hfresh
  | cons c calls ih =>
    obtain ⟨hstem, hnumber, hrest⟩ := h
    obtain ⟨hentries, hnext, hfresh'⟩ := call_of_freshFrom hfresh hstem hnumber
    obtain ⟨hentries', hnext', hfresh''⟩ := ih hfresh' hrest
    have hfiled : c.filed = numbered stem s.next c.outline.bodies := by
      rw [Call.filed, hstem, hnumber]
    rw [run_cons]
    refine ⟨?_, ?_, hfresh''⟩
    · rw [hentries', hentries, hnext, hfiled, List.flatMap_cons, numbered_append,
        List.append_assoc]
    · rw [hnext', hnext, List.flatMap_cons, List.length_append]
      omega

end

/-- Every call of a run files its bodies under its own numbers, whatever the calls
before it have left. Calls that go on from one another replace nothing: their table
has the numbers from the first one on, in order and without a gap. -/
theorem run_numbered :
    (∀ (s : Register) (calls : List Call) (c : Call),
      let old := (s.run calls).notes
      c.Files old (c.defer old) ∧
        s.run (calls ++ [c]) = ⟨(c.defer old).notes, (c.defer old).next⟩) ∧
    ∀ (stem : Text) (number : Int) (calls : List Call), Continues stem ⟨.empty, number⟩ calls →
      let start : Register := ⟨.empty, number⟩
      (∀ before c after, calls = before ++ c :: after →
        (start.run (before ++ [c])).notes.entries = (start.run before).notes.entries ++ c.filed) ∧
      number ≤ (start.run calls).next ∧
        (start.run calls).notes.keys = (List.range ((start.run calls).next - number).toNat).map
          fun k : Nat => numberedId stem (number + k) := by
  constructor
  · intro s calls c old
    exact ⟨c.files_defer old, run_append s calls [c]⟩
  · intro stem number calls hcalls start
    have hstart : FreshFrom stem start.next start.notes := freshFrom_empty
    refine ⟨?_, ?_⟩
    · rintro before c after rfl
      obtain ⟨hbefore, hstem, hnumber, -⟩ := continues_append_iff.mp hcalls
      obtain ⟨-, -, hfresh⟩ := run_of_continues hstart hbefore
      rw [run_append]
      exact (call_of_freshFrom hfresh hstem hnumber).1
    · obtain ⟨hentries, hnext, -⟩ := run_of_continues hstart hcalls
      have hlength : ((start.run calls).next - number).toNat =
          (calls.flatMap fun c => c.outline.bodies).length := by
        have hsub : ∀ m : Int, number + m - number = m := fun m => by omega
        rw [hnext, hsub, Int.toNat_natCast]
      rw [hlength, Table.keys, hentries, ← keys_numbered]
      refine ⟨?_, rfl⟩
      rw [hnext]
      exact Int.le_add_of_nonneg_right (Int.natCast_nonneg _)

/-- Numbers below zero, and an opener that never closes and takes none; and two
stems that meet in one id. -/
theorem run_numbered_negative :
    let calls : List Call :=
      [⟨"n".toList, -1, [.literal "[^a] [^b".toList]⟩,
        ⟨"n".toList, 0, [.literal "[^[c]][^]".toList]⟩]
    let start : Register := ⟨.empty, -1⟩
    let first : Call := ⟨"a1".toList, 1, [.literal "[^old]".toList]⟩
    let second : Call := ⟨"a".toList, 11, [.literal "[^new]".toList]⟩
    (Continues "n".toList start calls ∧ -1 ≤ (start.run calls).next ∧
      (start.run calls).notes.keys = ["n-1".toList, "n0".toList, "n1".toList]) ∧
    (second.defer (start.run [first]).notes).notes.entries =
      [("a11".toList, [.literal "new".toList])] := by
  intro calls start first second
  have hcalls : Continues "n".toList start calls :=
    ⟨rfl, rfl, rfl, by decide +kernel, trivial⟩
  obtain ⟨-, hle, hkeys⟩ := run_numbered.2 "n".toList (-1) calls hcalls
  have hentries := (run_numbered.1 start [first] second).1.entries_eq
  refine ⟨⟨hcalls, hle, hkeys.trans ?_⟩, hentries.trans ?_⟩
  · decide +kernel
  · decide +kernel

end Register

end InlineNotes
