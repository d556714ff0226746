import InlineNotes.Text.Basic

/-!
# Tables

A table maps keys to values and remembers the order in which its keys came in.
A new key goes to the end; a value put under a key that is present replaces the
old one and leaves the key in its place.
-/
namespace InlineNotes

variable {κ α β : Type}

structure Table (κ α : Type) where
  entries : List (κ × α)
  nodup : (entries.map (·.1)).Nodup

namespace Table

/-- Replaces the value under a key, or adds the pair at the end. -/
def putPair [DecidableEq κ] (key : κ) (value : α) : List (κ × α) → List (κ × α)
  | [] => [(key, value)]
  | p :: ps => if p.1 = key then (key, value) :: ps else p :: putPair key value ps

theorem keys_putPair [DecidableEq κ] (key : κ) (value : α) (ps : List (κ × α)) :
    (putPair key value ps).map (·.1) =
      if key ∈ ps.map (·.1) then ps.map (·.1) else ps.map (·.1) ++ [key] := by
  induction ps with
  | nil => simp [putPair]
  | cons p ps ih =>
    unfold putPair
    by_cases h : p.1 = key
    · simp [h]
    · simp only [h, if_false, List.map_cons, ih, List.mem_cons, Ne.symm h, false_or]
      split <;> simp

def empty : Table κ α := ⟨[], .nil⟩

def isEmpty (t : Table κ α) : Bool := t.entries.isEmpty

def keys (t : Table κ α) : List κ := t.entries.map (·.1)

def put [DecidableEq κ] (t : Table κ α) (key : κ) (value : α) : Table κ α where
  entries := putPair key value t.entries
  nodup := by
    rw [keys_putPair]
    split
    · exact t.nodup
    · next h =>
      refine List.nodup_append.mpr ⟨t.nodup, by simp, fun a ha b hb => ?_⟩
      rw [List.mem_singleton.mp hb]
      rintro rfl
      exact h ha

/-- Puts the pairs one after the other, so the last value of a key stays. -/
def ofList [DecidableEq κ] (ps : List (κ × α)) : Table κ α :=
  ps.foldl (fun t p => t.put p.1 p.2) empty

def get? [DecidableEq κ] (t : Table κ α) (key : κ) : Option α :=
  (t.entries.find? (·.1 = key)).map (·.2)

def map (f : α → β) (t : Table κ α) : Table κ β where
  entries := t.entries.map fun p => (p.1, f p.2)
  nodup := by simpa [Function.comp_def] using t.nodup

@[simp] theorem entries_empty : (empty : Table κ α).entries = [] := rfl

@[simp] theorem entries_map (f : α → β) (t : Table κ α) :
    (t.map f).entries = t.entries.map fun p => (p.1, f p.2) := rfl

theorem isEmpty_iff {t : Table κ α} : t.isEmpty = true ↔ t.entries = [] := List.isEmpty_iff

@[simp] theorem keys_map (f : α → β) (t : Table κ α) : (t.map f).keys = t.keys := by
  simp [keys, map, Function.comp_def]

theorem eq_of_entries_eq {t u : Table κ α} (h : t.entries = u.entries) : t = u := by
  cases t
  cases u
  cases h
  rfl

theorem map_map {γ : Type} (f : α → β) (g : β → γ) (t : Table κ α) :
    (t.map f).map g = t.map fun value => g (f value) :=
  eq_of_entries_eq (by simp [map, Function.comp_def])

theorem map_put [DecidableEq κ] (f : α → β) (t : Table κ α) (key : κ) (value : α) :
    (t.put key value).map f = (t.map f).put key (f value) := by
  have : ∀ ps : List (κ × α), (putPair key value ps).map (fun p => (p.1, f p.2)) =
      putPair key (f value) (ps.map fun p => (p.1, f p.2)) := by
    intro ps
    induction ps with
    | nil => rfl
    | cons p ps ih =>
      unfold putPair
      by_cases h : p.1 = key <;> simp [h, ih]
  exact eq_of_entries_eq (this t.entries)

theorem keys_put [DecidableEq κ] (t : Table κ α) (key : κ) (value : α) :
    (t.put key value).keys = if key ∈ t.keys then t.keys else t.keys ++ [key] :=
  keys_putPair key value t.entries

theorem entries_put_of_not_mem [DecidableEq κ] {t : Table κ α} {key : κ} (value : α)
    (h : key ∉ t.keys) : (t.put key value).entries = t.entries ++ [(key, value)] := by
  have : ∀ ps : List (κ × α), key ∉ ps.map (·.1) → putPair key value ps = ps ++ [(key, value)] := by
    intro ps hps
    induction ps with
    | nil => rfl
    | cons p ps ih =>
      rw [List.map_cons, List.mem_cons, not_or] at hps
      rw [putPair, if_neg (Ne.symm hps.1), ih hps.2]
      rfl
  exact this t.entries h

/-- Pairs with different keys make a table of just these pairs. -/
theorem entries_ofList_of_nodup [DecidableEq κ] {ps : List (κ × α)} (h : (ps.map (·.1)).Nodup) :
    (ofList ps).entries = ps := by
  have : ∀ (ps : List (κ × α)) (t : Table κ α), (t.keys ++ ps.map (·.1)).Nodup →
      (ps.foldl (fun t p => t.put p.1 p.2) t).entries = t.entries ++ ps := by
    intro ps
    induction ps with
    | nil => simp
    | cons p ps ih =>
      intro t ht
      have hp : p.1 ∉ t.keys := by
        intro hm
        exact (List.nodup_append.mp ht).2.2 _ hm _ (by simp) rfl
      have hkeys : (t.put p.1 p.2).keys = t.keys ++ [p.1] := by
        rw [keys_put, if_neg hp]
      rw [List.foldl_cons, ih _ (by rw [hkeys]; simpa using ht), entries_put_of_not_mem _ hp]
      simp
  simpa [ofList] using this ps empty (by simpa [keys] using h)

theorem get?_eq_some_of_mem [DecidableEq κ] {t : Table κ α} {key : κ} {value : α}
    (h : (key, value) ∈ t.entries) : t.get? key = some value := by
  have : ∀ ps : List (κ × α), (ps.map (·.1)).Nodup → (key, value) ∈ ps →
      (ps.find? (·.1 = key)).map (·.2) = some value := by
    intro ps hps hm
    induction ps with
    | nil => cases hm
    | cons p ps ih =>
      have ⟨hp, hps⟩ := List.nodup_cons.mp hps
      rcases List.mem_cons.mp hm with rfl | hm
      · simp
      · have hne : p.1 ≠ key := fun heq => hp (List.mem_map.mpr ⟨_, hm, heq.symm⟩)
        simpa [hne] using ih hps hm
  exact this t.entries t.nodup h

theorem get?_put_self [DecidableEq κ] (t : Table κ α) (key : κ) (value : α) :
    (t.put key value).get? key = some value := by
  have : ∀ ps : List (κ × α),
      ((putPair key value ps).find? (·.1 = key)).map (·.2) = some value := by
    intro ps
    induction ps with
    | nil => simp [putPair]
    | cons p ps ih =>
      unfold putPair
      split
      · simp
      · next h => simpa [h] using ih
  exact this t.entries

theorem get?_put_of_ne [DecidableEq κ] (t : Table κ α) {key other : κ} (value : α)
    (h : other ≠ key) : (t.put key value).get? other = t.get? other := by
  have : ∀ ps : List (κ × α),
      (putPair key value ps).find? (·.1 = other) = ps.find? (·.1 = other) := by
    intro ps
    induction ps with
    | nil => simp [putPair, Ne.symm h]
    | cons p ps ih =>
      unfold putPair
      split
      · next hp => simp [hp, Ne.symm h]
      · by_cases hq : p.1 = other <;> simp [hq, ih]
  exact congrArg (Option.map Prod.snd) (this t.entries)

end Table

end InlineNotes
