import InlineNotes.Proofs.JsonLexemes

/-!
# Reading JSON

`SpellsValue v t` says that the text `t` is the value `v` in JSON: `t` is the row of
lexemes of `v`, with white space wherever JSON allows it. `read?` reads the lexemes
one after the other and keeps a stack of the arrays and objects that are still open.

Two facts make the reader exact. From where a value must start, the lexemes of a value
lead to where it has been read (`run_lexemes`). And a stage remembers all that it has
seen: `Stage.seen` gives the lexemes back from which it came (`Stage.seen_run`), so two
values never have the same row of lexemes. Hence a text is one value at most, and
`read?` finds it (`read?_eq_some_iff`). What `write` puts out is one way to write the
value (`spellsValue_write`).
-/
namespace InlineNotes.Json

mutual

/-- The row of lexemes of a value. -/
def lexemes : Json → List Lexeme
  | .string t => [.string t]
  | .bool b => [.bool b]
  | .array [] => [.beginArray, .endArray]
  | .array (v :: vs) => .beginArray :: (lexemes v ++ itemLexemes vs ++ [.endArray])
  | .object [] => [.beginObject, .endObject]
  | .object ((name, v) :: fs) =>
    .beginObject :: .string name :: .colon :: (lexemes v ++ fieldLexemes fs ++ [.endObject])

/-- The items after the first. -/
def itemLexemes : List Json → List Lexeme
  | [] => []
  | v :: vs => .comma :: (lexemes v ++ itemLexemes vs)

/-- The fields after the first. -/
def fieldLexemes : List (Text × Json) → List Lexeme
  | [] => []
  | (name, v) :: fs => .comma :: .string name :: .colon :: (lexemes v ++ fieldLexemes fs)

end

/-- The text is the value in JSON. -/
def SpellsValue (v : Json) (t : Text) : Prop := Lexes t (lexemes v)

section Writing

theorem lexes_newLine (level : Nat) : Lexes (newLine level) [] := by
  refine lexes_blanks fun c hc => ?_
  rcases List.mem_cons.mp hc with rfl | hc
  · rfl
  · rw [(List.mem_replicate.mp hc).2]
    rfl

theorem lexes_mark {c : Char} {l : Lexeme} (h : mark? c = some l) : Lexes [c] [l] :=
  (SpellsLexeme.mark h).lexes

theorem lexes_writeString (t : Text) : Lexes (writeString t) [.string t] :=
  (SpellsLexeme.string (spells_flatMap_escape t)).lexes

theorem lexes_bool (b : Bool) : Lexes (if b then "true" else "false").toList [.bool b] := by
  cases b with
  | false => exact SpellsLexeme.false.lexes
  | true => exact SpellsLexeme.true.lexes

/-- A name, its colon and the blank behind it. -/
theorem lexes_name (name : Text) {t : Text} {ls : List Lexeme} (h : Lexes t ls) :
    Lexes (writeString name ++ ':' :: ' ' :: t) (.string name :: .colon :: ls) :=
  (lexes_writeString name).append ((lexes_mark rfl).append (.blank rfl h))

mutual

theorem lexes_writeAt : ∀ (level : Nat) (v : Json), Lexes (writeAt level v) (lexemes v)
  | _, .string t => lexes_writeString t
  | _, .bool b => lexes_bool b
  | _, .array [] => (lexes_mark rfl).append (lexes_mark rfl)
  | level, .array (v :: vs) => by
    have hitems := (lexes_writeAt (level + 1) v).append (lexes_writeItems (level + 1) vs)
    have hclose := (lexes_newLine level).append (lexes_mark (c := ']') rfl)
    have hopen := (lexes_mark (c := '[') rfl).append (lexes_newLine (level + 1))
    simpa [writeAt, lexemes] using hopen.append (hitems.append hclose)
  | _, .object [] => (lexes_mark rfl).append (lexes_mark rfl)
  | level, .object ((name, v) :: fs) => by
    have hfields := (lexes_writeAt (level + 1) v).append (lexes_writeFields (level + 1) fs)
    have hclose := (lexes_newLine level).append (lexes_mark (c := '\x7d') rfl)
    have hopen := (lexes_mark (c := '\x7b') rfl).append (lexes_newLine (level + 1))
    simpa [writeAt, lexemes] using hopen.append (lexes_name name (hfields.append hclose))

theorem lexes_writeItems : ∀ (level : Nat) (vs : List Json),
    Lexes (writeItems level vs) (itemLexemes vs)
  | _, [] => .nil
  | level, v :: vs => by
    have hitems := (lexes_writeAt level v).append (lexes_writeItems level vs)
    have hcomma := (lexes_mark (c := ',') rfl).append (lexes_newLine level)
    simpa [writeItems, itemLexemes] using hcomma.append hitems

theorem lexes_writeFields : ∀ (level : Nat) (fs : List (Text × Json)),
    Lexes (writeFields level fs) (fieldLexemes fs)
  | _, [] => .nil
  | level, (name, v) :: fs => by
    have hfields := (lexes_writeAt level v).append (lexes_writeFields level fs)
    have hcomma := (lexes_mark (c := ',') rfl).append (lexes_newLine level)
    simpa [writeFields, fieldLexemes] using hcomma.append (lexes_name name hfields)

end

theorem spellsValue_write (v : Json) : SpellsValue v (write v) := lexes_writeAt 0 v

end Writing

/-- What is open around a value: an array with the items before it, or an object with
the fields before it and the name of its own. -/
inductive Frame
  | array (items : List Json)
  | object (fields : List (Text × Json)) (name : Text)

/-- How far a reader has come. The last value of an open array or object stands beside
the ones before it until a comma or the end of the array or object is read. -/
inductive Stage
  | value (frames : List Frame)
  | arrayStart (frames : List Frame)
  | item (items : List Json) (last : Json) (frames : List Frame)
  | objectStart (frames : List Frame)
  | fieldStart (fields : List (Text × Json)) (frames : List Frame)
  | colon (fields : List (Text × Json)) (name : Text) (frames : List Frame)
  | field (fields : List (Text × Json)) (name : Text) (last : Json) (frames : List Frame)
  | done (v : Json)

namespace Stage

/-- A value has been read to its end. -/
def deliver (v : Json) : List Frame → Stage
  | [] => .done v
  | .array items :: frames => .item items v frames
  | .object fields name :: frames => .field fields name v frames

/-- The first lexeme of a value. -/
def start (frames : List Frame) : Lexeme → Option Stage
  | .string t => some (deliver (.string t) frames)
  | .bool b => some (deliver (.bool b) frames)
  | .beginArray => some (.arrayStart frames)
  | .beginObject => some (.objectStart frames)
  | _ => none

def step : Stage → Lexeme → Option Stage
  | .value frames, l => start frames l
  | .arrayStart frames, .endArray => some (deliver (.array []) frames)
  | .arrayStart frames, l => start (.array [] :: frames) l
  | .item items last frames, .comma => some (.value (.array (items ++ [last]) :: frames))
  | .item items last frames, .endArray => some (deliver (.array (items ++ [last])) frames)
  | .objectStart frames, .endObject => some (deliver (.object []) frames)
  | .objectStart frames, .string name => some (.colon [] name frames)
  | .fieldStart fields frames, .string name => some (.colon fields name frames)
  | .colon fields name frames, .colon => some (.value (.object fields name :: frames))
  | .field fields name last frames, .comma => some (.fieldStart (fields ++ [(name, last)]) frames)
  | .field fields name last frames, .endObject =>
    some (deliver (.object (fields ++ [(name, last)])) frames)
  | _, _ => none

def run (s : Stage) (ls : List Lexeme) : Option Stage := ls.foldlM step s

theorem run_cons (s : Stage) (l : Lexeme) (ls : List Lexeme) :
    s.run (l :: ls) = (s.step l).bind fun s => s.run ls := rfl

theorem run_append {s s' : Stage} {ls : List Lexeme} (h : s.run ls = some s') (ms : List Lexeme) :
    s.run (ls ++ ms) = s'.run ms := by
  have hrun : ls.foldlM step s = some s' := h
  rw [run, List.foldlM_append, hrun]
  rfl

end Stage

/-- The value that a text is. -/
def read? (t : Text) : Option Json :=
  match (lex? t).bind fun ls => (Stage.value []).run ls with
  | some (.done v) => some v
  | _ => none

theorem exists_lexemes_cons (v : Json) : ∃ l ls, lexemes v = l :: ls ∧ l ≠ .endArray := by
  match v with
  | .string _ | .bool _ | .array [] | .array (_ :: _) | .object [] | .object ((_, _) :: _) =>
    exact ⟨_, _, rfl, by simp⟩

/-- Behind `[` a value may start, as it may behind a comma. -/
theorem run_arrayStart (frames : List Frame) (v : Json) (ls : List Lexeme) :
    (Stage.arrayStart frames).run (lexemes v ++ ls) =
      (Stage.value (.array [] :: frames)).run (lexemes v ++ ls) := by
  obtain ⟨l, ls', hv, hl⟩ := exists_lexemes_cons v
  have hstep : (Stage.arrayStart frames).step l = (Stage.value (.array [] :: frames)).step l := by
    rw [Stage.step, Stage.step]
    exact hl
  rw [hv, List.cons_append, Stage.run_cons, Stage.run_cons, hstep]

mutual

/-- The lexemes of a value lead from its start to its end. -/
theorem run_lexemes : ∀ (v : Json) (frames : List Frame),
    (Stage.value frames).run (lexemes v) = some (.deliver v frames)
  | .string _, _ => rfl
  | .bool _, _ => rfl
  | .array [], _ => rfl
  | .array (v :: vs), frames => by
    have hfirst := run_lexemes v (.array [] :: frames)
    have hrest := run_itemLexemes vs [] v frames
    calc (Stage.value frames).run (lexemes (.array (v :: vs)))
        = (Stage.arrayStart frames).run (lexemes v ++ (itemLexemes vs ++ [.endArray])) := by
          rw [lexemes, List.append_assoc]; rfl
      _ = (Stage.item [] v frames).run (itemLexemes vs ++ [.endArray]) := by
          rw [run_arrayStart, Stage.run_append hfirst]; rfl
      _ = some (.deliver (.array (v :: vs)) frames) := hrest
  | .object [], _ => rfl
  | .object ((name, v) :: fs), frames => by
    have hfirst := run_lexemes v (.object [] name :: frames)
    have hrest := run_fieldLexemes fs [] name v frames
    calc (Stage.value frames).run (lexemes (.object ((name, v) :: fs)))
        = (Stage.value (.object [] name :: frames)).run
            (lexemes v ++ (fieldLexemes fs ++ [.endObject])) := by
          rw [lexemes, List.append_assoc]; rfl
      _ = (Stage.field [] name v frames).run (fieldLexemes fs ++ [.endObject]) := by
          rw [Stage.run_append hfirst]; rfl
      _ = some (.deliver (.object ((name, v) :: fs)) frames) := hrest

theorem run_itemLexemes : ∀ (vs items : List Json) (last : Json) (frames : List Frame),
    (Stage.item items last frames).run (itemLexemes vs ++ [.endArray]) =
      some (.deliver (.array (items ++ last :: vs)) frames)
  | [], _, _, _ => rfl
  | v :: vs, items, last, frames => by
    have hfirst := run_lexemes v (.array (items ++ [last]) :: frames)
    have hrest := run_itemLexemes vs (items ++ [last]) v frames
    calc (Stage.item items last frames).run (itemLexemes (v :: vs) ++ [.endArray])
        = (Stage.value (.array (items ++ [last]) :: frames)).run
            (lexemes v ++ (itemLexemes vs ++ [.endArray])) := by
          rw [itemLexemes, List.cons_append, List.append_assoc]; rfl
      _ = (Stage.item (items ++ [last]) v frames).run (itemLexemes vs ++ [.endArray]) := by
          rw [Stage.run_append hfirst]; rfl
      _ = some (.deliver (.array (items ++ last :: v :: vs)) frames) := by
          rw [hrest, List.append_assoc]; rfl

theorem run_fieldLexemes : ∀ (fs fields : List (Text × Json)) (name : Text) (last : Json)
    (frames : List Frame),
    (Stage.field fields name last frames).run (fieldLexemes fs ++ [.endObject]) =
      some (.deliver (.object (fields ++ (name, last) :: fs)) frames)
  | [], _, _, _, _ => rfl
  | (name', v) :: fs, fields, name, last, frames => by
    have hfirst := run_lexemes v (.object (fields ++ [(name, last)]) name' :: frames)
    have hrest := run_fieldLexemes fs (fields ++ [(name, last)]) name' v frames
    calc (Stage.field fields name last frames).run (fieldLexemes ((name', v) :: fs) ++ [.endObject])
        = (Stage.value (.object (fields ++ [(name, last)]) name' :: frames)).run
            (lexemes v ++ (fieldLexemes fs ++ [.endObject])) := by
          rw [fieldLexemes, List.cons_append, List.cons_append, List.cons_append,
            List.append_assoc]; rfl
      _ = (Stage.field (fields ++ [(name, last)]) name' v frames).run
            (fieldLexemes fs ++ [.endObject]) := by
          rw [Stage.run_append hfirst]; rfl
      _ = some (.deliver (.object (fields ++ (name, last) :: (name', v) :: fs)) frames) := by
          rw [hrest, List.append_assoc]; rfl

end

/-- The items of an open array, each with the comma behind it. -/
def endedItems (items : List Json) : List Lexeme := items.flatMap fun v => lexemes v ++ [.comma]

/-- The fields of an open object, each with the comma behind it. -/
def endedFields (fields : List (Text × Json)) : List Lexeme :=
  fields.flatMap fun (name, v) => .string name :: .colon :: (lexemes v ++ [.comma])

theorem endedItems_concat (items : List Json) (v : Json) :
    endedItems (items ++ [v]) = endedItems items ++ (lexemes v ++ [.comma]) := by
  simp [endedItems]

theorem endedFields_concat (fields : List (Text × Json)) (name : Text) (v : Json) :
    endedFields (fields ++ [(name, v)]) =
      endedFields fields ++ .string name :: .colon :: (lexemes v ++ [.comma]) := by
  simp [endedFields]

/-- Commas stand between the items, so they can be counted with the item before or with
the item behind. -/
theorem lexemes_append_itemLexemes (w : Json) (ws : List Json) (v : Json) :
    lexemes w ++ itemLexemes (ws ++ [v]) = endedItems (w :: ws) ++ lexemes v := by
  induction ws generalizing w with
  | nil => simp [itemLexemes, endedItems]
  | cons x xs ih =>
    rw [List.cons_append, itemLexemes, ih x]
    simp [endedItems]

theorem lexemes_array_concat (items : List Json) (v : Json) :
    lexemes (.array (items ++ [v])) =
      .beginArray :: (endedItems items ++ lexemes v) ++ [.endArray] := by
  cases items with
  | nil => simp [lexemes, itemLexemes, endedItems]
  | cons w ws => rw [List.cons_append, lexemes, lexemes_append_itemLexemes, List.cons_append]

theorem lexemes_append_fieldLexemes (name : Text) (w : Json) (fs : List (Text × Json))
    (name' : Text) (v : Json) :
    .string name :: .colon :: (lexemes w ++ fieldLexemes (fs ++ [(name', v)])) =
      endedFields ((name, w) :: fs) ++ .string name' :: .colon :: lexemes v := by
  induction fs generalizing name w with
  | nil => simp [fieldLexemes, endedFields]
  | cons f fs ih =>
    rw [List.cons_append, fieldLexemes, ih f.1 f.2]
    simp [endedFields]

theorem lexemes_object_concat (fields : List (Text × Json)) (name : Text) (v : Json) :
    lexemes (.object (fields ++ [(name, v)])) =
      .beginObject :: (endedFields fields ++ .string name :: .colon :: lexemes v) ++
        [.endObject] := by
  cases fields with
  | nil => simp [lexemes, fieldLexemes, endedFields]
  | cons f fs =>
    rw [← lexemes_append_fieldLexemes, List.cons_append, lexemes]
    simp

/-- The lexemes before the value that stands in the frames, the outermost frame last. -/
def Frame.seen : List Frame → List Lexeme
  | [] => []
  | .array items :: frames => Frame.seen frames ++ .beginArray :: endedItems items
  | .object fields name :: frames =>
    Frame.seen frames ++ .beginObject :: (endedFields fields ++ [.string name, .colon])

namespace Stage

/-- The lexemes that lead to a stage. -/
def seen : Stage → List Lexeme
  | .value frames => Frame.seen frames
  | .arrayStart frames => Frame.seen frames ++ [.beginArray]
  | .item items last frames => Frame.seen (.array items :: frames) ++ lexemes last
  | .objectStart frames => Frame.seen frames ++ [.beginObject]
  | .fieldStart fields frames => Frame.seen frames ++ .beginObject :: endedFields fields
  | .colon fields name frames =>
    Frame.seen frames ++ .beginObject :: (endedFields fields ++ [.string name])
  | .field fields name last frames => Frame.seen (.object fields name :: frames) ++ lexemes last
  | .done v => lexemes v

theorem seen_deliver (v : Json) (frames : List Frame) :
    (deliver v frames).seen = Frame.seen frames ++ lexemes v := by
  match frames with
  | [] | .array _ :: _ | .object _ _ :: _ => rfl

theorem seen_start {frames : List Frame} {l : Lexeme} {s : Stage} (h : start frames l = some s) :
    s.seen = Frame.seen frames ++ [l] := by
  cases l with
  | string t =>
    cases h
    exact seen_deliver _ _
  | bool b =>
    cases h
    exact seen_deliver _ _
  | beginArray =>
    cases h
    rfl
  | beginObject =>
    cases h
    rfl
  | endArray | endObject | colon | comma => cases h

/-- A step remembers the lexeme that it reads. -/
theorem seen_step {s s' : Stage} {l : Lexeme} (h : s.step l = some s') :
    s'.seen = s.seen ++ [l] := by
  unfold step at h
  split at h
  · exact seen_start h
  · cases h
    exact (seen_deliver _ _).trans (by simp [seen, lexemes])
  · rw [seen_start h]
    simp [seen, Frame.seen, endedItems]
  · cases h
    simp [seen, Frame.seen, endedItems_concat]
  · cases h
    rw [seen_deliver, lexemes_array_concat]
    simp [seen, Frame.seen]
  · cases h
    exact (seen_deliver _ _).trans (by simp [seen, lexemes])
  · cases h
    simp [seen, endedFields]
  · cases h
    simp [seen]
  · cases h
    simp [seen, Frame.seen]
  · cases h
    simp [seen, Frame.seen, endedFields_concat]
  · cases h
    rw [seen_deliver, lexemes_object_concat]
    simp [seen, Frame.seen]
  · cases h

theorem seen_run {s s' : Stage} {ls : List Lexeme} (h : s.run ls = some s') :
    s'.seen = s.seen ++ ls := by
  induction ls generalizing s with
  | nil =>
    cases h
    rw [List.append_nil]
  | cons l ls ih =>
    obtain ⟨s₁, hstep, hrun⟩ := Option.bind_eq_some_iff.mp h
    rw [ih hrun, seen_step hstep, List.append_assoc]
    rfl

end Stage

/-- The lexemes of a value are those that the reader takes for it. -/
theorem run_eq_done_iff {ls : List Lexeme} {v : Json} :
    (Stage.value []).run ls = some (.done v) ↔ lexemes v = ls := by
  constructor
  · intro h
    exact Stage.seen_run h
  · rintro rfl
    exact run_lexemes v []

/-- Reading finds the value of which the text is a spelling. -/
theorem read?_eq_some_iff {t : Text} {v : Json} : read? t = some v ↔ SpellsValue v t := by
  have hread : read? t = some v ↔
      ((lex? t).bind fun ls => (Stage.value []).run ls) = some (.done v) := by
    unfold read?
    split
    · next h => rw [h]; simp
    · next h =>
      constructor
      · rintro ⟨⟩
      · exact fun h' => absurd h' (h v)
  rw [hread, Option.bind_eq_some_iff, SpellsValue, ← lex?_eq_some_iff]
  constructor
  · rintro ⟨ls, hls, hrun⟩
    rwa [run_eq_done_iff.mp hrun]
  · exact fun h => ⟨_, h, run_eq_done_iff.mpr rfl⟩

theorem SpellsValue.unique {v w : Json} {t : Text} (hv : SpellsValue v t) (hw : SpellsValue w t) :
    v = w :=
  Option.some.inj ((read?_eq_some_iff.mpr hv).symm.trans (read?_eq_some_iff.mpr hw))

end InlineNotes.Json
