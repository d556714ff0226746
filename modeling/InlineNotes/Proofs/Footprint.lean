import InlineNotes.Command.Reach
import InlineNotes.Proofs.CommandOutput

/-!
# The footprint of a run

`Command.reachedPlaces` says at which places a run can look, and here is the proof that
it looks at no other and changes nothing elsewhere. Two disks that show the same at these
places cannot be told apart: every operation gives the same answer on both and leaves
disks that still show the same (`AgreeOn`), and what it changes it changes at these places
only, where nothing goes away (`ChangesWithin`). Both are kept by following a path, because
a way leads through the places of its path, and so by all that is done on the way to a
result.

The program does a run on a disk that shows the reached places and nothing else, and
carries out what the run changed there. By `run_carried_out` the whole disk is then as if
the run had been done on it.
-/
namespace InlineNotes

theorem mem_leading_self (l : Location) : l ∈ leading l :=
  List.mem_map.mpr ⟨l.length, List.mem_range.mpr l.length.lt_succ_self, List.take_length⟩

theorem self_mem_route (place : Location) (parts : List Text) : place ∈ route place parts := by
  cases parts with
  | nil => exact List.mem_singleton_self _
  | cons part rest => exact List.mem_cons_self

/-- A way that goes on leads through the same places first. -/
theorem mem_route_append {place l : Location} {parts : List Text} (more : List Text)
    (h : l ∈ route place parts) : l ∈ route place (parts ++ more) := by
  induction parts generalizing place with
  | nil =>
    rw [List.mem_singleton.mp h]
    exact self_mem_route place more
  | cons part rest ih =>
    rcases List.mem_cons.mp h with rfl | h
    · exact List.mem_cons_self
    · exact List.mem_cons_of_mem _ (ih h)

/-- The places of a path are among the given ones. -/
def Path.Within (here : Location) (places : List Location) (p : Path) : Prop :=
  ∀ l ∈ p.places here, l ∈ places

theorem Path.Within.of_prefix {here : Location} {places : List Location} {p q : Path}
    (h : p.Within here places) (hroot : q.root = p.root) (hparts : q.parts <+: p.parts) :
    q.Within here places := by
  intro l hl
  obtain ⟨more, hmore⟩ := hparts
  obtain ⟨step, hstep, hlead⟩ := List.mem_flatMap.mp hl
  refine h l (List.mem_flatMap.mpr ⟨step, ?_, hlead⟩)
  rw [← hmore, ← hroot]
  exact mem_route_append more hstep

namespace Disk

/-- Paths start in the same folder of both disks, and the places look the same. -/
structure AgreeOn (here : Location) (places : List Location) (d d' : Disk) : Prop where
  here_eq : d.here = here
  here_eq' : d'.here = here
  node?_eq : ∀ l ∈ places, d.node? l = d'.node? l

/-- What is new or different is at the places, and nothing is gone. -/
structure ChangesWithin (places : List Location) (d d' : Disk) : Prop where
  node?_eq : ∀ l, l ∉ places → d'.node? l = d.node? l
  node?_ne_none : ∀ l, d.node? l ≠ none → d'.node? l ≠ none

/-- Two answers that are the same, with disks that agree. The first disk has come from `d`. -/
structure Alike {α : Type} (here : Location) (places : List Location) (d : Disk)
    (r r' : Disk × α) : Prop where
  answer_eq : r.2 = r'.2
  agree : AgreeOn here places r.1 r'.1
  within : ChangesWithin places d r.1

section
variable {here : Location} {places : List Location} {d d' d'' : Disk} {p : Path} {l : Location}

theorem AgreeOn.symm (h : AgreeOn here places d d') : AgreeOn here places d' d :=
  ⟨h.here_eq', h.here_eq, fun l hl => (h.node?_eq l hl).symm⟩

theorem ChangesWithin.refl (places : List Location) (d : Disk) : ChangesWithin places d d :=
  ⟨fun _ _ => rfl, fun _ h => h⟩

theorem ChangesWithin.trans (h : ChangesWithin places d d') (h' : ChangesWithin places d' d'') :
    ChangesWithin places d d'' :=
  ⟨fun l hl => (h'.node?_eq l hl).trans (h.node?_eq l hl),
    fun l hl => h'.node?_ne_none l (h.node?_ne_none l hl)⟩

theorem AgreeOn.alike {α : Type} (h : AgreeOn here places d d') (answer : α) :
    Alike here places d (d, answer) (d', answer) :=
  ⟨rfl, h, .refl places d⟩

theorem Alike.cases {α : Type} {r r' : Disk × α} (h : Alike here places d r r') :
    ∃ c c' answer, r = (c, answer) ∧ r' = (c', answer) ∧ AgreeOn here places c c' ∧
      ChangesWithin places d c := by
  obtain ⟨hanswer, hagree, hwithin⟩ := h
  exact ⟨r.1, r'.1, r.2, rfl, Prod.ext rfl hanswer.symm, hagree, hwithin⟩

theorem Alike.after {α : Type} {r r' : Disk × α} (h : ChangesWithin places d d')
    (h' : Alike here places d' r r') : Alike here places d r r' :=
  ⟨h'.answer_eq, h'.agree, h.trans h'.within⟩

/-- Writing the same on both disks leaves them alike. -/
theorem AgreeOn.set (h : AgreeOn here places d d') (l : Location) (n : Node) :
    AgreeOn here places (d.set l n) (d'.set l n) where
  here_eq := h.here_eq
  here_eq' := h.here_eq'
  node?_eq := by
    intro k hk
    by_cases hkl : k = l
    · subst hkl
      by_cases hroot : k = []
      · subst hroot
        rfl
      · rw [d.node?_set_self n hroot, d'.node?_set_self n hroot]
    · rw [d.node?_set_of_ne n hkl, d'.node?_set_of_ne n hkl]
      exact h.node?_eq k hk

theorem changesWithin_set (d : Disk) (n : Node) (hl : l ∈ places) :
    ChangesWithin places d (d.set l n) where
  node?_eq := by
    intro k hk
    refine d.node?_set_of_ne n ?_
    rintro rfl
    exact hk hl
  node?_ne_none := by
    intro k hk
    by_cases hkl : k = l
    · subst hkl
      by_cases hroot : k = []
      · subst hroot
        exact hk
      · rw [d.node?_set_self n hroot]
        exact Option.some_ne_none n
    · rwa [d.node?_set_of_ne n hkl]

theorem follow_congr {place : Location} {parts : List Text}
    (h : ∀ l ∈ route place parts, d.node? l = d'.node? l) :
    d.follow place parts = d'.follow place parts := by
  induction parts generalizing place with
  | nil => rfl
  | cons part rest ih =>
    have hplace := h place List.mem_cons_self
    have hrest := ih fun l hl => h l (List.mem_cons_of_mem _ hl)
    rw [follow, follow, hplace, hrest]

theorem mem_route_of_follow {place : Location} {parts : List Text}
    (h : d.follow place parts = .ok l) : l ∈ route place parts := by
  induction parts generalizing place with
  | nil =>
    cases h
    exact List.mem_singleton_self _
  | cons part rest ih =>
    unfold follow at h
    split at h
    · cases h
    · cases h
    · split at h
      · cases h
      · exact List.mem_cons_of_mem _ (ih h)

theorem start_eq (d : Disk) (root : Root) : d.start root = if root = .here then d.here else [] := by
  cases root <;> rfl

theorem mem_places_of_mem_route
    (h : l ∈ route (if p.root = .here then here else []) p.parts) : l ∈ p.places here :=
  List.mem_flatMap.mpr ⟨l, h, mem_leading_self l⟩

theorem locate_congr (h : AgreeOn here places d d') (hp : p.Within here places) :
    d.locate p = d'.locate p := by
  have hfollow : d.follow (d.start p.root) p.parts = d'.follow (d'.start p.root) p.parts := by
    rw [start_eq, start_eq, h.here_eq, h.here_eq']
    exact follow_congr fun l hl => h.node?_eq l (hp l (mem_places_of_mem_route hl))
  rw [locate, locate, hfollow]

theorem mem_of_locate (h : AgreeOn here places d d') (hp : p.Within here places)
    (hl : d.locate p = .ok l) : l ∈ places := by
  unfold locate at hl
  split at hl
  · cases hl
  split at hl
  · cases hl
  · rw [start_eq, h.here_eq] at hl
    exact hp l (mem_places_of_mem_route (mem_route_of_follow hl))

/-- What is found at a path is the same on both disks. -/
theorem node?_of_locate (h : AgreeOn here places d d') (hp : p.Within here places)
    (hl : d.locate p = .ok l) : d.node? l = d'.node? l :=
  h.node?_eq l (mem_of_locate h hp hl)

theorem look_congr (h : AgreeOn here places d d') (hp : p.Within here places) :
    d.look p = d'.look p := by
  rw [look, look, ← locate_congr h hp]
  cases hl : d.locate p with
  | error problem => rfl
  | ok l =>
    dsimp only
    rw [node?_of_locate h hp hl]

theorem find?_congr (h : AgreeOn here places d d') (hp : p.Within here places) :
    d.find? p = d'.find? p := by
  rw [find?, find?, ← locate_congr h hp]
  cases hl : d.locate p with
  | error problem => rfl
  | ok l => exact node?_of_locate h hp hl

theorem readFile_congr (h : AgreeOn here places d d') (hp : p.Within here places) :
    d.readFile p = d'.readFile p := by
  rw [readFile, readFile, ← locate_congr h hp]
  cases hl : d.locate p with
  | error problem => rfl
  | ok l =>
    dsimp only
    rw [node?_of_locate h hp hl]

/-- A change that is made to both disks or to none. -/
def Together (here : Location) (places : List Location) (d : Disk) :
    Except FileError Disk → Except FileError Disk → Prop
  | .error e, .error e' => e = e'
  | .ok changed, .ok changed' =>
    AgreeOn here places changed changed' ∧ ChangesWithin places d changed
  | _, _ => False

theorem together_makeFolder (h : AgreeOn here places d d') (hp : p.Within here places) :
    Together here places d (d.makeFolder p) (d'.makeFolder p) := by
  rw [makeFolder, makeFolder, ← locate_congr h hp]
  cases hl : d.locate p with
  | error problem => rfl
  | ok l =>
    dsimp only
    rw [← node?_of_locate h hp hl]
    cases d.node? l with
    | some n => rfl
    | none => exact ⟨h.set l _, changesWithin_set d _ (mem_of_locate h hp hl)⟩

theorem together_writeFile (h : AgreeOn here places d d') (hp : p.Within here places)
    (content : Bytes) :
    Together here places d (d.writeFile p content) (d'.writeFile p content) := by
  rw [writeFile, writeFile, ← locate_congr h hp]
  cases hl : d.locate p with
  | error problem => rfl
  | ok l =>
    have hwritten : Together here places d (.ok (d.set l (.file content)))
        (.ok (d'.set l (.file content))) :=
      ⟨h.set l _, changesWithin_set d _ (mem_of_locate h hp hl)⟩
    dsimp only
    rw [← node?_of_locate h hp hl]
    cases d.node? l with
    | none => exact hwritten
    | some n =>
      cases n with
      | folder => rfl
      | file old => exact hwritten

/-- The two ways in which a change can go. -/
theorem Together.cases {x x' : Except FileError Disk} (h : Together here places d x x') :
    (∃ e, x = .error e ∧ x' = .error e) ∨
      ∃ c c', x = .ok c ∧ x' = .ok c' ∧ AgreeOn here places c c' ∧ ChangesWithin places d c := by
  cases x with
  | error e =>
    cases x' with
    | error e' => exact Or.inl ⟨e, rfl, congrArg _ h.symm⟩
    | ok c' => exact h.elim
  | ok c =>
    cases x' with
    | error e' => exact h.elim
    | ok c' => exact Or.inr ⟨c, c', rfl, rfl, h⟩

theorem settle_alike (h : AgreeOn here places d d') (hp : p.Within here places) (e : FileError) :
    Alike here places d (d.settle p e) (d'.settle p e) := by
  have hfolder : d.isFolder p = d'.isFolder p := by
    rw [isFolder, isFolder, find?_congr h hp]
  rw [settle, settle, hfolder]
  split
  · exact h.alike none
  · exact h.alike (some e)

/-- A last attempt to make a folder, after which nothing above it is made any more. -/
theorem makeFolder_alike (h : AgreeOn here places d d') (hp : p.Within here places) :
    Alike here places d
      (match d.makeFolder p with
        | .ok c => (c, none)
        | .error e => if e.problem = .notFound then (d, some e) else d.settle p e)
      (match d'.makeFolder p with
        | .ok c => (c, none)
        | .error e => if e.problem = .notFound then (d', some e) else d'.settle p e) := by
  rcases (together_makeFolder h hp).cases with ⟨e, hd, hd'⟩ | ⟨c, c', hd, hd', hc, hwithin⟩
  · rw [hd, hd']
    dsimp only
    split
    · exact h.alike (some e)
    · exact settle_alike h hp e
  · rw [hd, hd']
    exact ⟨rfl, hc, hwithin⟩

/-- Making a folder and those above it. The induction goes up the path, and the places
above are among those of the path. -/
theorem ensureParts_alike (root : Root) (parts : List Text) (h : AgreeOn here places d d')
    (hp : Path.Within here places ⟨root, parts.reverse⟩) :
    Alike here places d (ensureParts root d parts) (ensureParts root d' parts) := by
  induction parts generalizing d d' with
  | nil => exact makeFolder_alike h hp
  | cons part above ih =>
    have habove : Path.Within here places ⟨root, above.reverse⟩ :=
      hp.of_prefix rfl (by rw [List.reverse_cons]; exact List.prefix_append _ _)
    unfold ensureParts
    dsimp only
    rcases (together_makeFolder h hp).cases with ⟨e, hd, hd'⟩ | ⟨c, c', hd, hd', hc, hwithin⟩
    · rw [hd, hd']
      dsimp only
      split
      · obtain ⟨c, c', answer, hc, hc', hagree, hwithin⟩ := (ih h habove).cases
        rw [hc, hc']
        cases answer with
        | some fault => exact ⟨rfl, hagree, hwithin⟩
        | none => exact (makeFolder_alike hagree hp).after hwithin
      · exact settle_alike h hp e
    · rw [hd, hd']
      exact ⟨rfl, hc, hwithin⟩

theorem ensureFolder_alike (h : AgreeOn here places d d') (hp : p.Within here places) :
    Alike here places d (d.ensureFolder p) (d'.ensureFolder p) :=
  ensureParts_alike p.root p.parts.reverse h (by rwa [List.reverse_reverse])

theorem saveBytes_alike (h : AgreeOn here places d d') (hp : p.Within here places)
    (content : Bytes) : Alike here places d (d.saveBytes p content) (d'.saveBytes p content) := by
  have hparent : p.parent.Within here places := hp.of_prefix rfl (List.dropLast_prefix _)
  obtain ⟨c, c', answer, hc, hc', hagree, hwithin⟩ := (ensureFolder_alike h hparent).cases
  rw [saveBytes, saveBytes, hc, hc']
  cases answer with
  | some fault => exact ⟨rfl, hagree, hwithin⟩
  | none =>
    dsimp only
    refine Alike.after hwithin ?_
    rcases (together_writeFile hagree hp content).cases with
      ⟨e, hb, hb'⟩ | ⟨b, b', hb, hb', hagree', hwithin'⟩
    · rw [hb, hb']
      exact hagree.alike (some e)
    · rw [hb, hb']
      exact ⟨rfl, hagree', hwithin'⟩

theorem resolveOutput_alike {output : Text} (h : AgreeOn here places d d')
    (hp : (Path.ofText output).Within here places) (fileName : Text) :
    Alike here places d (d.resolveOutput output fileName) (d'.resolveOutput output fileName) := by
  obtain ⟨c, c', answer, hc, hc', hagree, hwithin⟩ := (ensureFolder_alike h hp).cases
  unfold resolveOutput
  dsimp only
  rw [← look_congr h hp]
  cases d.look (.ofText output) with
  | error e => exact h.alike _
  | ok there =>
    dsimp only
    split
    · rw [hc, hc']
      cases answer with
      | some fault => exact ⟨rfl, hagree, hwithin⟩
      | none => exact ⟨rfl, hagree, hwithin⟩
    · exact h.alike _

end

/-- What one place has to do with the changes. -/
def change? (before after : Disk) (l : Location) : Option Node :=
  if before.node? l = after.node? l then none else after.node? l

theorem changes_eq (before after : Disk) (places : List Location) :
    before.changes after places =
      places.filterMap fun l => (before.change? after l).map (l, ·) := by
  unfold changes
  congr 1
  funext l
  unfold change?
  cases after.node? l with
  | none => simp
  | some n =>
    dsimp only
    split
    · rfl
    · rfl

/-- A place is listed if it was looked at and has something else on it now. -/
theorem lookup_changes (before after : Disk) (places : List Location) (l : Location) :
    (before.changes after places).lookup l =
      if l ∈ places then before.change? after l else none := by
  rw [changes_eq]
  induction places with
  | nil => rfl
  | cons place rest ih =>
    by_cases hl : l = place
    · subst hl
      rw [if_pos List.mem_cons_self]
      cases hchange : before.change? after l with
      | none =>
        rw [List.filterMap_cons_none (by rw [hchange]; rfl), ih, hchange]
        exact ite_self none
      | some n =>
        rw [List.filterMap_cons_some (by rw [hchange]; rfl)]
        exact List.lookup_cons_self
    · have hmem : l ∈ place :: rest ↔ l ∈ rest := by simp [hl]
      simp only [hmem]
      rw [← ih]
      cases hchange : before.change? after place with
      | none => rw [List.filterMap_cons_none (by rw [hchange]; rfl)]
      | some n =>
        rw [List.filterMap_cons_some (by rw [hchange]; rfl)]
        have hne : (l == place) = false := beq_false_of_ne hl
        rw [List.lookup_cons, hne]

end Disk

namespace Command

/-- Two outcomes that differ in their disks at most, and the disks agree. The first disk has
come from `d`. -/
structure Outcome.Alike (here : Location) (places : List Location) (d : Disk)
    (o o' : Outcome) : Prop where
  eq : o' = { o with disk := o'.disk }
  agree : Disk.AgreeOn here places o.disk o'.disk
  within : Disk.ChangesWithin places d o.disk

/-- The same document, or the same end without one. -/
def ReadAlike (here : Location) (places : List Location) (d : Disk) :
    Except Outcome Text → Except Outcome Text → Prop
  | .ok t, .ok t' => t = t'
  | .error o, .error o' => o.Alike here places d o'
  | _, _ => False

section
variable {here : Location} {places : List Location} {d d' : Disk} {i : Invocation}

theorem ReadAlike.cases {x x' : Except Outcome Text} (h : ReadAlike here places d x x') :
    (∃ o o', x = .error o ∧ x' = .error o' ∧ o.Alike here places d o') ∨
      ∃ t, x = .ok t ∧ x' = .ok t := by
  cases x with
  | error o =>
    cases x' with
    | error o' => exact Or.inl ⟨o, o', rfl, rfl, h⟩
    | ok t' => exact h.elim
  | ok t =>
    cases x' with
    | error o' => exact h.elim
    | ok t' => exact Or.inr ⟨t, rfl, congrArg _ h.symm⟩

theorem readFile_alike {p : Path} (h : Disk.AgreeOn here places d d')
    (hp : p.Within here places) (name : Text) :
    ReadAlike here places d (readFile name p d) (readFile name p d') := by
  have hload : d.loadDocument p = d'.loadDocument p := by
    rw [Disk.loadDocument, Disk.loadDocument, Disk.readFile_congr h hp]
  unfold readFile
  rw [← Disk.look_congr h hp, ← hload]
  cases d.look p with
  | error e => exact ⟨rfl, h, .refl places d⟩
  | ok there =>
    cases there with
    | none => exact ⟨rfl, h, .refl places d⟩
    | some n =>
      cases n with
      | folder => exact ⟨rfl, h, .refl places d⟩
      | file content =>
        cases d.loadDocument p with
        | error fault => exact ⟨rfl, h, .refl places d⟩
        | ok t => rfl

theorem readInput_alike (h : Disk.AgreeOn here places d d') (input : Bytes) :
    ReadAlike here places d (readInput input d) (readInput input d') := by
  unfold readInput
  cases decodeDocument input with
  | error fault => exact ⟨rfl, h, .refl places d⟩
  | ok t => rfl

theorem readSource_alike {input input' : Bytes} (h : Disk.AgreeOn here places d d')
    (hp : ∀ p, i.sourcePath? = some p → p.Within here places)
    (hinput : i.readsInput = true → input = input') :
    ReadAlike here places d (readSource i input d) (readSource i input' d') := by
  unfold readSource
  cases hsource : i.sourcePath? with
  | none =>
    have hreads : i.readsInput = true := by rw [Invocation.readsInput, hsource]; rfl
    rw [← hinput hreads]
    exact readInput_alike h input
  | some p => exact readFile_alike h (hp p hsource) i.source

variable (screen : Message.Screen)

theorem saved_alike (h : Disk.AgreeOn here places d d') (messages : Text) (p : Path) :
    (Outcome.saved screen messages p d).Alike here places d (.saved screen messages p d') := by
  unfold Outcome.saved
  cases screen.line (savedMessage p) with
  | error e => exact ⟨rfl, h, .refl places d⟩
  | ok line => exact ⟨rfl, h, .refl places d⟩

theorem Outcome.Alike.after {c : Disk} {o o' : Outcome} (h : Disk.ChangesWithin places d c)
    (h' : o.Alike here places c o') : o.Alike here places d o' :=
  ⟨h'.eq, h'.agree, h.trans h'.within⟩

theorem deliver_alike {output fileName : Text} (h : Disk.AgreeOn here places d d')
    (hout : (Path.ofText output).Within here places)
    (hin : ((Path.ofText output).append (.ofText fileName)).Within here places)
    (messages content : Text) :
    (deliver screen messages content fileName output d).Alike here places d
      (deliver screen messages content fileName output d') := by
  obtain ⟨c, c', answer, hc, hc', hagree, hwithin⟩ :=
    (Disk.resolveOutput_alike h hout fileName).cases
  unfold deliver
  rw [hc, hc']
  cases answer with
  | error e => exact ⟨rfl, hagree, hwithin⟩
  | ok p =>
    have hp : p.Within here places := by
      rw [Disk.eq_outputPath_of_resolveOutput hc, Disk.outputPath]
      split
      · exact hin
      · exact hout
    obtain ⟨b, b', answer, hb, hb', hagree', hwithin'⟩ :=
      (Disk.saveBytes_alike hagree hp (Utf8.encode content)).cases
    have hsave : c.saveDocument p content = (b, answer) := hb
    have hsave' : c'.saveDocument p content = (b', answer) := hb'
    dsimp only
    rw [hsave, hsave']
    refine Outcome.Alike.after hwithin (Outcome.Alike.after hwithin' ?_)
    cases answer with
    | some e => exact ⟨rfl, hagree', .refl places b⟩
    | none => exact saved_alike screen hagree' messages p

theorem finish_alike (h : Disk.AgreeOn here places d d')
    (hp : ∀ p ∈ i.outputPaths, p.Within here places) (r : Conversion) (messages : Text) :
    (finish screen i r messages d).Alike here places d (finish screen i r messages d') := by
  unfold finish
  unfold Invocation.outputPaths at hp
  cases houtput : i.output with
  | none => exact ⟨rfl, h, .refl places d⟩
  | some output =>
    rw [houtput] at hp
    exact deliver_alike screen h (hp _ List.mem_cons_self)
      (hp _ (List.mem_cons_of_mem _ List.mem_cons_self)) messages _

theorem runOn_alike (h : Disk.AgreeOn here places d d')
    (hp : ∀ p ∈ i.outputPaths, p.Within here places) (t : Text) :
    (runOn screen i t d).Alike here places d (runOn screen i t d') := by
  unfold runOn
  cases announcement screen i with
  | error e => exact ⟨rfl, h, .refl places d⟩
  | ok before =>
  cases convert i.stem i.limit t with
  | error e => exact ⟨rfl, h, .refl places d⟩
  | ok r =>
  dsimp only
  rcases screen.lines (outcomeMessages i r) with ⟨shown, _ | e⟩
  · exact finish_alike screen h hp r _
  · exact ⟨rfl, h, .refl places d⟩

theorem within_places {p : Path} (h : p ∈ i.sourcePath?.toList ++ i.outputPaths) :
    p.Within here (i.places here) :=
  fun _ hl => List.mem_eraseDups.mpr (List.mem_flatMap.mpr ⟨p, h, hl⟩)

/-- A run does the same on two disks that show the same at the places that it can reach,
and changes a disk only there. Standard input counts only if it is read. -/
theorem run_within_reach {args : List Text} {input input' : Bytes}
    (h : Disk.AgreeOn here (reachedPlaces here args) d d')
    (hinput : readsInput args = true → input = input') :
    (run args input d screen).Alike here (reachedPlaces here args) d
      (run args input' d' screen) := by
  unfold run
  unfold reachedPlaces at h ⊢
  unfold readsInput at hinput
  cases hargs : Request.read args with
  | error refusal =>
    rw [hargs] at h
    cases refusal with
    | usage e => exact ⟨rfl, h, .refl _ d⟩
    | nulInOutput output => exact ⟨rfl, h, .refl _ d⟩
  | ok request =>
    rw [hargs] at h hinput
    cases request with
    | help => exact ⟨rfl, h, .refl _ d⟩
    | run i =>
      have hread : ReadAlike here (i.places here) d (readSource i input d)
          (readSource i input' d') := by
        refine readSource_alike h (fun p hp => within_places ?_) hinput
        rw [hp]
        exact List.mem_cons_self
      dsimp only
      unfold runInvocation
      rcases hread.cases with ⟨o, o', hd, hd', ho⟩ | ⟨t, hd, hd'⟩
      · rw [hd, hd']
        exact ho
      · rw [hd, hd']
        exact runOn_alike screen h (fun p hp => within_places (List.mem_append_right _ hp)) t

/-- Where the whole disk agrees with what was seen of it, carrying out the changes of the
run that saw no more is as good as a run on the whole disk. -/
theorem run_carried_out {args : List Text} {whole seen : Disk}
    (h : Disk.AgreeOn here (reachedPlaces here args) whole seen) (input : Bytes) (l : Location) :
    (run args input whole screen).disk.node? l =
      ((seen.changes (run args input seen screen).disk (reachedPlaces here args)).lookup l).or
        (whole.node? l) := by
  have hrun : (run args input whole screen).Alike here (reachedPlaces here args) whole
      (run args input seen screen) := run_within_reach screen h fun _ => rfl
  obtain ⟨-, hagree, hwithin⟩ := hrun
  rw [Disk.lookup_changes]
  by_cases hl : l ∈ reachedPlaces here args
  · rw [if_pos hl, Disk.change?, ← hagree.node?_eq l hl, ← h.node?_eq l hl]
    split
    · next hsame => exact hsame.symm
    · next hdiffers =>
      cases hafter : (run args input whole screen).disk.node? l with
      | some n => rfl
      | none =>
        -- nothing is gone, so nothing was there before
        have hbefore : whole.node? l = none := by
          by_cases hthere : whole.node? l = none
          · exact hthere
          · exact absurd hafter (hwithin.node?_ne_none l hthere)
        rw [hbefore]
        rfl
  · rw [if_neg hl]
    exact hwithin.node?_eq l hl

end

end Command

end InlineNotes
