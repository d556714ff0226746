import InlineNotes.Proofs.Saving

/-!
# What saving does to a disk

Only two operations change a disk. Making a folder puts it where nothing stands, and
writing a file puts the file where no folder stands. So whatever is done on the way to a
file, the disk gains folders at most (`GainsFolders`): nothing that stands there is lost
or altered, and no file is new. A document that has been saved is the one file that differs
(`PutsFile`). This holds also where the way leads up again, and where only some of the
folders on it could be made.
-/
namespace InlineNotes.Disk

/-- What stands on the disk stays, and what is new are folders. -/
structure GainsFolders (d d' : Disk) : Prop where
  here_eq : d'.here = d.here
  node?_eq : ∀ l, d'.node? l = d.node? l ∨ d.node? l = none ∧ d'.node? l = some .folder

/-- A file stands at a place where no folder was. Elsewhere folders are new at most. -/
structure PutsFile (d : Disk) (l : Location) (content : Bytes) (d' : Disk) : Prop where
  here_eq : d'.here = d.here
  node?_self : d'.node? l = some (.file content)
  not_folder : d.node? l ≠ some .folder
  node?_eq : ∀ other, other ≠ l →
    d'.node? other = d.node? other ∨ d.node? other = none ∧ d'.node? other = some .folder

section
variable {d d' d'' : Disk}

theorem GainsFolders.refl (d : Disk) : d.GainsFolders d := ⟨rfl, fun _ => Or.inl rfl⟩

theorem GainsFolders.trans (h : d.GainsFolders d') (h' : d'.GainsFolders d'') :
    d.GainsFolders d'' where
  here_eq := h'.here_eq.trans h.here_eq
  node?_eq := by
    intro l
    rcases h.node?_eq l with hsame | ⟨hnone, hfolder⟩
    · rw [← hsame]
      exact h'.node?_eq l
    · rcases h'.node?_eq l with hsame | ⟨hgone, -⟩
      · exact Or.inr ⟨hnone, hsame.trans hfolder⟩
      · rw [hfolder] at hgone
        cases hgone

/-- A file that stands on the disk keeps its place and its content. -/
theorem GainsFolders.kept (h : d.GainsFolders d') {l : Location} {n : Node}
    (hn : d.node? l = some n) : d'.node? l = some n := by
  rcases h.node?_eq l with hsame | ⟨hnone, -⟩
  · exact hsame.trans hn
  · rw [hnone] at hn
    cases hn

theorem GainsFolders.putsFile (h : d.GainsFolders d') {l : Location} {content : Bytes}
    (h' : d'.PutsFile l content d'') : d.PutsFile l content d'' where
  here_eq := h'.here_eq.trans h.here_eq
  node?_self := h'.node?_self
  not_folder := fun hfolder => h'.not_folder (h.kept hfolder)
  node?_eq := by
    intro other hne
    rcases h'.node?_eq other hne with hsame | ⟨hnone, hfolder⟩
    · rw [hsame]
      exact h.node?_eq other
    · refine Or.inr ⟨?_, hfolder⟩
      rcases h.node?_eq other with hsame | ⟨hnone', -⟩
      · exact hsame.symm.trans hnone
      · exact hnone'

theorem gainsFolders_of_makeFolder {p : Path} (h : d.makeFolder p = .ok d') :
    d.GainsFolders d' := by
  unfold makeFolder at h
  split at h
  · cases h
  · next l hlocate =>
    split at h
    · cases h
    · next hnone =>
      cases h
      have hl : l ≠ [] := by
        rintro rfl
        cases hnone
      refine ⟨rfl, fun other => ?_⟩
      by_cases heq : other = l
      · subst heq
        exact Or.inr ⟨hnone, d.node?_set_self _ hl⟩
      · exact Or.inl (d.node?_set_of_ne _ heq)

theorem putsFile_of_writeFile {p : Path} {content : Bytes} (h : d.writeFile p content = .ok d') :
    ∃ l, d'.locate p = .ok l ∧ d.PutsFile l content d' := by
  obtain ⟨l, -, hlocate, hfolder, hl, rfl⟩ := writeFile_eq_ok h
  refine ⟨l, hlocate, rfl, d.node?_set_self _ hl, hfolder, ?_⟩
  exact fun other hne => Or.inl (d.node?_set_of_ne _ hne)

theorem fst_settle (d : Disk) (p : Path) (e : FileError) : (d.settle p e).1 = d := by
  unfold settle
  split <;> rfl

/-- Making a folder and those above it, however far it gets. The induction goes up the
path: what the folders above have gained is there when the folder is tried again. -/
theorem gainsFolders_ensureParts (root : Root) (d : Disk) (parts : List Text) :
    d.GainsFolders (d.ensureParts root parts).1 := by
  induction parts generalizing d with
  | nil =>
    unfold ensureParts
    dsimp only
    split
    · next hmake => exact gainsFolders_of_makeFolder hmake
    · split
      · exact .refl d
      · rw [fst_settle]
        exact .refl d
  | cons part above ih =>
    unfold ensureParts
    dsimp only
    split
    · next hmake => exact gainsFolders_of_makeFolder hmake
    · split
      · have habove := ih d
        split
        · next hfault =>
          rw [hfault] at habove
          exact habove
        · next hmade =>
          rw [hmade] at habove
          split
          · next hmake => exact habove.trans (gainsFolders_of_makeFolder hmake)
          · split
            · exact habove
            · rw [fst_settle]
              exact habove
      · rw [fst_settle]
        exact .refl d

theorem gainsFolders_ensureFolder (d : Disk) (p : Path) : d.GainsFolders (d.ensureFolder p).1 :=
  gainsFolders_ensureParts p.root d p.parts.reverse

theorem gainsFolders_resolveOutput (d : Disk) (output fileName : Text) :
    d.GainsFolders (d.resolveOutput output fileName).1 := by
  have hensure := d.gainsFolders_ensureFolder (.ofText output)
  unfold resolveOutput
  dsimp only
  split
  · exact .refl d
  · split
    · split
      · next hfault =>
        rw [hfault] at hensure
        exact hensure
      · next hmade =>
        rw [hmade] at hensure
        exact hensure
    · exact .refl d

theorem gainsFolders_of_saveBytes {p : Path} {content : Bytes} {e : FileError}
    (h : d.saveBytes p content = (d', some e)) : d.GainsFolders d' := by
  have hensure := d.gainsFolders_ensureFolder p.parent
  unfold saveBytes at h
  split at h
  · next hfault =>
    cases h
    rw [hfault] at hensure
    exact hensure
  · next hmade =>
    rw [hmade] at hensure
    split at h
    · cases h
      exact hensure
    · cases h

theorem putsFile_of_saveBytes {p : Path} {content : Bytes}
    (h : d.saveBytes p content = (d', none)) :
    ∃ l, d'.locate p = .ok l ∧ d.PutsFile l content d' := by
  have hensure := d.gainsFolders_ensureFolder p.parent
  unfold saveBytes at h
  split at h
  · cases h
  · next hmade =>
    rw [hmade] at hensure
    split at h
    · cases h
    · next hwrite =>
      cases h
      obtain ⟨l, hlocate, hputs⟩ := putsFile_of_writeFile hwrite
      exact ⟨l, hlocate, hensure.putsFile hputs⟩

end

end InlineNotes.Disk
