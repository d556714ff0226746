import InlineNotes.Storage.Document

/-!
# Saved documents can be read back

Writing a file changes one place of the disk, and no folder. The way to the file leads
through folders only, so it is the same way afterwards, and what is read at the path is
what was written. Making the folders above the file first changes nothing in this: the
way is looked for when they are there.
-/
namespace InlineNotes.Disk

theorem node?_set_self (d : Disk) {l : Location} (n : Node) (h : l ≠ []) :
    (d.set l n).node? l = some n := by
  obtain ⟨part, rest, rfl⟩ := List.exists_cons_of_ne_nil h
  exact d.nodes.get?_put_self (part :: rest) n

theorem node?_set_of_ne (d : Disk) {l other : Location} (n : Node) (h : other ≠ l) :
    (d.set l n).node? other = d.node? other := by
  cases other with
  | nil => rfl
  | cons part rest => exact d.nodes.get?_put_of_ne n h

/-- A way stays as long as its folders stay. -/
theorem follow_of_folders {d d' : Disk}
    (h : ∀ l, d.node? l = some .folder → d'.node? l = some .folder) {place l : Location}
    {parts : List Text} (hfollow : d.follow place parts = .ok l) :
    d'.follow place parts = .ok l := by
  induction parts generalizing place with
  | nil => exact hfollow
  | cons part rest ih =>
    unfold follow at hfollow ⊢
    split at hfollow
    · cases hfollow
    · cases hfollow
    · next hfolder =>
      rw [h place hfolder]
      dsimp only
      split at hfollow
      · cases hfollow
      · next hsize =>
        rw [if_neg hsize]
        exact ih hfollow

theorem locate_of_folders {d d' : Disk}
    (h : ∀ l, d.node? l = some .folder → d'.node? l = some .folder) (hhere : d'.here = d.here)
    {p : Path} {l : Location} (hlocate : d.locate p = .ok l) : d'.locate p = .ok l := by
  have hstart : d'.start p.root = d.start p.root := by
    unfold start
    split
    · exact hhere
    · rfl
  unfold locate at hlocate ⊢
  split at hlocate
  · cases hlocate
  split at hlocate
  · cases hlocate
  · next hnul hsize =>
    rw [if_neg hnul, if_neg hsize, hstart]
    exact follow_of_folders h hlocate

/-- Writing a file changes the one place to which its path leads, before and after. -/
theorem writeFile_eq_ok {d d' : Disk} {p : Path} {content : Bytes}
    (h : d.writeFile p content = .ok d') :
    ∃ l, d.locate p = .ok l ∧ d'.locate p = .ok l ∧ d.node? l ≠ some .folder ∧ l ≠ [] ∧
      d' = d.set l (.file content) := by
  unfold writeFile at h
  split at h
  · cases h
  · next l hlocate =>
    split at h
    · cases h
    · next hnode =>
      cases h
      have hl : l ≠ [] := by
        rintro rfl
        exact hnode rfl
      have hfolders : ∀ q, d.node? q = some .folder →
          (d.set l (.file content)).node? q = some .folder := by
        intro q hq
        have hne : q ≠ l := by
          rintro rfl
          exact hnode hq
        rw [d.node?_set_of_ne _ hne, hq]
      exact ⟨l, hlocate, locate_of_folders hfolders rfl hlocate, hnode, hl, rfl⟩

/-- What is written to a file is read from it. -/
theorem readFile_of_writeFile {d d' : Disk} {p : Path} {content : Bytes}
    (h : d.writeFile p content = .ok d') : d'.readFile p = .ok content := by
  obtain ⟨l, -, hlocate, -, hl, rfl⟩ := writeFile_eq_ok h
  rw [readFile, hlocate]
  dsimp only
  rw [d.node?_set_self _ hl]

theorem readFile_of_saveBytes {d d' : Disk} {p : Path} {content : Bytes}
    (h : d.saveBytes p content = (d', none)) : d'.readFile p = .ok content := by
  unfold saveBytes at h
  split at h
  · cases h
  split at h
  · cases h
  · next hwrite =>
    cases h
    exact readFile_of_writeFile hwrite

end InlineNotes.Disk
