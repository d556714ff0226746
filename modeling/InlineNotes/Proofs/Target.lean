import InlineNotes.Proofs.DiskChanges
import InlineNotes.Proofs.Endings

/-!
# The one file that a run writes

A run that fails leaves every file as it is, and one that succeeds with an output writes
a single file: the one that the output names, or the one in the folder that it names
(`run_writes_target`). Up to the point where the result is saved a run does not touch the
disk. Saving makes folders and then writes the file, so an error on the way leaves new
folders at most. The one thing that can go wrong after the file is written is the line
that says so, which is markup with the path in it. Every character of the path comes from
the source or the output, and if there is no bracket in them the line can be shown.
-/
namespace InlineNotes

namespace Path
variable {c : Char} {t part : Text}

theorem mem_of_mem_parts (hpart : part ∈ (ofText t).parts) (hc : c ∈ part) : c ∈ t :=
  Text.mem_of_mem_split (List.mem_filter.mp hpart).1 hc

theorem slash_not_mem_of_mem_parts (hpart : part ∈ (ofText t).parts) : '/' ∉ part :=
  Text.not_mem_of_mem_split (List.mem_filter.mp hpart).1

theorem mem_name_of_mem_stem {p : Path} (h : c ∈ p.stem) : c ∈ p.name := by
  unfold stem at h
  dsimp only at h
  split at h
  · exact h
  · have hdropped := List.mem_of_mem_tail (List.mem_reverse.mp h)
    exact List.mem_reverse.mp ((List.dropWhile_sublist _).subset hdropped)

theorem exists_mem_parts_of_mem_name {p : Path} (h : c ∈ p.name) : ∃ part ∈ p.parts, c ∈ part := by
  unfold name at h
  by_cases hparts : p.parts = []
  · rw [hparts] at h
    cases h
  · rw [List.getLastD_eq_getLast?, List.getLast?_eq_some_getLast hparts] at h
    exact ⟨_, List.getLast_mem hparts, h⟩

theorem mem_of_mem_write {p : Path} (h : c ∈ p.write) :
    c = '.' ∨ c = '/' ∨ ∃ part ∈ p.parts, c ∈ part := by
  unfold write at h
  split at h
  · exact Or.inl (List.mem_singleton.mp h)
  · rcases List.mem_append.mp h with h | h
    · refine Or.inr (Or.inl ?_)
      cases hroot : p.root <;> rw [hroot] at h
      · cases h
      · exact List.mem_singleton.mp h
      · rw [Root.write, List.mem_cons, List.mem_singleton] at h
        exact h.elim id id
    · exact Or.inr (Text.eq_or_mem_of_mem_join h)

theorem ofText_of_slash_not_mem (hslash : '/' ∉ t) (hnil : t ≠ []) (hpoint : t ≠ ['.']) :
    ofText t = ⟨.here, [t]⟩ := by
  have hroot : rootOf t = .here := by
    unfold rootOf
    split
    · simp at hslash
    · simp at hslash
    · simp at hslash
    · rfl
  rw [ofText, hroot, Text.split_of_not_mem hslash]
  simp [hnil, hpoint]

theorem append_ofText_of_slash_not_mem (p : Path) (hslash : '/' ∉ t) (hnil : t ≠ [])
    (hpoint : t ≠ ['.']) : p.append (ofText t) = ⟨p.root, p.parts ++ [t]⟩ := by
  rw [ofText_of_slash_not_mem hslash hnil hpoint]
  rfl

end Path

namespace Disk
variable {d d' : Disk} {output fileName content : Text}

theorem gainsFolders_of_saveUnder {e : FileError}
    (h : d.saveUnder output fileName content = (d', some e)) : d.GainsFolders d' := by
  have hresolved := d.gainsFolders_resolveOutput output fileName
  unfold saveUnder at h
  split at h
  · next hresolve =>
    cases h
    rw [hresolve] at hresolved
    exact hresolved
  · next hresolve =>
    rw [hresolve] at hresolved
    exact hresolved.trans (gainsFolders_of_saveBytes h)

theorem putsFile_of_saveUnder (h : d.saveUnder output fileName content = (d', none)) :
    ∃ l, d'.locate (d.outputPath output fileName) = .ok l ∧
      d.PutsFile l (Utf8.encode content) d' := by
  have hresolved := d.gainsFolders_resolveOutput output fileName
  unfold saveUnder at h
  split at h
  · cases h
  · next hresolve =>
    rw [hresolve] at hresolved
    rw [← eq_outputPath_of_resolveOutput hresolve]
    obtain ⟨l, hlocate, hputs⟩ := putsFile_of_saveBytes h
    exact ⟨l, hlocate, hresolved.putsFile hputs⟩

end Disk

namespace Command

section
variable {i : Invocation} {c : Char}

theorem mem_fileName (h : c ∈ i.fileName) : c ∈ "stdin".toList ∨ c ∈ i.form.ending ∨
    ∃ part ∈ (Path.ofText i.source).parts, c ∈ part := by
  unfold Invocation.fileName Invocation.sourcePath? at h
  rcases List.mem_append.mp h with h | h
  · split at h
    · exact Or.inl h
    · exact Or.inr (Or.inr (Path.exists_mem_parts_of_mem_name (Path.mem_name_of_mem_stem h)))
  · exact Or.inr (Or.inl h)

theorem slash_not_mem_fileName (i : Invocation) : '/' ∉ i.fileName := by
  intro h
  rcases mem_fileName h with h | h | ⟨part, hpart, hc⟩
  · exact absurd h (by decide)
  · cases hform : i.form <;> rw [hform] at h <;> exact absurd h (by decide)
  · exact Path.slash_not_mem_of_mem_parts hpart hc

theorem bracket_not_mem_fileName (hsource : '[' ∉ i.source) : '[' ∉ i.fileName := by
  intro h
  rcases mem_fileName h with h | h | ⟨part, hpart, hc⟩
  · exact absurd h (by decide)
  · cases hform : i.form <;> rw [hform] at h <;> exact absurd h (by decide)
  · exact hsource (Path.mem_of_mem_parts hpart hc)

theorem two_lt_length_fileName (i : Invocation) : 2 < i.fileName.length := by
  have hending : 2 < i.form.ending.length := by cases i.form <;> decide
  rw [Invocation.fileName, List.length_append]
  omega

theorem append_fileName (p : Path) (i : Invocation) :
    p.append (.ofText i.fileName) = ⟨p.root, p.parts ++ [i.fileName]⟩ := by
  have hlength := two_lt_length_fileName i
  refine Path.append_ofText_of_slash_not_mem p (slash_not_mem_fileName i) ?_ ?_
  · intro hnil
    rw [hnil] at hlength
    cases hlength
  · intro hpoint
    rw [hpoint] at hlength
    exact absurd hlength (by decide)

theorem bracket_not_mem_outputPath {output : Text} (hsource : '[' ∉ i.source)
    (houtput : '[' ∉ output) (d : Disk) : '[' ∉ (d.outputPath output i.fileName).write := by
  intro h
  have houtside : ∀ part ∈ (Path.ofText output).parts, '[' ∉ part :=
    fun part hpart hc => houtput (Path.mem_of_mem_parts hpart hc)
  rcases Path.mem_of_mem_write h with h | h | ⟨part, hpart, hc⟩
  · cases h
  · cases h
  · unfold Disk.outputPath at hpart
    split at hpart
    · rw [append_fileName] at hpart
      rcases List.mem_append.mp hpart with hpart | hpart
      · exact houtside part hpart hc
      · rw [List.mem_singleton.mp hpart] at hc
        exact bracket_not_mem_fileName hsource hc
    · exact houtside part hpart hc

variable {args : List Text} {input : Bytes} {d : Disk}

theorem disk_of_leaks {fault : Fault} (h : Leaks args input d Message.console fault)
    (hplain : ∀ i, Request.read args = .ok (.run i) →
      '[' ∉ i.source ∧ ∀ output, i.output = some output → '[' ∉ output) :
    d.GainsFolders (run args input d).disk := by
  obtain ⟨messages, d', hrun, hsame | ⟨i, r, output, hhands, houtput, hsave, hunsaid⟩⟩ :=
    run_of_leaks h
  · rw [hrun, hsame]
    exact .refl d
  obtain ⟨hsource, hnamed⟩ := hplain i hhands.request
  rw [hrun, hsave]
  cases hwritten : (i.save r output d).2 with
  | some e => exact Disk.gainsFolders_of_saveUnder (Prod.ext rfl hwritten)
  | none =>
    -- the file is there, so the line that says so must be at fault
    obtain ⟨e, he⟩ := hunsaid hwritten
    obtain ⟨line, hline⟩ :=
      Message.console_savedMessage (bracket_not_mem_outputPath hsource (hnamed output houtput) d)
    rw [hline] at he
    cases he

theorem HandsOn.putsFile {screen : Message.Screen} {r : Conversion} {output : Text}
    (h : HandsOn args input d i r screen) (houtput : i.output = some output)
    (hsaved : (i.save r output d).2 = none) :
    ∃ l, (run args input d screen).disk.locate (d.outputPath output i.fileName) = .ok l ∧
      d.PutsFile l (Utf8.encode (i.form.content i.source r)) (run args input d screen).disk := by
  obtain ⟨messages, hrun⟩ := h.run_of_saved houtput hsaved
  have hdisk : (run args input d screen).disk = (i.save r output d).1 := by
    rw [hrun]
    exact (saved_eq _ _ _ _).2.1
  rw [hdisk]
  exact Disk.putsFile_of_saveUnder (Prod.ext rfl hsaved)

end

/-- A run writes its result to one file or to none. When it fails with a report, it has
not touched the disk; when a fault breaks it off, there are new folders at most, as long as
no bracket is in the names that it was given; and when it succeeds with an output, the
output says which file differs from before. -/
theorem run_writes_target (args : List Text) (input : Bytes) (d : Disk) :
    let o := run args input d
    (o.exitCode = 2 ∨ o.exitCode = 1 ∧ o.escaped = none → o.disk = d ∧ o.output = []) ∧
    (o.escaped ≠ none →
      (∀ i, Request.read args = .ok (.run i) →
        '[' ∉ i.source ∧ ∀ output, i.output = some output → '[' ∉ output) →
      d.GainsFolders o.disk) ∧
    (∀ i output, Request.read args = .ok (.run i) → i.output = some output → o.exitCode = 0 →
      let p := Path.ofText output
      let target : Path := if d.isFolder p ∨ output.getLast? = some '/'
        then ⟨p.root, p.parts ++ [i.fileName]⟩ else p
      ∃ l r, Converts args input d i r ∧ o.disk.locate target = .ok l ∧
        d.PutsFile l (Utf8.encode (i.form.content i.source r)) o.disk) ∧
    (o.exitCode = 0 →
      (∀ i output, Request.read args = .ok (.run i) → i.output ≠ some output) →
      o.disk = d) := by
  refine ⟨fun h => ?_, fun h hplain => ?_, fun i output hargs houtput hcode => ?_,
    fun hcode hnone => ?_⟩
  · rcases h with h | ⟨h, hescaped⟩
    · obtain ⟨e, he⟩ := usage_of_exitCode h
      rw [run_of_usage he]
      exact ⟨rfl, rfl⟩
    · obtain ⟨m, hm⟩ := reports_of_exitCode h hescaped
      obtain ⟨before, -, hrun⟩ := run_of_reports hm
      rw [hrun]
      exact ⟨rfl, rfl⟩
  · obtain ⟨fault, hleaks⟩ := leaks_of_escaped h
    exact disk_of_leaks hleaks hplain
  · have hrequest : ∀ {j : Invocation}, Request.read args = .ok (.run j) → j = i := by
      intro j hj
      rw [hargs] at hj
      cases hj
      rfl
    cases succeeds_of_exitCode hcode with
    | help hhelp =>
      rw [hargs] at hhelp
      cases hhelp
    | printed hhands hnone =>
      rw [hrequest hhands.request, houtput] at hnone
      cases hnone
    | saved hhands hj hsaved hline =>
      cases hrequest hhands.request
      rw [houtput] at hj
      cases hj
      obtain ⟨l, hlocate, hputs⟩ := hhands.putsFile houtput hsaved
      refine ⟨l, _, hhands.converts, ?_, hputs⟩
      rw [← append_fileName]
      exact hlocate
  · cases succeeds_of_exitCode hcode with
    | help hhelp =>
      rw [run, hhelp]
      rfl
    | printed hhands hnone =>
      obtain ⟨messages, output, hrun⟩ := hhands.run_of_none hnone
      rw [hrun]
      rfl
    | saved hhands houtput => exact absurd houtput (hnone _ _ hhands.request)

/-- A result that goes into a folder, a source that is not there, and an output that leads
through a folder that is not there yet and then through a file. -/
theorem run_writes_target_folder :
    let d : Disk := ⟨.ofList [(["f".toList], .file []), (["g".toList], .folder)], []⟩
    let bytes := Utf8.encode "a[^n]".toList
    let saved := run ["-o".toList, "g".toList] bytes d
    let failed := run ["a".toList] bytes d
    let brokenOff := run ["-o".toList, "n/../f/e".toList] bytes d
    (saved.exitCode = 0 ∧ ∃ l r,
      saved.disk.locate ⟨.here, ["g".toList, "stdin.md".toList]⟩ = .ok l ∧
      d.PutsFile l (Utf8.encode (Conversion.text r)) saved.disk) ∧
    (failed.exitCode = 1 ∧ failed.escaped = none ∧ failed.disk = d ∧ failed.output = []) ∧
    (brokenOff.escaped = some (.storage (.file ⟨.occupied, .ofText "n/../f".toList⟩)) ∧
      brokenOff.disk.node? ["n".toList] = some .folder ∧ d.GainsFolders brokenOff.disk) := by
  intro d bytes saved failed brokenOff
  obtain ⟨-, -, hsaved, -⟩ := run_writes_target ["-o".toList, "g".toList] bytes d
  obtain ⟨hfailed, -⟩ := run_writes_target ["a".toList] bytes d
  obtain ⟨-, hbroken, -⟩ := run_writes_target ["-o".toList, "n/../f/e".toList] bytes d
  have hcode : saved.exitCode = 0 := by decide +kernel
  have hrefused : failed.exitCode = 1 ∧ failed.escaped = none := by decide +kernel
  have hescaped : brokenOff.escaped =
      some (.storage (.file ⟨.occupied, .ofText "n/../f".toList⟩)) := by decide +kernel
  obtain ⟨l, r, -, hlocate, hputs⟩ :=
    hsaved ⟨standardInput, .markdown, some "g".toList, defaultStem, none, false⟩ _ rfl rfl hcode
  have hfolder : d.isFolder (.ofText "g".toList) = true := by decide +kernel
  rw [if_pos (Or.inl hfolder)] at hlocate
  refine ⟨⟨hcode, l, r, hlocate, hputs⟩, ⟨hrefused.1, hrefused.2, hfailed (Or.inr hrefused)⟩,
    hescaped, by decide +kernel, hbroken (by rw [hescaped]; exact Option.some_ne_none _) ?_⟩
  intro i hi
  cases hi
  refine ⟨by decide, fun output houtput => ?_⟩
  cases houtput
  decide

end Command

end InlineNotes
