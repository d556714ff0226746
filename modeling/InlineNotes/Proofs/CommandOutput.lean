import InlineNotes.Command.Run
import InlineNotes.Proofs.Reports
import InlineNotes.Proofs.Saving
import InlineNotes.Proofs.TerminalSequences

/-!
# What a run puts out

A quiet run whose document can be read and converted hands its result on in one of two
ways. A file gets the UTF-8 of the result and nothing else. Standard output gets it
without terminal sequences, so the two agree where the converted document has none; a
report never has one, because JSON escapes the character that starts it
(`not_escape_mem_report`).

The line that says where a file was saved is markup with the path in it, and whether it
can be shown is up to the screen. A path without an opening bracket cannot spoil it on the
console (`console_savedMessage`), but one with a bracket can, and then the run fails after
the file is written.
-/
namespace InlineNotes

theorem Conversion.not_escape_mem_report (source : Text) (r : Conversion) :
    '\x1b' ∉ r.report source := by
  intro hmem
  rcases (Json.spellsValue_write (r.summary source)).le_toNat _ hmem with h | h
  · cases h
  · exact absurd h (by decide)

namespace Message

theorem pieces_of_bracket {t plain rest : Text} {b : Bracket}
    (hbefore : beforeBracket t = (plain, rest)) (h : bracket? rest = some b) (position : Nat) :
    pieces position t = (if plain = [] then [] else [.plain plain]) ++
      (b.pieces (position + plain.length) ++ pieces (position + plain.length + b.size) b.rest) := by
  have hrest : bracket? (beforeBracket t).2 = some b := by rw [hbefore, h]
  rw [pieces]
  simp only [hbefore]
  congr 1
  split
  · next hnone => rw [hrest] at hnone; cases hnone
  · next hsome => rw [hrest] at hsome; cases hsome; rfl

theorem pieces_savedMessage {p : Path} (h : '[' ∉ p.write) :
    pieces 0 (Command.savedMessage p) = [.tag 0 (.ofText "green".toList), .plain "Saved:".toList,
      .tag 13 (.ofText "/green".toList), .plain (' ' :: p.write)] := by
  have hpath : '[' ∉ ' ' :: p.write := by
    rw [List.mem_cons, not_or]
    exact ⟨by decide, h⟩
  have hopen : beforeBracket (Command.savedMessage p) = ([], Command.savedMessage p) := rfl
  have hopened : bracket? (Command.savedMessage p) =
      some ⟨0, "green".toList, "Saved:[/green] ".toList ++ p.write⟩ := rfl
  have hclose : beforeBracket ("Saved:[/green] ".toList ++ p.write) =
      ("Saved:".toList, "[/green] ".toList ++ p.write) := rfl
  have hclosed : bracket? ("[/green] ".toList ++ p.write) =
      some ⟨0, "/green".toList, ' ' :: p.write⟩ := rfl
  rw [pieces_of_bracket hopen hopened, pieces_of_bracket hclose hclosed, pieces_of_not_mem hpath]
  simp [Bracket.pieces, Bracket.size]

/-- The two tags around the first word close each other, and the path is plain. -/
theorem ofMessage_savedMessage {p : Path} (h : '[' ∉ p.write) :
    Marked.ofMessage (Command.savedMessage p) =
      .ok ⟨showPlain "Saved:".toList ++ showPlain (' ' :: p.write), [],
        [⟨0, (showPlain "Saved:".toList).length, "green".toList⟩]⟩ := by
  let green : Tag := .ofText "green".toList
  have hopen : Marked.put {} (.tag 0 green) = .ok ⟨[], [⟨green, 0⟩], []⟩ := rfl
  have hword : Marked.put ⟨[], [⟨green, 0⟩], []⟩ (.plain "Saved:".toList) =
      .ok ⟨showPlain "Saved:".toList, [⟨green, 0⟩], []⟩ := rfl
  have hclose : ∀ t, Marked.put ⟨t, [⟨green, 0⟩], []⟩ (.tag 13 (.ofText "/green".toList)) =
      .ok ⟨t, [], [⟨0, t.length, "green".toList⟩]⟩ := fun _ => rfl
  rw [Marked.ofMessage, pieces_savedMessage h]
  simp only [List.foldlM_cons, List.foldlM_nil, bind, Except.bind, pure, Except.pure]
  rw [hopen]
  dsimp only
  rw [hword]
  dsimp only
  rw [hclose]
  rfl

/-- A line with nothing but a path in it, and no bracket, can be shown. -/
theorem console_savedMessage {p : Path} (h : '[' ∉ p.write) :
    ∃ line, console.line (Command.savedMessage p) = .ok line := by
  let m : Marked := ⟨showPlain "Saved:".toList ++ showPlain (' ' :: p.write), [],
    [⟨0, (showPlain "Saved:".toList).length, "green".toList⟩]⟩
  have hgreen : ∀ s ∈ m.spans, s.fault? = none := by
    have hspans : m.spans = [⟨0, (showPlain "Saved:".toList).length, "green".toList⟩] :=
      List.mergeSort_singleton _
    rw [hspans]
    intro s hs
    rw [List.mem_singleton.mp hs]
    rfl
  have hfault : ∀ unbroken, m.fault? unbroken = none := by
    intro unbroken
    refine List.findSome?_eq_none_iff.mpr fun s hs => ?_
    rw [hgreen s hs]
    rfl
  have hmarked : Marked.ofMessage (Command.savedMessage p) = .ok m := ofMessage_savedMessage h
  have hline : console.line (Command.savedMessage p) = render (Command.savedMessage p) := rfl
  rw [hline, render, hmarked]
  dsimp only
  rw [hfault]
  exact ⟨_, rfl⟩

end Message

namespace Disk

theorem find?_of_look {d : Disk} {p : Path} {there : Option Node} (h : d.look p = .ok there) :
    d.find? p = there := by
  unfold look at h
  split at h
  · next l hlocate =>
    cases h
    rw [find?, hlocate]
  · next problem hlocate =>
    rw [find?, hlocate]
    split at h
    · cases h
    · cases h
      rfl

theorem look_of_locate_ne_tooLong {d : Disk} {p : Path} (h : d.locate p ≠ .error .tooLong) :
    d.look p = .ok (d.find? p) := by
  rw [look, find?]
  cases hlocate : d.locate p with
  | ok l => rfl
  | error problem =>
    have hproblem : problem ≠ .tooLong := by
      rintro rfl
      exact h hlocate
    exact if_neg hproblem

theorem locate_of_find? {d : Disk} {p : Path} {n : Node} (h : d.find? p = some n) :
    ∃ l, d.locate p = .ok l ∧ d.node? l = some n := by
  unfold find? at h
  split at h
  · cases h
  · next l hlocate => exact ⟨l, hlocate, h⟩

theorem look_of_find? {d : Disk} {p : Path} {n : Node} (h : d.find? p = some n) :
    d.look p = .ok (some n) := by
  obtain ⟨l, hlocate, hnode⟩ := locate_of_find? h
  rw [look, hlocate, ← hnode]

theorem loadDocument_of_find? {d : Disk} {p : Path} {content : Bytes}
    (h : d.find? p = some (.file content)) :
    d.loadDocument p = (decodeDocument content).mapError .encoding := by
  obtain ⟨l, hlocate, hnode⟩ := locate_of_find? h
  have hread : d.readFile p = .ok content := by
    rw [readFile, hlocate]
    dsimp only
    rw [hnode]
  rw [loadDocument, hread]

/-- The file that an output names: a folder, or what is spelled as one, takes a file of
the given name. -/
def outputPath (d : Disk) (output fileName : Text) : Path :=
  if d.isFolder (.ofText output) ∨ output.getLast? = some '/' then
    (Path.ofText output).append (.ofText fileName)
  else .ofText output

theorem eq_outputPath_of_resolveOutput {d d' : Disk} {output fileName : Text} {p : Path}
    (h : d.resolveOutput output fileName = (d', .ok p)) : p = d.outputPath output fileName := by
  unfold resolveOutput at h
  dsimp only at h
  split at h
  · cases h
  · next there hlook =>
    have hfolder : d.isFolder (.ofText output) = true ↔ there = some .folder := by
      rw [isFolder, find?_of_look hlook, decide_eq_true_eq]
    simp only [outputPath, hfolder]
    split at h
    · next htaken =>
      rw [if_pos htaken]
      split at h
      · cases h
      · cases h
        rfl
    · next hplain =>
      rw [if_neg hplain]
      cases h
      rfl

/-- Finds the place of a document and saves it there, as a run with an output does. -/
def saveUnder (d : Disk) (output fileName content : Text) : Disk × Option FileError :=
  match d.resolveOutput output fileName with
  | (d, .error e) => (d, some e)
  | (d, .ok p) => d.saveDocument p content

theorem readFile_of_saveUnder {d : Disk} {output fileName content : Text}
    (h : (d.saveUnder output fileName content).2 = none) :
    (d.saveUnder output fileName content).1.readFile (d.outputPath output fileName) =
      .ok (Utf8.encode content) := by
  unfold saveUnder at h ⊢
  split at h
  · cases h
  · next d₁ p hresolve =>
    rw [← eq_outputPath_of_resolveOutput hresolve]
    exact readFile_of_saveBytes (Prod.ext rfl h)

end Disk

namespace Command

/-- The bytes of the document, if they are there: those of standard input, or of the
file that the source names. -/
def Invocation.document? (i : Invocation) (input : Bytes) (d : Disk) : Option Bytes :=
  match i.sourcePath? with
  | none => some input
  | some p =>
    match d.find? p with
    | some (.file content) => some content
    | _ => none

section
variable {screen : Message.Screen} {args : List Text} {input bytes : Bytes} {d : Disk}
  {i : Invocation} {t : Text} {r : Conversion}

theorem readFile_of_find? {p : Path} (h : d.find? p = some (.file bytes))
    (htext : Utf8.decode bytes = .ok t) (name : Text) :
    readFile name p d = .ok t.unifyNewlines := by
  rw [readFile, Disk.look_of_find? h]
  dsimp only
  rw [Disk.loadDocument_of_find? h, decodeDocument, htext]
  rfl

theorem readSource_of_document? (h : i.document? input d = some bytes)
    (htext : Utf8.decode bytes = .ok t) : readSource i input d = .ok t.unifyNewlines := by
  unfold Invocation.document? at h
  split at h
  · next hsource =>
    cases h
    rw [readSource, hsource]
    dsimp only
    rw [readInput, decodeDocument, htext]
    rfl
  · next p hsource =>
    rw [readSource, hsource]
    dsimp only
    split at h
    · next content hfile =>
      cases h
      exact readFile_of_find? hfile htext _
    · cases h

theorem run_of_request (hargs : Request.read args = .ok (.run i)) :
    run args input d screen = runInvocation screen i input d := by
  rw [run, hargs]

theorem run_of_document (hargs : Request.read args = .ok (.run i))
    (hdocument : i.document? input d = some bytes) (htext : Utf8.decode bytes = .ok t) :
    run args input d screen = runOn screen i t.unifyNewlines d := by
  rw [run_of_request hargs, runInvocation, readSource_of_document? hdocument htext]

/-- All that a quiet run does with its document is to convert it and to hand the result
on. -/
theorem run_quiet (hargs : Request.read args = .ok (.run i)) (hquiet : i.verbose = false)
    (hdocument : i.document? input d = some bytes) (htext : Utf8.decode bytes = .ok t)
    (hconvert : convert i.stem i.limit t.unifyNewlines = .ok r) :
    run args input d screen = finish screen i r [] d := by
  have hannounced : announcement screen i = .ok [] := by
    rw [announcement, if_neg (by simp [hquiet])]
  have houtcome : outcomeMessages i r = [] := by
    rw [outcomeMessages, if_neg (by simp [hquiet])]
  rw [run_of_document hargs hdocument htext, runOn, hannounced]
  dsimp only
  rw [hconvert]
  dsimp only
  rw [houtcome]
  rfl

/-- The result is there, and what the screen makes of the line that says so decides how
the run ends. -/
theorem saved_eq (screen : Message.Screen) (messages : Text) (p : Path) (d : Disk) :
    let o := Outcome.saved screen messages p d
    o.output = [] ∧ o.disk = d ∧
      (o.exitCode = 0 ↔ ∃ line, screen.line (savedMessage p) = .ok line) ∧
      ∀ e, screen.line (savedMessage p) = .error e →
        o.exitCode = 1 ∧ o.escaped = some (.markup e) := by
  cases hline : screen.line (savedMessage p) with
  | error e => simp [Outcome.saved, Outcome.brokenOff, hline]
  | ok line => simp [Outcome.saved, hline]

theorem deliver_of_fault {content fileName output : Text} {d' : Disk} {e : FileError}
    (h : d.saveUnder output fileName content = (d', some e)) (messages : Text) :
    deliver screen messages content fileName output d =
      .brokenOff messages (.storage (.file e)) d' := by
  unfold Disk.saveUnder at h
  split at h
  · next hresolve =>
    cases h
    rw [deliver, hresolve]
  · next hresolve =>
    rw [deliver, hresolve]
    dsimp only
    rw [h]

theorem deliver_of_saved {content fileName output : Text} {d' : Disk}
    (h : d.saveUnder output fileName content = (d', none)) (messages : Text) :
    deliver screen messages content fileName output d =
      .saved screen messages (d.outputPath output fileName) d' := by
  unfold Disk.saveUnder at h
  split at h
  · cases h
  · next hresolve =>
    rw [deliver, hresolve]
    dsimp only
    rw [h, Disk.eq_outputPath_of_resolveOutput hresolve]

/-- What a quiet run says to a result that no output is given for. -/
theorem finish_without_output (hnone : i.output = none) :
    let o := finish screen i r [] d
    o.exitCode = 0 ∧ o.escaped = none ∧ o.messages = [] ∧ o.disk = d ∧
      (i.form = .markdown → o.output = Utf8.encode (Text.stripSequences r.text) ∧
        (o.output = Utf8.encode r.text ↔ ∀ s, Text.IsSequence s → ¬ s <:+: r.text)) ∧
      (i.form = .report → o.output = Utf8.encode (r.report i.source) ++ [10]) := by
  have hprinted : finish screen i r [] d =
      .printed [] (i.form.content i.source r ++ i.form.terminator) d := by
    rw [finish, hnone]
  rw [hprinted]
  refine ⟨rfl, rfl, rfl, rfl, fun hform => ?_, fun hform => ?_⟩
  · have hprint : i.form.content i.source r ++ i.form.terminator = r.text := by
      rw [hform]
      exact List.append_nil _
    rw [hprint, Outcome.printed, ← Text.stripSequences_eq_self_iff]
    exact ⟨rfl, Utf8.encode_injective, congrArg Utf8.encode⟩
  · have hprint : i.form.content i.source r ++ i.form.terminator =
        r.report i.source ++ ['\n'] := by
      rw [hform]
      rfl
    have hescape : '\x1b' ∉ r.report i.source ++ ['\n'] := by
      rw [List.mem_append, not_or]
      exact ⟨r.not_escape_mem_report _, by decide⟩
    rw [hprint, Outcome.printed, Text.stripSequences_of_not_mem hescape, Utf8.encode_append]
    rfl

/-- What becomes of a result in an output. -/
theorem finish_with_output (screen : Message.Screen) {output : Text}
    (houtput : i.output = some output) :
    let o := finish screen i r [] d
    let written := d.saveUnder output i.fileName (i.form.content i.source r)
    let p := d.outputPath output i.fileName
    o.output = [] ∧ o.disk = written.1 ∧
      (∀ e, written.2 = some e → o.exitCode = 1 ∧ o.escaped = some (.storage (.file e))) ∧
      (written.2 = none → o.disk.readFile p = .ok (Utf8.encode (i.form.content i.source r)) ∧
        (o.exitCode = 0 ↔ ∃ line, screen.line (savedMessage p) = .ok line) ∧
        ∀ e, screen.line (savedMessage p) = .error e →
          o.exitCode = 1 ∧ o.escaped = some (.markup e)) := by
  intro o written p
  have hdeliver : o = deliver screen [] (i.form.content i.source r) i.fileName output d := by
    change finish screen i r [] d = _
    rw [finish, houtput]
  cases hwritten : written.2 with
  | some e =>
    have hbroken : o = .brokenOff [] (.storage (.file e)) written.1 :=
      hdeliver.trans (deliver_of_fault (Prod.ext rfl hwritten) [])
    rw [hbroken]
    refine ⟨rfl, rfl, ?_, ?_⟩
    · intro e' he
      cases he
      exact ⟨rfl, rfl⟩
    · intro h
      cases h
  | none =>
    have hsaved : o = .saved screen [] p written.1 :=
      hdeliver.trans (deliver_of_saved (Prod.ext rfl hwritten) [])
    obtain ⟨hsilent, hdisk, hends⟩ := saved_eq screen [] p written.1
    rw [hsaved]
    refine ⟨hsilent, hdisk, ?_, fun _ => ⟨?_, hends⟩⟩
    · intro e he
      cases he
    · rw [hdisk]
      exact Disk.readFile_of_saveUnder hwritten

/-- A quiet run without an output leaves the disk alone and prints its result, a
converted document as it is just when no terminal sequence is in it, and a report always.
With an output it prints nothing and writes one file. If this fails, so does the run, and
otherwise the file has the bytes of the result, but whether the run succeeds depends on
whether the screen can show the path, as the console always can if no bracket is in it. -/
theorem run_hands_on (screen : Message.Screen) (hargs : Request.read args = .ok (.run i))
    (hquiet : i.verbose = false) (hdocument : i.document? input d = some bytes)
    (htext : Utf8.decode bytes = .ok t)
    (hconvert : convert i.stem i.limit t.unifyNewlines = .ok r) :
    let o := run args input d screen
    (i.output = none → o.exitCode = 0 ∧ o.escaped = none ∧ o.messages = [] ∧ o.disk = d ∧
      (i.form = .markdown → o.output = Utf8.encode (Text.stripSequences r.text) ∧
        (o.output = Utf8.encode r.text ↔ ∀ s, Text.IsSequence s → ¬ s <:+: r.text)) ∧
      (i.form = .report → o.output = Utf8.encode (r.report i.source) ++ [10])) ∧
    ∀ output, i.output = some output →
      let content := match i.form with
        | .markdown => r.text
        | .report => r.report i.source
      let written := d.saveUnder output i.fileName content
      let p := d.outputPath output i.fileName
      o.output = [] ∧ o.disk = written.1 ∧
      (∀ e, written.2 = some e → o.exitCode = 1 ∧ o.escaped = some (.storage (.file e))) ∧
      (written.2 = none → o.disk.readFile p = .ok (Utf8.encode content) ∧
        (o.exitCode = 0 ↔ ∃ line, screen.line (savedMessage p) = .ok line) ∧
        (∀ e, screen.line (savedMessage p) = .error e →
          o.exitCode = 1 ∧ o.escaped = some (.markup e)) ∧
        ('[' ∉ p.write → (run args input d).exitCode = 0)) := by
  have hrun : ∀ s, run args input d s = finish s i r [] d :=
    fun _ => run_quiet hargs hquiet hdocument htext hconvert
  rw [hrun, hrun]
  refine ⟨finish_without_output, fun output houtput => ?_⟩
  have hcontent : (match i.form with
      | .markdown => r.text
      | .report => r.report i.source) = i.form.content i.source r := by
    cases i.form <;> rfl
  rw [hcontent]
  obtain ⟨hsilent, hdisk, hfault, hwritten⟩ := finish_with_output screen houtput
  refine ⟨hsilent, hdisk, hfault, fun hsaved => ?_⟩
  obtain ⟨hread, hcode, hunshown⟩ := hwritten hsaved
  obtain ⟨-, -, -, hconsole⟩ := finish_with_output Message.console houtput
  exact ⟨hread, hcode, hunshown,
    fun hpath => (hconsole hsaved).2.1.mpr (Message.console_savedMessage hpath)⟩

end

/-- A document in a folder, with a colour in it, whose result goes into a new folder. -/
theorem run_hands_on_saved :
    let t : Text := "a[^n] \x1b[0m\r\n".toList
    let bytes := Utf8.encode t
    let args := ["d".toList, "-o".toList, "o/e".toList]
    let d : Disk := ⟨.ofList [(["w".toList], .folder), (["w".toList, "d".toList], .file bytes)],
      ["w".toList]⟩
    let i : Invocation := ⟨"d".toList, .markdown, some "o/e".toList, defaultStem, none, false⟩
    let r := convertValid defaultStem "a[^n] \x1b[0m\n".toList
    let o := run args [] d
    (Request.read args = .ok (.run i) ∧ i.verbose = false ∧ i.document? [] d = some bytes ∧
      Utf8.decode bytes = .ok t ∧ convert i.stem i.limit t.unifyNewlines = .ok r) ∧
    o.output = [] ∧ o.exitCode = 0 ∧
      o.disk.readFile (.ofText "o/e".toList) = .ok (Utf8.encode r.text) := by
  intro t bytes args d i r o
  have hargs : Request.read args = .ok (.run i) := rfl
  have hdocument : i.document? [] d = some bytes := by decide +kernel
  have htext : Utf8.decode bytes = .ok t := Utf8.decode_encode t
  have hconvert : convert i.stem i.limit t.unifyNewlines = .ok r := by
    have hnewline : t.unifyNewlines = "a[^n] \x1b[0m\n".toList := by decide +kernel
    rw [hnewline]
    rfl
  obtain ⟨-, houtput⟩ := run_hands_on Message.console hargs rfl hdocument htext hconvert
  obtain ⟨hsilent, -, -, hwritten⟩ := houtput "o/e".toList rfl
  have hp : d.outputPath "o/e".toList i.fileName = .ofText "o/e".toList := by decide +kernel
  obtain ⟨hread, -, -, hcode⟩ := hwritten (by decide +kernel)
  rw [hp] at hread hcode
  exact ⟨⟨hargs, rfl, hdocument, htext, hconvert⟩, hsilent, hcode (by decide +kernel), hread⟩

/-- A colour that standard output loses and a file keeps, and a path whose bracket makes
the run fail after the file is written. -/
theorem printed_unlike_saved :
    let t : Text := "a\x1b[31mb".toList
    let bytes := Utf8.encode t
    let d := (⟨.empty, []⟩ : Disk)
    let printed := run [] bytes d
    let saved := run ["-o".toList, "e".toList] bytes d
    let misled := run ["-o".toList, "[/e]".toList] bytes d
    (∃ r, Utf8.decode bytes = .ok t ∧ convert defaultStem none t.unifyNewlines = .ok r ∧
      r.text = t) ∧
    printed.exitCode = 0 ∧ printed.output = Utf8.encode "ab".toList ∧
      printed.output ≠ Utf8.encode t ∧
    saved.exitCode = 0 ∧ saved.disk.node? ["e".toList] = some (.file bytes) ∧
    misled.exitCode = 1 ∧ misled.disk.node? ["[".toList, "e]".toList] = some (.file bytes) := by
  intro t bytes d printed saved misled
  have htext : Utf8.decode bytes = .ok t := Utf8.decode_encode t
  have hconvert : convert defaultStem none t.unifyNewlines = .ok (.unchanged t) := by rfl
  have hquiet : ∀ {args output}, Request.read args =
      .ok (.run ⟨standardInput, .markdown, output, defaultStem, none, false⟩) →
      run args bytes d = finish Message.console
        ⟨standardInput, .markdown, output, defaultStem, none, false⟩ (.unchanged t) [] d :=
    fun hargs => run_quiet hargs rfl rfl htext hconvert
  have hprint : printed = _ := hquiet rfl
  have hsave : saved = _ := hquiet rfl
  have hmislead : misled = _ := hquiet rfl
  have hstrip : Text.stripSequences t = "ab".toList := by
    have hcolour : Text.IsSequence "\x1b[31m".toList :=
      ⟨"31".toList, [], 'm', List.all_eq_true.mp rfl, List.all_eq_true.mp rfl, rfl, rfl⟩
    have hbehind := Text.stripSequences_sequence hcolour ['b']
    rw [Text.stripSequences_of_not_mem (t := ['b']) (by decide)] at hbehind
    exact (Text.stripSequences_cons_of_ne (by decide) _).trans (congrArg _ hbehind)
  have hprinted : printed.output = Utf8.encode "ab".toList := by
    rw [hprint, ← hstrip]
    rfl
  refine ⟨⟨_, htext, hconvert, rfl⟩, ?_, hprinted, ?_, ?_⟩
  · rw [hprint]
    rfl
  · rw [hprinted]
    decide
  · rw [hsave, hmislead]
    decide +kernel

end Command

end InlineNotes
