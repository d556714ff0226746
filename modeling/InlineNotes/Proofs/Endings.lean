import InlineNotes.Proofs.CommandOutput

/-!
# How a run ends

A run ends in one of four ways: it succeeds, it finds a mistake in its arguments, it
reports in one line why there is no result, or a fault breaks it off that no line reports.
Which of them it is can be said without running it. `Reports` lists what is reported: a
source that is not there or is not UTF-8, and a document that cannot be converted. So
all errors of a conversion are reported. `Leaks` lists the faults that are not, and there
is one for each step that nothing guards: looking at a path, reading standard input,
finding and writing the output, and showing a message.

Both lists are complete (`run_ends`), whatever the screen can show. In particular it is
not true that all faults of reading and writing are reported (`faults_escape`).
-/
namespace InlineNotes

namespace Command

/-- The run has a document, and this is its text. -/
structure Reads (args : List Text) (input : Bytes) (d : Disk) (i : Invocation) (t : Text) :
    Prop where
  request : Request.read args = .ok (.run i)
  document : ∃ bytes u, i.document? input d = some bytes ∧ Utf8.decode bytes = .ok u ∧
    t = u.unifyNewlines

/-- The run has a document, can announce what it is going to do, and converts it. -/
def Converts (args : List Text) (input : Bytes) (d : Disk) (i : Invocation) (r : Conversion)
    (screen : Message.Screen := Message.console) : Prop :=
  ∃ t before, Reads args input d i t ∧ announcement screen i = .ok before ∧
    convert i.stem i.limit t = .ok r

/-- The run has a result and has said all that it says about it. -/
structure HandsOn (args : List Text) (input : Bytes) (d : Disk) (i : Invocation)
    (r : Conversion) (screen : Message.Screen) : Prop where
  converts : Converts args input d i r screen
  shown : (screen.lines (outcomeMessages i r)).2 = none

/-- What a run puts into an output. -/
def Invocation.save (i : Invocation) (r : Conversion) (output : Text) (d : Disk) :
    Disk × Option FileError :=
  d.saveUnder output i.fileName (i.form.content i.source r)

/-- What a run reports. -/
inductive Reports (args : List Text) (input : Bytes) (d : Disk)
    (screen : Message.Screen) : Text → Prop
  | noFile {i : Invocation} {p : Path} :
      Request.read args = .ok (.run i) → i.sourcePath? = some p → d.locate p ≠ .error .tooLong →
      (∀ content, d.find? p ≠ some (.file content)) →
      Reports args input d screen ("Source must be an existing file: ".toList ++ i.source)
  | notUtf8 {i : Invocation} {p : Path} {content : Bytes} {fault : Utf8.Fault} :
      Request.read args = .ok (.run i) → i.sourcePath? = some p →
      d.find? p = some (.file content) → Utf8.decode content = .error fault →
      Reports args input d screen
        ("Could not read ".toList ++ i.source ++ ':' :: ' ' :: fault.message)
  | notConverted {i : Invocation} {t before : Text} {e : ConversionError} :
      Reads args input d i t → announcement screen i = .ok before →
      convert i.stem i.limit t = .error e → Reports args input d screen e.message

/-- What breaks a run off: the steps that nothing guards, with the faults they let through. -/
inductive Leaks (args : List Text) (input : Bytes) (d : Disk)
    (screen : Message.Screen) : Fault → Prop
  | outputPath {output : Text} :
      Request.read args = .error (.nulInOutput output) →
      Leaks args input d screen (.storage (.file ⟨.nulCharacter, .ofText output⟩))
  | sourcePath {i : Invocation} {p : Path} :
      Request.read args = .ok (.run i) → i.sourcePath? = some p →
      d.locate p = .error .tooLong → Leaks args input d screen (.storage (.file ⟨.tooLong, p⟩))
  | input {i : Invocation} {fault : Utf8.Fault} :
      Request.read args = .ok (.run i) → i.sourcePath? = none →
      Utf8.decode input = .error fault → Leaks args input d screen (.storage (.encoding fault))
  | announcement {i : Invocation} {t : Text} {e : Message.MarkupError} :
      Reads args input d i t → announcement screen i = .error e →
      Leaks args input d screen (.markup e)
  | summary {i : Invocation} {r : Conversion} {e : Message.MarkupError} :
      Converts args input d i r screen → (screen.lines (outcomeMessages i r)).2 = some e →
      Leaks args input d screen (.markup e)
  | saving {i : Invocation} {r : Conversion} {output : Text} {e : FileError} :
      HandsOn args input d i r screen → i.output = some output → (i.save r output d).2 = some e →
      Leaks args input d screen (.storage (.file e))
  | savedMessage {i : Invocation} {r : Conversion} {output : Text} {e : Message.MarkupError} :
      HandsOn args input d i r screen → i.output = some output → (i.save r output d).2 = none →
      screen.line (savedMessage (d.outputPath output i.fileName)) = .error e →
      Leaks args input d screen (.markup e)

/-- The run succeeds: with help, with a result that is printed, or with one that is saved. -/
inductive Succeeds (args : List Text) (input : Bytes) (d : Disk)
    (screen : Message.Screen) : Prop
  | help : Request.read args = .ok .help → Succeeds args input d screen
  | printed {i : Invocation} {r : Conversion} :
      HandsOn args input d i r screen → i.output = none → Succeeds args input d screen
  | saved {i : Invocation} {r : Conversion} {output line : Text} :
      HandsOn args input d i r screen → i.output = some output → (i.save r output d).2 = none →
      screen.line (savedMessage (d.outputPath output i.fileName)) = .ok line →
      Succeeds args input d screen

/-- The last of the messages is an error in a line of its own. -/
def EndsInError (message messages : Text) : Prop :=
  ∃ before : Text, (before = [] ∨ before.getLast? = some '\n') ∧
    messages = before ++ ("Error: ".toList ++ Text.stripSequences message ++ ['\n'])

section
variable {screen : Message.Screen} {args : List Text} {input : Bytes} {d : Disk}
  {i : Invocation} {t : Text} {r : Conversion}

theorem Reads.run_eq (h : Reads args input d i t) :
    run args input d screen = runOn screen i t d := by
  obtain ⟨hargs, bytes, u, hdocument, htext, rfl⟩ := h
  exact run_of_document hargs hdocument htext

theorem Reads.run_of_announcement {e : Message.MarkupError} (h : Reads args input d i t)
    (he : announcement screen i = .error e) :
    run args input d screen = .brokenOff [] (.markup e) d := by
  rw [h.run_eq, runOn, he]

theorem Reads.run_of_refusal {before : Text} {e : ConversionError} (h : Reads args input d i t)
    (hbefore : announcement screen i = .ok before) (he : convert i.stem i.limit t = .error e) :
    run args input d screen = .refused before e.message d := by
  rw [h.run_eq, runOn, hbefore]
  dsimp only
  rw [he]

theorem Converts.run_eq (h : Converts args input d i r screen) :
    ∃ messages, run args input d screen =
      (screen.lines (outcomeMessages i r)).2.elim (finish screen i r messages d)
        fun e => .brokenOff messages (.markup e) d := by
  obtain ⟨t, before, hread, hbefore, hconvert⟩ := h
  refine ⟨before ++ (screen.lines (outcomeMessages i r)).1, ?_⟩
  rw [hread.run_eq, runOn, hbefore]
  dsimp only
  rw [hconvert]
  dsimp only
  rcases screen.lines (outcomeMessages i r) with ⟨shown, _ | e⟩
  · rfl
  · rfl

theorem Converts.run_of_summary {e : Message.MarkupError} (h : Converts args input d i r screen)
    (he : (screen.lines (outcomeMessages i r)).2 = some e) :
    ∃ messages, run args input d screen = .brokenOff messages (.markup e) d := by
  obtain ⟨messages, hrun⟩ := h.run_eq
  rw [he] at hrun
  exact ⟨messages, hrun⟩

theorem HandsOn.request (h : HandsOn args input d i r screen) :
    Request.read args = .ok (.run i) := by
  obtain ⟨t, before, hread, -⟩ := h.converts
  exact hread.request

theorem HandsOn.run_eq (h : HandsOn args input d i r screen) :
    ∃ messages, run args input d screen = finish screen i r messages d := by
  obtain ⟨messages, hrun⟩ := h.converts.run_eq
  rw [h.shown] at hrun
  exact ⟨messages, hrun⟩

theorem HandsOn.run_of_none (h : HandsOn args input d i r screen) (hnone : i.output = none) :
    ∃ messages output, run args input d screen = .printed messages output d := by
  obtain ⟨messages, hrun⟩ := h.run_eq
  rw [finish, hnone] at hrun
  exact ⟨_, _, hrun⟩

theorem HandsOn.run_of_fault {output : Text} {e : FileError} (h : HandsOn args input d i r screen)
    (houtput : i.output = some output) (he : (i.save r output d).2 = some e) :
    ∃ messages, run args input d screen =
      .brokenOff messages (.storage (.file e)) (i.save r output d).1 := by
  obtain ⟨messages, hrun⟩ := h.run_eq
  rw [finish, houtput] at hrun
  exact ⟨messages, hrun.trans (deliver_of_fault (Prod.ext rfl he) messages)⟩

theorem HandsOn.run_of_saved {output : Text} (h : HandsOn args input d i r screen)
    (houtput : i.output = some output) (hsaved : (i.save r output d).2 = none) :
    ∃ messages, run args input d screen =
      .saved screen messages (d.outputPath output i.fileName) (i.save r output d).1 := by
  obtain ⟨messages, hrun⟩ := h.run_eq
  rw [finish, houtput] at hrun
  exact ⟨messages, hrun.trans (deliver_of_saved (Prod.ext rfl hsaved) messages)⟩

/-- A document that can be read is converted to one of three ends. -/
theorem Reads.cases (h : Reads args input d i t) :
    (∃ fault, Leaks args input d screen fault) ∨ (∃ m, Reports args input d screen m) ∨
      Succeeds args input d screen := by
  cases hbefore : announcement screen i with
  | error e => exact Or.inl ⟨_, .announcement h hbefore⟩
  | ok before =>
  cases hconvert : convert i.stem i.limit t with
  | error e => exact Or.inr (Or.inl ⟨_, .notConverted h hbefore hconvert⟩)
  | ok r =>
  have hconverts : Converts args input d i r screen := ⟨t, before, h, hbefore, hconvert⟩
  cases hshown : (screen.lines (outcomeMessages i r)).2 with
  | some e => exact Or.inl ⟨_, .summary hconverts hshown⟩
  | none =>
  have hhands : HandsOn args input d i r screen := ⟨hconverts, hshown⟩
  cases houtput : i.output with
  | none => exact Or.inr (Or.inr (.printed hhands houtput))
  | some output =>
  cases hsave : (i.save r output d).2 with
  | some e => exact Or.inl ⟨_, .saving hhands houtput hsave⟩
  | none =>
  cases hline : screen.line (savedMessage (d.outputPath output i.fileName)) with
  | error e => exact Or.inl ⟨_, .savedMessage hhands houtput hsave hline⟩
  | ok line => exact Or.inr (Or.inr (.saved hhands houtput hsave hline))

theorem document?_of_sourcePath?_eq_none (h : i.sourcePath? = none) :
    i.document? input d = some input := by
  rw [Invocation.document?, h]

theorem document?_of_find? {p : Path} {content : Bytes} (h : i.sourcePath? = some p)
    (hfile : d.find? p = some (.file content)) : i.document? input d = some content := by
  rw [Invocation.document?, h]
  dsimp only
  rw [hfile]

/-- A run has one of four ends, whatever the arguments, the input and the disk are. -/
theorem run_cases (args : List Text) (input : Bytes) (d : Disk) (screen : Message.Screen) :
    (∃ e, Request.read args = .error (.usage e)) ∨ (∃ fault, Leaks args input d screen fault) ∨
      (∃ m, Reports args input d screen m) ∨ Succeeds args input d screen := by
  cases hargs : Request.read args with
  | error refusal =>
    cases refusal with
    | usage e => exact Or.inl ⟨e, rfl⟩
    | nulInOutput output => exact Or.inr (Or.inl ⟨_, .outputPath hargs⟩)
  | ok request =>
  refine Or.inr ?_
  cases request with
  | help => exact Or.inr (Or.inr (.help hargs))
  | run i =>
  cases hsource : i.sourcePath? with
  | none =>
    cases htext : Utf8.decode input with
    | error fault => exact Or.inl ⟨_, .input hargs hsource htext⟩
    | ok u =>
      have hdocument : i.document? input d = some input :=
        document?_of_sourcePath?_eq_none hsource
      exact Reads.cases ⟨hargs, input, u, hdocument, htext, rfl⟩
  | some p =>
    by_cases hlong : d.locate p = .error .tooLong
    · exact Or.inl ⟨_, .sourcePath hargs hsource hlong⟩
    by_cases hfile : ∃ content, d.find? p = some (.file content)
    · obtain ⟨content, hfile⟩ := hfile
      cases htext : Utf8.decode content with
      | error fault => exact Or.inr (Or.inl ⟨_, .notUtf8 hargs hsource hfile htext⟩)
      | ok u => exact Reads.cases ⟨hargs, content, u, document?_of_find? hsource hfile, htext, rfl⟩
    · exact Or.inr (Or.inl ⟨_, .noFile hargs hsource hlong (not_exists.mp hfile)⟩)

theorem readFile_of_tooLong {p : Path} (h : d.locate p = .error .tooLong) (name : Text) :
    readFile name p d = .error (.brokenOff [] (.storage (.file ⟨.tooLong, p⟩)) d) := by
  rw [readFile, Disk.look, h]
  rfl

theorem readFile_of_noFile {p : Path} (h : d.locate p ≠ .error .tooLong)
    (hfile : ∀ content, d.find? p ≠ some (.file content)) (name : Text) :
    readFile name p d =
      .error (.refused [] ("Source must be an existing file: ".toList ++ name) d) := by
  rw [readFile, Disk.look_of_locate_ne_tooLong h]
  split
  · next he => cases he
  · next content he => exact absurd (Except.ok.inj he) (hfile content)
  · rfl

theorem readFile_of_notUtf8 {p : Path} {content : Bytes} {fault : Utf8.Fault}
    (h : d.find? p = some (.file content)) (he : Utf8.decode content = .error fault)
    (name : Text) :
    readFile name p d =
      .error (.refused [] ("Could not read ".toList ++ name ++ ':' :: ' ' :: fault.message) d) := by
  rw [readFile, Disk.look_of_find? h]
  dsimp only
  rw [Disk.loadDocument_of_find? h, decodeDocument, he]
  rfl

/-- A source that cannot be read is the end of the run. -/
theorem run_of_readFile {p : Path} {o : Outcome} (hargs : Request.read args = .ok (.run i))
    (hsource : i.sourcePath? = some p) (h : readFile i.source p d = .error o) :
    run args input d screen = o := by
  rw [run_of_request hargs, runInvocation, readSource, hsource]
  dsimp only
  rw [h]

theorem run_of_input_fault {fault : Utf8.Fault} (hargs : Request.read args = .ok (.run i))
    (hsource : i.sourcePath? = none) (h : Utf8.decode input = .error fault) :
    run args input d screen = .brokenOff [] (.storage (.encoding fault)) d := by
  have hread : readSource i input d = readInput input d := by rw [readSource, hsource]
  rw [run_of_request hargs, runInvocation, hread, readInput, decodeDocument, h]
  rfl

theorem run_of_usage {e : UsageError} (h : Request.read args = .error (.usage e)) :
    run args input d screen = .usageError e d := by
  rw [run, h]

/-- A run that is broken off leaves the disk as it is, unless it has come to saving its
result. After the file is there, only the line that says so can still break it off. -/
theorem run_of_leaks {fault : Fault} (h : Leaks args input d screen fault) :
    ∃ messages d', run args input d screen = .brokenOff messages fault d' ∧
      (d' = d ∨ ∃ i r output, HandsOn args input d i r screen ∧ i.output = some output ∧
        d' = (i.save r output d).1 ∧ ((i.save r output d).2 = none →
          ∃ e, screen.line (savedMessage (d.outputPath output i.fileName)) = .error e)) := by
  cases h with
  | outputPath hargs => exact ⟨[], d, by rw [run, hargs], Or.inl rfl⟩
  | sourcePath hargs hsource hlong =>
    exact ⟨[], d, run_of_readFile hargs hsource (readFile_of_tooLong hlong _), Or.inl rfl⟩
  | input hargs hsource htext => exact ⟨[], d, run_of_input_fault hargs hsource htext, Or.inl rfl⟩
  | announcement hread he => exact ⟨[], d, hread.run_of_announcement he, Or.inl rfl⟩
  | summary hconverts he =>
    obtain ⟨messages, hrun⟩ := hconverts.run_of_summary he
    exact ⟨messages, d, hrun, Or.inl rfl⟩
  | saving hhands houtput he =>
    obtain ⟨messages, hrun⟩ := hhands.run_of_fault houtput he
    refine ⟨messages, _, hrun, Or.inr ⟨_, _, _, hhands, houtput, rfl, fun hnone => ?_⟩⟩
    rw [he] at hnone
    cases hnone
  | savedMessage hhands houtput hsave he =>
    obtain ⟨messages, hrun⟩ := hhands.run_of_saved houtput hsave
    rw [Outcome.saved, he] at hrun
    exact ⟨messages, _, hrun, Or.inr ⟨_, _, _, hhands, houtput, rfl, fun _ => ⟨_, he⟩⟩⟩

theorem getLast?_announcement {before : Text} (h : announcement screen i = .ok before) :
    before = [] ∨ before.getLast? = some '\n' := by
  unfold announcement at h
  split at h
  · exact Or.inr (screen.getLast?_box h)
  · cases h
    exact Or.inl rfl

/-- What a run reports comes after whole lines at most. -/
theorem run_of_reports {m : Text} (h : Reports args input d screen m) :
    ∃ before : Text, (before = [] ∨ before.getLast? = some '\n') ∧
      run args input d screen = .refused before m d := by
  cases h with
  | noFile hargs hsource hshort hfile =>
    exact ⟨[], Or.inl rfl, run_of_readFile hargs hsource (readFile_of_noFile hshort hfile _)⟩
  | notUtf8 hargs hsource hfile he =>
    exact ⟨[], Or.inl rfl, run_of_readFile hargs hsource (readFile_of_notUtf8 hfile he _)⟩
  | notConverted hread hbefore he =>
    exact ⟨_, getLast?_announcement hbefore, hread.run_of_refusal hbefore he⟩

end

/-- An error is stripped without its label and without the end of its line. -/
theorem stripSequences_error (message : Text) :
    Text.stripSequences ("Error: ".toList ++ message ++ ['\n']) =
      "Error: ".toList ++ Text.stripSequences message ++ ['\n'] := by
  rw [List.append_assoc, Text.stripSequences_append_of_not_mem (by decide),
    Text.stripSequences_append_newline, Text.stripSequences, List.append_assoc]

theorem endsInError_refused {before : Text} (h : before = [] ∨ before.getLast? = some '\n')
    (message : Text) (d : Disk) :
    EndsInError message (Outcome.refused before message d).messages :=
  ⟨before, h, by rw [Outcome.refused, stripSequences_error, List.append_assoc]⟩

theorem endsInError_usageError (e : UsageError) (d : Disk) :
    EndsInError e.message (Outcome.usageError e d).messages := by
  let before := if e.isOneLine then []
    else UsageError.synopsis ++ "Try 'main --help' for help.\n\n".toList
  have hescape : '\x1b' ∉ before := by
    dsimp only [before]
    split <;> decide
  have hlast : before = [] ∨ before.getLast? = some '\n' := by
    dsimp only [before]
    split
    · exact Or.inl rfl
    · exact Or.inr (by decide)
  have hwrite : e.write = before ++ ("Error: ".toList ++ e.message ++ ['\n']) := by
    simp only [UsageError.write, before, List.append_assoc]
  refine ⟨before, hlast, ?_⟩
  rw [Outcome.usageError, hwrite, Text.stripSequences_append_of_not_mem hescape,
    stripSequences_error]

section
variable {screen : Message.Screen} {args : List Text} {input : Bytes} {d : Disk}

theorem outcome_of_usage {e : UsageError} (h : Request.read args = .error (.usage e)) :
    let o := run args input d screen
    o.exitCode = 2 ∧ o.escaped = none ∧ EndsInError e.message o.messages := by
  rw [run_of_usage h]
  exact ⟨rfl, rfl, endsInError_usageError e d⟩

theorem outcome_of_leaks {fault : Fault} (h : Leaks args input d screen fault) :
    let o := run args input d screen
    o.exitCode = 1 ∧ o.escaped = some fault := by
  obtain ⟨messages, d', hrun, -⟩ := run_of_leaks h
  rw [hrun]
  exact ⟨rfl, rfl⟩

theorem outcome_of_reports {m : Text} (h : Reports args input d screen m) :
    let o := run args input d screen
    o.exitCode = 1 ∧ o.escaped = none ∧ EndsInError m o.messages := by
  obtain ⟨before, hbefore, hrun⟩ := run_of_reports h
  rw [hrun]
  exact ⟨rfl, rfl, endsInError_refused hbefore m d⟩

theorem outcome_of_succeeds (h : Succeeds args input d screen) :
    let o := run args input d screen
    o.exitCode = 0 ∧ o.escaped = none := by
  cases h with
  | help hargs =>
    rw [run, hargs]
    exact ⟨rfl, rfl⟩
  | printed hhands hnone =>
    obtain ⟨messages, output, hrun⟩ := hhands.run_of_none hnone
    rw [hrun]
    exact ⟨rfl, rfl⟩
  | saved hhands houtput hsave hline =>
    obtain ⟨messages, hrun⟩ := hhands.run_of_saved houtput hsave
    rw [hrun, Outcome.saved, hline]
    exact ⟨rfl, rfl⟩

theorem succeeds_of_exitCode (h : (run args input d screen).exitCode = 0) :
    Succeeds args input d screen := by
  rcases run_cases args input d screen with ⟨e, he⟩ | ⟨fault, hfault⟩ | ⟨m, hm⟩ | hsucceeds
  · exact absurd h (by simp [outcome_of_usage he])
  · exact absurd h (by simp [outcome_of_leaks hfault])
  · exact absurd h (by simp [outcome_of_reports hm])
  · exact hsucceeds

theorem leaks_of_escaped (h : (run args input d screen).escaped ≠ none) :
    ∃ fault, Leaks args input d screen fault := by
  rcases run_cases args input d screen with ⟨e, he⟩ | hleaks | ⟨m, hm⟩ | hsucceeds
  · exact absurd (outcome_of_usage he).2.1 h
  · exact hleaks
  · exact absurd (outcome_of_reports hm).2.1 h
  · exact absurd (outcome_of_succeeds hsucceeds).2 h

theorem reports_of_exitCode (h : (run args input d screen).exitCode = 1)
    (hnone : (run args input d screen).escaped = none) : ∃ m, Reports args input d screen m := by
  rcases run_cases args input d screen with ⟨e, he⟩ | ⟨fault, hfault⟩ | hreports | hsucceeds
  · exact absurd h (by simp [outcome_of_usage he])
  · exact absurd hnone (by simp [outcome_of_leaks hfault])
  · exact hreports
  · exact absurd h (by simp [outcome_of_succeeds hsucceeds])

theorem usage_of_exitCode (h : (run args input d screen).exitCode = 2) :
    ∃ e, Request.read args = .error (.usage e) := by
  rcases run_cases args input d screen with husage | ⟨fault, hfault⟩ | ⟨m, hm⟩ | hsucceeds
  · exact husage
  · exact absurd h (by simp [outcome_of_leaks hfault])
  · exact absurd h (by simp [outcome_of_reports hm])
  · exact absurd h (by simp [outcome_of_succeeds hsucceeds])

theorem exitCode_le_two (args : List Text) (input : Bytes) (d : Disk)
    (screen : Message.Screen) :
    let o := run args input d screen
    o.exitCode = 0 ∨ o.exitCode = 1 ∨ o.exitCode = 2 := by
  rcases run_cases args input d screen with ⟨e, he⟩ | ⟨fault, hfault⟩ | ⟨m, hm⟩ | hsucceeds
  · exact Or.inr (Or.inr (outcome_of_usage he).1)
  · exact Or.inr (Or.inl (outcome_of_leaks hfault).1)
  · exact Or.inr (Or.inl (outcome_of_reports hm).1)
  · exact Or.inl (outcome_of_succeeds hsucceeds).1

end

/-- What a run ends with says how it ended. A mistake in the arguments and every reported
error is named in the last line of the messages, and otherwise the run succeeds, unless it is
broken off by one of the faults in `Leaks`. -/
theorem run_ends (args : List Text) (input : Bytes) (d : Disk) (screen : Message.Screen) :
    let o := run args input d screen
    (∀ fault, o.escaped = some fault ↔ Leaks args input d screen fault) ∧
    (o.escaped ≠ none → o.exitCode = 1) ∧
    (o.exitCode = 0 ↔ Succeeds args input d screen) ∧
    (o.exitCode = 1 ∧ o.escaped = none ↔ ∃ m, Reports args input d screen m) ∧
    (o.exitCode = 2 ↔ ∃ e, Request.read args = .error (.usage e)) ∧
    (o.exitCode = 0 ∨ o.exitCode = 1 ∨ o.exitCode = 2) ∧
    (∀ m, Reports args input d screen m → EndsInError m o.messages) ∧
    (∀ e, Request.read args = .error (.usage e) → EndsInError e.message o.messages) := by
  refine ⟨fun fault => ⟨fun h => ?_, fun h => (outcome_of_leaks h).2⟩, fun h => ?_,
    ⟨succeeds_of_exitCode, fun h => (outcome_of_succeeds h).1⟩,
    ⟨fun h => reports_of_exitCode h.1 h.2, fun ⟨m, h⟩ => ?_⟩,
    ⟨usage_of_exitCode, fun ⟨e, h⟩ => (outcome_of_usage h).1⟩, exitCode_le_two args input d screen,
    fun m h => (outcome_of_reports h).2.2, fun e h => (outcome_of_usage h).2.2⟩
  · obtain ⟨other, hleaks⟩ := leaks_of_escaped (h ▸ Option.some_ne_none fault)
    have hother : some other = some fault := (outcome_of_leaks hleaks).2.symm.trans h
    rwa [Option.some.inj hother] at hleaks
  · obtain ⟨fault, hleaks⟩ := leaks_of_escaped h
    exact (outcome_of_leaks hleaks).1
  · exact ⟨(outcome_of_reports h).1, (outcome_of_reports h).2.1⟩

/-- A fault on standard input, a source that is not there, and an option without its
value. -/
theorem run_ends_reported :
    let d : Disk := ⟨.empty, []⟩
    let fault : Fault := .storage (.encoding ⟨0, 0xff, 1, .invalidStart⟩)
    let m := "Source must be an existing file: a".toList
    let e := UsageError.missingValue "-o".toList
    let undecodable := run [] [0xff] d
    let missing := run ["a".toList] [] d
    let mistaken := run ["-o".toList] [] d
    (Leaks [] [0xff] d Message.console fault ∧ undecodable.escaped = some fault ∧
      undecodable.exitCode = 1) ∧
    (Reports ["a".toList] [] d Message.console m ∧ missing.exitCode = 1 ∧ missing.escaped = none ∧
      EndsInError m missing.messages) ∧
    (Request.read ["-o".toList] = .error (.usage e) ∧ mistaken.exitCode = 2 ∧
      EndsInError e.message mistaken.messages) := by
  intro d fault m e undecodable missing mistaken
  obtain ⟨hleaks, hcode, -⟩ := run_ends [] [0xff] d Message.console
  obtain ⟨-, -, -, hreports, -, -, hlast, -⟩ := run_ends ["a".toList] [] d Message.console
  obtain ⟨-, -, -, -, husage, -, -, hline⟩ := run_ends ["-o".toList] [] d Message.console
  have hleak : Leaks [] [0xff] d Message.console fault :=
    .input (i := ⟨standardInput, .markdown, none, defaultStem, none, false⟩) rfl rfl rfl
  have hescaped : undecodable.escaped = some fault := (hleaks fault).mpr hleak
  have hlocate : d.locate (.ofText "a".toList) = .ok ["a".toList] := rfl
  have hfind : d.find? (.ofText "a".toList) = none := rfl
  have hreport : Reports ["a".toList] [] d Message.console m := by
    refine .noFile (i := ⟨"a".toList, .markdown, none, defaultStem, none, false⟩)
      (p := .ofText "a".toList) rfl rfl ?_ fun content => ?_
    · rw [hlocate]
      exact nofun
    · rw [hfind]
      exact nofun
  have hmissing := hreports.mpr ⟨m, hreport⟩
  have hread : Request.read ["-o".toList] = .error (.usage e) := rfl
  exact ⟨⟨hleak, hescaped, hcode (by rw [hescaped]; exact Option.some_ne_none _)⟩,
    ⟨hreport, hmissing.1, hmissing.2, hlast m hreport⟩,
    ⟨hread, husage.mpr ⟨e, hread⟩, hline e hread⟩⟩

/-- Bytes that are no UTF-8, a file where a folder has to be, and a folder where a file
has to be: none of them is reported. -/
theorem faults_escape :
    let d : Disk := ⟨.ofList [(["f".toList], .file []), (["g".toList], .folder),
      (["g".toList, "stdin.md".toList], .folder)], []⟩
    let undecodable := run [] [0xff] d
    let blocked := run ["-o".toList, "f/e".toList] [] d
    let blockedReport := run ["-m".toList, "report".toList, "-o".toList, "f/".toList] [] d
    let taken := run ["-o".toList, "g".toList] [] d
    (∀ message, ¬ EndsInError message []) ∧
    (undecodable.exitCode = 1 ∧ undecodable.messages = [] ∧
      undecodable.escaped = some (.storage (.encoding ⟨0, 0xff, 1, .invalidStart⟩))) ∧
    (blocked.exitCode = 1 ∧ blocked.messages = [] ∧
      blocked.escaped = some (.storage (.file ⟨.occupied, .ofText "f".toList⟩))) ∧
    (blockedReport.exitCode = 1 ∧ blockedReport.messages = [] ∧
      blockedReport.escaped = some (.storage (.file ⟨.occupied, .ofText "f".toList⟩))) ∧
    (taken.exitCode = 1 ∧ taken.messages = [] ∧
      taken.escaped = some (.storage (.file ⟨.isFolder, .ofText "g/stdin.md".toList⟩))) := by
  refine ⟨?_, by decide +kernel, by decide +kernel, by decide +kernel, by decide +kernel⟩
  rintro message ⟨before, -, h⟩
  simp at h

end Command

end InlineNotes
