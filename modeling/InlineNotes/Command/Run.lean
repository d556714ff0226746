import InlineNotes.Command.Progress
import InlineNotes.Storage.Document
import InlineNotes.Text.Terminal

/-!
# Runs of the command

A run is a function of its arguments, its standard input, the disk, and the screen that
shows its messages. It reads one document, converts it, and hands the result on: to
standard output, or into one file. Mistakes in the arguments, a source that cannot be
read and a document that cannot be converted are reported. Other faults are not reported
but break the run off, and `Outcome.escaped` holds them: bytes on standard input that are
not UTF-8, a path that is too long or a file that cannot be written, and a message that
the screen cannot show, because its markup or a colour in it is in error. The last may
come when a file has been written already.

Standard input is what the command reads when its tests call it: strict UTF-8 with its
newlines unified, and under the name `main`, which the synopsis shows. A process of its own
may keep carriage returns and, in some locales, take bytes that are not UTF-8.
-/
namespace InlineNotes.Command

inductive Fault
  | storage (fault : StorageFault)
  | markup (error : Message.MarkupError)
  deriving DecidableEq

def Fault.message : Fault → Text
  | .storage fault => fault.message
  | .markup error => error.message

structure Outcome where
  exitCode : Nat
  output : Bytes
  messages : Text
  disk : Disk
  escaped : Option Fault

namespace Outcome

def usageError (e : UsageError) (d : Disk) : Outcome :=
  ⟨2, [], Text.stripSequences e.write, d, none⟩

/-- Reports an error after the messages so far. -/
def refused (messages message : Text) (d : Disk) : Outcome :=
  ⟨1, [], messages ++ Text.stripSequences ("Error: ".toList ++ message ++ ['\n']), d, none⟩

def brokenOff (messages : Text) (fault : Fault) (d : Disk) : Outcome :=
  ⟨1, [], messages, d, some fault⟩

def printed (messages output : Text) (d : Disk) : Outcome :=
  ⟨0, Utf8.encode (Text.stripSequences output), messages, d, none⟩

/-- Says where the result is, which is there whether or not it can be said. -/
def saved (screen : Message.Screen) (messages : Text) (p : Path) (d : Disk) : Outcome :=
  match screen.line (savedMessage p) with
  | .error e => .brokenOff messages (.markup e) d
  | .ok line => ⟨0, [], messages ++ line, d, none⟩

end Outcome

/-- The file that a document comes from, if it does not come from standard input. -/
def Invocation.sourcePath? (i : Invocation) : Option Path :=
  if i.source = standardInput then none else some (.ofText i.source)

def Form.ending : Form → Text
  | .markdown => ".md".toList
  | .report => "_footnotes.json".toList

/-- The name of the file that takes the result in a folder. -/
def Invocation.fileName (i : Invocation) : Text :=
  i.sourcePath?.elim "stdin".toList Path.stem ++ i.form.ending

def readInput (input : Bytes) (d : Disk) : Except Outcome Text :=
  (decodeDocument input).mapError fun fault => .brokenOff [] (.storage (.encoding fault)) d

/-- Reads a file under the name by which the arguments call it. -/
def readFile (name : Text) (p : Path) (d : Disk) : Except Outcome Text :=
  match d.look p with
  | .error e => .error (.brokenOff [] (.storage (.file e)) d)
  | .ok (some (.file _)) =>
    (d.loadDocument p).mapError fun fault =>
      .refused [] ("Could not read ".toList ++ name ++ ':' :: ' ' :: fault.message) d
  | .ok _ => .error (.refused [] ("Source must be an existing file: ".toList ++ name) d)

def readSource (i : Invocation) (input : Bytes) (d : Disk) : Except Outcome Text :=
  match i.sourcePath? with
  | none => readInput input d
  | some p => readFile i.source p d

def Form.content (source : Text) (r : Conversion) : Form → Text
  | .markdown => r.text
  | .report => r.report source

/-- A report that goes to standard output ends its last line. -/
def Form.terminator : Form → Text
  | .markdown => []
  | .report => ['\n']

section
variable (screen : Message.Screen)

def deliver (messages : Text) (content : Text) (fileName output : Text) (d : Disk) : Outcome :=
  match d.resolveOutput output fileName with
  | (d, .error e) => .brokenOff messages (.storage (.file e)) d
  | (d, .ok p) =>
    match d.saveDocument p content with
    | (d, some e) => .brokenOff messages (.storage (.file e)) d
    | (d, none) => .saved screen messages p d

/-- Hands the result of a conversion on. -/
def finish (i : Invocation) (r : Conversion) (messages : Text) (d : Disk) : Outcome :=
  let content := i.form.content i.source r
  match i.output with
  | none => .printed messages (content ++ i.form.terminator) d
  | some output => deliver screen messages content i.fileName output d

/-- Converts a document that has been read. -/
def runOn (i : Invocation) (t : Text) (d : Disk) : Outcome :=
  match announcement screen i with
  | .error e => .brokenOff [] (.markup e) d
  | .ok before =>
    match convert i.stem i.limit t with
    | .error e => .refused before e.message d
    | .ok r =>
      match screen.lines (outcomeMessages i r) with
      | (shown, some e) => .brokenOff (before ++ shown) (.markup e) d
      | (shown, none) => finish screen i r (before ++ shown) d

def runInvocation (i : Invocation) (input : Bytes) (d : Disk) : Outcome :=
  match readSource i input d with
  | .error o => o
  | .ok t => runOn screen i t d

end

/-- Messages go to the console, unless another screen is given. -/
def run (args : List Text) (input : Bytes) (d : Disk)
    (screen : Message.Screen := Message.console) : Outcome :=
  match Request.read args with
  | .error (.usage e) => .usageError e d
  | .error (.nulInOutput output) =>
    .brokenOff [] (.storage (.file ⟨.nulCharacter, .ofText output⟩)) d
  | .ok .help => .printed [] help d
  | .ok (.run i) => runInvocation screen i input d

end InlineNotes.Command
