import InlineNotes.Conversion
import InlineNotes.Pipeline.Whitespace
import InlineNotes.Text.Space

/-!
# The stage in a document pipeline

Documents are rendered by a pipeline that works on lists of lines. Its stages run
in the order of falling priority, and deferring footnotes is one of them: after
white space has been put into one form, before blocks of markup are taken out.

The stage hands its own input on when no footnote was deferred. Its settings are
the stem of the new ids and a limit on the length; a limit of zero is none. A document
of white space alone is done with before any stage sees it.
-/
namespace InlineNotes

/-- The lines after the conversion, or nothing when it changed nothing. -/
def convertLines? (stem : Text) (limit : Option Int) (ls : List Text) :
    Except ConversionError (Option (List Text)) :=
  match convert stem limit (Text.unlines ls) with
  | .error e => .error e
  | .ok r => .ok (if r.changed then some (Text.lines r.text) else none)

def convertLines (stem : Text) (limit : Option Int) (ls : List Text) :
    Except ConversionError (List Text) :=
  (convertLines? stem limit ls).map (·.getD ls)

structure Stage where
  name : Text
  priority : Nat
  deriving DecidableEq

/-- Puts a stage after those of its own or a higher priority. -/
def register (stage : Stage) : List Stage → List Stage
  | [] => [stage]
  | s :: ss => if s.priority < stage.priority then stage :: s :: ss else s :: register stage ss

def hostStages : List Stage := [⟨"normalize_whitespace".toList, 30⟩, ⟨"html_block".toList, 20⟩]

def noteStage : Stage := ⟨"inline_footnotes".toList, 28⟩

def pipelineStages : List Stage := register noteStage hostStages

/-- The value of a setting. No setting takes one of another kind than these. -/
inductive SettingValue
  | text (t : Text)
  | number (n : Int)
  | null
  | other
  deriving DecidableEq

structure Settings where
  stem : Text := defaultStem
  limit : Option Int := some 0
  deriving DecidableEq

inductive SettingName
  | stem
  | limit
  deriving DecidableEq

namespace SettingName

def text : SettingName → Text
  | .stem => "prefix".toList
  | .limit => "max_length".toList

def ofText? (t : Text) : Option SettingName := [stem, limit].find? (·.text = t)

end SettingName

inductive SettingError
  | unknownName (name : Text)
  | unusableValue (name : SettingName)
  deriving DecidableEq

def SettingError.message : SettingError → Text
  | .unknownName name => name.quoted
  | .unusableValue name => "unusable value for ".toList ++ name.text.quoted

namespace Settings

def set (s : Settings) : SettingName → SettingValue → Except SettingError Settings
  | .stem, .text stem => .ok { s with stem }
  | .limit, .number n => .ok { s with limit := some n }
  | .limit, .null => .ok { s with limit := none }
  | name, _ => .error (.unusableValue name)

/-- Reads the names of all settings before the first value. -/
def ofList (given : List (Text × SettingValue)) : Except SettingError Settings := do
  let named ← given.mapM fun (name, value) =>
    match SettingName.ofText? name with
    | some known => .ok (known, value)
    | none => .error (.unknownName name)
  named.foldlM (fun s (name, value) => s.set name value) {}

def toList (s : Settings) : List (Text × SettingValue) :=
  [(SettingName.stem.text, .text s.stem), (SettingName.limit.text, s.limit.elim .null .number)]

/-- The limit that is in force. -/
def effectiveLimit (s : Settings) : Option Int := s.limit.filter (· ≠ 0)

/-- The stage alone, on the lines of a document. -/
def runStage (s : Settings) (ls : List Text) : Except ConversionError (Option (List Text)) :=
  convertLines? s.stem s.effectiveLimit ls

/-- The pipeline from its start up to the stage, on the text of a document. -/
def runDocument (s : Settings) (t : Text) : Except ConversionError (List Text) :=
  convertLines s.stem s.effectiveLimit (Text.lines (normalizeWhitespace t))

/-- What the host does with a document: nothing with a blank one, of which it makes an
empty page, and otherwise the pipeline up to the stage. -/
def process (s : Settings) (t : Text) : Except ConversionError (List Text) :=
  if Text.trim t = [] then .ok [] else s.runDocument t

end Settings

end InlineNotes
