import InlineNotes.Command.Usage
import InlineNotes.Conversion
import InlineNotes.Text.Numeral
import InlineNotes.Text.Similarity

/-!
# Arguments

Options and sources may stand in any order. A long option takes its value after
`=` or from the next argument; a letter takes what is left of its own argument, or
the next one. The next argument is taken whatever it looks like. After `--` every
argument is a source, and of a repeated option the last value counts.

The first argument that cannot be read is reported before anything else. A
request for help is granted next, whatever the values are. Then values are
checked, in the order in which their options first appear, and last the number of
sources.
-/
namespace InlineNotes.Command

inductive Key
  | mode
  | output
  | stem
  | limit
  | verbose
  | help
  deriving DecidableEq

namespace Key

def all : List Key := [.mode, .output, .stem, .limit, .verbose, .help]

def long : Key → Text
  | .mode => "--mode".toList
  | .output => "--output".toList
  | .stem => "--prefix".toList
  | .limit => "--max-length".toList
  | .verbose => "--verbose".toList
  | .help => "--help".toList

def letter? : Key → Option Char
  | .mode => some 'm'
  | .output => some 'o'
  | .verbose => some 'v'
  | _ => none

def takesValue : Key → Bool
  | .verbose => false
  | .help => false
  | _ => true

end Key

/-- An option with its value, which is empty if the option takes none. -/
abbrev Given := Key × Text

/-- What one argument says. -/
inductive Argument
  | source (t : Text)
  | endOfOptions
  | options (given : List Given)
  /-- The value of the last option is the next argument. -/
  | awaiting (given : List Given) (key : Key) (spelling : Text)
  | wrong (e : UsageError)

namespace Argument

def ofLetters (given : List Given) : Text → Argument
  | [] => .options given
  | c :: r =>
    match Key.all.find? (·.letter? = some c) with
    | none => .wrong (.unknownOption ['-', c] [])
    | some key =>
      if key.takesValue then
        if r = [] then .awaiting given key ['-', c] else .options (given ++ [(key, r)])
      else ofLetters (given ++ [(key, [])]) r

def ofLong (key : Key) (name : Text) : (value : Option Text) → Argument
  | none => if key.takesValue then .awaiting [] key name else .options [(key, [])]
  | some v => if key.takesValue then .options [(key, v)] else .wrong (.unexpectedValue name)

/-- What stands after the first `=`. -/
def valueOf? (t : Text) : Option Text :=
  match t.dropWhile (· ≠ '=') with
  | [] => none
  | _ :: value => some value

def ofOption (t : Text) : Argument :=
  let name := t.takeWhile (· ≠ '=')
  match Key.all.find? (·.long = name) with
  | some key => ofLong key name (valueOf? t)
  | none =>
    if ['-', '-'] <+: t then
      .wrong (.unknownOption name (Similarity.closest name (Key.all.map Key.long)))
    else ofLetters [] t.tail

def ofText : Text → Argument
  | ['-', '-'] => .endOfOptions
  | '-' :: c :: r => ofOption ('-' :: c :: r)
  | t => .source t

end Argument

structure Arguments where
  given : List Given
  sources : List Text
  deriving DecidableEq

namespace Arguments

def addGiven (given : List Given) (a : Arguments) : Arguments :=
  { a with given := given ++ a.given }

def addSource (t : Text) (a : Arguments) : Arguments := { a with sources := t :: a.sources }

def read : List Text → Except UsageError Arguments
  | [] => .ok ⟨[], []⟩
  | t :: rest =>
    match Argument.ofText t with
    | .wrong e => .error e
    | .source t => (read rest).map (addSource t)
    | .endOfOptions => .ok ⟨[], rest⟩
    | .options given => (read rest).map (addGiven given)
    | .awaiting given key spelling =>
      match rest with
      | [] => .error (.missingValue spelling)
      | value :: rest => (read rest).map (addGiven (given ++ [(key, value)]))

def value? (a : Arguments) (key : Key) : Option Text :=
  (a.given.reverse.find? (·.1 = key)).map (·.2)

end Arguments

inductive Form
  | markdown
  | report
  deriving DecidableEq

def Form.ofText? (t : Text) : Option Form :=
  if t = "markdown".toList then some .markdown
  else if t = "report".toList then some .report
  else none

/-- Why a run is not begun: for a mistake that is reported, or for an output that
no path can be. -/
inductive Refusal
  | usage (e : UsageError)
  | nulInOutput (output : Text)
  deriving DecidableEq

/-- What is wrong with the value of an option. -/
def refusal? (key : Key) (value : Text) : Option Refusal :=
  match key with
  | .mode => if (Form.ofText? value).isNone then some (.usage (.unknownMode value)) else none
  | .output => if '\x00' ∈ value then some (.nulInOutput value) else none
  | .limit =>
    match Numeral.integer? value with
    | none => some (.usage (.notAnInteger value))
    | some n => if n < 1 then some (.usage (.belowOne n)) else none
  | _ => none

structure Invocation where
  source : Text
  form : Form
  output : Option Text
  stem : Text
  limit : Option Int
  verbose : Bool
  deriving DecidableEq

def standardInput : Text := ['-']

namespace Arguments

def refusal? (a : Arguments) : Option Refusal :=
  a.given.findSome? fun (key, _) => (a.value? key).bind (Command.refusal? key)

/-- An empty output is no output. -/
def invocation (a : Arguments) : Invocation where
  source := a.sources.headD standardInput
  form := ((a.value? .mode).bind Form.ofText?).getD .markdown
  output := (a.value? .output).filter (· ≠ [])
  stem := (a.value? .stem).getD defaultStem
  limit := (a.value? .limit).bind Numeral.integer?
  verbose := (a.value? .verbose).isSome

end Arguments

inductive Request
  | help
  | run (i : Invocation)
  deriving DecidableEq

def Request.ofArguments (a : Arguments) : Except Refusal Request :=
  if (a.value? .help).isSome then .ok .help
  else match a.refusal? with
    | some refusal => .error refusal
    | none =>
      if 1 < a.sources.length then .error (.usage (.extraArguments a.sources.tail))
      else .ok (.run a.invocation)

def Request.read (args : List Text) : Except Refusal Request :=
  match Arguments.read args with
  | .error e => .error (.usage e)
  | .ok a => ofArguments a

end InlineNotes.Command
