import InlineNotes.Text.Quoted

/-!
# How the command is used

The help text, and what can be wrong with a list of arguments. Most messages come
after two lines that say how the command is called; an option without its value,
and a value for an option that takes none, are reported in one line.
-/
namespace InlineNotes.Command

inductive UsageError
  | unknownOption (spelling : Text) (similar : List Text)
  | missingValue (spelling : Text)
  | unexpectedValue (spelling : Text)
  | unknownMode (value : Text)
  | notAnInteger (value : Text)
  | belowOne (value : Int)
  | extraArguments (extra : List Text)
  deriving DecidableEq

def commaList (ts : List Text) : Text :=
  match ts.map Text.quoted with
  | [] => []
  | first :: rest => first ++ rest.flatMap fun t => ',' :: ' ' :: t

/-- What to try instead of an unknown option. -/
def suggestion : List Text → Text
  | [] => []
  | [one] => " Did you mean ".toList ++ one.quoted ++ ['?']
  | several => " (Did you mean one of: ".toList ++ commaList several ++ ['?', ')']

namespace UsageError

def message : UsageError → Text
  | .unknownOption spelling similar =>
    "No such option ".toList ++ spelling.quoted ++ '.' :: suggestion similar
  | .missingValue spelling => "Option ".toList ++ spelling.quoted ++ " requires an argument.".toList
  | .unexpectedValue spelling =>
    "Option ".toList ++ spelling.quoted ++ " does not take a value.".toList
  | .unknownMode value =>
    "Invalid value for '-m' / '--mode': ".toList ++ value.quoted ++
      " is not one of 'markdown', 'report'.".toList
  | .notAnInteger value =>
    "Invalid value for '--max-length': ".toList ++ value.quoted ++
      " is not a valid integer range.".toList
  | .belowOne value =>
    "Invalid value for '--max-length': ".toList ++ Text.decimal value ++
      " is not in the range x>=1.".toList
  | .extraArguments extra =>
    "Got unexpected extra argument".toList ++ (if extra.length = 1 then [] else ['s']) ++
      ' ' :: '(' :: Text.join ' ' extra ++ [')']

def isOneLine : UsageError → Bool
  | .missingValue _ => true
  | .unexpectedValue _ => true
  | _ => false

def synopsis : Text := "Usage: main [OPTIONS] [SOURCE]\n".toList

def write (e : UsageError) : Text :=
  (if e.isOneLine then [] else synopsis ++ "Try 'main --help' for help.\n\n".toList) ++
    "Error: ".toList ++ e.message ++ ['\n']

end UsageError

def helpLines : List String := [
  "",
  "  Convert inline footnotes to standard markdown footnotes.",
  "",
  "  SOURCE is a markdown file, or - (the default) to read stdin.",
  "",
  "  Examples:",
  "      inlinefn notes.md                    # converted markdown to stdout",
  "      inlinefn notes.md -o out/            # save to out/notes.md",
  "      cat notes.md | inlinefn              # read stdin",
  "      inlinefn notes.md --mode report      # JSON summary of conversions",
  "      inlinefn notes.md --prefix note      # ids note1, note2, ...",
  "",
  "Options:",
  "  -m, --mode [markdown|report]  Output mode (default: markdown)",
  "  -o, --output PATH             Output file or directory. Omit for stdout.",
  "  --prefix TEXT                 Prefix for generated footnote ids  [default:",
  "                                inline]",
  "  --max-length INTEGER RANGE    Refuse documents longer than N characters",
  "                                [x>=1]",
  "  -v, --verbose                 Verbose progress output",
  "  --help                        Show this message and exit."]

def help : Text := UsageError.synopsis ++ helpLines.flatMap fun line => line.toList ++ ['\n']

end InlineNotes.Command
