import InlineNotes.Report
import InlineNotes.Command.Arguments
import InlineNotes.Message.Basic
import InlineNotes.Storage.Path

/-!
# Progress messages

A verbose run first shows what it is about to do, in a box, and after the
conversion what came of it: two numbers and the first five footnotes. A run that
writes a file says where. Sources, ids, bodies and paths stand in these messages as
they are, so what looks like markup in them is markup.
-/
namespace InlineNotes.Command

def Form.name : Form → Text
  | .markdown => "markdown".toList
  | .report => "report".toList

def heading (i : Invocation) : Text :=
  "[bold]inlinefn - Inline Footnotes[/bold]\n".toList ++ i.source ++ "\nMode: ".toList ++
    i.form.name

def announcement (screen : Message.Screen) (i : Invocation) : Except Message.MarkupError Text :=
  if i.verbose then screen.box (heading i) else .ok []

def dimmed (t : Text) : Text := "[dim]".toList ++ t ++ "[/dim]".toList

def indented (t : Text) : Text := ' ' :: ' ' :: t

def shownNotes : Nat := 5

def outcomeMessages (i : Invocation) (r : Conversion) : List Text :=
  let notes := r.notes.entries
  let more := notes.length - shownNotes
  if i.verbose then
    dimmed ("Converted ".toList ++ Text.decimal notes.length ++
        " inline footnotes, kept ".toList ++ Text.decimal r.kept.length ++ " references".toList) ::
      (notes.take shownNotes).map
        (fun (id, body) => indented (dimmed (id ++ ':' :: ' ' :: body))) ++
      (if more = 0 then []
        else [indented (dimmed ("... and ".toList ++ Text.decimal more ++ " more".toList))])
  else []

def savedMessage (p : Path) : Text := "[green]Saved:[/green] ".toList ++ p.write

end InlineNotes.Command
