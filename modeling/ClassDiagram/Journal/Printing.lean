import ClassDiagram.Choice
import ClassDiagram.Journal.LevelFilter

/-!
# Printing the journal

Nothing is printed until a printer is installed, which can happen only once.  A printer has a filter
and a format.  The formats differ in what they print of a stage: nothing, a record when it is
entered and when it is left, or a record when it is closed.
-/

namespace ClassDiagram.Journal

/-- How the journal is printed. -/
inductive Format where
  | compact
  | pretty
  | json
deriving DecidableEq, Repr, Inhabited

namespace Format

def word : Format → String
  | compact => "compact"
  | pretty => "pretty"
  | json => "json"

def ofWord (word : String) : Except UnknownWord Format :=
  choose "log format" [("compact", compact), ("pretty", pretty), ("json", json)] word

end Format

/-- A filter and a format. -/
structure Printer where
  filter : LevelFilter
  format : Format

/-- What the surroundings say about printing. -/
structure Environment where
  /-- The level that is used unless one is asked for. -/
  level : Option String := none
  /-- The format that is used unless one is asked for. -/
  format : Option String := none
  /-- Directives that come before any level but `off`. -/
  directives : Option String := none

/-- Why no printer was installed. -/
inductive SetupError where
  | unknownFormat (unknown : UnknownWord)
  | alreadyInstalled
deriving DecidableEq, Repr

def SetupError.message : SetupError → String
  | unknownFormat unknown => "Invalid log format: " ++ unknown.message
  | alreadyInstalled => "a global default trace dispatcher has already been set"

namespace Environment

variable (environment : Environment)

/-- The filter for a level.  Directives that cannot be read are ignored, and so is a level. -/
def filterFor (level : Option String) : LevelFilter :=
  let word := (((level.or environment.level).or environment.directives).getD "info")
  if word = "off" then
    [⟨"", 0⟩]
  else
    ((environment.directives.bind LevelFilter.ofText?).or (LevelFilter.ofText? word)).getD [⟨"", 3⟩]

/-- The printer for a level and a format. -/
def printer (level format : Option String) : Except SetupError Printer :=
  match Format.ofWord ((format.or environment.format).getD "compact") with
  | .ok format => .ok ⟨environment.filterFor level, format⟩
  | .error unknown => .error (.unknownFormat unknown)

/-- Installs the printer for a level and a format, unless there is one. -/
def install (installed : Option Printer) (level format : Option String) :
    Except SetupError Printer :=
  match environment.printer level format, installed with
  | .error error, _ => .error error
  | .ok _, some _ => .error .alreadyInstalled
  | .ok printer, none => .ok printer

end Environment

mutual

/-- The reports that are printed while an activity goes on. -/
def Activity.printed (format : Format) : Activity → List Report
  | .event report => [report]
  | .stage span inner =>
    match format with
    | .pretty => span :: printedAll format inner ++ [span]
    | _ => printedAll format inner

/-- The reports that are printed while activities follow each other. -/
def printedAll (format : Format) : List Activity → List Report
  | [] => []
  | first :: more => first.printed format ++ printedAll format more

end

/-- The stages of an activity, in the order in which they began. -/
def Activity.stages (activity : Activity) : List Report :=
  activity.records.filterMap fun
    | .span report => some report
    | .event _ => none

/-- The reports that a printer prints of an activity.  Stages are closed when the whole is over, the
last one first. -/
def Printer.output (printer : Printer) (activity : Activity) : List Report :=
  let closing := match printer.format with
    | .json => activity.stages.reverse
    | _ => []
  (activity.printed printer.format ++ closing).filter printer.filter.prints

end ClassDiagram.Journal
