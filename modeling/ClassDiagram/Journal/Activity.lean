/-!
# What is recorded of a run

While it works the library accounts for what it does.  An `Event` reports one thing; a `Span` is a
stage of the work, which is entered, worked in and left.  An `Activity` is an event or a stage with
the activities inside it.  `Activity.records` lists what was recorded in the order in which it
began.  Fields are kept as text.
-/

namespace ClassDiagram.Journal

/-- How much a record matters. -/
inductive Level where
  | trace
  | debug
  | info
  | warn
  | error
deriving DecidableEq, Repr

namespace Level

def name : Level → String
  | trace => "TRACE"
  | debug => "DEBUG"
  | info => "INFO"
  | warn => "WARN"
  | error => "ERROR"

/-- The rank of a level: one for errors, and one more for each level that matters less. -/
def rank : Level → Nat
  | error => 1
  | warn => 2
  | info => 3
  | debug => 4
  | trace => 5

end Level

/-- The parts of the library that report. -/
inductive Part where
  | generator
  | association
  | builder
  | catalog
  | declaration
  | document
  | service
deriving DecidableEq, Repr

def Part.path : Part → String
  | generator => "yumlgen::generator"
  | association => "yumlgen::graph::association"
  | builder => "yumlgen::graph::builder"
  | catalog => "yumlgen::graph::catalog"
  | declaration => "yumlgen::providers::declaration"
  | document => "yumlgen::providers::json"
  | service => "yumlgen::service"

/-- What events and spans have in common: a text, a level, the part that reports, and fields with
the texts of their values. -/
structure Report where
  text : String
  level : Level
  part : Part
  fields : List (String × String) := []
deriving DecidableEq, Repr

/-- An event, or a stage and what was done in it. -/
inductive Activity where
  | event (report : Report)
  | stage (span : Report) (inner : List Activity)

/-- A stage that began, or an event. -/
inductive Record where
  | span (report : Report)
  | event (report : Report)
deriving DecidableEq, Repr

mutual

def Activity.records : Activity → List Record
  | .event report => [.event report]
  | .stage span inner => .span span :: recordsOf inner

def recordsOf : List Activity → List Record
  | [] => []
  | first :: more => first.records ++ recordsOf more

end

/-- An event of the least level. -/
def traced (part : Part) (text : String) (fields : List (String × String)) : Activity :=
  .event ⟨text, .trace, part, fields⟩

/-- An event that helps to find mistakes. -/
def noted (part : Part) (text : String) (fields : List (String × String)) : Activity :=
  .event ⟨text, .debug, part, fields⟩

/-- An event of general interest. -/
def told (part : Part) (text : String) (fields : List (String × String)) : Activity :=
  .event ⟨text, .info, part, fields⟩

end ClassDiagram.Journal
