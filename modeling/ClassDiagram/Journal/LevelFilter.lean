import ClassDiagram.Journal.Activity

/-!
# Which records are printed

A filter is a list of directives.  Each sets the levels that are printed for the parts whose path
begins with its target; of those that apply to a part the one with the longest target decides, and
of several with one target the last.  A part to which none applies is silent.
-/

namespace ClassDiagram.Journal

/-- The levels that are printed for some parts. -/
structure Directive where
  /-- The beginning of the paths that are meant. -/
  target : String
  /-- The rank of the least level that is printed, or zero if none is. -/
  rank : Nat
deriving DecidableEq, Repr

/-- Directives, of which the last of several with one target counts. -/
abbrev LevelFilter := List Directive

/-- The ranks of the words for levels. -/
def rankWords : List (String × Nat) :=
  [("", 1), ("off", 0), ("error", 1), ("warn", 2), ("info", 3), ("debug", 4), ("trace", 5)]

/-- The rank that a word stands for: the name of a level in any case, `off`, a number up to five, or
nothing, which means errors only. -/
def rankOf? (word : String) : Option Nat :=
  if word.toList.all Char.isDigit && !word.isEmpty then
    let number := word.toList.foldl (fun number c => 10 * number + (c.toNat - '0'.toNat)) 0
    if number ≤ 5 then some number else none
  else
    rankWords.lookup (word.map Char.toLower)

/-- Whether a directive can begin with a character. -/
def isDirectiveStart (c : Char) : Bool :=
  c.isAlphanum || c == '-' || c == ':' || c == '_' || 0x80 ≤ c.toNat

/-- Reads a directive: a level, a target with a level, or a target alone, for which everything is
printed. -/
def Directive.ofText? (text : String) : Option Directive :=
  if text.toList.head?.any isDirectiveStart then
    let target := text.toList.takeWhile (· != '=')
    match text.toList.dropWhile (· != '=') with
    | [] => some (((rankOf? text).map (⟨"", ·⟩)).getD ⟨text, 5⟩)
    | [_] => some ⟨String.ofList target, 5⟩
    | _ :: level => (rankOf? (String.ofList level)).map (⟨String.ofList target, ·⟩)
  else
    none

namespace LevelFilter

/-- Reads directives between commas.  No text at all means errors only. -/
def ofText? (text : String) : Option LevelFilter :=
  if text.isEmpty then
    some [⟨"", 1⟩]
  else
    (text.splitOn ",").mapM Directive.ofText?

/-- The better of two directives for a part: the later one unless its target is shorter. -/
def better (best : Option Directive) (directive : Directive) : Option Directive :=
  match best with
  | none => some directive
  | some known =>
    if directive.target.length < known.target.length then some known else some directive

/-- The directive that decides about a path. -/
def directiveFor (filter : LevelFilter) (path : String) : Option Directive :=
  (filter.filter fun directive => directive.target.toList.isPrefixOf path.toList).foldl better none

/-- Whether a report is printed. -/
def prints (filter : LevelFilter) (report : Report) : Bool :=
  (filter.directiveFor report.part.path).any (report.level.rank ≤ ·.rank)

end LevelFilter

end ClassDiagram.Journal
