import ClassDiagram.Declaration.Grammar
import ClassDiagram.Proofs.DottedName

/-! # The grammar of the declaration language

What a declaration source may look like, without regard to how it is read.  Each phrase relates
what it means to a text that begins with it and to what stands behind it in that text.

    file        = trivia (declaration trivia)*
    declaration = ("class" | "interface") blank+ name
                  [blank+ "extends" blank+ name]
                  [blank+ "implements" blank+ name (blank* "," blank* name)*]
                  [blank* "{" trivia (member trivia)* "}"]
    member      = [mark] gap identifier gap ":" gap type [gap ";"]
    mark        = "+" | "-" | "#" | "~"
    type        = name ["<" gap type gap ("," gap type gap)* ">"] "[]"*
    name        = identifier ("." identifier)*

A gap is a run of spaces and tabs; trivia are a run of blanks and comments, each of which goes to
the end of its line.  Identifiers and keywords are taken as long as they are.  A plus marks what is
visible, the other marks what is hidden.  Everything but the characters of identifiers is spelled
here.
-/

namespace ClassDiagram.Declaration.Phrase

/-- The characters of white space. -/
def whiteSpace : List Char := [' ', '\t', '\n', '\r']

/-- The characters of white space within a line. -/
def lineSpace : List Char := [' ', '\t']

/-- Any number of characters from some. -/
inductive Run (characters : List Char) : List Char → List Char → Prop
  | stop {text : List Char} : Run characters text text
  | step {c : Char} {text rest : List Char} (among : c ∈ characters)
      (more : Run characters text rest) : Run characters (c :: text) rest

/-- White space, of which there is some. -/
inductive Blanks : List Char → List Char → Prop
  | mk {c : Char} {text rest : List Char} (among : c ∈ whiteSpace)
      (more : Run whiteSpace text rest) : Blanks (c :: text) rest

/-- White space and comments in any order. -/
inductive Trivia : List Char → List Char → Prop
  | stop {text : List Char} : Trivia text text
  | blank {c : Char} {text rest : List Char} (among : c ∈ whiteSpace)
      (more : Trivia text rest) : Trivia (c :: text) rest
  /-- A comment goes up to the next line break or to the end. -/
  | comment {remark text rest : List Char} (line : '\n' ∉ remark)
      (ends : ∀ c ∈ text.head?, c = '\n') (more : Trivia text rest) :
      Trivia ('/' :: '/' :: (remark ++ text)) rest

/-- Something that may be absent. -/
inductive Maybe {α : Type} (phrase : α → List Char → List Char → Prop) :
    Option α → List Char → List Char → Prop
  | absent {text : List Char} : Maybe phrase none text text
  | present {value : α} {text rest : List Char} (there : phrase value text rest) :
      Maybe phrase (some value) text rest

/-- One thing or more, with something between any two. -/
inductive Joined {α : Type} (phrase : α → List Char → List Char → Prop)
    (between : List Char → List Char → Prop) : List α → List Char → List Char → Prop
  | last {value : α} {text rest : List Char} (only : phrase value text rest) :
      Joined phrase between [value] text rest
  | more {value : α} {values : List α} {text behind next rest : List Char}
      (first : phrase value text behind) (gap : between behind next)
      (others : Joined phrase between values next rest) :
      Joined phrase between (value :: values) text rest

/-- Any number of things, each with trivia behind it. -/
inductive Series {α : Type} (phrase : α → List Char → List Char → Prop) :
    List α → List Char → List Char → Prop
  | stop {text : List Char} : Series phrase [] text text
  | more {value : α} {values : List α} {text behind next rest : List Char}
      (first : phrase value text behind) (gap : Trivia behind next)
      (others : Series phrase values next rest) : Series phrase (value :: values) text rest

/-- An identifier that is not the beginning of a longer one. -/
structure Word (word : List Char) (text rest : List Char) : Prop where
  identifier : IsIdentifier word
  spelled : text = word ++ rest
  longest : ∀ c ∈ rest.head?, Text.isIdentifierPart c = false

/-- A dot. -/
def Dot (text rest : List Char) : Prop :=
  text = '.' :: rest

/-- The name of a type. -/
inductive Name : String → List Char → List Char → Prop
  | mk {parts : List (List Char)} {text rest : List Char}
      (words : Joined Word Dot parts text rest) :
      Name (String.ofList (['.'].intercalate parts)) text rest

/-- A comma with white space on both sides. -/
inductive Comma : List Char → List Char → Prop
  | mk {text behind rest : List Char} (before : Run whiteSpace text (',' :: behind))
      (after : Run whiteSpace behind rest) : Comma text rest

/-- Pairs of brackets. -/
inductive Brackets : Nat → List Char → List Char → Prop
  | none {text : List Char} : Brackets 0 text text
  | pair {rank : Nat} {text rest : List Char} (more : Brackets rank text rest) :
      Brackets (rank + 1) ('[' :: ']' :: text) rest

mutual

/-- A written type. -/
inductive Ref : TypeRef → List Char → List Char → Prop
  | mk {name : String} {arguments : List TypeRef} {rank : Nat}
      {text behindName behindArguments rest : List Char} (named : Name name text behindName)
      (listed : Arguments arguments behindName behindArguments)
      (ranked : Brackets rank behindArguments rest) : Ref ⟨name, arguments, rank⟩ text rest

/-- The arguments of a written type, if it has any. -/
inductive Arguments : List TypeRef → List Char → List Char → Prop
  | none {text : List Char} : Arguments [] text text
  | some {arguments : List TypeRef} {text rest : List Char}
      (listed : ArgumentList arguments text ('>' :: rest)) :
      Arguments arguments ('<' :: text) rest

/-- Written types with gaps around them and commas between them. -/
inductive ArgumentList : List TypeRef → List Char → List Char → Prop
  | last {argument : TypeRef} {text start behind rest : List Char}
      (before : Run lineSpace text start) (only : Ref argument start behind)
      (after : Run lineSpace behind rest) : ArgumentList [argument] text rest
  | more {argument : TypeRef} {arguments : List TypeRef} {text start behind next rest : List Char}
      (before : Run lineSpace text start) (first : Ref argument start behind)
      (after : Run lineSpace behind (',' :: next))
      (others : ArgumentList arguments next rest) :
      ArgumentList (argument :: arguments) text rest

end

/-- A character that marks a visibility. -/
inductive Mark : Visibility → List Char → List Char → Prop
  | plus {rest : List Char} : Mark .visible ('+' :: rest) rest
  | minus {rest : List Char} : Mark .hidden ('-' :: rest) rest
  | hash {rest : List Char} : Mark .hidden ('#' :: rest) rest
  | tilde {rest : List Char} : Mark .hidden ('~' :: rest) rest

/-- The end of a member, where there is one. -/
inductive Semicolon : Unit → List Char → List Char → Prop
  | mk {text rest : List Char} (before : Run lineSpace text (';' :: rest)) :
      Semicolon () text rest

/-- A member. -/
inductive Member : WrittenMember → List Char → List Char → Prop
  | mk {visibility : Option Visibility} {word : List Char} {type : TypeRef} {ended : Option Unit}
      {text behindMark start behindWord behindColon typeStart behindType rest : List Char}
      (marked : Maybe Mark visibility text behindMark)
      (beforeWord : Run lineSpace behindMark start)
      (named : Word word start behindWord)
      (beforeColon : Run lineSpace behindWord (':' :: behindColon))
      (afterColon : Run lineSpace behindColon typeStart)
      (typed : Ref type typeStart behindType) (ends : Maybe Semicolon ended behindType rest) :
      Member ⟨visibility, String.ofList word, type⟩ text rest

/-- A clause that begins with a word of its own. -/
inductive Clause {α : Type} (word : String) (phrase : α → List Char → List Char → Prop) :
    α → List Char → List Char → Prop
  | mk {value : α} {text start behind next rest : List Char} (before : Blanks text start)
      (keyword : Word word.toList start behind) (after : Blanks behind next)
      (there : phrase value next rest) : Clause word phrase value text rest

/-- The members between braces. -/
inductive Body : List WrittenMember → List Char → List Char → Prop
  | mk {members : List WrittenMember} {text inside start rest : List Char}
      (before : Run whiteSpace text ('\x7b' :: inside)) (gap : Trivia inside start)
      (series : Series Member members start ('\x7d' :: rest)) : Body members text rest

/-- The word that opens a declaration. -/
def opening : Kind → String
  | .classKind => "class"
  | .interfaceKind => "interface"

/-- A declaration. -/
inductive Declared : WrittenType → List Char → List Char → Prop
  | mk {kind : Kind} {name : String} {base : Option String} {interfaces : Option (List String)}
      {members : Option (List WrittenMember)}
      {text behindKind start behindName behindBase behindInterfaces rest : List Char}
      (opened : Word (opening kind).toList text behindKind) (gap : Blanks behindKind start)
      (named : Name name start behindName)
      (based : Maybe (Clause "extends" Name) base behindName behindBase)
      (implementing : Maybe (Clause "implements" (Joined Name Comma)) interfaces behindBase
        behindInterfaces)
      (bodied : Maybe Body members behindInterfaces rest) :
      Declared ⟨kind, name, base, interfaces.getD [], members.getD []⟩ text rest

/-- A whole source. -/
def File (written : List WrittenType) (text : List Char) : Prop :=
  ∃ start, Trivia text start ∧ Series Declared written start []

end ClassDiagram.Declaration.Phrase
