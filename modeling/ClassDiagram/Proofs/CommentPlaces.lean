import ClassDiagram.Proofs.CommentedTexts
import ClassDiagram.Proofs.DeclarationLanguage

/-! # Where comments are allowed

A comment in front of a line break goes unnoticed unless the line break is in the header of a
declaration (`ClassDiagram.Declaration.types_commented`).  In a header there is white space between
words but no trivia.  A comment there ends the declaration at the last place where it could end, and
what follows the trivia behind that place, be it a clause, a comma or a brace, begins no declaration
(`ClassDiagram.Declaration.EndsHere`); so the source is not read to its end.
-/

namespace ClassDiagram.Declaration

open Reader Phrase

section Stuck

/-- Neither trivia nor a declaration begin with the text, which is not at its end. -/
structure Stuck (text : List Char) : Prop where
  more : text ≠ []
  apart : Apart ('/' :: whiteSpace) text
  fails : Fails declaration text

/-- A declaration comes next, and not all of the text is read as declarations. -/
structure Blocked (text : List Char) : Prop where
  opened : ∃ (kind : Kind) (behind : List Char), Word (opening kind).toList text behind
  unread : ∃ written stuck, Repeats (trailed declaration) written text stuck ∧ stuck ≠ []

/-- A declaration that could end in front of the text does, and nothing is read behind it. -/
structure EndsHere (text : List Char) : Prop where
  halts : Halts text
  bare : Fails body text
  stuck : ∃ rest, Trivia text rest ∧ Stuck rest

variable {note after text other rest : List Char}

/-- A word that opens no declaration is where reading stops. -/
theorem stuck_word {word : List Char} (read : Word word text rest)
    (noKind : ∀ kind : Kind, word ≠ (opening kind).toList) : Stuck text where
  more := by
    rintro rfl
    exact absurd read.length_lt (Nat.not_lt_zero _)
  apart := read.begins.apart
  fails := by
    have keywords (kind : Kind) : Fails (keyword (opening kind).toList) text :=
      fails_keyword_of_ne read (noKind kind)
    exact (Fails.either (keywords .classKind).bind (keywords .interfaceKind).bind).bind

/-- A mark that begins neither trivia nor a word is where reading stops. -/
theorem stuck_mark {c : Char} (noStart : Text.isIdentifierStart c = false)
    (noTrivia : c ∉ '/' :: whiteSpace) : Stuck (c :: rest) where
  more := List.cons_ne_nil _ _
  apart := apart_head noTrivia
  fails := by
    have keywords (word : List Char) : Fails (keyword word) (c :: rest) := by
      refine fails_keyword fun first head => ?_
      cases Option.mem_some_iff.mp head
      exact noStart
    exact (Fails.either (keywords _).bind (keywords _).bind).bind

/-- A declaration that ends within its header leaves something unread. -/
theorem blocked_of_heading {kind : Kind} {name : String} {base : Option String}
    {interfaces : Option (List String)} {behind : List Char}
    (heading : Heading kind name base interfaces text behind) (ends : EndsHere behind) :
    Blocked text := by
  obtain ⟨stuck, trivia, stays⟩ := ends.stuck
  have read := reads_heading heading ends.halts ends.bare.optional
  have shorter := (heading.declared .absent).length_lt
  refine ⟨?_, [⟨kind, name, base, interfaces.getD [], []⟩], stuck, ?_, stays.more⟩
  · cases heading with
    | mk opened _ _ _ _ => exact ⟨kind, _, opened⟩
  · exact .step (reads_trailed read trivia stays.apart) (trivia.length_le.trans_lt shorter)
      (.stop stays.fails.bind)

end Stuck

section Severed

variable {note after text rest : List Char}

/-- Nothing but trivia goes on with a comment. -/
theorem stops_remark {marks : List Char} {words : List String} (noSlash : '/' ∉ marks) :
    Stops marks words (remarkBefore note after) :=
  stops_mark (by decide) noSlash (by decide)

/-- No name begins with a comment. -/
theorem fails_typeName_remark : Fails typeName (remarkBefore note after) := by
  have none : Fails identifier (remarkBefore note after) := by
    refine fails_identifier fun c head => ?_
    cases Option.mem_some_iff.mp head
    decide
  exact none.bind.bind

theorem fails_names_remark : Fails (separated typeName comma) (remarkBefore note after) :=
  fails_typeName_remark.bind

/-- A clause is not read if a comment stands behind its word. -/
theorem fails_clause_remark {α : Type} {reader : Reader α} {word : List Char}
    {start behind : List Char} (before : Blanks text start) (opened : Word word start behind)
    (severed : Blanks behind (remarkBefore note after))
    (fails : Fails reader (remarkBefore note after)) (other : String) :
    Fails (clause other.toList reader) text := by
  have blanks := reads_requiredBlanks before opened.begins.apart
  by_cases same : word = other.toList
  · subst same
    exact blanks.bind_fails ((reads_keyword opened).bind_fails
      ((reads_requiredBlanks severed apart_head).bind_fails fails))
  · exact blanks.bind_fails (fails_keyword_of_ne opened same).bind

/-- White space with a comment in it is followed by nothing that goes on with a declaration. -/
theorem endsHere_of_severed (line : '\n' ∉ note)
    (severed : Run whiteSpace text (remarkBefore note after))
    (followed : Run whiteSpace after rest) (stuck : Stuck rest) : EndsHere text := by
  have stops : Stops ['.', ',', '\x7b'] ["extends", "implements"] text :=
    (stops_remark (by decide)).run severed
  have outside : Stops ['.', ','] ["extends", "implements"] text := stops.mono
  have breaks : ∀ c ∈ ('\n' :: after).head?, c = '\n' :=
    fun c head => (Option.mem_some_iff.mp head).symm
  have comment : Trivia (remarkBefore note after) rest :=
    .comment line breaks (.blank (by decide) followed.trivia)
  exact ⟨outside.halts, fails_body stops (by decide), rest, severed.trivia.trans comment, stuck⟩

/-- A declaration ends in front of a clause with a comment behind its word. -/
theorem endsHere_of_clause {word start behind : List Char} (before : Blanks text start)
    (opened : Word word start behind) (severed : Blanks behind (remarkBefore note after))
    (noKind : ∀ kind : Kind, word ≠ (opening kind).toList) : EndsHere text := by
  have stops : Stops ['.', ',', '\x7b'] [] text :=
    (stops_word opened (by decide) (List.forall_mem_nil _)).run before.run
  refine ⟨⟨stops.apart, ?_, ?_, ?_⟩, fails_body stops (by decide), start, before.run.trivia,
    stuck_word opened noKind⟩
  · exact fails_clause_remark before opened severed fails_typeName_remark "extends"
  · exact fails_clause_remark before opened severed fails_names_remark "implements"
  · exact (fails_comma stops (by decide)).bind

/-- A declaration ends in front of a comma with a comment behind it. -/
theorem endsHere_of_comma {behind : List Char} (before : Run whiteSpace text (',' :: behind))
    (severed : Run whiteSpace behind (remarkBefore note after)) : EndsHere text := by
  have stops : Stops ['.', '\x7b'] ["extends", "implements"] text :=
    (stops_mark (by decide) (by decide) (by decide)).run before
  have separated : Reads comma () text (remarkBefore note after) :=
    (reads_blanks before apart_head).bind
      (reads_character.bind (reads_blanks severed apart_head))
  refine ⟨⟨stops.apart, fails_clause stops (by decide), fails_clause stops (by decide),
    separated.bind_fails fails_typeName_remark⟩, fails_body stops (by decide), _, before.trivia,
    stuck_mark (by decide) (by decide)⟩

end Severed

section Headings

variable {note after text other rest : List Char}

variable {α : Type} {phrase : α → List Char → List Char → Prop} {value : α}

variable (note after) in
/-- The phrase leaves the comment behind it, or less of it is there and a declaration ends with
that. -/
def BreaksOff (phrase : α → List Char → List Char → Prop) (value : α) (rest other : List Char) :
    Prop :=
  (∃ behind, phrase value other behind ∧ Commented note after rest behind) ∨
    ∃ fewer behind, phrase fewer other behind ∧ EndsHere behind ∧ rest.length ≤ after.length

/-- A clause is there no more if a comment stands in front of its word or right behind it. -/
theorem commented_clause {word : String} {clause : Option α} (line : '\n' ∉ note)
    (noKind : ∀ kind : Kind, word.toList ≠ (opening kind).toList)
    (shorter : ∀ value text rest, phrase value text rest → rest.length < text.length)
    (inside : ∀ value text rest other, phrase value text rest → Commented note after text other →
      BreaksOff note after phrase value rest other)
    (maybe : Maybe (Clause word phrase) clause text rest) (edit : Commented note after text other) :
    BreaksOff note after (Maybe (Clause word phrase)) clause rest other := by
  cases maybe with
  | absent => exact Or.inl ⟨other, .absent, edit⟩
  | present there =>
      cases there with
      | mk before keyword gap there =>
          have short := (shorter _ _ _ there).le
          rcases before.commented edit with ⟨_, before, opening⟩ | ⟨severed, followed⟩
          case inr =>
            have ends := endsHere_of_severed line severed.run followed (stuck_word keyword noKind)
            have behind := (short.trans gap.length_lt.le).trans keyword.length_lt.le
            exact Or.inr ⟨none, other, .absent, ends, behind.trans followed.length_le⟩
          obtain ⟨_, keyword, closing⟩ := inline_word _ keyword opening
          rcases gap.commented closing with ⟨_, gap, later⟩ | ⟨severed, followed⟩
          case inr =>
            have ends := endsHere_of_clause before keyword severed noKind
            exact Or.inr ⟨none, other, .absent, ends, short.trans followed.length_le⟩
          rcases inside _ _ _ _ there later with ⟨behind, there, beyond⟩ | fewer
          · exact Or.inl ⟨behind, .present (.mk before keyword gap there), beyond⟩
          · obtain ⟨fewer, behind, there, ends, short⟩ := fewer
            exact Or.inr ⟨some fewer, behind, .present (.mk before keyword gap there), ends, short⟩

/-- Of names that are joined by commas only those in front of a comment are read. -/
theorem commented_names {names : List String} (line : '\n' ∉ note)
    (joined : Joined Name Comma names text rest) (edit : Commented note after text other) :
    BreaksOff note after (Joined Name Comma) names rest other := by
  induction joined generalizing other with
  | last only =>
      obtain ⟨behind, only, later⟩ := inline_name _ only edit
      exact Or.inl ⟨behind, .last only, later⟩
  | @more name names _ _ next rest first gap others ih =>
      obtain ⟨_, first, later⟩ := inline_name _ first edit
      have shorter : rest.length ≤ next.length :=
        (others.length_lt (fun _ _ _ => Name.length_lt) fun _ _ => Comma.length_le).le
      cases gap with
      | mk before gap =>
          rcases before.commented later with ⟨_, before, comma⟩ | ⟨severed, followed⟩
          · obtain ⟨_, rfl, behind⟩ := comma.exists_cons
            rcases gap.commented behind with ⟨_, gap, inside⟩ | ⟨severed, followed⟩
            · rcases ih inside with ⟨behind, others, later⟩ | ⟨fewer, behind, others, ends⟩
              · exact Or.inl ⟨behind, .more first (.mk before gap) others, later⟩
              · exact Or.inr ⟨name :: fewer, behind, .more first (.mk before gap) others, ends⟩
            · exact Or.inr ⟨[name], _, .last first, endsHere_of_comma before severed,
                shorter.trans followed.length_le⟩
          · have ends := endsHere_of_severed line severed followed
              (stuck_mark (by decide) (by decide))
            exact Or.inr ⟨[name], _, .last first, ends, shorter.trans
              (gap.length_le.trans (Nat.le_of_succ_le followed.length_le))⟩

/-- A heading leaves a comment behind it, or the declarations are not all read. -/
theorem Phrase.Heading.commented {kind : Kind} {name : String} {base : Option String}
    {interfaces : Option (List String)} (line : '\n' ∉ note)
    (heading : Heading kind name base interfaces text rest)
    (edit : Commented note after text other) :
    (∃ behind, Heading kind name base interfaces other behind ∧ Commented note after rest behind) ∨
      Blocked other ∧ rest.length ≤ after.length := by
  cases heading with
  | @mk behindKind start behindName behindBase opened gap named based implementing =>
      have namesShorter {names : List String} {text rest : List Char}
          (joined : Joined Name Comma names text rest) : rest.length < text.length :=
        joined.length_lt (fun _ _ _ => Name.length_lt) fun _ _ => Comma.length_le
      have baseShort := based.length_le fun _ _ _ clause =>
        (clause.length_lt fun _ _ _ => Name.length_lt).le
      have interfacesShort := implementing.length_le fun _ _ _ clause =>
        (clause.length_lt fun _ _ _ => namesShorter).le
      obtain ⟨_, opened, later⟩ := inline_word _ opened edit
      rcases gap.commented later with ⟨_, gap, later⟩ | ⟨severed, followed⟩
      case inr =>
        have fails : Fails declaration other :=
          (reads_kind opened).bind_fails
            ((reads_requiredBlanks severed apart_head).bind_fails fails_typeName_remark.bind)
        have more : other ≠ [] := by
          rintro rfl
          exact absurd opened.length_lt (Nat.not_lt_zero _)
        refine Or.inr ⟨⟨⟨kind, _, opened⟩, [], other, .stop fails.bind, more⟩, ?_⟩
        exact (interfacesShort.trans (baseShort.trans named.length_lt.le)).trans followed.length_le
      obtain ⟨_, named, later⟩ := inline_name _ named later
      have noKind (kind : Kind) :
          "extends".toList ≠ (opening kind).toList ∧
            "implements".toList ≠ (opening kind).toList := by
        cases kind <;> decide
      have extended : BreaksOff note after (Maybe (Clause "extends" Name)) base behindBase _ :=
        commented_clause line (fun kind => (noKind kind).1) (fun _ _ _ => Name.length_lt)
          (fun _ _ _ _ read edit => Or.inl (inline_name _ read edit)) based later
      rcases extended with ⟨_, based, later⟩ | ⟨_, _, based, ends, short⟩
      case inr =>
        exact Or.inr ⟨blocked_of_heading (.mk opened gap named based .absent) ends,
          interfacesShort.trans short⟩
      have implemented : BreaksOff note after (Maybe (Clause "implements" (Joined Name Comma)))
          interfaces rest _ :=
        commented_clause line (fun kind => (noKind kind).2) (fun _ _ _ => namesShorter)
          (fun _ _ _ _ joined edit => commented_names line joined edit) implementing later
      rcases implemented with ⟨behind, implementing, later⟩ | ⟨_, _, implementing, ends, short⟩
      · exact Or.inl ⟨behind, .mk opened gap named based implementing, later⟩
      · exact Or.inr ⟨blocked_of_heading (.mk opened gap named based implementing) ends, short⟩

end Headings

section Headers

/-- The header of a declaration ends with its last name, or in front of the brace that opens its
body. -/
inductive Phrase.Header (text : List Char) : List Char → Prop
  | names {kind : Kind} {name : String} {base : Option String} {interfaces : Option (List String)}
      {rest : List Char} (heading : Heading kind name base interfaces text rest) : Header text rest
  | brace {kind : Kind} {name : String} {base : Option String} {interfaces : Option (List String)}
      {behind inside : List Char} (heading : Heading kind name base interfaces text behind)
      (gap : Run whiteSpace behind ('\x7b' :: inside)) : Header text ('\x7b' :: inside)

/-- The place in front of `after` is in the header of a declaration of the text. -/
def InHeader (text after : List Char) : Prop :=
  ∃ start declarations opening closing, Trivia text start ∧
    Series Declared declarations start opening ∧ Header opening closing ∧
      after.length < opening.length ∧ closing.length ≤ after.length

variable {note after text other rest : List Char}

theorem Phrase.Header.begins (header : Header text rest) : Begins text := by
  cases header with
  | names heading => cases heading with
    | mk opened _ _ _ _ => exact opened.begins
  | brace heading _ => cases heading with
    | mk opened _ _ _ _ => exact opened.begins

/-- Not all declarations are read behind a comment in a header. -/
theorem Phrase.Header.blocked (line : '\n' ∉ note) (header : Header text rest)
    (edit : Commented note after text other) (short : rest.length ≤ after.length) :
    Blocked other := by
  cases header with
  | names heading =>
      rcases heading.commented line edit with ⟨_, _, later⟩ | ⟨blocked, _⟩
      · exact absurd later.length_lt short.not_gt
      · exact blocked
  | brace heading gap =>
      rcases heading.commented line edit with ⟨_, heading, later⟩ | ⟨blocked, _⟩
      · rcases gap.commented later with ⟨_, _, beyond⟩ | ⟨severed, followed⟩
        · exact absurd beyond.length_lt short.not_gt
        · exact blocked_of_heading heading (endsHere_of_severed line severed followed
            (stuck_mark (by decide) (by decide)))
      · exact blocked

variable (after) in
/-- A comment in the header that the first text begins with blocks the second. -/
def Spoiled (opening behind : List Char) : Prop :=
  Blocked behind ∧ ∃ closing, Header opening closing ∧ after.length < opening.length ∧
    closing.length ≤ after.length

/-- A declaration keeps a comment that does not stand in its header. -/
theorem Phrase.Declared.commented {written : WrittenType} (line : '\n' ∉ note)
    (read : Declared written text rest) (edit : Commented note after text other) :
    Keeps note after (Declared written) rest other ∨ Spoiled after text other := by
  have past := edit.length_lt
  cases read with
  | mk opened gap named based implementing bodied =>
      have heading := Heading.mk opened gap named based implementing
      rcases heading.commented line edit with ⟨_, kept, later⟩ | ⟨blocked, short⟩
      case inr => exact Or.inr ⟨blocked, _, .names heading, past, short⟩
      cases bodied with
      | absent => exact Or.inl (Or.inl ⟨_, kept.declared .absent, later⟩)
      | present there =>
          rcases there.commented line later with
            (⟨behind, there, beyond⟩ | ⟨there, short⟩) | ⟨severed, inside, brace, followed⟩
          · exact Or.inl (Or.inl ⟨behind, kept.declared (.present there), beyond⟩)
          · exact Or.inl (Or.inr ⟨kept.declared (.present there), short⟩)
          · have ends := endsHere_of_severed line severed followed
              (stuck_mark (by decide) (by decide))
            exact Or.inr ⟨blocked_of_heading kept ends, _, .brace heading brace, past,
              followed.length_le⟩

/-- Declarations in front of one that is not read to its end are read. -/
theorem Blocked.of_series {front : List WrittenType} (blocked : Blocked rest)
    (series : Series Declared front text rest) : Blocked text := by
  induction series with
  | stop => exact blocked
  | @more written values text behind next rest first gap others ih =>
      obtain ⟨⟨kind, _, opened⟩, written, stuck, repeats, more⟩ := ih blocked
      have kinds : ∀ other ∈ ["extends", "implements"], (opening kind).toList ≠ other.toList := by
        cases kind <;> decide
      have stops : Stops ['.', ',', '\x7b'] ["extends", "implements"] behind :=
        (stops_word opened (by decide) kinds).trivia gap (by decide)
      have read := reads_trailed (reads_declaration first stops) gap opened.begins.apart
      refine ⟨?_, _, stuck, .step read (gap.length_le.trans_lt first.length_lt) repeats, more⟩
      cases first with
      | mk opened _ _ _ _ _ => exact ⟨_, _, opened⟩

/-- A source is rejected if not all of it is read as declarations. -/
theorem Blocked.fails_source (blocked : Blocked rest) (trivia : Trivia text rest) :
    Fails source text := by
  obtain ⟨⟨_, _, opened⟩, written, stuck, repeats, more⟩ := blocked
  have fails : Fails atEnd stuck := by
    intro offset
    cases stuck with
    | nil => exact (more rfl).elim
    | cons c rest => rfl
  exact (reads_trivia_of_apart trivia opened.begins.apart).bind_fails
    (repeats.reads.bind_fails fails.bind)

/-- A source keeps a comment that does not stand in the header of a declaration. -/
theorem Phrase.File.commented {written : List WrittenType} (line : '\n' ∉ note)
    (file : File written text) (edit : Commented note after text other) :
    File written other ∨ InHeader text after := by
  obtain ⟨start, gap, series⟩ := file
  have starts : Apart ['\n'] start := apart_series series (by decide)
  rcases gap.commented line starts edit with ⟨first, trivia, later⟩ | ⟨trivia, _⟩
  case inr => exact Or.inl ⟨start, trivia, series⟩
  rcases series.commented line apart_nil later (fun _ _ _ read => read.begins.apart)
    (fun _ _ _ => Declared.length_lt) (fun _ _ _ _ read edit => read.commented line edit) with
    (⟨_, _, beyond⟩ | ⟨kept, _⟩) | ⟨front, opening, _, before, _, _, closing, header⟩
  · cases beyond
  · exact Or.inl ⟨first, trivia, kept⟩
  · exact Or.inr ⟨start, front, opening, closing, gap, before, header⟩

/-- A source with a comment in the header of a declaration is not read. -/
theorem InHeader.fails_source (line : '\n' ∉ note) (inside : InHeader text after)
    (edit : Commented note after text other) : Fails source other := by
  obtain ⟨start, front, opening, closing, gap, series, header, past, short⟩ := inside
  have opens : Apart ['\n'] opening := header.begins.apart
  have starts : Apart ['\n'] start := series.apart opens fun _ _ _ read => read.begins.apart
  have shorter := series.length_le fun _ _ _ => Declared.length_lt
  rcases gap.commented line starts edit with ⟨_, trivia, later⟩ | ⟨_, early⟩
  case inr => exact absurd (past.trans_le shorter) early.not_gt
  rcases series.commented line opens later (fun _ _ _ read => read.begins.apart)
    (fun _ _ _ => Declared.length_lt) (fun _ _ _ _ read edit => read.commented line edit) with
    (⟨_, kept, within⟩ | ⟨_, early⟩) | ⟨_, _, _, _, kept, blocked, _⟩
  · exact ((header.blocked line within short).of_series kept).fails_source trivia
  · exact absurd past early.not_gt
  · exact (blocked.of_series kept).fails_source trivia

end Headers

/-- Where a reader fails, reading the whole text ends in a failure. -/
theorem exists_error_of_fails {α : Type} {reader : Reader α} {text : String}
    (fails : Fails reader text.toList) : ∃ failure, read reader text = .error failure := by
  unfold read Reader.start
  simp only [fails 0]
  exact ⟨_, rfl⟩

/-- **Where comments are allowed.** A comment in front of a line break of an accepted source changes
nothing of what the source declares, unless the line break is in the header of a declaration; then
the source is not accepted any more. -/
theorem types_commented (source : Source) (types : List Descriptor) (before note after : String)
    (accepted : source.types = .ok types) (broken : source.text = before ++ "\n" ++ after)
    (line : '\n' ∉ note.toList) :
    let commented : Source := { source with text := before ++ " //" ++ note ++ "\n" ++ after }
    (commented.types = .ok types ↔ ¬ InHeader source.text.toList after.toList) ∧
      ((∃ failure, commented.types = .error failure) ↔
        InHeader source.text.toList after.toList) := by
  intro commented
  obtain ⟨written, read, rfl⟩ := Source.types_eq_ok.mp accepted
  have edit : Commented note.toList after.toList source.text.toList commented.text.toList := by
    have spelled : source.text.toList = before.toList ++ '\n' :: after.toList := by
      simp [broken]
    have changed : commented.text.toList =
        before.toList ++ ' ' :: remarkBefore note.toList after.toList := by
      simp [commented, remarkBefore]
    rw [spelled, changed]
    exact commented_append _ _ _
  have outside (free : ¬ InHeader source.text.toList after.toList) :
      commented.types = .ok (written.map source.descriptor) := by
    have file := (Source.written_eq_ok_iff.mp read).commented line edit
    have kept := Source.written_eq_ok_iff.mpr (file.resolve_right free)
    exact Source.types_eq_ok.mpr ⟨written, kept, rfl⟩
  have inside (header : InHeader source.text.toList after.toList) :
      ∃ failure, commented.types = .error failure := by
    obtain ⟨failure, unread⟩ := exists_error_of_fails (header.fails_source line edit)
    refine ⟨failure, ?_⟩
    rw [Source.types, Source.written, unread]
    rfl
  refine ⟨⟨?_, outside⟩, ?_, inside⟩
  · intro kept header
    obtain ⟨failure, rejected⟩ := inside header
    cases kept.symm.trans rejected
  · rintro ⟨failure, rejected⟩
    by_contra free
    cases (outside free).symm.trans rejected

/-- The line break behind the name of a bird is in its header, and the one behind its brace is
not. -/
theorem types_commented_bird :
    let bird : Source := ⟨"class Bird\n extends Animal \x7b\n wing: Wing\n\x7d", usualContainers⟩
    (bird.types = .ok [⟨"Bird", .classKind, some "Animal", [],
      [⟨"wing", .visible, .single "Wing"⟩]⟩] ∧ '\n' ∉ " flies".toList) ∧
      InHeader bird.text.toList " extends Animal \x7b\n wing: Wing\n\x7d".toList ∧
        ¬ InHeader bird.text.toList " wing: Wing\n\x7d".toList := by
  intro bird
  have accepted : bird.types = .ok [⟨"Bird", .classKind, some "Animal", [],
      [⟨"wing", .visible, .single "Wing"⟩]⟩] := by
    decide +kernel
  have line : '\n' ∉ " flies".toList := by decide
  have behindName := types_commented bird _ "class Bird" " flies"
    " extends Animal \x7b\n wing: Wing\n\x7d" accepted rfl line
  have behindBrace := types_commented bird _ "class Bird\n extends Animal \x7b" " flies"
    " wing: Wing\n\x7d" accepted rfl line
  refine ⟨⟨accepted, line⟩, behindName.2.mp ⟨.parse ?_ ⟨2, 2⟩, ?_⟩, behindBrace.1.mp ?_⟩
  · exact "found 'e' expected ' ', '\t', '\n', '\x0d', '/', class, interface, or end of input"
  · decide +kernel
  · decide +kernel

/-- A comment behind a name hides the body from the declaration. -/
theorem rejected_behind_name :
    let plain : Source := ⟨"class A\n\x7b\x7d", usualContainers⟩
    let commented : Source := ⟨"class A // note\n\x7b\x7d", usualContainers⟩
    plain.types = .ok [⟨"A", .classKind, none, [], []⟩] ∧
      commented.types = .error (.parse
        "found '\x7b' expected ' ', '\t', '\n', '\x0d', '/', identifier, or end of input"
        ⟨2, 1⟩) := by
  decide +kernel

end ClassDiagram.Declaration
