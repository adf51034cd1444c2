import ClassDiagram.Proofs.DeclarationLanguage
import ClassDiagram.Proofs.PartialPhrases
import ClassDiagram.Proofs.TextPlaces
import Mathlib.Data.List.DropRight
import Mathlib.Data.List.Induction

/-! # Where a declaration source is blamed

Every reader of the declaration language tracks the phrase of the grammar that it is named for.  The
one complaint that is drawn from all remarks stands where one of them does
(`ClassDiagram.Declaration.exists_mem_of_settle`).  So a text that is not accepted is blamed right
behind something that an accepted text begins with, or farther on in the word that follows there
(`ClassDiagram.Declaration.exists_followsAccepted`).
-/

namespace ClassDiagram.Declaration

open Reader Phrase

section Settling

variable {remarks : List Remark} {complaint : Complaint}

/-- What is remarked next moves a complaint to its own place or leaves it where it is. -/
theorem exists_follow (pending : Option Complaint) (remark : Remark) :
    ∃ settled, Remark.follow pending remark = some settled ∧
      (settled.offset = remark.complaint.offset ∨
        ∃ known, pending = some known ∧ settled.offset = known.offset) := by
  cases pending with
  | none => exact ⟨_, rfl, Or.inl rfl⟩
  | some known =>
      unfold Remark.follow
      simp only
      split
      · exact ⟨_, rfl, Or.inl rfl⟩
      · split
        · refine ⟨_, rfl, Or.inr ⟨known, rfl, ?_⟩⟩
          cases remark <;> rfl
        · exact ⟨_, rfl, Or.inr ⟨known, rfl, rfl⟩⟩

/-- The complaint follows the remarks one after the other. -/
theorem settle_concat (remarks : List Remark) (last : Remark) :
    settle (remarks ++ [last]) = Remark.follow (settle remarks) last := by
  rw [settle, List.foldl_append]
  rfl

/-- A complaint stands where one of the remarks does. -/
theorem exists_mem_of_settle (settled : settle remarks = some complaint) :
    ∃ remark ∈ remarks, remark.complaint.offset = complaint.offset := by
  induction remarks using List.reverseRecOn generalizing complaint with
  | nil => cases settled
  | append_singleton remarks last ih =>
      rw [settle_concat] at settled
      obtain ⟨found, same, place⟩ := exists_follow (settle remarks) last
      cases same.symm.trans settled
      rcases place with here | ⟨known, before, there⟩
      · exact ⟨last, List.mem_concat_self, here.symm⟩
      · obtain ⟨remark, member, offset⟩ := ih before
        exact ⟨remark, List.mem_append_left _ member, offset.trans there.symm⟩

/-- Remarks leave a complaint. -/
theorem exists_settle (remarked : remarks ≠ []) : ∃ complaint, settle remarks = some complaint := by
  cases remarks using List.reverseRecOn with
  | nil => exact (remarked rfl).elim
  | append_singleton remarks last =>
      obtain ⟨complaint, settled, -⟩ := exists_follow (settle remarks) last
      exact ⟨complaint, (settle_concat _ _).trans settled⟩

end Settling

/-- Any text may stand here. -/
def Anything (_ : List Char) : Prop :=
  True

/-- Nothing may stand here. -/
def Finished (text : List Char) : Prop :=
  text = []

/-- The phrase, whatever it means. -/
def Phrase.Any {α : Type} (phrase : α → List Char → List Char → Prop) (text rest : List Char) :
    Prop :=
  ∃ value, phrase value text rest

section Characters

variable {opens closes : List Char → Prop}

theorem tracks_oneOf {among : List Char} {c : Char} (member : c ∈ among)
    (begins : ∀ other, opens (c :: other)) :
    Tracks (oneOf among) opens (fun text rest => ∃ first ∈ among, text = first :: rest) closes := by
  refine ((tracks_satisfying (List.contains_iff_mem.mpr member) (fun _ => rfl) begins).weaken
    (fun _ => id) fun _ _ => trivial).mono ?_
  rintro text rest ⟨first, accepted, there⟩
  exact ⟨first, List.contains_iff_mem.mp accepted, there⟩

theorem tracks_character {c : Char} (begins : ∀ other, opens (c :: other)) :
    Tracks (character c) opens (fun text rest => text = c :: rest) closes := by
  refine (tracks_oneOf List.mem_cons_self begins).bind_pure.mono ?_
  rintro text rest ⟨first, member, there⟩
  rwa [List.mem_singleton.mp member] at there

/-- A mark can stand behind a word. -/
theorem tracks_mark (c : Char) (mark : Text.isIdentifierPart c = false) :
    Tracks (character c) EndsWord (fun text rest => text = c :: rest) closes :=
  tracks_character fun _ => endsWord_cons mark

theorem tracks_characters (word : List Char) :
    Tracks (characters word) Anything (fun text rest => text = word ++ rest) closes := by
  have whole : Tracks (characters word) Anything (fun text rest => text = word ++ rest)
      Anything := by
    induction word with
    | nil => exact (Tracks.pure () Anything).mono fun _ _ => id
    | cons c more ih =>
        refine ((tracks_character fun _ => trivial).bind fun _ => ih).mono ?_
        rintro text rest ⟨behind, rfl, rfl⟩
        rfl
  exact whole.weaken (fun _ => id) fun _ _ => trivial

variable (closes) in
/-- A run of characters can end anywhere, so it opens with whatever may stand behind it. -/
theorem tracks_allOf (among : List Char) : Tracks (allOf among) closes (Run among) closes := by
  refine (tracks_spanning (fun _ => True) (fun _ => rfl) (fun _ _ => trivial)
    fun _ _ => trivial).mono ?_
  rintro text rest ⟨taken, accepted, -, rfl⟩
  exact run_append fun c member => List.contains_iff_mem.mp (accepted c member)

variable (closes) in
theorem tracks_blanks : Tracks blanks closes (Run whiteSpace) closes :=
  (tracks_allOf closes _).bind_pure

variable (closes) in
theorem tracks_inlineBlanks : Tracks inlineBlanks closes (Run lineSpace) closes :=
  (tracks_allOf closes _).bind_pure

/-- White space that has to be there can be put in behind a word. -/
theorem tracks_requiredBlanks : Tracks requiredBlanks EndsWord Blanks closes := by
  have space : ' ' ∈ whiteSpace := by decide
  refine ((tracks_oneOf space fun _ => endsWord_cons (by decide)).bind fun _ =>
    tracks_blanks closes).mono ?_
  rintro text rest ⟨behind, ⟨first, member, rfl⟩, more⟩
  exact .mk member more

/-- A comment goes up to here. -/
def LineEnd (text : List Char) : Prop :=
  ∀ c ∈ text.head?, c = '\n'

/-- A comment that was begun goes on to the end of a line. -/
theorem tracks_lineComment : Tracks lineComment Anything (fun text rest =>
    ∃ remark, '\n' ∉ remark ∧ LineEnd rest ∧ text = '/' :: '/' :: (remark ++ rest)) LineEnd := by
  have line : Tracks (spanning (· != '\n') .missed [.anything]) LineEnd _ LineEnd :=
    tracks_spanning (fun next => ∀ c ∈ next, c = '\n') (fun _ => rfl)
      (fun next stop c head => by simpa using stop c head) fun _ => id
  refine ((tracks_characters _).bind fun _ => line.bind_pure).mono ?_
  rintro text rest ⟨behind, rfl, remark, accepted, ends, rfl⟩
  refine ⟨remark, fun inside => ?_, ends, rfl⟩
  simpa using accepted '\n' inside

/-- Trivia that may have to end with a line go on to trivia in front of any text. -/
theorem begun_trivia {taken : List Char} (begun : Begun Trivia LineEnd taken) :
    Begun Trivia closes taken := by
  intro taking other _
  obtain ⟨more, there⟩ := begun taking ('\n' :: other) fun c head =>
    (Option.mem_some_iff.mp head).symm
  refine ⟨more ++ ['\n'], ?_⟩
  rw [List.append_assoc]
  exact there.trans (.blank (by decide) .stop)

variable (closes) in
/-- Trivia can be completed by ending the comment in which they were left. -/
theorem tracks_trivia : Tracks trivia closes Trivia closes := by
  have blank : Tracks (do
      let _ ← oneOf blankCharacters
      pure ()) Anything Trivia LineEnd := by
    have space : ' ' ∈ whiteSpace := by decide
    refine (tracks_oneOf space fun _ => trivial).bind_pure.mono ?_
    rintro text rest ⟨first, among, rfl⟩
    exact .blank among .stop
  have comment : Tracks lineComment Anything Trivia LineEnd := by
    refine tracks_lineComment.mono ?_
    rintro text rest ⟨remark, line, ends, rfl⟩
    exact .comment line ends .stop
  have lines : Tracks trivia LineEnd Trivia LineEnd :=
    (blank.either comment).many.bind_pure.mono fun _ _ pieces => by
      induction pieces with
      | refl => exact .stop
      | tail _ last ih => exact ih.trans last
  exact {
    fills := fun other closed => ⟨[], closed, .stop⟩
    reads := by
      intro cursor value reached result
      obtain ⟨taken, leads, begun, there⟩ := lines.reads result
      exact ⟨taken, leads, begun_trivia begun, there⟩
    remarks := by
      intro cursor remark member
      obtain ⟨taken, reached, word, stuck, first, begun, others⟩ :=
        lines.remarks cursor remark member
      exact ⟨taken, reached, word, stuck, first, begun_trivia begun, others⟩ }

end Characters

section Words

theorem leads_identifier {cursor reached : Cursor} {word : List Char}
    (result : (identifier cursor).result = some (word, reached)) : cursor.Leads word reached := by
  obtain ⟨first, middle, read, rest⟩ := bind_eq_some.mp result
  obtain ⟨others, more, rfl⟩ := map_eq_some.mp rest
  exact (leads_satisfying read).trans (leads_spanning more)

/-- What is remarked of an identifier is remarked where it begins or where it ends. -/
theorem offset_of_mem_identifier {cursor : Cursor} {remark : Remark}
    (member : remark ∈ (identifier cursor).remarks) :
    remark.complaint.offset = cursor.offset ∨ ∃ word reached,
      (identifier cursor).result = some (word, reached) ∧
        remark.complaint.offset = reached.offset := by
  rcases mem_bind_remarks member with none | ⟨first, middle, read, late⟩
  · exact Or.inl (offset_of_mem_satisfying (fun _ => rfl) none)
  · obtain ⟨others, reached, more, here⟩ := offset_of_mem_spanning (fun _ => rfl) late
    refine Or.inr ⟨first :: others, reached, ?_, here⟩
    exact bind_eq_some.mpr ⟨first, middle, read, map_eq_some.mpr ⟨others, more, rfl⟩⟩

/-- So whatever is remarked of an identifier is blamed on the place where it begins or on the word.
-/
theorem blamed_of_identifier {phrase : List Char → List Char → Prop} {closes : List Char → Prop}
    {cursor : Cursor} {remark : Remark} (member : remark ∈ (identifier cursor).remarks) :
    Blamed phrase closes cursor remark.complaint.offset := by
  rcases offset_of_mem_identifier member with here | ⟨word, reached, result, here⟩
  · rw [here]
    exact blamed_here _ _ _
  · rw [here]
    exact blamed_of_word (leads_identifier result) (sound_identifier result).identifier.part

/-- A word stands in front of all that does not go on with it. -/
theorem word_append {word other : List Char} (identifier : IsIdentifier word)
    (ends : EndsWord other) : Word word (word ++ other) other :=
  ⟨identifier, rfl, ends⟩

/-- A word that was read stands in front of all that begins like what is behind it. -/
theorem tracks_of_leads_identifier {cursor reached : Cursor} {word : List Char}
    (result : (identifier cursor).result = some (word, reached)) :
    ∃ taken, cursor.Leads taken reached ∧ Begun (Word word) EndsWord taken ∧
      ∀ other, other.head? = reached.rest.head? → Word word (taken ++ other) other := by
  obtain ⟨identifier, -, longest⟩ := sound_identifier result
  refine ⟨word, leads_identifier result, fun _ other ends => ?_, fun other same => ?_⟩
  · exact ⟨[], word_append identifier ends⟩
  · exact word_append identifier (by rwa [EndsWord, same])

/-- An identifier that is missing can be put in, since a letter is one. -/
theorem tracks_identifier : Tracks identifier Anything (Any Word) EndsWord where
  fills _ ends := ⟨['a'], trivial, ['a'], word_append (by decide) ends⟩
  reads _ word _ result := by
    obtain ⟨taken, leads, begun, there⟩ := tracks_of_leads_identifier result
    exact ⟨taken, leads, begun.mono (fun _ _ there => ⟨word, there⟩) fun _ => id,
      fun other same => ⟨word, there other same⟩⟩
  remarks _ _ := blamed_of_identifier

/-- What is read as a keyword can be read as an identifier. -/
theorem identifier_of_keyword {word : List Char} {cursor reached : Cursor} {value : Unit}
    (result : (keyword word cursor).result = some (value, reached)) :
    (identifier cursor).result = some (word, reached) := by
  unfold keyword at result
  simp only at result
  split at result
  · cases result
  · rename_i found middle read
    split at result
    · rename_i same
      cases result
      rw [read, same]
    · cases result

/-- What is remarked of a keyword is remarked where it begins or where its word does or ends. -/
theorem blamed_of_keyword {word : List Char} {phrase : List Char → List Char → Prop}
    {closes : List Char → Prop} {cursor : Cursor} {remark : Remark}
    (member : remark ∈ (keyword word cursor).remarks) :
    Blamed phrase closes cursor remark.complaint.offset := by
  have judged (inside : remark ∈ ((settle (identifier cursor).remarks).map Remark.judged).toList) :
      Blamed phrase closes cursor remark.complaint.offset := by
    obtain ⟨complaint, settled, rfl⟩ := Option.map_eq_some_iff.mp (Option.mem_toList.mp inside)
    obtain ⟨early, inside, here⟩ := exists_mem_of_settle settled
    have blamed : Blamed phrase closes cursor early.complaint.offset := blamed_of_identifier inside
    rwa [here] at blamed
  unfold keyword at member
  simp only at member
  split at member
  · exact judged member
  · split at member
    · exact judged member
    · cases List.mem_singleton.mp member
      exact blamed_here _ _ cursor

/-- A keyword that is missing can be put in, and one that was read stands there as a word. -/
theorem tracks_keyword {word : List Char} (identifier : IsIdentifier word) :
    Tracks (keyword word) Anything (Word word) EndsWord where
  fills _ ends := ⟨word, trivial, word_append identifier ends⟩
  reads _ _ _ result := tracks_of_leads_identifier (identifier_of_keyword result)
  remarks _ _ := blamed_of_keyword

end Words

section Joining

variable {α : Type} {phrase : α → List Char → List Char → Prop} {text rest : List Char}

/-- A phrase that was taken or left out is one that may be absent. -/
theorem exists_maybe (there : Relation.ReflGen (Any phrase) text rest) :
    Any (Maybe phrase) text rest := by
  cases there with
  | refl => exact ⟨none, .absent⟩
  | single there =>
      obtain ⟨value, there⟩ := there
      exact ⟨some value, .present there⟩

/-- One phrase and then more, each with something in front of it, are joined phrases. -/
theorem exists_joined {between : List Char → List Char → Prop}
    (there : Relation.Comp (Any phrase)
      (Relation.ReflTransGen (Relation.Comp between (Any phrase))) text rest) :
    Any (Joined phrase between) text rest := by
  obtain ⟨behind, ⟨first, read⟩, others⟩ := there
  induction others using Relation.ReflTransGen.head_induction_on generalizing text first with
  | refl => exact ⟨[first], .last read⟩
  | head piece _ ih =>
      obtain ⟨next, gap, second, there⟩ := piece
      obtain ⟨values, joined⟩ := ih second there
      exact ⟨first :: values, .more read gap joined⟩

/-- Phrases that were taken with trivia behind each are a series. -/
theorem exists_series
    (there : Relation.ReflTransGen (Relation.Comp (Any phrase) Trivia) text rest) :
    Any (Series phrase) text rest := by
  induction there using Relation.ReflTransGen.head_induction_on with
  | refl => exact ⟨[], .stop⟩
  | head piece _ ih =>
      obtain ⟨behind, ⟨value, first⟩, gap⟩ := piece
      obtain ⟨values, others⟩ := ih
      exact ⟨value :: values, .more first gap others⟩

/-- A phrase that is tracked is tracked with the trivia behind it. -/
theorem tracks_trailed [Nonempty α] {reader : Reader α} {opens closes : List Char → Prop}
    (tracks : Tracks reader opens (Any phrase) closes) :
    Tracks (trailed reader) opens (Relation.Comp (Any phrase) Trivia) closes :=
  tracks.bind fun _ => (tracks_trivia closes).bind_pure.mono fun _ _ => id

end Joining

section Types

/-- The name of a type can be broken off in front of a dot or behind one. -/
theorem tracks_typeName : Tracks typeName Anything (Any Name) EndsWord := by
  refine (tracks_identifier.separated (tracks_mark '.' (by decide))).bind_pure.mono ?_
  intro text rest there
  obtain ⟨parts, words⟩ := exists_joined there
  exact ⟨_, .mk words⟩

variable {type : Reader TypeRef}

instance : Nonempty TypeRef :=
  ⟨⟨"", [], 0⟩⟩

/-- An argument is tracked with the white space around it if a written type is. -/
theorem tracks_argument (tracks : Tracks type Anything (Any Ref) EndsWord) :
    Tracks (argument type) Anything (Any fun argument text rest => ∃ start behind,
      Run lineSpace text start ∧ Ref argument start behind ∧
        Run lineSpace behind rest) EndsWord := by
  refine ((tracks_inlineBlanks Anything).bind fun _ => tracks.bind fun _ =>
    (tracks_inlineBlanks EndsWord).bind_pure).mono ?_
  rintro text rest ⟨start, before, behind, ⟨type, there⟩, after⟩
  exact ⟨type, start, behind, before, there, after⟩

/-- So are the arguments, up to the angle bracket that closes them. -/
theorem tracks_argumentList (tracks : Tracks type Anything (Any Ref) EndsWord) :
    Tracks (argumentList type) Anything (Any fun arguments text rest =>
      ∃ inside, text = '<' :: inside ∧ ArgumentList arguments inside ('>' :: rest)) EndsWord := by
  refine ((tracks_character fun _ => trivial).bind fun _ =>
    ((tracks_argument tracks).separated (tracks_mark ',' (by decide))).bind fun _ =>
    (tracks_mark '>' (by decide)).bind_pure).mono ?_
  rintro text rest ⟨inside, opened, _, listed, rfl⟩
  obtain ⟨arguments, joined⟩ := exists_joined listed
  exact ⟨arguments, inside, opened, argumentList_of_joined joined⟩

/-- Arguments that were taken or left out are those of a written type. -/
theorem exists_arguments {text rest : List Char}
    (there : Relation.ReflGen (Any fun arguments text rest =>
      ∃ inside, text = '<' :: inside ∧ ArgumentList arguments inside ('>' :: rest)) text rest) :
    Any Arguments text rest := by
  cases there with
  | refl => exact ⟨[], .none⟩
  | single listed =>
      obtain ⟨arguments, inside, rfl, read⟩ := listed
      exact ⟨arguments, .some read⟩

/-- Pairs of brackets that were taken one after the other are the brackets of some rank. -/
theorem exists_brackets {text rest : List Char}
    (there : Relation.ReflTransGen (fun text rest => text = ['[', ']'] ++ rest) text rest) :
    Any Brackets text rest := by
  induction there using Relation.ReflTransGen.head_induction_on with
  | refl => exact ⟨0, .none⟩
  | head pair _ ih =>
      obtain ⟨rank, more⟩ := ih
      exact ⟨rank + 1, pair ▸ .pair more⟩

/-- Where nothing may be nested any more nothing is taken. -/
theorem tracks_typeRefWithin (depth : Nat) :
    Tracks (typeRefWithin depth) Anything (Any Ref) EndsWord := by
  induction depth with
  | zero =>
      have short : IsIdentifier ['a'] := by decide
      exact {
        fills := fun other ends =>
          ⟨['a'], trivial, _, .mk (.mk (.last (word_append short ends))) .none .none⟩
        reads := fun _ _ _ result => nomatch result
        remarks := fun _ _ member => nomatch member }
  | succ depth ih =>
      refine (tracks_typeName.bind fun _ => (tracks_argumentList ih).optional.bind fun _ =>
        (tracks_characters ['[', ']']).many.bind_pure).mono ?_
      rintro text rest ⟨behindName, ⟨name, named⟩, behindArguments, maybe, pairs⟩
      obtain ⟨arguments, listed⟩ := exists_arguments maybe
      obtain ⟨rank, ranked⟩ := exists_brackets pairs
      exact ⟨_, .mk named listed ranked⟩

/-- A written type is tracked however deep the text lets it be nested. -/
theorem tracks_typeRef : Tracks typeRef Anything (Any Ref) EndsWord where
  fills := (tracks_typeRefWithin 0).fills
  reads cursor _ _ result := (tracks_typeRefWithin (cursor.rest.length + 1)).reads result
  remarks cursor := (tracks_typeRefWithin (cursor.rest.length + 1)).remarks cursor

end Types

section Declarations

instance : Nonempty WrittenMember :=
  ⟨⟨none, "", ⟨"", [], 0⟩⟩⟩

instance : Nonempty WrittenType :=
  ⟨⟨.classKind, "", none, [], []⟩⟩

instance : Nonempty Kind :=
  ⟨.classKind⟩

theorem tracks_semicolon : Tracks semicolon EndsWord (Any Semicolon) EndsWord := by
  refine ((tracks_inlineBlanks EndsWord).bind fun _ => tracks_mark ';' (by decide)).mono ?_
  rintro text _ ⟨behind, before, rfl⟩
  exact ⟨(), .mk before⟩

/-- A member can be completed from every place within it. -/
theorem tracks_member : Tracks member Anything (Any Phrase.Member) EndsWord := by
  have marks : Tracks (oneOf visibilityMarks) Anything (Any Mark) Anything := by
    have plus : '+' ∈ visibilityMarks := by decide
    refine (tracks_oneOf plus fun _ => trivial).mono ?_
    rintro text rest ⟨mark, among, rfl⟩
    obtain ⟨visibility, meant⟩ := exists_ofMark? among
    exact ⟨visibility, mark_iff.mpr ⟨among, meant⟩⟩
  refine (marks.optional.bind fun _ => (tracks_inlineBlanks Anything).bind fun _ =>
    tracks_identifier.bind fun _ => (tracks_inlineBlanks EndsWord).bind fun _ =>
    (tracks_mark ':' (by decide)).bind fun _ => (tracks_inlineBlanks Anything).bind fun _ =>
    tracks_typeRef.bind fun _ => tracks_semicolon.optional.bind_pure).mono ?_
  rintro text rest ⟨_, maybe, _, beforeWord, _, ⟨word, named⟩, _, beforeColon, _, rfl,
    _, afterColon, _, ⟨type, typed⟩, maybeEnded⟩
  obtain ⟨mark, marked⟩ := exists_maybe maybe
  obtain ⟨ended, ends⟩ := exists_maybe maybeEnded
  exact ⟨_, .mk marked beforeWord named beforeColon afterColon typed ends⟩

/-- A clause is tracked if what stands behind its word is. -/
theorem tracks_clause {α : Type} {reader : Reader α} {phrase : α → List Char → List Char → Prop}
    (tracks : Tracks reader Anything (Any phrase) EndsWord) (word : String)
    (identifier : IsIdentifier word.toList) :
    Tracks (clause word.toList reader) EndsWord (Any (Clause word phrase)) EndsWord := by
  refine (tracks_requiredBlanks.bind fun _ => (tracks_keyword identifier).bind fun _ =>
    tracks_requiredBlanks.bind fun _ => tracks).mono ?_
  rintro text rest ⟨_, before, _, keyword, _, after, value, there⟩
  exact ⟨value, .mk before keyword after there⟩

/-- A body can be completed by the member that it is left in and a brace. -/
theorem tracks_body : Tracks body EndsWord (Any Body) EndsWord := by
  refine ((tracks_blanks EndsWord).bind fun _ => (tracks_mark '\x7b' (by decide)).bind fun _ =>
    (tracks_trivia EndsWord).bind fun _ => (tracks_trailed tracks_member).many.bind fun _ =>
    (tracks_mark '\x7d' (by decide)).bind_pure).mono ?_
  rintro text rest ⟨_, before, _, rfl, start, gap, _, members, rfl⟩
  obtain ⟨values, series⟩ := exists_series members
  exact ⟨values, .mk before gap series⟩

/-- Either word that opens a declaration is tracked as that of its kind. -/
theorem tracks_kind :
    Tracks kind Anything (Any fun kind : Kind => Word (opening kind).toList) EndsWord := by
  have opening (kind : Kind) : Tracks (do
      keyword (opening kind).toList
      pure kind) Anything (Any fun kind : Kind => Word (opening kind).toList) EndsWord := by
    have identifier : IsIdentifier (opening kind).toList := by cases kind <;> decide
    exact (tracks_keyword identifier).bind_pure.mono fun _ _ there => ⟨kind, there⟩
  exact (opening .classKind).either (opening .interfaceKind)

/-- A comma is tracked with the white space on both sides. -/
theorem tracks_comma : Tracks comma EndsWord Comma Anything := by
  refine ((tracks_blanks EndsWord).bind fun _ => (tracks_mark ',' (by decide)).bind fun _ =>
    tracks_blanks Anything).mono ?_
  rintro text rest ⟨_, before, _, rfl, after⟩
  exact .mk before after

/-- A declaration can be completed from every place in its heading and in its body. -/
theorem tracks_declaration : Tracks declaration Anything (Any Declared) EndsWord := by
  have names : Tracks (separated typeName comma) Anything (Any (Joined Name Comma)) EndsWord :=
    (tracks_typeName.separated tracks_comma).mono fun _ _ => exists_joined
  have extended : Tracks (clause ['e', 'x', 't', 'e', 'n', 'd', 's'] typeName) EndsWord
      (Any (Clause "extends" Name)) EndsWord := tracks_clause tracks_typeName "extends" (by decide)
  have implemented :
      Tracks (clause ['i', 'm', 'p', 'l', 'e', 'm', 'e', 'n', 't', 's'] (separated typeName comma))
        EndsWord (Any (Clause "implements" (Joined Name Comma))) EndsWord :=
    tracks_clause names "implements" (by decide)
  refine (tracks_kind.bind fun _ => tracks_requiredBlanks.bind fun _ =>
    tracks_typeName.bind fun _ => extended.optional.bind fun _ =>
    implemented.optional.bind fun _ => tracks_body.optional.bind_pure).mono ?_
  rintro text rest ⟨_, ⟨kind, opened⟩, _, gap, _, ⟨name, named⟩, _, maybeBase, _, maybeInterfaces,
    maybeBody⟩
  obtain ⟨base, based⟩ := exists_maybe maybeBase
  obtain ⟨interfaces, implementing⟩ := exists_maybe maybeInterfaces
  obtain ⟨members, bodied⟩ := exists_maybe maybeBody
  exact ⟨_, .mk opened gap named based implementing bodied⟩

/-- The end of a text takes nothing, and where it is missing the next character is blamed. -/
theorem tracks_atEnd : Tracks atEnd EndsWord (fun text rest => text = [] ∧ rest = []) Finished where
  fills := by
    rintro other rfl
    exact ⟨[], (fun _ head => nomatch head), rfl, rfl⟩
  reads := by
    rintro ⟨text, offset⟩ value reached result
    cases text with
    | nil =>
        cases result
        refine ⟨[], .refl _, begun_nil _ _, fun other same => ?_⟩
        rw [List.head?_nil, List.head?_eq_none_iff] at same
        exact ⟨same, same⟩
    | cons c rest => cases result
  remarks := by
    rintro ⟨text, offset⟩ remark member
    cases text with
    | nil => cases member
    | cons c rest =>
        cases List.mem_singleton.mp member
        exact blamed_here _ _ ⟨c :: rest, offset⟩

/-- What was taken of a source goes on to a source that is accepted. -/
theorem tracks_source :
    Tracks source EndsWord (Any fun written text _ => File written text) Finished := by
  refine ((tracks_trivia EndsWord).bind fun _ =>
    (tracks_trailed tracks_declaration).many.bind fun _ => tracks_atEnd.bind_pure).mono ?_
  rintro text _ ⟨start, gap, _, declarations, rfl, rfl⟩
  obtain ⟨written, series⟩ := exists_series declarations
  exact ⟨written, start, gap, series⟩

/-- What was taken of a written type goes on to one that stands alone. -/
theorem tracks_wholeTypeRef :
    Tracks wholeTypeRef Anything (Any fun type text _ => Ref type text []) Finished := by
  refine (tracks_typeRef.bind fun _ => tracks_atEnd.bind_pure).mono ?_
  rintro text _ ⟨_, ⟨type, read⟩, rfl, rfl⟩
  exact ⟨type, read⟩

end Declarations

section Places

/-- The characters of a word behind a text are among those dropped from its end. -/
theorem rdropWhile_append {α : Type} {accepts : α → Bool} (front : List α) {back : List α}
    (accepted : ∀ each ∈ back, accepts each = true) :
    (front ++ back).rdropWhile accepts = front.rdropWhile accepts := by
  rw [List.rdropWhile, List.reverse_append, List.dropWhile_append_of_pos]
  · rfl
  · exact fun each member => accepted each (List.mem_reverse.mp member)

/-- A position in a text that follows the beginning of an accepted text, or stands farther on in the
word behind it.  It is that of a byte offset which cuts no character. -/
def FollowsAccepted (accepted : String → Prop) (text : String) (position : Position) : Prop :=
  ∃ offset before whole, offset ≤ byteCount text.toList ∧
    takeBytes? offset text.toList = some before ∧ lineColumn? text.toList offset = some position ∧
    accepted whole ∧ before.rdropWhile Text.isIdentifierPart <+: whole.toList

variable {α : Type} {reader : Reader α}

/-- Where a text goes on, the end that is missing is remarked. -/
theorem speaks_atEnd : Speaks atEnd := by
  rintro ⟨text, offset⟩ failed
  cases text with
  | nil => cases failed
  | cons c rest => exact List.cons_ne_nil _ _

/-- A name is not missed in silence. -/
theorem speaks_typeName : Speaks typeName := by
  have identifiers : Speaks identifier :=
    speaks_bind speaks_satisfying fun _ => speaks_map fun _ failed => nomatch failed
  exact speaks_bind (speaks_bind identifiers fun _ => speaks_map (speaks_many _))
    fun _ => speaks_pure _

theorem speaks_wholeTypeRef : Speaks wholeTypeRef := by
  have types : Speaks typeRef := fun cursor =>
    speaks_bind speaks_typeName (fun _ => speaks_bind (speaks_either_pure _ none) fun _ =>
      speaks_bind (speaks_many _) fun _ => speaks_pure _) cursor
  exact speaks_bind types fun _ => speaks_bind speaks_atEnd fun _ => speaks_pure _

/-- No source is refused in silence. -/
theorem speaks_source : Speaks source :=
  speaks_bind (speaks_bind (speaks_many _) fun _ => speaks_pure _) fun _ =>
    speaks_bind (speaks_many _) fun _ => speaks_bind speaks_atEnd fun _ => speaks_pure _

/-- Where a reader of whole texts fails, it blames what it could not take. -/
theorem followsAccepted_of_error {opens : List Char → Prop}
    {phrase : α → List Char → List Char → Prop} {accepted : String → Prop} {text : String}
    {failed : Failure}
    (tracks : Tracks reader opens (Any phrase) Finished) (speaks : Speaks reader)
    (accepts : ∀ value whole, phrase value whole [] → accepted (String.ofList whole))
    (rejected : read reader text = .error failed) :
    ∃ message position, failed = .parse message position ∧
      FollowsAccepted accepted text position := by
  unfold read at rejected
  simp only [Reader.start] at rejected
  split at rejected
  · cases rejected
  · rename_i result
    obtain ⟨complaint, settled⟩ := exists_settle (speaks _ result)
    obtain ⟨remark, member, here⟩ := exists_mem_of_settle settled
    obtain ⟨taken, reached, word, stuck, leads, begun, goes, part, there⟩ :=
      tracks.remarks _ remark member
    have place : complaint.offset = (taken ++ word).length := by
      rw [← here, ← there, (leads.trans goes).offset, Nat.zero_add]
    have spelled : text.toList = (taken ++ word) ++ stuck.rest := (leads.trans goes).rest
    have cut : takeBytes? (byteCount (taken ++ word)) text.toList = some (taken ++ word) := by
      rw [spelled, takeBytes?_append]
    have whole : ∃ whole value, phrase value whole [] ∧ taken <+: whole := by
      by_cases empty : taken = []
      · obtain ⟨more, -, value, there⟩ := tracks.fills [] rfl
        exact ⟨_, value, there, empty ▸ List.nil_prefix⟩
      · obtain ⟨more, value, there⟩ := begun empty [] rfl
        exact ⟨_, value, there, List.prefix_append _ _⟩
    obtain ⟨whole, value, there, front⟩ := whole
    refine ⟨complaint.message, Position.after (taken ++ word), ?_, byteCount (taken ++ word),
      taken ++ word, String.ofList whole, ?_, cut, ?_, accepts value whole there, ?_⟩
    · cases rejected
      unfold failure
      rw [settled]
      simp only
      rw [place, spelled, List.take_left]
    · rw [spelled, byteCount_append _ stuck.rest]
      exact Nat.le_add_right _ _
    · rw [lineColumn?, cut, Option.map_some]
    · rw [rdropWhile_append taken part, String.toList_ofList]
      exact (List.rdropWhile_prefix _ _).trans front

/-- **Where a text is blamed.** A source or a written type that is not accepted is answered with a
report of a mistake, and the position that is reported follows the beginning of an accepted text of
the same kind or stands in the word behind it. -/
theorem exists_followsAccepted :
    (∀ (source : Source) (failure : Failure), source.types = .error failure →
      ∃ message position, failure = .parse message position ∧
        FollowsAccepted (fun whole => ∃ types, { source with text := whole }.types = .ok types)
          source.text position) ∧
    ∀ (text : String) (failure : Failure), readTypeRef text = .error failure →
      ∃ message position, failure = .parse message position ∧
        FollowsAccepted (fun whole => ∃ type, readTypeRef whole = .ok type) text position := by
  constructor
  · intro source failure rejected
    have unread : source.written = .error failure := by
      unfold Source.types at rejected
      cases written : source.written with
      | ok found =>
          rw [written] at rejected
          cases rejected
      | error other =>
          rw [written] at rejected
          cases rejected
          rfl
    refine followsAccepted_of_error tracks_source speaks_source ?_ unread
    intro written whole file
    refine ⟨_, Source.types_eq_ok.mpr ⟨written, Source.written_eq_ok_iff.mpr ?_, rfl⟩⟩
    rwa [String.toList_ofList]
  · intro text failure rejected
    refine followsAccepted_of_error tracks_wholeTypeRef speaks_wholeTypeRef ?_ rejected
    intro type whole there
    refine ⟨type, read_eq_ok.mpr ?_⟩
    rw [String.toList_ofList]
    obtain ⟨behind, result⟩ := reads_wholeTypeRef there 0
    exact ⟨_, result⟩

/-- A member without a colon is blamed at its type, and a list without an end behind the accents of
what it lists. -/
theorem exists_followsAccepted_in_bird :
    let source : Source := ⟨"class Bird \x7b\n  wing Wing\n\x7d", usualContainers⟩
    let mistake : Position → Failure := .parse "found 'W' expected ' ', '\t', or ':'"
    let unended : Position → Failure :=
      .parse "found end of input expected identifier, '.', '<', '[', ' ', '\t', ',', or '>'"
    (source.types = .error (mistake ⟨2, 8⟩) ∧ readTypeRef "List<été" = .error (unended ⟨1, 9⟩)) ∧
      (∃ message position, mistake ⟨2, 8⟩ = .parse message position ∧
        FollowsAccepted (fun whole => ∃ types, { source with text := whole }.types = .ok types)
          source.text position) ∧
      ∃ message position, unended ⟨1, 9⟩ = .parse message position ∧
        FollowsAccepted (fun whole => ∃ type, readTypeRef whole = .ok type) "List<été"
          position := by
  intro source mistake unended
  have rejected : source.types = .error (mistake ⟨2, 8⟩) := by decide +kernel
  have unread : readTypeRef "List<été" = .error (unended ⟨1, 9⟩) := by
    have seen : (match readTypeRef "List<été" with
        | .ok _ => none
        | .error failure => some failure) = some (unended ⟨1, 9⟩) := by
      decide +kernel
    cases read : readTypeRef "List<été" with
    | ok type =>
        rw [read] at seen
        cases seen
    | error failure =>
        rw [read] at seen
        rw [Option.some.inj seen]
  exact ⟨⟨rejected, unread⟩, exists_followsAccepted.1 _ _ rejected,
    exists_followsAccepted.2 _ _ unread⟩

end Places

end ClassDiagram.Declaration
