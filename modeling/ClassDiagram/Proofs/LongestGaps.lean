import ClassDiagram.Proofs.ComplaintPlaces
import ClassDiagram.Proofs.DeclarationCompleteness

/-! # Gaps are taken whole

The readers of white space and comments take the longest beginning of a text that is the phrase they
are named for (`ClassDiagram.Declaration.TakesLongest`).  A repetition whose reader takes a
character in every round ends where that reader fails (`ClassDiagram.Declaration.Reader.Loops`), so
trivia go up to a place where neither white space nor a comment begins.  All trivia at the beginning
of a text can be continued to there (`ClassDiagram.Declaration.Phrase.Trivia.of_stuck`), which makes
them the longest.
-/

namespace ClassDiagram.Declaration

open Reader Phrase

namespace Reader

variable {α : Type} {reader : Reader α}

/-- A reader that can be repeated: it never succeeds without taking a character, and its repetition
goes on until it fails. -/
structure Loops (reader : Reader α) : Prop where
  advances : ∀ ⦃cursor : Cursor⦄ ⦃value : α⦄ ⦃reached : Cursor⦄,
    (reader cursor).result = some (value, reached) → reached.rest.length < cursor.rest.length
  ends : ∀ cursor, ∃ values reached,
    (many reader cursor).result = some (values, reached) ∧ (reader reached).result = none

/-- Within as many rounds as there are characters a reader that takes a character in each of them
comes to fail. -/
theorem exists_manyWithin (advances : ∀ ⦃cursor : Cursor⦄ ⦃value : α⦄ ⦃reached : Cursor⦄,
      (reader cursor).result = some (value, reached) → reached.rest.length < cursor.rest.length)
    {bound : Nat} {cursor : Cursor} (enough : cursor.rest.length < bound) :
    ∃ values reached, (manyWithin reader bound cursor).result = some (values, reached) ∧
      (reader reached).result = none := by
  induction bound generalizing cursor with
  | zero => exact (Nat.not_lt_zero _ enough).elim
  | succ bound ih =>
      cases first : (reader cursor).result with
      | none =>
          refine ⟨[], cursor, either_eq_some.mpr (Or.inr ⟨?_, rfl⟩), first⟩
          rw [bind_result, first, Option.bind_none]
      | some read =>
          obtain ⟨value, middle⟩ := read
          have shorter := advances first
          obtain ⟨values, reached, others, stuck⟩ := @ih middle (by omega)
          refine ⟨value :: values, reached, either_eq_some.mpr (Or.inl ?_), stuck⟩
          exact bind_eq_some.mpr ⟨value, middle, first, map_eq_some.mpr ⟨values, others, rfl⟩⟩

/-- A reader that takes a character in every round can be repeated. -/
theorem loops_of_advances (advances : ∀ ⦃cursor : Cursor⦄ ⦃value : α⦄ ⦃reached : Cursor⦄,
      (reader cursor).result = some (value, reached) → reached.rest.length < cursor.rest.length) :
    Loops reader where
  advances := advances
  ends cursor := exists_manyWithin advances (Nat.lt_succ_self cursor.rest.length)

section Characters

variable (accepts : Char → Bool) (remark : Complaint → Remark) (expected : List Expectation)

theorem loops_satisfying : Loops (satisfying accepts remark expected) := by
  refine loops_of_advances fun cursor c reached result => ?_
  obtain ⟨-, spelled⟩ := sound_satisfying result
  rw [spelled]
  exact Nat.lt_succ_self _

/-- Reading all characters of a class that follow is reading one of them as often as it is there. -/
theorem spanning_result (cursor : Cursor) :
    (spanning accepts remark expected cursor).result =
      (many (satisfying accepts remark expected) cursor).result := by
  have within (text : List Char) (offset bound : Nat) (enough : text.length < bound) :
      (spanning accepts remark expected ⟨text, offset⟩).result =
        (manyWithin (satisfying accepts remark expected) bound ⟨text, offset⟩).result := by
    induction text generalizing offset bound with
    | nil =>
        obtain ⟨bound, rfl⟩ := Nat.exists_eq_succ_of_ne_zero (Nat.ne_zero_of_lt enough)
        rfl
    | cons c rest ih =>
        obtain ⟨bound, rfl⟩ := Nat.exists_eq_succ_of_ne_zero (Nat.ne_zero_of_lt enough)
        have others := ih (offset + 1) bound (Nat.lt_of_succ_lt_succ enough)
        rw [manyWithin, either_result, bind_result]
        by_cases accepted : accepts c = true
        · have first : (satisfying accepts remark expected ⟨c :: rest, offset⟩).result =
              some (c, ⟨rest, offset + 1⟩) := by
            simp only [satisfying, accepted, ↓reduceIte]
          rw [first, Option.bind_some, map_result, ← others]
          simp [spanning, accepted, Nat.add_assoc, Nat.add_comm 1]
        · have first : (satisfying accepts remark expected ⟨c :: rest, offset⟩).result = none := by
            simp only [satisfying, accepted, Bool.false_eq_true, ↓reduceIte]
          rw [first, Option.bind_none]
          simp [spanning, accepted]
  exact within _ _ _ (Nat.lt_succ_self _)

end Characters

end Reader

/-- Where as much is left as there was nothing was taken. -/
theorem Cursor.Leads.eq_of_rest_eq {cursor reached : Cursor} {taken : List Char}
    (leads : cursor.Leads taken reached) (same : reached.rest = cursor.rest) :
    reached = cursor := by
  obtain ⟨spelled, moved⟩ := leads
  obtain ⟨text, offset⟩ := cursor
  obtain ⟨rest, behind⟩ := reached
  cases same
  have nothing : taken = [] := List.self_eq_append_left.mp spelled
  rw [nothing, List.length_nil, Nat.add_zero] at moved
  cases moved
  rfl

/-- On every text the reader takes the longest beginning that is the phrase and leaves the rest,
which is stuck: nothing more can be taken there.  It fails only where no beginning is the phrase. -/
structure TakesLongest (reader : Reader Unit) (phrase : List Char → List Char → Prop)
    (stuck : List Char → Prop) : Prop where
  leads : ∀ ⦃cursor reached⦄, (reader cursor).result = some ((), reached) →
    ∃ taken, cursor.Leads taken reached
  takes : ∀ ⦃cursor reached⦄, (reader cursor).result = some ((), reached) →
    phrase cursor.rest reached.rest
  longest : ∀ ⦃cursor reached⦄, (reader cursor).result = some ((), reached) →
    ∀ rest, phrase cursor.rest rest → reached.rest <:+ rest
  stops : ∀ ⦃cursor reached⦄, (reader cursor).result = some ((), reached) → stuck reached.rest
  still : ∀ ⦃cursor reached⦄, stuck cursor.rest → (reader cursor).result = some ((), reached) →
    reached = cursor
  again : ∀ ⦃cursor reached next⦄, (reader cursor).result = some ((), reached) →
    (reader reached).result = some ((), next) → next = reached
  fails_iff : ∀ cursor, (reader cursor).result = none ↔ ∀ rest, ¬ phrase cursor.rest rest

/-- A reader takes the longest phrase if it takes every phrase at the beginning of a text, or goes
on from there, and ends where no phrase takes anything. -/
theorem takesLongest_of_sound {reader : Reader Unit} {phrase : List Char → List Char → Prop}
    {stuck : List Char → Prop} (sound : Sound reader fun _ => phrase)
    (leads : ∀ ⦃cursor reached⦄, (reader cursor).result = some ((), reached) →
      ∃ taken, cursor.Leads taken reached)
    (goesOn : ∀ text rest, phrase text rest → ∃ last, Reads reader () text last ∧ last <:+ rest ∧
      stuck last)
    (still : ∀ text rest, stuck text → phrase text rest → rest = text) :
    TakesLongest reader phrase stuck := by
  have reaches {cursor reached : Cursor} {rest : List Char}
      (result : (reader cursor).result = some ((), reached)) (there : phrase cursor.rest rest) :
      reached.rest <:+ rest ∧ stuck reached.rest := by
    obtain ⟨last, reads, behind, stops⟩ := goesOn _ _ there
    obtain ⟨offset, found⟩ := reads cursor.offset
    have same : reached = ⟨last, offset⟩ := by
      rw [result, Option.some.injEq, Prod.mk.injEq] at found
      exact found.2
    rw [same]
    exact ⟨behind, stops⟩
  have stays {cursor reached : Cursor} (there : stuck cursor.rest)
      (result : (reader cursor).result = some ((), reached)) : reached = cursor := by
    obtain ⟨taken, goes⟩ := leads result
    exact goes.eq_of_rest_eq (still _ _ there (sound result))
  constructor
  case leads => exact leads
  case takes => exact fun cursor reached result => sound result
  case longest => exact fun cursor reached result rest there => (reaches result there).1
  case stops => exact fun cursor reached result => (reaches result (sound result)).2
  case still => exact fun cursor reached => stays
  case again => exact fun cursor reached next result => stays (reaches result (sound result)).2
  case fails_iff =>
    intro cursor
    constructor
    · intro failed rest there
      obtain ⟨last, reads, -⟩ := goesOn _ _ there
      obtain ⟨offset, found⟩ := reads cursor.offset
      rw [failed] at found
      cases found
    · intro none
      by_contra read
      obtain ⟨⟨_, reached⟩, result⟩ := Option.ne_none_iff_exists'.mp read
      exact none _ (sound result)

/-- A reader of what may be absent never fails. -/
theorem TakesLongest.ne_none {reader : Reader Unit} {phrase : List Char → List Char → Prop}
    {stuck : List Char → Prop} (takes : TakesLongest reader phrase stuck)
    (absent : ∀ text, phrase text text) (cursor : Cursor) : (reader cursor).result ≠ none :=
  fun failed => (takes.fails_iff cursor).mp failed cursor.rest (absent cursor.rest)

/-- A reader of what takes a character at least fails exactly where it is stuck. -/
theorem TakesLongest.eq_none_iff {reader : Reader Unit} {phrase : List Char → List Char → Prop}
    {stuck : List Char → Prop} (takes : TakesLongest reader phrase stuck)
    (never : ∀ text rest, stuck text → ¬ phrase text rest)
    (always : ∀ text, ¬ stuck text → ∃ rest, phrase text rest) (cursor : Cursor) :
    (reader cursor).result = none ↔ stuck cursor.rest := by
  rw [takes.fails_iff]
  constructor
  · intro none
    by_contra free
    obtain ⟨rest, there⟩ := always _ free
    exact none rest there
  · exact fun there rest => never _ rest there

namespace Phrase

variable {among text rest other : List Char}

/-- The beginning of a comment, up to some place in its line. -/
def Comment (text rest : List Char) : Prop :=
  ∃ remark, '\n' ∉ remark ∧ text = '/' :: '/' :: (remark ++ rest)

/-- The text does not begin with a comment. -/
def NoComment (text : List Char) : Prop :=
  ¬ ['/', '/'] <+: text

/-- A text begins with a comment if it begins with two slashes. -/
theorem noComment_iff : NoComment text ↔ ∀ more, text ≠ '/' :: '/' :: more := by
  unfold NoComment
  rw [List.prefix_iff_exists_eq_append]
  exact not_exists

/-- A run of characters can be continued to where none of them follows. -/
theorem Run.dropWhile_suffix (run : Run among text rest) :
    text.dropWhile among.contains <:+ rest := by
  rw [run.dropWhile_eq]
  exact List.dropWhile_suffix _

/-- Where none of the characters follows a run of them takes nothing. -/
theorem Run.eq_of_apart (run : Run among text rest) (apart : Apart among text) : rest = text := by
  cases run with
  | stop => rfl
  | step member _ => exact (apart_cons.mp apart member).elim

/-- Where neither white space nor a comment begins there are no trivia. -/
theorem Trivia.eq_of_stuck (read : Trivia text rest) (apart : Apart whiteSpace text)
    (none : NoComment text) : rest = text := by
  cases read with
  | stop => rfl
  | blank member _ => exact (apart_cons.mp apart member).elim
  | comment _ _ _ => exact (noComment_iff.mp none _ rfl).elim

/-- What is behind trivia is an end of the text. -/
theorem Trivia.suffix (read : Trivia text rest) : rest <:+ text := by
  induction read with
  | stop => exact List.suffix_rfl
  | blank _ _ ih => exact ih.trans (List.suffix_cons _ _)
  | comment _ _ _ ih =>
      exact ((ih.trans (List.suffix_append _ _)).trans (List.suffix_cons _ _)).trans
        (List.suffix_cons _ _)

/-- The line of a comment ends at one place only. -/
theorem comment_unique {remark note : List Char} (line : '\n' ∉ remark)
    (ends : ∀ c ∈ rest.head?, c = '\n') (noteLine : '\n' ∉ note)
    (noteEnds : ∀ c ∈ other.head?, c = '\n') (same : remark ++ rest = note ++ other) :
    rest = other := by
  have ending {remark rest : List Char} (line : '\n' ∉ remark)
      (ends : ∀ c ∈ rest.head?, c = '\n') : (remark ++ rest).dropWhile (· != '\n') = rest := by
    rw [List.dropWhile_append_of_pos]
    · cases rest with
      | nil => rfl
      | cons c more =>
          rw [ends c rfl]
          rfl
    · exact fun c member => bne_iff_ne.mpr fun equal => line (equal ▸ member)
  rw [← ending line ends, same, ending noteLine noteEnds]

/-- Trivia can be continued to where neither white space nor a comment begins. -/
theorem Trivia.of_stuck (whole : Trivia text rest) (apart : Apart whiteSpace rest)
    (none : NoComment rest) (read : Trivia text other) : Trivia other rest := by
  induction read with
  | stop => exact whole
  | blank member _ ih =>
      cases whole with
      | stop => exact (apart_cons.mp apart member).elim
      | blank _ more => exact ih more
      | comment _ _ _ => exact absurd member (by decide)
  | @comment remark text _ line ends _ ih =>
      generalize spelled : '/' :: '/' :: (remark ++ text) = start at whole
      cases whole with
      | stop => exact (noComment_iff.mp none _ spelled.symm).elim
      | blank member _ =>
          rw [← (List.cons.inj spelled).1] at member
          exact absurd member (by decide)
      | comment otherLine otherEnds more =>
          have same := (List.cons.inj (List.cons.inj spelled).2).2
          exact ih (comment_unique line ends otherLine otherEnds same ▸ more)

end Phrase

section Gaps

variable {among text rest : List Char}

/-- What is read with nothing behind it takes the longest run. -/
theorem takesLongest_run {reader : Reader Unit}
    (sound : Sound reader fun _ => Run among)
    (leads : ∀ ⦃cursor reached⦄, (reader cursor).result = some ((), reached) →
      ∃ taken, cursor.Leads taken reached)
    (reads : ∀ text rest, Run among text rest → Apart among rest → Reads reader () text rest) :
    TakesLongest reader (Run among) (Apart among) := by
  refine takesLongest_of_sound sound leads ?_ fun text rest apart run => run.eq_of_apart apart
  intro text rest run
  exact ⟨_, reads _ _ (run_dropWhile among text) (apart_dropWhile among text),
    run.dropWhile_suffix, apart_dropWhile among text⟩

theorem takesLongest_blanks :
    TakesLongest blanks (Run whiteSpace) (Apart whiteSpace) := by
  refine takesLongest_run sound_blanks (fun cursor reached result => ?_) fun _ _ => reads_blanks
  obtain ⟨taken, leads, -⟩ := (tracks_blanks Anything).reads result
  exact ⟨taken, leads⟩

theorem takesLongest_inlineBlanks :
    TakesLongest inlineBlanks (Run lineSpace) (Apart lineSpace) := by
  refine takesLongest_run sound_inlineBlanks (fun cursor reached result => ?_)
    fun _ _ => reads_inlineBlanks
  obtain ⟨taken, leads, -⟩ := (tracks_inlineBlanks Anything).reads result
  exact ⟨taken, leads⟩

/-- White space that has to be there is taken whole as well. -/
theorem takesLongest_requiredBlanks :
    TakesLongest requiredBlanks Blanks (Apart whiteSpace) := by
  refine takesLongest_of_sound sound_requiredBlanks (fun cursor reached result => ?_) ?_ ?_
  · obtain ⟨taken, leads, -⟩ := (@tracks_requiredBlanks Anything).reads result
    exact ⟨taken, leads⟩
  · intro text rest blanks
    cases blanks with
    | mk member more =>
        have apart := apart_dropWhile whiteSpace
        exact ⟨_, reads_requiredBlanks (.mk member (run_dropWhile _ _)) (apart _),
          more.dropWhile_suffix, apart _⟩
  · intro text rest apart blanks
    exact blanks.run.eq_of_apart apart

/-- A comment is taken up to the end of its line. -/
theorem takesLongest_lineComment : TakesLongest lineComment Comment NoComment := by
  have sound : Sound lineComment fun _ => Comment :=
    sound_lineComment.mono fun _ _ _ ⟨remark, spelled, line, _⟩ => ⟨remark, line, spelled⟩
  refine takesLongest_of_sound sound (fun cursor reached result => ?_) ?_ ?_
  · obtain ⟨taken, leads, -⟩ := tracks_lineComment.reads result
    exact ⟨taken, leads⟩
  · rintro text rest ⟨remark, line, rfl⟩
    have inside : ∀ c ∈ remark, (c != '\n') = true :=
      fun c member => bne_iff_ne.mpr fun equal => line (equal ▸ member)
    have behind : (remark ++ rest).dropWhile (· != '\n') <:+ rest := by
      rw [List.dropWhile_append_of_pos inside]
      exact List.dropWhile_suffix _
    have wholeLine : '\n' ∉ (remark ++ rest).takeWhile (· != '\n') :=
      fun member => by simpa using List.mem_takeWhile_imp member
    have ends : ∀ c ∈ ((remark ++ rest).dropWhile (· != '\n')).head?, c = '\n' := by
      intro c head
      have stopped := List.head?_dropWhile_not (· != '\n') (remark ++ rest)
      rw [Option.mem_def.mp head] at stopped
      simpa using stopped
    have reads := reads_lineComment wholeLine ends
    rw [List.takeWhile_append_dropWhile] at reads
    refine ⟨_, reads, behind, noComment_iff.mpr fun more spelled => ?_⟩
    rw [spelled] at ends
    exact absurd (ends '/' rfl) (by decide)
  · rintro text rest none ⟨remark, -, spelled⟩
    exact (noComment_iff.mp none _ spelled).elim

/-- Reads a character of white space or a comment. -/
def triviaPiece : Reader Unit :=
  either (do
    let _ ← oneOf blankCharacters
    pure ()) lineComment

/-- Trivia are pieces of white space and comments, as many as there are. -/
theorem trivia_eq : trivia = (do
    let _ ← many triviaPiece
    pure ()) := rfl

/-- A comment takes its slashes at least. -/
theorem loops_triviaPiece : Loops triviaPiece := by
  refine loops_of_advances fun cursor value reached result => ?_
  rcases either_eq_some.mp result with blank | ⟨-, comment⟩
  · obtain ⟨c, middle, read, rest⟩ := bind_eq_some.mp blank
    obtain ⟨-, rfl⟩ := pure_eq_some.mp rest
    rw [(sound_oneOf read).2]
    exact Nat.lt_succ_self _
  · obtain ⟨remark, spelled, -⟩ := sound_lineComment comment
    rw [spelled, List.length_cons, List.length_cons, List.length_append]
    omega

/-- Where no piece of trivia can be read neither white space nor a comment begins. -/
theorem stuck_of_triviaPiece {cursor : Cursor} (failed : (triviaPiece cursor).result = none) :
    Apart whiteSpace cursor.rest ∧ NoComment cursor.rest := by
  rw [triviaPiece, either_result, Option.or_eq_none_iff] at failed
  obtain ⟨noBlank, failed⟩ := failed
  obtain ⟨text, offset⟩ := cursor
  constructor
  · cases text with
    | nil => exact apart_nil
    | cons c rest =>
        refine apart_cons.mpr fun member => ?_
        have read : Reads (do
            let _ ← oneOf blankCharacters
            pure ()) () (c :: rest) rest := (reads_oneOf member).bind Reads.pure
        obtain ⟨behind, found⟩ := read offset
        rw [noBlank] at found
        cases found
  · refine noComment_iff.mpr fun more spelled => ?_
    exact (takesLongest_lineComment.fails_iff _).mp failed more ⟨[], List.not_mem_nil, spelled⟩

/-- Every text begins with trivia that end where neither white space nor a comment begins. -/
theorem exists_trivia (text : List Char) :
    ∃ rest, Trivia text rest ∧ Apart whiteSpace rest ∧ NoComment rest := by
  obtain ⟨values, reached, read, failed⟩ := loops_triviaPiece.ends ⟨text, 0⟩
  obtain ⟨apart, none⟩ := stuck_of_triviaPiece failed
  refine ⟨reached.rest, @sound_trivia ⟨text, 0⟩ () reached ?_, apart, none⟩
  rw [trivia_eq]
  exact bind_eq_some.mpr ⟨values, reached, read, rfl⟩

/-- Trivia are taken up to what is neither white space nor a comment. -/
theorem takesLongest_trivia : TakesLongest trivia Trivia
    fun text => Apart whiteSpace text ∧ NoComment text := by
  refine takesLongest_of_sound sound_trivia (fun cursor reached result => ?_) ?_ ?_
  · obtain ⟨taken, leads, -⟩ := (tracks_trivia Anything).reads result
    exact ⟨taken, leads⟩
  · intro text rest read
    obtain ⟨last, whole, apart, none⟩ := exists_trivia text
    exact ⟨last, reads_trivia whole apart (noComment_iff.mp none),
      (whole.of_stuck apart none read).suffix, apart, none⟩
  · rintro text rest ⟨apart, none⟩ read
    exact read.eq_of_stuck apart none

/-- White space that is asked for is missing exactly where none of its characters follows. -/
theorem requiredBlanks_eq_none_iff (cursor : Cursor) :
    (requiredBlanks cursor).result = none ↔ Apart whiteSpace cursor.rest := by
  refine takesLongest_requiredBlanks.eq_none_iff ?_ ?_ cursor
  · rintro text rest apart ⟨member, -⟩
    exact apart_cons.mp apart member
  · intro text free
    cases text with
    | nil => exact (free apart_nil).elim
    | cons c rest =>
        rw [apart_cons, not_not] at free
        exact ⟨rest, .mk free .stop⟩

/-- A comment is missing exactly where no two slashes follow. -/
theorem lineComment_eq_none_iff (cursor : Cursor) :
    (lineComment cursor).result = none ↔ NoComment cursor.rest := by
  refine takesLongest_lineComment.eq_none_iff ?_ ?_ cursor
  · rintro text rest none ⟨remark, -, spelled⟩
    exact noComment_iff.mp none _ spelled
  · intro text free
    obtain ⟨more, rfl⟩ := not_not.mp free
    exact ⟨more, [], List.not_mem_nil, rfl⟩

/-- A comment ends in front of its line break. -/
theorem newline_not_mem_of_lineComment {cursor reached : Cursor} {taken : List Char}
    (result : (lineComment cursor).result = some ((), reached))
    (leads : cursor.Leads taken reached) : '\n' ∉ taken := by
  obtain ⟨remark, line, spelled⟩ := takesLongest_lineComment.takes result
  have slashes : taken = '/' :: '/' :: remark :=
    List.append_cancel_right (leads.rest.symm.trans spelled)
  rw [slashes, List.mem_cons, List.mem_cons]
  rintro (slash | slash | inside)
  · exact absurd slash (by decide)
  · exact absurd slash (by decide)
  · exact line inside

/-- A slash of its own stays where it is. -/
theorem trivia_lone_slash {rest : List Char} (alone : rest.head? ≠ some '/') (offset : Nat) :
    (trivia ⟨'/' :: rest, offset⟩).result = some ((), ⟨'/' :: rest, offset⟩) := by
  have stuck : Apart whiteSpace ('/' :: rest) ∧ NoComment ('/' :: rest) := by
    refine ⟨apart_head, noComment_iff.mpr fun more spelled => alone ?_⟩
    rw [(List.cons.inj spelled).2, List.head?_cons]
  obtain ⟨⟨_, reached⟩, result⟩ := Option.ne_none_iff_exists'.mp
    (takesLongest_trivia.ne_none (fun _ => .stop) ⟨'/' :: rest, offset⟩)
  rw [result, takesLongest_trivia.still stuck result]

/-- **Gaps are taken whole.** Each reader of white space and comments takes the longest beginning of
a text that is its phrase, leaves the rest, and finds nothing more to take there.  White space that
is asked for is missing exactly where another character or nothing follows, and a comment exactly
where there are no two slashes; the other readers never fail.  A comment ends in front of its line
break, and a slash of its own stays where it is.  Every round of a repetition takes a character, and
the repetition ends where its reader fails. -/
theorem takesLongest_gaps :
    (TakesLongest blanks (Run whiteSpace) (Apart whiteSpace) ∧
      ∀ cursor, (blanks cursor).result ≠ none) ∧
    (TakesLongest inlineBlanks (Run lineSpace) (Apart lineSpace) ∧
      ∀ cursor, (inlineBlanks cursor).result ≠ none) ∧
    (TakesLongest requiredBlanks Blanks (Apart whiteSpace) ∧
      ∀ cursor, (requiredBlanks cursor).result = none ↔ Apart whiteSpace cursor.rest) ∧
    (TakesLongest lineComment Comment NoComment ∧
      (∀ cursor, (lineComment cursor).result = none ↔ NoComment cursor.rest) ∧
      ∀ cursor reached taken, (lineComment cursor).result = some ((), reached) →
        cursor.Leads taken reached → '\n' ∉ taken) ∧
    (TakesLongest trivia Trivia (fun text => Apart whiteSpace text ∧ NoComment text) ∧
      (∀ cursor, (trivia cursor).result ≠ none) ∧
      ∀ rest offset, rest.head? ≠ some '/' →
        (trivia ⟨'/' :: rest, offset⟩).result = some ((), ⟨'/' :: rest, offset⟩)) ∧
    (∀ accepts remark expected, Loops (satisfying accepts remark expected) ∧
      ∀ cursor, (spanning accepts remark expected cursor).result =
        (many (satisfying accepts remark expected) cursor).result) ∧
    Loops triviaPiece ∧ trivia = (do
      let _ ← many triviaPiece
      pure ()) := by
  refine ⟨⟨takesLongest_blanks, takesLongest_blanks.ne_none fun _ => .stop⟩,
    ⟨takesLongest_inlineBlanks, takesLongest_inlineBlanks.ne_none fun _ => .stop⟩,
    ⟨takesLongest_requiredBlanks, requiredBlanks_eq_none_iff⟩,
    ⟨takesLongest_lineComment, lineComment_eq_none_iff, ?line⟩,
    ⟨takesLongest_trivia, takesLongest_trivia.ne_none fun _ => .stop, ?slash⟩,
    ?loops, loops_triviaPiece, trivia_eq⟩
  case line => exact fun cursor reached taken => newline_not_mem_of_lineComment
  case slash => exact fun rest offset alone => trivia_lone_slash alone offset
  case loops =>
    exact fun accepts remark expected =>
      ⟨loops_satisfying accepts remark expected, spanning_result accepts remark expected⟩

/-- The carriage return belongs to the comment, and the slash behind the blanks does not begin
another one. -/
example : (trivia ⟨['\t', '/', '/', 'a', '\r', '\n', ' ', '/', 'b'], 0⟩).result =
    some ((), ⟨['/', 'b'], 7⟩) := by
  decide

end Gaps

end ClassDiagram.Declaration
