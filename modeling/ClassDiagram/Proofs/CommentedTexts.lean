import ClassDiagram.Proofs.PhraseEdges

/-! # A comment in front of a line break

`Commented` relates a text to the same text with a comment in front of one of its line breaks.  A
phrase that keeps within a line leaves the comment behind it (`Inline`).  Where a phrase goes on to
another line, the comment can stand in white space between lines, where it ends the white space
(`Phrase.Blanks.commented`), or in trivia, which take it in (`Phrase.Trivia.commented`).
-/

namespace ClassDiagram.Declaration

open Phrase

/-- A comment with the line break that ends it and what follows. -/
def remarkBefore (note after : List Char) : List Char :=
  '/' :: '/' :: (note ++ '\n' :: after)

/-- The second text is the first with a space and a comment in front of the line break that has
`after` behind it. -/
inductive Commented (note after : List Char) : List Char → List Char → Prop
  | here : Commented note after ('\n' :: after) (' ' :: remarkBefore note after)
  | past {c : Char} {text other : List Char} (more : Commented note after text other) :
      Commented note after (c :: text) (c :: other)

section Commented

variable {note after text other rest : List Char}

variable (note after) in
/-- The comment can be put in front of any line break. -/
theorem commented_append (before : List Char) :
    Commented note after (before ++ '\n' :: after) (before ++ ' ' :: remarkBefore note after) := by
  induction before with
  | nil => exact .here
  | cons c more ih => exact .past ih

/-- The line break stands in front of what is behind it. -/
theorem Commented.length_lt (edit : Commented note after text other) :
    after.length < text.length := by
  induction edit with
  | here => exact Nat.lt_succ_self _
  | past _ ih => exact Nat.lt_succ_of_lt ih

/-- A character that is no line break stays in front. -/
theorem Commented.exists_cons {c : Char} (edit : Commented note after (c :: rest) other)
    (inside : c ≠ '\n' := by decide) :
    ∃ behind, other = c :: behind ∧ Commented note after rest behind := by
  cases edit with
  | here => exact (inside rfl).elim
  | past more => exact ⟨_, rfl, more⟩

/-- A piece without a line break stays in front. -/
theorem Commented.exists_append {taken : List Char}
    (edit : Commented note after (taken ++ rest) other) (line : '\n' ∉ taken) :
    ∃ behind, other = taken ++ behind ∧ Commented note after rest behind := by
  induction taken generalizing other with
  | nil => exact ⟨other, rfl, edit⟩
  | cons c more ih =>
      rw [List.mem_cons, not_or] at line
      obtain ⟨next, rfl, more⟩ := edit.exists_cons (Ne.symm line.1)
      obtain ⟨behind, rfl, there⟩ := ih more line.2
      exact ⟨behind, rfl, there⟩

/-- What would not go on with a word does not with a comment in it either. -/
theorem Commented.endsWord (edit : Commented note after text other) (ends : EndsWord text) :
    EndsWord other := by
  cases edit with
  | here => exact endsWord_cons (by decide)
  | past _ => exact ends

end Commented

/-- The phrase never goes on to another line. -/
def Inline (phrase : List Char → List Char → Prop) : Prop :=
  ∀ ⦃note after text rest other : List Char⦄, phrase text rest → Commented note after text other →
    ∃ behind, phrase other behind ∧ Commented note after rest behind

section Inline

variable {α : Type}

/-- A phrase that may be absent keeps within a line if it does so where it is present. -/
theorem inline_maybe {phrase : α → List Char → List Char → Prop}
    (each : ∀ value, Inline (phrase value)) (value : Option α) : Inline (Maybe phrase value) := by
  intro note after text rest other there edit
  cases there with
  | absent => exact ⟨other, .absent, edit⟩
  | present there =>
      obtain ⟨behind, there, edit⟩ := each _ there edit
      exact ⟨behind, .present there, edit⟩

/-- So does a row of phrases if what stands between them does. -/
theorem inline_joined {phrase : α → List Char → List Char → Prop}
    {between : List Char → List Char → Prop} (each : ∀ value, Inline (phrase value))
    (gap : Inline between) (values : List α) : Inline (Joined phrase between values) := by
  intro note after text rest other joined edit
  induction joined generalizing other with
  | last only =>
      obtain ⟨behind, only, edit⟩ := each _ only edit
      exact ⟨behind, .last only, edit⟩
  | more first parted _ ih =>
      obtain ⟨behind, first, edit⟩ := each _ first edit
      obtain ⟨next, parted, edit⟩ := gap parted edit
      obtain ⟨rest, others, edit⟩ := ih edit
      exact ⟨rest, .more first parted others, edit⟩

/-- No line break belongs to a word. -/
theorem inline_word (word : List Char) : Inline (Word word) := by
  rintro note after text rest other ⟨identifier, rfl, longest⟩ edit
  have line : '\n' ∉ word := fun inside => by
    have part := identifier.part _ inside
    exact absurd part (by decide)
  obtain ⟨behind, rfl, more⟩ := edit.exists_append line
  exact ⟨behind, ⟨identifier, rfl, more.endsWord longest⟩, more⟩

theorem inline_name (name : String) : Inline (Name name) := by
  intro note after text rest other read edit
  have dot : Inline Dot := by
    rintro note after text rest other rfl edit
    obtain ⟨behind, rfl, more⟩ := edit.exists_cons
    exact ⟨behind, rfl, more⟩
  cases read with
  | mk words =>
      obtain ⟨behind, words, edit⟩ := inline_joined inline_word dot _ words edit
      exact ⟨behind, .mk words, edit⟩

theorem inline_run : Inline (Run lineSpace) := by
  intro note after text rest other run edit
  induction run generalizing other with
  | stop => exact ⟨other, .stop, edit⟩
  | @step c _ _ among _ ih =>
      have inside : c ≠ '\n' := by
        rintro rfl
        exact absurd among (by decide)
      obtain ⟨start, rfl, more⟩ := edit.exists_cons inside
      obtain ⟨behind, run, later⟩ := ih more
      exact ⟨behind, .step among run, later⟩

theorem inline_brackets (rank : Nat) : Inline (Brackets rank) := by
  intro note after text rest other brackets edit
  induction brackets generalizing other with
  | none => exact ⟨other, .none, edit⟩
  | pair _ ih =>
      obtain ⟨_, rfl, closing⟩ := edit.exists_cons
      obtain ⟨_, rfl, more⟩ := closing.exists_cons
      obtain ⟨behind, pairs, later⟩ := ih more
      exact ⟨behind, .pair pairs, later⟩

mutual

/-- A written type keeps within a line, by induction on how it is written. -/
theorem inline_ref : ∀ type : TypeRef, Inline (Ref type)
  | _, _, _, _, _, _, .mk named listed ranked, edit => by
      obtain ⟨_, named, edit⟩ := inline_name _ named edit
      obtain ⟨_, listed, edit⟩ := inline_arguments _ listed edit
      obtain ⟨behind, ranked, edit⟩ := inline_brackets _ ranked edit
      exact ⟨behind, .mk named listed ranked, edit⟩

/-- So do its arguments with the brackets around them. -/
theorem inline_arguments : ∀ arguments : List TypeRef, Inline (Arguments arguments)
  | _, _, _, _, _, other, .none, edit => ⟨other, .none, edit⟩
  | _, _, _, _, _, _, .some listed, edit => by
      obtain ⟨_, rfl, inside⟩ := edit.exists_cons
      obtain ⟨_, listed, closing⟩ := inline_argumentList _ listed inside
      obtain ⟨behind, rfl, later⟩ := closing.exists_cons
      exact ⟨behind, .some listed, later⟩

theorem inline_argumentList : ∀ arguments : List TypeRef, Inline (ArgumentList arguments)
  | _, _, _, _, _, _, .last before only ended, edit => by
      obtain ⟨_, before, edit⟩ := inline_run before edit
      obtain ⟨_, only, edit⟩ := inline_ref _ only edit
      obtain ⟨behind, ended, edit⟩ := inline_run ended edit
      exact ⟨behind, .last before only ended, edit⟩
  | _, _, _, _, _, _, .more before first ended others, edit => by
      obtain ⟨_, before, edit⟩ := inline_run before edit
      obtain ⟨_, first, edit⟩ := inline_ref _ first edit
      obtain ⟨_, ended, comma⟩ := inline_run ended edit
      obtain ⟨_, rfl, next⟩ := comma.exists_cons
      obtain ⟨behind, others, later⟩ := inline_argumentList _ others next
      exact ⟨behind, .more before first ended others, later⟩

end

/-- A member keeps within a line. -/
theorem inline_member (written : WrittenMember) : Inline (Phrase.Member written) := by
  intro note after text rest other read edit
  have mark (visibility : Visibility) : Inline (Mark visibility) := by
    intro note after _ _ other there edit
    cases there with
    | plus | minus | hash | tilde =>
        obtain ⟨behind, rfl, more⟩ := edit.exists_cons
        exact ⟨behind, by constructor, more⟩
  have semicolon (ended : Unit) : Inline (Semicolon ended) := by
    rintro note after _ _ other ⟨before⟩ edit
    obtain ⟨_, before, mark⟩ := inline_run before edit
    obtain ⟨behind, rfl, more⟩ := mark.exists_cons
    exact ⟨behind, .mk before, more⟩
  cases read with
  | mk marked beforeWord named beforeColon afterColon typed ends =>
      obtain ⟨_, marked, edit⟩ := inline_maybe mark _ marked edit
      obtain ⟨_, beforeWord, edit⟩ := inline_run beforeWord edit
      obtain ⟨_, named, edit⟩ := inline_word _ named edit
      obtain ⟨_, beforeColon, colon⟩ := inline_run beforeColon edit
      obtain ⟨_, rfl, next⟩ := colon.exists_cons
      obtain ⟨_, afterColon, edit⟩ := inline_run afterColon next
      obtain ⟨_, typed, edit⟩ := inline_ref _ typed edit
      obtain ⟨behind, ends, edit⟩ := inline_maybe semicolon _ ends edit
      exact ⟨behind, .mk marked beforeWord named beforeColon afterColon typed ends, edit⟩

end Inline

/-- The phrase is still there, and the comment stands behind it or has been taken in. -/
def Keeps (note after : List Char) (phrase : List Char → List Char → Prop)
    (rest other : List Char) : Prop :=
  (∃ behind, phrase other behind ∧ Commented note after rest behind) ∨
    phrase other rest ∧ rest.length ≤ after.length

section Lines

variable {note after text rest other : List Char}

/-- White space between lines that has a comment in it ends where the comment begins. -/
theorem Phrase.Run.commented (run : Run whiteSpace text rest)
    (edit : Commented note after text other) :
    (∃ behind, Run whiteSpace other behind ∧ Commented note after rest behind) ∨
      Run whiteSpace other (remarkBefore note after) ∧ Run whiteSpace after rest := by
  induction run generalizing other with
  | stop => exact Or.inl ⟨other, .stop, edit⟩
  | step among more ih =>
      cases edit with
      | here => exact Or.inr ⟨.step (by decide) .stop, more⟩
      | past edit =>
          rcases ih edit with ⟨behind, run, later⟩ | ⟨run, followed⟩
          · exact Or.inl ⟨behind, .step among run, later⟩
          · exact Or.inr ⟨.step among run, followed⟩

/-- White space either leaves the comment behind it or ends in front of it, and then the line break
and more white space stood there. -/
theorem Phrase.Blanks.commented (blanks : Blanks text rest)
    (edit : Commented note after text other) :
    (∃ behind, Blanks other behind ∧ Commented note after rest behind) ∨
      Blanks other (remarkBefore note after) ∧ Run whiteSpace after rest := by
  cases blanks with
  | mk among more =>
      cases edit with
      | here => exact Or.inr ⟨.mk (by decide) .stop, more⟩
      | past edit =>
          rcases more.commented edit with ⟨behind, run, later⟩ | ⟨run, followed⟩
          · exact Or.inl ⟨behind, .mk among run, later⟩
          · exact Or.inr ⟨.mk among run, followed⟩

/-- Trivia take in a comment that stands in them. -/
theorem Phrase.Trivia.commented (line : '\n' ∉ note) (trivia : Trivia text rest)
    (ends : Apart ['\n'] rest) (edit : Commented note after text other) :
    Keeps note after Trivia rest other := by
  have breaks {more : List Char} : ∀ c ∈ ('\n' :: more).head?, c = '\n' :=
    fun c head => (Option.mem_some_iff.mp head).symm
  induction trivia generalizing other with
  | stop => exact Or.inl ⟨other, .stop, edit⟩
  | blank among more ih =>
      cases edit with
      | here =>
          exact Or.inr ⟨.blank (by decide) (.comment line breaks (.blank among more)),
            more.length_le⟩
      | past edit =>
          rcases ih ends edit with ⟨behind, more, later⟩ | ⟨more, short⟩
          · exact Or.inl ⟨behind, .blank among more, later⟩
          · exact Or.inr ⟨.blank among more, short⟩
  | @comment remark text rest remarkLine stops more ih =>
      obtain ⟨_, rfl, slash⟩ := edit.exists_cons
      obtain ⟨_, rfl, opened⟩ := slash.exists_cons
      obtain ⟨inner, rfl, closing⟩ := opened.exists_append remarkLine
      cases closing with
      | here =>
          -- The comment goes on with the one in front of the line break.
          cases more with
          | stop => exact (apart_cons.mp ends List.mem_cons_self).elim
          | blank among more =>
              have joined : remark ++ ' ' :: remarkBefore note after =
                  (remark ++ ' ' :: '/' :: '/' :: note) ++ '\n' :: after := by
                simp [remarkBefore]
              refine Or.inr ⟨?_, more.length_le⟩
              rw [joined]
              refine .comment ?_ breaks (.blank among more)
              simp [remarkLine, line]
      | past closing =>
          rcases ih ends (.past closing) with ⟨behind, more, later⟩ | ⟨more, short⟩
          · exact Or.inl ⟨behind, .comment remarkLine stops more, later⟩
          · exact Or.inr ⟨.comment remarkLine stops more, short⟩

variable {α : Type} {phrase : α → List Char → List Char → Prop} {values : List α}

/-- A series begins with no line break if neither its phrases nor what stands behind it do. -/
theorem Phrase.Series.apart (series : Series phrase values text rest) (ends : Apart ['\n'] rest)
    (begins : ∀ value text rest, phrase value text rest → Apart ['\n'] text) :
    Apart ['\n'] text := by
  cases series with
  | stop => exact ends
  | more first _ _ => exact begins _ _ _ first

/-- A comment among things with trivia behind each is taken in, unless one of them is `spoiled` by
it. -/
theorem Phrase.Series.commented {spoiled : List Char → List Char → Prop} (line : '\n' ∉ note)
    (series : Series phrase values text rest) (ends : Apart ['\n'] rest)
    (edit : Commented note after text other)
    (begins : ∀ value text rest, phrase value text rest → Apart ['\n'] text)
    (shorter : ∀ value text rest, phrase value text rest → rest.length < text.length)
    (each : ∀ value text rest other, phrase value text rest → Commented note after text other →
      Keeps note after (phrase value) rest other ∨ spoiled text other) :
    Keeps note after (Series phrase values) rest other ∨ ∃ front opening behind,
      Series phrase front text opening ∧ Series phrase front other behind ∧
        spoiled opening behind := by
  induction series generalizing other with
  | stop => exact Or.inl (Or.inl ⟨other, .stop, edit⟩)
  | @more value values text behind next rest first gap others ih =>
      have nextBegins := others.apart ends begins
      rcases each _ _ _ _ first edit with (⟨between, kept, later⟩ | ⟨kept, short⟩) | bad
      · rcases gap.commented line nextBegins later with ⟨start, trivia, inside⟩ | ⟨trivia, short⟩
        · rcases ih ends inside with (⟨finish, series, beyond⟩ | ⟨series, short⟩) | found
          · exact Or.inl (Or.inl ⟨finish, .more kept trivia series, beyond⟩)
          · exact Or.inl (Or.inr ⟨.more kept trivia series, short⟩)
          · obtain ⟨front, opening, stuck, before, behind, bad⟩ := found
            exact Or.inr ⟨value :: front, opening, stuck, .more first gap before,
              .more kept trivia behind, bad⟩
        · exact Or.inl (Or.inr ⟨.more kept trivia others, (others.length_le shorter).trans short⟩)
      · exact Or.inl (Or.inr ⟨.more kept gap others,
          ((others.length_le shorter).trans gap.length_le).trans short⟩)
      · exact Or.inr ⟨[], text, other, .stop, .stop, bad⟩

/-- No member begins with a line break. -/
theorem Phrase.Member.apart {written : WrittenMember} (read : Phrase.Member written text rest) :
    Apart ['\n'] text := by
  cases read with
  | mk marked beforeWord named _ _ _ _ =>
      have word : Apart ['\n'] _ := beforeWord.apart named.begins.apart
      cases marked with
      | absent => exact word
      | present there => exact there.apart

/-- A body takes in every comment behind its brace. -/
theorem Phrase.Body.commented {members : List WrittenMember} (line : '\n' ∉ note)
    (body : Body members text rest) (edit : Commented note after text other) :
    Keeps note after (Body members) rest other ∨
      Run whiteSpace other (remarkBefore note after) ∧ ∃ inside,
        Run whiteSpace text ('\x7b' :: inside) ∧
          Run whiteSpace after ('\x7b' :: inside) := by
  cases body with
  | @mk inside start _ before gap series =>
      have closing : Apart ['\n'] ('\x7d' :: rest) := apart_head
      have starts := series.apart closing fun _ _ _ => Phrase.Member.apart
      have shorter : rest.length < start.length :=
        (Nat.lt_succ_self _).trans_le (series.length_le fun _ _ _ => Phrase.Member.length_lt)
      rcases before.commented edit with ⟨_, opening, later⟩ | ⟨severed, followed⟩
      · obtain ⟨_, rfl, next⟩ := later.exists_cons
        rcases gap.commented line starts next with ⟨first, trivia, within⟩ | ⟨trivia, short⟩
        · have none (value : WrittenMember) (text rest other : List Char)
              (read : Phrase.Member value text rest) (edit : Commented note after text other) :
              Keeps note after (Phrase.Member value) rest other ∨ False :=
            Or.inl (Or.inl (inline_member value read edit))
          rcases series.commented line closing within (fun _ _ _ => Phrase.Member.apart)
            (fun _ _ _ => Phrase.Member.length_lt) none with (kept | ⟨members, short⟩) | found
          · obtain ⟨_, members, behind⟩ := kept
            obtain ⟨finish, rfl, beyond⟩ := behind.exists_cons
            exact Or.inl (Or.inl ⟨finish, .mk opening trivia members, beyond⟩)
          · exact Or.inl (Or.inr ⟨.mk opening trivia members, Nat.le_of_succ_le short⟩)
          · obtain ⟨_, _, _, _, _, impossible⟩ := found
            exact impossible.elim
        · exact Or.inl (Or.inr ⟨.mk opening trivia series, shorter.le.trans short⟩)
      · exact Or.inr ⟨severed, inside, before, followed⟩

end Lines

end ClassDiagram.Declaration
