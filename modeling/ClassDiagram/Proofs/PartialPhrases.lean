import ClassDiagram.Proofs.DeclarationSoundness
import Mathlib.Logic.Relation

/-! # What a reader has taken when it gets stuck

A text is `Begun` if it goes on to a phrase, whatever may stand behind the phrase.  A reader that
`Tracks` a phrase never takes anything else on the way: what it reads is the phrase, in front of any
text that begins like the one behind it, and wherever it remarks a mistake it has taken a text that
is begun and at most the characters of one word more.  Both are carried through each way to put
readers together, since every part can be completed and its completion can stand where the part in
front of it ends.

Here a phrase relates a text that begins with it to what stands behind it, and what it means does
not count.
-/

namespace ClassDiagram.Declaration

/-- Taking a text leads from one place to another. -/
structure Cursor.Leads (cursor : Cursor) (taken : List Char) (reached : Cursor) : Prop where
  rest : cursor.rest = taken ++ reached.rest
  offset : reached.offset = cursor.offset + taken.length

namespace Cursor

variable {cursor middle reached : Cursor} {first second : List Char}

theorem Leads.refl (cursor : Cursor) : cursor.Leads [] cursor :=
  ⟨rfl, rfl⟩

theorem Leads.trans (left : cursor.Leads first middle) (right : middle.Leads second reached) :
    cursor.Leads (first ++ second) reached := by
  constructor
  · rw [left.rest, right.rest, List.append_assoc]
  · rw [right.offset, left.offset, List.length_append, Nat.add_assoc]

end Cursor

namespace Reader

variable {α β : Type} {phrase weaker : List Char → List Char → Prop}
  {opens closes fewer : List Char → Prop}

/-- A text goes on to the phrase in front of all that may stand behind it, unless it is empty. -/
def Begun (phrase : List Char → List Char → Prop) (closes : List Char → Prop)
    (taken : List Char) : Prop :=
  taken ≠ [] → ∀ other, closes other → ∃ more, phrase (taken ++ (more ++ other)) other

/-- A place is right behind a text that is begun, or farther on in the word that follows. -/
def Blamed (phrase : List Char → List Char → Prop) (closes : List Char → Prop) (cursor : Cursor)
    (offset : Nat) : Prop :=
  ∃ taken reached word stuck, cursor.Leads taken reached ∧ Begun phrase closes taken ∧
    reached.Leads word stuck ∧ (∀ c ∈ word, Text.isIdentifierPart c = true) ∧ stuck.offset = offset

/-- The reader takes the phrase and what goes on to it.  In front of a text that `closes` there can
be a phrase, and in front of that phrase a text that `opens` is asked for. -/
structure Tracks (reader : Reader α) (opens : List Char → Prop)
    (phrase : List Char → List Char → Prop) (closes : List Char → Prop) : Prop where
  fills : ∀ other, closes other → ∃ more, opens (more ++ other) ∧ phrase (more ++ other) other
  reads : ∀ ⦃cursor : Cursor⦄ ⦃value : α⦄ ⦃reached : Cursor⦄,
    (reader cursor).result = some (value, reached) →
      ∃ taken, cursor.Leads taken reached ∧ Begun phrase closes taken ∧
        ∀ other, other.head? = reached.rest.head? → phrase (taken ++ other) other
  remarks : ∀ cursor, ∀ remark ∈ (reader cursor).remarks,
    Blamed phrase closes cursor remark.complaint.offset

section Begun

variable {cursor reached : Cursor} {taken : List Char}

variable (phrase closes) in
/-- An empty text is begun, whatever it would have to go on to. -/
theorem begun_nil : Begun phrase closes [] :=
  fun other => (other rfl).elim

theorem Begun.mono (begun : Begun phrase closes taken)
    (implied : ∀ text rest, phrase text rest → weaker text rest)
    (among : ∀ text, fewer text → closes text) : Begun weaker fewer taken := by
  intro taking other closed
  obtain ⟨more, there⟩ := begun taking other (among other closed)
  exact ⟨more, implied _ _ there⟩

/-- A place that is blamed for a phrase is blamed for a weaker one. -/
theorem Blamed.mono {offset : Nat} (blamed : Blamed phrase closes cursor offset)
    (implied : ∀ text rest, phrase text rest → weaker text rest)
    (among : ∀ text, fewer text → closes text) : Blamed weaker fewer cursor offset := by
  obtain ⟨taken, reached, word, stuck, first, begun, second, part, here⟩ := blamed
  exact ⟨taken, reached, word, stuck, first, begun.mono implied among, second, part, here⟩

/-- A place in or behind the word that comes first. -/
theorem blamed_of_word {word : List Char} {stuck : Cursor} (leads : cursor.Leads word stuck)
    (part : ∀ c ∈ word, Text.isIdentifierPart c = true) :
    Blamed phrase closes cursor stuck.offset :=
  ⟨[], cursor, word, stuck, .refl _, begun_nil phrase closes, leads, part, rfl⟩

/-- The place behind a text that is begun. -/
theorem blamed_of_begun (leads : cursor.Leads taken reached) (begun : Begun phrase closes taken) :
    Blamed phrase closes cursor reached.offset :=
  ⟨taken, reached, [], reached, leads, begun, .refl _, List.forall_mem_nil _, rfl⟩

variable (phrase closes cursor) in
/-- The place where nothing has been taken yet. -/
theorem blamed_here : Blamed phrase closes cursor cursor.offset :=
  blamed_of_begun (.refl _) (begun_nil _ _)

end Begun

section Laws

variable {reader : Reader α}

/-- A reader that tracks a phrase tracks a weaker one. -/
theorem Tracks.mono (tracks : Tracks reader opens phrase closes)
    (implied : ∀ text rest, phrase text rest → weaker text rest) :
    Tracks reader opens weaker closes where
  fills other closed := by
    obtain ⟨more, opened, there⟩ := tracks.fills other closed
    exact ⟨more, opened, implied _ _ there⟩
  reads cursor value reached result := by
    obtain ⟨taken, leads, begun, there⟩ := tracks.reads result
    exact ⟨taken, leads, begun.mono implied fun _ => id,
      fun other same => implied _ _ (there other same)⟩
  remarks cursor remark member := (tracks.remarks cursor remark member).mono implied fun _ => id

/-- Less can be asked for in front, and more behind. -/
theorem Tracks.weaken {asked behind : List Char → Prop} (tracks : Tracks reader opens phrase closes)
    (less : ∀ text, opens text → asked text) (more : ∀ text, behind text → closes text) :
    Tracks reader asked phrase behind where
  fills other closed := by
    obtain ⟨filler, opened, there⟩ := tracks.fills other (more other closed)
    exact ⟨filler, less _ opened, there⟩
  reads cursor value reached result := by
    obtain ⟨taken, leads, begun, there⟩ := tracks.reads result
    exact ⟨taken, leads, begun.mono (fun _ _ => id) more, there⟩
  remarks cursor remark member := (tracks.remarks cursor remark member).mono (fun _ _ => id) more

theorem Tracks.pure (value : α) (closes : List Char → Prop) :
    Tracks (pure value : Reader α) closes Eq closes where
  fills other closed := ⟨[], closed, rfl⟩
  reads cursor found reached result := by
    obtain ⟨-, rfl⟩ := pure_eq_some.mp result
    exact ⟨[], .refl _, begun_nil _ _, fun other _ => rfl⟩
  remarks cursor remark member := nomatch member

/-- What a phrase means does not count, so it can be changed. -/
theorem Tracks.map {change : α → β} (tracks : Tracks reader opens phrase closes) :
    Tracks (change <$> reader) opens phrase closes where
  fills := tracks.fills
  reads cursor value reached result := by
    obtain ⟨found, read, -⟩ := map_eq_some.mp result
    exact tracks.reads read
  remarks := tracks.remarks

section Bind

variable {next : α → Reader β} {middle : List Char → Prop}
  {after : List Char → List Char → Prop}

/-- Where the first of two readers fails, nothing is remarked of the second. -/
theorem bind_remarks_of_none {cursor : Cursor} (fails : (reader cursor).result = none) :
    ((reader >>= next) cursor).remarks = (reader cursor).remarks := by
  change (Reader.bind reader next cursor).remarks = _
  simp only [Reader.bind, fails]

theorem bind_remarks_of_some {cursor reached : Cursor} {value : α}
    (read : (reader cursor).result = some (value, reached)) :
    ((reader >>= next) cursor).remarks =
      (reader cursor).remarks ++ (next value reached).remarks := by
  change (Reader.bind reader next cursor).remarks = _
  simp only [Reader.bind, read]

/-- What is remarked of one reader after the other is remarked of one of them. -/
theorem mem_bind_remarks {cursor : Cursor} {remark : Remark}
    (member : remark ∈ ((reader >>= next) cursor).remarks) :
    remark ∈ (reader cursor).remarks ∨ ∃ value reached,
      (reader cursor).result = some (value, reached) ∧ remark ∈ (next value reached).remarks := by
  cases read : (reader cursor).result with
  | none => exact Or.inl (bind_remarks_of_none read ▸ member)
  | some found =>
      rw [bind_remarks_of_some read, List.mem_append] at member
      exact member.imp_right fun later => ⟨found.1, found.2, rfl, later⟩

/-- What has been taken of the first of two phrases goes on to both. -/
theorem Begun.comp {taken : List Char} (begun : Begun phrase middle taken)
    (fills : ∀ other, closes other → ∃ more, middle (more ++ other) ∧ after (more ++ other) other) :
    Begun (Relation.Comp phrase after) closes taken := by
  intro taking other closed
  obtain ⟨filler, opened, second⟩ := fills other closed
  obtain ⟨more, first⟩ := begun taking (filler ++ other) opened
  rw [← List.append_assoc more] at first
  exact ⟨more ++ filler, _, first, second⟩

/-- The first of two phrases and what has been taken of the second go on to both. -/
theorem Begun.comp_of_first {front taken rest : List Char} (begun : Begun phrase middle front)
    (first : ∀ other, other.head? = (taken ++ rest).head? → phrase (front ++ other) other)
    (second : Begun after closes taken)
    (fills : ∀ other, closes other → ∃ more, middle (more ++ other) ∧ after (more ++ other) other) :
    Begun (Relation.Comp phrase after) closes (front ++ taken) := by
  cases taken with
  | nil =>
      rw [List.append_nil]
      exact begun.comp fills
  | cons c others =>
      intro _ other closed
      obtain ⟨more, there⟩ := second (List.cons_ne_nil _ _) other closed
      refine ⟨more, _, ?_, there⟩
      rw [List.append_assoc]
      exact first _ rfl

/-- One after the other, if what the second can begin with may stand behind the first. -/
theorem Tracks.bind [Nonempty α] (first : Tracks reader opens phrase middle)
    (second : ∀ value, Tracks (next value) middle after closes) :
    Tracks (reader >>= next) opens (Relation.Comp phrase after) closes := by
  have completed : ∀ other, closes other →
      ∃ more, middle (more ++ other) ∧ after (more ++ other) other :=
    ‹Nonempty α›.elim fun value => (second value).fills
  constructor
  case fills =>
    intro other closed
    obtain ⟨filler, between, there⟩ := completed other closed
    obtain ⟨more, opened, begins⟩ := first.fills (filler ++ other) between
    rw [← List.append_assoc] at opened begins
    exact ⟨more ++ filler, opened, _, begins, there⟩
  case reads =>
    intro cursor value reached result
    obtain ⟨found, between, read, others⟩ := bind_eq_some.mp result
    obtain ⟨front, leads, begun, there⟩ := first.reads read
    obtain ⟨taken, goes, going, beyond⟩ := (second found).reads others
    rw [goes.rest] at there
    refine ⟨front ++ taken, leads.trans goes, begun.comp_of_first there going completed, ?_⟩
    intro other same
    refine ⟨taken ++ other, ?_, beyond other same⟩
    rw [List.append_assoc]
    exact there _ (by rw [List.head?_append, List.head?_append, same])
  case remarks =>
    intro cursor remark member
    rcases mem_bind_remarks member with early | ⟨found, between, read, late⟩
    · obtain ⟨taken, reached, word, stuck, leads, begun, goes, part, here⟩ :=
        first.remarks cursor remark early
      exact ⟨taken, reached, word, stuck, leads, begun.comp completed, goes, part, here⟩
    · obtain ⟨front, leads, begun, there⟩ := first.reads read
      obtain ⟨taken, reached, word, stuck, goes, going, ends, part, here⟩ :=
        (second found).remarks between remark late
      rw [goes.rest] at there
      exact ⟨front ++ taken, reached, word, stuck, leads.trans goes,
        begun.comp_of_first there going completed, ends, part, here⟩

theorem Tracks.bind_pure [Nonempty α] {value : α → β} (tracks : Tracks reader opens phrase closes) :
    Tracks (do
      let found ← reader
      Pure.pure (value found)) opens phrase closes := by
  refine (tracks.bind fun _ => .pure _ closes).mono ?_
  rintro text _ ⟨rest, there, rfl⟩
  exact there

end Bind

/-- Something or something else. -/
theorem Tracks.either {other : Reader α} {asked : List Char → Prop}
    (left : Tracks reader asked phrase closes) (right : Tracks other opens phrase closes) :
    Tracks (either reader other) opens phrase closes where
  fills := right.fills
  reads cursor value reached result := by
    rcases either_eq_some.mp result with first | ⟨-, second⟩
    · exact left.reads first
    · exact right.reads second
  remarks cursor remark member := by
    unfold Reader.either at member
    cases read : (reader cursor).result with
    | some found =>
        simp only [read] at member
        exact left.remarks cursor remark member
    | none =>
        simp only [read, List.mem_append] at member
        exact member.elim (left.remarks cursor remark) (right.remarks cursor remark)

/-- Something that may be left out, which asks for nothing in front that would not stand behind it.
-/
theorem Tracks.optional (tracks : Tracks reader opens phrase closes) :
    Tracks (optional reader) closes (Relation.ReflGen phrase) closes :=
  (tracks.map.mono fun _ _ => Relation.ReflGen.single).either
    ((Tracks.pure none closes).mono fun _ _ same => same ▸ .refl)

/-- Something any number of times. -/
theorem Tracks.many [Nonempty α] (tracks : Tracks reader opens phrase closes) :
    Tracks (many reader) closes (Relation.ReflTransGen phrase) closes := by
  have within (bound : Nat) :
      Tracks (manyWithin reader bound) closes (Relation.ReflTransGen phrase) closes := by
    have none : Tracks (Pure.pure [] : Reader (List α)) closes (Relation.ReflTransGen phrase)
        closes := (Tracks.pure [] closes).mono fun _ _ same => same ▸ .refl
    induction bound with
    | zero => exact none
    | succ bound ih =>
        refine Tracks.either ((tracks.bind fun _ => ih.map).mono ?_) none
        rintro text rest ⟨middle, first, others⟩
        exact .head first others
  exact {
    fills := (within 0).fills
    reads := fun cursor _ _ result => (within (cursor.rest.length + 1)).reads result
    remarks := fun cursor => (within (cursor.rest.length + 1)).remarks cursor }

/-- One thing or more, with something between any two. -/
theorem Tracks.separated [Nonempty α] [Nonempty β] {separator : Reader β}
    {between : List Char → List Char → Prop} (tracks : Tracks reader opens phrase closes)
    (parting : Tracks separator closes between opens) :
    Tracks (separated reader separator) opens
      (Relation.Comp phrase (Relation.ReflTransGen (Relation.Comp between phrase))) closes :=
  tracks.bind fun _ => (parting.bind fun _ => tracks).many.map

end Laws

section Characters

variable {accepts : Char → Bool} {remark : Complaint → Remark} {expected : List Expectation}

theorem leads_satisfying {cursor reached : Cursor} {c : Char}
    (result : (satisfying accepts remark expected cursor).result = some (c, reached)) :
    cursor.Leads [c] reached := by
  obtain ⟨text, offset⟩ := cursor
  cases text with
  | nil => cases result
  | cons first rest =>
      simp only [satisfying] at result
      split at result
      · cases result
        exact ⟨rfl, rfl⟩
      · cases result

/-- A character that is missed is missed where the reader begins. -/
theorem offset_of_mem_satisfying {cursor : Cursor} {remarked : Remark}
    (plain : ∀ complaint, (remark complaint).complaint = complaint)
    (member : remarked ∈ (satisfying accepts remark expected cursor).remarks) :
    remarked.complaint.offset = cursor.offset := by
  obtain ⟨text, offset⟩ := cursor
  cases text with
  | nil =>
      cases List.mem_singleton.mp member
      rw [plain]
  | cons first rest =>
      simp only [satisfying] at member
      split at member
      · cases member
      · cases List.mem_singleton.mp member
        rw [plain]

/-- One character of a class, of which there has to be one. -/
theorem tracks_satisfying {c : Char} (accepted : accepts c = true)
    (plain : ∀ complaint, (remark complaint).complaint = complaint)
    (begins : ∀ other, opens (c :: other)) :
    Tracks (satisfying accepts remark expected) opens
      (fun text rest => ∃ first, accepts first = true ∧ text = first :: rest) fun _ => True where
  fills other _ := ⟨[c], begins other, c, accepted, rfl⟩
  reads cursor value reached result := by
    have there := (sound_satisfying result).1
    exact ⟨[value], leads_satisfying result, fun _ other _ => ⟨[], value, there, rfl⟩,
      fun other _ => ⟨value, there, rfl⟩⟩
  remarks cursor remarked member := by
    rw [offset_of_mem_satisfying plain member]
    exact blamed_here _ _ cursor

/-- Reading a run of characters leads over all of them. -/
theorem leads_spanning {cursor reached : Cursor} {taken : List Char}
    (result : (spanning accepts remark expected cursor).result = some (taken, reached)) :
    cursor.Leads taken reached := by
  cases result
  exact ⟨List.takeWhile_append_dropWhile.symm, rfl⟩

/-- What is remarked behind a run of characters is remarked where it ends. -/
theorem offset_of_mem_spanning {cursor : Cursor} {remarked : Remark}
    (plain : ∀ complaint, (remark complaint).complaint = complaint)
    (member : remarked ∈ (spanning accepts remark expected cursor).remarks) :
    ∃ taken reached, (spanning accepts remark expected cursor).result = some (taken, reached) ∧
      remarked.complaint.offset = reached.offset := by
  refine ⟨_, _, rfl, ?_⟩
  cases List.mem_singleton.mp member
  rw [plain]

/-- All characters of some class, up to where it `fits` that they end. -/
theorem tracks_spanning (fits : Option Char → Prop)
    (plain : ∀ complaint, (remark complaint).complaint = complaint)
    (stops : ∀ next : Option Char, (∀ c ∈ next, accepts c = false) → fits next)
    (ends : ∀ other, closes other → fits other.head?) :
    Tracks (spanning accepts remark expected) closes
      (fun text rest => ∃ taken, (∀ c ∈ taken, accepts c = true) ∧ fits rest.head? ∧
        text = taken ++ rest) closes := by
  have begun {taken : List Char} (accepted : ∀ c ∈ taken, accepts c = true) :
      Begun (fun text rest => ∃ taken, (∀ c ∈ taken, accepts c = true) ∧ fits rest.head? ∧
        text = taken ++ rest) closes taken :=
    fun _ other closed => ⟨[], taken, accepted, ends other closed, rfl⟩
  constructor
  case fills =>
    exact fun other closed => ⟨[], closed, [], List.forall_mem_nil _, ends other closed, rfl⟩
  case reads =>
    intro cursor taken reached result
    obtain ⟨-, accepted, stop⟩ := sound_spanning result
    refine ⟨taken, leads_spanning result, begun accepted, fun other same => ?_⟩
    exact ⟨taken, accepted, same ▸ stops _ stop, rfl⟩
  case remarks =>
    intro cursor remarked member
    obtain ⟨taken, reached, result, here⟩ := offset_of_mem_spanning plain member
    rw [here]
    exact blamed_of_begun (leads_spanning result) (begun (sound_spanning result).2.1)

end Characters

/-- The reader leaves a remark where it fails. -/
def Speaks (reader : Reader α) : Prop :=
  ∀ cursor, (reader cursor).result = none → (reader cursor).remarks ≠ []

section Speaks

variable {reader : Reader α} {next : α → Reader β}

/-- One reader after the other speaks if both do. -/
theorem speaks_bind (first : Speaks reader) (second : ∀ value, Speaks (next value)) :
    Speaks (reader >>= next) := by
  intro cursor failed
  rw [bind_result] at failed
  cases read : (reader cursor).result with
  | none =>
      rw [bind_remarks_of_none read]
      exact first cursor read
  | some found =>
      rw [read, Option.bind_some] at failed
      rw [bind_remarks_of_some read]
      exact List.append_ne_nil_of_right_ne_nil _ (second found.1 found.2 failed)

theorem speaks_map {change : α → β} (speaks : Speaks reader) : Speaks (change <$> reader) := by
  intro cursor failed
  rw [map_result, Option.map_eq_none_iff] at failed
  exact speaks cursor failed

theorem speaks_pure (value : α) : Speaks (pure value : Reader α) :=
  fun _ failed => nomatch failed

/-- What need not be there does not fail. -/
theorem speaks_either_pure (reader : Reader α) (value : α) :
    Speaks (either reader (pure value)) := by
  intro cursor failed
  rw [either_result, pure_result, Option.or_eq_none_iff] at failed
  cases failed.2

/-- A repetition does not fail. -/
theorem speaks_many (reader : Reader α) : Speaks (many reader) :=
  fun cursor => speaks_either_pure _ [] cursor

/-- A character that is missed is remarked. -/
theorem speaks_satisfying {accepts : Char → Bool} {remark : Complaint → Remark}
    {expected : List Expectation} : Speaks (satisfying accepts remark expected) := by
  rintro ⟨text, offset⟩ failed
  cases text with
  | nil => exact List.cons_ne_nil _ _
  | cons c rest =>
      unfold Reader.satisfying at failed ⊢
      simp only at failed ⊢
      split at failed
      · cases failed
      · rename_i rejected
        simp [rejected]

end Speaks

end Reader

end ClassDiagram.Declaration
