import ClassDiagram.Entry
import ClassDiagram.Proofs.AssociationHistory
import ClassDiagram.Proofs.NumberedLists
import Mathlib.Data.Finset.Insert

/-! # Which entries a diagram writes

Relations can be made by hand: they may be repeated, contradict each other or name types that no
catalog has.  Whatever they are, they and an index call for entries at certain places
(`ClassDiagram.CallsFor`), and the places are ordered by relations first, then by the kind of the
entry, then by where the relations or the index hold it.  A diagram writes the text of every entry
that is called for and no other, each once, in the order in which the texts first come up; that
settles what it writes (`ClassDiagram.enumerates_iff`).  It is written in one pass that remembers
the texts it has met (`ClassDiagram.Draft`), and more relations only add to what is written
(`ClassDiagram.entryTexts_append`).
-/

namespace ClassDiagram

/-- The place of an entry: which relations call for it, its kind and where they hold it. -/
abbrev Place := Nat × Nat × Nat

/-- The order of the places, from left to right. -/
def Place.Before : Place → Place → Prop :=
  Prod.Lex (· < ·) (Prod.Lex (· < ·) (· < ·))

/-- When relations and an index call for an entry at some place.  The associations of a type are the
edges of the index that start with it. -/
inductive CallsFor (relations : List Relations) (index : Index) : Place → Entry → Prop
  | node {row : Nat} {each : Relations} {kind : Kind} (listed : relations[row]? = some each)
      (held : each.node = some kind) :
      CallsFor relations index (row, 0, 0) (.node each.name kind)
  | implementation {row column : Nat} {each : Relations} {edge : InterfaceEdge}
      (listed : relations[row]? = some each) (held : each.interfaceEdges[column]? = some edge) :
      CallsFor relations index (row, 1, column) (.implementation edge)
  | inheritance {row : Nat} {each : Relations} {edge : InheritanceEdge}
      (listed : relations[row]? = some each) (held : each.inheritance = some edge) :
      CallsFor relations index (row, 2, 0) (.inheritance edge)
  | association {row column : Nat} {each : Relations} {edge : Edge}
      (listed : relations[row]? = some each) (held : index.edges[column]? = some edge)
      (first : edge.first = each.name) :
      CallsFor relations index (row, 3, column) (.association edge)

section Placed

variable {relations : List Relations} {index : Index}

/-- What one type contributes of each kind, with where it is held. -/
def Relations.parts (index : Index) (each : Relations) : List (List (Nat × Entry)) :=
  [located (fun _ => true) (.node each.name) each.node.toList,
    located (fun _ => true) .implementation each.interfaceEdges,
    located (fun _ => true) .inheritance each.inheritance.toList,
    located (·.first == each.name) .association index.edges]

/-- The entries of several types with their places. -/
def placedEntries (relations : List Relations) (index : Index) : List (Place × Entry) :=
  numbered (fun each => numbered id (each.parts index)) relations

/-- The entries that have a place are those that are called for there. -/
theorem mem_placedEntries {place : Place} {entry : Entry} :
    (place, entry) ∈ placedEntries relations index ↔ CallsFor relations index place entry := by
  obtain ⟨row, kind, column⟩ := place
  rw [placedEntries, mem_numbered]
  simp only [mem_numbered]
  constructor
  · rintro ⟨each, listed, part, found, member⟩
    match kind, found with
    | 0, rfl =>
        obtain ⟨rfl, kind, held, rfl⟩ := mem_located_toList.mp member
        exact .node listed held
    | 1, rfl =>
        obtain ⟨edge, held, -, rfl⟩ := mem_located.mp member
        exact .implementation listed held
    | 2, rfl =>
        obtain ⟨rfl, edge, held, rfl⟩ := mem_located_toList.mp member
        exact .inheritance listed held
    | 3, rfl =>
        obtain ⟨edge, held, first, rfl⟩ := mem_located.mp member
        exact .association listed held (eq_of_beq first)
  · intro called
    cases called with
    | @node _ each kind listed held =>
        exact ⟨each, listed, _, rfl, mem_located_toList.mpr ⟨rfl, kind, held, rfl⟩⟩
    | @implementation _ _ each edge listed held =>
        exact ⟨each, listed, _, rfl, mem_located.mpr ⟨edge, held, rfl, rfl⟩⟩
    | @inheritance _ each edge listed held =>
        exact ⟨each, listed, _, rfl, mem_located_toList.mpr ⟨rfl, edge, held, rfl⟩⟩
    | @association _ _ each edge listed held first =>
        exact ⟨each, listed, _, rfl, mem_located.mpr ⟨edge, held, beq_iff_eq.mpr first, rfl⟩⟩

variable (relations index) in
/-- Without their places they are the entries of the relations. -/
theorem map_snd_placedEntries :
    (placedEntries relations index).map Prod.snd = entriesOf relations index := by
  rw [placedEntries, map_snd_numbered]
  apply List.flatMap_congr
  intro each _
  rw [map_snd_numbered]
  simp [Relations.parts, Relations.entries, Index.edgesFrom, map_snd_located, Option.toList_map]

variable (relations index) in
/-- They come in the order of their places. -/
theorem pairwise_placedEntries :
    (placedEntries relations index).Pairwise fun left right => left.1.Before right.1 := by
  refine pairwise_numbered fun each _ => pairwise_numbered fun part member => ?_
  simp only [Relations.parts, List.mem_cons, List.not_mem_nil, or_false] at member
  obtain rfl | rfl | rfl | rfl := member <;> exact pairwise_located _ _ _

end Placed

variable (catalog : Catalog) (config : Config)

section Enumerated

variable (relations : List Relations) (index : Index)

/-- When a text comes up before another does: an entry with the one stands before every entry with
the other. -/
def ComesBefore (earlier later : String) : Prop :=
  ∃ place entry, CallsFor relations index place entry ∧ entry.text catalog config = earlier ∧
    ∀ other otherEntry, CallsFor relations index other otherEntry →
      otherEntry.text catalog config = later → place.Before other

/-- What is said of the texts that are written for some relations and an index. -/
structure Enumerates (written : List String) : Prop where
  nodup : written.Nodup
  mem_iff : ∀ text, text ∈ written ↔
    ∃ place entry, CallsFor relations index place entry ∧ entry.text catalog config = text
  ordered : written.Pairwise (ComesBefore catalog config relations index)

variable {catalog config relations index}

/-- Two texts do not both come up before each other. -/
theorem ComesBefore.not_both {left right : String}
    (first : ComesBefore catalog config relations index left right)
    (second : ComesBefore catalog config relations index right left) : False := by
  obtain ⟨place, entry, called, text, before⟩ := first
  obtain ⟨other, otherEntry, otherCalled, otherText, otherBefore⟩ := second
  have forward : Prod.Lex _ _ place other := before other otherEntry otherCalled otherText
  exact asymm forward (otherBefore place entry called text)

/-- There is one list of texts of which that can be said. -/
theorem Enumerates.unique {left right : List String}
    (first : Enumerates catalog config relations index left)
    (second : Enumerates catalog config relations index right) : left = right := by
  have perm : left.Perm right :=
    (List.perm_ext_iff_of_nodup first.nodup second.nodup).mpr fun text =>
      (first.mem_iff text).trans (second.mem_iff text).symm
  refine perm.eq_of_pairwise ?_ first.ordered second.ordered
  intro one other _ _ before after
  exact (before.not_both after).elim

variable (catalog config relations index) in
/-- The texts that are written enumerate what is called for: the first entry with a text stands
before all others with texts that come later. -/
theorem enumerates_entryTexts :
    Enumerates catalog config relations index (entryTexts catalog config relations index) := by
  let text (placed : Place × Entry) : String := placed.2.text catalog config
  have placed : entryTexts catalog config relations index =
      (firstBy text (placedEntries relations index)).map text := by
    rw [map_firstBy, entryTexts, ← map_snd_placedEntries, List.map_map]
    rfl
  constructor
  case nodup => exact nodup_eraseDups _
  case mem_iff =>
    intro value
    rw [placed, mem_map_firstBy, List.mem_map]
    simp only [Prod.exists, mem_placedEntries, text]
  case ordered =>
    rw [placed, List.pairwise_map]
    refine (pairwise_firstBy text (pairwise_placedEntries relations index)).imp_of_mem ?_
    rintro ⟨place, entry⟩ later member - stands
    have called := mem_placedEntries.mp ((firstBy_sublist _ _).subset member)
    refine ⟨place, entry, called, rfl, ?_⟩
    intro other otherEntry otherCalled same
    exact stands (other, otherEntry) (mem_placedEntries.mpr otherCalled) same

/-- A list enumerates what is called for exactly if it is what is written. -/
theorem enumerates_iff {written : List String} :
    Enumerates catalog config relations index written ↔
      entryTexts catalog config relations index = written := by
  constructor
  · exact (enumerates_entryTexts catalog config relations index).unique
  · rintro rfl
    exact enumerates_entryTexts catalog config relations index

end Enumerated

/-- What has been written of a diagram, and the texts that were met on the way. -/
structure Draft where
  entries : List String
  seen : Finset String

namespace Draft

/-- The draft that a diagram starts with. -/
def empty : Draft :=
  ⟨[], ∅⟩

/-- Writes a text unless it was met before. -/
def push (text : String) : StateM Draft Unit :=
  modify fun draft =>
    if text ∈ draft.seen then draft else ⟨draft.entries ++ [text], insert text draft.seen⟩

/-- Writes what one type contributes. -/
def write (index : Index) (relations : Relations) : StateM Draft Unit := do
  relations.node.forM fun kind => push (Entry.text catalog config (.node relations.name kind))
  relations.interfaceEdges.forM fun edge => push (Entry.text catalog config (.implementation edge))
  relations.inheritance.forM fun edge => push (Entry.text catalog config (.inheritance edge))
  (index.edgesFrom relations.name).forM fun edge =>
    push (Entry.text catalog config (.association edge))

/-- Writes what several types contribute, one type after the other. -/
def writeAll (index : Index) (relations : List Relations) : StateM Draft Unit :=
  relations.forM (write catalog config index)

/-- The draft that is made of some texts: each of them once, and all of them met. -/
structure Holds (draft : Draft) (texts : List String) : Prop where
  entries : draft.entries = texts.eraseDups
  seen : ∀ text, text ∈ draft.seen ↔ text ∈ texts

/-- What adds some texts to a draft, whatever it is made of. -/
def Adds (program : StateM Draft Unit) (texts : List String) : Prop :=
  ∀ draft before, Holds draft before → (program.run draft).2.Holds (before ++ texts)

/-- What has been met is what the draft is made of, so the text is written exactly if it is new. -/
theorem adds_push (text : String) : Adds (push text) [text] := by
  intro draft before holds
  change (if text ∈ draft.seen then draft
    else ⟨draft.entries ++ [text], insert text draft.seen⟩ : Draft).Holds _
  by_cases known : text ∈ before
  · rw [ite_eq_left_iff.mpr fun fresh => (fresh ((holds.seen text).mpr known)).elim]
    constructor
    · rw [holds.entries, eraseDups_concat, ite_eq_left_iff.mpr fun fresh => (fresh known).elim]
    · intro other
      rw [holds.seen, List.mem_append, List.mem_singleton]
      exact ⟨Or.inl, fun found => found.elim id fun same => same ▸ known⟩
  · rw [ite_eq_right_iff.mpr fun met => (known ((holds.seen text).mp met)).elim]
    constructor
    · rw [eraseDups_concat, ite_eq_right_iff.mpr fun met => (known met).elim, holds.entries]
    · intro other
      rw [Finset.mem_insert, holds.seen, List.mem_append, List.mem_singleton, or_comm]

theorem adds_pure : Adds (pure ()) [] := by
  intro draft before holds
  rw [List.append_nil]
  exact holds

theorem Adds.bind {first second : StateM Draft Unit} {front back : List String}
    (adds : Adds first front) (more : Adds second back) :
    Adds (do first; second) (front ++ back) := by
  intro draft before holds
  rw [← List.append_assoc]
  exact more _ _ (adds draft before holds)

/-- A loop adds the texts of one round after the other. -/
theorem adds_forM {α : Type} {program : α → StateM Draft Unit} {texts : α → List String}
    (adds : ∀ item, Adds (program item) (texts item)) (items : List α) :
    Adds (items.forM program) (items.flatMap texts) := by
  induction items with
  | nil => exact adds_pure
  | cons first rest ih =>
      rw [List.flatMap_cons]
      exact (adds first).bind ih

section Pushes

variable {α : Type} (text : α → String)

theorem adds_pushes (items : List α) :
    Adds (items.forM fun item => push (text item)) (items.map text) := by
  rw [List.map_eq_flatMap]
  exact adds_forM (fun item => adds_push (text item)) items

/-- Pushing what may be missing adds it where it is there. -/
theorem adds_push_option (item : Option α) :
    Adds (item.forM fun item => push (text item)) (item.toList.map text) := by
  cases item with
  | none => exact adds_pure
  | some only => exact adds_push (text only)

end Pushes

/-- Going through the relations of a type is pushing its entries. -/
theorem adds_write (index : Index) (relations : Relations) :
    Adds (write catalog config index relations)
      ((relations.entries index).map (Entry.text catalog config)) := by
  simp only [Relations.entries, Option.toList_map, List.map_append, List.map_map,
    List.append_assoc]
  exact (adds_push_option _ _).bind ((adds_pushes _ _).bind
    ((adds_push_option _ _).bind (adds_pushes _ _)))

theorem holds_empty : empty.Holds [] where
  entries := rfl
  seen := by simp [empty]

/-- One pass over the relations writes the texts of their entries, each once. -/
theorem entries_writeAll (relations : List Relations) (index : Index) :
    ((writeAll catalog config index relations).run empty).2.entries =
      entryTexts catalog config relations index := by
  have adds : Adds (writeAll catalog config index relations) _ :=
    adds_forM (adds_write catalog config index) relations
  rw [(adds _ _ holds_empty).entries, List.nil_append, entryTexts, entriesOf, List.map_flatMap]

end Draft

/-- More relations add those texts that were not written before. -/
theorem entryTexts_append (relations more : List Relations) (index : Index) :
    entryTexts catalog config (relations ++ more) index =
      entryTexts catalog config relations index ++
        (entryTexts catalog config more index).filter fun text =>
          text ∉ entryTexts catalog config relations index := by
  simp only [entryTexts, List.mem_eraseDups]
  simp only [eraseDups_eq_firstBy]
  rw [entriesOf, List.flatMap_append, List.map_append, firstBy_append, List.map_id]
  rfl

/-- Relations that are repeated add nothing. -/
theorem entryTexts_append_of_subset {relations more : List Relations} (index : Index)
    (repeated : ∀ each ∈ more, each ∈ relations) :
    entryTexts catalog config (relations ++ more) index =
      entryTexts catalog config relations index := by
  rw [entryTexts_append, List.append_right_eq_self, List.filter_eq_nil_iff]
  simp only [entryTexts, List.mem_eraseDups, decide_eq_true_eq, not_not]
  intro text written
  obtain ⟨entry, member, rfl⟩ := List.mem_map.mp written
  obtain ⟨each, listed, contributed⟩ := List.mem_flatMap.mp member
  exact List.mem_map_of_mem (List.mem_flatMap.mpr ⟨each, repeated each listed, contributed⟩)

/-- What a diagram writes for any relations and an index. -/
structure EmitsOnce (index : Index) : Prop where
  emit : ∀ relations, emit catalog config relations index =
    ",".intercalate (entryTexts catalog config relations index)
  /-- One pass that remembers the texts it has met comes to the same. -/
  draft : ∀ relations,
    ((Draft.writeAll catalog config index relations).run .empty).2.entries =
      entryTexts catalog config relations index
  /-- No text is missing, none is too many or there twice, and each stands where it first comes
  up. -/
  enumerates_iff : ∀ relations written, Enumerates catalog config relations index written ↔
    entryTexts catalog config relations index = written
  append : ∀ relations more, entryTexts catalog config (relations ++ more) index =
    entryTexts catalog config relations index ++
      (entryTexts catalog config more index).filter fun text =>
        text ∉ entryTexts catalog config relations index
  repeated : ∀ relations more, (∀ each ∈ more, each ∈ relations) →
    entryTexts catalog config (relations ++ more) index =
      entryTexts catalog config relations index

/-- Whatever an index holds, what is written for relations and the index is what they call for. -/
theorem emitsOnce (index : Index) : EmitsOnce catalog config index where
  emit _ := rfl
  draft relations := Draft.entries_writeAll catalog config relations index
  enumerates_iff _ _ := enumerates_iff
  append relations more := entryTexts_append catalog config relations more index
  repeated _ _ := entryTexts_append_of_subset catalog config index

/-- **Every entry that is called for is written once.** Whatever was observed, any relations and the
index of the observations are written as the texts of the entries that they call for, each once, in
the order in which they first come up.  Further relations only add to them, and relations that are
repeated add nothing. -/
theorem exists_emitsOnce (observed : List Candidate) :
    ∃ index, Index.empty.observeAll observed = .ok index ∧ EmitsOnce catalog config index := by
  obtain ⟨index, filed, -⟩ := Index.observeAll_describes observed
  exact ⟨index, filed, emitsOnce catalog config index⟩

/-- The second visit to the bird adds nothing, and what contradicts the first one only its own
node. -/
example :
    let bird : Relations := ⟨"Bird", some .classKind, [], some ⟨"Animal", "Bird"⟩, []⟩
    let shiny : Relations := ⟨"Bird", some .interfaceKind, [], none, []⟩
    let wing : Relations := ⟨"Wing", some .classKind, [], none, []⟩
    (Index.empty.observeAll [⟨"Bird", "Wing", .many⟩]).map
        (entryTexts .empty {} [bird, wing, bird, shiny]) =
      .ok ["[Bird]", "[Animal]^-[Bird]", "[Bird]1-0..*[Wing]", "[Wing]", "[<<Bird>>]"] := by
  decide

end ClassDiagram
