import ClassDiagram.Proofs.InterfaceMarks
import ClassDiagram.Proofs.Rearrangement

/-! # Finding the entries of a diagram by its commas

The entries of a diagram are told apart by the commas between them, and nothing keeps commas out of
the names of types.  So the pieces between the commas of a text are its entries exactly if no comma
stands in a name that is drawn (`ClassDiagram.exists_splitsAtCommas`).  Other marks in names do not
split an entry, but make different entries look alike, of which only the first is kept.
-/

namespace ClassDiagram

section Pieces

/-- The pieces of a text are those between its commas. -/
theorem piecesOf_eq_splitOn (text : List Char) : piecesOf text = text.splitOn ',' := by
  induction text with
  | nil => rfl
  | cons c rest ih =>
      rw [List.splitOn_cons_eq_if_modifyHead, ← ih]
      by_cases comma : c = ','
      · simp [piecesOf, comma]
      · cases split : piecesOf rest with
        | nil => exact (List.splitOn_ne_nil ',' rest (ih.symm.trans split)).elim
        | cons piece pieces => simp [piecesOf, comma, split]

/-- Pieces without commas are found again after they were joined. -/
theorem piecesOf_intercalate {pieces : List (List Char)} (filled : pieces ≠ [])
    (free : ∀ piece ∈ pieces, ',' ∉ piece) : piecesOf ([','].intercalate pieces) = pieces := by
  rw [piecesOf_eq_splitOn]
  exact List.splitOn_intercalate ',' free filled

/-- No comma stands in a piece. -/
theorem comma_not_mem_piecesOf {text : List Char} : ∀ piece ∈ piecesOf text, ',' ∉ piece := by
  induction text with
  | nil => simp [piecesOf]
  | cons c rest ih =>
      unfold piecesOf
      by_cases comma : c = ','
      · simpa [comma] using ih
      · cases split : piecesOf rest with
        | nil => simp [comma, Ne.symm comma]
        | cons first more =>
            rw [split] at ih
            simp only [comma, ↓reduceIte]
            intro piece member
            rcases List.mem_cons.mp member with rfl | later
            · rw [List.mem_cons, not_or]
              exact ⟨Ne.symm comma, ih first List.mem_cons_self⟩
            · exact ih piece (List.mem_cons_of_mem _ later)

variable {entries : List String}

/-- The letters of entries that are joined by commas. -/
theorem toList_intercalate_comma (entries : List String) :
    (",".intercalate entries).toList = [','].intercalate (entries.map String.toList) :=
  String.toList_intercalate

/-- Entries are the pieces of the text that joins them exactly if no comma stands in them. -/
theorem map_piecesOf_intercalate_iff (filled : entries ≠ []) :
    (piecesOf (",".intercalate entries).toList).map String.ofList = entries ↔
      ∀ entry ∈ entries, ',' ∉ entry.toList := by
  constructor
  · intro same entry member
    rw [← same] at member
    obtain ⟨piece, found, rfl⟩ := List.mem_map.mp member
    rw [String.toList_ofList]
    exact comma_not_mem_piecesOf piece found
  · intro free
    rw [toList_intercalate_comma,
      piecesOf_intercalate (by simpa using filled) (by simpa using free), List.map_map]
    simp [Function.comp_def]

/-- Entries that are all different are found in the text that joins them exactly if no comma stands
in them. -/
theorem entrySet_intercalate_iff (distinct : entries.Nodup) (written : "" ∉ entries) :
    entrySet (",".intercalate entries) = entries ↔ ∀ entry ∈ entries, ',' ∉ entry.toList := by
  constructor
  · intro same entry member
    rw [← same, entrySet, List.mem_eraseDups] at member
    obtain ⟨piece, found, rfl⟩ := List.mem_map.mp member
    rw [String.toList_ofList]
    exact comma_not_mem_piecesOf piece (List.mem_of_mem_filter found)
  · intro free
    by_cases filled : entries = []
    · rw [filled]
      rfl
    · have pieces : piecesOf (",".intercalate entries).toList = entries.map String.toList := by
        rw [toList_intercalate_comma]
        exact piecesOf_intercalate (by simpa using filled) (by simpa using free)
      have none : ∀ piece ∈ entries.map String.toList, (!piece.isEmpty) = true := by
        intro piece member
        obtain ⟨entry, listed, rfl⟩ := List.mem_map.mp member
        have letters : entry.toList ≠ [] := by
          intro empty
          rw [String.toList_eq_nil_iff.mp empty] at listed
          exact written listed
        simpa using letters
      rw [entrySet, pieces, List.filter_eq_self.mpr none, List.map_map]
      simpa [Function.comp_def] using eraseDups_eq_self distinct

end Pieces

/-- A comma stands in a label exactly if it stands in a name. -/
theorem Label.comma_mem_text {label : Label} :
    ',' ∈ label.text.toList ↔ ∃ name ∈ label.names, ',' ∈ name.toList := by
  cases label with
  | interface name => simp [toList_text_interface, names]
  | plain tags name =>
      induction tags with
      | nil => simp [toList_text_plain_nil, names]
      | cons tag tags ih =>
          rw [toList_text_plain_cons]
          simp only [names, List.cons_append, List.exists_mem_cons_iff] at ih ⊢
          simp [ih]

/-- The names that stand in an entry. -/
def Drawn.names (drawn : Drawn) : List String :=
  drawn.labels.flatMap Label.names

/-- The names that stand in a diagram are those in its entries. -/
theorem Diagram.mem_names {diagram : Diagram} {name : String} :
    name ∈ diagram.names ↔ ∃ entry ∈ diagram.entries,
      name ∈ (entry.drawn diagram.catalog diagram.config).names := by
  simp only [names, drawn, Drawn.names, List.mem_flatMap, List.mem_map, exists_exists_and_eq_and]

section Entries

variable {catalog : Catalog} {config : Config} {entry : Entry}

/-- What connects two labels is no name. -/
theorem Entry.connector_free {source target : Label} {connector : String}
    (same : entry.drawn catalog config = .link source connector target) :
    '[' ∉ connector.toList ∧ ',' ∉ connector.toList := by
  cases entry with
  | node name kind => cases kind <;> cases same
  | implementation edge =>
      cases same
      decide
  | inheritance edge =>
      cases same
      decide
  | association edge =>
      cases same
      exact edge.connector_apart.2.2

/-- A comma stands in the text of an entry exactly if it stands in a name. -/
theorem Entry.comma_mem_text :
    ',' ∈ (entry.text catalog config).toList ↔
      ∃ name ∈ (entry.drawn catalog config).names, ',' ∈ name.toList := by
  rw [← text_drawn]
  cases same : entry.drawn catalog config with
  | node label =>
      rw [Drawn.toList_text_node]
      simp [Label.comma_mem_text, Drawn.names, Drawn.labels]
  | link source connector target =>
      rw [Drawn.toList_text_link]
      simp [Label.comma_mem_text, Drawn.names, Drawn.labels, (connector_free same).2, or_and_right,
        exists_or]

theorem Entry.text_ne_empty (entry : Entry) : entry.text catalog config ≠ "" := by
  rw [← text_drawn]
  exact Drawn.text_ne_empty _

/-- Where only names free of marks stand in an entry, it can be read in one way only. -/
theorem Entry.isPlain_drawn_of_names
    (free : ∀ name ∈ (entry.drawn catalog config).names, ClassDiagram.IsPlain name) :
    (entry.drawn catalog config).IsPlain := by
  have ofLabel {label : Label} (member : label ∈ (entry.drawn catalog config).labels) :
      label.IsPlain := by
    have inside (name : String) (stands : name ∈ label.names) : ClassDiagram.IsPlain name :=
      free name (List.mem_flatMap.mpr ⟨label, member, stands⟩)
    cases label with
    | interface name => exact inside name (List.mem_singleton.mpr rfl)
    | plain tags name =>
        exact ⟨fun tag listed => inside tag (List.mem_append_left _ listed),
          inside name (List.mem_append_right _ (List.mem_singleton.mpr rfl))⟩
  cases same : entry.drawn catalog config with
  | node label => exact ofLabel (by simp [same, Drawn.labels])
  | link source connector target =>
      obtain ⟨noBracket, noComma⟩ := connector_free same
      exact ⟨ofLabel (by simp [same, Drawn.labels]), noBracket, noComma,
        ofLabel (by simp [same, Drawn.labels])⟩

end Entries

namespace Diagram

/-- The entries that are written, each text once. -/
def written (diagram : Diagram) : List String :=
  entryTexts diagram.catalog diagram.config diagram.relations diagram.associations

/-- What the commas in the text of a diagram tell of its entries. -/
structure SplitsAtCommas (diagram : Diagram) : Prop where
  nodup : diagram.written.Nodup
  filled : "" ∉ diagram.written
  /-- Every entry is written, and nothing else. -/
  mem : ∀ text, text ∈ diagram.written ↔ text ∈ diagram.texts
  /-- The pieces of a text are the entries exactly if no comma stands in a name. -/
  pieces : diagram.text ≠ "" →
    ((piecesOf diagram.text.toList).map String.ofList = diagram.written ↔
      ∀ name ∈ diagram.names, ',' ∉ name.toList)
  entrySet : ClassDiagram.entrySet diagram.text = diagram.written ↔
    ∀ name ∈ diagram.names, ',' ∉ name.toList
  /-- Where names are free of marks, no entry is written like another. -/
  apart : (∀ name ∈ diagram.names, IsPlain name) → diagram.written = diagram.texts

variable {diagram : Diagram}

/-- What is written of a diagram are the texts of its entries, each once. -/
theorem written_eq : diagram.written = diagram.texts.eraseDups := rfl

/-- No comma is written exactly if none stands in a name. -/
theorem comma_not_mem_written :
    (∀ text ∈ diagram.written, ',' ∉ text.toList) ↔ ∀ name ∈ diagram.names, ',' ∉ name.toList := by
  simp only [written_eq, List.mem_eraseDups, texts, List.forall_mem_map, Entry.comma_mem_text,
    not_exists, not_and, mem_names]
  constructor
  · rintro free name ⟨entry, listed, stands⟩
    exact free entry listed name stands
  · exact fun free entry listed name stands => free name ⟨entry, listed, stands⟩

/-- Different entries of a diagram whose names are free of marks have different texts. -/
theorem nodup_texts {catalog : Catalog} {config : Config}
    (made : Diagram.ofCatalog catalog config = .ok diagram)
    (free : ∀ name ∈ diagram.names, IsPlain name) : diagram.texts.Nodup := by
  obtain ⟨sameCatalog, sameConfig, entries, -⟩ := made_eq made
  have plain {entry : Entry} (listed : entry ∈ diagram.entries) :
      (entry.drawn diagram.catalog diagram.config).IsPlain :=
    Entry.isPlain_drawn_of_names fun name stands =>
      free name (mem_names.mpr ⟨entry, listed, stands⟩)
  have fits {entry : Entry} (listed : entry ∈ diagram.entries) : entry.Fits diagram.catalog := by
    rw [entries] at listed
    rw [sameCatalog]
    exact fits_of_mem_outline listed
  have distinct : diagram.entries.Nodup := by
    rw [entries]
    exact nodup_outline
  refine distinct.map_on fun left leftListed right rightListed same => ?_
  rw [← Entry.text_drawn, ← Entry.text_drawn] at same
  exact Entry.eq_of_drawn_eq (fits leftListed) (fits rightListed)
    (Drawn.text_injective (plain leftListed) (plain rightListed) same)

end Diagram

/-- **Commas separate entries where no name has one.** The diagram of any list of types can be made,
and every entry is written once.  The pieces between the commas of its text are its entries exactly
if no comma stands in a name that is drawn; and if all these names are free of marks, no entry is
dropped because it looks like another. -/
theorem exists_splitsAtCommas (config : Config) (types : List Descriptor) :
    ∃ diagram, Diagram.ofCatalog (Catalog.ofList types) config = .ok diagram ∧
      generate config types = .ok diagram.text ∧
      diagram.text = ",".intercalate diagram.written ∧
      (∀ name ∈ diagram.names, ∃ descriptor ∈ types, descriptor.name = name) ∧
      diagram.SplitsAtCommas := by
  obtain ⟨diagram, made⟩ := Diagram.exists_made (Catalog.ofList types) config
  have distinct : diagram.written.Nodup := nodup_eraseDups _
  have filled : "" ∉ diagram.written := by
    rw [Diagram.written_eq, List.mem_eraseDups]
    intro member
    obtain ⟨entry, -, empty⟩ := List.mem_map.mp member
    exact entry.text_ne_empty empty
  refine ⟨diagram, made, ?_, rfl, ?_, ?_⟩
  · unfold generate generateCatalog
    rw [made]
    rfl
  · intro name stands
    obtain ⟨descriptor, member, named⟩ :=
      Catalog.contains_iff.mp (Diagram.contains_of_mem_names made stands)
    exact ⟨descriptor, Catalog.mem_of_mem_ofList member, named⟩
  constructor
  case nodup => exact distinct
  case filled => exact filled
  case mem =>
    intro text
    rw [Diagram.written_eq, List.mem_eraseDups]
  case pieces =>
    intro filledText
    rw [← Diagram.comma_not_mem_written]
    apply map_piecesOf_intercalate_iff
    intro empty
    have nothing : diagram.written = [] := empty
    apply filledText
    change ",".intercalate diagram.written = ""
    rw [nothing]
    rfl
  case entrySet =>
    rw [← Diagram.comma_not_mem_written]
    exact entrySet_intercalate_iff distinct filled
  case apart =>
    intro free
    rw [Diagram.written_eq, eraseDups_eq_self (Diagram.nodup_texts made free)]

/-- A comma in a name splits an entry, into pieces that may be equal, and brackets in a name can
hide one entry behind another. -/
theorem marks_in_names_split_and_hide :
    (∃ diagram, Diagram.ofCatalog (Catalog.ofList [⟨"A,B,B,C", .classKind, none, [], []⟩]) {} =
        .ok diagram ∧
      diagram.texts = ["[A,B,B,C]"] ∧
      generate {} [⟨"A,B,B,C", .classKind, none, [], []⟩] = .ok "[A,B,B,C]" ∧
      (piecesOf "[A,B,B,C]".toList).map String.ofList = ["[A", "B", "B", "C]"] ∧
      entrySet "[A,B,B,C]" = ["[A", "B", "C]"]) ∧
    ∃ diagram, Diagram.ofCatalog (Catalog.ofList [⟨"A", .classKind, none, [], []⟩,
        ⟨"B", .classKind, some "A", [], []⟩, ⟨"A]^-[B", .classKind, none, [], []⟩]) {} =
        .ok diagram ∧
      diagram.texts = ["[A]", "[B]", "[A]^-[B]", "[A]^-[B]"] ∧
      diagram.text = "[A],[B],[A]^-[B]" := by
  refine ⟨⟨_, rfl, ?_, ?_, ?_, ?_⟩, _, rfl, ?_, ?_⟩
  case refine_2 =>
    apply congrArg Except.ok
    decide +kernel
  all_goals decide +kernel

end ClassDiagram
