import ClassDiagram.Declaration.Source
import ClassDiagram.Proofs.DeclarationCompleteness
import Mathlib.Data.Set.Subsingleton

/-! # The declaration language

A source is accepted exactly if it belongs to the language of the grammar, and it belongs to the
language in one way only, so the types that it declares are those of the grammar
(`ClassDiagram.Declaration.Source.types_eq_ok_iff`).
-/

namespace ClassDiagram.Declaration

open Phrase

/-- A reader that reads a phrase of the grammar as a whole accepts the texts of the grammar. -/
theorem read_eq_ok {α : Type} {reader : Reader α} {text : String} {value : α} :
    read reader text = .ok value ↔
      ∃ reached, (reader ⟨text.toList, 0⟩).result = some (value, reached) := by
  unfold read Reader.start
  simp only
  split
  · rename_i found reached result
    rw [result, Except.ok.injEq]
    simp
  · rename_i result
    rw [result]
    simp

namespace Source

variable {source : Source}

/-- The declarations of a source are those of the grammar. -/
theorem written_eq_ok_iff {written : List WrittenType} :
    source.written = .ok written ↔ File written source.text.toList := by
  unfold Source.written
  rw [read_eq_ok]
  constructor
  · rintro ⟨reached, result⟩
    exact (sound_source result).1
  · intro file
    obtain ⟨behind, result⟩ := reads_source file 0
    exact ⟨_, result⟩

/-- The types of a source are the descriptions of its declarations. -/
theorem types_eq_ok {types : List Descriptor} :
    source.types = .ok types ↔
      ∃ written, source.written = .ok written ∧ written.map source.descriptor = types := by
  unfold Source.types
  cases source.written with
  | error failure => simp [Except.map]
  | ok written => simp [Except.map]

/-- The names of the types that a source declares are dotted identifiers. -/
theorem isDotted_of_types {types : List Descriptor} (accepted : source.types = .ok types) :
    ∀ descriptor ∈ types, IsDotted descriptor.name := by
  obtain ⟨written, read, rfl⟩ := types_eq_ok.mp accepted
  intro descriptor member
  obtain ⟨declaration, declared, rfl⟩ := List.mem_map.mp member
  exact (written_eq_ok_iff.mp read).isDotted declaration declared

/-- **The declaration language.** A text belongs to the language of the grammar in one way at most.
A source is accepted exactly if its text does, and it then declares one type for each declaration,
in order; a member is as visible as its mark says in the grammar, and visible if it has none, and
its shape is that of its written type. -/
theorem types_eq_ok_iff (source : Source) :
    {written | File written source.text.toList}.Subsingleton ∧
      ∀ types, source.types = .ok types ↔
        ∃ written, File written source.text.toList ∧
          types = written.map fun declaration => {
            name := declaration.name
            kind := declaration.kind
            base := declaration.base
            interfaces := declaration.interfaces
            members := declaration.members.map fun member => {
              name := member.name
              visibility := member.visibility.getD .visible
              shape := member.type.shape source.isIterable } } := by
  constructor
  · intro left leftFile right rightFile
    exact ((reads_source leftFile).unique (reads_source rightFile)).1
  · intro types
    rw [types_eq_ok]
    exact exists_congr fun written => and_congr written_eq_ok_iff eq_comm

end Source

end ClassDiagram.Declaration
