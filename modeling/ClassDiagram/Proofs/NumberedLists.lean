import Mathlib.Data.List.Basic
import Mathlib.Data.Prod.Lex

/-! # Lists with the places of their elements

`located` picks elements of a list and keeps their places.  Where every element of a list has values
at places of its own, `numbered` puts the place of the element in front, so the values come in the
lexicographic order of their places (`ClassDiagram.pairwise_numbered`).
-/

namespace ClassDiagram

/-- The places of a list are numbered upwards. -/
theorem pairwise_snd_zipIdx {α : Type} (list : List α) :
    list.zipIdx.Pairwise fun left right => left.2 < right.2 := by
  rw [← List.pairwise_map, List.zipIdx_map_snd]
  exact List.pairwise_lt_range'

section Located

variable {α β : Type} {keep : α → Bool} {value : α → β} {list : List α}

/-- What stands for the elements of a list that are kept, with the places of these elements. -/
def located (keep : α → Bool) (value : α → β) (list : List α) : List (Nat × β) :=
  (list.zipIdx.filter (keep ·.1)).map fun (element, column) => (column, value element)

/-- What stands at a place stands for the element that is kept there. -/
theorem mem_located {column : Nat} {held : β} :
    (column, held) ∈ located keep value list ↔
      ∃ element, list[column]? = some element ∧ keep element = true ∧ value element = held := by
  simp only [located, List.mem_map, List.mem_filter, Prod.exists, Prod.mk.injEq,
    List.mk_mem_zipIdx_iff_getElem?]
  constructor
  · rintro ⟨element, _, ⟨listed, kept⟩, rfl, same⟩
    exact ⟨element, listed, kept, same⟩
  · rintro ⟨element, listed, kept, same⟩
    exact ⟨element, column, ⟨listed, kept⟩, rfl, same⟩

/-- What there may be one of stands in front. -/
theorem mem_located_toList {option : Option α} {column : Nat} {held : β} :
    (column, held) ∈ located (fun _ => true) value option.toList ↔
      column = 0 ∧ ∃ element, option = some element ∧ value element = held := by
  rw [mem_located]
  cases option with
  | none => simp
  | some only => cases column <;> simp

variable (keep value list) in
/-- Without their places the elements that are kept remain. -/
theorem map_snd_located :
    (located keep value list).map Prod.snd = (list.filter keep).map value := by
  conv_rhs => rw [← List.zipIdx_map_fst 0 list, List.filter_map, List.map_map]
  rw [located, List.map_map]
  rfl

variable (keep value list) in
/-- Places of elements that are kept are numbered upwards. -/
theorem pairwise_located :
    (located keep value list).Pairwise fun left right => left.1 < right.1 := by
  rw [located, List.pairwise_map]
  exact (pairwise_snd_zipIdx list).filter _

end Located

section Numbered

variable {α β ρ : Type} {inner : α → List (ρ × β)} {list : List α}

/-- The values that the elements of a list have at places of their own, with the place of the
element in front. -/
def numbered (inner : α → List (ρ × β)) (list : List α) : List ((Nat × ρ) × β) :=
  list.zipIdx.flatMap fun (element, row) =>
    (inner element).map fun (place, value) => ((row, place), value)

/-- What stands at a pair of places is what the element at the first has at the second. -/
theorem mem_numbered {row : Nat} {place : ρ} {value : β} :
    ((row, place), value) ∈ numbered inner list ↔
      ∃ element, list[row]? = some element ∧ (place, value) ∈ inner element := by
  simp only [numbered, List.mem_flatMap, List.mem_map, Prod.exists, Prod.mk.injEq]
  constructor
  · rintro ⟨element, _, listed, _, _, held, ⟨rfl, rfl⟩, rfl⟩
    exact ⟨element, List.mk_mem_zipIdx_iff_getElem?.mp listed, held⟩
  · rintro ⟨element, listed, held⟩
    exact ⟨element, row, List.mk_mem_zipIdx_iff_getElem?.mpr listed, place, value, held,
      ⟨rfl, rfl⟩, rfl⟩

variable (inner list) in
/-- Without their places the values are those of one element after the other. -/
theorem map_snd_numbered :
    (numbered inner list).map Prod.snd =
      list.flatMap fun element => (inner element).map Prod.snd := by
  conv_rhs => rw [← List.zipIdx_map_fst 0 list, List.flatMap_map]
  rw [numbered, List.map_flatMap]
  apply List.flatMap_congr
  rintro ⟨element, row⟩ _
  rw [List.map_map]
  rfl

/-- If the values of each element are listed in the order of their places, so are all. -/
theorem pairwise_numbered {before : ρ → ρ → Prop}
    (ordered : ∀ element ∈ list,
      (inner element).Pairwise fun left right => before left.1 right.1) :
    (numbered inner list).Pairwise fun left right =>
      Prod.Lex (· < ·) before left.1 right.1 := by
  refine List.pairwise_flatMap.mpr ⟨?_, (pairwise_snd_zipIdx list).imp ?_⟩
  · rintro ⟨element, row⟩ listed
    rw [List.pairwise_map]
    exact (ordered element (List.fst_mem_of_mem_zipIdx listed)).imp fun inside => .right _ inside
  · rintro ⟨element, row⟩ ⟨other, otherRow⟩ below _ left _ right
    obtain ⟨_, -, rfl⟩ := List.mem_map.mp left
    obtain ⟨_, -, rfl⟩ := List.mem_map.mp right
    exact .left _ _ below

end Numbered

end ClassDiagram
