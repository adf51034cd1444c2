import ClassDiagram.Catalog
import ClassDiagram.Proofs.FirstBy
import Mathlib.Data.List.Nodup

/-! # Names in a catalog

A catalog made from a list of types holds the first type of each name
(`ClassDiagram.Catalog.types_ofList`).  Since no two of its types share a name, looking a name up is
the same as finding the type among all of them (`ClassDiagram.Catalog.get?_eq_find?`), and as
finding it in the list (`ClassDiagram.Catalog.get?_ofList`).
-/

namespace ClassDiagram.Catalog

variable {catalog : Catalog}

/-- A name is in the catalog exactly if one of its types has it. -/
theorem contains_iff {name : String} :
    catalog.contains name = true ↔ ∃ descriptor ∈ catalog.types, descriptor.name = name := by
  rw [contains_eq_true, names, List.mem_map]

/-- The types determine the places that are noted for them. -/
theorem eq_of_types_eq {left right : Catalog} (same : left.types = right.types) : left = right := by
  obtain ⟨types, places, distinct, rfl⟩ := left
  obtain ⟨others, otherPlaces, otherDistinct, rfl⟩ := right
  cases same
  rfl

/-- Looking a name up finds the type that has it. -/
theorem get?_eq_some {name : String} {descriptor : Descriptor} :
    catalog.get? name = some descriptor ↔
      descriptor ∈ catalog.types ∧ descriptor.name = name := by
  rw [get?, Option.map_eq_some_iff]
  constructor
  · rintro ⟨place, found, rfl⟩
    exact ⟨List.get_mem _ place, place?_eq_some.mp found⟩
  · rintro ⟨member, named⟩
    obtain ⟨place, rfl⟩ := List.mem_iff_get.mp member
    exact ⟨place, place?_eq_some.mpr named, rfl⟩

/-- The type of a catalog is found under its own name. -/
theorem get?_name {descriptor : Descriptor} (member : descriptor ∈ catalog.types) :
    catalog.get? descriptor.name = some descriptor :=
  get?_eq_some.mpr ⟨member, rfl⟩

theorem contains_name {descriptor : Descriptor} (member : descriptor ∈ catalog.types) :
    catalog.contains descriptor.name = true :=
  contains_iff.mpr ⟨descriptor, member, rfl⟩

theorem contains_of_get? {name : String} {descriptor : Descriptor}
    (found : catalog.get? name = some descriptor) : catalog.contains name = true := by
  obtain ⟨member, rfl⟩ := get?_eq_some.mp found
  exact contains_name member

/-- The name of a type is neither that of an earlier nor that of a later type. -/
theorem name_apart {descriptor : Descriptor} {before after : List Descriptor}
    (split : catalog.types = before ++ descriptor :: after) :
    descriptor.name ∉ before.map Descriptor.name ∧ descriptor.name ∉ after.map Descriptor.name := by
  have names := catalog.names_nodup
  rw [split, List.map_append, List.map_cons, List.nodup_middle, List.nodup_cons, List.mem_append,
    not_or] at names
  exact names.1

/-- Types of a catalog that share a name are the same. -/
theorem eq_of_name_eq {left right : Descriptor} (leftMember : left ∈ catalog.types)
    (rightMember : right ∈ catalog.types) (same : left.name = right.name) : left = right :=
  List.inj_on_of_nodup_map catalog.names_nodup leftMember rightMember same

/-- Adding a type keeps the first type of each name. -/
theorem types_add_eq_firstBy (descriptor : Descriptor) :
    (catalog.add descriptor).2.types = firstBy Descriptor.name (catalog.types ++ [descriptor]) := by
  rw [types_add, firstBy_concat, firstBy_eq_self Descriptor.name catalog.names_nodup]
  have same : catalog.contains descriptor.name = true ↔
      descriptor.name ∈ catalog.types.map Descriptor.name := contains_eq_true
  simp only [same]

/-- Adding types to a catalog keeps the first type of each name. -/
theorem types_addAll (types : List Descriptor) :
    (catalog.addAll types).types = firstBy Descriptor.name (catalog.types ++ types) := by
  induction types generalizing catalog with
  | nil =>
      rw [List.append_nil, firstBy_eq_self Descriptor.name catalog.names_nodup]
      rfl
  | cons first rest ih =>
      change ((catalog.add first).2.addAll rest).types = _
      rw [ih, types_add_eq_firstBy, firstBy_firstBy_append, List.append_assoc,
        List.singleton_append]

/-- A catalog made from a list of types holds the first type of each name. -/
theorem types_ofList (types : List Descriptor) :
    (ofList types).types = firstBy Descriptor.name types := by
  rw [ofList, types_addAll]
  rfl

/-- A catalog made from a list finds the first type of a name. -/
theorem get?_ofList (types : List Descriptor) (name : String) :
    (ofList types).get? name = types.find? (·.name == name) := by
  refine Option.ext fun descriptor => ?_
  rw [get?_eq_some, types_ofList, mem_firstBy]
  constructor
  · rintro ⟨found, rfl⟩
    exact found
  · intro found
    obtain rfl : descriptor.name = name := by simpa using List.find?_some found
    exact ⟨found, rfl⟩

/-- A catalog is that of its own types. -/
theorem ofList_types (catalog : Catalog) : ofList catalog.types = catalog := by
  apply eq_of_types_eq
  rw [types_ofList, firstBy_eq_self Descriptor.name catalog.names_nodup]

/-- Looking a name up finds the first of all types that has it. -/
theorem get?_eq_find? (catalog : Catalog) (name : String) :
    catalog.get? name = catalog.types.find? (·.name == name) := by
  rw [← get?_ofList, ofList_types]

/-- The types of a catalog come from the list it was made from. -/
theorem mem_of_mem_ofList {types : List Descriptor} {descriptor : Descriptor}
    (member : descriptor ∈ (ofList types).types) : descriptor ∈ types := by
  rw [types_ofList] at member
  exact (firstBy_sublist Descriptor.name types).subset member

/-- A catalog grows by one type exactly if the type was new. -/
theorem size_add (catalog : Catalog) (descriptor : Descriptor) :
    (catalog.add descriptor).2.size =
      if (catalog.add descriptor).1 then catalog.size + 1 else catalog.size := by
  unfold add
  split
  · rfl
  · exact List.length_append

/-- Types that are counted are added like others, and the count grows as the catalog does. -/
theorem foldl_addCounted (types : List Descriptor) (count : Nat) (catalog : Catalog) :
    (types.foldl addCounted (count, catalog)).2 = catalog.addAll types ∧
      catalog.size + (types.foldl addCounted (count, catalog)).1 =
        count + (catalog.addAll types).size := by
  induction types generalizing count catalog with
  | nil => exact ⟨rfl, Nat.add_comm _ _⟩
  | cons first rest ih =>
      obtain ⟨reached, grown⟩ := ih (addCounted (count, catalog) first).1 (catalog.add first).2
      refine ⟨reached, ?_⟩
      have counted : catalog.size + (addCounted (count, catalog) first).1 =
          count + (catalog.add first).2.size := by
        change catalog.size + (if (catalog.add first).1 then count + 1 else count) = _
        rw [size_add]
        split <;> omega
      change catalog.size + (rest.foldl addCounted (addCounted (count, catalog) first)).1 =
        count + ((catalog.add first).2.addAll rest).size
      have same : addCounted (count, catalog) first =
          ((addCounted (count, catalog) first).1, (catalog.add first).2) := rfl
      rw [same]
      omega

/-- Counting what is new makes no difference to what is added. -/
theorem snd_addCounting (catalog : Catalog) (types : List Descriptor) :
    (catalog.addCounting types).2 = catalog.addAll types :=
  (foldl_addCounted types 0 catalog).1

/-- As many types are counted as the catalog grows by. -/
theorem size_addCounting (catalog : Catalog) (types : List Descriptor) :
    (catalog.addAll types).size = catalog.size + (catalog.addCounting types).1 := by
  have grown := (foldl_addCounted types 0 catalog).2
  rw [Nat.zero_add] at grown
  exact grown.symm

end ClassDiagram.Catalog
