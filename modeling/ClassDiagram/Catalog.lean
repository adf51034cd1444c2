import ClassDiagram.Provider

/-!
# Catalogs

A catalog holds the types of a diagram in the order in which they came.  No two of them share a
name: of several types with one name the first stays.  The place of each type is noted under its
name, and every question whether a name means a type of the diagram is a look-up among these notes.
-/

namespace ClassDiagram

/-- The types of a diagram, with pairwise different names, and the places of types under their
names. -/
structure Catalog where
  types : List Descriptor
  /-- The place of each type under its name. -/
  places : List (String × Nat) := (types.map Descriptor.name).zipIdx
  names_nodup : (types.map Descriptor.name).Nodup
  places_eq : places = (types.map Descriptor.name).zipIdx := by rfl

namespace Catalog

def empty : Catalog where
  types := []
  names_nodup := List.nodup_nil

def names (catalog : Catalog) : List String :=
  catalog.types.map Descriptor.name

/-- Among numbered names the first of a name is found. -/
theorem lookup_zipIdx (names : List String) (name : String) (start : Nat) :
    (names.zipIdx start).lookup name = (names.findIdx? (· == name)).map (· + start) := by
  induction names generalizing start with
  | nil => rfl
  | cons first more ih =>
      rw [List.zipIdx_cons, List.lookup_cons, List.findIdx?_cons, BEq.comm]
      cases first == name with
      | true => simp
      | false =>
          simp only [Bool.false_eq_true, ↓reduceIte, ih, Option.map_map]
          congr 1
          funext place
          simp only [Function.comp_apply]
          omega

/-- What is noted under a name is the place of the type that has it. -/
theorem lookup_places (catalog : Catalog) (name : String) :
    catalog.places.lookup name = catalog.types.findIdx? (·.name == name) := by
  rw [catalog.places_eq, lookup_zipIdx, List.findIdx?_map]
  exact Option.map_id'

/-- Every place that is noted is that of a type. -/
theorem lt_of_lookup_places {catalog : Catalog} {name : String} {place : Nat}
    (noted : catalog.places.lookup name = some place) : place < catalog.types.length := by
  rw [lookup_places, List.findIdx?_eq_some_iff_getElem] at noted
  exact noted.1

/-- The place that is noted under a name. -/
def place? (catalog : Catalog) (name : String) : Option (Fin catalog.types.length) :=
  match noted : catalog.places.lookup name with
  | some place => some ⟨place, lt_of_lookup_places noted⟩
  | none => none

def contains (catalog : Catalog) (name : String) : Bool :=
  (catalog.place? name).isSome

def get? (catalog : Catalog) (name : String) : Option Descriptor :=
  (catalog.place? name).map catalog.types.get

def isInterface (catalog : Catalog) (name : String) : Bool :=
  (catalog.get? name).any Descriptor.isInterface

def size (catalog : Catalog) : Nat :=
  catalog.types.length

def isEmpty (catalog : Catalog) : Bool :=
  catalog.types.isEmpty

/-- A name leads to the place of the type that has it. -/
theorem place?_eq_some {catalog : Catalog} {name : String} {place : Fin catalog.types.length} :
    catalog.place? name = some place ↔ (catalog.types.get place).name = name := by
  have noted : catalog.place? name = some place ↔ catalog.places.lookup name = some place.val := by
    unfold place?
    split
    · rename_i found noted
      simp only [noted, Option.some.injEq, Fin.ext_iff]
    · rename_i missing
      simp [missing]
  rw [noted, lookup_places, List.findIdx?_eq_some_iff_getElem]
  constructor
  · rintro ⟨_, named, -⟩
    exact eq_of_beq named
  · intro named
    refine ⟨place.isLt, beq_iff_eq.mpr named, fun earlier before same => ?_⟩
    have distinct := List.pairwise_iff_getElem.mp catalog.names_nodup earlier place
      (by simp only [List.length_map]; omega) (by simp only [List.length_map]; omega) before
    simp only [List.getElem_map] at distinct
    exact distinct ((eq_of_beq same).trans named.symm)

/-- A catalog contains the names of its types and no other. -/
theorem contains_eq_true {catalog : Catalog} {name : String} :
    catalog.contains name = true ↔ name ∈ catalog.names := by
  rw [contains, Option.isSome_iff_exists, names, List.mem_map]
  constructor
  · rintro ⟨place, found⟩
    exact ⟨_, List.get_mem _ place, place?_eq_some.mp found⟩
  · rintro ⟨descriptor, member, named⟩
    obtain ⟨place, rfl⟩ := List.mem_iff_get.mp member
    exact ⟨place, place?_eq_some.mpr named⟩

/-- Appends a type and notes its place, unless its name is taken; says whether it was appended. -/
def add (catalog : Catalog) (descriptor : Descriptor) : Bool × Catalog :=
  if taken : catalog.contains descriptor.name = true then
    (false, catalog)
  else
    (true, {
      types := catalog.types ++ [descriptor]
      places := catalog.places ++ [(descriptor.name, catalog.types.length)]
      names_nodup := by
        have fresh : descriptor.name ∉ catalog.types.map Descriptor.name :=
          fun member => taken (contains_eq_true.mpr member)
        rw [List.map_append, List.nodup_append]
        refine ⟨catalog.names_nodup, by simp, ?_⟩
        intro left leftMember right rightMember same
        have named : right = descriptor.name := by simpa using rightMember
        exact fresh (named ▸ same ▸ leftMember)
      places_eq := by simp [catalog.places_eq, List.zipIdx_append] })

/-- A type is appended exactly if its name is new. -/
theorem add_fst (catalog : Catalog) (descriptor : Descriptor) :
    (catalog.add descriptor).1 = !catalog.contains descriptor.name := by
  unfold add
  split <;> simp_all

/-- What is in a catalog after a type was added. -/
theorem types_add (catalog : Catalog) (descriptor : Descriptor) :
    (catalog.add descriptor).2.types =
      if catalog.contains descriptor.name then catalog.types
      else catalog.types ++ [descriptor] := by
  unfold add
  split <;> simp_all

def addAll (catalog : Catalog) (types : List Descriptor) : Catalog :=
  types.foldl (fun reached descriptor => (reached.add descriptor).2) catalog

def ofList (types : List Descriptor) : Catalog :=
  empty.addAll types

/-- Adds a type, and counts it if it was new. -/
def addCounted (reached : Nat × Catalog) (descriptor : Descriptor) : Nat × Catalog :=
  let step := reached.2.add descriptor
  (if step.1 then reached.1 + 1 else reached.1, step.2)

/-- Adds several types and counts those that were new. -/
def addCounting (catalog : Catalog) (types : List Descriptor) : Nat × Catalog :=
  types.foldl addCounted (0, catalog)

/-- Adds the types of a provider that pass the filter, and counts those that were new.  If the
provider fails there is no new catalog. -/
def addFrom (catalog : Catalog) (provider : Provider) (filter : Filter) :
    Except Failure (Nat × Catalog) :=
  provider.types.map fun offered => catalog.addCounting (offered.filter filter)

/-- The interfaces a type implements, as far as their names are in the catalog, each once and in
the order of their first mention. -/
def implementedInterfaces (catalog : Catalog) (descriptor : Descriptor) : List String :=
  (descriptor.interfaces.filter catalog.contains).eraseDups

end Catalog

end ClassDiagram
