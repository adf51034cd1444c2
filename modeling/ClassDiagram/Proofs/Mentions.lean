import ClassDiagram.Relations
import ClassDiagram.Proofs.FirstBy
import Mathlib.Data.List.Induction

/-! # What a class refers to

`Shape.RefersTo` says when a member of some shape refers to a type of the catalog, and how many of
it the member holds.  The candidates of a class are its references, each target once, in the order
in which its scanned members first mention them (`ClassDiagram.Relations.map_target_candidatesOf`),
and a target is held in any number exactly if one of the members holds it so
(`ClassDiagram.Relations.mem_candidatesOf`).
-/

namespace ClassDiagram

/-- When a member of a shape refers to a type of the catalog. -/
inductive Shape.RefersTo (catalog : Catalog) : Shape → String → Multiplicity → Prop
  | single {name : String} (known : catalog.contains name = true) :
      RefersTo catalog (.single name) name .one
  /-- A container that is a type of the catalog is meant as such. -/
  | container {container : Container} (known : catalog.contains container.name = true) :
      RefersTo catalog (.container container) container.name .one
  /-- Any other container that ranges over something refers to any number of it. -/
  | element {container : Container} {name : String}
      (unknown : catalog.contains container.name = false) (ranges : container.iterable = true)
      (held : container.element.or container.arguments.head? = some name)
      (known : catalog.contains name = true) :
      RefersTo catalog (.container container) name .many
  /-- A container that does not refers to each of its arguments. -/
  | argument {container : Container} {name : String}
      (unknown : catalog.contains container.name = false) (ranges : container.iterable = false)
      (held : name ∈ container.arguments) (known : catalog.contains name = true) :
      RefersTo catalog (.container container) name .one

/-- The mentions of a shape are its references. -/
theorem Shape.mem_mentions {catalog : Catalog} {shape : Shape} {mention : Mention} :
    mention ∈ shape.mentions catalog ↔
      shape.RefersTo catalog mention.target mention.multiplicity := by
  obtain ⟨target, multiplicity⟩ := mention
  constructor
  · intro member
    cases shape with
    | single name =>
        simp only [mentions] at member
        split at member
        · rename_i known
          cases List.mem_singleton.mp member
          exact .single known
        · cases member
    | container c =>
        simp only [mentions] at member
        split at member
        · rename_i known
          cases List.mem_singleton.mp member
          exact .container known
        · rename_i unknown
          obtain ⟨inside, known⟩ := List.mem_filter.mp member
          unfold Container.contents at inside
          split at inside
          · rename_i ranges
            obtain ⟨name, held, same⟩ := Option.map_eq_some_iff.mp (Option.mem_toList.mp inside)
            cases same
            exact .element (by simpa using unknown) ranges held known
          · rename_i ranges
            obtain ⟨name, held, same⟩ := List.mem_map.mp inside
            cases same
            exact .argument (by simpa using unknown) (by simpa using ranges) held known
  · intro refers
    cases refers with
    | single known => simp [mentions, known]
    | container known => simp [mentions, known]
    | element unknown ranges held known =>
        simp [mentions, unknown, Container.contents, ranges, held, known]
    | argument unknown ranges held known =>
        simp [mentions, unknown, Container.contents, ranges, held, known]

instance (catalog : Catalog) (shape : Shape) (target : String) (multiplicity : Multiplicity) :
    Decidable (shape.RefersTo catalog target multiplicity) :=
  decidable_of_iff ((⟨target, multiplicity⟩ : Mention) ∈ shape.mentions catalog)
    Shape.mem_mentions

/-- What a shape refers to is a type of the catalog. -/
theorem Shape.RefersTo.contains {catalog : Catalog} {shape : Shape} {target : String}
    {multiplicity : Multiplicity} (refers : shape.RefersTo catalog target multiplicity) :
    catalog.contains target = true := by
  cases refers <;> assumption

namespace Mention

/-- The largest multiplicity with which a target is mentioned. -/
def largest (mentions : List Mention) (target : String) : Multiplicity :=
  if mentions.any fun each => each.target == target && each.multiplicity.isMany then .many else .one

/-- Any number is the largest multiplicity of a target if it is mentioned with it. -/
theorem largest_eq_many {mentions : List Mention} {target : String} :
    largest mentions target = .many ↔ ⟨target, .many⟩ ∈ mentions := by
  unfold largest
  split
  · rename_i found
    obtain ⟨⟨name, multiplicity⟩, member, same⟩ := List.any_eq_true.mp found
    rw [Bool.and_eq_true, beq_iff_eq] at same
    obtain ⟨rfl, many⟩ := same
    cases multiplicity with
    | one => cases many
    | many => exact iff_of_true rfl member
  · rename_i missing
    refine iff_of_false (fun absurd => nomatch absurd) ?_
    intro member
    exact missing (List.any_eq_true.mpr ⟨_, member, by simp [Multiplicity.isMany]⟩)

/-- Another mention adds its multiplicity to that of its own target. -/
theorem largest_concat (mentions : List Mention) (last : Mention) (target : String) :
    largest (mentions ++ [last]) target =
      if last.target = target then (largest mentions target).merge last.multiplicity
      else largest mentions target := by
  unfold largest
  rw [List.any_append]
  by_cases same : last.target = target
  · cases mentions.any fun each => each.target == target && each.multiplicity.isMany with
    | true => simp [same, Multiplicity.merge]
    | false => cases many : last.multiplicity <;> simp [same, many, Multiplicity.isMany,
        Multiplicity.merge]
  · simp [same]

/-- A mention of a target that is not listed yet is listed last. -/
theorem addTo_of_not_mem {mention : Mention} {known : List Mention}
    (fresh : mention.target ∉ known.map Mention.target) :
    mention.addTo known = known ++ [mention] := by
  induction known with
  | nil => rfl
  | cons first rest ih =>
      rw [List.map_cons, List.mem_cons, not_or] at fresh
      rw [addTo, ite_eq_right_iff.mpr fun same => (fresh.1 same.symm).elim, ih fresh.2,
        List.cons_append]

/-- A mention of a listed target adds to its multiplicity. -/
theorem addTo_of_mem {mention : Mention} {known : List Mention}
    (distinct : (known.map Mention.target).Nodup)
    (listed : mention.target ∈ known.map Mention.target) :
    mention.addTo known = known.map fun each =>
      if mention.target = each.target then
        ⟨each.target, each.multiplicity.merge mention.multiplicity⟩
      else
        each := by
  induction known with
  | nil => cases listed
  | cons first rest ih =>
      rw [List.map_cons, List.nodup_cons] at distinct
      rw [addTo, List.map_cons]
      by_cases same : first.target = mention.target
      · have untouched : (rest.map fun each =>
            if mention.target = each.target then
              (⟨each.target, each.multiplicity.merge mention.multiplicity⟩ : Mention)
            else each) = rest := by
          conv_rhs => rw [← List.map_id rest]
          apply List.map_congr_left
          intro each member
          have different : mention.target ≠ each.target := fun equal =>
            distinct.1 (List.mem_map.mpr ⟨each, member, equal.symm.trans same.symm⟩)
          rw [ite_eq_right_iff.mpr fun equal => (different equal).elim]
          rfl
        rw [untouched, ite_eq_left_iff.mpr fun different => (different same).elim,
          ite_eq_left_iff.mpr fun different => (different same.symm).elim]
      · have later : mention.target ∈ rest.map Mention.target :=
          (List.mem_cons.mp listed).resolve_left fun equal => same equal.symm
        rw [ih distinct.2 later, ite_eq_right_iff.mpr fun equal => (same equal).elim,
          ite_eq_right_iff.mpr fun equal => (same equal.symm).elim]

/-- Collapsing keeps the first mention of each target, with the largest multiplicity of all. -/
theorem collapse_eq (mentions : List Mention) :
    collapse mentions = (firstBy Mention.target mentions).map fun first =>
      ⟨first.target, largest mentions first.target⟩ := by
  induction mentions using List.reverseRecOn with
  | nil => rfl
  | append_singleton mentions last ih =>
      have step : collapse (mentions ++ [last]) = last.addTo (collapse mentions) := by
        unfold collapse
        rw [List.foldl_append]
        rfl
      have targets : (collapse mentions).map Mention.target =
          (firstBy Mention.target mentions).map Mention.target := by
        rw [ih, List.map_map]
        rfl
      rw [step, firstBy_concat]
      by_cases known : last.target ∈ mentions.map Mention.target
      · rw [addTo_of_mem (by rw [targets]; exact nodup_map_firstBy Mention.target mentions)
          (by rwa [targets, mem_map_firstBy]), ih, List.map_map,
          ite_eq_left_iff.mpr fun fresh => (fresh known).elim]
        apply List.map_congr_left
        intro first _
        rw [largest_concat]
        by_cases same : last.target = first.target <;> simp [same]
      · rw [addTo_of_not_mem (by rwa [targets, mem_map_firstBy]), ih,
          ite_eq_right_iff.mpr fun listed => (known listed).elim, List.map_append,
          List.map_singleton, largest_concat,
          ite_eq_left_iff.mpr fun different => (different rfl).elim]
        congr 1
        · apply List.map_congr_left
          intro first member
          have different : last.target ≠ first.target := fun equal =>
            known (equal ▸ List.mem_map_of_mem ((firstBy_sublist _ _).subset member))
          rw [largest_concat, ite_eq_right_iff.mpr fun equal => (different equal).elim]
        · have unseen : largest mentions last.target = .one := by
            cases most : largest mentions last.target with
            | one => rfl
            | many => exact (known (List.mem_map.mpr ⟨_, largest_eq_many.mp most, rfl⟩)).elim
          rw [unseen]
          rfl

end Mention

namespace Relations

variable {catalog : Catalog} {config : Config} {descriptor : Descriptor}

variable (catalog config) in
/-- The catalog types that the scanned members of a type mention, each once and in the order of
their first mention. -/
def targets (descriptor : Descriptor) : List String :=
  (((scanned config descriptor).flatMap fun member => member.shape.mentions catalog).map
    Mention.target).eraseDups

variable (catalog config) in
/-- When a scanned member of a type refers to a type of the catalog. -/
def Holds (descriptor : Descriptor) (target : String) (multiplicity : Multiplicity) : Prop :=
  ∃ member ∈ descriptor.members, config.scans member.visibility = true ∧
    member.shape.RefersTo catalog target multiplicity

instance (target : String) (multiplicity : Multiplicity) :
    Decidable (Holds catalog config descriptor target multiplicity) :=
  inferInstanceAs (Decidable (∃ member ∈ descriptor.members,
    config.scans member.visibility = true ∧ member.shape.RefersTo catalog target multiplicity))

/-- The mentions of the scanned members are their references. -/
theorem mem_flatMap_mentions {mention : Mention} :
    mention ∈ (scanned config descriptor).flatMap (fun member => member.shape.mentions catalog) ↔
      Holds catalog config descriptor mention.target mention.multiplicity := by
  simp only [List.mem_flatMap, scanned, List.mem_filter, Shape.mem_mentions, and_assoc, Holds]

/-- No target is listed twice. -/
theorem nodup_targets : (targets catalog config descriptor).Nodup :=
  nodup_eraseDups _

/-- A type is a target exactly if a scanned member refers to it. -/
theorem mem_targets {target : String} :
    target ∈ targets catalog config descriptor ↔
      ∃ multiplicity, Holds catalog config descriptor target multiplicity := by
  rw [targets, List.mem_eraseDups, List.mem_map]
  constructor
  · rintro ⟨mention, member, rfl⟩
    exact ⟨mention.multiplicity, mem_flatMap_mentions.mp member⟩
  · rintro ⟨multiplicity, holds⟩
    exact ⟨⟨target, multiplicity⟩, mem_flatMap_mentions.mpr holds, rfl⟩

variable (catalog config descriptor) in
/-- The candidates of a type are its targets in order. -/
theorem map_target_candidatesOf :
    (candidatesOf catalog config descriptor).map Candidate.target =
      targets catalog config descriptor := by
  rw [candidatesOf, List.map_map, Mention.collapse_eq, List.map_map, targets, ← map_firstBy]
  rfl

/-- The candidates of a type go from it to its targets, with any number exactly if one of its
scanned members holds the target so. -/
theorem mem_candidatesOf {candidate : Candidate} :
    candidate ∈ candidatesOf catalog config descriptor ↔
      candidate.source = descriptor.name ∧
        candidate.target ∈ targets catalog config descriptor ∧
        (candidate.multiplicity = .many ↔
          Holds catalog config descriptor candidate.target .many) := by
  have large {target : String} (multiplicity : Multiplicity) :
      multiplicity = Mention.largest
        ((scanned config descriptor).flatMap fun member => member.shape.mentions catalog) target ↔
        (multiplicity = .many ↔ Holds catalog config descriptor target .many) := by
    have mentioned : Holds catalog config descriptor target .many ↔ Mention.largest
        ((scanned config descriptor).flatMap fun member => member.shape.mentions catalog) target =
          .many := Mention.largest_eq_many.trans mem_flatMap_mentions |>.symm
    rw [mentioned]
    cases multiplicity <;> cases Mention.largest
      ((scanned config descriptor).flatMap fun member => member.shape.mentions catalog) target <;>
      simp
  obtain ⟨source, target, multiplicity⟩ := candidate
  rw [← large, ← map_target_candidatesOf, candidatesOf, Mention.collapse_eq, List.map_map,
    List.map_map]
  simp only [List.mem_map, Function.comp_apply, Candidate.mk.injEq]
  constructor
  · rintro ⟨first, member, rfl, rfl, rfl⟩
    exact ⟨rfl, ⟨first, member, rfl⟩, rfl⟩
  · rintro ⟨rfl, ⟨first, member, rfl⟩, rfl⟩
    exact ⟨first, member, rfl, rfl, rfl⟩

/-- Only classes have candidates. -/
theorem mem_candidates {candidate : Candidate} :
    candidate ∈ (ofType catalog config descriptor).candidates ↔
      descriptor.kind = .classKind ∧ candidate ∈ candidatesOf catalog config descriptor := by
  unfold ofType
  cases descriptor.kind <;> simp

end Relations

end ClassDiagram
