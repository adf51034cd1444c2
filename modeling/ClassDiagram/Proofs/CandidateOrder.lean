import ClassDiagram.Proofs.Mentions
import ClassDiagram.Proofs.NumberedLists
import Mathlib.Data.List.Lex
import Mathlib.Data.List.Nodup
import Mathlib.Data.Nat.Order.Lemmas

/-! # The candidates of a class

A member of a class contributes to the types that its shape names at certain places
(`ClassDiagram.Shape.NamesAt`), and the places of all scanned members are ordered by member first
and within a member from left to right.  The candidates of a type are determined by what is
contributed where (`ClassDiagram.Relations.collects_iff`): they go from the type to each type of the
catalog that is contributed to, in the order of the first contributions, with any number if one of
the contributions says so.
-/

namespace ClassDiagram

/-- When a shape names a type of the catalog at some place, and how many of it the member holds.
Only the arguments of a container that ranges over nothing have places of their own. -/
inductive Shape.NamesAt (catalog : Catalog) : Shape → Nat → String → Multiplicity → Prop
  | single {name : String} (known : catalog.contains name = true) :
      NamesAt catalog (.single name) 0 name .one
  /-- A container that is a type of the catalog is never opened. -/
  | container {container : Container} (known : catalog.contains container.name = true) :
      NamesAt catalog (.container container) 0 container.name .one
  | element {container : Container} {name : String}
      (unknown : catalog.contains container.name = false) (ranges : container.iterable = true)
      (held : container.element.or container.arguments.head? = some name)
      (known : catalog.contains name = true) : NamesAt catalog (.container container) 0 name .many
  | argument {container : Container} {place : Nat} {name : String}
      (unknown : catalog.contains container.name = false) (ranges : container.iterable = false)
      (held : container.arguments[place]? = some name) (known : catalog.contains name = true) :
      NamesAt catalog (.container container) place name .one

/-- The names that a shape offers, in or out of the catalog. -/
def Shape.offered (catalog : Catalog) : Shape → List Mention
  | single name => [⟨name, .one⟩]
  | container c => if catalog.contains c.name then [⟨c.name, .one⟩] else c.contents

section Shapes

variable {catalog : Catalog} {shape : Shape}

variable (catalog shape) in
/-- The types of the catalog that a shape mentions are those among the names that it offers. -/
theorem Shape.mentions_eq_filter :
    shape.mentions catalog = (shape.offered catalog).filter (catalog.contains ·.target) := by
  cases shape with
  | single name => cases known : catalog.contains name <;> simp [mentions, offered, known]
  | container c => cases known : catalog.contains c.name <;> simp [mentions, offered, known]

/-- The place of a name is where it is offered. -/
theorem Shape.namesAt_iff {place : Nat} {target : String} {multiplicity : Multiplicity} :
    shape.NamesAt catalog place target multiplicity ↔
      (shape.offered catalog)[place]? = some ⟨target, multiplicity⟩ ∧
        catalog.contains target = true := by
  constructor
  · intro names
    cases names with
    | single known => exact ⟨rfl, known⟩
    | container known => simp [offered, known]
    | element unknown ranges held known =>
        simp [offered, unknown, Container.contents, ranges, held, known]
    | argument unknown ranges held known =>
        simp [offered, unknown, Container.contents, ranges, held, known]
  · rintro ⟨found, known⟩
    cases shape with
    | single name =>
        obtain ⟨rfl, rfl, rfl⟩ : place = 0 ∧ name = target ∧ .one = multiplicity := by
          simpa [offered, List.getElem?_singleton] using found
        exact .single known
    | container c =>
        simp only [offered] at found
        split at found
        · obtain ⟨rfl, rfl, rfl⟩ : place = 0 ∧ c.name = target ∧ .one = multiplicity := by
            simpa [List.getElem?_singleton] using found
          exact .container known
        · rename_i unknown
          rw [Bool.not_eq_true] at unknown
          unfold Container.contents at found
          split at found
          · rename_i ranges
            cases held : c.element.or c.arguments.head? with
            | none => simp [held] at found
            | some name =>
                obtain ⟨rfl, rfl, rfl⟩ : place = 0 ∧ name = target ∧ .many = multiplicity := by
                  simpa [held, List.getElem?_singleton] using found
                exact .element unknown ranges held known
          · rename_i ranges
            rw [Bool.not_eq_true] at ranges
            obtain ⟨name, held, same⟩ : ∃ name, c.arguments[place]? = some name ∧
                (⟨name, .one⟩ : Mention) = ⟨target, multiplicity⟩ := by
              simpa using found
            cases same
            exact .argument unknown ranges held known

end Shapes

namespace Relations

variable (catalog : Catalog) (config : Config) (descriptor : Descriptor)

/-- When a member of a class contributes to a type, and how many of it the member holds.  The first
part of the place is that of the member, the second a place in its shape; only members that are
scanned contribute. -/
def Contributes (place : Nat × Nat) (target : String) (multiplicity : Multiplicity) : Prop :=
  descriptor.kind = .classKind ∧ ∃ member, descriptor.members[place.1]? = some member ∧
    config.scans member.visibility = true ∧
    member.shape.NamesAt catalog place.2 target multiplicity

/-- When a type is contributed to before another is. -/
def ContributesBefore (earlier later : String) : Prop :=
  ∃ place multiplicity, Contributes catalog config descriptor place earlier multiplicity ∧
    ∀ other otherMultiplicity,
      Contributes catalog config descriptor other later otherMultiplicity →
        Prod.Lex (· < ·) (· < ·) place other

/-- What the candidates of a type say of the contributions of its members. -/
structure Collects (candidates : List Candidate) : Prop where
  source : ∀ candidate ∈ candidates, candidate.source = descriptor.name
  nodup_targets : (candidates.map Candidate.target).Nodup
  /-- Every target is a type of the catalog. -/
  target_mem : ∀ candidate ∈ candidates, candidate.target ∈ catalog.names
  mem_targets : ∀ target, target ∈ candidates.map Candidate.target ↔
    ∃ place multiplicity, Contributes catalog config descriptor place target multiplicity
  many : ∀ candidate ∈ candidates, candidate.multiplicity = .many ↔
    ∃ place, Contributes catalog config descriptor place candidate.target .many
  ordered : candidates.Pairwise fun earlier later =>
    ContributesBefore catalog config descriptor earlier.target later.target

/-- The names that the scanned members of a type offer, with their places. -/
def contributions : List ((Nat × Nat) × Mention) :=
  descriptor.members.zipIdx.flatMap fun (member, row) =>
    if config.scans member.visibility then
      ((member.shape.offered catalog).zipIdx.filter (catalog.contains ·.1.target)).map
        fun (mention, column) => ((row, column), mention)
    else
      []

variable {catalog config descriptor}

variable (catalog config descriptor) in
/-- The contributions of a type are what its scanned members name in the catalog, with the number of
the member in front of that of the name. -/
theorem contributions_eq_numbered : contributions catalog config descriptor =
    numbered (fun member => if config.scans member.visibility then
      located (catalog.contains ·.target) id (member.shape.offered catalog) else [])
      descriptor.members := by
  apply List.flatMap_congr
  rintro ⟨member, row⟩ _
  simp only
  split
  · rw [located, List.map_map]
    rfl
  · rfl

/-- What stands among the contributions at a place is what the member of that number names there. -/
theorem mem_contributions {place : Nat × Nat} {mention : Mention} :
    (place, mention) ∈ contributions catalog config descriptor ↔
      ∃ member, descriptor.members[place.1]? = some member ∧
        config.scans member.visibility = true ∧
        member.shape.NamesAt catalog place.2 mention.target mention.multiplicity := by
  obtain ⟨row, column⟩ := place
  rw [contributions_eq_numbered, mem_numbered]
  refine exists_congr fun member => and_congr_right fun _ => ?_
  rw [Shape.namesAt_iff]
  split
  · rename_i scanned
    rw [mem_located]
    constructor
    · rintro ⟨_, offered, known, rfl⟩
      exact ⟨scanned, offered, known⟩
    · rintro ⟨-, offered, known⟩
      exact ⟨mention, offered, known, rfl⟩
  · rename_i hidden
    exact ⟨fun inside => (List.not_mem_nil inside).elim, fun found => (hidden found.1).elim⟩

variable (catalog config descriptor) in
/-- Without their places the contributions are what the scanned members mention. -/
theorem map_snd_contributions : (contributions catalog config descriptor).map Prod.snd =
    (scanned config descriptor).flatMap fun member => member.shape.mentions catalog := by
  have scans (members : List Member) :
      (members.flatMap fun member =>
        if config.scans member.visibility then member.shape.mentions catalog else []) =
        (members.filter (config.scans ·.visibility)).flatMap fun member =>
          member.shape.mentions catalog := by
    induction members with
    | nil => rfl
    | cons first rest ih =>
        rw [List.flatMap_cons, ih, List.filter_cons]
        split <;> rfl
  rw [contributions_eq_numbered, map_snd_numbered, scanned, ← scans]
  apply List.flatMap_congr
  intro member _
  split
  · rw [map_snd_located, List.map_id, Shape.mentions_eq_filter]
  · rfl

variable (catalog config descriptor) in
/-- Contributions are listed in the order of their places. -/
theorem pairwise_contributions : (contributions catalog config descriptor).Pairwise
    fun left right => Prod.Lex (· < ·) (· < ·) left.1 right.1 := by
  rw [contributions_eq_numbered]
  refine pairwise_numbered fun member _ => ?_
  split
  · exact pairwise_located _ _ _
  · exact List.Pairwise.nil

variable (catalog config descriptor) in
/-- The targets of a class come in the order in which they are first contributed to. -/
theorem pairwise_candidatesOf (isClass : descriptor.kind = .classKind) :
    (candidatesOf catalog config descriptor).Pairwise fun earlier later =>
      ContributesBefore catalog config descriptor earlier.target later.target := by
  rw [candidatesOf, Mention.collapse_eq, ← map_snd_contributions, firstBy_map, List.map_map,
    List.map_map, List.pairwise_map]
  refine (pairwise_firstBy _ (pairwise_contributions catalog config descriptor)).imp_of_mem ?_
  rintro ⟨place, first⟩ ⟨laterPlace, later⟩ listed - precedes
  have contributed := mem_contributions.mp ((firstBy_sublist _ _).subset listed)
  refine ⟨place, first.multiplicity, ⟨isClass, contributed⟩, ?_⟩
  intro other multiplicity contributes
  exact precedes (other, ⟨later.target, multiplicity⟩) (mem_contributions.mpr contributes.2) rfl

/-- The contributions of a class are what its scanned members refer to. -/
theorem exists_contributes_iff {target : String} {multiplicity : Multiplicity} :
    (∃ place, Contributes catalog config descriptor place target multiplicity) ↔
      descriptor.kind = .classKind ∧ Holds catalog config descriptor target multiplicity := by
  have listed : (∃ place, (place, (⟨target, multiplicity⟩ : Mention)) ∈
      contributions catalog config descriptor) ↔
        Holds catalog config descriptor target multiplicity := by
    have mentioned := @mem_flatMap_mentions catalog config descriptor ⟨target, multiplicity⟩
    rw [← mentioned, ← map_snd_contributions]
    simp only [List.mem_map, Prod.exists, exists_eq_right]
  simp only [mem_contributions] at listed
  rw [← listed, ← exists_and_left]
  rfl

/-- Two types are not both contributed to before each other. -/
theorem ContributesBefore.not_both {left right : String}
    (first : ContributesBefore catalog config descriptor left right)
    (second : ContributesBefore catalog config descriptor right left) : False := by
  obtain ⟨place, multiplicity, contributes, before⟩ := first
  obtain ⟨other, otherMultiplicity, otherContributes, otherBefore⟩ := second
  exact asymm (before other otherMultiplicity otherContributes)
    (otherBefore place multiplicity contributes)

/-- What is said of the candidates settles which there are. -/
theorem Collects.mem_iff {candidates : List Candidate}
    (collects : Collects catalog config descriptor candidates) {candidate : Candidate} :
    candidate ∈ candidates ↔ candidate.source = descriptor.name ∧
      (∃ place multiplicity,
        Contributes catalog config descriptor place candidate.target multiplicity) ∧
      (candidate.multiplicity = .many ↔
        ∃ place, Contributes catalog config descriptor place candidate.target .many) := by
  constructor
  · intro listed
    exact ⟨collects.source _ listed,
      (collects.mem_targets _).mp (List.mem_map_of_mem listed), collects.many _ listed⟩
  · rintro ⟨source, contributed, many⟩
    obtain ⟨other, listed, target⟩ := List.mem_map.mp ((collects.mem_targets _).mpr contributed)
    have otherMany := collects.many other listed
    have multiplicity : candidate.multiplicity = other.multiplicity := by
      rw [target, ← many] at otherMany
      cases held : candidate.multiplicity <;> cases otherHeld : other.multiplicity <;>
        simp_all
    have same : candidate = other := by
      obtain ⟨_, _, _⟩ := candidate
      obtain ⟨_, _, _⟩ := other
      cases target
      cases multiplicity
      cases source
      cases collects.source _ listed
      rfl
    exact same ▸ listed

/-- There is one list of candidates of which that can be said. -/
theorem Collects.unique {left right : List Candidate}
    (first : Collects catalog config descriptor left)
    (second : Collects catalog config descriptor right) : left = right := by
  have perm : left.Perm right := by
    refine (List.perm_ext_iff_of_nodup (List.Nodup.of_map _ first.nodup_targets)
      (List.Nodup.of_map _ second.nodup_targets)).mpr ?_
    intro candidate
    rw [first.mem_iff, second.mem_iff]
  refine perm.eq_of_pairwise ?_ first.ordered second.ordered
  intro one other _ _ before after
  exact (before.not_both after).elim

variable (catalog config descriptor) in
/-- The candidates of a type collect what its scanned members contribute. -/
theorem collects_candidates :
    Collects catalog config descriptor (ofType catalog config descriptor).candidates := by
  have targets_iff (target : String) :
      target ∈ (ofType catalog config descriptor).candidates.map Candidate.target ↔
        descriptor.kind = .classKind ∧ target ∈ targets catalog config descriptor := by
    rw [← map_target_candidatesOf]
    simp only [List.mem_map, mem_candidates, and_assoc, exists_and_left]
  have sublist : (ofType catalog config descriptor).candidates.Sublist
      (candidatesOf catalog config descriptor) := by
    unfold ofType
    cases descriptor.kind with
    | classKind => exact List.Sublist.refl _
    | interfaceKind => exact List.nil_sublist _
  constructor
  · intro candidate listed
    exact (mem_candidatesOf.mp (mem_candidates.mp listed).2).1
  · refine (sublist.map _).nodup ?_
    rw [map_target_candidatesOf]
    exact nodup_targets
  · intro candidate listed
    obtain ⟨multiplicity, member, -, -, refers⟩ :=
      mem_targets.mp (mem_candidatesOf.mp (mem_candidates.mp listed).2).2.1
    exact Catalog.contains_eq_true.mp refers.contains
  · intro target
    rw [targets_iff, mem_targets, exists_comm]
    simp only [exists_contributes_iff, exists_and_left]
  · intro candidate listed
    obtain ⟨isClass, listed⟩ := mem_candidates.mp listed
    rw [exists_contributes_iff, (mem_candidatesOf.mp listed).2.2]
    exact (and_iff_right isClass).symm
  · unfold ofType
    cases kind : descriptor.kind with
    | classKind => exact pairwise_candidatesOf catalog config descriptor kind
    | interfaceKind => exact List.Pairwise.nil

variable (catalog config descriptor) in
/-- **The candidates of a type.** Those that are built for a type go from it to pairwise distinct
types of the catalog, in the order in which its scanned members first contribute to them; they are
the types contributed to, with any number exactly where one contribution says so, and no other list
is like this.  An interface contributes nothing. -/
theorem collects_iff (candidates : List Candidate) :
    Collects catalog config descriptor candidates ↔
      (ofType catalog config descriptor).candidates = candidates := by
  constructor
  · intro collects
    exact (collects_candidates catalog config descriptor).unique collects
  · rintro rfl
    exact collects_candidates catalog config descriptor

/-- The hidden foot contributes nothing, so the wing comes first, and the list makes it many. -/
example :
    let catalog := Catalog.ofList
      [⟨"Foot", .classKind, none, [], []⟩, ⟨"Wing", .classKind, none, [], []⟩]
    (ofType catalog {} ⟨"Bird", .classKind, none, [], [
      ⟨"spur", .hidden, .single "Foot"⟩,
      ⟨"left", .visible, .single "Wing"⟩,
      ⟨"pair", .visible, .wrapper "Pair" ["Foot", "Wing"]⟩,
      ⟨"wings", .visible, .collection "List" "Wing"⟩]⟩).candidates =
        [⟨"Bird", "Wing", .many⟩, ⟨"Bird", "Foot", .one⟩] := by
  decide +kernel

end Relations

end ClassDiagram
