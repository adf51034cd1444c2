import ClassDiagram.Proofs.Observations

/-! # Histories of a catalog

A catalog is filled by operations: types are added one by one or several at once, or they are taken
from a provider, where a filter may keep some out and the provider may fail.  Whatever is done in
whatever order, the catalog is that of the types that were accepted
(`ClassDiagram.Catalog.run_eq_ofList`), so how they were grouped leaves no trace.  A diagram that is
drawn from a provider is a history of one operation (`ClassDiagram.generateFrom_eq_bind`).
-/

namespace ClassDiagram

namespace Catalog

/-- What can be done to a catalog. -/
inductive Operation where
  | add (descriptor : Descriptor)
  | addAll (types : List Descriptor)
  | extend (types : List Descriptor)
  | addFrom (provider : Provider) (filter : Filter)

/-- What an operation answers. -/
inductive Answer where
  | added (isNew : Bool)
  | done
  | counted (count : Nat)
  | failed (failure : Failure)
deriving DecidableEq

/-- Performs an operation.  One that fails leads to no new catalog. -/
def perform (catalog : Catalog) : Operation → Answer × Catalog
  | .add descriptor => ((catalog.add descriptor).map .added id)
  | .addAll types => (.done, catalog.addAll types)
  | .extend types => (.done, catalog.addAll types)
  | .addFrom provider filter =>
    match catalog.addFrom provider filter with
    | .ok (count, reached) => (.counted count, reached)
    | .error failure => (.failed failure, catalog)

/-- The catalog that operations lead to from an empty one. -/
def run (operations : List Operation) : Catalog :=
  operations.foldl (fun reached operation => (reached.perform operation).2) empty

/-- The types that an operation offers to a catalog and that pass its filter. -/
def Operation.accepted : Operation → List Descriptor
  | .add descriptor => [descriptor]
  | .addAll types => types
  | .extend types => types
  | .addFrom provider filter =>
    match provider.types with
    | .ok offered => offered.filter filter
    | .error _ => []

/-- What an operation is to answer that leads from one catalog to another. -/
inductive Operation.Answers (before after : Catalog) : Operation → Answer → Prop where
  | new {descriptor : Descriptor} (absent : descriptor.name ∉ before.names) :
      Answers before after (.add descriptor) (.added true)
  | taken {descriptor : Descriptor} (present : descriptor.name ∈ before.names)
      (unchanged : after = before) : Answers before after (.add descriptor) (.added false)
  | addAll (types : List Descriptor) : Answers before after (.addAll types) .done
  | extend (types : List Descriptor) : Answers before after (.extend types) .done
  | counted {provider : Provider} (filter : Filter) {offered : List Descriptor} {count : Nat}
      (offers : provider.types = .ok offered) (grown : after.size = before.size + count) :
      Answers before after (.addFrom provider filter) (.counted count)
  | failed {provider : Provider} (filter : Filter) {failure : Failure}
      (fails : provider.types = .error failure) (unchanged : after = before) :
      Answers before after (.addFrom provider filter) (.failed failure)

/-- What a catalog tells once it has accepted these types. -/
structure Records (catalog : Catalog) (accepted : List Descriptor) : Prop where
  distinct : catalog.names.Nodup
  /-- Of the types that were accepted it holds the first of each name, in order. -/
  types : catalog.types = firstBy Descriptor.name accepted
  contains : ∀ name, catalog.contains name = true ↔ name ∈ catalog.names
  found : ∀ name, catalog.get? name = catalog.types.find? (·.name == name)
  first : ∀ name, catalog.get? name = accepted.find? (·.name == name)
  isInterface : ∀ name, catalog.isInterface name = true ↔
    ∃ descriptor ∈ catalog.types, descriptor.name = name ∧ descriptor.isInterface = true

/-- A catalog made from a list records what is in it. -/
theorem records_ofList (accepted : List Descriptor) : (ofList accepted).Records accepted where
  distinct := (ofList accepted).names_nodup
  types := types_ofList accepted
  contains _ := contains_eq_true
  found := get?_eq_find? _
  first := get?_ofList accepted
  isInterface name := by
    rw [isInterface, Option.any_eq_true]
    simp only [get?_eq_some, and_assoc]

section Steps

variable (catalog : Catalog) (operation : Operation)

/-- Performing an operation is adding what it accepts. -/
theorem perform_snd : (catalog.perform operation).2 = catalog.addAll operation.accepted := by
  cases operation with
  | add descriptor => rfl
  | addAll types => rfl
  | extend types => rfl
  | addFrom provider filter =>
      simp only [perform, addFrom, Operation.accepted]
      cases provider.types with
      | error failure => rfl
      | ok offered => exact snd_addCounting catalog (offered.filter filter)

/-- Every operation answers what it has done. -/
theorem perform_answers :
    operation.Answers catalog (catalog.perform operation).2 (catalog.perform operation).1 := by
  cases operation with
  | add descriptor =>
      simp only [perform, add]
      split
      case isTrue taken => exact .taken (contains_eq_true.mp taken) rfl
      case isFalse new => exact .new fun present => new (contains_eq_true.mpr present)
  | addAll types => exact .addAll types
  | extend types => exact .extend types
  | addFrom provider filter =>
      rw [perform_snd]
      simp only [perform, addFrom, Operation.accepted]
      cases offers : provider.types with
      | error failure => exact .failed filter offers rfl
      | ok offered => exact .counted filter offers (size_addCounting catalog _)

end Steps

/-- Types that are added after others are added together with them. -/
theorem addAll_append (catalog : Catalog) (front back : List Descriptor) :
    catalog.addAll (front ++ back) = (catalog.addAll front).addAll back :=
  List.foldl_append

/-- What a history leads to depends only on what was accepted in it. -/
theorem run_eq_ofList (operations : List Operation) :
    run operations = ofList (operations.flatMap Operation.accepted) := by
  unfold run ofList
  generalize empty = catalog
  induction operations generalizing catalog with
  | nil => rfl
  | cons operation later ih =>
      rw [List.foldl_cons, List.flatMap_cons, ih, perform_snd, addAll_append]

/-- A history that is continued performs one more operation. -/
theorem run_concat (operations : List Operation) (operation : Operation) :
    run (operations ++ [operation]) = ((run operations).perform operation).2 :=
  List.foldl_concat ..

end Catalog

/-- The diagram of a provider is that of the types it offers and that pass the filter. -/
theorem generateFrom_eq_bind (config : Config) (provider : Provider) (filter : Filter) :
    generateFrom config provider filter =
      provider.types.bind fun offered => generate config (offered.filter filter) := by
  unfold generateFrom Catalog.addFrom
  cases provider.types with
  | error failure => rfl
  | ok offered =>
      change generateCatalog config (Catalog.empty.addCounting (offered.filter filter)).2 =
        generateCatalog config (Catalog.empty.addAll (offered.filter filter))
      rw [Catalog.snd_addCounting]

/-- A list of types always has a diagram. -/
theorem exists_generate (config : Config) (types : List Descriptor) :
    ∃ text, generate config types = .ok text := by
  obtain ⟨index, -, made⟩ := exists_ofCatalog (Catalog.ofList types) config
  rw [generate, generateCatalog, made]
  exact ⟨_, rfl⟩

/-- The diagram of a provider fails exactly as the provider does. -/
theorem generateFrom_eq_error {config : Config} {provider : Provider} {filter : Filter}
    {failure : Failure} :
    generateFrom config provider filter = .error failure ↔ provider.types = .error failure := by
  rw [generateFrom_eq_bind]
  cases provider.types with
  | error reported =>
      change Except.error reported = .error failure ↔ _
      simp only [Except.error.injEq]
  | ok offered =>
      obtain ⟨text, generated⟩ := exists_generate config (offered.filter filter)
      change generate config (offered.filter filter) = _ ↔ _
      rw [generated]
      exact iff_of_false (fun absurd => nomatch absurd) fun absurd => nomatch absurd

/-- **A catalog records what it has accepted.** Whatever operations are performed on an empty
catalog, it holds the first accepted type of each name, all its look-ups agree, and it is the
catalog of the accepted types however they were grouped.  The next operation answers what it does,
and one that fails does nothing.  So the diagram of a provider is that of the types it offers and
that pass the filter, and there is none exactly if the provider fails. -/
theorem Catalog.run_records (operations : List Catalog.Operation) :
    (run operations).Records (operations.flatMap Operation.accepted) ∧
      run operations = ofList (operations.flatMap Operation.accepted) ∧
      (∀ operation : Operation, operation.Answers (run operations)
        (run (operations ++ [operation])) ((run operations).perform operation).1) ∧
      ∀ (config : Config) (provider : Provider) (filter : Filter),
        generateFrom config provider filter =
            provider.types.bind (fun offered => generate config (offered.filter filter)) ∧
          ∀ failure, generateFrom config provider filter = .error failure ↔
            provider.types = .error failure := by
  have reached := run_eq_ofList operations
  refine ⟨?records, reached, ?answers, ?generates⟩
  case records =>
    rw [reached]
    exact records_ofList _
  case answers =>
    intro operation
    rw [run_concat]
    exact perform_answers (run operations) operation
  case generates =>
    intro config provider filter
    exact ⟨generateFrom_eq_bind config provider filter, fun _ => generateFrom_eq_error⟩

/-- A bird that a filter keeps out leaves its name to a later one, and a provider that fails in
between leaves no trace. -/
example :
    let bird : Descriptor := ⟨"Bird", .classKind, none, [], []⟩
    let shiny : Descriptor := ⟨"Bird", .interfaceKind, none, [], []⟩
    let offers : Catalog.Operation := .addFrom (.ofList [bird, shiny, bird]) (·.isInterface)
    ((Catalog.run [offers, .addFrom (.failing "lost" "no file") fun _ => true, .add bird]).types,
      (Catalog.empty.perform offers).1) = ([shiny], .counted 1) := by
  decide

end ClassDiagram
