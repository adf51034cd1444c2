import ClassDiagram.Diagram
import ClassDiagram.Journal.Activity

/-!
# The journal of a diagram

What is recorded while a diagram is made: members that were passed over, bases that are missing,
how each candidate was filed, and the size of each result.  The records follow from the same data
as the diagram; making a diagram does not depend on them.
-/

namespace ClassDiagram.Journal

variable (catalog : Catalog) (config : Config)

/-- What is recorded of scanning one member. -/
def ofMember (owner : String) (member : Member) : List Activity :=
  let fields := [("owner", owner), ("member", member.name)]
  if !config.scans member.visibility then
    [traced .builder "Skipping non-public member" fields]
  else
    match member.shape with
    | .single _ => []
    | .container c =>
      if catalog.contains c.name || !c.contents.isEmpty then
        []
      else if c.iterable then
        [noted .builder "Collection without element type skipped" fields]
      else
        [noted .builder "Wrapper without type arguments skipped" fields]

/-- What is recorded of looking for the base of a class. -/
def ofBase (descriptor : Descriptor) : List Activity :=
  match descriptor.base with
  | none => []
  | some base =>
    if catalog.contains base then
      []
    else
      [traced .builder "Base not in catalog" [("derived", descriptor.name), ("base", base)]]

def ofType (descriptor : Descriptor) : List Activity :=
  match descriptor.kind with
  | .interfaceKind => []
  | .classKind =>
    ofBase catalog descriptor ++
      descriptor.members.flatMap (ofMember catalog config descriptor.name)

def ofCandidate (index : Index) (candidate : Candidate) : Activity :=
  let pair := [("source", candidate.source), ("target", candidate.target)]
  match index.slot candidate with
  | .forward _ => traced .association "Merged forward" pair
  | .backward _ => traced .association "Merged reverse" pair
  | .fresh =>
    traced .association "New association"
      (pair ++ [("multiplicity", candidate.multiplicity.display)])

/-- What is recorded of filing candidates one after the other, up to the first contradiction. -/
def ofCandidates : Index → List Candidate → List Activity
  | _, [] => []
  | index, candidate :: rest =>
    ofCandidate index candidate ::
      match index.observe candidate with
      | .ok reached => ofCandidates reached rest
      | .error _ => []

/-- What is recorded of making the diagram of a catalog: one stage, with the relations and the
merging of associations as stages inside. -/
def ofCatalog : Activity :=
  let candidates := (Relations.ofCatalog catalog config).flatMap Relations.candidates
  let diagram := Diagram.ofCatalog catalog config
  let building : Activity := .stage ⟨"build_relations", .debug, .generator, []⟩
    (catalog.types.flatMap (ofType catalog config) ++
      [noted .generator "Relations built" [("candidates", toString candidates.length)]])
  let merged := match diagram with
    | .error _ => []
    | .ok diagram => [noted .generator "Associations merged"
        [("associations", toString diagram.associations.size)]]
  let merging : Activity := .stage ⟨"merge_associations", .debug, .generator, []⟩
    (ofCandidates Index.empty candidates ++ merged)
  let generated := match diagram with
    | .error _ => []
    | .ok diagram => [told .generator "Diagram generated"
        [("length", toString diagram.text.utf8ByteSize)]]
  .stage ⟨"generate", .info, .generator, [
      ("types", toString catalog.size),
      ("interface_mode", config.interfaceMode.word),
      ("non_public", toString config.includeHidden)]⟩
    (building :: merging :: generated)

def ofTypes (types : List Descriptor) : Activity :=
  ofCatalog (Catalog.ofList types) config

/-- What is recorded of adding the types of a provider to a catalog, once they were handed over. -/
def ofAdding (provider : Provider) (filter : Filter) : List Activity :=
  match provider.types, catalog.addFrom provider filter with
  | .ok offered, .ok (added, _) =>
    [noted .catalog "Provider types added" [
      ("provider", provider.name),
      ("offered", toString offered.length),
      ("added", toString added)]]
  | _, _ => []

/-- What is recorded of making the diagram of a provider, once its types were handed over. -/
def ofProvider (provider : Provider) (filter : Filter) : List Activity :=
  match Catalog.empty.addFrom provider filter with
  | .error _ => []
  | .ok (added, reached) =>
    ofAdding Catalog.empty provider filter ++
      [noted .generator "Descriptors loaded"
          [("provider", provider.name), ("types", toString added)],
        ofCatalog reached config]

end ClassDiagram.Journal
