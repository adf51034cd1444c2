import Mathlib.Data.List.Basic

/-! # First occurrences

`firstBy key list` keeps those elements of a list whose key no earlier element has.  Catalogs keep
the first type of each name and the association index the first observation of each pair, so both
are described by it; `List.eraseDups` is the case in which an element is its own key.
-/

namespace ClassDiagram

variable {α κ : Type} [DecidableEq κ] (key : α → κ)

/-- The elements of a list whose key did not occur before them, in order. -/
def firstBy : List α → List α
  | [] => []
  | head :: rest => head :: (firstBy rest).filter fun later => key later ≠ key head

@[simp] theorem firstBy_nil : firstBy key [] = [] := rfl

/-- What is kept stands in its old order. -/
theorem firstBy_sublist (list : List α) : (firstBy key list).Sublist list := by
  induction list with
  | nil => exact List.Sublist.refl _
  | cons head rest ih => exact (List.filter_sublist.trans ih).cons_cons head

/-- A choice that looks at keys only can be made before or after the duplicates are dropped. -/
theorem firstBy_filter (accepts : κ → Bool) (list : List α) :
    firstBy key (list.filter fun element => accepts (key element)) =
      (firstBy key list).filter fun element => accepts (key element) := by
  induction list with
  | nil => rfl
  | cons head rest ih =>
      by_cases accepted : accepts (key head) = true
      · simp only [List.filter_cons, accepted, ↓reduceIte, firstBy, ih, List.filter_filter,
          Bool.and_comm]
      · simp only [List.filter_cons, accepted, Bool.false_eq_true, ↓reduceIte, firstBy, ih,
          List.filter_filter]
        apply List.filter_congr
        intro later _
        -- A key that is accepted differs from that of the head.
        by_cases same : key later = key head <;> simp [same, accepted]

/-- Of a longer list its beginning counts first. -/
theorem firstBy_append (front back : List α) :
    firstBy key (front ++ back) =
      firstBy key front ++ (firstBy key back).filter fun later => key later ∉ front.map key := by
  induction front with
  | nil => simp
  | cons head rest ih =>
      simp only [List.cons_append, firstBy, ih, List.filter_append, List.filter_filter]
      congr 2
      apply List.filter_congr
      intro later _
      by_cases same : key later = key head <;> simp [same]

/-- One more element is kept exactly if its key is new. -/
theorem firstBy_concat (list : List α) (last : α) :
    firstBy key (list ++ [last]) =
      if key last ∈ list.map key then firstBy key list else firstBy key list ++ [last] := by
  rw [firstBy_append]
  simp only [firstBy, List.filter_nil, List.filter_cons, decide_eq_true_eq]
  by_cases known : key last ∈ list.map key
  · simp only [known, not_true_eq_false, ↓reduceIte, List.append_nil]
  · simp only [known, not_false_eq_true, ↓reduceIte]

/-- An element is kept exactly if it is the first of its key. -/
theorem mem_firstBy {list : List α} {element : α} :
    element ∈ firstBy key list ↔
      list.find? (fun earlier => key earlier == key element) = some element := by
  induction list with
  | nil => simp
  | cons head rest ih =>
      rw [firstBy, List.mem_cons, List.mem_filter, ih, List.find?_cons]
      by_cases same : key head = key element
      · simp [same, eq_comm]
      · have other : element ≠ head := fun equal => same (equal ▸ rfl)
        have unlike : (key head == key element) = false := beq_eq_false_iff_ne.mpr same
        simp [other, unlike, Ne.symm same]

/-- No two of the elements that are kept share a key. -/
theorem nodup_map_firstBy (list : List α) : ((firstBy key list).map key).Nodup := by
  induction list with
  | nil => exact List.nodup_nil
  | cons head rest ih =>
      rw [firstBy, List.map_cons, List.nodup_cons]
      refine ⟨?_, ih.sublist (List.filter_sublist.map key)⟩
      intro member
      obtain ⟨later, kept, same⟩ := List.mem_map.mp member
      exact of_decide_eq_true (List.mem_filter.mp kept).2 same

/-- Every key that occurs is kept. -/
theorem mem_map_firstBy {list : List α} {value : κ} :
    value ∈ (firstBy key list).map key ↔ value ∈ list.map key := by
  induction list with
  | nil => rfl
  | cons head rest ih =>
      rw [firstBy, List.map_cons, List.map_cons, List.mem_cons, List.mem_cons, ← ih]
      by_cases same : value = key head
      · simp [same]
      · simp only [same, false_or, List.mem_map, List.mem_filter]
        constructor
        · rintro ⟨later, ⟨kept, -⟩, named⟩
          exact ⟨later, kept, named⟩
        · rintro ⟨later, kept, named⟩
          exact ⟨later, ⟨kept, decide_eq_true (named ▸ same)⟩, named⟩

/-- Where no two elements share a key, all are kept. -/
theorem firstBy_eq_self {list : List α} (distinct : (list.map key).Nodup) :
    firstBy key list = list := by
  induction list with
  | nil => rfl
  | cons head rest ih =>
      rw [List.map_cons, List.nodup_cons] at distinct
      rw [firstBy, ih distinct.2]
      congr 1
      apply List.filter_eq_self.mpr
      intro later member
      apply decide_eq_true
      intro same
      exact distinct.1 (List.mem_map.mpr ⟨later, member, same⟩)

/-- Dropping duplicates from a beginning first changes nothing. -/
theorem firstBy_firstBy_append (front back : List α) :
    firstBy key (firstBy key front ++ back) = firstBy key (front ++ back) := by
  rw [firstBy_append, firstBy_append, firstBy_eq_self key (nodup_map_firstBy key front)]
  simp only [mem_map_firstBy]

/-- Where a part of a list has elements of its own, those that are kept of it are those whose key
does not occur before the part. -/
theorem filter_firstBy_middle {front middle back : List α} {own : α → Bool}
    (notFront : ∀ element ∈ front, own element = false)
    (ofMiddle : ∀ element ∈ middle, own element = true)
    (notBack : ∀ element ∈ back, own element = false) (distinct : (middle.map key).Nodup) :
    (firstBy key (front ++ (middle ++ back))).filter own =
      middle.filter fun element => key element ∉ front.map key := by
  have foreign {list kept : List α} (none : ∀ element ∈ list, own element = false)
      (sublist : kept.Sublist list) : kept.filter own = [] :=
    List.filter_eq_nil_iff.mpr fun element member => by simp [none element (sublist.subset member)]
  rw [firstBy_append, firstBy_append, firstBy_eq_self key distinct, List.filter_append,
    List.filter_append, List.filter_append, foreign notFront (firstBy_sublist key front),
    foreign notBack (List.filter_sublist.trans (List.filter_sublist.trans
      (firstBy_sublist key back))), List.nil_append, List.append_nil]
  exact List.filter_eq_self.mpr fun element member =>
    ofMiddle element (List.mem_of_mem_filter member)

/-- Of elements that stand in some order, each one that is kept stands before every element that has
the key of a later one. -/
theorem pairwise_firstBy {list : List α} {before : α → α → Prop} (ordered : list.Pairwise before) :
    (firstBy key list).Pairwise fun earlier later =>
      ∀ element ∈ list, key element = key later → before earlier element := by
  induction list with
  | nil => exact List.Pairwise.nil
  | cons head rest ih =>
      obtain ⟨first, ordered⟩ := List.pairwise_cons.mp ordered
      have later {kept element : α} (member : kept ∈ (firstBy key rest).filter fun later =>
          key later ≠ key head) (listed : element ∈ head :: rest) (same : key element = key kept) :
          element ∈ rest := by
        have other := of_decide_eq_true (List.mem_filter.mp member).2
        exact (List.mem_cons.mp listed).resolve_left fun equal => other (same ▸ equal ▸ rfl)
      refine List.pairwise_cons.mpr ⟨?_, ?_⟩
      · intro kept member element listed same
        exact first element (later member listed same)
      · refine ((ih ordered).sublist List.filter_sublist).imp_of_mem ?_
        intro earlier kept _ member stands element listed same
        exact stands element (later member listed same) same

/-- Changing the elements first and then dropping those whose key occurred is dropping them by the
key that they will have. -/
theorem firstBy_map {β : Type} (change : β → α) (list : List β) :
    firstBy key (list.map change) = (firstBy (key ∘ change) list).map change := by
  induction list with
  | nil => rfl
  | cons head rest ih =>
      rw [List.map_cons, firstBy, firstBy, ih, List.map_cons, List.filter_map]
      rfl

section EraseDups

variable [DecidableEq α]

/-- Dropping repeated elements is the case in which an element is its own key. -/
theorem eraseDups_eq_firstBy (list : List α) : list.eraseDups = firstBy id list := by
  match list with
  | [] => rfl
  | head :: rest =>
      have inner := eraseDups_eq_firstBy (rest.filter fun later => !later == head)
      have dropped : firstBy id (rest.filter fun later => !later == head) =
          (firstBy id rest).filter fun later => !later == head :=
        firstBy_filter id (fun later => !later == head) rest
      rw [List.eraseDups_cons, inner, firstBy, dropped]
      congr 1
      apply List.filter_congr
      intro later _
      by_cases same : later = head <;> simp [same]
termination_by list.length
decreasing_by exact Nat.lt_succ_of_le (List.length_filter_le _ _)

/-- The keys of what is kept are the different keys that occur. -/
theorem map_firstBy {β : Type} (name : β → α) (list : List β) :
    (firstBy name list).map name = (list.map name).eraseDups := by
  induction list with
  | nil => rfl
  | cons head rest ih =>
      rw [List.map_cons, eraseDups_eq_firstBy, firstBy, firstBy, List.map_cons,
        ← eraseDups_eq_firstBy, ← ih, List.filter_map]
      rfl

/-- Dropping repeated elements leaves none twice. -/
theorem nodup_eraseDups (list : List α) : list.eraseDups.Nodup := by
  have distinct := nodup_map_firstBy id list
  rwa [List.map_id, ← eraseDups_eq_firstBy] at distinct

/-- One more element is kept exactly if it is new. -/
theorem eraseDups_concat (list : List α) (last : α) :
    (list ++ [last]).eraseDups =
      if last ∈ list then list.eraseDups else list.eraseDups ++ [last] := by
  rw [eraseDups_eq_firstBy, eraseDups_eq_firstBy, firstBy_concat, List.map_id]
  rfl

theorem eraseDups_eq_self {list : List α} (distinct : list.Nodup) : list.eraseDups = list := by
  rw [eraseDups_eq_firstBy]
  exact firstBy_eq_self id (by rwa [List.map_id])

end EraseDups

end ClassDiagram
