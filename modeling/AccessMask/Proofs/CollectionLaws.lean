import AccessMask.Inspection.Collection
import Mathlib.Data.List.Dedup

/-!
# Laws of collections

A collection is a set of masks. Inspections that are inserted one after the
other are told apart by their masks alone, in whatever way these arrived: each is
new unless an earlier one has its mask, and the collection grows to the number
of distinct masks.
-/

namespace AccessMask.Inspection.Collection

/-! ## Members -/

theorem contains_iff {collection : Collection} {inspection : Inspection} :
    collection.contains inspection = true ↔ inspection ∈ collection.members :=
  List.contains_iff_mem

theorem mem_members_foldl {collection : Collection} {inspections : List Inspection}
    {member : Inspection} :
    member ∈ (inspections.foldl insert collection).members ↔
      member ∈ collection.members ∨ member ∈ inspections := by
  induction inspections generalizing collection with
  | nil => simp
  | cons first rest inductionHypothesis =>
      rw [List.foldl_cons, inductionHypothesis, mem_members_insert, List.mem_cons]
      constructor
      · rintro ((isFirst | before) | inRest)
        · exact Or.inr (Or.inl isFirst)
        · exact Or.inl before
        · exact Or.inr (Or.inr inRest)
      · rintro (before | isFirst | inRest)
        · exact Or.inl (Or.inr before)
        · exact Or.inl (Or.inl isFirst)
        · exact Or.inr inRest

theorem mem_members_ofList {inspections : List Inspection} {member : Inspection} :
    member ∈ (ofList inspections).members ↔ member ∈ inspections := by
  rw [ofList, mem_members_foldl]
  exact or_iff_right List.not_mem_nil

/-! ## Masks -/

theorem masks_ascending (collection : Collection) : collection.masks.Pairwise (· < ·) :=
  List.pairwise_map.mpr collection.ascending

theorem masks_nodup (collection : Collection) : collection.masks.Nodup :=
  collection.masks_ascending.imp BitVec.ne_of_lt

theorem mem_masks_ofList {inspections : List Inspection} {mask : Mask} :
    mask ∈ (ofList inspections).masks ↔ mask ∈ inspections.map (·.mask) := by
  simp only [masks, List.mem_map, mem_members_ofList]

theorem contains_ofList_iff {inspections : List Inspection} {new : Inspection} :
    (ofList inspections).contains new = true ↔ new.mask ∈ inspections.map (·.mask) := by
  rw [contains_iff, mem_members_ofList, List.mem_map]
  constructor
  · intro member
    exact ⟨new, member, rfl⟩
  · rintro ⟨other, member, sameMask⟩
    rw [← eq_of_mask_eq sameMask]
    exact member

/-- A collection has as many members as there are distinct masks. -/
theorem size_ofList (inspections : List Inspection) :
    (ofList inspections).size = (inspections.map (·.mask)).dedup.length := by
  have sameMasks :
      (ofList inspections).masks.Perm (inspections.map (·.mask)).dedup := by
    rw [List.perm_ext_iff_of_nodup (masks_nodup _) (List.nodup_dedup _)]
    intro mask
    rw [mem_masks_ofList, List.mem_dedup]
  rw [← sameMasks.length_eq, masks, List.length_map, size]

/-! ## Insertions -/

theorem length_insertions (collection : Collection) (inspections : List Inspection) :
    (collection.insertions inspections).length = inspections.length := by
  induction inspections generalizing collection with
  | nil => rfl
  | cons first rest inductionHypothesis => simp [insertions, inductionHypothesis]

/-- What an insertion tells is about the collection of all that came before. -/
theorem getElem?_insertions (collection : Collection) {inspections : List Inspection}
    {index : Nat} {new : Inspection} (listed : inspections[index]? = some new) :
    (collection.insertions inspections)[index]? =
      some
        (!((inspections.take index).foldl insert collection).contains new,
          ((inspections.take (index + 1)).foldl insert collection).size) := by
  induction inspections generalizing collection index with
  | nil => simp at listed
  | cons first rest inductionHypothesis =>
      cases index with
      | zero =>
          obtain rfl : first = new := by simpa using listed
          rfl
      | succ before =>
          rw [List.getElem?_cons_succ] at listed
          rw [insertions, List.getElem?_cons_succ, inductionHypothesis _ listed]
          rfl

/-! ## Arrivals -/

/-- The inspections of masks that arrive one after the other, each in its own
way. -/
def ofArrivals (arrivals : List (Origin × Mask)) : List Inspection :=
  arrivals.map fun arrival => ofOrigin arrival.1 arrival.2

theorem map_mask_ofArrivals (arrivals : List (Origin × Mask)) :
    (ofArrivals arrivals).map (·.mask) = arrivals.map (·.2) := by
  rw [ofArrivals, List.map_map]
  exact List.map_congr_left fun arrival _ => mask_ofOrigin arrival.1 arrival.2

theorem take_ofArrivals (arrivals : List (Origin × Mask)) (count : Nat) :
    (ofArrivals arrivals).take count = ofArrivals (arrivals.take count) :=
  List.map_take.symm

/-- An insertion is new exactly if no earlier arrival has its mask, and after it
there are as many members as distinct masks have arrived. In the end the masks
of the collection ascend strictly and are the masks that arrived. The ways of
arrival leave no trace. -/
theorem insertions_by_mask (arrivals : List (Origin × Mask)) :
    (empty.insertions (ofArrivals arrivals)).length = arrivals.length ∧
      (∀ index origin mask,
        arrivals[index]? = some (origin, mask) →
        (empty.insertions (ofArrivals arrivals))[index]? =
          some
            (decide (mask ∉ (arrivals.take index).map (·.2)),
              ((arrivals.take (index + 1)).map (·.2)).dedup.length)) ∧
      (ofList (ofArrivals arrivals)).masks.Pairwise (· < ·) ∧
      ∀ mask, mask ∈ (ofList (ofArrivals arrivals)).masks ↔ mask ∈ arrivals.map (·.2) := by
  refine ⟨?_, ?_, masks_ascending _, ?_⟩
  · rw [length_insertions, ofArrivals, List.length_map]
  · intro index origin mask listed
    have inserted : (ofArrivals arrivals)[index]? = some (ofOrigin origin mask) := by
      rw [ofArrivals, List.getElem?_map, listed]
      rfl
    have isNew :
        (!(ofList (ofArrivals (arrivals.take index))).contains (ofOrigin origin mask)) =
          decide (mask ∉ (arrivals.take index).map (·.2)) := by
      rw [decide_not, Bool.not_inj_iff, Bool.eq_iff_iff, contains_ofList_iff,
        map_mask_ofArrivals, mask_ofOrigin, decide_eq_true_eq]
    have grown := size_ofList (ofArrivals (arrivals.take (index + 1)))
    rw [map_mask_ofArrivals] at grown
    rw [getElem?_insertions empty inserted, take_ofArrivals, take_ofArrivals, ← isNew, ← grown]
    rfl
  · intro mask
    rw [mem_masks_ofList, map_mask_ofArrivals]

theorem insertions_by_mask_mixed :
    (empty.insertions
          (ofArrivals
            [(.type, 0x80000001), (.flagSet, 0), (.declaration .field, 0x80000001),
              (.mask, 1)]))[2]? =
        some (false, 2) ∧
      (empty.insertions
          (ofArrivals
            [(.type, 0x80000001), (.flagSet, 0), (.declaration .field, 0x80000001),
              (.mask, 1)]))[3]? =
        some (true, 3) := by
  obtain ⟨_, step, _⟩ :=
    insertions_by_mask
      [(.type, 0x80000001), (.flagSet, 0), (.declaration .field, 0x80000001), (.mask, 1)]
  exact ⟨step 2 (.declaration .field) 0x80000001 rfl, step 3 .mask 1 rfl⟩

end AccessMask.Inspection.Collection
