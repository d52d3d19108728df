import AccessMask.Inspection

/-!
# Collections of inspections

A collection holds inspections without repetition. Two inspections are the same
member exactly if their masks are equal. Members are kept by ascending mask, so
that a collection has one form whatever the order of insertion was.
-/

namespace AccessMask.Inspection

/-- Distinct inspections by ascending mask. -/
structure Collection where
  members : List Inspection
  ascending : members.Pairwise (·.mask < ·.mask)

namespace Collection

/-! ## Insertion into an ascending list -/

/-- Puts an inspection in its place, unless its mask is there already. -/
def place (new : Inspection) : List Inspection → List Inspection
  | [] => [new]
  | first :: rest =>
      if new.mask < first.mask then new :: first :: rest
      else if first.mask < new.mask then first :: place new rest
      else first :: rest

theorem eq_of_mask_eq {left right : Inspection} (equal : left.mask = right.mask) :
    left = right := by
  obtain ⟨⟨leftBits⟩⟩ := left
  obtain ⟨⟨rightBits⟩⟩ := right
  exact congrArg (fun bits => (⟨⟨bits⟩⟩ : Inspection)) equal

theorem mem_place {new member : Inspection} {members : List Inspection} :
    member ∈ place new members ↔ member = new ∨ member ∈ members := by
  induction members with
  | nil => simp [place]
  | cons first rest inductionHypothesis =>
      by_cases below : new.mask < first.mask
      · simp [place, below]
      · by_cases above : first.mask < new.mask
        · simp [place, below, above, inductionHypothesis, or_left_comm]
        · have equal : new = first :=
            eq_of_mask_eq (BitVec.le_antisymm (BitVec.not_lt.1 above) (BitVec.not_lt.1 below))
          simp [place, equal]

theorem ascending_place {members : List Inspection}
    (ascending : members.Pairwise (·.mask < ·.mask)) (new : Inspection) :
    (place new members).Pairwise (·.mask < ·.mask) := by
  induction members with
  | nil => simp [place]
  | cons first rest inductionHypothesis =>
      obtain ⟨firstBelow, restAscending⟩ := List.pairwise_cons.1 ascending
      by_cases below : new.mask < first.mask
      · simp only [place, below, if_true]
        refine List.pairwise_cons.2 ⟨fun member memberOf => ?_, ascending⟩
        rcases List.mem_cons.1 memberOf with rfl | inRest
        · exact below
        · exact BitVec.lt_trans below (firstBelow member inRest)
      · by_cases above : first.mask < new.mask
        · simp only [place, below, above, if_true, if_false]
          refine List.pairwise_cons.2 ⟨fun member memberOf => ?_, inductionHypothesis restAscending⟩
          rcases mem_place.1 memberOf with rfl | inRest
          · exact above
          · exact firstBelow member inRest
        · simpa only [place, below, above, if_false] using ascending

/-! ## The collection -/

/-- The collection without a member. -/
def empty : Collection := ⟨[], List.Pairwise.nil⟩

/-- True when the inspection is a member. -/
def contains (collection : Collection) (inspection : Inspection) : Bool :=
  collection.members.contains inspection

/-- The collection with one more member, or as it was if the inspection is a
member already. -/
def insert (collection : Collection) (new : Inspection) : Collection :=
  ⟨place new collection.members, ascending_place collection.ascending new⟩

/-- The number of members. -/
def size (collection : Collection) : Nat := collection.members.length

/-- The masks of the members, in ascending order. -/
def masks (collection : Collection) : List Mask := collection.members.map (·.mask)

/-- The collection of the inspections of a list. -/
def ofList (inspections : List Inspection) : Collection :=
  inspections.foldl insert empty

/-- Inserts one inspection after the other and tells of each whether it was new
and how many members there are afterwards. -/
def insertions (collection : Collection) : List Inspection → List (Bool × Nat)
  | [] => []
  | new :: rest =>
      (!collection.contains new, (collection.insert new).size) ::
        insertions (collection.insert new) rest

theorem mem_members_insert {collection : Collection} {new member : Inspection} :
    member ∈ (collection.insert new).members ↔
      member = new ∨ member ∈ collection.members :=
  mem_place

end Collection

end AccessMask.Inspection
