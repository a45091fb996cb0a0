import Mathlib
import PodPlacement.Proofs.RingOwner

/-! # Lookups — the ring against a search through all points

    Whoever has no ring looks a key up in three steps: list the positions of
    all points, take the least of them at or after the key's hash, or the least
    of all, and ask node after node whether it has a point there
    (`plainOwner?`).  The route to the ring's own answer:

    * the positions of all points are those that the ring has claims to
      (`mem_allPositions_iff`, `positions_eq_nil_iff`);
    * the position that follows a key's hash is the one that decides
      (`decides_of_following?`), and it is there unless nothing is claimed;
    * one claim is kept for each position (`length_positions`).

    Main statement: `owner_is_first_node_at_following_position`. -/

namespace PodPlacement.HashRing

/-! ## All positions -/

section Built

variable (hash : String → UInt64) (nodes : List String) (points : Nat)

/-- The positions of all points of all nodes, as often as they are claimed. -/
def allPositions : List UInt64 :=
  nodes.flatMap fun node =>
    (List.range points).map fun point => hash (node ++ "-" ++ toString point)

theorem mem_allPositions_iff (position : UInt64) :
    position ∈ allPositions hash nodes points ↔ Claimed hash nodes points position := by
  rw [allPositions, List.mem_flatMap]
  constructor
  · rintro ⟨node, hnode, hposition⟩
    obtain ⟨point, hpoint, hhash⟩ := List.mem_map.1 hposition
    exact ⟨node, hnode, point, List.mem_range.1 hpoint, hhash⟩
  · rintro ⟨node, hnode, point, hpoint, hhash⟩
    exact ⟨node, hnode, List.mem_map.2 ⟨point, List.mem_range.2 hpoint, hhash⟩⟩

/-- Nothing is claimed exactly if there is no node or no point. -/
theorem allPositions_eq_nil_iff :
    allPositions hash nodes points = [] ↔ nodes = [] ∨ points = 0 := by
  constructor
  · intro h
    cases nodes with
    | nil => exact Or.inl rfl
    | cons node rest =>
        rw [allPositions, List.flatMap_cons] at h
        have hnone := (List.append_eq_nil_iff.1 h).1
        exact Or.inr (List.range_eq_nil.1 (List.map_eq_nil_iff.1 hnone))
  · rintro (rfl | rfl)
    · rfl
    · exact List.flatMap_eq_nil_iff.2 fun _ _ => rfl

theorem positions_eq_nil_iff :
    (build hash nodes points).positions = [] ↔ allPositions hash nodes points = [] := by
  rw [List.eq_nil_iff_forall_not_mem, List.eq_nil_iff_forall_not_mem]
  constructor
  · intro h position hposition
    obtain ⟨c, hc, _⟩ := (claimed_iff hash nodes points position).1
      ((mem_allPositions_iff hash nodes points position).1 hposition)
    exact h c hc
  · intro h c hc
    exact h c.1 ((mem_allPositions_iff hash nodes points c.1).2
      ((claimed_iff hash nodes points c.1).2 ⟨c, hc, rfl⟩))

/-- A ring has as many positions as there are different ones among all. -/
theorem length_positions :
    (build hash nodes points).positions.length
      = (allPositions hash nodes points).toFinset.card := by
  have hnodup : ((build hash nodes points).positions.map Prod.fst).Nodup :=
    List.pairwise_map.2 ((pairwise_positions hash nodes points).imp UInt64.ne_of_lt)
  have hsame : ((build hash nodes points).positions.map Prod.fst).toFinset
      = (allPositions hash nodes points).toFinset := by
    ext position
    rw [List.mem_toFinset, List.mem_toFinset, mem_allPositions_iff, claimed_iff, List.mem_map]
  rw [← hsame, List.toFinset_card_of_nodup hnodup, List.length_map]

/-- Every claim that a ring holds is that of one of its nodes. -/
theorem index_lt_of_mem_positions {c : Claim} (h : c ∈ (build hash nodes points).positions) :
    c.2 < nodes.length := by
  obtain ⟨hlt, _⟩ :=
    List.findIdx?_eq_some_iff_getElem.1 ((mem_positions_iff hash nodes points c).1 h)
  exact hlt

end Built

/-! ## The search through all points -/

/-- The least position at or after a start, or the least of all where none comes after. -/
def following? (positions : List UInt64) (start : UInt64) : Option UInt64 :=
  (positions.filter (start ≤ ·)).min?.or positions.min?

theorem following?_eq_none_iff {positions : List UInt64} {start : UInt64} :
    following? positions start = none ↔ positions = [] := by
  rw [following?, Option.or_eq_none_iff, List.min?_eq_none_iff, List.min?_eq_none_iff]
  constructor
  · exact And.right
  · rintro rfl
    exact ⟨rfl, rfl⟩

/-- The position that follows decides. -/
theorem decides_of_following? {positions : List UInt64} {start position : UInt64}
    (h : following? positions start = some position) :
    Decides (· ∈ positions) start position := by
  rcases Option.or_eq_some_iff.1 h with hahead | ⟨hnone, hleast⟩
  · obtain ⟨hmem, hle⟩ := List.min?_eq_some_iff.1 hahead
    obtain ⟨hmem, hreached⟩ := List.mem_filter.1 hmem
    refine .ahead hmem (of_decide_eq_true hreached) fun other hother hstart => ?_
    exact hle other (List.mem_filter.2 ⟨hother, decide_eq_true hstart⟩)
  · obtain ⟨hmem, hle⟩ := List.min?_eq_some_iff.1 hleast
    refine .around hmem (fun other hother => ?_) hle
    have hbehind := List.filter_eq_nil_iff.1 (List.min?_eq_none_iff.1 hnone) other hother
    exact UInt64.not_le.1 fun hstart => hbehind (decide_eq_true hstart)

variable (hash : String → UInt64) (nodes : List String) (points : Nat) (key : String)

/-- The first node with a point at the position that follows a key's hash. -/
def plainOwner? : Option String :=
  (following? (allPositions hash nodes points) (hash key)).bind fun position =>
    nodes.find? (HasPoint hash points position)

/-- A position that follows decides among the claimed ones, and some node has a point there. -/
theorem exists_first_of_following? {position : UInt64}
    (h : following? (allPositions hash nodes points) (hash key) = some position) :
    Decides (Claimed hash nodes points) (hash key) position
      ∧ ∃ name, nodes.find? (HasPoint hash points position) = some name := by
  have hclaimed : (· ∈ allPositions hash nodes points) = Claimed hash nodes points :=
    funext fun position => propext (mem_allPositions_iff hash nodes points position)
  have hdecides := decides_of_following? h
  rw [hclaimed] at hdecides
  obtain ⟨node, hnode, hpoint⟩ := hdecides.claimed_self
  refine ⟨hdecides, Option.isSome_iff_exists.1 ?_⟩
  exact List.find?_isSome.2 ⟨node, hnode, decide_eq_true hpoint⟩

/-- The ring gives a key to nobody exactly if nothing is claimed. -/
theorem owner?_eq_none_iff :
    (build hash nodes points).owner? key = none ↔ allPositions hash nodes points = [] := by
  constructor
  · intro h
    cases hfollowing : following? (allPositions hash nodes points) (hash key) with
    | none => exact following?_eq_none_iff.1 hfollowing
    | some position =>
        obtain ⟨hdecides, name, hname⟩ :=
          exists_first_of_following? hash nodes points key hfollowing
        have howner := (owner?_eq_some_iff hash key name).2 ⟨position, hdecides, hname⟩
        rw [h] at howner
        exact nomatch howner
  · intro h
    rw [owner?, deciding?, (positions_eq_nil_iff hash nodes points).2 h]
    rfl

/-- The ring and the search through all points give a key to the same node. -/
theorem owner?_eq_plainOwner? :
    (build hash nodes points).owner? key = plainOwner? hash nodes points key := by
  rw [plainOwner?]
  cases hfollowing : following? (allPositions hash nodes points) (hash key) with
  | none => exact (owner?_eq_none_iff hash nodes points key).2 (following?_eq_none_iff.1 hfollowing)
  | some position =>
      obtain ⟨hdecides, name, hname⟩ := exists_first_of_following? hash nodes points key hfollowing
      rw [Option.bind_some, hname]
      exact (owner?_eq_some_iff hash key name).2 ⟨position, hdecides, hname⟩

/-- **THE OWNER IS THE FIRST NODE AT THE FOLLOWING POSITION**: a lookup in the ring is a search
through all points, and finds nobody only where there is no node or no point.  The ring has one
claim for each of the different positions, and each of its claims is that of one of the nodes. -/
theorem owner_is_first_node_at_following_position :
    (build hash nodes points).owner? key = plainOwner? hash nodes points key
      ∧ ((build hash nodes points).owner? key = none ↔ allPositions hash nodes points = [])
      ∧ (allPositions hash nodes points = [] ↔ nodes = [] ∨ points = 0)
      ∧ ((build hash nodes points).isEmpty = true ↔ allPositions hash nodes points = [])
      ∧ (build hash nodes points).positions.length
          = (allPositions hash nodes points).toFinset.card
      ∧ ∀ claim ∈ (build hash nodes points).positions, claim.2 < nodes.length := by
  refine ⟨owner?_eq_plainOwner? hash nodes points key, owner?_eq_none_iff hash nodes points key,
    allPositions_eq_nil_iff hash nodes points, ?_, length_positions hash nodes points, ?_⟩
  · rw [isEmpty, List.isEmpty_iff]
    exact positions_eq_nil_iff hash nodes points
  · intro claim hclaim
    exact index_lt_of_mem_positions hash nodes points hclaim

/-- Two nodes with a point where the key's hash falls: the first of them owns it.  A key past all
points belongs to the least of them, which is that of a node without a name. -/
theorem first_node_at_shared_position_owns_key :
    let hash : String → UInt64 := fun text =>
      if text = "-0" then 3 else if text = "late" then 9 else 7
    let ring := build hash ["b", "", "a"] 1
    ring.owner? "build" = some "b" ∧ ring.owner? "late" = some "" ∧ ring.positions.length = 2
      ∧ ∃ claim ∈ ring.positions, claim.2 < 3 := by
  intro hash ring
  obtain ⟨hearly, _, _, _, hcount, hindex⟩ :=
    owner_is_first_node_at_following_position hash ["b", "", "a"] 1 "build"
  obtain ⟨hlate, _⟩ := owner_is_first_node_at_following_position hash ["b", "", "a"] 1 "late"
  have hclaim : (7, 0) ∈ ring.positions := (mem_positions_iff hash _ _ _).2 (by decide)
  exact ⟨hearly.trans (by decide), hlate.trans (by decide), hcount.trans (by decide),
    _, hclaim, hindex _ hclaim⟩

end PodPlacement.HashRing
