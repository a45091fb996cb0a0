import PodPlacement.Proofs.Ordered
import PodPlacement.Ring.Basic

/-! # Who owns a key — the ring against its plain description

    Put plainly, the owner of a key is found in two steps.  The least claimed
    position at or after the key's hash decides, or the least of all where none
    comes after; and of the nodes with a point there the first owns the key.
    The route from the ring to this:

    * sorting keeps the order of the claims to one position, so the claims that
      the ring keeps are the first ones in the order of the nodes
      (`mem_positions_iff`);
    * the kept claims ascend strictly (`pairwise_positions`), so the search
      along them stops at the position that decides (`decides_of_deciding?`).

    `owner?_eq_some_iff` joins the two.  `owner?_of_kept` is why placement is
    stable: a ring with fewer nodes leaves a key with its owner as long as the
    owner comes first among the nodes that share the deciding position. -/

namespace PodPlacement.HashRing

variable (hash : String → UInt64)

/-! ## The plain description -/

/-- A node has a point at a position: the text of its name, a dash and a number is hashed to it. -/
def HasPoint (points : Nat) (position : UInt64) (node : String) : Prop :=
  ∃ point < points, hash (node ++ "-" ++ toString point) = position

instance (points : Nat) (position : UInt64) : DecidablePred (HasPoint hash points position) :=
  fun node => inferInstanceAs
    (Decidable (∃ point < points, hash (node ++ "-" ++ toString point) = position))

/-- This is the text of a point. -/
theorem pointText_eq (node : String) (point : Nat) :
    pointText node point = node ++ "-" ++ toString point := rfl

/-- Some node has a point at a position. -/
def Claimed (nodes : List String) (points : Nat) (position : UInt64) : Prop :=
  ∃ node ∈ nodes, HasPoint hash points position node

/-- Of the claimed positions, the one that decides about keys hashed to `start`. -/
inductive Decides (claimed : UInt64 → Prop) (start position : UInt64) : Prop where
  | ahead (here : claimed position) (reached : start ≤ position)
      (least : ∀ other, claimed other → start ≤ other → position ≤ other)
  | around (here : claimed position) (behind : ∀ other, claimed other → other < start)
      (least : ∀ other, claimed other → position ≤ other)

namespace Decides

variable {claimed fewer : UInt64 → Prop} {start position other : UInt64}

theorem claimed_self (h : Decides claimed start position) : claimed position := by
  cases h with
  | ahead here _ _ => exact here
  | around here _ _ => exact here

/-- One position decides. -/
theorem unique (h : Decides claimed start position) (h' : Decides claimed start other) :
    position = other := by
  cases h with
  | ahead here reached least =>
      cases h' with
      | ahead here' reached' least' =>
          exact UInt64.le_antisymm (least other here' reached') (least' position here reached)
      | around _ behind' _ => exact absurd (behind' position here) (UInt64.not_lt.2 reached)
  | around here behind least =>
      cases h' with
      | ahead here' reached' _ => exact absurd (behind other here') (UInt64.not_lt.2 reached')
      | around here' _ least' =>
          exact UInt64.le_antisymm (least other here') (least' position here)

/-- A position that decides among many decides among fewer, while it is one of them. -/
theorem mono (hfewer : ∀ p, fewer p → claimed p) (hkept : fewer position)
    (h : Decides claimed start position) : Decides fewer start position := by
  cases h with
  | ahead _ reached least =>
      exact .ahead hkept reached fun p hp => least p (hfewer p hp)
  | around _ behind least =>
      exact .around hkept (fun p hp => behind p (hfewer p hp))
        (fun p hp => least p (hfewer p hp))

end Decides

/-! ## The claims that a ring keeps -/

/-- Skipping the claims to the least position is leaving out all of them. -/
theorem dropWhile_eq_filter {position : UInt64} {kept : List Claim}
    (hkept : kept.Pairwise (·.1 < ·.1)) (hleast : ∀ c ∈ kept, position ≤ c.1) :
    kept.dropWhile (·.1 = position) = kept.filter (·.1 ≠ position) := by
  induction kept with
  | nil => rfl
  | cons head rest ih =>
      obtain ⟨hhead, hrest⟩ := List.pairwise_cons.1 hkept
      by_cases hp : head.1 = position
      · rw [List.dropWhile_cons_of_pos (by simpa using hp),
          List.filter_cons_of_neg (by simpa using hp)]
        exact ih hrest fun c hc => hleast c (List.mem_cons_of_mem _ hc)
      · have hlt : position < head.1 :=
          UInt64.lt_of_le_of_ne (hleast head (List.mem_cons_self ..)) (Ne.symm hp)
        rw [List.dropWhile_cons_of_neg (by simpa using hp), eq_comm, List.filter_eq_self]
        intro c hc
        rcases List.mem_cons.1 hc with rfl | hc
        · simpa using hp
        · have hne : position ≠ c.1 := UInt64.ne_of_lt (UInt64.lt_trans hlt (hhead c hc))
          simpa using hne.symm

theorem firstClaims_subset {ordered : List Claim} {c : Claim} (h : c ∈ firstClaims ordered) :
    c ∈ ordered := by
  induction ordered with
  | nil => exact h
  | cons head rest ih =>
      rcases List.mem_cons.1 h with rfl | h
      · exact List.mem_cons_self ..
      · exact List.mem_cons_of_mem _ (ih ((List.dropWhile_sublist _).mem h))

/-- The first claims ascend strictly. -/
theorem pairwise_firstClaims {ordered : List Claim} (h : ordered.Pairwise (·.1 ≤ ·.1)) :
    (firstClaims ordered).Pairwise (·.1 < ·.1) := by
  induction ordered with
  | nil => exact .nil
  | cons head rest ih =>
      obtain ⟨hhead, hrest⟩ := List.pairwise_cons.1 h
      have hleast : ∀ c ∈ firstClaims rest, head.1 ≤ c.1 := fun c hc =>
        hhead c (firstClaims_subset hc)
      show (head :: (firstClaims rest).dropWhile (·.1 = head.1)).Pairwise (·.1 < ·.1)
      -- What is skipped are the claims to the same position, and all others come after it.
      rw [dropWhile_eq_filter (ih hrest) hleast]
      refine List.pairwise_cons.2 ⟨fun c hc => ?_, (ih hrest).filter _⟩
      obtain ⟨hc, hne⟩ := List.mem_filter.1 hc
      exact UInt64.lt_of_le_of_ne (hleast c hc) (Ne.symm (by simpa using hne))

/-- A claim is kept exactly if it is the first one to its position. -/
theorem mem_firstClaims_iff {ordered : List Claim} (h : ordered.Pairwise (·.1 ≤ ·.1))
    (c : Claim) : c ∈ firstClaims ordered ↔ ordered.find? (·.1 = c.1) = some c := by
  induction ordered with
  | nil => simp [firstClaims]
  | cons head rest ih =>
      obtain ⟨hhead, hrest⟩ := List.pairwise_cons.1 h
      have hleast : ∀ c ∈ firstClaims rest, head.1 ≤ c.1 := fun c hc =>
        hhead c (firstClaims_subset hc)
      show c ∈ head :: (firstClaims rest).dropWhile (·.1 = head.1) ↔ _
      rw [dropWhile_eq_filter (pairwise_firstClaims hrest) hleast, List.mem_cons,
        List.mem_filter, ih hrest]
      by_cases hp : head.1 = c.1
      · rw [List.find?_cons_of_pos (by simpa using hp), Option.some.injEq]
        simp [hp, eq_comm]
      · rw [List.find?_cons_of_neg (by simpa using hp)]
        have hne : c ≠ head := fun e => hp (congrArg Prod.fst e).symm
        simp [hne, Ne.symm hp]

/-- The first claim of one node to a position, if it has a point there. -/
theorem find?_points (node : String) (index points : Nat) (position : UInt64) :
    ((List.range points).map fun point => (hash (pointText node point), index)).find?
        (·.1 = position)
      = if HasPoint hash points position node then some (position, index) else none := by
  by_cases h : HasPoint hash points position node
  · rw [if_pos h]
    obtain ⟨point, hpoint, hposition⟩ := h
    rw [← pointText_eq] at hposition
    have hmem : (hash (pointText node point), index)
        ∈ (List.range points).map fun point => (hash (pointText node point), index) :=
      List.mem_map.2 ⟨point, List.mem_range.2 hpoint, rfl⟩
    cases hfind : ((List.range points).map fun point =>
        (hash (pointText node point), index)).find? (·.1 = position) with
    | none => exact absurd (List.find?_eq_none.1 hfind _ hmem) (by simpa using hposition)
    | some c =>
        obtain ⟨point', _, rfl⟩ := List.mem_map.1 (List.mem_of_find?_eq_some hfind)
        have hc : hash (pointText node point') = position := by
          simpa using List.find?_some hfind
        rw [hc]
  · rw [if_neg h, List.find?_eq_none]
    intro c hc hposition
    obtain ⟨point, hpoint, rfl⟩ := List.mem_map.1 hc
    exact h ⟨point, List.mem_range.1 hpoint, of_decide_eq_true hposition⟩

/-- The first claim to a position is that of the first node with a point there. -/
theorem find?_claims (nodes : List String) (points : Nat) (position : UInt64) :
    (claims hash nodes points).find? (·.1 = position)
      = (nodes.findIdx? (HasPoint hash points position)).map (position, ·) := by
  -- The nodes are numbered from `k` on, so that the rest of them is a case of the same.
  have hfrom : ∀ k, ((nodes.zipIdx k).flatMap fun entry =>
      (List.range points).map fun point => (hash (pointText entry.1 point), entry.2)).find?
        (·.1 = position)
      = (nodes.findIdx? (HasPoint hash points position)).map (fun i => (position, k + i)) := by
    induction nodes with
    | nil => intro k; rfl
    | cons node rest ih =>
        intro k
        rw [List.zipIdx_cons, List.flatMap_cons, List.find?_append, find?_points,
          ih (k + 1), List.findIdx?_cons]
        by_cases h : HasPoint hash points position node
        · simp [h]
        · simp only [h, if_false, Option.none_or, decide_false, Bool.false_eq_true,
            Option.map_map]
          congr 1
          funext i
          simp only [Function.comp, Nat.add_assoc, Nat.add_comm 1 i]
  have h := hfrom 0
  simp only [Nat.zero_add] at h
  exact h

theorem position_le_trans (a b c : Claim) (hab : decide (a.1 ≤ b.1) = true)
    (hbc : decide (b.1 ≤ c.1) = true) : decide (a.1 ≤ c.1) = true :=
  decide_eq_true (UInt64.le_trans (of_decide_eq_true hab) (of_decide_eq_true hbc))

theorem position_le_total (a b : Claim) :
    (decide (a.1 ≤ b.1) || decide (b.1 ≤ a.1)) = true := by
  rw [Bool.or_eq_true, decide_eq_true_iff, decide_eq_true_iff]
  exact UInt64.le_total a.1 b.1

section Built

variable (nodes : List String) (points : Nat)

theorem pairwise_sorted_claims :
    ((claims hash nodes points).mergeSort (·.1 ≤ ·.1)).Pairwise (·.1 ≤ ·.1) :=
  (List.pairwise_mergeSort position_le_trans position_le_total _).imp of_decide_eq_true

/-- The positions of a ring ascend strictly. -/
theorem pairwise_positions : (build hash nodes points).positions.Pairwise (·.1 < ·.1) :=
  pairwise_firstClaims (pairwise_sorted_claims hash nodes points)

/-- A ring holds a claim exactly if it is that of the first node with a point there. -/
theorem mem_positions_iff (c : Claim) :
    c ∈ (build hash nodes points).positions
      ↔ nodes.findIdx? (HasPoint hash points c.1) = some c.2 := by
  have halike : ∀ a b : Claim, decide (a.1 = c.1) = true → decide (b.1 = c.1) = true →
      decide (a.1 ≤ b.1) = true := by
    intro a b ha hb
    rw [of_decide_eq_true ha, of_decide_eq_true hb]
    exact decide_eq_true (UInt64.le_refl c.1)
  have hstable := Ordered.find?_mergeSort _ position_le_trans position_le_total
    (claims hash nodes points) _ halike
  show c ∈ firstClaims ((claims hash nodes points).mergeSort (·.1 ≤ ·.1)) ↔ _
  rw [mem_firstClaims_iff (pairwise_sorted_claims hash nodes points), hstable, find?_claims]
  constructor
  · intro h
    obtain ⟨index, hindex, hc⟩ := Option.map_eq_some_iff.1 h
    rw [hindex, ← hc]
  · intro h
    rw [h]
    rfl

/-- The positions of a ring are those that some node claims. -/
theorem claimed_iff (position : UInt64) :
    Claimed hash nodes points position
      ↔ ∃ c ∈ (build hash nodes points).positions, c.1 = position := by
  constructor
  · rintro ⟨node, hnode, hpoint⟩
    have hsome : (nodes.findIdx? (HasPoint hash points position)).isSome := by
      rw [List.findIdx?_isSome, List.any_eq_true]
      exact ⟨node, hnode, decide_eq_true hpoint⟩
    obtain ⟨index, hindex⟩ := Option.isSome_iff_exists.1 hsome
    exact ⟨(position, index), (mem_positions_iff hash nodes points _).2 hindex, rfl⟩
  · rintro ⟨c, hc, rfl⟩
    obtain ⟨hlt, hpoint, _⟩ :=
      List.findIdx?_eq_some_iff_getElem.1 ((mem_positions_iff hash nodes points c).1 hc)
    exact ⟨nodes[c.2], List.getElem_mem hlt, of_decide_eq_true hpoint⟩

/-! ## The search along the ring -/

variable {nodes points}

/-- The search along a ring ends at the position that decides. -/
theorem decides_of_deciding? {start : UInt64} {c : Claim}
    (h : (build hash nodes points).deciding? start = some c) :
    c ∈ (build hash nodes points).positions
      ∧ Decides (Claimed hash nodes points) start c.1 := by
  have hsorted := pairwise_positions hash nodes points
  rcases Option.or_eq_some_iff.1 h with hfound | ⟨hnone, hhead⟩
  · have hc := List.mem_of_find?_eq_some hfound
    refine ⟨hc, .ahead ((claimed_iff hash nodes points c.1).2 ⟨c, hc, rfl⟩)
      (by simpa using List.find?_some hfound) ?_⟩
    intro other hother hreached
    obtain ⟨c', hc', rfl⟩ := (claimed_iff hash nodes points other).1 hother
    rcases Ordered.rel_of_find? hsorted hfound hc' (decide_eq_true hreached) with rfl | hlt
    · exact UInt64.le_refl _
    · exact UInt64.le_of_lt hlt
  · have hc := List.mem_of_head? hhead
    refine ⟨hc, .around ((claimed_iff hash nodes points c.1).2 ⟨c, hc, rfl⟩) ?_ ?_⟩
    · intro other hother
      obtain ⟨c', hc', rfl⟩ := (claimed_iff hash nodes points other).1 hother
      exact UInt64.not_le.1 (by simpa using List.find?_eq_none.1 hnone c' hc')
    · intro other hother
      obtain ⟨c', hc', rfl⟩ := (claimed_iff hash nodes points other).1 hother
      rcases Ordered.rel_of_head? hsorted hhead hc' with rfl | hlt
      · exact UInt64.le_refl _
      · exact UInt64.le_of_lt hlt

/-- Where a position is claimed, the search finds one. -/
theorem exists_deciding? {position : UInt64} (start : UInt64)
    (h : Claimed hash nodes points position) :
    ∃ c, (build hash nodes points).deciding? start = some c := by
  obtain ⟨c, hc, _⟩ := (claimed_iff hash nodes points position).1 h
  cases hfind : (build hash nodes points).positions.find? (start ≤ ·.1) with
  | some c' => exact ⟨c', by rw [deciding?, hfind]; rfl⟩
  | none =>
      obtain ⟨c', hc'⟩ := Option.isSome_iff_exists.1
        (List.isSome_head?.2 (List.ne_nil_of_mem hc))
      exact ⟨c', by rw [deciding?, hfind]; exact hc'⟩

/-- The owner of the claim to a position is the first node with a point there. -/
theorem getElem?_of_mem_positions {c : Claim} (h : c ∈ (build hash nodes points).positions) :
    nodes[c.2]? = nodes.find? (HasPoint hash points c.1) := by
  rw [List.find?_eq_bind_findIdx?_getElem?, (mem_positions_iff hash nodes points c).1 h]
  rfl

/-- **THE OWNER OF A KEY** is the first node with a point at the deciding position. -/
theorem owner?_eq_some_iff (key name : String) :
    (build hash nodes points).owner? key = some name
      ↔ ∃ position, Decides (Claimed hash nodes points) (hash key) position
          ∧ nodes.find? (HasPoint hash points position) = some name := by
  constructor
  · intro h
    obtain ⟨c, hc, hname⟩ := Option.bind_eq_some_iff.1 h
    obtain ⟨hmem, hdecides⟩ := decides_of_deciding? hash hc
    exact ⟨c.1, hdecides, (getElem?_of_mem_positions hash hmem).symm.trans hname⟩
  · rintro ⟨position, hdecides, hname⟩
    obtain ⟨c, hc⟩ := exists_deciding? hash (hash key) hdecides.claimed_self
    obtain ⟨hmem, hdecides'⟩ := decides_of_deciding? hash hc
    refine Option.bind_eq_some_iff.2 ⟨c, hc, ?_⟩
    rw [hdecides.unique hdecides'] at hname
    exact (getElem?_of_mem_positions hash hmem).trans hname

/-- Nodes with points leave no key without an owner, and the owner is one of them. -/
theorem exists_owner? (hnodes : nodes ≠ []) (hpoints : 0 < points) (key : String) :
    ∃ name ∈ nodes, (build hash nodes points).owner? key = some name := by
  obtain ⟨node, hnode⟩ := List.exists_mem_of_ne_nil nodes hnodes
  have hclaimed : Claimed hash nodes points (hash (pointText node 0)) :=
    ⟨node, hnode, 0, hpoints, rfl⟩
  -- The first point of any node is claimed, so the search ends at some claim.
  obtain ⟨c, hc⟩ := exists_deciding? hash (hash key) hclaimed
  obtain ⟨hmem, hdecides⟩ := decides_of_deciding? hash hc
  obtain ⟨owner, howner, hpoint⟩ := hdecides.claimed_self
  have hsome : (nodes.find? (HasPoint hash points c.1)).isSome :=
    List.find?_isSome.2 ⟨owner, howner, decide_eq_true hpoint⟩
  obtain ⟨name, hname⟩ := Option.isSome_iff_exists.1 hsome
  exact ⟨name, List.mem_of_find?_eq_some hname,
    (owner?_eq_some_iff hash key name).2 ⟨c.1, hdecides, hname⟩⟩

/-- A ring without points owns nothing. -/
theorem owner?_of_no_points (key : String) : (build hash nodes 0).owner? key = none := by
  have hclaims : claims hash nodes 0 = [] :=
    List.flatMap_eq_nil_iff.2 fun _ _ => rfl
  rw [owner?, deciding?, build, hclaims, List.mergeSort_nil]
  rfl

end Built

/-! ## Fewer nodes -/

/-- **MINIMAL DISRUPTION**: with fewer nodes a key stays with its owner, if the owner is still the
first of the nodes with a point at each position where it was the first before. -/
theorem owner?_of_kept {nodes kept : List String} {points : Nat} {key name : String}
    (hkept : ∀ node ∈ kept, node ∈ nodes)
    (hfirst : ∀ position, nodes.find? (HasPoint hash points position) = some name →
      kept.find? (HasPoint hash points position) = some name)
    (h : (build hash nodes points).owner? key = some name) :
    (build hash kept points).owner? key = some name := by
  obtain ⟨position, hdecides, hname⟩ := (owner?_eq_some_iff hash key name).1 h
  -- The owner still claims the position, so that it decides also among fewer claims.
  have hname' := hfirst position hname
  have hpoint : HasPoint hash points position name := by simpa using List.find?_some hname'
  have hclaimed : Claimed hash kept points position :=
    ⟨name, List.mem_of_find?_eq_some hname', hpoint⟩
  have hfewer : ∀ p, Claimed hash kept points p → Claimed hash nodes points p := by
    rintro p ⟨node, hnode, hpoint⟩
    exact ⟨node, hkept node hnode, hpoint⟩
  exact (owner?_eq_some_iff hash key name).2 ⟨position, hdecides.mono hfewer hclaimed, hname'⟩

end PodPlacement.HashRing
