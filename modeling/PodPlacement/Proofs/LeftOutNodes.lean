import Mathlib
import PodPlacement.Proofs.RingLookup

/-! # Left-out nodes — what a ring with fewer nodes changes

    A list of nodes is made shorter by leaving out entries, of which there may
    be several of one name, at any places.  `Within` says which entries of the
    longer list are kept.  The route:

    * of the kept entries the first with a point somewhere is the first of all
      of them there, if that one is kept (`findIdx?_of_kept`);
    * so a key stays with the entry that owns it, as long as this is kept
      (`owningIndex?_of_kept`), also where others had a point at the same
      position.

    Main statement: `keys_leave_only_left_out_nodes`. -/

namespace PodPlacement.HashRing

variable {hash : String → UInt64} {kept all : List String}

/-- The entry of the list of nodes that owns a key. -/
def owningIndex? (ring : HashRing hash) (key : String) : Option Nat :=
  (ring.deciding? (hash key)).map Prod.snd

/-- The owner of a key is the name of the owning entry. -/
theorem owner?_eq_bind_owningIndex? (ring : HashRing hash) (key : String) :
    ring.owner? key = (ring.owningIndex? key).bind (ring.nodes[·]?) := by
  rw [owningIndex?, Option.bind_map]
  rfl

/-- How the entries of a list stand in a longer one: each at a place with its name, in the same
order. -/
structure Within (kept all : List String) where
  place : Fin kept.length ↪o Fin all.length
  same : ∀ i, kept.get i = all.get (place i)

namespace Within

/-- The lists that stand within a list are its sublists. -/
theorem nonempty_iff : Nonempty (Within kept all) ↔ kept.Sublist all := by
  rw [List.sublist_iff_exists_fin_orderEmbedding_get_eq]
  constructor
  · rintro ⟨place, same⟩
    exact ⟨place, same⟩
  · rintro ⟨place, same⟩
    exact ⟨place, same⟩

/-- An entry of the longer list is not kept. -/
def LeavesOut (within : Within kept all) (entry : Fin all.length) : Prop :=
  ∀ i, within.place i ≠ entry

theorem mem (within : Within kept all) {node : String} (h : node ∈ kept) : node ∈ all :=
  (nonempty_iff.1 ⟨within⟩).mem h

/-- The first entry of a kind is the first of those that are kept, if it is one of them. -/
theorem findIdx?_of_kept (within : Within kept all) {kind : String → Bool} {i : Fin kept.length}
    (h : all.findIdx? kind = some (within.place i : Nat)) : kept.findIdx? kind = some (i : Nat) := by
  obtain ⟨hplace, hkind, hbefore⟩ := List.findIdx?_eq_some_iff_getElem.1 h
  refine List.findIdx?_eq_some_iff_getElem.2 ⟨i.isLt, ?_, ?_⟩
  · have hsame : kept[i.val] = all[(within.place i).val] := within.same i
    rw [hsame]
    exact hkind
  · intro j hj
    -- Whatever comes earlier among the kept entries does so among all.
    have hlt : within.place ⟨j, Nat.lt_trans hj i.isLt⟩ < within.place i :=
      within.place.lt_iff_lt.2 hj
    have hsame : kept[j] = all[(within.place ⟨j, Nat.lt_trans hj i.isLt⟩).val] := within.same _
    rw [hsame]
    exact hbefore _ hlt

end Within

/-- Fewer nodes claim fewer positions. -/
theorem claimed_of_within (within : Within kept all) {points : Nat} {position : UInt64}
    (h : Claimed hash kept points position) : Claimed hash all points position := by
  obtain ⟨node, hnode, hpoint⟩ := h
  exact ⟨node, within.mem hnode, hpoint⟩

/-- **A KEPT ENTRY** that owns a key owns it still. -/
theorem owningIndex?_of_kept (within : Within kept all) {points : Nat} {key : String}
    {i : Fin kept.length}
    (h : (build hash all points).owningIndex? key = some (within.place i : Nat)) :
    (build hash kept points).owningIndex? key = some (i : Nat) := by
  obtain ⟨c, hc, hentry⟩ := Option.map_eq_some_iff.1 h
  obtain ⟨hmem, hdecides⟩ := decides_of_deciding? hash hc
  have hall := (mem_positions_iff hash all points c).1 hmem
  rw [hentry] at hall
  have hkept := within.findIdx?_of_kept hall
  -- The entry has its point at the deciding position, which decides among fewer as well.
  have hmem' : (c.1, i.val) ∈ (build hash kept points).positions :=
    (mem_positions_iff hash kept points _).2 hkept
  have hclaimed : Claimed hash kept points c.1 :=
    (claimed_iff hash kept points c.1).2 ⟨_, hmem', rfl⟩
  have hfewer : ∀ p, Claimed hash kept points p → Claimed hash all points p :=
    fun p hp => claimed_of_within within hp
  have hstill := hdecides.mono hfewer hclaimed
  obtain ⟨c', hc'⟩ := exists_deciding? hash (hash key) hclaimed
  obtain ⟨hring, hdecides'⟩ := decides_of_deciding? hash hc'
  have hentry' := (mem_positions_iff hash kept points c').1 hring
  rw [← hstill.unique hdecides', hkept] at hentry'
  exact Option.map_eq_some_iff.2 ⟨c', hc', (Option.some.inj hentry').symm⟩

/-- An entry that owns a key is one of the list, and its name is the owner's. -/
theorem owner?_of_owningIndex? {points entry : Nat} {key : String}
    (h : (build hash all points).owningIndex? key = some entry) :
    ∃ hlt : entry < all.length, (build hash all points).owner? key = some (all.get ⟨entry, hlt⟩) := by
  obtain ⟨c, hc, rfl⟩ := Option.map_eq_some_iff.1 h
  obtain ⟨hmem, _⟩ := decides_of_deciding? hash hc
  refine ⟨index_lt_of_mem_positions hash all points hmem, ?_⟩
  rw [owner?_eq_bind_owningIndex?, h]
  exact List.getElem?_eq_getElem _

/-- A key that no entry owns among many is owned by none among fewer. -/
theorem owningIndex?_of_nobody (within : Within kept all) {points : Nat} {key : String}
    (h : (build hash all points).owningIndex? key = none) :
    (build hash kept points).owningIndex? key = none := by
  cases hc : (build hash kept points).deciding? (hash key) with
  | none => rw [owningIndex?, hc]; rfl
  | some c =>
      obtain ⟨_, hdecides⟩ := decides_of_deciding? hash hc
      have hclaimed := claimed_of_within within hdecides.claimed_self
      obtain ⟨c', hc'⟩ := exists_deciding? hash (hash key) hclaimed
      rw [owningIndex?, hc'] at h
      exact nomatch h

/-- **KEYS LEAVE ONLY LEFT-OUT NODES**: if a ring of some of the nodes gives a key to another owner
than the ring of all, then the entry that owns it among all is one of those left out.  While the
owning entry is kept, both give the key to the same node. -/
theorem keys_leave_only_left_out_nodes (hash : String → UInt64) {kept all : List String}
    (h : kept.Sublist all) (points : Nat) (key : String) :
    Nonempty (Within kept all) ∧ ∀ within : Within kept all,
      ((build hash kept points).owner? key ≠ (build hash all points).owner? key →
          ∃ entry, within.LeavesOut entry
            ∧ (build hash all points).owningIndex? key = some (entry : Nat)
            ∧ (build hash all points).owner? key = some (all.get entry))
        ∧ ∀ i, (build hash all points).owningIndex? key = some (within.place i : Nat) →
            (build hash kept points).owner? key = (build hash all points).owner? key := by
  refine ⟨Within.nonempty_iff.2 h, fun within => ?_⟩
  have hkeeps : ∀ i, (build hash all points).owningIndex? key = some (within.place i : Nat) →
      (build hash kept points).owner? key = (build hash all points).owner? key := by
    intro i howns
    obtain ⟨_, hall⟩ := owner?_of_owningIndex? howns
    obtain ⟨_, hkept⟩ := owner?_of_owningIndex? (owningIndex?_of_kept within howns)
    rw [hall, hkept]
    exact congrArg some (within.same i)
  refine ⟨fun hmoved => ?_, hkeeps⟩
  cases howns : (build hash all points).owningIndex? key with
  | none =>
      have hnobody := owningIndex?_of_nobody within howns
      rw [owner?_eq_bind_owningIndex?, owner?_eq_bind_owningIndex?, howns, hnobody] at hmoved
      exact absurd rfl hmoved
  | some entry =>
      obtain ⟨hlt, howner⟩ := owner?_of_owningIndex? howns
      refine ⟨⟨entry, hlt⟩, fun i hplace => ?_, rfl, howner⟩
      -- Were the owning entry kept, the key would not have moved.
      exact hmoved (hkeeps i (howns.trans (by rw [hplace])))

/-- Three nodes with all points at one position.  Without the first of them the key goes to the
second, although a node with the name of its owner is kept. -/
theorem key_leaves_left_out_namesake :
    let hash : String → UInt64 := fun _ => 0
    let all := ["c", "a", "c"]
    let kept := ["a", "c"]
    (build hash kept 2).owner? "build" = some "a" ∧ (build hash all 2).owner? "build" = some "c"
      ∧ ∃ within : Within kept all, within.LeavesOut 0 := by
  intro hash all kept
  have hkept : (build hash kept 2).owner? "build" = some "a" := by cbv
  have hall : (build hash all 2).owner? "build" = some "c" := by cbv
  have hfirst : (build hash all 2).owningIndex? "build" = some 0 := by cbv
  have hsub : kept.Sublist all := List.sublist_cons_self "c" kept
  obtain ⟨⟨within⟩, hwithin⟩ := keys_leave_only_left_out_nodes hash hsub 2 "build"
  refine ⟨hkept, hall, within, ?_⟩
  have hmoved : (build hash kept 2).owner? "build" ≠ (build hash all 2).owner? "build" := by
    rw [hkept, hall]
    decide
  obtain ⟨entry, hleaves, howns, _⟩ := (hwithin within).1 hmoved
  rw [hfirst] at howns
  obtain rfl : (0 : Fin all.length) = entry := Fin.ext (Option.some.inj howns)
  exact hleaves

end PodPlacement.HashRing
