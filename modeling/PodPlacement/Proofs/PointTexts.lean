import Mathlib
import PodPlacement.Proofs.RingLookup

/-! # Point texts — no two points have the same, so the order of nodes is of no account

    The text of a point is a name, a dash and the digits of a number.  A name
    may hold dashes and digits of its own, but no digit is a dash, so the last
    dash of the text is the one between the two, and text and point determine
    each other (`pointText_inj`).

    A hash that keeps the point texts of a ring apart gives every position to
    the points of one name (`eq_of_hasPoint`).  It then does not matter which
    node comes first, or how often.

    Main statement: `distinct_points_ignore_node_order`. -/

namespace PodPlacement

/-- Texts that are divided by the last of their marks are divided in one way. -/
theorem Text.append_mark_inj {α : Type} {mark : α} {front front' back back' : List α}
    (hback : mark ∉ back) (hback' : mark ∉ back')
    (h : front ++ mark :: back = front' ++ mark :: back') : front = front' ∧ back = back' := by
  -- Whatever one of the fronts has more than the other would leave a mark in a back.
  rcases List.append_eq_append_iff.1 h with ⟨more, rfl, hmore⟩ | ⟨more, rfl, hmore⟩
  · cases more with
    | nil => exact ⟨(List.append_nil front).symm, (List.cons.inj hmore).2⟩
    | cons _ rest =>
        have hrest := (List.cons.inj hmore).2
        rw [hrest] at hback
        exact absurd (List.mem_append.2 (Or.inr (List.mem_cons_self ..))) hback
  · cases more with
    | nil => exact ⟨List.append_nil front', (List.cons.inj hmore).2.symm⟩
    | cons _ rest =>
        have hrest := (List.cons.inj hmore).2
        rw [hrest] at hback'
        exact absurd (List.mem_append.2 (Or.inr (List.mem_cons_self ..))) hback'

namespace Digits

theorem dash_notMem_shortest (n : Nat) : '-' ∉ shortest n := by
  intro h
  have hdigit : '-'.isDigit = true := Nat.isDigit_of_mem_toDigits (by decide) (by decide) h
  exact absurd hdigit (by decide)

/-- Different numbers have different digits. -/
theorem shortest_inj {n m : Nat} (h : shortest n = shortest m) : n = m := by
  rw [← value_shortest n, h, value_shortest m]

end Digits

namespace HashRing

theorem toList_pointText (node : String) (point : Nat) :
    (pointText node point).toList = node.toList ++ '-' :: Digits.shortest point := by
  have hdigits : (String.ofList (Digits.shortest point)).toList = Digits.shortest point :=
    String.toList_ofList
  rw [pointText, String.toList_append, String.toList_append, hdigits, List.append_assoc]
  rfl

/-- **POINT TEXTS** are those of one name and one number each. -/
theorem pointText_inj {node node' : String} {point point' : Nat}
    (h : pointText node point = pointText node' point') : node = node' ∧ point = point' := by
  have hlist := congrArg String.toList h
  rw [toList_pointText, toList_pointText] at hlist
  obtain ⟨hnode, hpoint⟩ := Text.append_mark_inj (Digits.dash_notMem_shortest point)
    (Digits.dash_notMem_shortest point') hlist
  exact ⟨String.toList_inj.1 hnode, Digits.shortest_inj hpoint⟩

variable (hash : String → UInt64)

/-- The point texts of a ring. -/
def pointTexts (nodes : List String) (points : Nat) : Set String :=
  {text | ∃ node ∈ nodes, ∃ point < points, node ++ "-" ++ toString point = text}

section Distinct

variable {hash} {nodes : List String} {points : Nat}
  (distinct : Set.InjOn hash (pointTexts nodes points))

include distinct

/-- Points of a ring at one position are one point. -/
theorem eq_of_hash_pointText {node node' : String} {point point' : Nat} (hnode : node ∈ nodes)
    (hnode' : node' ∈ nodes) (hpoint : point < points) (hpoint' : point' < points)
    (h : hash (pointText node point) = hash (pointText node' point')) :
    node = node' ∧ point = point' :=
  pointText_inj (distinct ⟨node, hnode, point, hpoint, rfl⟩ ⟨node', hnode', point', hpoint', rfl⟩ h)

/-- Nodes with a point at one position have one name. -/
theorem eq_of_hasPoint {position : UInt64} {node node' : String} (hnode : node ∈ nodes)
    (hnode' : node' ∈ nodes) (hpoint : HasPoint hash points position node)
    (hpoint' : HasPoint hash points position node') : node = node' := by
  obtain ⟨point, hlt, hposition⟩ := hpoint
  obtain ⟨point', hlt', hposition'⟩ := hpoint'
  exact (eq_of_hash_pointText distinct hnode hnode' hlt hlt'
    (hposition.trans hposition'.symm)).1

/-- Different names and numbers make so many different positions. -/
theorem card_allPositions :
    (allPositions hash nodes points).toFinset.card = nodes.toFinset.card * points := by
  have himage : (allPositions hash nodes points).toFinset
      = (nodes.toFinset ×ˢ Finset.range points).image fun entry =>
          hash (pointText entry.1 entry.2) := by
    ext position
    simp only [allPositions, List.mem_toFinset, List.mem_flatMap, List.mem_map, List.mem_range,
      Finset.mem_image, Finset.mem_product, Finset.mem_range, Prod.exists]
    constructor
    · rintro ⟨node, hnode, point, hpoint, hposition⟩
      exact ⟨node, point, ⟨hnode, hpoint⟩, hposition⟩
    · rintro ⟨node, point, ⟨hnode, hpoint⟩, hposition⟩
      exact ⟨node, hnode, point, hpoint, hposition⟩
  have hinj : Set.InjOn (fun entry : String × Nat => hash (pointText entry.1 entry.2))
      (nodes.toFinset ×ˢ Finset.range points : Finset (String × Nat)) := by
    rintro ⟨node, point⟩ hentry ⟨node', point'⟩ hentry' hhash
    simp only [Finset.mem_coe, Finset.mem_product, List.mem_toFinset, Finset.mem_range]
      at hentry hentry'
    obtain ⟨hnode, hpoint⟩ :=
      eq_of_hash_pointText distinct hentry.1 hentry'.1 hentry.2 hentry'.2 hhash
    exact Prod.ext hnode hpoint
  rw [himage, Finset.card_image_of_injOn hinj, Finset.card_product, Finset.card_range]

/-- The first node with a point somewhere is the only one, whatever the order. -/
theorem find?_hasPoint_of_same {other : List String}
    (same : ∀ name, name ∈ other ↔ name ∈ nodes) {position : UInt64} {name : String}
    (h : nodes.find? (HasPoint hash points position) = some name) :
    other.find? (HasPoint hash points position) = some name := by
  have hpoint : HasPoint hash points position name := by simpa using List.find?_some h
  have hname := List.mem_of_find?_eq_some h
  cases hfind : other.find? (HasPoint hash points position) with
  | none =>
      exact absurd (decide_eq_true hpoint) (List.find?_eq_none.1 hfind name ((same name).2 hname))
  | some name' =>
      have hpoint' : HasPoint hash points position name' := by simpa using List.find?_some hfind
      have hname' := (same name').1 (List.mem_of_find?_eq_some hfind)
      rw [eq_of_hasPoint distinct hname' hname hpoint' hpoint]

end Distinct

/-- Nodes of the same names claim the same positions. -/
theorem claimed_eq_of_same {nodes other : List String}
    (same : ∀ name, name ∈ other ↔ name ∈ nodes) (points : Nat) :
    Claimed hash other points = Claimed hash nodes points := by
  funext position
  refine propext ⟨?_, ?_⟩
  · rintro ⟨node, hnode, hpoint⟩
    exact ⟨node, (same node).1 hnode, hpoint⟩
  · rintro ⟨node, hnode, hpoint⟩
    exact ⟨node, (same node).2 hnode, hpoint⟩

/-- Where a key has an owner, it has the same in every ring of the same names. -/
theorem owner?_of_same {nodes other : List String} {points : Nat}
    (distinct : Set.InjOn hash (pointTexts nodes points))
    (same : ∀ name, name ∈ other ↔ name ∈ nodes) {key name : String}
    (h : (build hash nodes points).owner? key = some name) :
    (build hash other points).owner? key = some name := by
  obtain ⟨position, hdecides, hfirst⟩ := (owner?_eq_some_iff hash key name).1 h
  refine (owner?_eq_some_iff hash key name).2
    ⟨position, ?_, find?_hasPoint_of_same distinct same hfirst⟩
  rw [claimed_eq_of_same hash same]
  exact hdecides

/-- **DISTINCT POINTS IGNORE THE ORDER OF NODES**: the points of all names and numbers have
different texts.  Where the hash keeps those of a ring apart, the ring has a position for each
number of each of its different names, and gives every key to the same node as any ring of the same
names, in whatever order and however often they come. -/
theorem distinct_points_ignore_node_order :
    (∀ node node' point point',
        pointText node point = pointText node' point' → node = node' ∧ point = point')
      ∧ ∀ nodes points, Set.InjOn hash (pointTexts nodes points) →
          (build hash nodes points).positions.length = nodes.toFinset.card * points
            ∧ ∀ other : List String, (∀ name, name ∈ other ↔ name ∈ nodes) → ∀ key,
                (build hash other points).owner? key = (build hash nodes points).owner? key := by
  refine ⟨fun _ _ _ _ => pointText_inj, fun nodes points distinct => ⟨?_, ?_⟩⟩
  · rw [length_positions]
    exact card_allPositions distinct
  · intro other same key
    cases howner : (build hash nodes points).owner? key with
    | some name => exact owner?_of_same hash distinct same howner
    | none =>
        -- Nothing is claimed, so there are no names or no numbers in either ring.
        have hnone := (owner?_eq_none_iff hash nodes points key).1 howner
        refine (owner?_eq_none_iff hash other points key).2 ?_
        refine (allPositions_eq_nil_iff hash other points).2 ?_
        refine ((allPositions_eq_nil_iff hash nodes points).1 hnone).imp_left ?_
        rintro rfl
        exact List.eq_nil_iff_forall_not_mem.2 fun name hname => nomatch (same name).1 hname

/-- Names of which one begins with the other and ends like a point: the ring holds each point of
both, and a ring that has them the other way around, one of them twice, gives a key to the same. -/
theorem points_of_dashed_names_are_distinct :
    let hash : String → UInt64 := fun text =>
      text.toList.foldl (fun word c => 31 * word + c.toNat.toUInt64) 0
    let nodes := ["a", "a-1"]
    let other := ["a-1", "a", "a-1"]
    (build hash nodes 2).positions.length = 4
      ∧ (build hash other 2).owner? "build" = (build hash nodes 2).owner? "build" := by
  intro hash nodes other
  have htexts : ∀ text ∈ pointTexts nodes 2, text ∈ ["a-0", "a-1", "a-1-0", "a-1-1"] := by
    rintro text ⟨node, hnode, point, hpoint, rfl⟩
    revert point
    revert node
    decide
  have hapart : ∀ text ∈ ["a-0", "a-1", "a-1-0", "a-1-1"],
      ∀ text' ∈ ["a-0", "a-1", "a-1-0", "a-1-1"], hash text = hash text' → text = text' := by
    decide
  have distinct : Set.InjOn hash (pointTexts nodes 2) := fun text htext text' htext' =>
    hapart text (htexts text htext) text' (htexts text' htext')
  have same : ∀ name, name ∈ other ↔ name ∈ nodes := by
    intro name
    simp only [other, nodes, List.mem_cons, List.not_mem_nil, or_false]
    tauto
  obtain ⟨_, hring⟩ := distinct_points_ignore_node_order hash
  obtain ⟨hcount, hsame⟩ := hring nodes 2 distinct
  exact ⟨hcount, hsame other same "build"⟩

end HashRing

end PodPlacement
