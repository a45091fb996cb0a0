import PodPlacement.Number.Digits
import PodPlacement.Text.Quoted

/-! # The hash ring — who owns a key

    Every node claims a number of positions on a ring of 64-bit words: the
    hashes of its point texts.  A position belongs to the first node that
    claims it.  A key belongs to the owner of the first position at or after
    its own hash, and past the last position to the owner of the first.

    The hash is a parameter: nothing here depends on which one it is. -/

namespace PodPlacement

/-- A position on the ring and the index of the node that claims it. -/
abbrev Claim := UInt64 × Nat

/-- A ring of nodes under a hash. -/
structure HashRing (hash : String → UInt64) where
  nodes : List String
  positions : List Claim

namespace HashRing

/-- The number of points per node where none is asked for. -/
def defaultPoints : Nat := 128

/-- The text whose hash is the position of a node's point. -/
def pointText (node : String) (point : Nat) : String :=
  node ++ "-" ++ String.ofList (Digits.shortest point)

variable (hash : String → UInt64)

/-- The claims of all nodes, node by node. -/
def claims (nodes : List String) (points : Nat) : List Claim :=
  nodes.zipIdx.flatMap fun (node, index) =>
    (List.range points).map fun point => (hash (pointText node point), index)

/-- The first claim to each position, in a list ordered by position. -/
def firstClaims (ordered : List Claim) : List Claim :=
  ordered.foldr (fun claim kept => claim :: kept.dropWhile (·.1 = claim.1)) []

/-- The ring of these nodes, each with the same number of points. -/
def build (nodes : List String) (points : Nat) : HashRing hash where
  nodes := nodes
  positions := firstClaims ((claims hash nodes points).mergeSort (·.1 ≤ ·.1))

variable {hash}

/-- The claim that decides about a position: the first at or after it, else the first of all. -/
def deciding? (ring : HashRing hash) (position : UInt64) : Option Claim :=
  (ring.positions.find? (position ≤ ·.1)).or ring.positions.head?

/-- The node that owns a key; `none` when the ring has no positions. -/
def owner? (ring : HashRing hash) (key : String) : Option String :=
  (ring.deciding? (hash key)).bind fun claim => ring.nodes[claim.2]?

/-- No position is claimed. -/
def isEmpty (ring : HashRing hash) : Bool :=
  ring.positions.isEmpty

/-- The ring in words. -/
def description (ring : HashRing hash) : String :=
  "HashRing \x7b nodes: [" ++ ", ".intercalate (ring.nodes.map Text.quoted)
    ++ "], positions: \x7b"
    ++ ", ".intercalate (ring.positions.map fun c => toString c.1 ++ ": " ++ toString c.2)
    ++ "\x7d \x7d"

end HashRing

end PodPlacement
