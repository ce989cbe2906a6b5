/-!
# Kinds

Every packet, header and builder is of a kind. A kind has a display name, an owner, which is its
identity, and at most one parent kind. Two kinds with one owner are the same kind whatever their
names say, and two kinds of different owners are different even if they share a name.

A kind accepts itself and every kind below it: `Kind.accepts`. The relation points one way, from
a parent to its descendants.
-/
namespace Encapsulation

/-- The identity of a kind: one owner for each kind of this library, and one for each tag that a
caller chooses for kinds of its own. -/
inductive Owner where
  /-- Ethernet frames. -/
  | ethernet
  /-- Headers of Ethernet frames. -/
  | ethernetHeader
  /-- Packets with LLC and SNAP headers. -/
  | llcSnap
  /-- Headers made of an LLC and a SNAP part. -/
  | llcSnapHeader
  /-- UDP datagrams. -/
  | udp
  /-- Headers of UDP datagrams. -/
  | udpHeader
  /-- Raw data that no layer claims. -/
  | unknown
  /-- A kind that a caller defines. -/
  | custom (tag : String)
deriving DecidableEq

/-- A named kind, alone or under a parent. -/
inductive Kind where
  /-- A kind without a parent. -/
  | root (name : String) (owner : Owner)
  /-- A kind that queries for its parent find as well. -/
  | sub (name : String) (owner : Owner) (parent : Kind)

namespace Kind

/-- The display name. -/
def name : Kind → String
  | root name _ => name
  | sub name _ _ => name

/-- The identity. -/
def owner : Kind → Owner
  | root _ owner => owner
  | sub _ owner _ => owner

/-- The parent kind, if there is one. -/
def parent? : Kind → Option Kind
  | root _ _ => none
  | sub _ _ parent => some parent

/-- Whether two kinds have one identity. -/
def same (left right : Kind) : Bool := left.owner == right.owner

/-- Whether the second kind is the first one or a descendant of it: the search goes from the
second kind up through its ancestors. -/
def accepts (kind : Kind) : Kind → Bool
  | root _ owner => kind.owner == owner
  | sub _ owner parent => kind.owner == owner || kind.accepts parent

/-- The different identities among some kinds, each once. -/
def distinctOwners (kinds : List Kind) : List Owner := (kinds.map owner).eraseDups

/-- Kind of Ethernet frames. -/
def ethernet : Kind := root "Ethernet" .ethernet

/-- Kind of the headers of Ethernet frames. -/
def ethernetHeader : Kind := root "Ethernet Header" .ethernetHeader

/-- Kind of packets with an LLC and SNAP header. -/
def llcSnap : Kind := root "LLC/SNAP" .llcSnap

/-- Kind of LLC and SNAP headers. -/
def llcSnapHeader : Kind := root "LLC/SNAP Header" .llcSnapHeader

/-- Kind of UDP datagrams. -/
def udp : Kind := root "UDP" .udp

/-- Kind of the headers of UDP datagrams. -/
def udpHeader : Kind := root "UDP Header" .udpHeader

/-- Kind of raw data that no layer claims. -/
def unknown : Kind := root "Unknown" .unknown

end Kind

end Encapsulation
