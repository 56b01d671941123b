import Mathlib.Algebra.GroupWithZero.Nat
import Mathlib.Data.List.Basic
import Mathlib.Tactic.Common

/-!
# Packet types

The generated tables of `autogen_pkt_types`.  A packet type is the stack of the headers of a packet;
its name is the list of the protocols in it, from the outermost one inwards.  The tables give, for
every type, the offsets of its headers and of its innermost ethertype, and the types that result
when the parser finds one more header, and when a header is pushed or popped.

The generator builds the types as all combinations of a link layer and of what is above it, and
finds the transitions by rewriting the names.
-/

namespace Xdpd.Classifier

-- for the numerals that count tags, labels and words of options
scoped instance neZero_three : NeZero 3 := ⟨by decide⟩

scoped instance neZero_sixteen : NeZero 16 := ⟨by decide⟩

scoped instance neZero_thirtyTwo : NeZero 32 := ⟨by decide⟩

/-- The messages of the neighbour discovery protocol that have types of their own. -/
inductive NdpMessage
  | rtrSol | rtrAdv | neighSol | neighAdv
  deriving DecidableEq, Repr

/-- The options that can be next to an ICMPv6 header. -/
inductive Icmpv6Opts
  | lladrSrc | lladrTgt | prefixInfo
  deriving DecidableEq, Repr

/-- `protocol_types_t`. -/
inductive Proto
  | ethernet | eth8023 | mpls | vlan | isid | pppoe | ppp | arpv4 | ipv4 | icmpv4 | ipv6 | icmpv6
  /-- `ICMPV6_RTR_SOL`, `ICMPV6_RTR_ADV`, `ICMPV6_NEIGH_SOL`, `ICMPV6_NEIGH_ADV` -/
  | icmpv6Ndp (message : NdpMessage)
  /-- the link layer address in a message: `_OPTS_LLADR_SRC`, or `_OPTS_LLADR_TGT` in the last -/
  | icmpv6NdpOpts (message : NdpMessage)
  | icmpv6Redirect
  | icmpv6Opts (opts : Icmpv6Opts)
  | tcp | udp | sctp | gtpu4 | gtpu6 | gre4 | gre6
  deriving DecidableEq, Repr

/-- The lengths of the messages, less that of the ICMPv6 header. -/
def NdpMessage.len : NdpMessage → ℕ
  | .rtrSol => 4
  | .rtrAdv => 12
  | .neighSol | .neighAdv => 20

/-- The lengths in the table `protocols` of the generator. -/
def Proto.len : Proto → ℕ
  | .ethernet => 14
  | .eth8023 => 22
  | .mpls | .vlan | .isid => 4
  | .pppoe => 6
  | .ppp => 2
  | .arpv4 => 28
  | .ipv4 => 20
  | .icmpv4 => 4
  | .ipv6 => 40
  | .icmpv6 => 4
  | .icmpv6Ndp message => message.len
  | .icmpv6NdpOpts _ => 8
  | .icmpv6Redirect => 36
  | .icmpv6Opts _ => 20
  | .tcp => 32
  | .udp => 8
  | .sctp => 12
  | .gtpu4 | .gtpu6 => 12
  | .gre4 | .gre6 => 16

/-! ## Types -/

/-- What the generator puts for `L2`: `ETHERNET` or `8023` with up to two tags, and the stacks that
end with an I-TAG. -/
inductive L2
  | plain (llc : Bool) (tags : Fin 3)
  | isid (tagged : Bool)
  deriving DecidableEq, Repr

/-- What can follow an IPv4 header. -/
inductive Ipv4Payload
  | none | icmpv4 | tcp | udp | gtpu4 | sctp | gre4
  deriving DecidableEq, Repr

/-- What can follow an ICMPv6 header. -/
inductive Icmpv6Payload
  | none
  | opts (opts : Icmpv6Opts)
  | ndp (message : NdpMessage) (lladr : Bool)
  deriving DecidableEq, Repr

/-- What can follow an IPv6 header. -/
inductive Ipv6Payload
  | none
  | icmpv6 (payload : Icmpv6Payload)
  | tcp | udp | gtpu6 | sctp | gre6
  deriving DecidableEq, Repr

/-- What can be above the link layer.  There are `n + 1` labels in `mpls n`. -/
inductive Upper
  | none
  | mpls (n : Fin 32)
  | pppoe | ppp | arpv4
  | ipv4 (options : Fin 16) (payload : Ipv4Payload)
  | ipv6 (payload : Ipv6Payload)
  deriving DecidableEq, Repr

/-- `pkt_types_t`, without `PT_INVALID`. -/
structure PktType where
  l2 : L2
  upper : Upper
  deriving DecidableEq, Repr

/-- The protocols that the transitions are indexed with: the IPv4 headers are told apart by the
words of their options. -/
inductive UnrolledProto
  | ipv4Noptions (options : Fin 16)
  | of (proto : Proto)
  deriving DecidableEq, Repr

/-- `PT_ETHERNET` or `PT_8023`. -/
def PktType.start (llc : Bool) : PktType :=
  ⟨.plain llc 0, .none⟩

/-! ## Names and offsets -/

/-- The name of the link layer, with the length of each header. -/
def L2.name : L2 → List (Proto × ℕ)
  | .plain llc tags =>
      (if llc then (.eth8023, Proto.eth8023.len) else (.ethernet, Proto.ethernet.len)) ::
        List.replicate tags (.vlan, Proto.vlan.len)
  | .isid false => [(.ethernet, Proto.ethernet.len), (.isid, Proto.isid.len)]
  | .isid true =>
      [(.ethernet, Proto.ethernet.len), (.vlan, Proto.vlan.len), (.isid, Proto.isid.len)]

/-- The protocols of an IPv4 payload. -/
def Ipv4Payload.protos : Ipv4Payload → List Proto
  | .none => []
  | .icmpv4 => [.icmpv4]
  | .tcp => [.tcp]
  | .udp => [.udp]
  | .gtpu4 => [.udp, .gtpu4]
  | .sctp => [.sctp]
  | .gre4 => [.gre4]

/-- The protocols of an ICMPv6 payload. -/
def Icmpv6Payload.protos : Icmpv6Payload → List Proto
  | .none => []
  | .opts o => [.icmpv6Opts o]
  | .ndp message false => [.icmpv6Ndp message]
  | .ndp message true => [.icmpv6Ndp message, .icmpv6NdpOpts message]

/-- The protocols of an IPv6 payload. -/
def Ipv6Payload.protos : Ipv6Payload → List Proto
  | .none => []
  | .icmpv6 payload => .icmpv6 :: payload.protos
  | .tcp => [.tcp]
  | .udp => [.udp]
  | .gtpu6 => [.udp, .gtpu6]
  | .sctp => [.sctp]
  | .gre6 => [.gre6]

/-- A protocol with its length in the table. -/
def Proto.entry (proto : Proto) : Proto × ℕ :=
  (proto, proto.len)

/-- The name of what is above the link layer.  All labels are one entry, which has the length of one
label. -/
def Upper.name : Upper → List (Proto × ℕ)
  | .none => []
  | .mpls _ => [Proto.mpls.entry]
  | .pppoe => [Proto.pppoe.entry]
  | .ppp => [Proto.pppoe.entry, Proto.ppp.entry]
  | .arpv4 => [Proto.arpv4.entry]
  | .ipv4 options payload =>
      (.ipv4, Proto.ipv4.len + options.val * 4) :: payload.protos.map Proto.entry
  | .ipv6 payload => Proto.ipv6.entry :: payload.protos.map Proto.entry

/-- The name of a type. -/
def PktType.name (t : PktType) : List (Proto × ℕ) :=
  t.l2.name ++ t.upper.name

/-- The first place of a protocol in a name, whose headers start at `len`. -/
def offsetIn (proto : Proto) : ℕ → List (Proto × ℕ) → Option ℕ
  | _, [] => none
  | len, (p, n) :: name => if p = proto then some len else offsetIn proto (len + n) name

/-- `protocol_offsets_bt`.  `none` is `-1`. -/
def protocolOffset (t : PktType) (proto : Proto) : Option ℕ :=
  offsetIn proto 0 t.name

/-- `eth_type_offsets`. -/
def ethTypeOffset (t : PktType) : ℕ :=
  match t.l2 with
  | .isid tagged => if tagged then 14 + 4 - 2 else 14 - 2
  | .plain llc tags => (if llc then 22 else 14) + 4 * tags.val - 2

/-- `mpls_num_of_labels`. -/
def mplsNumOfLabels (t : PktType) : ℕ :=
  match t.upper with
  | .mpls n => n.val + 1
  | _ => 0

/-! ## Transitions -/

/-- One more header above the link layer. -/
def parseUpper : Upper → UnrolledProto → Option Upper
  | .none, .of .mpls => some (.mpls 0)
  | .mpls n, .of .mpls => if h : n.val + 1 < 32 then some (.mpls ⟨n.val + 1, h⟩) else none
  | .none, .of .pppoe => some .pppoe
  | .pppoe, .of .ppp => some .ppp
  | .none, .of .arpv4 => some .arpv4
  | .none, .ipv4Noptions options => some (.ipv4 options .none)
  | .ipv4 options .none, .of .icmpv4 => some (.ipv4 options .icmpv4)
  | .ipv4 options .none, .of .tcp => some (.ipv4 options .tcp)
  | .ipv4 options .none, .of .udp => some (.ipv4 options .udp)
  | .ipv4 options .udp, .of .gtpu4 => some (.ipv4 options .gtpu4)
  | .ipv4 options .none, .of .sctp => some (.ipv4 options .sctp)
  | .ipv4 options .none, .of .gre4 => some (.ipv4 options .gre4)
  | .none, .of .ipv6 => some (.ipv6 .none)
  | .ipv6 .none, .of .icmpv6 => some (.ipv6 (.icmpv6 .none))
  | .ipv6 (.icmpv6 .none), .of (.icmpv6Opts o) => some (.ipv6 (.icmpv6 (.opts o)))
  | .ipv6 (.icmpv6 .none), .of (.icmpv6Ndp message) =>
      some (.ipv6 (.icmpv6 (.ndp message false)))
  | .ipv6 (.icmpv6 (.ndp message false)), .of (.icmpv6NdpOpts message') =>
      if message = message' then some (.ipv6 (.icmpv6 (.ndp message true))) else none
  | .ipv6 .none, .of .tcp => some (.ipv6 .tcp)
  | .ipv6 .none, .of .udp => some (.ipv6 .udp)
  | .ipv6 .udp, .of .gtpu6 => some (.ipv6 .gtpu6)
  | .ipv6 .none, .of .sctp => some (.ipv6 .sctp)
  | .ipv6 .none, .of .gre6 => some (.ipv6 .gre6)
  | _, _ => none

/-- One more tag. -/
def L2.parseVlan : L2 → Option L2
  | .plain llc tags => if h : tags.val + 1 < 3 then some (.plain llc ⟨tags.val + 1, h⟩) else none
  | .isid _ => none

/-- An I-TAG. -/
def L2.parseIsid : L2 → Option L2
  | .plain false tags =>
      if tags = 0 then some (.isid false) else if tags = 1 then some (.isid true) else none
  | _ => none

/-- `parse_transitions`. -/
def parseTransitions (t : PktType) : UnrolledProto → Option PktType
  | .of .vlan => if t.upper = .none then t.l2.parseVlan.map (⟨·, .none⟩) else none
  | .of .isid => if t.upper = .none then t.l2.parseIsid.map (⟨·, .none⟩) else none
  | proto => (parseUpper t.upper proto).map (⟨t.l2, ·⟩)

/-- There is a GRE header. -/
def Upper.isGre : Upper → Bool
  | .ipv4 _ .gre4 | .ipv6 .gre6 => true
  | _ => false

/-- A GTP tunnel can be put around the packet: it has an IPv4 header without options or an IPv6
header, and is not in a tunnel yet. -/
def Upper.takesGtpu : Upper → Bool
  | .ipv4 options payload => options = 0 ∧ payload ≠ .gtpu4
  | .ipv6 payload => payload ≠ .gtpu6
  | _ => false

/-- `push_transitions`. -/
def pushTransitions (t : PktType) (proto : Proto) : Option PktType :=
  match t.l2, proto with
  | .plain _ _, .isid => some ⟨.isid false, .none⟩
  | .plain llc tags, .vlan =>
      if h : tags.val + 1 < 3 then some ⟨.plain llc ⟨tags.val + 1, h⟩, t.upper⟩ else none
  | .plain _ _, .mpls =>
      match t.upper with
      | .mpls n => if h : n.val + 2 < 32 then some ⟨t.l2, .mpls ⟨n.val + 1, by omega⟩⟩ else none
      | _ => some ⟨t.l2, .mpls 0⟩
  | .plain _ _, .pppoe =>
      match t.upper with
      | .mpls _ | .pppoe | .ppp => none
      | _ => some ⟨t.l2, .pppoe⟩
  | .plain _ _, .ppp => if t.upper = .pppoe then some ⟨t.l2, .ppp⟩ else none
  | .plain _ tags, .gtpu4 =>
      if tags = 0 ∧ t.upper.takesGtpu then some ⟨t.l2, .ipv4 0 .gtpu4⟩ else none
  | .plain _ tags, .gtpu6 =>
      if tags = 0 ∧ t.upper.takesGtpu then some ⟨t.l2, .ipv6 .gtpu6⟩ else none
  | .plain _ _, .gre4 =>
      if t.upper.isGre then none else some ⟨.plain false 0, .ipv4 0 .gre4⟩
  | .plain _ _, .gre6 =>
      if t.upper.isGre then none else some ⟨.plain false 0, .ipv6 .gre6⟩
  | _, _ => none

/-- `pop_transitions`.  The type `ETHERNET/ISID` has no `ISID/` in its name, and stays as it is; so
does a type without PPPoE. -/
def popTransitions (t : PktType) (proto : Proto) : Option PktType :=
  match t.l2, proto with
  | .isid false, .isid => some (if t.upper = .none then t else ⟨.plain false 0, t.upper⟩)
  | .plain llc tags, .vlan =>
      if tags = 0 then none else some ⟨.plain llc ⟨tags.val - 1, by omega⟩, t.upper⟩
  | .plain _ _, .mpls =>
      match t.upper with
      | .mpls n => some ⟨t.l2, if n = 0 then .none else .mpls ⟨n.val - 1, by omega⟩⟩
      | _ => none
  | .plain _ _, .pppoe =>
      match t.upper with
      | .ppp => none
      | .pppoe => some ⟨t.l2, .none⟩
      | _ => some t
  | .plain _ _, .ppp => if t.upper = .ppp then some ⟨t.l2, .pppoe⟩ else none
  | .plain _ tags, .gtpu4 =>
      match t.upper with
      | .ipv4 _ .gtpu4 => if tags = 0 then some ⟨t.l2, .none⟩ else none
      | _ => none
  | .plain _ tags, .gtpu6 =>
      if tags = 0 ∧ t.upper = .ipv6 .gtpu6 then some ⟨t.l2, .none⟩ else none
  | .plain _ tags, .gre4 =>
      match t.upper with
      | .ipv4 _ .gre4 => if tags = 0 then some ⟨t.l2, .none⟩ else none
      | _ => none
  | .plain _ tags, .gre6 =>
      if tags = 0 ∧ t.upper = .ipv6 .gre6 then some ⟨t.l2, .none⟩ else none
  | _, _ => none

end Xdpd.Classifier
