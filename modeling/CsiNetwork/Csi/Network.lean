import CsiNetwork.Csi.Cabinets
import CsiNetwork.Ipam.Free
import CsiNetwork.Net.ParseCIDR
import CsiNetwork.Strings.EqualFold

/-!
# Networks and how subnets are added to them

`IPV4Network` and its methods from `pkg/csi/network.go` that add subnets:
`AllocatedSubnets`, `AddSubnetbyCIDR`, `AddSubnet`, `AddBiggestSubnet` and `GenSubnets`, and
the two lookups by name, `LookUpSubnet` and `SubnetbyName`.
Each method parses the network's CIDR string and dereferences the result, so a CIDR that
does not parse is a nil dereference (`Abort.nilDereference`) once the block is needed. A
method that returns normally gives back the network after the call and its results, the
returned `error` included; the blank `&IPV4Subnet{}` returned next to an error is left out.

`FullName`, `MTU`, `NetType` and `Comment` of a network are not used by these methods and
are left out.
-/

namespace CsiNetwork

open Ipam

/-- `IPV4Network`. -/
structure IPV4Network where
  cidr : String
  subnets : List IPV4Subnet := []
  name : String := ""
  vlanRange : List VlanID := []
deriving DecidableEq, Repr

namespace IPV4Network

/-- `AllocatedSubnets`: the subnets' blocks, in order. -/
def allocatedSubnets (iNet : IPV4Network) : List IPNet := iNet.subnets.map (·.cidr)

/-- `AddSubnetbyCIDR`: the requested block is added when it lies in the network's block.
Nothing is checked against the other subnets. -/
def addSubnetbyCIDR (iNet : IPV4Network) (desiredNet : IPNet) (name : String)
    (vlanID : VlanID) : Except Abort (IPV4Network × Except CsiError IPV4Subnet) :=
  match parseCIDR iNet.cidr with
  | none => .error .nilDereference
  | some myNet =>
    if contains myNet desiredNet then
      let sn : IPV4Subnet :=
        { cidr := desiredNet, name, gateway := some (add desiredNet.ip 1), vlanID }
      .ok ({ iNet with subnets := iNet.subnets ++ [sn] }, .ok sn)
    else .ok (iNet, .error (.notPartOf desiredNet myNet))

/-- `AddSubnet`: the first free block of the requested size, from `ipam.Free`. -/
def addSubnet (iNet : IPV4Network) (mask : IPMask) (name : String) (vlanID : VlanID) :
    Except Abort (IPV4Network × Except CsiError IPV4Subnet) :=
  match parseCIDR iNet.cidr with
  | none => .error .nilDereference
  | some myNet =>
    match free myNet mask iNet.allocatedSubnets with
    | .error e => .ok (iNet, .error e)
    | .ok newSubnet =>
      let sn : IPV4Subnet :=
        { cidr := newSubnet, name, netName := iNet.name, gateway := some (add newSubnet.ip 1),
          vlanID }
      .ok ({ iNet with subnets := iNet.subnets ++ [sn] }, .ok sn)

/-- The loop of `AddBiggestSubnet` over the prefix lengths still to try: the first
`AddSubnet` that succeeds, or `err` once the list is exhausted. -/
def tryPrefixes (name : String) (vlanID : VlanID) (err : CsiError) :
    IPV4Network → List Nat → Except Abort (IPV4Network × Except CsiError IPV4Subnet)
  | iNet, [] => .ok (iNet, .error err)
  | iNet, i :: is =>
    match iNet.addSubnet (cidrMask i) name vlanID with
    | .error a => .error a
    | .ok (iNet', .ok sn) => .ok (iNet', .ok sn)
    | .ok (iNet', .error _) => tryPrefixes name vlanID err iNet' is

/-- `AddBiggestSubnet`: `AddSubnet` with prefix lengths `i = maskSize, maskSize + 1, …` while
`i < 29`. -/
def addBiggestSubnet (iNet : IPV4Network) (mask : IPMask) (name : String) (vlanID : VlanID) :
    Except Abort (IPV4Network × Except CsiError IPV4Subnet) :=
  tryPrefixes name vlanID (.noRoom name iNet.name mask.ones) iNet
    (List.range' mask.ones (29 - mask.ones))

/-! ## `GenSubnets` -/

/-- `ipam.Free(*myNet, …)`: a nil dereference when the CIDR did not parse. -/
def freeIn (myNet : Option IPNet) (mask : IPMask) (used : List IPNet) :
    Except Abort (Except CsiError IPNet) :=
  match myNet with
  | none => .error .nilDereference
  | some myNet => .ok (free myNet mask used)

/-- The VLAN id of the cabinet at index `j` of its group: its own when non-zero, otherwise
`int16(j) + VlanRange[0]`, which panics on an empty range. -/
def cabinetVlan (vlanRange : List VlanID) (j : Nat) (cab : CabinetDetail) : Except Abort VlanID :=
  if cab.vlanID = 0 then
    match vlanRange with
    | [] => .error .indexOutOfRange
    | lo :: _ => .ok (BitVec.ofNat 16 j + lo)
  else .ok cab.vlanID

/-- The subnet `GenSubnets` makes for a cabinet in the block `newSubnet`: named
`cabinet_<ID>`, the gateway one address into the block, and the DHCP range from past the
gateway to before the broadcast address. -/
def cabinetSubnet (newSubnet : IPNet) (cab : CabinetDetail) (vlanID : VlanID) : IPV4Subnet :=
  let tempSubnet : IPV4Subnet :=
    { cidr := newSubnet, name := "cabinet_" ++ toString cab.id,
      gateway := some (add newSubnet.ip 1), vlanID }
  { tempSubnet with
    dhcpStart := some (add tempSubnet.cidr.ip (tempSubnet.ipReservations.length + 2))
    dhcpEnd := some (add (broadcast tempSubnet.cidr) (-1)) }

/-- The inner loop of `GenSubnets` over the cabinets of a matching group from index `j`,
threading the allocated blocks (`mySubnets`) and the subnet list (`myIPv4Subnets`). -/
def genCabinets (vlanRange : List VlanID) (myNet : Option IPNet) (mask : IPMask) :
    Nat → List CabinetDetail → List IPNet × List IPV4Subnet →
      Except Abort (Except CsiError (List IPNet × List IPV4Subnet))
  | _, [], acc => .ok (.ok acc)
  | j, cab :: cabs, (mySubnets, myIPv4Subnets) =>
    match freeIn myNet mask mySubnets with
    | .error a => .error a
    | .ok (.error e) => .ok (.error e)
    | .ok (.ok newSubnet) =>
      match cabinetVlan vlanRange j cab with
      | .error a => .error a
      | .ok vlanID =>
        genCabinets vlanRange myNet mask (j + 1) cabs
          (mySubnets ++ [newSubnet], myIPv4Subnets ++ [cabinetSubnet newSubnet cab vlanID])

/-- The outer loop of `GenSubnets` over the cabinet groups: the groups of the requested kind
go through `genCabinets`, each from index 0. -/
def genGroups (vlanRange : List VlanID) (myNet : Option IPNet) (mask : IPMask)
    (cabinetType : String) :
    List CabinetGroupDetail → List IPNet × List IPV4Subnet →
      Except Abort (Except CsiError (List IPNet × List IPV4Subnet))
  | [], acc => .ok (.ok acc)
  | g :: gs, acc =>
    if cabinetType = g.kind then
      match genCabinets vlanRange myNet mask 0 g.cabinetDetails acc with
      | .ok (.ok acc') => genGroups vlanRange myNet mask cabinetType gs acc'
      | r => r
    else genGroups vlanRange myNet mask cabinetType gs acc

/-- `GenSubnets`: the subnet list is replaced only after both loops finish; an error from
`ipam.Free` returns before that. -/
def genSubnets (iNet : IPV4Network) (cabinetDetails : List CabinetGroupDetail) (mask : IPMask)
    (cabinetType : String) : Except Abort (IPV4Network × Option CsiError) :=
  match genGroups iNet.vlanRange (parseCIDR iNet.cidr) mask cabinetType cabinetDetails
      (iNet.allocatedSubnets, iNet.subnets) with
  | .error a => .error a
  | .ok (.error e) => .ok (iNet, some e)
  | .ok (.ok (_, myIPv4Subnets)) => .ok ({ iNet with subnets := myIPv4Subnets }, none)

/-! ## Lookups by name -/

/-- A pointer that `LookUpSubnet` returns: entry `i` of the network's `Subnets`, or a freshly
allocated blank `&IPV4Subnet{}`. Every method that adds a subnet appends a newly allocated
one, so no two entries share a pointer, and an entry's pointer is its index. -/
inductive SubnetRef where
  | entry (i : Nat)
  | blank
deriving DecidableEq, Repr

/-- The indices of the subnets named exactly `name`, in order. -/
def namedIndices (iNet : IPV4Network) (name : String) : List Nat :=
  (iNet.subnets.enum.filter fun v => v.2.name = name).map (·.1)

/-- `LookUpSubnet`: the one subnet named `name` with a nil error, the first of several with
`foundMany`, or a blank subnet with `subnetNotFound`. -/
def lookUpSubnet (iNet : IPV4Network) (name : String) : SubnetRef × Option CsiError :=
  if iNet.subnets.length = 0 then (.blank, some (.subnetNotFound name))
  else
    match namedIndices iNet name with
    | [] => (.blank, some (.subnetNotFound name))
    | [i] => (.entry i, none)
    | found@(i :: _) => (.entry i, some (.foundMany found.length))

/-- `SubnetbyName`: a copy of the first subnet whose name equals `name` up to case
(`strings.EqualFold` with the Unicode folding orbits `sameOrbit`), or `none` for the blank
`IPV4Subnet{}`. -/
def subnetbyName (sameOrbit : Char → Char → Bool) (iNet : IPV4Network) (name : String) :
    Option IPV4Subnet :=
  iNet.subnets.find? fun v => equalFold sameOrbit v.name name

end IPV4Network

end CsiNetwork
