import CsiNetwork.Errors
import CsiNetwork.Ipam.Block

/-!
# Subnets and their reservations

`IPV4Subnet` and the methods of `pkg/csi/network.go` that work on one subnet:
`ReservedIPs`, `ReservationsByName`, `LookupReservation`, `AddReservation`,
`AddReservationWithPin`, `TotalIPAddresses`, `UsableHostAddresses` and `UpdateDHCPRange`. A method with a pointer receiver returns the
receiver after the call next to its results.

Fields that no modelled function reads or writes (`Comment`, `SupernetRouter`, `DNSServer`)
are left out; a `nil` address is `none`.

`AddReservation` is the source's nested loop: its outer `for` returns in its first
iteration, so the inner pass over the reserved addresses runs exactly once
(`skipReserved`). The advancing loop of `UpdateDHCPRange` has no bound in the source; here
it runs on fuel (`advance`), and `UpdateDHCPRange` gives it `2 ^ 32` iterations, after which
every address has been visited and found reserved, so the source's loop never exits.
-/

namespace CsiNetwork

open Ipam

/-- A VLAN id, Go's `int16`: a 16-bit two's-complement word. -/
abbrev VlanID := BitVec 16

/-- `IPReservation`: a named address of a subnet. -/
structure IPReservation where
  ipAddress : IP
  name : String
  comment : String
  aliases : List String := []
deriving DecidableEq, Repr

/-- `IPV4Subnet`. -/
structure IPV4Subnet where
  fullName : String := ""
  cidr : IPNet
  ipReservations : List IPReservation := []
  name : String := ""
  netName : String := ""
  vlanID : VlanID := 0
  gateway : Option IP := none
  dhcpStart : Option IP := none
  dhcpEnd : Option IP := none
deriving DecidableEq, Repr

namespace IPV4Subnet

/-- `ReservedIPs`: the reservations' addresses, in list order. -/
def reservedIPs (s : IPV4Subnet) : List IP := s.ipReservations.map (·.ipAddress)

/-- `ReservationsByName`: a Go `map[string]IPReservation`, as the entry it holds at each key,
written in list order, so the last reservation of a name wins. A missing key reads as `none`,
the zero `IPReservation{}`, whose address is `nil` and which no reservation of the model
equals. -/
def reservationsByName (s : IPV4Subnet) : String → Option IPReservation :=
  s.ipReservations.foldl (fun reservations v => Function.update reservations v.name (some v))
    fun _ => none

/-- `LookupReservation`: the first reservation named `resName`, or `none` for the zero
`IPReservation{}`. -/
def lookupReservation (s : IPV4Subnet) (resName : String) : Option IPReservation :=
  s.ipReservations.find? fun v => resName = v.name

/-- The pass of `AddReservation` over the reserved addresses, in list order: each one equal
to the candidate moves the candidate one address on. -/
def skipReserved (tempIP : IP) (reserved : List IP) : IP :=
  reserved.foldl (fun tempIP v => if tempIP = v then add tempIP 1 else tempIP) tempIP

/-- `AddReservation`: starting two addresses after the subnet's address (past the gateway),
one pass of `skipReserved`, then the reservation is appended. -/
def addReservation (s : IPV4Subnet) (name comment : String) : IPReservation × IPV4Subnet :=
  let r : IPReservation :=
    { ipAddress := skipReserved (add s.cidr.ip 2) s.reservedIPs, name, comment }
  (r, { s with ipReservations := s.ipReservations ++ [r] })

/-- The address `AddReservationWithPin` builds: the first three octets of `base` and `pin` as
the last one. -/
def pinnedIP (base : IP) (pin : BitVec 8) : IP := base.extractLsb' 8 24 ++ pin

/-- `AddReservationWithPin`: no collision check; the aliases are the comma-separated parts of
the comment. -/
def addReservationWithPin (s : IPV4Subnet) (name comment : String) (pin : BitVec 8) :
    IPReservation × IPV4Subnet :=
  let r : IPReservation :=
    { ipAddress := pinnedIP s.cidr.ip pin, name, comment, aliases := comment.splitOn "," }
  (r, { s with ipReservations := s.ipReservations ++ [r] })

/-- `TotalIPAddresses`: `2 << uint(31-maskSize)`; for a /32 the shift count `uint(-1)` is
past the word, and the result is 0. -/
def totalIPAddresses (s : IPV4Subnet) : Nat :=
  if s.cidr.mask.ones < 32 then 2 <<< (31 - s.cidr.mask.ones) else 0

/-- `UsableHostAddresses`. -/
def usableHostAddresses (s : IPV4Subnet) : Nat :=
  if s.cidr.mask.ones = 32 then 1
  else if s.cidr.mask.ones = 31 then 2
  else s.totalIPAddresses - 2

/-- The advancing loop of `UpdateDHCPRange`, `for NetIPInSlice(ip, reserved) > 0
{ DHCPStart = ip + 2; ip = ip + 1 }`, allowed `fuel` iterations: the final `DHCPStart`, or
`none` when the condition still holds after the last one. -/
def advance (reserved : List IP) : Nat → IP → IP → Option IP
  | 0, ip, dhcpStart => if netIPInSlice ip reserved > 0 then none else some dhcpStart
  | fuel + 1, ip, dhcpStart =>
    if netIPInSlice ip reserved > 0 then advance reserved fuel (add ip 1) (add ip 2)
    else some dhcpStart

/-- `UpdateDHCPRange`: a fatal exit when there are more reservations than usable addresses;
otherwise `DHCPStart` is `len + 2` addresses after the subnet's address, moved on by the
advancing loop, and `DHCPEnd` is `DHCPStart + 200` under the supernet hack and the address
before the broadcast address otherwise. -/
def updateDHCPRange (s : IPV4Subnet) (applySupernetHack : Bool) : Except Abort IPV4Subnet :=
  if s.reservedIPs.length > s.usableHostAddresses then
    .error (.fatal ("Could not create " ++ s.fullName ++ " subnet in " ++ s.netName ++
      ".  There are " ++ Nat.repr s.reservedIPs.length ++ " reservations and only " ++
      Nat.repr s.usableHostAddresses ++ " usable ip addresses in the subnet " ++
      s.cidr.toString ++ "."))
  else
    let ip := add s.cidr.ip (s.reservedIPs.length + 2)
    match advance s.reservedIPs (2 ^ 32) ip ip with
    | none => .error .diverges
    | some dhcpStart =>
      .ok { s with
        dhcpStart := some dhcpStart
        dhcpEnd := some (if applySupernetHack then add dhcpStart 200
          else add (broadcast s.cidr) (-1)) }

/-! ## Small lemmas -/

@[simp] theorem reservedIPs_append (s : IPV4Subnet) (rs : List IPReservation) :
    reservedIPs { s with ipReservations := s.ipReservations ++ rs } =
      s.reservedIPs ++ rs.map (·.ipAddress) := by
  simp [reservedIPs]

theorem skipReserved_cons (t v : IP) (vs : List IP) :
    skipReserved t (v :: vs) = skipReserved (if t = v then add t 1 else t) vs := rfl

theorem skipReserved_append (t : IP) (xs ys : List IP) :
    skipReserved t (xs ++ ys) = skipReserved (skipReserved t xs) ys := List.foldl_append _ _ _ _

theorem addReservation_eq (s : IPV4Subnet) (name comment : String) :
    s.addReservation name comment =
      ({ ipAddress := skipReserved (add s.cidr.ip 2) s.reservedIPs, name, comment },
        { s with ipReservations := s.ipReservations ++
          [{ ipAddress := skipReserved (add s.cidr.ip 2) s.reservedIPs, name, comment }] }) :=
  rfl

/-- `UsableHostAddresses` below /31: the block size less the network and broadcast
addresses. -/
theorem usableHostAddresses_of_le {s : IPV4Subnet} (h : s.cidr.mask.ones ≤ 30) :
    s.usableHostAddresses = 2 ^ s.cidr.mask.hostBits - 2 := by
  have hsplit : 2 ^ s.cidr.mask.hostBits = 2 * 2 ^ (31 - s.cidr.mask.ones) := by
    rw [← Nat.pow_succ', IPMask.hostBits]; congr 1; omega
  simp [usableHostAddresses, totalIPAddresses, Nat.shiftLeft_eq, hsplit,
    show s.cidr.mask.ones ≠ 32 by omega, show s.cidr.mask.ones ≠ 31 by omega,
    show s.cidr.mask.ones < 32 by omega, Nat.mul_comm]

/-- `UpdateDHCPRange` once the capacity check passes: the outcome of the advancing loop. -/
theorem updateDHCPRange_of_le {s : IPV4Subnet} (b : Bool)
    (h : s.reservedIPs.length ≤ s.usableHostAddresses) :
    s.updateDHCPRange b =
      match advance s.reservedIPs (2 ^ 32) (add s.cidr.ip (s.reservedIPs.length + 2))
          (add s.cidr.ip (s.reservedIPs.length + 2)) with
      | none => .error .diverges
      | some dhcpStart =>
        .ok { s with
          dhcpStart := some dhcpStart
          dhcpEnd := some (if b then add dhcpStart 200 else add (broadcast s.cidr) (-1)) } := by
  rw [updateDHCPRange, if_neg (Nat.not_lt.2 h)]

/-- When the first candidate is free, the loop does not run. -/
theorem advance_of_not_mem {reserved : List IP} {ip : IP} (start : IP) (h : ip ∉ reserved) :
    ∀ fuel, advance reserved fuel ip start = some start
  | 0 => by simp [advance, netIPInSlice_pos_iff.not.2 h]
  | _ + 1 => by simp [advance, netIPInSlice_pos_iff.not.2 h]

end IPV4Subnet

end CsiNetwork
