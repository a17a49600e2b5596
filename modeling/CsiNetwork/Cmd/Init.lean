import CsiNetwork.Csi.Subnet

/-!
# The passes of `init` over the NCNs

After the SLS state is generated, `init` merges the NCNs the SLS generator knows into the
list read from `ncn_metadata.csv` (`mergeNCNs`), then renames the reservations of the
`bootstrap_dhcp` subnets after those NCNs (`updateReservations`) before it computes their
DHCP ranges.

- `mergeNCNs` stops at the first NCN the SLS state lacks: the NCNs before it have been
  updated in place, that one and the later ones have not (`mergeNCNs_eq`).
- `updateReservations` changes names, comments and aliases, never an address, so the DHCP
  range `UpdateDHCPRange` computes afterwards is the one it would have computed before
  (`updateDHCPRange_after_updateReservations`).
-/

namespace CsiNetwork

/-- `LogicalNCN`, with the fields the passes read and write. Modelled from its uses: the type
is declared in a file of the package that is not in the sources. -/
structure LogicalNCN where
  xname : String
  hostname : String := ""
  subrole : String := ""
  aliases : List String := []
  bmcPort : String := ""
deriving DecidableEq, Repr

/-- `strings.ToLower`: `unicode.ToLower` on every rune; the rune mapping comes from the
Unicode tables and is the parameter `lower`. -/
def toLower (lower : Char → Char) (s : String) : String := ⟨s.data.map lower⟩

/-! ## `mergeNCNs` -/

/-- The NCN with the hostname, aliases and BMC port of its entry in the SLS list. -/
def LogicalNCN.mergeFrom (ncn slsNCN : LogicalNCN) : LogicalNCN :=
  { ncn with hostname := slsNCN.hostname, aliases := slsNCN.aliases, bmcPort := slsNCN.bmcPort }

/-- `mergeNCNs`: each NCN in turn takes the fields of the first SLS NCN with its xname; the
first NCN with none returns the error, naming its xname. The NCNs are pointers, so the list
after the call is returned with the error. -/
def mergeNCNs : List LogicalNCN → List LogicalNCN → List LogicalNCN × Option String
  | [], _ => ([], none)
  | ncn :: ncns, slsNCNs =>
    match slsNCNs.find? (fun slsNCN => ncn.xname = slsNCN.xname) with
    | some slsNCN =>
      let r := mergeNCNs ncns slsNCNs
      (ncn.mergeFrom slsNCN :: r.1, r.2)
    | none =>
      (ncn :: ncns,
        some ("failed to find NCN from ncn-metadata in generated SLS State: " ++ ncn.xname))

/-- Whether the SLS list has an NCN with the xname of `ncn`. -/
def inSLS (slsNCNs : List LogicalNCN) (ncn : LogicalNCN) : Bool :=
  slsNCNs.any fun slsNCN => ncn.xname = slsNCN.xname

/-- The NCN after the merge when the SLS list has it. -/
def mergeWith (slsNCNs : List LogicalNCN) (ncn : LogicalNCN) : LogicalNCN :=
  match slsNCNs.find? (fun slsNCN => ncn.xname = slsNCN.xname) with
  | some slsNCN => ncn.mergeFrom slsNCN
  | none => ncn

/-- **What `mergeNCNs` does.** The NCNs up to the first one the SLS list lacks take the fields
of their SLS entries; that one and the later ones are left as they were; the error names the
first one missing, and there is none exactly when every NCN is in the SLS list. -/
theorem mergeNCNs_eq (slsNCNs : List LogicalNCN) :
    ∀ ncns : List LogicalNCN, mergeNCNs ncns slsNCNs =
      ((ncns.takeWhile (inSLS slsNCNs)).map (mergeWith slsNCNs) ++
          ncns.dropWhile (inSLS slsNCNs),
        (ncns.dropWhile (inSLS slsNCNs)).head?.map fun ncn =>
          "failed to find NCN from ncn-metadata in generated SLS State: " ++ ncn.xname)
  | [] => rfl
  | ncn :: ncns => by
    rw [mergeNCNs]
    cases hf : slsNCNs.find? (fun slsNCN => ncn.xname = slsNCN.xname) with
    | some slsNCN =>
      have hin : inSLS slsNCNs ncn = true := List.find?_isSome.1 (by simp [hf]) |>.elim
        fun s hs => List.any_eq_true.2 ⟨s, hs⟩
      simp only [List.takeWhile_cons, List.dropWhile_cons, hin, if_true, List.map_cons,
        mergeNCNs_eq slsNCNs ncns, mergeWith, hf, List.cons_append]
    | none =>
      have hin : inSLS slsNCNs ncn = false := by
        simpa [inSLS, List.find?_eq_none] using hf
      simp [List.takeWhile_cons, List.dropWhile_cons, hin]

example :
    mergeNCNs [{ xname := "x1" }, { xname := "x2" }, { xname := "x3" }]
        [{ xname := "x1", hostname := "ncn-m001" }, { xname := "x3", hostname := "ncn-w001" }] =
      ([{ xname := "x1", hostname := "ncn-m001" }, { xname := "x2" }, { xname := "x3" }],
        some "failed to find NCN from ncn-metadata in generated SLS State: x2") := by
  decide

/-! ## `updateReservations` -/

/-- One turn of the inner loop of `updateReservations`: a reservation whose comment is the
NCN's xname takes its hostname and the time aliases of the network (and the xname itself on
the NMN, `rgw-vip.hmn` for a storage NCN on the HMN); one whose comment is the xname of the
NCN's BMC (`<xname>-mgmt`) takes its own name as comment and the alias `<hostname>-mgmt`. -/
def ncnStep (lower : Char → Char) (netName : String) (reservation : IPReservation)
    (ncn : LogicalNCN) : IPReservation :=
  let net := toLower lower netName
  let r :=
    if reservation.comment = ncn.xname then
      let aliases := reservation.aliases ++
        [ncn.hostname ++ "-" ++ net, "time-" ++ net, "time-" ++ net ++ ".local"]
      let aliases :=
        if toLower lower ncn.subrole = "storage" ∧ net = "hmn" then aliases ++ ["rgw-vip.hmn"]
        else aliases
      let aliases := if net = "nmn" then aliases ++ [ncn.xname] else aliases
      { reservation with name := ncn.hostname, aliases }
    else reservation
  if r.comment = ncn.xname ++ "-mgmt" then
    { r with comment := r.name, aliases := r.aliases ++ [ncn.hostname ++ "-mgmt"] }
  else r

/-- `updateReservations`: every reservation, in turn, goes through the NCNs in order, and on
the NMN takes the alias `<name>.local` afterwards. The loop writes each reservation back at
its own index only. -/
def updateReservations (lower : Char → Char) (tempSubnet : IPV4Subnet)
    (logicalNcns : List LogicalNCN) : IPV4Subnet :=
  { tempSubnet with
    ipReservations := tempSubnet.ipReservations.map fun reservation =>
      let r := logicalNcns.foldl (ncnStep lower tempSubnet.netName) reservation
      if tempSubnet.netName = "NMN" then { r with aliases := r.aliases ++ [r.name ++ ".local"] }
      else r }

@[simp] theorem ipAddress_ncnStep (lower : Char → Char) (netName : String) (r : IPReservation)
    (ncn : LogicalNCN) : (ncnStep lower netName r ncn).ipAddress = r.ipAddress := by
  simp only [ncnStep]
  split_ifs <;> rfl

theorem ipAddress_foldl_ncnStep (lower : Char → Char) (netName : String) :
    ∀ (ncns : List LogicalNCN) (r : IPReservation),
      (ncns.foldl (ncnStep lower netName) r).ipAddress = r.ipAddress
  | [], _ => rfl
  | ncn :: ncns, r => by
    rw [List.foldl_cons, ipAddress_foldl_ncnStep lower netName ncns, ipAddress_ncnStep]

/-- `updateReservations` moves no reservation. -/
theorem reservedIPs_updateReservations (lower : Char → Char) (s : IPV4Subnet)
    (ncns : List LogicalNCN) : (updateReservations lower s ncns).reservedIPs = s.reservedIPs := by
  simp only [updateReservations, IPV4Subnet.reservedIPs, List.map_map]
  refine List.map_congr_left fun r _ => ?_
  simp only [Function.comp_apply]
  split <;> exact ipAddress_foldl_ncnStep lower s.netName ncns r

/-- `UpdateDHCPRange` reads the reservations only through their addresses. -/
theorem updateDHCPRange_of_reservedIPs_eq {s : IPV4Subnet} {rs : List IPReservation}
    (h : rs.map (·.ipAddress) = s.reservedIPs) (b : Bool) :
    ({ s with ipReservations := rs } : IPV4Subnet).updateDHCPRange b =
      (s.updateDHCPRange b).map fun s' => { s' with ipReservations := rs } := by
  have hr : ({ s with ipReservations := rs } : IPV4Subnet).reservedIPs = s.reservedIPs := h
  have hu : ({ s with ipReservations := rs } : IPV4Subnet).usableHostAddresses =
      s.usableHostAddresses := rfl
  rw [IPV4Subnet.updateDHCPRange, IPV4Subnet.updateDHCPRange, hr, hu]
  by_cases hc : s.reservedIPs.length > s.usableHostAddresses
  · rw [if_pos hc, if_pos hc]
    rfl
  · rw [if_neg hc, if_neg hc]
    dsimp only
    cases IPV4Subnet.advance s.reservedIPs (2 ^ 32) (Ipam.add s.cidr.ip (s.reservedIPs.length + 2))
      (Ipam.add s.cidr.ip (s.reservedIPs.length + 2)) <;> rfl

/-- **`updateReservations` leaves the DHCP range as it was.** `UpdateDHCPRange` after
`updateReservations` fails exactly when it fails before it, with the same message, and
otherwise sets the same `DHCPStart` and `DHCPEnd`. -/
theorem updateDHCPRange_after_updateReservations (lower : Char → Char) (s : IPV4Subnet)
    (ncns : List LogicalNCN) (b : Bool) :
    (updateReservations lower s ncns).updateDHCPRange b =
      (s.updateDHCPRange b).map fun s' =>
        { s' with ipReservations := (updateReservations lower s ncns).ipReservations } :=
  updateDHCPRange_of_reservedIPs_eq (reservedIPs_updateReservations lower s ncns) b

end CsiNetwork
