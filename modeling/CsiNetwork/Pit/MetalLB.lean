import CsiNetwork.Csi.Network
import CsiNetwork.Csi.Switches

/-!
# The MetalLB peers and address pools

`WriteMetalLBConfigMap` fills the configuration it writes to `metallb.yaml` in one loop over
the map of networks: the reservations of the NMN `network_hardware` subnet become BGP peers
for the spine and aggregation switches they belong to, the `cmn-switch` reservations of the
CMN `bootstrap_dhcp` subnet become peers of the kind `bgp-peers` names, and the MetalLB
subnets fill the address pools. Go visits a map in an order of its own, which changes from
run to run, so the model takes the networks as a list in the order they are visited.

Every network adds the same peers and pool assignments whatever the loop did before it
(`networkBody_eq`). Hence the order changes nothing but the order of the peers
(`metalLBConfig_perm`): in every order the call aborts with the same message, or yields the
same peers up to order and the same address pools, provided no two networks hold a subnet
named after the same pool.
-/

namespace CsiNetwork

/-- `strings.Contains`: whether `substr` occurs in `s`. -/
def stringsContains (s substr : String) : Bool :=
  s.data.tails.any fun t => substr.data.isPrefixOf t

/-- `PeerDetail`. -/
structure PeerDetail where
  network : String
  ipAddress : String
  peerASN : String
  myASN : String
deriving DecidableEq, Repr

/-- `MetalLBConfigMap`; the Go map `Networks` from pool names to address ranges is a
function. -/
structure MetalLBConfigMap where
  aggSwitches : List PeerDetail := []
  peerSwitches : List PeerDetail := []
  spineSwitches : List PeerDetail := []
  networks : String → Option String := fun _ => none

/-- `metalLBLookupTable`: the pool each MetalLB subnet fills. -/
def metalLBLookupTable : List (String × String) :=
  [("nmn_metallb_address_pool", "node-management"),
    ("hmn_metallb_address_pool", "hardware-management"),
    ("hsn_metallb_address_pool", "high-speed")]

/-- The assignments `configStruct.Networks[k] = x`, in order. -/
def assignAll (m : String → Option String) (ws : List (String × String)) :
    String → Option String :=
  ws.foldl (fun m w => Function.update m w.1 (some w.2)) m

/-- The peer `tmpPeer` a reservation gives. -/
def PeerDetail.ofReservation (network peerASN myASN : String) (r : IPReservation) :
    PeerDetail :=
  { network, ipAddress := r.ipAddress.toString, peerASN, myASN }

section Loop

variable (v : String → String) (bgpPeers : String)
  (spineSwitchXnames aggSwitchXnames : List String) (name : String)

/-- One reservation of the NMN `network_hardware` subnet: its peer is appended to the spine
peers once for each spine xname equal to its comment, then to the aggregation peers likewise. -/
def nmnReservation (c : MetalLBConfigMap) (reservation : IPReservation) : MetalLBConfigMap :=
  let tmpPeer := PeerDetail.ofReservation name (v "bgp-asn") (v "bgp-asn") reservation
  let c := spineSwitchXnames.foldl (fun c switchXname =>
    if reservation.comment = switchXname then
      { c with spineSwitches := c.spineSwitches ++ [tmpPeer] }
    else c) c
  aggSwitchXnames.foldl (fun c switchXname =>
    if reservation.comment = switchXname then
      { c with aggSwitches := c.aggSwitches ++ [tmpPeer] }
    else c) c

/-- The text of the `log.Fatalf` for an unknown `bgp-peers`. -/
def unrecognizedOption : Abort := .fatal ("bgp-peers: unrecognized option: " ++ bgpPeers ++ "\n")

/-- One reservation of the CMN `bootstrap_dhcp` subnet: a `cmn-switch` reservation is a peer
of the kind `bgp-peers` names, and any other kind is fatal. -/
def cmnReservation (c : MetalLBConfigMap) (reservation : IPReservation) :
    Except Abort MetalLBConfigMap :=
  if stringsContains reservation.name "cmn-switch" then
    let tmpPeer := PeerDetail.ofReservation name (v "bgp-asn") (v "bgp-cmn-asn") reservation
    if bgpPeers = "spine" then .ok { c with spineSwitches := c.spineSwitches ++ [tmpPeer] }
    else if bgpPeers = "aggregation" then .ok { c with aggSwitches := c.aggSwitches ++ [tmpPeer] }
    else .error (unrecognizedOption bgpPeers)
  else .ok c

/-- The assignments to the pool map one subnet makes: its pool when it is a MetalLB subnet of
the table, then the customer pools from the flags, those of CAN and CHN only when set. -/
def poolAssignments (subnet : IPV4Subnet) : List (String × String) :=
  (if stringsContains subnet.name "metallb" then
    match metalLBLookupTable.lookup subnet.name with
    | some val => [(val, subnet.cidr.toString)]
    | none => []
  else []) ++
    [("customer-management-static", v "cmn-static-pool"),
      ("customer-management", v "cmn-dynamic-pool")] ++
    (if v "can-static-pool" ≠ "" then [("customer-access-static", v "can-static-pool")]
      else []) ++
    (if v "can-dynamic-pool" ≠ "" then [("customer-access", v "can-dynamic-pool")] else []) ++
    (if v "chn-static-pool" ≠ "" then [("customer-high-speed-static", v "chn-static-pool")]
      else []) ++
    (if v "chn-dynamic-pool" ≠ "" then [("customer-high-speed", v "chn-dynamic-pool")] else [])

/-- The body of the loop over the subnets of the network `name`. -/
def subnetBody (c : MetalLBConfigMap) (subnet : IPV4Subnet) : Except Abort MetalLBConfigMap := do
  let c := if name = "NMN" ∧ subnet.name = "network_hardware" then
      subnet.ipReservations.foldl (nmnReservation v spineSwitchXnames aggSwitchXnames name) c
    else c
  let c ← if name = "CMN" ∧ subnet.name = "bootstrap_dhcp" then
      subnet.ipReservations.foldlM (cmnReservation v bgpPeers name) c
    else pure c
  pure { c with networks := assignAll c.networks (poolAssignments v subnet) }

/-- The body of the loop over the networks, for the network `name`. -/
def networkBody (c : MetalLBConfigMap) (network : IPV4Network) : Except Abort MetalLBConfigMap :=
  network.subnets.foldlM (subnetBody v bgpPeers spineSwitchXnames aggSwitchXnames name) c

end Loop

/-- `getMetalLBPeerSwitches`: the peers of the kind `bgp-peers` names, fatal when there are
none or the kind is unknown. -/
def getMetalLBPeerSwitches (bgpPeers : String) (configStruct : MetalLBConfigMap) :
    Except Abort (List PeerDetail) :=
  match [("spine", configStruct.spineSwitches),
      ("aggregation", configStruct.aggSwitches)].lookup bgpPeers with
  | some peerSwitches =>
    if peerSwitches.isEmpty then
      .error (.fatal ("bgp-peers: " ++ bgpPeers ++
        " specified but none defined in switch_metadata.csv\n"))
    else .ok (configStruct.peerSwitches ++ peerSwitches)
  | none => .error (unrecognizedOption bgpPeers)

/-- The configuration `WriteMetalLBConfigMap` writes, with the networks of the map visited in
the order of `networks`; `v` is `v.GetString`. -/
def metalLBConfig (v : String → String) (networks : List (String × IPV4Network))
    (switches : List ManagementSwitch) : Except Abort MetalLBConfigMap := do
  let bgpPeers := v "bgp-peers"
  let spineSwitchXnames := (switches.filter (·.switchType = .spine)).map (·.xname)
  let aggSwitchXnames := (switches.filter (·.switchType = .aggregation)).map (·.xname)
  let configStruct ← networks.foldlM (fun c entry =>
    networkBody v bgpPeers spineSwitchXnames aggSwitchXnames entry.1 c entry.2) {}
  let peerSwitches ← getMetalLBPeerSwitches bgpPeers configStruct
  pure { configStruct with peerSwitches }

/-! ## What each part of the loop adds -/

/-- What a part of the loop adds to the configuration: peers at the end of each list, and
assignments to the pool map. -/
structure Added where
  spines : List PeerDetail := []
  aggs : List PeerDetail := []
  assignments : List (String × String) := []

/-- The parts added one after the other. -/
def Added.join (as : List Added) : Added :=
  ⟨as.flatMap (·.spines), as.flatMap (·.aggs), as.flatMap (·.assignments)⟩

/-- The configuration with `a` added. -/
def MetalLBConfigMap.add (c : MetalLBConfigMap) (a : Added) : MetalLBConfigMap :=
  { c with
    spineSwitches := c.spineSwitches ++ a.spines
    aggSwitches := c.aggSwitches ++ a.aggs
    networks := assignAll c.networks a.assignments }

theorem assignAll_append (m : String → Option String) (ws ws' : List (String × String)) :
    assignAll m (ws ++ ws') = assignAll (assignAll m ws) ws' := List.foldl_append _ _ _ _

@[simp] theorem add_empty (c : MetalLBConfigMap) : c.add {} = c := by
  cases c
  simp [MetalLBConfigMap.add, assignAll]

@[simp] theorem add_join_nil (c : MetalLBConfigMap) : c.add (Added.join []) = c := add_empty c

/-- Setting only the pool map is adding assignments. -/
theorem add_assignments (c : MetalLBConfigMap) (ws : List (String × String)) :
    { c with networks := assignAll c.networks ws } = c.add { assignments := ws } := by
  simp [MetalLBConfigMap.add]

theorem add_join_cons (c : MetalLBConfigMap) (a : Added) (as : List Added) :
    c.add (Added.join (a :: as)) = (c.add a).add (Added.join as) := by
  simp [MetalLBConfigMap.add, Added.join, assignAll_append]

section Folds

variable {α : Type} {d : α → Added}

/-- A loop whose body adds what its item gives, whatever the configuration, adds the parts of
its items one after the other. -/
theorem foldl_eq_add {f : MetalLBConfigMap → α → MetalLBConfigMap}
    (h : ∀ c x, f c x = c.add (d x)) :
    ∀ (l : List α) (c : MetalLBConfigMap), l.foldl f c = c.add (Added.join (l.map d))
  | [], c => (add_join_nil c).symm
  | x :: l, c => by rw [List.foldl_cons, h, foldl_eq_add h l, List.map_cons, add_join_cons]

/-- The same for a body that may abort, always with the same error, on items given by `bad`. -/
theorem foldlM_eq_add {f : MetalLBConfigMap → α → Except Abort MetalLBConfigMap}
    {bad : α → Bool} {e : Abort}
    (h : ∀ c x, f c x = if bad x then .error e else .ok (c.add (d x))) :
    ∀ (l : List α) (c : MetalLBConfigMap),
      l.foldlM f c = if l.any bad then .error e else .ok (c.add (Added.join (l.map d)))
  | [], c => by rw [List.foldlM_nil, List.any_nil, List.map_nil, add_join_nil]; rfl
  | x :: l, c => by
    rw [List.foldlM_cons, h, List.any_cons, List.map_cons, add_join_cons]
    cases bad x
    · exact foldlM_eq_add h l (c.add (d x))
    · rfl

end Folds

section Parts

variable (v : String → String) (bgpPeers : String)
  (spineSwitchXnames aggSwitchXnames : List String) (name : String)

/-- What one NMN reservation adds. -/
def nmnAdded (r : IPReservation) : Added :=
  let tmpPeer := PeerDetail.ofReservation name (v "bgp-asn") (v "bgp-asn") r
  { spines := spineSwitchXnames.flatMap fun x => if r.comment = x then [tmpPeer] else []
    aggs := aggSwitchXnames.flatMap fun x => if r.comment = x then [tmpPeer] else [] }

/-- Whether a CMN reservation aborts: a `cmn-switch` with an unknown `bgp-peers`. -/
def cmnAborts (r : IPReservation) : Bool :=
  stringsContains r.name "cmn-switch" && !(bgpPeers = "spine" || bgpPeers = "aggregation")

/-- What one CMN reservation adds when it does not abort. -/
def cmnAdded (r : IPReservation) : Added :=
  if stringsContains r.name "cmn-switch" then
    let tmpPeer := PeerDetail.ofReservation name (v "bgp-asn") (v "bgp-cmn-asn") r
    if bgpPeers = "spine" then { spines := [tmpPeer] }
    else { aggs := [tmpPeer] }
  else {}

/-- Whether a subnet of the network `name` aborts. -/
def subnetAborts (subnet : IPV4Subnet) : Bool :=
  decide (name = "CMN" ∧ subnet.name = "bootstrap_dhcp") &&
    subnet.ipReservations.any (cmnAborts bgpPeers)

/-- What one subnet of the network `name` adds when it does not abort. -/
def subnetAdded (subnet : IPV4Subnet) : Added :=
  Added.join
    [if name = "NMN" ∧ subnet.name = "network_hardware" then
        Added.join (subnet.ipReservations.map (nmnAdded v spineSwitchXnames aggSwitchXnames name))
      else {},
      if name = "CMN" ∧ subnet.name = "bootstrap_dhcp" then
        Added.join (subnet.ipReservations.map (cmnAdded v bgpPeers name))
      else {},
      { assignments := poolAssignments v subnet }]

/-- Whether the network `name` aborts. -/
def networkAborts (network : IPV4Network) : Bool :=
  network.subnets.any (subnetAborts bgpPeers name)

/-- What the network `name` adds when it does not abort. -/
def networkAdded (network : IPV4Network) : Added :=
  Added.join (network.subnets.map (subnetAdded v bgpPeers spineSwitchXnames aggSwitchXnames name))

theorem foldl_spineSwitches (r : IPReservation) (p : PeerDetail) :
    ∀ (xs : List String) (c : MetalLBConfigMap),
      xs.foldl (fun c x => if r.comment = x then { c with spineSwitches := c.spineSwitches ++ [p] }
        else c) c = { c with spineSwitches := c.spineSwitches ++ xs.flatMap fun x =>
          if r.comment = x then [p] else [] }
  | [], c => by simp
  | x :: xs, c => by
    rw [List.foldl_cons, foldl_spineSwitches r p xs]
    by_cases hx : r.comment = x <;> simp [hx]

theorem foldl_aggSwitches (r : IPReservation) (p : PeerDetail) :
    ∀ (xs : List String) (c : MetalLBConfigMap),
      xs.foldl (fun c x => if r.comment = x then { c with aggSwitches := c.aggSwitches ++ [p] }
        else c) c = { c with aggSwitches := c.aggSwitches ++ xs.flatMap fun x =>
          if r.comment = x then [p] else [] }
  | [], c => by simp
  | x :: xs, c => by
    rw [List.foldl_cons, foldl_aggSwitches r p xs]
    by_cases hx : r.comment = x <;> simp [hx]

theorem nmnReservation_eq (c : MetalLBConfigMap) (r : IPReservation) :
    nmnReservation v spineSwitchXnames aggSwitchXnames name c r =
      c.add (nmnAdded v spineSwitchXnames aggSwitchXnames name r) := by
  simp only [nmnReservation, foldl_spineSwitches, foldl_aggSwitches]
  simp [MetalLBConfigMap.add, nmnAdded, assignAll]

theorem cmnReservation_eq (c : MetalLBConfigMap) (r : IPReservation) :
    cmnReservation v bgpPeers name c r =
      if cmnAborts bgpPeers r then .error (unrecognizedOption bgpPeers)
      else .ok (c.add (cmnAdded v bgpPeers name r)) := by
  unfold cmnReservation cmnAborts cmnAdded
  split_ifs <;> simp_all [MetalLBConfigMap.add, assignAll]

theorem subnetBody_eq (c : MetalLBConfigMap) (subnet : IPV4Subnet) :
    subnetBody v bgpPeers spineSwitchXnames aggSwitchXnames name c subnet =
      if subnetAborts bgpPeers name subnet then .error (unrecognizedOption bgpPeers)
      else .ok (c.add (subnetAdded v bgpPeers spineSwitchXnames aggSwitchXnames name subnet)) := by
  have hnmn := foldl_eq_add (nmnReservation_eq v spineSwitchXnames aggSwitchXnames name)
  have hcmn := foldlM_eq_add (cmnReservation_eq v bgpPeers name)
  simp only [subnetBody, subnetAborts, subnetAdded, add_join_cons, add_join_nil]
  by_cases hc : name = "CMN" ∧ subnet.name = "bootstrap_dhcp"
  · have hn : ¬(name = "NMN" ∧ subnet.name = "network_hardware") := fun hn =>
      absurd (hn.1.symm.trans hc.1) (by decide)
    simp only [if_neg hn, if_pos hc, hcmn, decide_eq_true hc, Bool.true_and, add_empty]
    cases subnet.ipReservations.any (cmnAborts bgpPeers)
    · exact congrArg Except.ok (add_assignments _ _)
    · rfl
  · simp only [if_neg hc, decide_eq_false hc, Bool.false_and]
    split
    · rw [hnmn, add_empty]
      exact congrArg Except.ok (add_assignments _ _)
    · rw [add_empty, add_empty]
      exact congrArg Except.ok (add_assignments _ _)

/-- **Each network adds the same whatever came before it.** The loop over the subnets of a
network aborts, with the same message, or adds the peers and pool assignments of the network,
independently of the configuration it starts from. -/
theorem networkBody_eq (c : MetalLBConfigMap) (network : IPV4Network) :
    networkBody v bgpPeers spineSwitchXnames aggSwitchXnames name c network =
      if networkAborts bgpPeers name network then .error (unrecognizedOption bgpPeers)
      else .ok (c.add (networkAdded v bgpPeers spineSwitchXnames aggSwitchXnames name network)) :=
  foldlM_eq_add (subnetBody_eq v bgpPeers spineSwitchXnames aggSwitchXnames name) _ c

end Parts

/-! ## Every order of the networks -/

/-- The loop over the networks adds what each network adds, in the order they are visited. -/
theorem foldlM_networkBody_eq (v : String → String) (bgpPeers : String)
    (spineSwitchXnames aggSwitchXnames : List String) (l : List (String × IPV4Network))
    (c : MetalLBConfigMap) :
    l.foldlM (fun c entry =>
        networkBody v bgpPeers spineSwitchXnames aggSwitchXnames entry.1 c entry.2) c =
      if l.any (fun entry => networkAborts bgpPeers entry.1 entry.2) then
        .error (unrecognizedOption bgpPeers)
      else .ok (c.add (Added.join (l.map fun entry =>
        networkAdded v bgpPeers spineSwitchXnames aggSwitchXnames entry.1 entry.2))) :=
  foldlM_eq_add (fun c entry =>
    networkBody_eq v bgpPeers spineSwitchXnames aggSwitchXnames entry.1 c entry.2) l c

theorem any_eq_of_perm {α : Type} {l₁ l₂ : List α} (hp : l₁.Perm l₂) (p : α → Bool) :
    l₁.any p = l₂.any p :=
  Bool.eq_iff_iff.2 <| by simp only [List.any_eq_true, hp.mem_iff]

/-! ### The pool map -/

/-- After assignments that never set `k`, the pool map at `k` is what it was. -/
theorem assignAll_apply_of_not_mem {k : String} :
    ∀ {ws : List (String × String)}, (¬∃ x, (k, x) ∈ ws) →
      ∀ m : String → Option String, assignAll m ws k = m k
  | [], _, _ => rfl
  | w :: ws, h, m => by
    have hw : w.1 ≠ k := fun hk => h ⟨w.2, by rw [← hk]; exact List.mem_cons_self _ _⟩
    rw [assignAll, List.foldl_cons, ← assignAll,
      assignAll_apply_of_not_mem (fun ⟨x, hx⟩ => h ⟨x, List.mem_cons_of_mem _ hx⟩),
      Function.update_noteq hw.symm]

/-- After assignments that set `k`, the pool map at `k` is the value of one of them, whatever
it was before. -/
theorem assignAll_apply_of_mem {k : String} :
    ∀ {ws : List (String × String)}, (∃ x, (k, x) ∈ ws) →
      ∃ x, (k, x) ∈ ws ∧ ∀ m : String → Option String, assignAll m ws k = some x
  | [], ⟨_, h⟩ => absurd h (List.not_mem_nil _)
  | w :: ws, ⟨x, hx⟩ => by
    by_cases hws : ∃ x, (k, x) ∈ ws
    · obtain ⟨y, hy, h⟩ := assignAll_apply_of_mem hws
      exact ⟨y, List.mem_cons_of_mem _ hy, fun m => h _⟩
    · have hw : w = (k, x) := by
        rcases List.mem_cons.1 hx with h | h
        · exact h.symm
        · exact absurd ⟨x, h⟩ hws
      subst hw
      refine ⟨x, List.mem_cons_self _ _, fun m => ?_⟩
      rw [assignAll, List.foldl_cons, ← assignAll, assignAll_apply_of_not_mem hws,
        Function.update_same]

/-- Two runs of assignments commute when they give the same value to every name both set. -/
theorem assignAll_comm {ws₁ ws₂ : List (String × String)}
    (h : ∀ w₁ ∈ ws₁, ∀ w₂ ∈ ws₂, w₁.1 = w₂.1 → w₁.2 = w₂.2)
    (m : String → Option String) :
    assignAll (assignAll m ws₁) ws₂ = assignAll (assignAll m ws₂) ws₁ := by
  funext k
  by_cases h₁ : ∃ x, (k, x) ∈ ws₁ <;> by_cases h₂ : ∃ x, (k, x) ∈ ws₂
  · obtain ⟨x₁, hx₁, e₁⟩ := assignAll_apply_of_mem h₁
    obtain ⟨x₂, hx₂, e₂⟩ := assignAll_apply_of_mem h₂
    rw [e₁, e₂]
    exact congrArg some (h _ hx₁ _ hx₂ rfl).symm
  · obtain ⟨x₁, -, e₁⟩ := assignAll_apply_of_mem h₁
    rw [e₁, assignAll_apply_of_not_mem h₂, e₁]
  · obtain ⟨x₂, -, e₂⟩ := assignAll_apply_of_mem h₂
    rw [e₂, assignAll_apply_of_not_mem h₁, e₂]
  · simp only [assignAll_apply_of_not_mem h₁, assignAll_apply_of_not_mem h₂]

/-- The customer pools, each with the value of the flag it comes from. -/
def customerPools (v : String → String) : List (String × String) :=
  [("customer-management-static", v "cmn-static-pool"),
    ("customer-management", v "cmn-dynamic-pool"),
    ("customer-access-static", v "can-static-pool"), ("customer-access", v "can-dynamic-pool"),
    ("customer-high-speed-static", v "chn-static-pool"),
    ("customer-high-speed", v "chn-dynamic-pool")]

/-- A subnet assigns its own pool, or a customer pool from its flag. -/
theorem mem_poolAssignments {v : String → String} {subnet : IPV4Subnet} {w : String × String}
    (hw : w ∈ poolAssignments v subnet) :
    (∃ val, (subnet.name, val) ∈ metalLBLookupTable ∧ w = (val, subnet.cidr.toString)) ∨
      w ∈ customerPools v := by
  simp only [poolAssignments, List.mem_append] at hw
  rcases hw with ((((hw | hw) | hw) | hw) | hw) | hw
  · split at hw
    · split at hw
      · obtain ⟨l₁, l₂, hl, -⟩ := List.lookup_eq_some_iff.1 ‹_›
        exact .inl ⟨_, hl ▸ List.mem_append_right _ (List.mem_cons_self _ _),
          List.mem_singleton.1 hw⟩
      · cases hw
    · cases hw
  · right
    simp only [List.mem_cons, List.mem_singleton, List.not_mem_nil, or_false] at hw
    rcases hw with rfl | rfl <;> simp [customerPools]
  all_goals
    right
    split_ifs at hw <;> simp_all [customerPools]

theorem eq_of_mem_customerPools {v : String → String} {k x₁ x₂ : String}
    (h₁ : (k, x₁) ∈ customerPools v) (h₂ : (k, x₂) ∈ customerPools v) :
    x₁ = x₂ := by
  simp only [customerPools, List.mem_cons, Prod.mk.injEq, List.not_mem_nil, or_false] at h₁ h₂
  rcases h₁ with ⟨rfl, rfl⟩ | ⟨rfl, rfl⟩ | ⟨rfl, rfl⟩ | ⟨rfl, rfl⟩ | ⟨rfl, rfl⟩ |
    ⟨rfl, rfl⟩ <;> simp_all

theorem not_mem_customerPools {v : String → String} {a val x : String}
    (h : (a, val) ∈ metalLBLookupTable) : (val, x) ∉ customerPools v := by
  simp only [metalLBLookupTable, List.mem_cons, Prod.mk.injEq, List.not_mem_nil, or_false] at h
  rcases h with ⟨-, rfl⟩ | ⟨-, rfl⟩ | ⟨-, rfl⟩ <;> simp [customerPools]

theorem eq_of_mem_metalLBLookupTable {a b val : String} (ha : (a, val) ∈ metalLBLookupTable)
    (hb : (b, val) ∈ metalLBLookupTable) : a = b := by
  simp only [metalLBLookupTable, List.mem_cons, Prod.mk.injEq, List.not_mem_nil, or_false] at ha hb
  rcases ha with ⟨rfl, rfl⟩ | ⟨rfl, rfl⟩ | ⟨rfl, rfl⟩ <;> simp_all

theorem assignments_networkAdded (v : String → String) (bgpPeers : String)
    (spineSwitchXnames aggSwitchXnames : List String) (name : String) (network : IPV4Network) :
    (networkAdded v bgpPeers spineSwitchXnames aggSwitchXnames name network).assignments =
      network.subnets.flatMap (poolAssignments v) := by
  have hsub : ∀ subnet, (subnetAdded v bgpPeers spineSwitchXnames aggSwitchXnames name
      subnet).assignments = poolAssignments v subnet := fun subnet => by
    have hn : ∀ r, (nmnAdded v spineSwitchXnames aggSwitchXnames name r).assignments = [] :=
      fun _ => rfl
    have hc : ∀ r, (cmnAdded v bgpPeers name r).assignments = [] := fun r => by
      unfold cmnAdded
      split_ifs <;> rfl
    have h0 : ∀ l : List IPReservation,
        l.flatMap (fun _ => ([] : List (String × String))) = [] :=
      fun _ => List.flatMap_eq_nil_iff.2 fun _ _ => rfl
    simp only [subnetAdded, Added.join, List.flatMap_cons, List.flatMap_nil, List.append_nil]
    split_ifs <;> simp [Added.join, List.flatMap_map, hn, hc, h0]
  simp only [networkAdded, Added.join, List.flatMap_map, hsub]

/-- Two networks, no two subnets of which are named after the same pool, give the same value
to every pool both assign. -/
theorem poolAssignments_compatible (v : String → String) {n₁ n₂ : IPV4Network}
    (h : ∀ s ∈ n₁.subnets, ∀ s' ∈ n₂.subnets, s.name = s'.name →
      s.name ∉ metalLBLookupTable.map Prod.fst) :
    ∀ w₁ ∈ n₁.subnets.flatMap (poolAssignments v),
      ∀ w₂ ∈ n₂.subnets.flatMap (poolAssignments v), w₁.1 = w₂.1 → w₁.2 = w₂.2 := by
  rintro ⟨k₁, x₁⟩ hw₁ ⟨k₂, x₂⟩ hw₂ (rfl : k₁ = k₂)
  obtain ⟨s₁, hs₁, hw₁⟩ := List.mem_flatMap.1 hw₁
  obtain ⟨s₂, hs₂, hw₂⟩ := List.mem_flatMap.1 hw₂
  rcases mem_poolAssignments hw₁ with ⟨val₁, ht₁, he₁⟩ | hc₁ <;>
    rcases mem_poolAssignments hw₂ with ⟨val₂, ht₂, he₂⟩ | hc₂
  · obtain ⟨rfl, -⟩ := Prod.mk.inj he₁
    obtain ⟨rfl, -⟩ := Prod.mk.inj he₂
    exact absurd (List.mem_map_of_mem Prod.fst ht₁)
      (h s₁ hs₁ s₂ hs₂ (eq_of_mem_metalLBLookupTable ht₁ ht₂))
  · obtain ⟨rfl, -⟩ := Prod.mk.inj he₁
    exact absurd hc₂ (not_mem_customerPools ht₁)
  · obtain ⟨rfl, -⟩ := Prod.mk.inj he₂
    exact absurd hc₁ (not_mem_customerPools ht₂)
  · exact eq_of_mem_customerPools hc₁ hc₂

theorem assignAll_flatMap (m : String → Option String) :
    ∀ as : List Added, assignAll m (as.flatMap (·.assignments)) =
      as.foldl (fun m a => assignAll m a.assignments) m
  | [] => rfl
  | a :: as => by rw [List.flatMap_cons, assignAll_append, List.foldl_cons, assignAll_flatMap]

theorem lookup_peers (bgpPeers : String) (spines aggs : List PeerDetail) :
    [("spine", spines), ("aggregation", aggs)].lookup bgpPeers =
      if bgpPeers = "spine" then some spines
      else if bgpPeers = "aggregation" then some aggs else none := by
  simp only [List.lookup_cons, List.lookup_nil]
  by_cases h₁ : bgpPeers = "spine"
  · subst h₁
    rfl
  · by_cases h₂ : bgpPeers = "aggregation"
    · subst h₂
      rfl
    · simp [beq_eq_false_iff_ne.2 h₁, beq_eq_false_iff_ne.2 h₂, h₁, h₂]

/-- Two outcomes of `WriteMetalLBConfigMap` that differ at most in the order of the peers:
the same abort, or the same peers of each kind up to order and the same address pools. -/
def SameUpToPeerOrder : Except Abort MetalLBConfigMap → Except Abort MetalLBConfigMap → Prop
  | .error e₁, .error e₂ => e₁ = e₂
  | .ok c₁, .ok c₂ =>
    c₁.spineSwitches.Perm c₂.spineSwitches ∧ c₁.aggSwitches.Perm c₂.aggSwitches ∧
      c₁.peerSwitches.Perm c₂.peerSwitches ∧ c₁.networks = c₂.networks
  | _, _ => False

/-- `getMetalLBPeerSwitches` on configurations with the same peers up to order. -/
theorem getMetalLBPeerSwitches_perm (bgpPeers : String) {c₁ c₂ : MetalLBConfigMap}
    (hs : c₁.spineSwitches.Perm c₂.spineSwitches) (ha : c₁.aggSwitches.Perm c₂.aggSwitches)
    (hp : c₁.peerSwitches = c₂.peerSwitches) (hn : c₁.networks = c₂.networks) :
    SameUpToPeerOrder
      (do
        let peerSwitches ← getMetalLBPeerSwitches bgpPeers c₁
        pure { c₁ with peerSwitches })
      (do
        let peerSwitches ← getMetalLBPeerSwitches bgpPeers c₂
        pure { c₂ with peerSwitches }) := by
  have hsel : ∀ {l₁ l₂ : List PeerDetail}, l₁.Perm l₂ → ∀ e : Abort, SameUpToPeerOrder
      ((if l₁.isEmpty then .error e else .ok (c₁.peerSwitches ++ l₁)) >>= fun peerSwitches =>
        pure { c₁ with peerSwitches })
      ((if l₂.isEmpty then .error e else .ok (c₂.peerSwitches ++ l₂)) >>= fun peerSwitches =>
        pure { c₂ with peerSwitches }) := by
    intro l₁ l₂ hl e
    rw [hl.isEmpty_eq]
    cases l₂.isEmpty
    · exact ⟨hs, ha, hp ▸ hl.append_left _, hn⟩
    · exact rfl
  rw [getMetalLBPeerSwitches, getMetalLBPeerSwitches, lookup_peers, lookup_peers]
  split_ifs
  exacts [hsel hs _, hsel ha _, rfl]

/-- **The order of the networks changes only the order of the peers.** For every two orders in
which Go may visit the map of networks, provided no two networks hold subnets of the same
name from the pool table, `WriteMetalLBConfigMap` aborts with the same message in both, or
yields in both the same spine, aggregation and BGP peers up to order and the same address
pools. -/
theorem metalLBConfig_perm (v : String → String) (switches : List ManagementSwitch)
    {l₁ l₂ : List (String × IPV4Network)} (hp : l₁.Perm l₂)
    (hpools : ∀ x ∈ l₁, ∀ y ∈ l₁, x ≠ y →
      ∀ s ∈ x.2.subnets, ∀ s' ∈ y.2.subnets, s.name = s'.name →
        s.name ∉ metalLBLookupTable.map Prod.fst) :
    SameUpToPeerOrder (metalLBConfig v l₁ switches) (metalLBConfig v l₂ switches) := by
  simp only [metalLBConfig, foldlM_networkBody_eq, any_eq_of_perm hp]
  split
  · exact rfl
  · set added := fun entry : String × IPV4Network => networkAdded v (v "bgp-peers")
      ((switches.filter (·.switchType = .spine)).map (·.xname))
      ((switches.filter (·.switchType = .aggregation)).map (·.xname)) entry.1 entry.2
    have hmap := hp.map added
    have hnet : assignAll (fun _ => none) ((l₁.map added).flatMap (·.assignments)) =
        assignAll (fun _ => none) ((l₂.map added).flatMap (·.assignments)) := by
      rw [assignAll_flatMap, assignAll_flatMap]
      refine hmap.foldl_eq' (fun a ha b hb m => ?_) _
      obtain ⟨x, hx, rfl⟩ := List.mem_map.1 ha
      obtain ⟨y, hy, rfl⟩ := List.mem_map.1 hb
      by_cases hxy : x = y
      · rw [hxy]
      · simp only [added, assignments_networkAdded]
        exact assignAll_comm (poolAssignments_compatible v (hpools x hx y hy hxy)) m
    exact getMetalLBPeerSwitches_perm _ ((hmap.flatMap_right _).append_left _)
      ((hmap.flatMap_right _).append_left _) rfl hnet

/-- Flags with BGP peers on the spines and both autonomous systems set. -/
def spinePeerFlags (flag : String) : String :=
  if flag = "bgp-peers" then "spine"
  else if flag = "bgp-asn" then "65533"
  else if flag = "bgp-cmn-asn" then "65534" else ""

/-- An NMN whose `network_hardware` subnet holds a spine switch. -/
def nmnWithSpine : IPV4Network where
  cidr := "10.252.0.0/17"
  subnets := [{
    cidr := ⟨IP.ofOctets 10 252 0 0, cidrMask 24⟩
    name := "network_hardware"
    ipReservations := [{ ipAddress := IP.ofOctets 10 252 0 2, name := "sw-spine-001",
                         comment := "x3000c0h33s1" }] }]

/-- A CMN whose `bootstrap_dhcp` subnet holds a `cmn-switch` reservation. -/
def cmnWithSwitch : IPV4Network where
  cidr := "10.103.6.0/24"
  subnets := [{
    cidr := ⟨IP.ofOctets 10 103 6 0, cidrMask 24⟩
    name := "bootstrap_dhcp"
    ipReservations := [{ ipAddress := IP.ofOctets 10 103 6 2, name := "cmn-switch-1",
                         comment := "" }] }]

/-- The two networks, in one of the orders Go may visit them. -/
def nmnAndCmn : List (String × IPV4Network) := [("NMN", nmnWithSpine), ("CMN", cmnWithSwitch)]

/-- The spine switch of `nmnWithSpine`. -/
def nmnSpine : List ManagementSwitch :=
  [{ xname := "x3000c0h33s1", name := "sw-spine-001", switchType := .spine,
     managementInterface := IP.ofOctets 10 252 0 2 }]

theorem metalLBConfig_perm_nmn_cmn :
    nmnAndCmn.Perm nmnAndCmn.reverse ∧
      (∀ x ∈ nmnAndCmn, ∀ y ∈ nmnAndCmn, x ≠ y →
        ∀ s ∈ x.2.subnets, ∀ s' ∈ y.2.subnets, s.name = s'.name →
          s.name ∉ metalLBLookupTable.map Prod.fst) ∧
      SameUpToPeerOrder (metalLBConfig spinePeerFlags nmnAndCmn nmnSpine)
        (metalLBConfig spinePeerFlags nmnAndCmn.reverse nmnSpine) :=
  ⟨(List.reverse_perm _).symm, by decide,
    metalLBConfig_perm spinePeerFlags nmnSpine (List.reverse_perm _).symm (by decide)⟩

/-- The peers of the NMN and of the CMN come in the order the networks are visited. -/
example :
    (metalLBConfig spinePeerFlags nmnAndCmn nmnSpine).toOption.map
        (·.peerSwitches.map (·.network)) = some ["NMN", "CMN"] ∧
      (metalLBConfig spinePeerFlags nmnAndCmn.reverse nmnSpine).toOption.map
        (·.peerSwitches.map (·.network)) = some ["CMN", "NMN"] := by
  decide

end CsiNetwork
