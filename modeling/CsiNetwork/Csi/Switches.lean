import CsiNetwork.Csi.Reservations

/-!
# The management switches a subnet's reservations describe

`ReserveNetMgmtIPs` registers each management switch as a reservation named after its kind
and position (`sw-spine-001`, `sw-leaf-002`, …) with the switch's xname as the comment. The
SLS generator (`cmd`) reads the switches back from the `network_hardware` subnet with
`extractSwitchesfromReservations`, which types each reservation by the prefix of its name.

The two are inverse (`extractSwitches_reserveNetMgmtIPs`): after `ReserveNetMgmtIPs`, the
switches read back are those read before, followed by one switch per registered spine, leaf,
aggregation and CDU switch, in that order, with the xname it was registered with, its name,
the type its list gives it, and the address reserved for it; the stubs give no switch. This
rests on the name prefixes: `sw-agg-001` does not start with `sw-spine`, whatever follows
(`switchTypesOf_append`).
-/

namespace CsiNetwork

open Ipam

/-- `ManagementSwitchType`. Modelled from its uses: the type is declared in a file of the
package that is not in the sources, and the code here only sets and compares its four
values. -/
inductive ManagementSwitchType where
  | spine
  | aggregation
  | leaf
  | cdu
deriving DecidableEq, Repr

/-- `ManagementSwitch`, with the fields `extractSwitchesfromReservations` sets. Modelled from
its uses, as its type; the other fields (`Brand`, `Model`) are filled in later by the
caller. -/
structure ManagementSwitch where
  xname : String
  name : String
  switchType : ManagementSwitchType
  managementInterface : IP
deriving DecidableEq, Repr

/-- `strings.HasPrefix`, on runes; on valid UTF-8 texts a byte prefix that is itself valid
UTF-8 is a rune prefix. -/
def hasPrefix (s pre : String) : Bool := pre.data.isPrefixOf s.data

/-- The four checks of `extractSwitchesfromReservations`, in order. -/
def switchPrefixes : List (String × ManagementSwitchType) :=
  [("sw-spine", .spine), ("sw-agg", .aggregation), ("sw-leaf", .leaf), ("sw-cdu", .cdu)]

/-- The types of the checks a name passes, in order. -/
def switchTypesOf (name : String) : List ManagementSwitchType :=
  (switchPrefixes.filter fun p => hasPrefix name p.1).map (·.2)

/-- The switches one reservation describes: one per check its name passes (the checks are
independent `if`s), with the comment as xname and the reserved address as management
interface. -/
def reservationSwitches (r : IPReservation) : List ManagementSwitch :=
  (switchTypesOf r.name).map fun t =>
    { xname := r.comment, name := r.name, switchType := t, managementInterface := r.ipAddress }

/-- `extractSwitchesfromReservations`: the switches of the reservations, in order. The error
it returns is always nil. -/
def extractSwitchesfromReservations (s : IPV4Subnet) : List ManagementSwitch :=
  s.ipReservations.flatMap reservationSwitches

/-- The switch with a planned (xname, name, type) and a management interface. -/
def ManagementSwitch.ofPlan (p : String × String × ManagementSwitchType) (ip : IP) :
    ManagementSwitch :=
  { xname := p.1, name := p.2.1, switchType := p.2.2, managementInterface := ip }

namespace IPV4Subnet

/-- The switches `ReserveNetMgmtIPs` registers, as (xname, name, type), in order: spine, leaf,
aggregation and CDU switches. -/
def switchPlan (spines leafs aggs cdus : List String) :
    List (String × String × ManagementSwitchType) :=
  let plan := fun (pre : String) (t : ManagementSwitchType) (xs : List String) =>
    (mgmtRequests pre xs).map fun q => (q.2, q.1, t)
  plan "sw-spine-" .spine spines ++ plan "sw-leaf-" .leaf leafs ++
    plan "sw-agg-" .aggregation aggs ++ plan "sw-cdu-" .cdu cdus

end IPV4Subnet

/-! ## Prefixes -/

/-- What follows `p` does not matter to whether `p ++ x` starts with `pre`, when `pre` is no
longer than `p` or diverges from it. -/
theorem hasPrefix_append {p pre : String} (x : String)
    (h : pre.data.length ≤ p.data.length ∨ p.data.isPrefixOf pre.data = false) :
    hasPrefix (p ++ x) pre = hasPrefix p pre := by
  rw [hasPrefix, hasPrefix, String.data_append, Bool.eq_iff_iff, List.isPrefixOf_iff_prefix,
    List.isPrefixOf_iff_prefix]
  refine ⟨fun hq => ?_, fun hq => hq.trans (List.prefix_append _ _)⟩
  rcases le_or_lt pre.data.length p.data.length with hl | hl
  · rw [List.prefix_iff_eq_take] at hq ⊢
    rwa [List.take_append_of_le_length hl] at hq
  · have hp := List.isPrefixOf_iff_prefix.2
      (List.prefix_of_prefix_length_le (List.prefix_append _ _) hq hl.le)
    rw [h.resolve_left (by omega)] at hp
    exact absurd hp Bool.false_ne_true

theorem switchTypesOf_append {p : String} (x : String)
    (h : ∀ q ∈ switchPrefixes,
      q.1.data.length ≤ p.data.length ∨ p.data.isPrefixOf q.1.data = false) :
    switchTypesOf (p ++ x) = switchTypesOf p := by
  unfold switchTypesOf
  rw [List.filter_congr fun q hq => hasPrefix_append x (h q hq)]

namespace IPV4Subnet

/-! ## The round trip -/

/-- Plain calls append one reservation per request, with its name and comment. -/
theorem ipReservations_runCalls_addCalls (reqs : List (String × String)) :
    ∀ s : IPV4Subnet, ∃ rs : List IPReservation,
      (runCalls s (addCalls reqs)).ipReservations = s.ipReservations ++ rs ∧
      rs.map (fun r => (r.name, r.comment)) = reqs := by
  induction reqs with
  | nil => exact fun s => ⟨[], by simp [runCalls, addCalls]⟩
  | cons q qs ih =>
    intro s
    obtain ⟨rs, hrs, hmap⟩ := ih (ReservationCall.apply s (.addReservation q.1 q.2))
    refine ⟨⟨skipReserved (add s.cidr.ip 2) s.reservedIPs, q.1, q.2, []⟩ :: rs, ?_,
      by simp [hmap]⟩
    simpa [runCalls, addCalls, ReservationCall.apply, addReservation_eq] using hrs

theorem mem_mgmtRequests {pre : String} {xs : List String} {q : String × String}
    (h : q ∈ mgmtRequests pre xs) : ∃ k, q.1 = pre ++ pad3 k := by
  obtain ⟨ic, -, rfl⟩ := List.mem_map.1 h
  exact ⟨_, rfl⟩

/-- The reservations of one kind of switch give one switch each, of that kind, in order. -/
theorem flatMap_reservationSwitches_of_kind {pre : String} {t : ManagementSwitchType}
    (hpre : ∀ q ∈ switchPrefixes,
      q.1.data.length ≤ pre.data.length ∨ pre.data.isPrefixOf q.1.data = false)
    (ht : switchTypesOf pre = [t]) (xs : List String) (rs : List IPReservation)
    (h : rs.map (fun r => (r.name, r.comment)) = mgmtRequests pre xs) :
    rs.flatMap reservationSwitches =
      List.zipWith (fun p r => ManagementSwitch.ofPlan p r.ipAddress)
        ((mgmtRequests pre xs).map fun q => (q.2, q.1, t)) rs := by
  have hmem : ∀ r ∈ rs, switchTypesOf r.name = [t] := fun r hr => by
    obtain ⟨k, hk⟩ := mem_mgmtRequests (h ▸ List.mem_map_of_mem _ hr)
    rw [show r.name = pre ++ pad3 k from hk, switchTypesOf_append _ hpre, ht]
  rw [← h]
  clear h
  induction rs with
  | nil => rfl
  | cons r rs ih =>
    simp [reservationSwitches, hmem r (List.mem_cons_self _ _), ManagementSwitch.ofPlan,
      ih fun r hr => hmem r (List.mem_cons_of_mem _ hr)]

/-- The stubs give no switch. -/
theorem flatMap_reservationSwitches_stubs (xs : List String) (rs : List IPReservation)
    (h : rs.map (fun r => (r.name, r.comment)) = mgmtRequests "mgmt-net-stub-" xs) :
    rs.flatMap reservationSwitches = [] := by
  refine List.flatMap_eq_nil_iff.2 fun r hr => ?_
  obtain ⟨k, hk⟩ := mem_mgmtRequests (h ▸ List.mem_map_of_mem _ hr)
  rw [reservationSwitches, show r.name = "mgmt-net-stub-" ++ pad3 k from hk,
    switchTypesOf_append _ (by decide)]
  rfl

/-- **Reading back the switches `ReserveNetMgmtIPs` registers.** The call appends one
reservation per entry of its plan, and the switches read from the subnet afterwards are those
read before, followed by the planned switches, each with the address of the reservation made
for it: the xname, name and type it was registered with, in order, and no switch for a
stub. -/
theorem extractSwitches_reserveNetMgmtIPs (s : IPV4Subnet) (spines leafs aggs cdus : List String)
    (additional : Int) :
    ∃ rs : List IPReservation,
      (s.reserveNetMgmtIPs spines leafs aggs cdus additional).ipReservations =
        s.ipReservations ++ rs ∧
      rs.map (fun r => (r.name, r.comment)) = mgmtPlan spines leafs aggs cdus additional ∧
      extractSwitchesfromReservations (s.reserveNetMgmtIPs spines leafs aggs cdus additional) =
        extractSwitchesfromReservations s ++
          List.zipWith (fun p r => ManagementSwitch.ofPlan p r.ipAddress)
            (switchPlan spines leafs aggs cdus) rs := by
  obtain ⟨rs, hres, hmap⟩ :=
    ipReservations_runCalls_addCalls (mgmtPlan spines leafs aggs cdus additional) s
  refine ⟨rs, hres, hmap, ?_⟩
  rw [extractSwitchesfromReservations, extractSwitchesfromReservations, reserveNetMgmtIPs, hres,
    List.flatMap_append]
  congr 1
  obtain ⟨r₄, r₅, rfl, h₄, h₅⟩ := List.map_eq_append_iff.1 hmap
  obtain ⟨r₃, r₄, rfl, h₃, h₄'⟩ := List.map_eq_append_iff.1 h₄
  obtain ⟨r₂, r₃, rfl, h₂, h₃'⟩ := List.map_eq_append_iff.1 h₃
  obtain ⟨r₁, r₂, rfl, h₁, h₂'⟩ := List.map_eq_append_iff.1 h₂
  have hl : ∀ {rs : List IPReservation} {pre : String} {xs : List String}
      {t : ManagementSwitchType},
      rs.map (fun r => (r.name, r.comment)) = mgmtRequests pre xs →
        ((mgmtRequests pre xs).map fun q => (q.2, q.1, t)).length = rs.length :=
    fun h => by rw [List.length_map, ← h, List.length_map]
  simp only [List.flatMap_append, switchPlan,
    @flatMap_reservationSwitches_of_kind _ .spine (by decide) (by decide) _ _ h₁,
    @flatMap_reservationSwitches_of_kind _ .leaf (by decide) (by decide) _ _ h₂',
    @flatMap_reservationSwitches_of_kind _ .aggregation (by decide) (by decide) _ _ h₃',
    @flatMap_reservationSwitches_of_kind _ .cdu (by decide) (by decide) _ _ h₄',
    flatMap_reservationSwitches_stubs _ _ h₅, List.append_nil]
  rw [← List.append_nil (_ ++ _ ++ _ ++ List.map _ (mgmtRequests "sw-cdu-" cdus)),
    List.zipWith_append _ _ _ _ _
      (by simp only [List.length_append, hl h₁, hl h₂', hl h₃', hl h₄']),
    List.zipWith_append _ _ _ _ _ (by simp only [List.length_append, hl h₁, hl h₂', hl h₃']),
    List.zipWith_append _ _ _ _ _ (by simp only [List.length_append, hl h₁, hl h₂']),
    List.zipWith_append _ _ _ _ _ (hl h₁), List.zipWith_nil_left, List.append_nil]

example :
    (extractSwitchesfromReservations
        (subnet24.reserveNetMgmtIPs ["x3000c0h33s1"] ["x3000c0w14"] [] [] 1)).map
      (fun sw => (sw.xname, sw.name, sw.switchType, sw.managementInterface)) =
    [("x3000c0h33s1", "sw-spine-001", .spine, IP.ofOctets 10 0 0 2),
      ("x3000c0w14", "sw-leaf-001", .leaf, IP.ofOctets 10 0 0 3)] := by
  decide

end IPV4Subnet

end CsiNetwork
