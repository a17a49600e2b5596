import CsiNetwork.Errors
import CsiNetwork.Ipam.Block

/-!
# Free-block search

`ipam.Free(parent, mask, used)` is not part of the sources at hand either; it is modelled
from the spec (§4.2). Starting at the network address of `parent`, it walks through the
blocks of size `mask`, one block further at each step, and returns the first one that lies
in `parent` and overlaps none of `used`; it fails with `NoSpaceAvailable` once the walk has
passed the end of `parent`.

The walk is the list `candidates` and the choice is `List.find?`, so its contract
(`free_spec`: the block lies in `parent`, overlaps nothing in `used`, has the requested mask,
and comes first) falls out of the `find?` lemmas. Callers cite `free_spec` and never unfold
`free`.
-/

namespace CsiNetwork.Ipam

/-- The blocks the search walks through: blocks with mask `mask` from the network address of
`parent` on, each one block after the last, up to the last one starting inside `parent`.
The walk is taken over the integers, so it cannot wrap past the top of the address space. -/
def candidates (parent : IPNet) (mask : IPMask) : List IPNet :=
  (List.range (((broadcast parent).toNat - (networkAddr parent).toNat) /
      2 ^ mask.hostBits + 1)).map fun k =>
    ⟨BitVec.ofNat 32 ((networkAddr parent).toNat + k * 2 ^ mask.hostBits), mask⟩

/-- A candidate passes when it lies in `parent` and overlaps none of `used`. -/
def isFree (parent : IPNet) (used : List IPNet) (c : IPNet) : Bool :=
  contains parent c && used.all fun u => !overlaps c u

/-- Modelled from the spec: `ipam.Free`, the first candidate that passes, or
`NoSpaceAvailable`. -/
def free (parent : IPNet) (mask : IPMask) (used : List IPNet) : Except CsiError IPNet :=
  match (candidates parent mask).find? (isFree parent used) with
  | some c => .ok c
  | none => .error .noSpaceAvailable

theorem mask_of_mem_candidates {parent c : IPNet} {mask : IPMask}
    (h : c ∈ candidates parent mask) : c.mask = mask := by
  obtain ⟨k, -, rfl⟩ := List.mem_map.1 h
  rfl

/-- The only error `free` returns. -/
theorem free_error {parent : IPNet} {mask : IPMask} {used : List IPNet} {e : CsiError}
    (h : free parent mask used = .error e) : e = .noSpaceAvailable := by
  unfold free at h
  split at h <;> cases h
  rfl

/-- The contract of `free`: the block it returns has the requested mask, lies in `parent`,
overlaps none of `used`, and no earlier candidate passes. -/
theorem free_spec {parent c : IPNet} {mask : IPMask} {used : List IPNet}
    (h : free parent mask used = .ok c) :
    c.mask = mask ∧ contains parent c = true ∧ (∀ u ∈ used, overlaps c u = false) ∧
      ∃ before after, candidates parent mask = before ++ c :: after ∧
        ∀ b ∈ before, isFree parent used b = false := by
  unfold free at h
  split at h
  · rename_i hfind
    cases h
    have hfree : isFree parent used c = true := List.find?_some hfind
    simp only [isFree, Bool.and_eq_true, List.all_eq_true, Bool.not_eq_true'] at hfree
    obtain ⟨before, after, hsplit, hbefore⟩ := List.find?_eq_some.1 hfind |>.2
    refine ⟨mask_of_mem_candidates (List.mem_of_find?_eq_some hfind), hfree.1, hfree.2,
      before, after, hsplit, fun b hb => ?_⟩
    simpa using hbefore b hb
  · cases h

end CsiNetwork.Ipam
