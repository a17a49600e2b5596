import CsiNetwork.Net.ParseIP

/-!
# The flags `init` checks before it starts

`init` first collects the messages of `validateFlags` and stops when there is one. It then
checks that `strings.Split(v.GetString("site-ip"), "/")` has two parts, and
`WriteCPTNetworkConfig` later reads the second part as the prefix length of the site
interface. `site-ip` is a required flag that must parse as a CIDR, of either address family,
and a text `ParseCIDR` accepts has exactly one slash, so once `validateFlags` has returned no
message the split always has two parts: the second check never fails, and the second part is
always there (`split_siteIp_of_validateFlags`).
-/

namespace CsiNetwork

/-- `strings.Split(s, sep)` for a separator of one character, from the piece read so far:
the pieces of the input between the separators, so one more piece than separators. -/
def splitFrom (sep : Char) (piece : List Char) : List Char → List (List Char)
  | [] => [piece.reverse]
  | c :: cs =>
    if c = sep then piece.reverse :: splitFrom sep [] cs else splitFrom sep (c :: piece) cs

/-- `strings.Split(s, sep)` for a separator of one character. -/
def split (s : String) (sep : Char) : List String := (splitFrom sep [] s.data).map String.mk

theorem length_splitFrom (sep : Char) :
    ∀ (piece cs : List Char), (splitFrom sep piece cs).length = cs.count sep + 1
  | _, [] => rfl
  | piece, c :: cs => by
    by_cases hc : c = sep
    · subst hc
      simp [splitFrom, length_splitFrom c [] cs]
    · simp [splitFrom, hc, length_splitFrom sep (c :: piece) cs, List.count_cons, Ne.symm hc]

/-- `strings.Split` gives one more piece than there are separators. -/
theorem length_split (s : String) (sep : Char) : (split s sep).length = s.data.count sep + 1 := by
  rw [split, List.length_map, length_splitFrom]

/-! ## `validateFlags` -/

/-- The flags `init` requires. -/
def requiredFlags : List String :=
  ["system-name", "ntp-pool", "can-gateway", "site-ip", "site-gw", "site-dns", "site-nic",
    "bootstrap-ncn-bmc-user", "bootstrap-ncn-bmc-pass"]

/-- The flags that must be addresses when they are set. -/
def ipv4Flags : List String := ["site-dns", "can-gateway", "site-gw"]

/-- The flags that must be CIDRs when they are set. -/
def cidrFlags : List String :=
  ["can-cidr", "can-static-pool", "can-dynamic-pool", "nmn-cidr", "hmn-cidr", "site-ip"]

/-- One loop of `validateFlags`: for each flag of the list, in order, the message `flagName`
followed by `text` when `bad` holds of the flag's value in `v` (`none` when it is not set). -/
def flagErrors (v : String → Option String) (flags : List String) (bad : Option String → Bool)
    (text : String) : List String :=
  flags.filterMap fun flagName => if bad (v flagName) then some (flagName ++ text) else none

/-- `validateFlags`: the messages for the required flags that are not set, then for the set
address flags that do not parse, then for the set CIDR flags that do not parse. `v` gives the
value of each flag set through a flag or the config file, `configFileUsed` is
`v.ConfigFileUsed()`. -/
def validateFlags (v : String → Option String) (configFileUsed : String) : List String :=
  flagErrors v requiredFlags Option.isNone
      (" is required and not set through flag or config file (." ++ configFileUsed ++ ")") ++
    flagErrors v ipv4Flags (fun value => value.any fun s => (parseIP s).isNone)
      (" should be an ip address and is not set correctly through flag or config file (." ++
        configFileUsed ++ ")") ++
    flagErrors v cidrFlags (fun value => value.any fun s => (netParseCIDR s).isNone)
      (" should be a CIDR in the form 192.168.0.1/24 and is not set correctly through flag or " ++
        "config file (." ++ configFileUsed ++ ")")

section FlagErrors

variable (v : String → Option String) (flags : List String) (bad : Option String → Bool)
  (text : String)

/-- A loop of `validateFlags` has no message exactly when no flag of its list is bad. -/
theorem flagErrors_eq_nil_iff :
    flagErrors v flags bad text = [] ↔ ∀ f ∈ flags, bad (v f) = false := by
  simp [flagErrors, List.filterMap_eq_nil_iff]

/-- Every message of a loop names a flag of its list that is bad. -/
theorem mem_flagErrors {e : String} (he : e ∈ flagErrors v flags bad text) :
    ∃ f ∈ flags, bad (v f) = true ∧ e = f ++ text := by
  obtain ⟨f, hf, he⟩ := List.mem_filterMap.1 he
  split at he
  · exact ⟨f, hf, ‹_›, (Option.some_inj.1 he).symm⟩
  · cases he

end FlagErrors

/-- With no message from `validateFlags`, every required flag is set and every set address or
CIDR flag parses. -/
theorem validateFlags_eq_nil_iff (v : String → Option String) (configFileUsed : String) :
    validateFlags v configFileUsed = [] ↔
      (∀ f ∈ requiredFlags, (v f).isSome) ∧
        (∀ f ∈ ipv4Flags, ∀ s, v f = some s → (parseIP s).isSome) ∧
        ∀ f ∈ cidrFlags, ∀ s, v f = some s → (netParseCIDR s).isSome := by
  simp only [validateFlags, List.append_eq_nil, flagErrors_eq_nil_iff, and_assoc]
  refine and_congr ?_ (and_congr ?_ ?_) <;>
    exact forall₂_congr fun f _ => by cases v f <;> simp

/-- Every message of `validateFlags` names the flag it is about, followed by the text of its
loop: a required flag that is not set, a set address flag that does not parse, or a set CIDR
flag that does not parse. -/
theorem mem_validateFlags {v : String → Option String} {configFileUsed e : String}
    (he : e ∈ validateFlags v configFileUsed) :
    (∃ f ∈ requiredFlags, v f = none ∧ e = f ++
      " is required and not set through flag or config file (." ++ configFileUsed ++ ")") ∨
    (∃ f ∈ ipv4Flags, ∃ s, v f = some s ∧ parseIP s = none ∧ e = f ++
      (" should be an ip address and is not set correctly through flag or config file (." ++
        configFileUsed ++ ")")) ∨
    ∃ f ∈ cidrFlags, ∃ s, v f = some s ∧ netParseCIDR s = none ∧ e = f ++
      (" should be a CIDR in the form 192.168.0.1/24 and is not set correctly through flag or " ++
        "config file (." ++ configFileUsed ++ ")") := by
  simp only [validateFlags, List.mem_append] at he
  rcases he with (he | he) | he <;> obtain ⟨f, hf, hbad, rfl⟩ := mem_flagErrors _ _ _ _ he
  · exact .inl ⟨f, hf, Option.isNone_iff_eq_none.1 hbad, by simp only [String.append_assoc]⟩
  · rcases hs : v f with _ | s <;> rw [hs] at hbad
    · simp at hbad
    · exact .inr (.inl ⟨f, hf, s, hs, Option.isNone_iff_eq_none.1 hbad, rfl⟩)
  · rcases hs : v f with _ | s <;> rw [hs] at hbad
    · simp at hbad
    · exact .inr (.inr ⟨f, hf, s, hs, Option.isNone_iff_eq_none.1 hbad, rfl⟩)

/-- **Once `validateFlags` passes, `site-ip` splits in two.** For every configuration for
which `validateFlags` returns no message, `site-ip` is set and `strings.Split` at `/` cuts it
into exactly two parts. -/
theorem split_siteIp_of_validateFlags (v : String → Option String) (configFileUsed : String)
    (h : validateFlags v configFileUsed = []) :
    ∃ s, v "site-ip" = some s ∧ (split s '/').length = 2 := by
  obtain ⟨hreq, -, hcidr⟩ := (validateFlags_eq_nil_iff v configFileUsed).1 h
  obtain ⟨s, hs⟩ := Option.isSome_iff_exists.1 (hreq "site-ip" (by decide))
  obtain ⟨n, hn⟩ := Option.isSome_iff_exists.1 (hcidr "site-ip" (by decide) s hs)
  obtain ⟨addr, mask, hdata, haddr, hmask⟩ := netParseCIDR_slash hn
  have hmask' : '/' ∉ mask := fun hm => absurd (hmask '/' hm) (by decide)
  refine ⟨s, hs, ?_⟩
  rw [length_split, hdata, List.count_append, List.count_cons_self,
    List.count_eq_zero_of_not_mem haddr, List.count_eq_zero_of_not_mem hmask']

/-- Every flag set: `site-ip` to an IPv6 CIDR and `site-dns` to an IPv6 address, the other
CIDR flags to an IPv4 /24 and the others to an IPv4 address. -/
def allFlagsSet (flagName : String) : Option String :=
  some (if flagName = "site-ip" then "fd00:10::1/64"
    else if flagName ∈ cidrFlags then "10.102.3.1/24"
    else if flagName = "site-dns" then "fd00:10::53" else "10.102.3.1")

theorem split_siteIp_of_validateFlags_all_set :
    validateFlags allFlagsSet "system_config.yaml" = [] ∧
      ∃ s, allFlagsSet "site-ip" = some s ∧ (split s '/').length = 2 :=
  ⟨by decide, split_siteIp_of_validateFlags allFlagsSet "system_config.yaml" (by decide)⟩

end CsiNetwork
