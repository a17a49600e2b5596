import Mathlib.Data.List.Basic

/-!
# `strings.EqualFold`

Go's `strings.EqualFold(s, t)` compares two strings rune by rune under Unicode simple case
folding. Equal runes match. Otherwise it orders the pair so that `sr < tr`. Two ASCII runes
then match only as an upper-case letter and its lower case. Beyond ASCII, `tr` must lie on
the `unicode.SimpleFold` orbit of `sr`. That orbit comes from the Unicode case-folding table,
which is not part of the model: it is the parameter `sameOrbit`. On ASCII strings the table is
never consulted (`equalFold_congr_ascii`).
-/

namespace CsiNetwork

/-- The loop of `strings.EqualFold` over the runes of both strings; once one of them is used
up, the other must be too. -/
def equalFoldRunes (sameOrbit : Char → Char → Bool) : List Char → List Char → Bool
  | sr :: s, tr :: t =>
    if sr = tr then equalFoldRunes sameOrbit s t
    else
      let lo := if sr < tr then sr else tr
      let hi := if sr < tr then tr else sr
      (if hi.val < 0x80 then decide ('A' ≤ lo ∧ lo ≤ 'Z' ∧ hi.val = lo.val + ('a'.val - 'A'.val))
        else sameOrbit lo hi) && equalFoldRunes sameOrbit s t
  | [], [] => true
  | _ :: _, [] => false
  | [], _ :: _ => false

/-- `strings.EqualFold`, with the Unicode folding orbits `sameOrbit`. -/
def equalFold (sameOrbit : Char → Char → Bool) (s t : String) : Bool :=
  equalFoldRunes sameOrbit s.data t.data

example : equalFold (fun _ _ => false) "Bootstrap_DHCP" "bootstrap_dhcp" = true := by decide

example : equalFold (fun _ _ => false) "cabinet_1" "cabinet_10" = false := by decide

variable {sameOrbit : Char → Char → Bool}

theorem equalFoldRunes_self : ∀ l : List Char, equalFoldRunes sameOrbit l l = true
  | [] => rfl
  | c :: l => by rw [equalFoldRunes, if_pos rfl, equalFoldRunes_self l]

/-- Every string equals itself up to case. -/
@[simp] theorem equalFold_self (s : String) : equalFold sameOrbit s s = true :=
  equalFoldRunes_self s.data

/-- On ASCII runes the folding table is never consulted. -/
theorem equalFoldRunes_congr_ascii (sameOrbit' : Char → Char → Bool) :
    ∀ s t : List Char, (∀ c ∈ s, c.val < 0x80) → (∀ c ∈ t, c.val < 0x80) →
      equalFoldRunes sameOrbit s t = equalFoldRunes sameOrbit' s t
  | sr :: s, tr :: t, hs, ht => by
    have ih := equalFoldRunes_congr_ascii sameOrbit' s t
      (fun c hc => hs c (List.mem_cons_of_mem _ hc)) (fun c hc => ht c (List.mem_cons_of_mem _ hc))
    have hsr := hs sr (List.mem_cons_self _ _)
    have htr := ht tr (List.mem_cons_self _ _)
    have hhi : (if sr < tr then tr else sr).val < 0x80 := by split <;> assumption
    simp only [equalFoldRunes, if_pos hhi, ih]
  | [], [], _, _ => rfl
  | _ :: _, [], _, _ => rfl
  | [], _ :: _, _, _ => rfl

theorem equalFold_congr_ascii (sameOrbit' : Char → Char → Bool) {s t : String}
    (hs : ∀ c ∈ s.data, c.val < 0x80) (ht : ∀ c ∈ t.data, c.val < 0x80) :
    equalFold sameOrbit s t = equalFold sameOrbit' s t :=
  equalFoldRunes_congr_ascii sameOrbit' s.data t.data hs ht

/-- A rune that `EqualFold` matches to no other rune of the same kind: ASCII and not an
upper-case letter. -/
def NoUpperAscii (c : Char) : Prop := c.val < 0x80 ∧ ¬('A' ≤ c ∧ c ≤ 'Z')

instance : DecidablePred NoUpperAscii := fun _ => inferInstanceAs (Decidable (_ ∧ _))

/-- Without upper-case ASCII letters or non-ASCII runes, folding changes nothing. -/
theorem equalFoldRunes_eq_decide :
    ∀ s t : List Char, (∀ c ∈ s, NoUpperAscii c) → (∀ c ∈ t, NoUpperAscii c) →
      equalFoldRunes sameOrbit s t = decide (s = t)
  | sr :: s, tr :: t, hs, ht => by
    have ih := equalFoldRunes_eq_decide s t
      (fun c hc => hs c (List.mem_cons_of_mem _ hc)) (fun c hc => ht c (List.mem_cons_of_mem _ hc))
    obtain ⟨hsr, hsr'⟩ := hs sr (List.mem_cons_self _ _)
    obtain ⟨htr, htr'⟩ := ht tr (List.mem_cons_self _ _)
    by_cases heq : sr = tr
    · subst heq
      simp [equalFoldRunes, ih]
    · have hhi : (if sr < tr then tr else sr).val < 0x80 := by split <;> assumption
      have hlo : ¬('A' ≤ (if sr < tr then sr else tr) ∧ (if sr < tr then sr else tr) ≤ 'Z') := by
        split <;> assumption
      simp [equalFoldRunes, heq, hhi]
      exact fun h₁ h₂ _ => absurd ⟨h₁, h₂⟩ hlo
  | [], [], _, _ => rfl
  | _ :: _, [], _, _ => by simp [equalFoldRunes]
  | [], _ :: _, _, _ => by simp [equalFoldRunes]

theorem equalFold_eq_decide {s t : String} (hs : ∀ c ∈ s.data, NoUpperAscii c)
    (ht : ∀ c ∈ t.data, NoUpperAscii c) : equalFold sameOrbit s t = decide (s = t) := by
  rw [equalFold, equalFoldRunes_eq_decide _ _ hs ht]
  exact decide_eq_decide.2 String.ext_iff.symm

end CsiNetwork
