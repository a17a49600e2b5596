import Mathlib.Data.Nat.Digits

/-!
# `fmt`'s `%d`

`fmt.Sprintf("%d", n)` writes an `int` in decimal, with a leading `-` when it is negative, as
`toString` does on `Int`. Names such as `cabinet_<ID>` are built with it, and later looked up
by building the same name again, so two facts about it matter: it writes only the characters
of `-0123456789` (`mem_toString_int`), and different numbers get different texts
(`toString_int_injective`), since the digits read back to the number
(`decimalValue_toDigits`).
-/

namespace CsiNetwork

/-- The value of a decimal digit. -/
def digitValue (c : Char) : Nat := c.toNat - 48

/-- The value of a string of decimal digits, most significant first. -/
def decimalValue : List Char → Nat
  | [] => 0
  | c :: cs => digitValue c * 10 ^ cs.length + decimalValue cs

theorem digitValue_digitChar : ∀ k < 10, digitValue (Nat.digitChar k) = k := by decide

theorem digitChar_mem : ∀ k < 10, Nat.digitChar k ∈ "0123456789".data := by decide

/-- Each step of `Nat.toDigits` puts the last digit of `n` in front of the digits already
written; with enough fuel, the digits read back to `n` followed by them. -/
theorem decimalValue_toDigitsCore : ∀ (fuel n : Nat) (ds : List Char), n < fuel →
    decimalValue (Nat.toDigitsCore 10 fuel n ds) = n * 10 ^ ds.length + decimalValue ds
  | 0, _, _, h => absurd h (Nat.not_lt_zero _)
  | fuel + 1, n, ds, h => by
    have hd := digitValue_digitChar (n % 10) (Nat.mod_lt _ (by decide))
    simp only [Nat.toDigitsCore]
    split
    · simp only [decimalValue, hd]
      rw [show n % 10 = n by omega]
    · rw [decimalValue_toDigitsCore fuel (n / 10) _ (by omega)]
      simp only [decimalValue, List.length_cons, hd, Nat.pow_succ]
      conv_rhs => rw [← Nat.div_add_mod n 10]
      ring

theorem decimalValue_toDigits (n : Nat) : decimalValue (Nat.toDigits 10 n) = n := by
  simpa [decimalValue] using decimalValue_toDigitsCore (n + 1) n [] (Nat.lt_succ_self n)

theorem mem_toDigitsCore : ∀ (fuel n : Nat) (ds : List Char),
    ∀ c ∈ Nat.toDigitsCore 10 fuel n ds, c ∈ ds ∨ c ∈ "0123456789".data
  | 0, _, _, c, hc => .inl hc
  | fuel + 1, n, ds, c, hc => by
    have hd := digitChar_mem (n % 10) (Nat.mod_lt _ (by decide))
    simp only [Nat.toDigitsCore] at hc
    split at hc
    · rcases List.mem_cons.1 hc with rfl | hc
      exacts [.inr hd, .inl hc]
    · rcases mem_toDigitsCore fuel (n / 10) _ c hc with hc | hc
      · rcases List.mem_cons.1 hc with rfl | hc
        exacts [.inr hd, .inl hc]
      · exact .inr hc

theorem data_repr (n : Nat) : (Nat.repr n).data = Nat.toDigits 10 n := rfl

theorem toDigitsCore_ne_nil : ∀ (fuel n : Nat) (ds : List Char), 0 < fuel ∨ ds ≠ [] →
    Nat.toDigitsCore 10 fuel n ds ≠ []
  | 0, _, _, h => by simpa [Nat.toDigitsCore] using h
  | fuel + 1, n, ds, _ => by
    simp only [Nat.toDigitsCore]
    split
    · exact List.cons_ne_nil _ _
    · exact toDigitsCore_ne_nil fuel _ _ (.inr (List.cons_ne_nil _ _))

/-- `%d` writes at least one digit. -/
theorem repr_data_ne_nil (n : Nat) : (Nat.repr n).data ≠ [] :=
  toDigitsCore_ne_nil (n + 1) n [] (.inl n.succ_pos)

theorem repr_injective : Function.Injective Nat.repr := fun a b h => by
  simpa only [data_repr, decimalValue_toDigits] using congrArg (decimalValue ·.data) h

theorem mem_repr {n : Nat} {c : Char} (hc : c ∈ (Nat.repr n).data) :
    c ∈ "0123456789".data :=
  (mem_toDigitsCore (n + 1) n [] c hc).resolve_left (List.not_mem_nil c)

/-- `%d` writes only decimal digits and the minus sign. -/
theorem mem_toString_int {i : Int} {c : Char} (hc : c ∈ (toString i).data) :
    c ∈ "-0123456789".data := by
  cases i with
  | ofNat m => exact List.mem_cons_of_mem _ (mem_repr hc)
  | negSucc m =>
    rcases List.mem_cons.1 hc with rfl | hc
    exacts [List.mem_cons_self _ _, List.mem_cons_of_mem _ (mem_repr hc)]

/-- **`%d` is injective.** -/
theorem toString_int_injective : Function.Injective (toString : Int → String) := by
  have hminus : ∀ m, '-' ∉ (Nat.repr m).data := fun m h => absurd (mem_repr h) (by decide)
  intro a b h
  rw [String.ext_iff] at h
  cases a with
  | ofNat m =>
    cases b with
    | ofNat n => exact congrArg _ (repr_injective (String.ext h))
    | negSucc n => exact absurd (h ▸ List.mem_cons_self _ _) (hminus m)
  | negSucc m =>
    cases b with
    | ofNat n => exact absurd (h ▸ List.mem_cons_self _ _) (hminus n)
    | negSucc n =>
      have := repr_injective (String.ext (List.cons.inj h).2)
      exact congrArg _ (Nat.succ.inj this)

end CsiNetwork
