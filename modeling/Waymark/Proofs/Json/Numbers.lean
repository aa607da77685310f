import Mathlib.Data.Nat.Digits.Defs
import Waymark.Json.Parser
import Waymark.Json.Printer

/-! Numbers in JSON text. A number ends where a character follows that cannot be part of it, and an
integer of 64 bits is read as it was written. -/

namespace Waymark.Json
variable {t u rest : List Char} {c : Char} {v : Json} {n : Nat} {negative : Bool}

/-- What follows does not go on with a number before it. -/
def Apart (rest : List Char) : Prop :=
  ∀ c ∈ rest.head?, c.isDigit = false ∧ c ≠ '.' ∧ c ≠ 'e' ∧ c ≠ 'E'

theorem Apart.nil : Apart [] := by simp [Apart]

theorem Apart.cons (h : c.isDigit = false ∧ c ≠ '.' ∧ c ≠ 'e' ∧ c ≠ 'E') : Apart (c :: rest) := by
  simpa [Apart] using h

theorem digits_append (h : Apart rest) :
    digits (t ++ rest) = ((digits t).1, (digits t).2 ++ rest) := by
  induction t with
  | nil =>
    cases rest with
    | nil => rfl
    | cons c rest =>
      have := (h c rfl).1
      simp [digits, this]
  | cons c t ih =>
    by_cases hc : c.isDigit
    · simp [digits, hc, ih]
    · simp [digits, hc]

theorem fractionPart_append {fraction : List Nat} (h : Apart rest)
    (ht : fractionPart t = some (fraction, u)) :
    fractionPart (t ++ rest) = some (fraction, u ++ rest) := by
  unfold fractionPart at ht
  split at ht
  · next t =>
    rw [List.cons_append]
    simp only [fractionPart, digits_append h]
    split at ht
    · cases ht
    · next ds u' heq hds =>
      simp only [Option.some.injEq, Prod.mk.injEq] at ht
      obtain ⟨rfl, rfl⟩ := ht
      simp [hds]
  · next hpoint =>
    simp only [Option.some.injEq, Prod.mk.injEq] at ht
    obtain ⟨rfl, rfl⟩ := ht
    cases t with
    | nil =>
      cases rest with
      | nil => rfl
      | cons c rest =>
        have := (h c rfl).2.1
        simp [fractionPart, this]
    | cons c t =>
      have : c ≠ '.' := fun hc => hpoint t (by rw [hc])
      simp [fractionPart, this]

/-- The digits of an exponent whose sign has been read. -/
def exponentDigits (down : Bool) (t : List Char) : Option (Option (Bool × List Nat) × List Char) :=
  match digits t with
  | ([], _) => none
  | (ds, rest) => some (some (down, ds), rest)

theorem exponentPart_cons (hc : c = 'e' ∨ c = 'E') : exponentPart (c :: t) =
    match t with
    | '+' :: t => exponentDigits false t
    | '-' :: t => exponentDigits true t
    | t => exponentDigits false t := by
  simp only [exponentPart, if_pos hc]
  cases t with
  | nil => rfl
  | cons d t =>
    by_cases hplus : d = '+'
    · subst hplus
      rfl
    · by_cases hminus : d = '-'
      · subst hminus
        rfl
      · simp [hplus, hminus]
        rfl

theorem exponentDigits_append {down : Bool} {exponent : Option (Bool × List Nat)} (h : Apart rest)
    (ht : exponentDigits down t = some (exponent, u)) :
    exponentDigits down (t ++ rest) = some (exponent, u ++ rest) := by
  unfold exponentDigits at ht ⊢
  rw [digits_append h]
  split at ht
  · cases ht
  · next ds u' _ hds =>
    simp only [Option.some.injEq, Prod.mk.injEq] at ht
    obtain ⟨rfl, rfl⟩ := ht
    simp [hds]

theorem exponentPart_append {exponent : Option (Bool × List Nat)} (h : Apart rest)
    (ht : exponentPart t = some (exponent, u)) :
    exponentPart (t ++ rest) = some (exponent, u ++ rest) := by
  cases t with
  | nil =>
    simp only [exponentPart, Option.some.injEq, Prod.mk.injEq] at ht
    obtain ⟨rfl, rfl⟩ := ht
    cases rest with
    | nil => rfl
    | cons c rest =>
      have := (h c rfl).2.2
      simp [exponentPart, this]
  | cons c t =>
    by_cases hc : c = 'e' ∨ c = 'E'
    · rw [List.cons_append]
      rw [exponentPart_cons hc] at ht ⊢
      -- Without a character behind the letter there would be no digits, hence no exponent.
      cases t with
      | nil => simp [exponentDigits, digits] at ht
      | cons d t =>
        rw [List.cons_append]
        split at ht
        · next heq =>
          obtain ⟨rfl, rfl⟩ := List.cons.inj heq
          exact exponentDigits_append h ht
        · next heq =>
          obtain ⟨rfl, rfl⟩ := List.cons.inj heq
          exact exponentDigits_append h ht
        · next hplus hminus =>
          have := exponentDigits_append h ht
          split
          · next heq => exact absurd (congrArg (· :: t) (List.cons.inj heq).1) (hplus t)
          · next heq => exact absurd (congrArg (· :: t) (List.cons.inj heq).1) (hminus t)
          · exact this
    · simp only [exponentPart, if_neg hc, Option.some.injEq, Prod.mk.injEq] at ht
      obtain ⟨rfl, rfl⟩ := ht
      simp [exponentPart, hc]

/-- What follows a number does not change what is read of it. -/
theorem number_append (h : Apart rest) (ht : number negative t = some (v, u)) :
    number negative (t ++ rest) = some (v, u ++ rest) := by
  unfold number at ht ⊢
  rw [digits_append h]
  split at ht
  · cases ht
  · cases ht
  · next whole t₁ hnil hzero hwhole =>
    split at ht
    · cases ht
    · next fraction t₂ hfraction =>
      split at ht
      · cases ht
      · next exponent t₃ hexponent =>
        obtain ⟨v', hv, heq⟩ := Option.map_eq_some_iff.mp ht
        obtain ⟨rfl, rfl⟩ := Prod.mk.inj heq
        rw [hwhole]
        simp only [fractionPart_append h hfraction, exponentPart_append h hexponent, hv]
        rfl

/-- The first character of a number is a digit. -/
theorem isDigit_of_number (h : number negative t = some (v, u)) :
    ∃ c t', t = c :: t' ∧ c.isDigit = true := by
  cases t with
  | nil => simp [number, digits] at h
  | cons c t =>
    refine ⟨c, t, rfl, ?_⟩
    by_contra hc
    simp [number, digits, hc] at h

/-- The digits of a number in base ten, as numbers. -/
def decimals (n : Nat) : List Nat := (Nat.toDigits 10 n).map fun c => c.toNat - '0'.toNat

theorem digits_toDigits (n : Nat) : digits (Nat.toDigits 10 n) = (decimals n, []) := by
  have hall : ∀ c ∈ Nat.toDigits 10 n, c.isDigit = true := fun c hc =>
    Nat.isDigit_of_mem_toDigits (by decide) (by decide) hc
  unfold decimals
  generalize Nat.toDigits 10 n = t at hall
  induction t with
  | nil => rfl
  | cons c t ih =>
    have hc := hall c List.mem_cons_self
    have ht := ih fun d hd => hall d (List.mem_cons_of_mem c hd)
    simp [digits, hc, ht]

theorem ofDigits_decimals (n : Nat) : ofDigits (decimals n) = n := by
  have h : Nat.ofDigitChars 10 (Nat.toDigits 10 n) 0 = n := Nat.ofDigitChars_ten_toDigits
  simpa [ofDigits, decimals, Nat.ofDigitChars, List.foldl_map, Nat.mul_comm] using h

theorem decimals_ne_nil (n : Nat) : decimals n ≠ [] := by
  simp [decimals, Nat.toDigits_ne_nil]

/-- A number above zero is not written with a zero in front. -/
theorem decimals_head (h : 0 < n) : ∃ d ds, decimals n = d :: ds ∧ 0 < d := by
  induction n using Nat.strong_induction_on with
  | h n ih =>
    unfold decimals
    rw [Nat.toDigits_eq_if (by decide)]
    split
    · next hn =>
      refine ⟨_, [], rfl, ?_⟩
      simp [Nat.toNat_digitChar_of_lt_ten hn, h]
    · obtain ⟨d, ds, heq, hd⟩ := ih (n / 10) (by omega) (by omega)
      exact ⟨d, ds ++ [(n % 10).digitChar.toNat - '0'.toNat], by
        rw [List.map_append]
        exact congrArg (· ++ _) heq, hd⟩

/-- An integer is read as what its digits make. -/
theorem number_toDigits (hv : (⟨negative, decimals n, [], none⟩ : Numeral).value? = some v) :
    number negative (Nat.toDigits 10 n) = some (v, []) := by
  unfold number
  rw [digits_toDigits]
  split
  · next heq => exact absurd (Prod.mk.inj heq).1 (decimals_ne_nil n)
  · next heq =>
    obtain rfl | hn := Nat.eq_zero_or_pos n
    · simp [decimals, Nat.toDigits_of_lt_base] at heq
    · obtain ⟨d, ds, hds, hd⟩ := decimals_head hn
      rw [hds] at heq
      simp only [Prod.mk.injEq, List.cons.injEq] at heq
      omega
  · next heq =>
    obtain ⟨rfl, rfl⟩ := Prod.mk.inj heq
    simp [fractionPart, exponentPart, hv]

theorem number_nat (h : n ≤ maxNat) : number false (Nat.toDigits 10 n) = some (int n, []) :=
  number_toDigits (by simp [Numeral.value?, ofDigits_decimals, h])

theorem number_negated (hpos : 0 < n) (h : n ≤ maxNegated) :
    number true (Nat.toDigits 10 n) = some (int (-(n : Int)), []) :=
  number_toDigits (by simp [Numeral.value?, ofDigits_decimals, hpos, h])

end Waymark.Json
