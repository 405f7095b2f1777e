import ConfidentialToken.Scalar
import Mathlib.Data.List.Prime
import Mathlib.FieldTheory.Finite.Basic
import Mathlib.NumberTheory.LucasPrimality
import Mathlib.Tactic.NormNum.Prime

/-!
# Scalars can be divided by

The order of the group is a prime. A table shows it, in which every row proves one number prime from the
primes of the rows before: a number is prime when some residue has an order one below it, and that is seen
from the prime factors of the order. It follows that `Scalar.inverse` inverts every scalar but zero.
-/

namespace ConfidentialToken

/-! ## Primes by their predecessors -/

namespace Primality

/-- `base ^ exponent` modulo a number, for an exponent of so many bits. -/
def powerMod (modulus base : Nat) : Nat → Nat → Nat
  | 0, _ => 1 % modulus
  | bits + 1, exponent =>
    let half := powerMod modulus base bits (exponent / 2)
    if exponent % 2 = 1 then half * half * base % modulus else half * half % modulus

theorem powerMod_eq (modulus base : Nat) {bits exponent : Nat} (fits : exponent < 2 ^ bits) :
    powerMod modulus base bits exponent = base ^ exponent % modulus := by
  induction bits generalizing exponent with
  | zero =>
    obtain rfl : exponent = 0 := Nat.lt_one_iff.mp fits
    rfl
  | succ bits ih =>
    have half : powerMod modulus base bits (exponent / 2) = base ^ (exponent / 2) % modulus :=
      ih (Nat.div_lt_of_lt_mul (by rwa [Nat.pow_succ'] at fits))
    have square : base ^ (exponent / 2) % modulus * (base ^ (exponent / 2) % modulus) ≡
        base ^ (exponent / 2 + exponent / 2) [MOD modulus] := by
      rw [pow_add]
      exact (Nat.mod_modEq _ _).mul (Nat.mod_modEq _ _)
    simp only [powerMod, half]
    split
    · next odd =>
      have whole : exponent / 2 + exponent / 2 + 1 = exponent := by omega
      have odd_power := square.mul_right base
      rwa [← pow_succ, whole] at odd_power
    · next even =>
      have whole : exponent / 2 + exponent / 2 = exponent := by omega
      rwa [whole] at square

/-- A row of the table: a number, a residue of the full order, and the prime factors of that order. -/
structure Row where
  number : Nat
  root : Nat
  factors : List Nat

/-- Decides for an exponent of 256 bits whether that power of the root is one. -/
def Row.unitAt (row : Row) (exponent : Nat) : Bool :=
  powerMod row.number row.root 256 exponent == 1 % row.number

/-- The factors are known to be prime, their product is the full order, and the root has that order. -/
def Row.check (known : List Nat) (row : Row) : Bool :=
  decide (row.number ≤ 2 ^ 256) && row.factors.all known.contains &&
    row.factors.prod == row.number - 1 && row.unitAt (row.number - 1) &&
    row.factors.all fun q => !row.unitAt ((row.number - 1) / q)

/-- Checks the rows of a table, each from the primes that are known before it. -/
def checkAll (known : List Nat) : List Row → Bool
  | [] => true
  | row :: rows => row.check known && checkAll (row.number :: known) rows

theorem Row.unitAt_iff {row : Row} {exponent : Nat} (fits : exponent < 2 ^ 256) :
    row.unitAt exponent = true ↔ (row.root : ZMod row.number) ^ exponent = 1 := by
  rw [unitAt, beq_iff_eq, powerMod_eq _ _ fits, ← ZMod.natCast_eq_natCast_iff', Nat.cast_pow,
    Nat.cast_one]

theorem Row.prime_of_check {known : List Nat} (primes : ∀ q ∈ known, q.Prime) {row : Row}
    (checked : row.check known = true) : row.number.Prime := by
  simp only [check, Bool.and_eq_true, Bool.not_eq_true', List.all_eq_true, List.contains_iff_mem,
    beq_iff_eq, decide_eq_true_eq, ← Bool.not_eq_true] at checked
  obtain ⟨⟨⟨⟨fits, knowns⟩, product⟩, full⟩, least⟩ := checked
  have order : row.number - 1 < 2 ^ 256 := by omega
  refine lucas_primality row.number row.root ((unitAt_iff order).mp full) fun q prime divides => ?_
  have mem : q ∈ row.factors := by
    rw [← product] at divides
    exact mem_list_primes_of_dvd_prod prime.prime (fun p mem => (primes p (knowns p mem)).prime) divides
  exact (unitAt_iff ((Nat.div_le_self _ q).trans_lt order)).not.mp (least q mem)

/-- The numbers of a table that passes the check are prime. -/
theorem prime_of_checkAll {known : List Nat} {rows : List Row} (primes : ∀ q ∈ known, q.Prime)
    (checked : checkAll known rows = true) : ∀ row ∈ rows, row.number.Prime := by
  induction rows generalizing known with
  | nil => exact nofun
  | cons row rows ih =>
    obtain ⟨first, rest⟩ := Bool.and_eq_true_iff.mp checked
    have prime := Row.prime_of_check primes first
    exact List.forall_mem_cons.mpr ⟨prime, ih (List.forall_mem_cons.mpr ⟨prime, primes⟩) rest⟩

/-- Primes small enough to be seen at once. -/
def smallPrimes : List Nat :=
  [2, 3, 5, 7, 11, 23, 41, 43, 73, 269, 307, 1361, 2851, 5879, 30703, 82163, 132667, 137849, 531581,
    1224481, 58964693]

theorem prime_of_mem_smallPrimes : ∀ q ∈ smallPrimes, q.Prime := by
  refine List.forall_iff_forall_mem.mp ?_
  norm_num [smallPrimes, List.Forall]

/-- The table for the group order. -/
def table : List Row :=
  [⟨292386187, 2, [2, 3, 3, 3, 3, 307, 5879]⟩,
    ⟨213441916511, 13, [2, 5, 73, 292386187]⟩,
    ⟨1257559732178653, 2, [2, 2, 3, 7, 23, 531581, 1224481]⟩,
    ⟨4434155615661930479, 17, [2, 41, 43, 1257559732178653]⟩,
    ⟨172054593956031949258510691, 2, [2, 5, 1361, 2851, 4434155615661930479]⟩,
    ⟨19757330305831588566944191468367130476339, 2,
      [2, 269, 213441916511, 172054593956031949258510691]⟩,
    ⟨276602624281642239937218680557139826668747, 2,
      [2, 7, 19757330305831588566944191468367130476339]⟩,
    ⟨3044861653679985063343, 5, [2, 3, 11, 30703, 82163, 132667, 137849]⟩,
    ⟨198211423230930754013084525763697, 5, [2, 2, 2, 2, 3, 23, 58964693, 3044861653679985063343]⟩,
    ⟨groupOrder, 2, [2, 2, 3, 11, 198211423230930754013084525763697,
      276602624281642239937218680557139826668747]⟩]

end Primality

theorem prime_groupOrder : groupOrder.Prime := by
  have checked : Primality.checkAll Primality.smallPrimes Primality.table = true := by
    decide +kernel
  have primes := Primality.prime_of_checkAll Primality.prime_of_mem_smallPrimes checked
  exact primes ⟨groupOrder, 2, _⟩ (List.mem_of_getElem? (i := 9) rfl)

/-! ## Inverses -/

namespace Scalar

/-- What `power` computes, as a number. -/
theorem val_power (base : Scalar) (exponent : Nat) :
    (base.power exponent).val = base.val ^ exponent % groupOrder := by
  have square : ∀ base : Scalar, ∀ n, (base * base).val ^ n % groupOrder =
      base.val ^ (n + n) % groupOrder := by
    intro base n
    rw [Fin.val_mul, ← Nat.pow_mod, mul_pow, ← pow_add]
  fun_induction power base exponent with
  | case1 base => rfl
  | case2 base exponent _ half odd ih =>
    have whole : exponent / 2 + exponent / 2 + 1 = exponent := by omega
    rw [Fin.val_mul, ih, square, Nat.mod_mul_mod, ← pow_succ, whole]
  | case3 base exponent _ half even ih =>
    have whole : exponent / 2 + exponent / 2 = exponent := by omega
    rw [ih, square, whole]

/-- Every scalar but zero has an inverse, and `inverse` computes it. -/
theorem mul_inverse {s : Scalar} (nonzero : s ≠ 0) : s * s.inverse = 1 := by
  have nonzero : s.val ≠ 0 := fun zero => nonzero (Fin.ext zero)
  have coprime : s.val.Coprime groupOrder :=
    (Nat.coprime_of_lt_prime nonzero s.isLt prime_groupOrder).symm
  have fermat : s.val ^ (groupOrder - 1) % groupOrder = 1 % groupOrder := by
    have euler := Nat.ModEq.pow_totient coprime
    rwa [Nat.totient_prime prime_groupOrder] at euler
  have next : groupOrder - 2 + 1 = groupOrder - 1 := rfl
  apply Fin.ext
  rw [Fin.val_mul, inverse, val_power, Nat.mul_mod_mod, ← pow_succ', next, fermat]
  rfl

end Scalar

end ConfidentialToken
