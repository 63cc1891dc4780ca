import ProtocolBench.Resp.Client

/-!
Decimal text: what `snprintf` writes for `%zu` and `%0Nzu`, and the lengths that RESP frames
declare. `string2ll` reads back every canonical decimal below `2^63`, and none of its digits is
a `'\r'`, so `memchr` finds the CR that ends a header.
-/

namespace ProtocolBench.Resp

/-- The ASCII digit `'0' + k`. -/
def digitByte (k : Nat) : UInt8 := UInt8.ofNat (48 + k)

/-- `%zu`: the decimal digits of `n`, most significant first. -/
def decimal (n : Nat) : List UInt8 :=
  if n < 10 then [digitByte n] else decimal (n / 10) ++ [digitByte (n % 10)]
decreasing_by omega

/-- `%0wzu`: the decimal digits of `n`, padded with `'0'` on the left to `w` digits. -/
def padDecimal (w n : Nat) : List UInt8 :=
  List.replicate (w - (decimal n).length) (digitByte 0) ++ decimal n

theorem digitByte_toNat {k : Nat} (hk : k < 10) : (digitByte k).toNat = 48 + k :=
  (by decide : ∀ k < 10, (digitByte k).toNat = 48 + k) k hk

theorem digitByte_isDigit {k : Nat} (hk : k < 10) : 48 ≤ digitByte k ∧ digitByte k ≤ 57 :=
  (by decide : ∀ k < 10, 48 ≤ digitByte k ∧ digitByte k ≤ 57) k hk

theorem digitByte_isLeading {k : Nat} (hk : k < 9) :
    49 ≤ digitByte (k + 1) ∧ digitByte (k + 1) ≤ 57 :=
  (by decide : ∀ k < 9, 49 ≤ digitByte (k + 1) ∧ digitByte (k + 1) ≤ 57) k hk

theorem digitByte_succ_ne_zero {k : Nat} (hk : k < 9) : digitByte (k + 1) ≠ 48 :=
  (by decide : ∀ k < 9, digitByte (k + 1) ≠ 48) k hk

theorem digitByte_ne {k : Nat} (hk : k < 10) {b : UInt8} (hb : b.toNat < 48) : digitByte k ≠ b :=
  fun e => by have := congrArg UInt8.toNat e; rw [digitByte_toNat hk] at this; omega

theorem decimal_of_lt {n : Nat} (h : n < 10) : decimal n = [digitByte n] := by
  rw [decimal, if_pos h]

theorem decimal_of_ge {n : Nat} (h : ¬ n < 10) :
    decimal n = decimal (n / 10) ++ [digitByte (n % 10)] := by
  rw [decimal, if_neg h]

theorem mem_decimal {n : Nat} {b : UInt8} (h : b ∈ decimal n) : ∃ k < 10, b = digitByte k := by
  induction n using decimal.induct with
  | case1 n hn => exact ⟨n, hn, List.mem_singleton.1 (decimal_of_lt hn ▸ h)⟩
  | case2 n hn ih =>
    rcases List.mem_append.1 (decimal_of_ge hn ▸ h) with h | h
    · exact ih h
    · exact ⟨n % 10, Nat.mod_lt _ (by omega), List.mem_singleton.1 h⟩

theorem cr_not_mem_decimal (n : Nat) : (13 : UInt8) ∉ decimal n := by
  intro h
  obtain ⟨k, hk, e⟩ := mem_decimal h
  exact digitByte_ne hk (by decide) e.symm

/-- A number below `10^k` has at most `k` digits. -/
theorem decimal_length_le {n k : Nat} (hk : 0 < k) (h : n < 10 ^ k) : (decimal n).length ≤ k := by
  induction n using decimal.induct generalizing k with
  | case1 n hn => simpa [decimal_of_lt hn] using hk
  | case2 n hn ih =>
    obtain ⟨k, rfl⟩ : ∃ j, k = j + 1 := ⟨k - 1, by omega⟩
    have hk' : 0 < k := Nat.pos_of_ne_zero fun e => by subst e; simp at h; omega
    have := ih hk' (by rw [Nat.div_lt_iff_lt_mul (by decide)]; exact h)
    rw [decimal_of_ge hn, List.length_append, List.length_singleton]
    omega

/-- `%0wzu` of a number of at most `w` digits has exactly `w` digits. -/
theorem padDecimal_length {w n : Nat} (h : (decimal n).length ≤ w) : (padDecimal w n).length = w := by
  simp only [padDecimal, List.length_append, List.length_replicate]
  omega

/-- The digit loop of `string2ll` goes on from the value read so far. -/
theorem string2llDigits_append {v w : Nat} {xs : List UInt8} (ys : List UInt8)
    (h : string2llDigits v xs = some (w, [])) : string2llDigits v (xs ++ ys) = string2llDigits w ys := by
  induction xs generalizing v with
  | nil => cases h; rfl
  | cons d ds ih =>
    rw [List.cons_append]
    simp only [string2llDigits] at h ⊢
    split_ifs at h ⊢
    · exact ih h
    · cases h

/-- A positive decimal starts with a digit `1`–`9`, and the digit loop reads the rest back. -/
theorem decimal_cons_of_pos {n : Nat} (hn : 0 < n) (hmax : n ≤ ullongMax) :
    ∃ k < 9, ∃ ds, decimal n = digitByte (k + 1) :: ds ∧ string2llDigits (k + 1) ds = some (n, []) := by
  induction n using decimal.induct with
  | case1 n hn' =>
    obtain ⟨k, rfl⟩ : ∃ k, n = k + 1 := ⟨n - 1, by omega⟩
    exact ⟨k, by omega, [], decimal_of_lt hn', rfl⟩
  | case2 n hn' ih =>
    obtain ⟨k, hk, ds, hds, hrd⟩ := ih (by omega) (by unfold ullongMax at hmax ⊢; omega)
    refine ⟨k, hk, ds ++ [digitByte (n % 10)], by rw [decimal_of_ge hn', hds]; rfl, ?_⟩
    have hd := digitByte_toNat (Nat.mod_lt n (show 10 > 0 by omega))
    unfold ullongMax at hmax
    rw [string2llDigits_append _ hrd, string2llDigits, if_pos (digitByte_isDigit (Nat.mod_lt _ (by omega))),
      hd, ullongMax, if_neg (by omega), if_neg (by omega)]
    rw [show n / 10 * 10 + (48 + n % 10 - 48) = n by omega]
    rfl

/-- `string2ll` reads back every canonical decimal that fits a `long long`. -/
theorem string2ll_decimal {n : Nat} (h : n < 2 ^ 63) : string2ll (decimal n) = some (n : Int) := by
  rcases Nat.eq_zero_or_pos n with rfl | hn
  · rw [decimal_of_lt (by decide)]
    decide
  obtain ⟨k, hk, ds, hds, hrd⟩ := decimal_cons_of_pos hn (by unfold ullongMax; omega)
  have hneg : ¬ digitByte (k + 1) = 45 := digitByte_ne (by omega) (by decide)
  rw [hds, string2ll]
  · simp only [hneg, if_false, if_pos (digitByte_isLeading hk), digitByte_toNat (show k + 1 < 10 by omega),
      show 48 + (k + 1) - 48 = k + 1 by omega, hrd]
    rw [if_neg (by omega)]
  · exact fun e => absurd e (digitByte_succ_ne_zero hk)

end ProtocolBench.Resp
