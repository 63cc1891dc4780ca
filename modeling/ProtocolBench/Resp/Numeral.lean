import ProtocolBench.Resp.Decimal

/-!
What `string2ll` accepts. Against the grammar `0 | -?[1-9][0-9]*` of canonical numerals
(`canonicalValue`, written from the grammar, not from the code), `string2ll` accepts a byte
string exactly when it is canonical and its value fits a `long long`, and then returns that
value. The digit loop's two guards against `ULLONG_MAX` reject a string exactly when the value
of its digits exceeds `ULLONG_MAX`, since that value only grows digit by digit.
-/

namespace ProtocolBench.Resp

/-- `'0'`–`'9'`. -/
def IsDigit (d : UInt8) : Prop := 48 ≤ d ∧ d ≤ 57

instance : DecidablePred IsDigit := fun d => inferInstanceAs (Decidable (48 ≤ d ∧ d ≤ 57))

/-- The value of the decimal digits `ds` read on from the value `v`. -/
def digitsValue (v : Nat) (ds : List UInt8) : Nat :=
  ds.foldl (fun v d => v * 10 + (d.toNat - 48)) v

/-- `LLONG_MIN` and `LLONG_MAX`. -/
def llongMin : Int := -2 ^ 63

def llongMax : Int := 2 ^ 63 - 1

/-- The canonical numerals `0 | -?[1-9][0-9]*` and the values they spell. -/
def canonicalValue : List UInt8 → Option Int
  | [48] => some 0
  | 45 :: d :: ds =>
    if 49 ≤ d ∧ d ≤ 57 ∧ ∀ x ∈ ds, IsDigit x then some (-(digitsValue (d.toNat - 48) ds : Int))
    else none
  | d :: ds =>
    if 49 ≤ d ∧ d ≤ 57 ∧ ∀ x ∈ ds, IsDigit x then some (digitsValue (d.toNat - 48) ds) else none
  | [] => none

/-- The canonical decimal of a `long long`: `'-'` and the digits of its magnitude when it is
negative. -/
def renderLL (v : Int) : List UInt8 := if v < 0 then 45 :: decimal v.natAbs else decimal v.toNat

section Digits

theorem le_digitsValue (v : Nat) (ds : List UInt8) : v ≤ digitsValue v ds := by
  induction ds generalizing v with
  | nil => exact le_rfl
  | cons d ds ih => exact (show v ≤ v * 10 + (d.toNat - 48) by omega).trans (ih _)

@[simp] theorem digitsValue_cons (v : Nat) (d : UInt8) (ds : List UInt8) :
    digitsValue v (d :: ds) = digitsValue (v * 10 + (d.toNat - 48)) ds := rfl

/-- The digit loop reads all of `ds` exactly when they are digits whose value, read on from `v`,
fits an `unsigned long long`; it then returns that value. -/
theorem string2llDigits_eq_some_nil {v w : Nat} {ds : List UInt8} (hv : v ≤ ullongMax) :
    string2llDigits v ds = some (w, []) ↔
      (∀ x ∈ ds, IsDigit x) ∧ digitsValue v ds ≤ ullongMax ∧ w = digitsValue v ds := by
  induction ds generalizing v with
  | nil =>
    simp only [string2llDigits, Option.some.injEq, Prod.mk.injEq, and_true, List.not_mem_nil,
      false_implies, implies_true, true_and, digitsValue, List.foldl_nil]
    exact ⟨fun h => ⟨hv, h.symm⟩, fun h => h.2.symm⟩
  | cons d ds ih =>
    have hmono := le_digitsValue (v * 10 + (d.toNat - 48)) ds
    simp only [string2llDigits, List.mem_cons, forall_eq_or_imp, digitsValue_cons]
    unfold ullongMax at *
    split_ifs with hd h₁ h₂ <;> simp only [show IsDigit d ↔ 48 ≤ d ∧ d ≤ 57 from Iff.rfl]
    all_goals try have : d.toNat ≤ 57 := hd.2
    · simp only [hd, true_and, false_iff, not_and, not_le]
      omega
    · simp only [hd, true_and, false_iff, not_and, not_le]
      omega
    · rw [ih (by omega)]
      simp only [hd, true_and]
    · refine ⟨fun h => by simp at h, fun h => absurd h.1.1 hd⟩

end Digits

section Characterization

/-- A first digit `1`–`9` and the digit loop: the value when the string is canonical and its
value fits `ULLONG_MAX`. -/
theorem string2llDigits_first {d : UInt8} {ds : List UInt8} {w : Nat} (hd : 49 ≤ d ∧ d ≤ 57) :
    string2llDigits (d.toNat - 48) ds = some (w, []) ↔
      (∀ x ∈ ds, IsDigit x) ∧ digitsValue (d.toNat - 48) ds ≤ ullongMax ∧
        w = digitsValue (d.toNat - 48) ds := by
  have : d.toNat ≤ 57 := hd.2
  exact string2llDigits_eq_some_nil (by unfold ullongMax; omega)

section Sign

/- `sgn` gives the sign of the value and `bound` the largest magnitude of that sign that is a
`long long`: `2 ^ 63` for `-`, `2 ^ 63 - 1` otherwise. -/
variable {d : UInt8} {ds : List UInt8} {v : Int} {bound : Nat} {sgn : Nat → Int}
  (hd : 49 ≤ d ∧ d ≤ 57) (hb : ∀ w, w ≤ bound ↔ llongMin ≤ sgn w ∧ sgn w ≤ llongMax)
include hd hb

/-- The digit loop read every byte: the sign check keeps the value exactly when the string is
canonical and its value is a `long long`. -/
theorem signCheck_eq_some_iff {w : Nat} (hw : string2llDigits (d.toNat - 48) ds = some (w, [])) :
    (if w > bound then none else some (sgn w)) = some v ↔
      (if 49 ≤ d ∧ d ≤ 57 ∧ ∀ x ∈ ds, IsDigit x then some (sgn (digitsValue (d.toNat - 48) ds))
        else none) = some v ∧ llongMin ≤ v ∧ v ≤ llongMax := by
  obtain ⟨hds, -, rfl⟩ := (string2llDigits_first hd).1 hw
  have hcanon : 49 ≤ d ∧ d ≤ 57 ∧ ∀ x ∈ ds, IsDigit x := ⟨hd.1, hd.2, hds⟩
  rw [if_pos hcanon]
  by_cases hover : digitsValue (d.toNat - 48) ds > bound
  · rw [if_pos hover]
    exact iff_of_false (by simp) fun h => absurd ((hb _).2 (Option.some.inj h.1 ▸ h.2)) (by omega)
  · rw [if_neg hover]
    exact ⟨fun h => ⟨h, Option.some.inj h ▸ (hb _).1 (by omega)⟩, fun h => h.1⟩

/-- The digit loop stopped early or overflowed: the string is not canonical, or its value
exceeds `ULLONG_MAX` and so is no `long long`. -/
theorem canonical_notInRange (hbound : bound ≤ ullongMax)
    (hne : ∀ w, string2llDigits (d.toNat - 48) ds ≠ some (w, [])) :
    ¬ ((if 49 ≤ d ∧ d ≤ 57 ∧ ∀ x ∈ ds, IsDigit x then some (sgn (digitsValue (d.toNat - 48) ds))
      else none) = some v ∧ llongMin ≤ v ∧ v ≤ llongMax) := by
  split_ifs with h
  · rintro ⟨hv, hrange⟩
    have hle := (hb _).2 (Option.some.inj hv ▸ hrange)
    exact hne _ ((string2llDigits_first hd).2 ⟨h.2.2, by omega, rfl⟩)
  · simp

end Sign

theorem string2ll_eq_some_iff (s : List UInt8) (v : Int) :
    string2ll s = some v ↔ canonicalValue s = some v ∧ llongMin ≤ v ∧ v ≤ llongMax := by
  have hboundNeg : ∀ w : Nat, w ≤ 2 ^ 63 ↔ llongMin ≤ -(w : Int) ∧ -(w : Int) ≤ llongMax :=
    fun w => by unfold llongMin llongMax; omega
  have hboundPos : ∀ w : Nat, w ≤ 2 ^ 63 - 1 ↔ llongMin ≤ (w : Int) ∧ (w : Int) ≤ llongMax :=
    fun w => by unfold llongMin llongMax; omega
  rcases s with _ | ⟨c, rest⟩
  · simp [string2ll, canonicalValue]
  by_cases h48 : c = 48 ∧ rest = []
  · obtain ⟨rfl, rfl⟩ := h48
    simp only [string2ll, canonicalValue, Option.some.injEq, llongMin, llongMax]
    exact ⟨fun h => h ▸ by decide, fun h => h.1⟩
  rw [string2ll]
  swap
  · exact fun h h' => h48 ⟨h, h'⟩
  by_cases hneg : c = 45
  · subst hneg
    rw [if_pos rfl]
    rcases rest with _ | ⟨d, ds⟩
    · simp [canonicalValue]
    dsimp only
    rw [canonicalValue]
    by_cases hd : 49 ≤ d ∧ d ≤ 57
    · rw [if_pos hd]
      split
      next w hw => rw [if_pos rfl]; exact signCheck_eq_some_iff hd hboundNeg hw
      next hne =>
        exact iff_of_false (by simp)
          (canonical_notInRange hd hboundNeg (by unfold ullongMax; omega) hne)
    · rw [if_neg hd, if_neg (by simp), if_neg (fun h => hd ⟨h.1, h.2.1⟩)]
      simp
  · rw [if_neg hneg]
    dsimp only
    rw [canonicalValue]
    rotate_left
    · exact fun h h' => h48 ⟨h, h'⟩
    · exact fun _ _ h _ => hneg h
    by_cases hd : 49 ≤ c ∧ c ≤ 57
    · rw [if_pos hd]
      split
      next w hw => rw [if_neg hneg]; exact signCheck_eq_some_iff hd hboundPos hw
      next hne =>
        exact iff_of_false (by simp)
          (canonical_notInRange hd hboundPos (by unfold ullongMax; omega) hne)
    · have hone : ¬ (c = 48 ∧ (c :: rest).length = 1) := fun h =>
        h48 ⟨h.1, List.length_eq_zero.1 (by simpa using h.2)⟩
      rw [if_neg hd, if_neg hone, if_neg (fun h => hd ⟨h.1, h.2.1⟩)]
      simp

/-- `'-'` and the decimal of a positive magnitude within `ULLONG_MAX` is canonical. -/
theorem canonicalValue_neg_decimal {n : Nat} (hn : 0 < n) (hmax : n ≤ ullongMax) :
    canonicalValue (45 :: decimal n) = some (-(n : Int)) := by
  obtain ⟨k, hk, ds, hds, hrd⟩ := decimal_cons_of_pos hn hmax
  obtain ⟨hdig, -, hw⟩ := (string2llDigits_eq_some_nil (by unfold ullongMax; omega)).1 hrd
  rw [hds, canonicalValue, digitByte_toNat (by omega), show 48 + (k + 1) - 48 = k + 1 by omega,
    if_pos ⟨(digitByte_isLeading hk).1, (digitByte_isLeading hk).2, hdig⟩, ← hw]

theorem string2ll_renderLL {v : Int} (hlo : llongMin ≤ v) (hhi : v ≤ llongMax) :
    string2ll (renderLL v) = some v := by
  unfold renderLL llongMin llongMax at *
  split_ifs with hneg
  · rw [string2ll_eq_some_iff, canonicalValue_neg_decimal (by omega) (by unfold ullongMax; omega)]
    exact ⟨by congr 1; omega, by unfold llongMin; omega, by unfold llongMax; omega⟩
  · rw [string2ll_decimal (by omega)]
    congr 1
    omega

/-- `string2ll` accepts exactly the canonical numerals whose value fits a `long long`, with that
value; in particular it reads back the canonical decimal of every `long long`. -/
theorem string2ll_acceptsExactlyCanonical :
    (∀ s v, string2ll s = some v ↔ canonicalValue s = some v ∧ llongMin ≤ v ∧ v ≤ llongMax) ∧
    ∀ v, llongMin ≤ v → v ≤ llongMax → string2ll (renderLL v) = some v :=
  ⟨string2ll_eq_some_iff, fun _ => string2ll_renderLL⟩

/- `"-0"`, `"+1"` and `"07"` are not canonical. -/
example : string2ll [45, 48] = none := by decide

example : string2ll [43, 49] = none := by decide

example : string2ll [48, 55] = none := by decide

end Characterization

section Decimal

/-- Each digit byte is the digit of its own value. -/
theorem digitByte_toNat_sub {e : UInt8} (he : IsDigit e) : digitByte (e.toNat - 48) = e := by
  have h₁ : 48 ≤ e.toNat := he.1
  have h₂ : e.toNat ≤ 57 := he.2
  exact UInt8.toNat.inj (by rw [digitByte_toNat (by omega)]; omega)

/-- Digits after a leading `1`–`9` are the decimal of their value. -/
theorem decimal_digitsValue {d : UInt8} (hd : 49 ≤ d ∧ d ≤ 57) (ds : List UInt8)
    (hds : ∀ x ∈ ds, IsDigit x) : decimal (digitsValue (d.toNat - 48) ds) = d :: ds := by
  have h₁ : 49 ≤ d.toNat := hd.1
  have h₂ : d.toNat ≤ 57 := hd.2
  induction ds using List.reverseRecOn with
  | nil =>
    rw [digitsValue, List.foldl_nil, decimal_of_lt (by omega),
      digitByte_toNat_sub ⟨(by omega : 48 ≤ d.toNat), h₂⟩]
  | append_singleton ds e ih =>
    have he : IsDigit e := hds e (List.mem_append_right _ (List.mem_singleton_self e))
    have he₂ : e.toNat ≤ 57 := he.2
    have hval : digitsValue (d.toNat - 48) (ds ++ [e]) =
        digitsValue (d.toNat - 48) ds * 10 + (e.toNat - 48) := by
      rw [digitsValue, List.foldl_append]
      rfl
    have hpos := le_digitsValue (d.toNat - 48) ds
    have ih' := ih fun x hx => hds x (List.mem_append_left _ hx)
    generalize digitsValue (d.toNat - 48) ds = m at hval hpos ih'
    rw [hval, decimal_of_ge (by omega), show (m * 10 + (e.toNat - 48)) / 10 = m by omega,
      show (m * 10 + (e.toNat - 48)) % 10 = e.toNat - 48 by omega, ih', digitByte_toNat_sub he,
      List.cons_append]

/-- A canonical numeral of a value `>= 0` is the decimal of that value. -/
theorem eq_decimal_of_canonicalValue {ds : List UInt8} {v : Int} (h : canonicalValue ds = some v)
    (hv : 0 ≤ v) : ds = decimal v.toNat := by
  unfold canonicalValue at h
  split at h
  · cases h
    rw [Int.toNat_zero, decimal_of_lt (by decide)]
    rfl
  next d ds =>
    -- a `'-'` and a leading digit `1`–`9`: the value is negative
    split_ifs at h with hd
    cases h
    have h₁ : 49 ≤ d.toNat := hd.1
    have := le_digitsValue (d.toNat - 48) ds
    omega
  next d ds _ =>
    split_ifs at h with hd
    cases h
    rw [Int.toNat_natCast, decimal_digitsValue ⟨hd.1, hd.2.1⟩ _ hd.2.2]
  · cases h

/-- `string2ll` reads a value `>= 0` only from its decimal: with `string2ll_decimal`, the decimal
and the values `>= 0` that `string2ll` reads correspond one to one. -/
theorem eq_decimal_of_string2ll {ds : List UInt8} {v : Int} (h : string2ll ds = some v)
    (hv : 0 ≤ v) : ds = decimal v.toNat :=
  eq_decimal_of_canonicalValue ((string2ll_eq_some_iff ds v).1 h).1 hv

end Decimal

end ProtocolBench.Resp
