import Mathlib.Data.List.TakeWhile
import Mathlib.Data.Nat.Digits.Defs
import Rckam.Common.Platform

/-! The texts that the two programs build and take apart. A `std::string` is a list of bytes. -/
namespace Rckam

/-- The bytes of a text of the source. -/
def text (s : String) : List Byte := s.toUTF8.data.toList

def tab : Byte := 9

def newline : Byte := 10

/-- The characters before the terminator of a C string. -/
def cString (l : List Byte) : List Byte := l.takeWhile fun b => b ≠ 0

/-- `std::to_string` of an unsigned integer. -/
def decimal (n : ℕ) : List Byte :=
  if n = 0 then text "0" else (Nat.digits 10 n).reverse.map fun d => UInt8.ofNat (48 + d)

/-- `std::to_string` of an `int`, and the format `%i`. -/
def signedDecimal (n : ℤ) : List Byte :=
  if n < 0 then text "-" ++ decimal n.natAbs else decimal n.natAbs

/-- The text before a character that it does not contain. -/
theorem takeWhile_ne_self {l : List Byte} {b : Byte} (h : b ∉ l) :
    l.takeWhile (fun x => x ≠ b) = l := by
  rw [List.takeWhile_eq_self_iff]
  intro x hx
  have hne : x ≠ b := fun hxb => h (hxb ▸ hx)
  simpa using hne

theorem takeWhile_ne_append {l : List Byte} {b : Byte} (h : b ∉ l) (rest : List Byte) :
    (l ++ b :: rest).takeWhile (fun x => x ≠ b) = l := by
  have hpass : ∀ x ∈ l, (decide (x ≠ b)) = true := by
    intro x hx
    have hne : x ≠ b := fun hxb => h (hxb ▸ hx)
    simpa using hne
  rw [List.takeWhile_append_of_pos hpass, List.takeWhile_cons_of_neg (by simp), List.append_nil]

/-- The characters of a decimal are digits. -/
theorem mem_decimal {n : ℕ} {b : Byte} (hb : b ∈ decimal n) : 48 ≤ b.toNat ∧ b.toNat ≤ 57 := by
  unfold decimal at hb
  split at hb
  · have hzero : text "0" = [48] := by decide
    rw [hzero, List.mem_singleton] at hb
    rw [hb]
    decide
  · obtain ⟨d, hd, rfl⟩ := List.mem_map.mp hb
    have hlt := Nat.digits_lt_base (by decide) (List.mem_reverse.mp hd)
    rw [UInt8.toNat_ofNat']
    omega

theorem tab_notMem_decimal (n : ℕ) : tab ∉ decimal n := by
  intro h
  have hdigit := mem_decimal h
  revert hdigit
  decide

/-- The number that decimal digits stand for. -/
def decimalValue (l : List Byte) : ℕ := l.foldl (fun n b => 10 * n + (b.toNat - 48)) 0

theorem decimalValue_append (l : List Byte) (b : Byte) :
    decimalValue (l ++ [b]) = 10 * decimalValue l + (b.toNat - 48) := by
  simp [decimalValue]

/-- The digits of a number, from the last to the first. -/
theorem decimalValue_digits {digits : List ℕ} (h : ∀ d ∈ digits, d < 10) :
    decimalValue (digits.reverse.map fun d => UInt8.ofNat (48 + d)) = Nat.ofDigits 10 digits := by
  induction digits with
  | nil => rfl
  | cons d digits ih =>
    have hd : (UInt8.ofNat (48 + d)).toNat - 48 = d := by
      have hlt := h d List.mem_cons_self
      rw [UInt8.toNat_ofNat']
      omega
    rw [List.reverse_cons, List.map_append, List.map_singleton, decimalValue_append, hd,
      ih fun x hx => h x (List.mem_cons_of_mem d hx), Nat.ofDigits_cons, Nat.add_comm]

@[simp] theorem decimalValue_decimal (n : ℕ) : decimalValue (decimal n) = n := by
  unfold decimal
  split
  · next hzero =>
    subst hzero
    decide
  · rw [decimalValue_digits fun d hd => Nat.digits_lt_base (by decide) hd, Nat.ofDigits_digits]

/-- The number that a decimal with a sign stands for. -/
def signedDecimalValue (l : List Byte) : ℤ :=
  match l with
  | 45 :: digits => -(decimalValue digits : ℤ)
  | digits => decimalValue digits

theorem decimal_head_ne {n : ℕ} {l : List Byte} (h : decimal n = 45 :: l) : False := by
  have hdigit := mem_decimal (n := n) (h ▸ List.mem_cons_self)
  revert hdigit
  decide

@[simp] theorem signedDecimalValue_signedDecimal (n : ℤ) :
    signedDecimalValue (signedDecimal n) = n := by
  unfold signedDecimal
  split
  · next hneg =>
    have hsign : text "-" = [45] := by decide
    rw [hsign, List.singleton_append]
    simp only [signedDecimalValue, decimalValue_decimal]
    omega
  · next hpos =>
    unfold signedDecimalValue
    split
    · next l hl => exact (decimal_head_ne hl).elim
    · rw [decimalValue_decimal]
      omega

theorem tab_notMem_signedDecimal (n : ℤ) : tab ∉ signedDecimal n := by
  unfold signedDecimal
  split
  · rw [List.mem_append, not_or]
    exact ⟨by decide, tab_notMem_decimal _⟩
  · exact tab_notMem_decimal _

theorem cString_append {l l' : List Byte} (h : 0 ∈ l) : cString (l ++ l') = cString l := by
  induction l with
  | nil => contradiction
  | cons b l ih =>
    by_cases hb : b = 0
    · simp [cString, hb]
    · have hl : 0 ∈ l := by
        rcases List.mem_cons.mp h with h0 | h0
        · exact absurd h0.symm hb
        · exact h0
      have hcons (m : List Byte) : cString (b :: m) = b :: cString m := by simp [cString, hb]
      rw [List.cons_append, hcons, hcons, ih hl]

theorem cString_eq_self {l : List Byte} (h : 0 ∉ l) : cString l = l := takeWhile_ne_self h

end Rckam
