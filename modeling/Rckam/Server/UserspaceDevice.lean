import Mathlib.Data.List.Lex
import Mathlib.Data.Prod.Lex
import Rckam.Common.Text
import Rckam.Library.Grouping

/-! The devices of udev, `UserspaceDevice`, and the order in which `CaptureCard::detect` visits
them. -/
namespace Rckam.Server
open Grouping (sortBy)

/-- `std::isspace`. -/
def isSpace (b : Byte) : Bool := b = 32 ∨ 9 ≤ b ∧ b ≤ 13

def isDigit (b : Byte) : Bool := 48 ≤ b ∧ b ≤ 57

/-- `std::stoul`: the number and the index behind its last digit, unless it throws. An
`unsigned long` has the size of a `size_t`. -/
def stoul (p : Platform) (l : List Byte) : Option (ℕ × ℕ) :=
  let spaces := l.takeWhile isSpace
  let rest := l.drop spaces.length
  let sign : ℕ := if rest.head? = some 45 ∨ rest.head? = some 43 then 1 else 0
  let digits := (rest.drop sign).takeWhile isDigit
  if digits = [] then none
  else if p.limit ≤ decimalValue digits then none
  else
    let value := if rest.head? = some 45 then (p.limit - decimalValue digits) % p.limit
      else decimalValue digits
    some (value, spaces.length + sign + digits.length)

/-- The characters of a `std::string` are compared as unsigned numbers. -/
instance : LinearOrder Byte where
  le_refl := UInt8.le_refl
  le_trans _ _ _ := UInt8.le_trans
  le_antisymm _ _ := UInt8.le_antisymm
  le_total := UInt8.le_total
  lt_iff_le_not_ge a b := by
    rw [UInt8.lt_iff_toNat_lt, UInt8.le_iff_toNat_le, UInt8.le_iff_toNat_le]
    omega
  toDecidableLE := inferInstance

/-- The members that `detect` uses. -/
structure UserspaceDevice where
  devNode : List Byte
  sysName : List Byte
  sysNumString : List Byte

namespace UserspaceDevice

/-- `sysNum`, unless `stoul` throws; the result is an `unsigned`. The index is only good for a
warning. -/
def sysNum (p : Platform) (d : UserspaceDevice) : Option ℕ :=
  (stoul p d.sysNumString).map fun x => x.1 % 2 ^ 32

/-- `sysType`, unless an assertion fails. -/
def sysType (d : UserspaceDevice) : Option (List Byte) :=
  if d.sysNumString.length < d.sysName.length ∧
      d.sysName.drop (d.sysName.length - d.sysNumString.length) = d.sysNumString then
    some (d.sysName.take (d.sysName.length - d.sysNumString.length))
  else none

/-- The comparison that `detect` sorts by. -/
def less (p : Platform) (l r : UserspaceDevice) : Option Bool := do
  if (← l.sysType) < (← r.sysType) then return true
  if (← l.sysType) = (← r.sysType) then return (← l.sysNum p) < (← r.sysNum p)
  return false

end UserspaceDevice

/-- A device whose `sysNum` is a decimal that an `unsigned` can hold, and the end of its
`sysName`. -/
structure VideoDevice extends UserspaceDevice where
  sysNum_ne_nil : sysNumString ≠ []
  sysNum_digits : ∀ b ∈ sysNumString, isDigit b = true
  sysNum_lt : decimalValue sysNumString < 2 ^ 32
  suffix : sysNumString <:+ sysName
  proper : sysNumString ≠ sysName

namespace VideoDevice

def type (d : VideoDevice) : List Byte :=
  d.sysName.take (d.sysName.length - d.sysNumString.length)

def number (d : VideoDevice) : ℕ := decimalValue d.sysNumString

/-- `sysType` and `sysNum`, in lexicographic order. -/
def key (d : VideoDevice) : List Byte ×ₗ ℕ := toLex (d.type, d.number)

/-- A digit is no space and no sign. -/
theorem digit_cases {b : Byte} (h : isDigit b = true) :
    isSpace b = false ∧ b ≠ 45 ∧ b ≠ 43 := by
  have hrange : 48 ≤ b := (of_decide_eq_true h).1
  refine ⟨decide_eq_false ?_, ?_, ?_⟩
  · rintro (rfl | ⟨-, hle⟩)
    · exact absurd hrange (by decide)
    · exact absurd (hrange.trans hle) (by decide)
  · rintro rfl
    exact absurd hrange (by decide)
  · rintro rfl
    exact absurd hrange (by decide)

theorem stoul_digits (p : Platform) {l : List Byte} (hne : l ≠ [])
    (hdigits : ∀ b ∈ l, isDigit b = true) (hlt : decimalValue l < 2 ^ 32) :
    stoul p l = some (decimalValue l, l.length) := by
  obtain ⟨b, rest, rfl⟩ := List.exists_cons_of_ne_nil hne
  obtain ⟨hspace, hsign⟩ := digit_cases (hdigits b List.mem_cons_self)
  have hall : (b :: rest).takeWhile isDigit = b :: rest :=
    List.takeWhile_eq_self_iff.mpr hdigits
  have hlimit : ¬ p.limit ≤ decimalValue (b :: rest) := by
    have hge := p.limit_ge
    omega
  simp [stoul, hspace, hsign, hall, hlimit]

theorem sysNum_eq (p : Platform) (d : VideoDevice) : d.sysNum p = some d.number := by
  unfold UserspaceDevice.sysNum
  rw [stoul_digits p d.sysNum_ne_nil d.sysNum_digits d.sysNum_lt, Option.map_some,
    Nat.mod_eq_of_lt d.sysNum_lt]
  rfl

theorem sysType_eq (d : VideoDevice) : d.sysType = some d.type := by
  have hlt : d.sysNumString.length < d.sysName.length :=
    lt_of_le_of_ne d.suffix.length_le fun h => d.proper (d.suffix.eq_of_length h)
  have hdrop := List.suffix_iff_eq_drop.mp d.suffix
  exact if_pos ⟨hlt, hdrop.symm⟩

/-- The comparison never throws, and it is that of the keys. -/
theorem less_eq (p : Platform) (l r : VideoDevice) :
    l.less p r.toUserspaceDevice = some (decide (l.key < r.key)) := by
  have hlt : l.key < r.key ↔ l.type < r.type ∨ l.type = r.type ∧ l.number < r.number :=
    Prod.Lex.lt_iff
  unfold UserspaceDevice.less
  simp only [sysType_eq, sysNum_eq, hlt]
  by_cases htype : l.type < r.type
  · simp [htype]
  · by_cases hsame : l.type = r.type <;> simp [htype, hsame]

end VideoDevice

/-- `std::sort` with this comparison. -/
def sortDevices (p : Platform) (devices : List VideoDevice) : List VideoDevice :=
  devices.mergeSort fun l r => r.less p l.toUserspaceDevice ≠ some true

theorem sortDevices_eq (p : Platform) (devices : List VideoDevice) :
    sortDevices p devices = sortBy VideoDevice.key devices := by
  unfold sortDevices sortBy
  congr 1
  funext l r
  simp [VideoDevice.less_eq]

end Rckam.Server
