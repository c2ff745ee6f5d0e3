import Mathlib.Algebra.GroupWithZero.Nat
import Rckam.Library.ByteOrder

/-! The platforms the two programs are compiled for, and the bytes they exchange. -/
namespace Rckam

abbrev Byte := UInt8

/-- The buffers of the preview and the channels of an encoder are numbered by `Fin 2`. -/
instance neZero_two : NeZero 2 := ⟨by decide⟩

inductive WordSize where
  | four | eight
  deriving DecidableEq, Repr

/-- What the layout of native integers depends on: `sizeof(size_t)` and the byte order. -/
structure Platform where
  word : WordSize
  order : ByteOrder
  deriving DecidableEq, Repr

namespace Platform

/-- `sizeof(size_t)`. -/
def sizeT (p : Platform) : ℕ :=
  match p.word with
  | .four => 4
  | .eight => 8

/-- One more than the largest `size_t`. -/
def limit (p : Platform) : ℕ := 256 ^ p.sizeT

/-- The bytes of a native unsigned integer of `w` bytes. -/
def store (p : Platform) (w n : ℕ) : List Byte := p.order.encode w n

/-- The native unsigned integer with these bytes. -/
def load (p : Platform) (bs : List Byte) : ℕ := p.order.decode bs

@[simp] theorem store_length (p : Platform) (w n : ℕ) : (p.store w n).length = w :=
  p.order.encode_length w n

theorem load_store (p : Platform) (w n : ℕ) : p.load (p.store w n) = n % 256 ^ w :=
  p.order.decode_encode w n

theorem load_lt (p : Platform) (bs : List Byte) : p.load bs < 256 ^ bs.length :=
  p.order.decode_lt bs

theorem sizeT_eq (p : Platform) : p.sizeT = 4 ∨ p.sizeT = 8 := by
  cases h : p.word <;> simp [sizeT, h]

theorem limit_ge (p : Platform) : 2 ^ 32 ≤ p.limit := by
  rcases p.sizeT_eq with h | h <;> simp [limit, h]

theorem word_eq_iff (p q : Platform) : p.word = q.word ↔ p.sizeT = q.sizeT := by
  cases hp : p.word <;> cases hq : q.word <;> simp [sizeT, hp, hq]

end Platform

/-- A byte of memory. The programs read its value and copy it; it may carry what they cannot
see, such as where it came from. -/
class Octet (β : Type) where
  value : β → Byte
  /-- what `std::vector::resize` fills with -/
  zero : β

instance : Octet Byte := ⟨id, 0⟩

def values {β : Type} [Octet β] (l : List β) : List Byte := l.map Octet.value

@[simp] theorem values_length {β : Type} [Octet β] (l : List β) :
    (values l).length = l.length := by simp [values]

@[simp] theorem values_byte (l : List Byte) : values l = l := List.map_id l

/-- A byte together with the number of the image it was sent for, if any. -/
structure Tagged where
  byte : Byte
  origin : Option ℕ
  deriving DecidableEq

instance : Octet Tagged := ⟨Tagged.byte, ⟨0, none⟩⟩

/-- The bytes sent for image `i`. -/
def tag (i : ℕ) (l : List Byte) : List Tagged := l.map fun b => ⟨b, some i⟩

@[simp] theorem values_tag (i : ℕ) (l : List Byte) : values (tag i l) = l := by
  simp [values, tag, Octet.value, Function.comp_def]

end Rckam
