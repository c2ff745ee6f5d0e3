import Mathlib.Tactic.Linarith
import Mathlib.Tactic.Ring

/-! Fixed-width unsigned integers laid out in memory, in either byte order. -/

/-- The order in which the bytes of an integer are laid out in memory. -/
inductive ByteOrder where
  | little | big
  deriving DecidableEq, Repr

namespace ByteOrder

/-- The `w` low bytes of `n`, least significant first; higher bytes are dropped. -/
def littleBytes : ℕ → ℕ → List UInt8
  | 0, _ => []
  | w + 1, n => UInt8.ofNat n :: littleBytes w (n / 256)

def littleValue : List UInt8 → ℕ
  | [] => 0
  | b :: bs => b.toNat + 256 * littleValue bs

/-- The bytes of an object of `w` bytes holding `n`. -/
def encode (o : ByteOrder) (w n : ℕ) : List UInt8 :=
  match o with
  | .little => littleBytes w n
  | .big => (littleBytes w n).reverse

/-- The value read from the bytes of an object. -/
def decode (o : ByteOrder) (bs : List UInt8) : ℕ :=
  match o with
  | .little => littleValue bs
  | .big => littleValue bs.reverse

@[simp] theorem littleBytes_length (w n : ℕ) : (littleBytes w n).length = w := by
  induction w generalizing n with
  | zero => rfl
  | succ w ih => simp [littleBytes, ih]

theorem littleValue_lt (bs : List UInt8) : littleValue bs < 256 ^ bs.length := by
  induction bs with
  | nil => simp [littleValue]
  | cons b bs ih =>
    have hb : b.toNat < 256 := b.toNat_lt
    simp only [littleValue, List.length_cons, pow_succ]
    omega

theorem littleValue_littleBytes (w n : ℕ) : littleValue (littleBytes w n) = n % 256 ^ w := by
  induction w generalizing n with
  | zero => simp [littleValue, littleBytes, Nat.mod_one]
  | succ w ih =>
    have hb : (UInt8.ofNat n).toNat = n % 256 := by simp
    rw [littleBytes, littleValue, ih, hb, pow_succ', Nat.mod_mul]

theorem littleBytes_littleValue (bs : List UInt8) :
    littleBytes bs.length (littleValue bs) = bs := by
  induction bs with
  | nil => rfl
  | cons b bs ih =>
    have hb : b.toNat < 256 := b.toNat_lt
    have hdiv : (b.toNat + 256 * littleValue bs) / 256 = littleValue bs := by omega
    have hmod : UInt8.ofNat (b.toNat + 256 * littleValue bs) = b := by
      apply UInt8.toNat_inj.mp
      simp only [UInt8.toNat_ofNat']
      omega
    simp only [List.length_cons, littleValue, littleBytes, hdiv, hmod, ih]

@[simp] theorem encode_length (o : ByteOrder) (w n : ℕ) : (o.encode w n).length = w := by
  cases o <;> simp [encode]

theorem decode_lt (o : ByteOrder) (bs : List UInt8) : o.decode bs < 256 ^ bs.length := by
  cases o with
  | little => exact littleValue_lt bs
  | big => simpa [decode] using littleValue_lt bs.reverse

theorem decode_encode (o : ByteOrder) (w n : ℕ) : o.decode (o.encode w n) = n % 256 ^ w := by
  cases o <;> simp [encode, decode, littleValue_littleBytes]

theorem decode_encode_of_lt (o : ByteOrder) {w n : ℕ} (h : n < 256 ^ w) :
    o.decode (o.encode w n) = n := by
  rw [decode_encode, Nat.mod_eq_of_lt h]

theorem encode_decode (o : ByteOrder) (bs : List UInt8) :
    o.encode bs.length (o.decode bs) = bs := by
  cases o with
  | little => exact littleBytes_littleValue bs
  | big =>
    have h := littleBytes_littleValue bs.reverse
    rw [List.length_reverse] at h
    simp [encode, decode, h]

/-- Two objects of one size that hold the same value hold the same bytes. -/
theorem decode_inj (o : ByteOrder) {bs cs : List UInt8} (hl : bs.length = cs.length)
    (h : o.decode bs = o.decode cs) : bs = cs := by
  rw [← o.encode_decode bs, ← o.encode_decode cs, hl, h]

theorem littleValue_eq_zero {bs : List UInt8} :
    littleValue bs = 0 ↔ ∀ b ∈ bs, b = 0 := by
  induction bs with
  | nil => simp [littleValue]
  | cons b bs ih =>
    have hb : b.toNat = 0 ↔ b = 0 := by
      rw [← UInt8.toNat_inj]
      simp
    simp only [littleValue, List.mem_cons, forall_eq_or_imp, ← ih, ← hb]
    omega

/-- Zero is laid out in the same way in every byte order. -/
theorem decode_eq_zero (o : ByteOrder) {bs : List UInt8} :
    o.decode bs = 0 ↔ ∀ b ∈ bs, b = 0 := by
  cases o <;> simp [decode, littleValue_eq_zero]

/-- Reading in another byte order keeps zero apart from the other values. -/
theorem decode_encode_eq_zero (o o' : ByteOrder) {w n : ℕ} (h : n < 256 ^ w) :
    o'.decode (o.encode w n) = 0 ↔ n = 0 := by
  rw [decode_eq_zero, ← decode_eq_zero o, decode_encode_of_lt o h]

/-- A 16-bit one read in the other byte order is 256. -/
theorem decode_encode_one {o o' : ByteOrder} (h : o ≠ o') : o'.decode (o.encode 2 1) = 256 := by
  cases o <;> cases o' <;> first | exact absurd rfl h | decide

end ByteOrder
