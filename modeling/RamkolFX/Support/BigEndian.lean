import Mathlib.Data.Nat.Bitwise

/-!
# Big-endian words

The bytes of 16- and 32-bit words, most significant byte first, written with
shifts and masks as a byte-oriented codec writes them, and the words put
together again from their bytes.  Both directions are inverse to each other,
so a word is determined by its bytes and two bytes by the word they form.
-/

namespace Support

/-- The two bytes of a 16-bit word, most significant first. -/
def bytesOfUInt16 (w : UInt16) : List UInt8 :=
  [((w >>> 8) &&& 0xFF).toUInt8, (w &&& 0xFF).toUInt8]

/-- The 16-bit word with the given high and low byte. -/
def uint16OfBytes (hi lo : UInt8) : UInt16 :=
  (hi.toUInt16 <<< 8) ||| lo.toUInt16

/-- The four bytes of a 32-bit word, most significant first. -/
def bytesOfUInt32 (w : UInt32) : List UInt8 :=
  [((w >>> 24) &&& 0xFF).toUInt8, ((w >>> 16) &&& 0xFF).toUInt8,
    ((w >>> 8) &&& 0xFF).toUInt8, (w &&& 0xFF).toUInt8]

/-- The 32-bit word with the given bytes, most significant first. -/
def uint32OfBytes (b₀ b₁ b₂ b₃ : UInt8) : UInt32 :=
  (b₀.toUInt32 <<< 24) ||| (b₁.toUInt32 <<< 16) |||
    (b₂.toUInt32 <<< 8) ||| b₃.toUInt32

@[simp] theorem length_bytesOfUInt16 (w : UInt16) :
    (bytesOfUInt16 w).length = 2 := rfl

@[simp] theorem length_bytesOfUInt32 (w : UInt32) :
    (bytesOfUInt32 w).length = 4 := rfl

theorem land_255 (n : ℕ) : n &&& 255 = n % 256 :=
  Nat.and_two_pow_sub_one_eq_mod n 8

/-- A byte shifted above `k` bits and a value below `2 ^ k` do not overlap. -/
theorem shiftLeft_or_eq_add {a b k : ℕ} (hb : b < 2 ^ k) :
    a <<< k ||| b = a * 2 ^ k + b := by
  rw [← Nat.shiftLeft_add_eq_or_of_lt hb, Nat.shiftLeft_eq]

theorem toNat_uint16OfBytes (hi lo : UInt8) :
    (uint16OfBytes hi lo).toNat = hi.toNat * 256 + lo.toNat := by
  have hhi := hi.toNat_lt
  have hlo := lo.toNat_lt
  have hshift : hi.toNat <<< 8 % 65536 = hi.toNat <<< 8 := by
    rw [Nat.shiftLeft_eq]
    omega
  have hor := shiftLeft_or_eq_add (a := hi.toNat) (k := 8) hlo
  simpa [uint16OfBytes, hshift] using hor

theorem toNat_uint32OfBytes (b₀ b₁ b₂ b₃ : UInt8) :
    (uint32OfBytes b₀ b₁ b₂ b₃).toNat =
      b₀.toNat * 2 ^ 24 + b₁.toNat * 2 ^ 16 + b₂.toNat * 2 ^ 8 + b₃.toNat := by
  have h₀ := b₀.toNat_lt
  have h₁ := b₁.toNat_lt
  have h₂ := b₂.toNat_lt
  have h₃ := b₃.toNat_lt
  have hs₀ : b₀.toNat <<< 24 % 4294967296 = b₀.toNat <<< 24 := by
    rw [Nat.shiftLeft_eq]
    omega
  have hs₁ : b₁.toNat <<< 16 % 4294967296 = b₁.toNat <<< 16 := by
    rw [Nat.shiftLeft_eq]
    omega
  have hs₂ : b₂.toNat <<< 8 % 4294967296 = b₂.toNat <<< 8 := by
    rw [Nat.shiftLeft_eq]
    omega
  have hlow : b₂.toNat <<< 8 ||| b₃.toNat = b₂.toNat * 2 ^ 8 + b₃.toNat :=
    shiftLeft_or_eq_add h₃
  have hmid : b₁.toNat <<< 16 ||| (b₂.toNat * 2 ^ 8 + b₃.toNat) =
      b₁.toNat * 2 ^ 16 + (b₂.toNat * 2 ^ 8 + b₃.toNat) :=
    shiftLeft_or_eq_add (by omega)
  have hhigh : b₀.toNat <<< 24 |||
      (b₁.toNat * 2 ^ 16 + (b₂.toNat * 2 ^ 8 + b₃.toNat)) =
      b₀.toNat * 2 ^ 24 + (b₁.toNat * 2 ^ 16 + (b₂.toNat * 2 ^ 8 + b₃.toNat)) :=
    shiftLeft_or_eq_add (by omega)
  simp only [uint32OfBytes, UInt32.toNat_or, UInt32.toNat_shiftLeft,
    UInt8.toNat_toUInt32, Nat.or_assoc]
  simp only [UInt32.reduceToNat, Nat.reduceMod, Nat.reducePow, hs₀, hs₁, hs₂]
  rw [hlow, hmid, hhigh]
  omega

/-- Reading back the two bytes of a word gives the word. -/
theorem uint16OfBytes_bytes (w : UInt16) :
    uint16OfBytes ((w >>> 8) &&& 0xFF).toUInt8 (w &&& 0xFF).toUInt8 = w := by
  have hw := w.toNat_lt
  apply UInt16.toNat_inj.mp
  rw [toNat_uint16OfBytes]
  simp [land_255, Nat.shiftRight_eq_div_pow]
  omega

/-- Reading back the four bytes of a word gives the word. -/
theorem uint32OfBytes_bytes (w : UInt32) :
    uint32OfBytes ((w >>> 24) &&& 0xFF).toUInt8 ((w >>> 16) &&& 0xFF).toUInt8
      ((w >>> 8) &&& 0xFF).toUInt8 (w &&& 0xFF).toUInt8 = w := by
  have hw := w.toNat_lt
  apply UInt32.toNat_inj.mp
  rw [toNat_uint32OfBytes]
  simp [land_255, Nat.shiftRight_eq_div_pow]
  omega

/-- Two bytes are the bytes of the word they form. -/
theorem bytesOfUInt16_uint16OfBytes (hi lo : UInt8) :
    bytesOfUInt16 (uint16OfBytes hi lo) = [hi, lo] := by
  have hhi := hi.toNat_lt
  have hlo := lo.toNat_lt
  simp only [bytesOfUInt16, List.cons.injEq, and_true]
  constructor
  · apply UInt8.toNat_inj.mp
    simp [toNat_uint16OfBytes, land_255, Nat.shiftRight_eq_div_pow]
    omega
  · apply UInt8.toNat_inj.mp
    simp [toNat_uint16OfBytes, land_255]

/-- Four bytes are the bytes of the word they form. -/
theorem bytesOfUInt32_uint32OfBytes (b₀ b₁ b₂ b₃ : UInt8) :
    bytesOfUInt32 (uint32OfBytes b₀ b₁ b₂ b₃) = [b₀, b₁, b₂, b₃] := by
  have h₀ := b₀.toNat_lt
  have h₁ := b₁.toNat_lt
  have h₂ := b₂.toNat_lt
  have h₃ := b₃.toNat_lt
  have hword := toNat_uint32OfBytes b₀ b₁ b₂ b₃
  simp only [bytesOfUInt32, List.cons.injEq, and_true]
  refine ⟨?_, ?_, ?_, ?_⟩ <;> apply UInt8.toNat_inj.mp <;>
    simp [hword, land_255, Nat.shiftRight_eq_div_pow] <;> omega

end Support
