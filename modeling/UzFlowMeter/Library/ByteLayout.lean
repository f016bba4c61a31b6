import Mathlib.Data.List.Basic

/-!
# Bytes laid out in memory

Big-endian 16-bit numbers, bytes made of two nibbles, and a memory whose
first bytes are given while the others are arbitrary.
-/

namespace ByteLayout

def highByte (value : UInt16) : UInt8 :=
  UInt8.ofNat (value.toNat / 256)

def lowByte (value : UInt16) : UInt8 :=
  UInt8.ofNat (value.toNat % 256)

/-- The two bytes of a number make up the number. -/
theorem join_high_low (value : UInt16) :
    256 * (highByte value).toNat + (lowByte value).toNat =
      value.toNat := by
  have bound : value.toNat < 65536 := value.toNat_lt
  have high : (highByte value).toNat = value.toNat / 256 % 256 :=
    UInt8.toNat_ofNat'
  have low : (lowByte value).toNat = value.toNat % 256 % 256 :=
    UInt8.toNat_ofNat'
  omega

/-- The byte with the given high and low nibbles. -/
def nibbles (high low : Fin 16) : UInt8 :=
  UInt8.ofNat (16 * high.val + low.val)

theorem toNat_nibbles (high low : Fin 16) :
    (nibbles high low).toNat = 16 * high.val + low.val := by
  have fits : 16 * high.val + low.val < 256 := by omega
  exact UInt8.toNat_ofNat_of_lt fits

theorem nibbles_div (high low : Fin 16) :
    (nibbles high low).toNat / 16 = high.val := by
  rw [toNat_nibbles]
  omega

theorem nibbles_mod (high low : Fin 16) :
    (nibbles high low).toNat % 16 = low.val := by
  rw [toNat_nibbles]
  omega

variable {beta : Type*}

/-- The memory that starts with `bytes` and goes on with `beyond`. -/
def overlay (bytes : List beta) (beyond : Nat → beta) (index : Nat) :
    beta :=
  bytes.getD index (beyond index)

/-- Behind a block the memory looks as if it started there. -/
theorem overlay_append
    {block : List beta} {size : Nat} (sized : block.length = size)
    (rest : List beta) (beyond : Nat → beta) (index : Nat) :
    overlay (block ++ rest) beyond (size + index) =
      overlay rest (fun later => beyond (size + later)) index := by
  subst sized
  simp only [overlay, List.getD_eq_getElem?_getD]
  rw [List.getElem?_append_right (Nat.le_add_right _ _),
    Nat.add_sub_cancel_left]

end ByteLayout
