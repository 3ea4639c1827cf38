import Modbus.Bytes

/-! # Modbus.Utilities — integrity codes and bit strings

`pymodbus3.utilities` is not among the sources; the framers call four of its
functions and the bit messages two more, modelled here from §4.1 of the
specification:

* `computeCrc`/`checkCrc` — CRC-16 with initial value `0xFFFF` and the reflected
  polynomial `0xA001`, one XOR and eight right shifts a byte, kept as the `u16`
  whose big-endian bytes are the little-endian wire order;
* `computeLrc`/`checkLrc` — the byte sum modulo 256, negated;
* `packBitstring`/`unpackBitstring` — eight bits a byte, the first bit in the
  lowest place, the last byte padded with zeros toward the high bits.

The framers rely on three facts: a CRC fits in 16 bits, `checkCrc d v`
holds exactly when `v = computeCrc d`, and the LRC does not depend on the order
of the bytes (`computeLrc_append_comm`). What the RTU integrity check catches
rests on a fourth: the CRC of a string changes when any one of its bytes does
(`computeCrc_set_ne`).
-/

namespace Modbus

open Bytes

/-- One right shift of the CRC register, with the reflected polynomial on a carry. -/
def crcShift (c : Nat) : Nat :=
  if c % 2 = 1 then c / 2 ^^^ 0xA001 else c / 2

/-- One byte into the register: XOR, then eight shifts. -/
def crcByte (crc : Nat) (b : UInt8) : Nat :=
  crcShift^[8] (crc ^^^ b.toNat)

/-- Modelled from the spec: the CRC register after the bytes of `data` (§4.1). -/
def crcRegister (data : Bytes) : Nat :=
  data.foldl crcByte 0xFFFF

/-- Modelled from the spec: `compute_crc(data)` of `pymodbus3.utilities`, the
register with its two bytes swapped, so that `struct.pack('>H', ...)` puts the
low byte first on the wire (§4.1, scenario S3). -/
def computeCrc (data : Bytes) : Nat :=
  crcRegister data % 256 * 256 + crcRegister data / 256 % 256

/-- Modelled from the spec: `check_crc(data, check)` of `pymodbus3.utilities`. -/
def checkCrc (data : Bytes) (check : Nat) : Bool :=
  computeCrc data == check

/-- Modelled from the spec: `compute_lrc(data)` of `pymodbus3.utilities`, the
byte sum modulo 256, negated (§4.1). -/
def computeLrc (data : Bytes) : Nat :=
  (256 - (data.map UInt8.toNat).sum % 256) % 256

/-- Modelled from the spec: `check_lrc(data, check)` of `pymodbus3.utilities`;
the check value is whatever `int(..., 16)` read. -/
def checkLrc (data : Bytes) (check : Int) : Bool :=
  (computeLrc data : Int) == check

/-- A CRC as `struct.pack('>H', crc)` writes it. -/
def crcBytes (crc : Nat) : Bytes := [UInt8.ofNat (crc / 256), UInt8.ofNat (crc % 256)]

@[simp] theorem length_crcBytes (crc : Nat) : (crcBytes crc).length = 2 := rfl

theorem computeCrc_lt (data : Bytes) : computeCrc data < 65536 := by
  unfold computeCrc
  omega

theorem computeLrc_lt (data : Bytes) : computeLrc data < 256 :=
  Nat.mod_lt _ (by decide)

@[simp] theorem checkCrc_iff (data : Bytes) (v : Nat) : checkCrc data v = true ↔ computeCrc data = v := by
  simp [checkCrc]

/-- The LRC is a function of the byte sum, so the order of two parts does not matter. -/
theorem computeLrc_append_comm (a b : Bytes) : computeLrc (a ++ b) = computeLrc (b ++ a) := by
  simp only [computeLrc, List.map_append, List.sum_append, Nat.add_comm]

/-! ## Single-byte changes

One shift of a 16-bit register can be undone: the top bit of the result says
whether the polynomial went in (`crcUnshift`). So eight shifts, a byte, and a
whole suffix of bytes map different registers to different registers, and a
byte that differs makes the register differ from there on. -/

/-- `crcShift` undone on 16-bit registers: the top bit says whether the
polynomial went in. -/
def crcUnshift (r : Nat) : Nat :=
  if r < 0x8000 then 2 * r else 2 * (r ^^^ 0xA001) + 1

theorem crcShift_lt {c : Nat} (h : c < 65536) : crcShift c < 65536 := by
  unfold crcShift
  split
  · exact Nat.xor_lt_two_pow (n := 16) (by omega) (by decide)
  · omega

theorem crcUnshift_crcShift {c : Nat} (h : c < 65536) : crcUnshift (crcShift c) = c := by
  unfold crcShift crcUnshift
  split
  · have hx : c / 2 < 2 ^ 15 := by omega
    have htop : 2 ^ 15 ≤ c / 2 ^^^ 0xA001 := by
      apply Nat.testBit_implies_ge
      rw [Nat.testBit_xor, Nat.testBit_lt_two_pow hx]
      decide
    rw [if_neg (by omega), Nat.xor_cancel_right]
    omega
  · rw [if_pos (by omega)]
    omega

theorem crcShift_iterate_lt {c : Nat} (h : c < 65536) : ∀ n, crcShift^[n] c < 65536
  | 0 => h
  | n + 1 => by rw [Function.iterate_succ_apply']; exact crcShift_lt (crcShift_iterate_lt h n)

/-- Shifting the register loses nothing. -/
theorem crcShift_iterate_inj {a b : Nat} (ha : a < 65536) (hb : b < 65536) :
    ∀ n, crcShift^[n] a = crcShift^[n] b → a = b
  | 0, h => h
  | n + 1, h => by
    rw [Function.iterate_succ_apply, Function.iterate_succ_apply] at h
    have := crcShift_iterate_inj (crcShift_lt ha) (crcShift_lt hb) n h
    rw [← crcUnshift_crcShift ha, this, crcUnshift_crcShift hb]

theorem xor_byte_lt {c : Nat} (h : c < 65536) (b : UInt8) : c ^^^ b.toNat < 65536 :=
  Nat.xor_lt_two_pow (n := 16) h (by have := b.toNat_lt; omega)

theorem crcByte_lt {c : Nat} (h : c < 65536) (b : UInt8) : crcByte c b < 65536 :=
  crcShift_iterate_lt (xor_byte_lt h b) 8

/-- Different registers stay different after a byte. -/
theorem crcByte_inj_left {c c' : Nat} (hc : c < 65536) (hc' : c' < 65536) (b : UInt8)
    (h : crcByte c b = crcByte c' b) : c = c' :=
  Nat.xor_left_injective (crcShift_iterate_inj (xor_byte_lt hc b) (xor_byte_lt hc' b) 8 h)

/-- Different bytes make different registers. -/
theorem crcByte_inj_right {c : Nat} (hc : c < 65536) {b b' : UInt8}
    (h : crcByte c b = crcByte c b') : b = b' :=
  UInt8.eq_of_val_eq (Fin.ext (Nat.xor_right_injective
    (crcShift_iterate_inj (xor_byte_lt hc b) (xor_byte_lt hc b') 8 h)))

theorem foldl_crcByte_lt (d : Bytes) : ∀ {c : Nat}, c < 65536 → d.foldl crcByte c < 65536 := by
  induction d with
  | nil => exact id
  | cons b d ih => exact fun h => ih (crcByte_lt h b)

theorem foldl_crcByte_inj (d : Bytes) :
    ∀ {c c' : Nat}, c < 65536 → c' < 65536 → d.foldl crcByte c = d.foldl crcByte c' → c = c' := by
  induction d with
  | nil => exact fun _ _ => id
  | cons b d ih =>
    exact fun hc hc' h => crcByte_inj_left hc hc' b (ih (crcByte_lt hc b) (crcByte_lt hc' b) h)

/-- **CRC-16 detects every single-byte change.** -/
theorem crcRegister_set_ne {d : Bytes} {i : Nat} (hi : i < d.length) {y : UInt8} (hy : y ≠ d[i]) :
    crcRegister (d.set i y) ≠ crcRegister d := by
  intro h
  have hd : d = d.take i ++ d[i] :: d.drop (i + 1) := by simp
  have hs : d.set i y = d.take i ++ y :: d.drop (i + 1) := by
    rw [List.set_eq_take_append_cons_drop, if_pos hi]
  have hpre : (d.take i).foldl crcByte 0xFFFF < 65536 := foldl_crcByte_lt _ (by decide)
  rw [crcRegister, crcRegister, hs] at h
  conv at h => rhs; rw [hd]
  simp only [List.foldl_append, List.foldl_cons] at h
  exact hy (crcByte_inj_right hpre (foldl_crcByte_inj _ (crcByte_lt hpre y) (crcByte_lt hpre _) h))

theorem crcRegister_lt (d : Bytes) : crcRegister d < 65536 := foldl_crcByte_lt d (by decide)

theorem computeCrc_set_ne {d : Bytes} {i : Nat} (hi : i < d.length) {y : UInt8} (hy : y ≠ d[i]) :
    computeCrc (d.set i y) ≠ computeCrc d := by
  have h₁ := crcRegister_lt (d.set i y)
  have h₂ := crcRegister_lt d
  have h₃ := crcRegister_set_ne hi hy
  unfold computeCrc
  omega

set_option maxRecDepth 4000 in
/-- The repository's own vectors: the RTU request of scenario S3 and the packet
`test_rtu_framer_packet` expects. -/
example : computeCrc [0, 1, 0, 0, 0, 1] = 0xFC1B ∧ computeCrc [0xFF, 0x01] = 0x8180 := by decide

/-! ## Bit strings -/

/-- The value of up to eight bits, the first in the lowest place. -/
def bitsValue : List Bool → Nat
  | [] => 0
  | b :: bs => b.toNat + 2 * bitsValue bs

/-- `n` bytes of `bits`, eight bits a byte; the last byte takes what is left,
its missing high bits zero. -/
def packBytes : Nat → List Bool → Bytes
  | 0, _ => []
  | n + 1, bits => UInt8.ofNat (bitsValue (bits.take 8)) :: packBytes n (bits.drop 8)

/-- Modelled from the spec: `pack_bitstring(bits)` of `pymodbus3.utilities`,
eight bits a byte, the first bit in the lowest place, the final byte padded
with zeros toward the high bits (§4.1). -/
def packBitstring (bits : List Bool) : Bytes :=
  packBytes ((bits.length + 7) / 8) bits

/-- The `k` low bits of `value`, lowest first. -/
def unpackByte : Nat → Nat → List Bool
  | 0, _ => []
  | k + 1, value => (value % 2 == 1) :: unpackByte k (value / 2)

/-- Modelled from the spec: `unpack_bitstring(string)` of `pymodbus3.utilities`,
the eight bits of every byte, lowest first (§4.1). -/
def unpackBitstring (string : Bytes) : List Bool :=
  string.flatMap fun b => unpackByte 8 b.toNat

example : packBitstring [true, false, true, true, false, false, false, false, true] = [13, 1] := by
  decide
example : unpackBitstring [13, 1] =
    [true, false, true, true, false, false, false, false,
     true, false, false, false, false, false, false, false] := by decide

theorem bitsValue_lt : ∀ bs : List Bool, bitsValue bs < 2 ^ bs.length
  | [] => by decide
  | b :: bs => by
    have := bitsValue_lt bs
    cases b <;> simp [bitsValue, Nat.pow_succ] <;> omega

theorem unpackByte_zero : ∀ k, unpackByte k 0 = List.replicate k false
  | 0 => rfl
  | k + 1 => by rw [unpackByte, unpackByte_zero k]; rfl

/-- Reading `k` bits back gives the bits, then zeros. -/
theorem unpackByte_bitsValue : ∀ (bs : List Bool) (k : Nat), bs.length ≤ k →
    unpackByte k (bitsValue bs) = bs ++ List.replicate (k - bs.length) false
  | [], k, _ => by simpa using unpackByte_zero k
  | b :: bs, k + 1, h => by
    have ih := unpackByte_bitsValue bs k (by simpa using h)
    cases b <;> simp [unpackByte, bitsValue, ih, Nat.add_mul_div_left]

/-- One packed byte unpacks to its bits, padded with zeros to eight. -/
theorem unpackByte_pack {bs : List Bool} (h : bs.length ≤ 8) :
    unpackByte 8 (UInt8.ofNat (bitsValue bs)).toNat = bs ++ List.replicate (8 - bs.length) false := by
  have hv : bitsValue bs < 256 :=
    lt_of_lt_of_le (bitsValue_lt bs) (Nat.pow_le_pow_right (by decide) h)
  rw [toNat_ofNat_byte hv, unpackByte_bitsValue bs 8 h]

/-- `n` bytes of bits, when the bits fill the last one at least in part, unpack
to the bits padded with zeros to `8 * n`. -/
theorem unpack_packBytes : ∀ (n : Nat) (bits : List Bool), bits.length ≤ 8 * n →
    8 * n < bits.length + 8 →
    unpackBitstring (packBytes n bits) = bits ++ List.replicate (8 * n - bits.length) false
  | 0, bits, h, _ => by simp_all [packBytes, unpackBitstring]
  | n + 1, bits, h, h' => by
    have ih := unpack_packBytes n (bits.drop 8) (by simp; omega) (by simp; omega)
    simp only [unpackBitstring] at ih ⊢
    rw [packBytes, List.flatMap_cons, unpackByte_pack (by simp), ih]
    by_cases hb : 8 ≤ bits.length
    · rw [List.length_take_of_le hb, Nat.sub_self, List.replicate_zero, List.append_nil,
        ← List.append_assoc, List.take_append_drop, List.length_drop]
      congr 2
      omega
    · have hn : n = 0 := by omega
      subst hn
      rw [List.drop_eq_nil_of_le (by omega), List.take_of_length_le (by omega)]
      simp

/-- **Packing then unpacking gives the bits back, padded with zeros to a whole
number of bytes.** -/
theorem unpackBitstring_packBitstring (bits : List Bool) :
    unpackBitstring (packBitstring bits) =
      bits ++ List.replicate ((8 - bits.length % 8) % 8) false := by
  rw [packBitstring, unpack_packBytes _ _ (by omega) (by omega)]
  congr 2
  omega

theorem length_packBytes : ∀ (n : Nat) (bits : List Bool), (packBytes n bits).length = n
  | 0, _ => rfl
  | n + 1, bits => by simp [packBytes, length_packBytes n]

@[simp] theorem length_packBitstring (bits : List Bool) :
    (packBitstring bits).length = (bits.length + 7) / 8 :=
  length_packBytes _ _

end Modbus
