/-
# Byte strings and the encodings of the wire format

Every argument a built-in function receives, every storage key it writes and every transfer
intent it emits is a Go `[]byte`, and the code builds all of them from two encodings:

* `math/big`: `SetBytes` reads a byte string as an unsigned big-endian integer, `Bytes` writes
  one back with no leading zero byte (the empty string for zero), and `Uint64` keeps the low
  64 bits.  Nonces, quantities and royalties travel in this form (`setBytes`, `bigBytes`).
* `encoding/hex`: `EncodeToString` writes two lower-case digits per byte and `DecodeString`
  reads them back (`encodeToString`, `decodeString`); a data field is such segments joined by
  `@` (`joinData`).

The module proves the three round trips the executors are read back through:
`setBytes_bigBytes` (what `saveLatestNonce` writes is what `getLatestNonce` reads),
`decodeString_encodeToString`, and `splitOn_joinData` (a data field splits back into its
segments, because no hex digit is an `@`).  It also fixes the two facts about the fixed-width
Go integers that the gas, nonce and royalty arithmetic needs.
-/
import Mathlib.Data.Nat.Digits
import Mathlib.Data.List.Basic

namespace VmCommon

/-! ## 1. Byte strings -/

/-- A Go `[]byte`.  A Go `string` is the same immutable sequence of bytes, so both are
modelled by this one type. -/
abbrev Bytes := List UInt8

/-- The bytes of a Go string literal made of ASCII characters (every literal the code uses). -/
def ascii (s : String) : Bytes := s.toList.map Char.toUInt8

/-! ## 2. `math/big`: unsigned big-endian integers -/

/-- `new(big.Int).SetBytes(b)`: the bytes read as an unsigned big-endian integer. -/
def setBytes (b : Bytes) : Nat := b.foldl (fun acc x => acc * 256 + x.toNat) 0

/-- The digits of `n`, most significant first, with `fuel` bounding their number. -/
def bigBytesAux : Nat → Nat → Bytes
  | 0, _ => []
  | fuel + 1, n => if n = 0 then [] else bigBytesAux fuel (n / 256) ++ [UInt8.ofNat (n % 256)]

/-- `x.Bytes()` for a non-negative `big.Int` `x = n`: big-endian, with no leading zero byte,
and empty for zero.  `n` itself bounds the number of digits. -/
def bigBytes (n : Nat) : Bytes := bigBytesAux n n

/-- The digits are those of `Nat.digits 256`, reversed. -/
theorem bigBytesAux_eq : ∀ fuel n, n ≤ fuel →
    bigBytesAux fuel n = ((Nat.digits 256 n).map UInt8.ofNat).reverse
  | 0, n, h => by
    obtain rfl : n = 0 := by omega
    simp [bigBytesAux]
  | fuel + 1, n, h => by
    rw [bigBytesAux]
    split
    · next h0 => simp [h0]
    · next h0 =>
      rw [bigBytesAux_eq fuel (n / 256) (by omega),
        @Nat.digits_def' 256 (by norm_num) n (by omega)]
      simp

theorem bigBytes_eq_digits (n : Nat) :
    bigBytes n = ((Nat.digits 256 n).map UInt8.ofNat).reverse :=
  bigBytesAux_eq n n le_rfl

@[simp] theorem bigBytes_zero : bigBytes 0 = [] := rfl

theorem setBytes_append_singleton (b : Bytes) (x : UInt8) :
    setBytes (b ++ [x]) = setBytes b * 256 + x.toNat := by
  simp [setBytes, List.foldl_append]

/-- Reading big-endian is reading the reversed digits little-endian. -/
theorem setBytes_eq_ofDigits (b : Bytes) :
    setBytes b = Nat.ofDigits 256 (b.reverse.map UInt8.toNat) := by
  induction b using List.reverseRecOn with
  | nil => rfl
  | append_singleton b x ih =>
    rw [setBytes_append_singleton, ih]
    simp only [List.reverse_append, List.reverse_cons, List.reverse_nil, List.nil_append,
      List.singleton_append, List.map_cons, Nat.ofDigits_cons]
    ring

/-- **The encoding round trip.**  Every byte of `bigBytes n` is a base-256 digit of `n`, so
reading it back gives `n`. -/
theorem setBytes_bigBytes (n : Nat) : setBytes (bigBytes n) = n := by
  rw [setBytes_eq_ofDigits, bigBytes_eq_digits, List.reverse_reverse, List.map_map]
  conv_rhs => rw [← Nat.ofDigits_digits 256 n, ← List.map_id (Nat.digits 256 n)]
  congr 1
  exact List.map_congr_left fun d hd =>
    UInt8.toNat_ofNat_of_lt (Nat.digits_lt_base (by norm_num) hd)

theorem bigBytes_injective : Function.Injective bigBytes := fun a b h => by
  rw [← setBytes_bigBytes a, h, setBytes_bigBytes]

theorem bigBytes_eq_nil_iff {n : Nat} : bigBytes n = [] ↔ n = 0 := by
  simp [bigBytes_eq_digits, Nat.digits_eq_nil_iff_eq_zero]

/-- A value below `2 ^ 64`, a `uint64`, takes at most eight bytes. -/
theorem length_bigBytes_le {n : Nat} (h : n < 2 ^ 64) : (bigBytes n).length ≤ 8 := by
  rcases Nat.eq_zero_or_pos n with rfl | hn
  · simp
  have hpow := Nat.base_pow_length_digits_le 256 n (by norm_num) hn.ne'
  have hlt : 256 ^ (Nat.digits 256 n).length < 256 ^ 9 := by
    calc 256 ^ (Nat.digits 256 n).length ≤ 256 * n := hpow
      _ < 256 * 2 ^ 64 := by omega
      _ = 256 ^ 9 := by norm_num
  have := (Nat.pow_lt_pow_iff_right (by norm_num : 1 < 256)).mp hlt
  simp only [bigBytes_eq_digits, List.length_reverse, List.length_map]
  omega

/-! ## 3. `uint64` and `uint32`

The code's counters and costs are Go `uint64`s and its royalties a `uint32`; they are modelled
by `UInt64` and `UInt32`, whose arithmetic wraps exactly as Go's does.  These are the bridges
to `Nat` the proofs use. -/

theorem u64_toNat_add (a b : UInt64) : (a + b).toNat = (a.toNat + b.toNat) % 2 ^ 64 := rfl

theorem u64_toNat_mul (a b : UInt64) : (a * b).toNat = (a.toNat * b.toNat) % 2 ^ 64 := rfl

theorem u64_toNat_ofNat (n : Nat) : (UInt64.ofNat n).toNat = n % 2 ^ 64 :=
  BitVec.toNat_ofNat _ _

theorem u64_le_iff (a b : UInt64) : a ≤ b ↔ a.toNat ≤ b.toNat := Iff.rfl

theorem u64_lt_iff (a b : UInt64) : a < b ↔ a.toNat < b.toNat := Iff.rfl

theorem u64_toNat_sub {a b : UInt64} (h : b ≤ a) : (a - b).toNat = a.toNat - b.toNat :=
  UInt64.toNat_sub_of_le a b h

theorem u64_eq_iff (a b : UInt64) : a = b ↔ a.toNat = b.toNat :=
  ⟨congrArg _, fun h => UInt64.eq_of_toBitVec_eq (BitVec.eq_of_toNat_eq h)⟩

theorem u64_toNat_lt (a : UInt64) : a.toNat < 2 ^ 64 := a.toBitVec.isLt

theorem u64_ofNat_toNat (a : UInt64) : UInt64.ofNat a.toNat = a := by
  rw [u64_eq_iff, u64_toNat_ofNat, Nat.mod_eq_of_lt (u64_toNat_lt a)]

/-- Counting up from `L` in `uint64`: `L + 0 = L`, and each step adds one. -/
theorem u64_add_ofNat_zero (L : UInt64) : L + UInt64.ofNat 0 = L := by
  rw [u64_eq_iff, u64_toNat_add, u64_toNat_ofNat]
  have := u64_toNat_lt L
  omega

theorem u64_add_ofNat_succ (L : UInt64) (k : Nat) :
    L + UInt64.ofNat (k + 1) = L + UInt64.ofNat k + 1 := by
  have h1 : (1 : UInt64).toNat = 1 := rfl
  rw [u64_eq_iff, u64_toNat_add, u64_toNat_add, u64_toNat_add, u64_toNat_ofNat, u64_toNat_ofNat, h1]
  omega

theorem u64_ofNat_succ (k : Nat) : UInt64.ofNat (k + 1) = UInt64.ofNat k + 1 := by
  have h1 : (1 : UInt64).toNat = 1 := rfl
  rw [u64_eq_iff, u64_toNat_add, u64_toNat_ofNat, u64_toNat_ofNat, h1]
  omega

/-- The first `2^64` steps up from `L` are distinct. -/
theorem u64_add_ofNat_succ_inj (L : UInt64) {k j : Nat} (hk : k < 2 ^ 64) (hj : j < 2 ^ 64)
    (h : L + UInt64.ofNat (k + 1) = L + UInt64.ofNat (j + 1)) : k = j := by
  rw [u64_eq_iff, u64_toNat_add, u64_toNat_add, u64_toNat_ofNat, u64_toNat_ofNat] at h
  have := u64_toNat_lt L
  omega

/-- `uint32(x)` keeps the low 32 bits. -/
theorem u64_toNat_toUInt32 (a : UInt64) : a.toUInt32.toNat = a.toNat % 2 ^ 32 := rfl

/-! ## 4. `encoding/hex` -/

/-- The lower-case hex digit of a value below 16, as `hex.EncodeToString` writes it. -/
def hexDigit (v : Nat) : UInt8 := if v < 10 then UInt8.ofNat (48 + v) else UInt8.ofNat (87 + v)

/-- `hex.EncodeToString`: two digits per byte, the high half first. -/
def encodeToString : Bytes → Bytes
  | [] => []
  | x :: b => hexDigit (x.toNat / 16) :: hexDigit (x.toNat % 16) :: encodeToString b

/-- `fromHexChar` of `encoding/hex`: both cases of `a`-`f` are accepted. -/
def fromHexChar (c : UInt8) : Option Nat :=
  if 48 ≤ c.toNat ∧ c.toNat ≤ 57 then some (c.toNat - 48)
  else if 97 ≤ c.toNat ∧ c.toNat ≤ 102 then some (c.toNat - 87)
  else if 65 ≤ c.toNat ∧ c.toNat ≤ 70 then some (c.toNat - 55)
  else none

/-- `hex.DecodeString`; `none` is its error (an odd length or a byte that is no hex digit). -/
def decodeString : Bytes → Option Bytes
  | [] => some []
  | [_] => none
  | a :: b :: rest => do
    let hi ← fromHexChar a
    let lo ← fromHexChar b
    let tail ← decodeString rest
    pure (UInt8.ofNat (hi * 16 + lo) :: tail)

/-- Each of the sixteen digits reads back as its own value. -/
theorem fromHexChar_hexDigit : ∀ v < 16, fromHexChar (hexDigit v) = some v := by decide

/-- No hex digit is the separator `@`. -/
theorem hexDigit_ne_at : ∀ v < 16, hexDigit v ≠ 64 := by decide

/-- **`hex.DecodeString` inverts `hex.EncodeToString`.** -/
theorem decodeString_encodeToString (b : Bytes) : decodeString (encodeToString b) = some b := by
  induction b with
  | nil => rfl
  | cons x b ih =>
    have hx : x.toNat < 256 := x.toNat_lt_size
    have hhi := fromHexChar_hexDigit (x.toNat / 16) (by omega)
    have hlo := fromHexChar_hexDigit (x.toNat % 16) (by omega)
    have hbyte : UInt8.ofNat (x.toNat / 16 * 16 + x.toNat % 16) = x := by
      apply UInt8.toNat.inj
      rw [UInt8.toNat_ofNat_of_lt (by simp only [UInt8.size]; omega)]
      omega
    simp only [encodeToString, decodeString, hhi, hlo, ih, Option.bind_eq_bind,
      Option.some_bind, hbyte]
    rfl

theorem at_not_mem_encodeToString (b : Bytes) : (64 : UInt8) ∉ encodeToString b := by
  induction b with
  | nil => simp [encodeToString]
  | cons x b ih =>
    have hx : x.toNat < 256 := x.toNat_lt_size
    simp only [encodeToString, List.mem_cons, not_or]
    exact ⟨(hexDigit_ne_at _ (by omega)).symm, (hexDigit_ne_at _ (by omega)).symm, ih⟩

/-! ## 5. The `@`-separated data field -/

/-- The argument separator of the data field, `@`. -/
def separator : UInt8 := 64

/-- Segments joined by the separator, as `function@arg1@arg2...` is built. -/
def joinData (parts : List Bytes) : Bytes := [separator].intercalate parts

/-- **Splitting a data field on `@` gives back its segments** when none of them holds an `@`. -/
theorem splitOn_joinData {parts : List Bytes} (hsep : ∀ p ∈ parts, separator ∉ p)
    (hne : parts ≠ []) : (joinData parts).splitOn separator = parts :=
  List.splitOn_intercalate parts separator hsep hne

end VmCommon
