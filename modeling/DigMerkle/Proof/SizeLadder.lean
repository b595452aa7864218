import DigMerkle.Library.Ladder
import DigMerkle.Model.SizeLadder
import Mathlib.Algebra.Group.Nat.Defs

namespace DigMerkle

open Library

namespace SizeBucket

/-- Buckets are ordered by their exponents. -/
instance : LinearOrder SizeBucket := LinearOrder.lift' (fun bucket => bucket.exponent.toNat) (by
  intro bucket other same
  obtain ⟨k, valid⟩ := bucket
  obtain ⟨k', valid'⟩ := other
  cases UInt8.toNat_inj.mp same
  rfl)

theorem le_iff_exponent {bucket other : SizeBucket} : bucket ≤ other ↔ bucket.exponent ≤ other.exponent :=
  UInt8.le_iff_toNat_le.symm

theorem exponent_toNat_le (bucket : SizeBucket) : bucket.k.toNat ≤ 10 := UInt8.le_iff_toNat_le.mp bucket.valid

theorem shifts_within (bucket : SizeBucket) :
    bucket.k.toUInt32.toNat < 32 ∧ (bucket.k.toUInt32 + 20).toNat = bucket.k.toNat + 20 ∧
      (bucket.k.toUInt32 + 20).toNat < 64 := by
  have small := bucket.exponent_toNat_le
  have sum : (bucket.k.toUInt32 + 20).toNat = bucket.k.toNat + 20 := by
    rw [UInt32.toNat_add, UInt8.toNat_toUInt32]
    exact Nat.mod_eq_of_lt (by change bucket.k.toNat + 20 < 2 ^ 32; omega)
  rw [sum, UInt8.toNat_toUInt32]
  omega

theorem megabytes_toNat (bucket : SizeBucket) : bucket.megabytes.toNat = 2 ^ bucket.k.toNat := by
  have small := bucket.exponent_toNat_le
  have below : 2 ^ bucket.k.toNat < 2 ^ 32 := Nat.pow_lt_pow_right (by decide) (by omega)
  rw [megabytes, UInt32.toNat_shiftLeft, UInt8.toNat_toUInt32, Nat.mod_eq_of_lt (show bucket.k.toNat < 32 by omega),
    Nat.shiftLeft_eq, show (1 : UInt32).toNat = 1 from rfl, Nat.one_mul, Nat.mod_eq_of_lt below]

theorem byteLen_toNat (bucket : SizeBucket) : bucket.byteLen.toNat = 2 ^ (bucket.k.toNat + 20) := by
  obtain ⟨_, amount, narrow⟩ := bucket.shifts_within
  have below : 2 ^ (bucket.k.toNat + 20) < 2 ^ 64 := Nat.pow_lt_pow_right (by decide) (by omega)
  rw [byteLen, UInt64.toNat_shiftLeft, UInt32.toNat_toUInt64, Nat.mod_eq_of_lt narrow, amount,
    Nat.shiftLeft_eq, show (1 : UInt64).toNat = 1 from rfl, Nat.one_mul, Nat.mod_eq_of_lt below]

theorem byteLen_ladder : Ladder (fun bucket => bucket.byteLen.toNat) ladder where
  ascending := by decide
  complete bucket := by
    have small := bucket.exponent_toNat_le
    rw [ladder, List.mem_ofFn]
    refine ⟨⟨bucket.k.toNat, Nat.lt_succ_of_le small⟩, ?_⟩
    cases bucket
    simp
  grows := by
    intro bucket other lower
    change bucket.byteLen.toNat < other.byteLen.toNat
    rw [byteLen_toNat, byteLen_toNat]
    exact Nat.pow_lt_pow_right (by decide) (Nat.add_lt_add_right lower 20)

theorem forByteLen_eq_ok {bytes : UInt64} {bucket : SizeBucket} :
    forByteLen bytes = .ok bucket ↔
      firstFit (fun bucket => bucket.byteLen.toNat) ladder bytes.toNat = some bucket := by
  simp only [forByteLen, firstFit, ← UInt64.le_iff_toNat_le]
  cases ladder.find? fun bucket => decide (bytes ≤ bucket.byteLen) <;> simp

/-- The bucket found is no larger than one that holds the length, and only then. -/
theorem forByteLen_le_iff (bytes : UInt64) (bucket : SizeBucket) :
    (∃ found, forByteLen bytes = .ok found ∧ found.exponent ≤ bucket.exponent) ↔ bytes ≤ bucket.byteLen := by
  simp only [forByteLen_eq_ok, ← le_iff_exponent, UInt64.le_iff_toNat_le]
  exact firstFit_le_iff byteLen_ladder.ascending byteLen_ladder.grows (byteLen_ladder.complete bucket)

/-- The largest bucket. -/
def ceiling : SizeBucket := ⟨maxExponent, UInt8.le_refl _⟩

theorem forByteLen_fails_iff (bytes : UInt64) : Fails (forByteLen bytes) ↔ 2 ^ 30 < bytes.toNat := by
  have top := forByteLen_le_iff bytes ceiling
  rw [UInt64.le_iff_toNat_le, byteLen_toNat] at top
  rw [← not_le, show 2 ^ 30 = 2 ^ (ceiling.k.toNat + 20) from rfl, ← top, ← not_iff_not, not_fails_iff, not_not]
  exact exists_congr fun found => (and_iff_left found.valid).symm

theorem forByteLen_mono {bytes longer : UInt64} {bucket larger : SizeBucket} (shorter : bytes ≤ longer)
    (found : forByteLen bytes = .ok bucket) (foundLonger : forByteLen longer = .ok larger) :
    bucket.exponent ≤ larger.exponent := by
  have grows := byteLen_ladder.gc.monotone_l (WithTop.coe_le_coe.mpr (UInt64.le_iff_toNat_le.mp shorter))
  rw [topFit_eq_coe.mpr (forByteLen_eq_ok.mp found), topFit_eq_coe.mpr (forByteLen_eq_ok.mp foundLonger),
    WithTop.coe_le_coe] at grows
  exact le_iff_exponent.mp grows

theorem forByteLen_smallest {bytes : UInt64} {bucket : SizeBucket} (found : forByteLen bytes = .ok bucket) :
    bytes ≤ bucket.byteLen ∧ ∀ other : SizeBucket, bytes ≤ other.byteLen → bucket.exponent ≤ other.exponent := by
  constructor
  · exact (forByteLen_le_iff bytes bucket).mp ⟨bucket, found, UInt8.le_refl _⟩
  · intro other holds
    obtain ⟨bucket', found', smaller⟩ := (forByteLen_le_iff bytes other).mpr holds
    cases found.symm.trans found'
    exact smaller

theorem forByteLen_byteLen (bucket : SizeBucket) : forByteLen bucket.byteLen = .ok bucket :=
  forByteLen_eq_ok.mpr (topFit_eq_coe.mp (byteLen_ladder.topFit_capacity bucket))

/-- Finding a bucket is adjoint to its capacity, and fails above the ceiling alone. So
it is monotone, finds the smallest bucket that fits and gives each capacity its own, and
no bucket's shifts overflow. -/
theorem forByteLen_adjoint_byteLen :
    (∀ (bytes : UInt64) (bucket : SizeBucket),
      (∃ found, forByteLen bytes = .ok found ∧ found.exponent ≤ bucket.exponent) ↔ bytes ≤ bucket.byteLen) ∧
    (∀ bytes, Fails (forByteLen bytes) ↔ 2 ^ 30 < bytes.toNat) ∧
    (∀ bytes longer bucket larger, bytes ≤ longer → forByteLen bytes = .ok bucket →
      forByteLen longer = .ok larger → bucket.exponent ≤ larger.exponent) ∧
    (∀ bytes bucket, forByteLen bytes = .ok bucket → bytes ≤ bucket.byteLen ∧
      ∀ other : SizeBucket, bytes ≤ other.byteLen → bucket.exponent ≤ other.exponent) ∧
    (∀ bucket : SizeBucket, forByteLen bucket.byteLen = .ok bucket) ∧
    ∀ bucket : SizeBucket, bucket.byteLen.toNat = bucket.megabytes.toNat * 2 ^ 20 ∧
      bucket.megabytes.toNat = 2 ^ bucket.exponent.toNat ∧
      bucket.k.toUInt32.toNat < 32 ∧ (bucket.k.toUInt32 + 20).toNat = bucket.k.toNat + 20 ∧
      (bucket.k.toUInt32 + 20).toNat < 64 := by
  refine ⟨forByteLen_le_iff, forByteLen_fails_iff, fun _ _ _ _ => forByteLen_mono,
    fun _ _ => forByteLen_smallest, forByteLen_byteLen, fun bucket => ⟨?_, megabytes_toNat bucket, shifts_within bucket⟩⟩
  rw [byteLen_toNat, megabytes_toNat, Nat.pow_add]

theorem past_one_mebibyte : ∃ found, forByteLen 1048577 = .ok found ∧ found.exponent ≤ 1 :=
  (forByteLen_adjoint_byteLen.1 1048577 ⟨1, by decide⟩).mpr (by decide)

end SizeBucket

end DigMerkle
