import DigMerkle.Model.Metadata

namespace DigMerkle.SizeBucket

open Library

/-- The bucket size in megabytes, where a megabyte is `2^20` bytes. -/
def megabytes (bucket : SizeBucket) : UInt32 := 1 <<< bucket.k.toUInt32

/-- The bucket size in bytes. -/
def byteLen (bucket : SizeBucket) : UInt64 := 1 <<< (bucket.k.toUInt32 + 20).toUInt64

/-- The buckets of the exponents `0..=MAX_EXPONENT`, in that order. -/
def ladder : List SizeBucket :=
  List.ofFn fun k : Fin (maxExponent.toNat + 1) => ⟨UInt8.ofNat k, by
    rw [UInt8.le_iff_toNat_le, UInt8.toNat_ofNat']
    exact Nat.le_trans (Nat.mod_le _ _) (Nat.le_of_lt_succ k.isLt)⟩

/-- The first bucket that fits wins. -/
def forByteLen (bytes : UInt64) : MerkleResult SizeBucket :=
  match ladder.find? fun bucket => bytes ≤ bucket.byteLen with
  | some bucket => .ok bucket
  | none => .error (.invalidSize s!"size {bytes} bytes exceeds the maximum bucket 2^30 (1 GiB)")

end DigMerkle.SizeBucket
