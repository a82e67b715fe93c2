/-!
# Words

The bounds of machine words, and sums and differences that stay within them. A result that does not
fit is replaced by the nearest one that does.

Key results: `toNat_addCapped`, `toNat_subCapped` and `toInt_addClamped` say so in whole numbers.
-/

namespace Gamebook

/-- The greatest word of 32 bits. -/
def maxUInt32 : Nat := 4294967295

/-- The greatest word of 64 bits. -/
def maxUInt64 : Nat := 18446744073709551615

/-- The least signed word of 64 bits. -/
def minInt64 : Int := -9223372036854775808

/-- The greatest signed word of 64 bits. -/
def maxInt64 : Int := 9223372036854775807

/-- The sum of two words, or the largest word if it does not fit. -/
def addCapped (a b : UInt32) : UInt32 := UInt32.ofNat (min maxUInt32 (a.toNat + b.toNat))

theorem toNat_addCapped (a b : UInt32) :
    (addCapped a b).toNat = min maxUInt32 (a.toNat + b.toNat) :=
  UInt32.toNat_ofNat_of_lt' (Nat.lt_of_le_of_lt (Nat.min_le_left _ _) (by decide))

/-- The difference of two words, or zero if it does not exist. -/
def subCapped (a b : UInt32) : UInt32 := UInt32.ofNat (a.toNat - b.toNat)

theorem toNat_subCapped (a b : UInt32) : (subCapped a b).toNat = a.toNat - b.toNat :=
  UInt32.toNat_ofNat_of_lt' (Nat.lt_of_le_of_lt (Nat.sub_le _ _) a.toNat_lt)

/-- The sum of two signed words, or the nearest word if it does not fit. -/
def addClamped (a b : Int64) : Int64 :=
  Int64.ofInt (max minInt64 (min maxInt64 (a.toInt + b.toInt)))

theorem toInt_addClamped (a b : Int64) :
    (addClamped a b).toInt = max minInt64 (min maxInt64 (a.toInt + b.toInt)) := by
  unfold addClamped minInt64 maxInt64
  refine Int64.toInt_ofInt_of_le ?_ ?_ <;> omega

end Gamebook
