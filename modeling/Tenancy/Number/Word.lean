/-!
# Words

The bounds of integers that are kept in words of a fixed width.
-/

namespace Tenancy.Number

def greatestUnsigned32 : Nat := 4294967295

def greatestSigned32 : Int := 2147483647

def leastSigned32 : Int := -2147483648

def greatestUnsigned64 : Nat := 18446744073709551615

def greatestSigned64 : Int := 9223372036854775807

def leastSigned64 : Int := -9223372036854775808

/-- A number of up to 64 bits as the signed word of the same bits. -/
def signedWord (value : Nat) : Int := Int.bmod value (greatestUnsigned64 + 1)

end Tenancy.Number
