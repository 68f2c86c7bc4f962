/-!
# Machine words

The integers that fit in 64 bits, with a sign or without.
-/

namespace CallAudit.Word

/-- One above the largest integer of 63 bits. -/
def signedEnd : Int := 0x8000000000000000

/-- One above the largest integer of 64 bits. -/
def unsignedEnd : Int := 0x10000000000000000

/-- Whether an integer fits in 63 bits and a sign. -/
def fitsSigned (i : Int) : Bool := -signedEnd ≤ i && i < signedEnd

/-- Whether the size of an integer fits in 63 bits. -/
def sizeFits (i : Int) : Bool := -signedEnd < i && i < signedEnd

/-- Whether an integer fits in 64 bits, of which one may be a sign. -/
def fits (i : Int) : Bool := -signedEnd ≤ i && i < unsignedEnd

end CallAudit.Word
