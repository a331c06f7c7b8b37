import CanScope.Text.Digits

/-!
# Keys

A key names one source of frames: an arbitration id on one bus. Keys are ordered by bus, then by
address, and written as `2:0x7E8`.
-/
namespace CanScope

open CanScope.Text

structure Key where
  bus : UInt8
  address : UInt32
  deriving DecidableEq, Repr, Inhabited

namespace Key

/-- The order by bus, then by address. -/
def le (a b : Key) : Bool := a.bus < b.bus || (a.bus == b.bus && a.address ≤ b.address)

/-- An address with at least three hexadecimal digits. -/
def addressText (address : UInt32) : String := "0x" ++ hex 3 address.toNat

def text (k : Key) : String := toString k.bus.toNat ++ ":" ++ addressText k.address

end Key

end CanScope
