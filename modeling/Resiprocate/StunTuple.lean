import Mathlib

/-! Bytes and transport addresses of the TURN server. -/
namespace Resiprocate.ReTurn

abbrev Data := List UInt8

inductive TransportType
  | none
  | udp
  | tcp
  | tls
  deriving DecidableEq, Repr

/-- An IPv4 address as a number, an IPv6 address as its bytes. -/
inductive Address
  | v4 (address : UInt32)
  | v6 (bytes : Vector UInt8 16)
  deriving DecidableEq

structure StunTuple where
  mTransport : TransportType
  mAddress : Address
  mPort : ℕ
  deriving DecidableEq

end Resiprocate.ReTurn
