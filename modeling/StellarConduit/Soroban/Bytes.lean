import Mathlib.Data.List.Basic

/-!
# Byte strings

The host's string and fixed-length byte types.  A host `String` is any sequence
of bytes, so it is not Lean's `String`; `BytesN n` carries its length.
-/

namespace Soroban

/-- The host's `String`: bytes, not necessarily UTF-8. -/
structure HostString where
  bytes : List UInt8
deriving DecidableEq, Repr

namespace HostString

/-- `String::from_str`. -/
def fromStr (s : String) : HostString := ⟨s.toUTF8.data.toList⟩

/-- The length in bytes. -/
def len (s : HostString) : ℕ := s.bytes.length

end HostString

/-- The host's `BytesN<n>`. -/
structure BytesN (n : ℕ) where
  bytes : List UInt8
  length_eq : bytes.length = n
deriving DecidableEq, Repr

namespace BytesN

/-- `n` copies of the byte `b`, Rust's `[b; n]`. -/
def fill (n : ℕ) (b : UInt8) : BytesN n := ⟨List.replicate n b, List.length_replicate⟩

end BytesN
end Soroban
