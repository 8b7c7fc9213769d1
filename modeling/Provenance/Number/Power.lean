/-!
Powers of numbers. They are the core library's in every module, also in one
that sees the powers of a monoid, so that a bound such as `2 ^ 64` is the same
term in the program and in its theory.
-/

namespace Provenance

@[default_instance 20000]
instance (priority := 20000) natPower {α : Type} [NatPow α] : Pow α Nat := instPowNat

end Provenance
