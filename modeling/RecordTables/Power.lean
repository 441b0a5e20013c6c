/-! Powers, which mean the same whatever libraries are in use. -/

namespace RecordTables

/-- Powers with natural exponents are those of the core library. -/
@[default_instance high]
instance (priority := high) corePower {α : Type} [NatPow α] : Pow α Nat := instPowNat

end RecordTables
