/-!
# `RecordQuery.Power` — powers of natural numbers

Libraries of algebra have powers of their own. Powers of natural numbers are the core library's here,
so that a definition means the same whatever is imported beside it.
-/

namespace RecordQuery

instance (priority := 2000) natPower : Pow Nat Nat := instPowNat

attribute [default_instance 20000] instPowNat

end RecordQuery
