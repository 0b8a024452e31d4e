/-!
Points in time.
-/

namespace Flyover

structure Instant where
  nanoseconds : Int
deriving DecidableEq

namespace Instant

def seconds (t : Instant) : Int := t.nanoseconds / 1000000000

def ofSeconds (seconds : Int) (nanoseconds : Int) : Instant := ⟨seconds * 1000000000 + nanoseconds⟩

end Instant

end Flyover
