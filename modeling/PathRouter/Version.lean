/-!
# Version and limits

The version of the library, and how large a configuration may be that it loads.
-/

namespace PathRouter

/-- The version of the router. -/
def version : String := "0.1.0"

/-- The largest number of routes in a configuration. -/
def maxRoutes : Nat := 1024

/-- The largest length of a pattern in a configuration. -/
def maxPatternLength : Nat := 2048

end PathRouter
