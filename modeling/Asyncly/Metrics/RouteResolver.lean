import Asyncly.Client.Typing

/-!
# Route labels

The label of a request is its path with identifier-like segments replaced.
-/

namespace Asyncly

/-- A normalization of request URLs into low-cardinality labels. -/
abbrev RouteResolver := Url → String

/-- One segment of a path as it stands in a label. -/
def routeSegment (U : UnicodeData) (segment : List Char) : String :=
  if U.isdigit (String.ofList segment) ||
      ([8, 16, 32, 36].contains segment.length && segment.any U.isAlpha) then ":id"
  else String.ofList segment

/-- `default_route_resolver` -/
def defaultRouteResolver (U : UnicodeData) : RouteResolver := fun url =>
  let parts := ((url.path.toList.splitOn '/').filter fun p => !p.isEmpty).map (routeSegment U)
  if parts.isEmpty then "/" else "/" ++ "/".intercalate parts

end Asyncly
