import Asyncly.Lib.MultiDict
import Asyncly.Python.Exceptions
import Asyncly.Python.Text

/-!
# Values the client handles and what it takes from its libraries

Headers are ordered multi-dictionaries whose names are compared ignoring case.
A `Runtime` collects the functions of the standard library and of aiohttp whose
code is not part of the client: results about the client hold for every runtime,
under the documented behaviour they name.
-/

namespace Asyncly

/-- `yarl.URL`: its text, and the parts the client reads. -/
structure Url where
  text : String
  scheme : String
  path : String
  deriving DecidableEq, Repr

/-- The pairs of a `CIMultiDict`, in order. -/
abbrev Headers := List (String × String)

namespace Headers

/-- All values of a header name, in any letter case. -/
def getAll (name : String) (headers : Headers) : List String :=
  MultiDict.getAll lower name headers

/-- `headers.get(name)` -/
def get? (name : String) (headers : Headers) : Option String :=
  MultiDict.get? lower name headers

/-- `any(key.lower() == name.lower() for key in headers)` -/
def contains (name : String) (headers : Headers) : Bool :=
  MultiDict.contains lower name headers

/-- `headers[name] = value` -/
def set (name value : String) (headers : Headers) : Headers :=
  MultiDict.set lower name value headers

/-- `headers.popall(name, None)`, the removed values dropped -/
def popAll (name : String) (headers : Headers) : Headers :=
  MultiDict.popAll lower name headers

end Headers

/-- `aiohttp.BasicAuth` -/
structure BasicAuth where
  login : String
  password : String
  encoding : String
  deriving DecidableEq, Repr

/-- `aiohttp.ClientResponse`. Reading the body is up to the handlers, so a body
is any value they can tell apart. -/
structure Response (B : Type) where
  status : Nat
  url : Url
  headers : Headers
  body : B
  deriving DecidableEq

/-- The microseconds of a day. -/
def dayMicroseconds : Int := 24 * 60 * 60 * 1000000

/-- `datetime.datetime`: the wall clock in microseconds since the first day of
year 1, and the offset from UTC of an aware value. Years run to 9999 and offsets
are shorter than a day. -/
structure DateTime where
  wall : Int
  utcoffset : Option Int
  wall_range : 0 ≤ wall ∧ wall < 3652059 * dayMicroseconds
  offset_range : ∀ offset ∈ utcoffset, -dayMicroseconds < offset ∧ offset < dayMicroseconds

namespace DateTime

/-- The instant in UTC; a naive value is read as UTC. -/
def instant (d : DateTime) : Int := d.wall - d.utcoffset.getD 0

/-- Two instants are less than ten thousand and two years apart. -/
theorem instant_sub_lt (a b : DateTime) :
    a.instant - b.instant < 3652061 * dayMicroseconds := by
  have offset : ∀ d : DateTime, -dayMicroseconds < d.utcoffset.getD 0 ∧
      d.utcoffset.getD 0 < dayMicroseconds := by
    intro d
    rcases h : d.utcoffset with _ | o
    · simp [dayMicroseconds]
    · exact d.offset_range o (by rw [h]; rfl)
  have ha := offset a
  have hb := offset b
  have wa := a.wall_range
  have wb := b.wall_range
  simp only [instant]
  omega

end DateTime

/-- Library functions the client calls: the Unicode database, the date parser of
`email.utils` and `BasicAuth.encode`. -/
structure Runtime where
  unicode : UnicodeData
  parsedateToDatetime : String → Except Exn (Option DateTime)
  encodeBasicAuth : BasicAuth → Except Exn String

end Asyncly
