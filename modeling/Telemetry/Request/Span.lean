import Telemetry.Dictionary
import Telemetry.Http.Header
import Telemetry.Text.Integer
import Telemetry.Text.LetterCase

/-!
Spans of requests, and what is kept of their headers.

A request may name the span of its caller in a header. The first value of that header counts, and
anything but a decimal 64-bit integer means that there is none. A snapshot of headers has one
entry per name, under the name with a capital at the start and after each dash.
-/
namespace Telemetry

/-- The identity of one traced request. The parent is zero if the caller named none. -/
structure SpanContext where
  span : Int64
  parent : Int64
  deriving DecidableEq, Repr

/-- Where fresh spans come from. They are always positive. -/
structure SpanSource where
  ids : Nat → Int64
  positive : ∀ n, 0 < ids n

namespace Span

/-- The header in which a caller names its span. -/
def parentHeader : Http.HeaderName := ⟨"x-dpparentspanid".toList, by decide⟩

def ofValue? (value : Http.HeaderValue) : Option Int64 :=
  value.toChars?.bind fun text => (Text.readInt64 text).toOption

/-- The span that a request's caller names, zero if there is none. -/
def parentOf (headers : Http.Headers) : Int64 :=
  ((headers.get? parentHeader).bind ofValue?).getD 0

def text (span : Int64) : String :=
  String.ofList (Text.decimalInt span.toInt)

/-- Puts a capital where `upper` says so and after each dash, and small letters elsewhere. -/
def canonicalFrom (upper : Bool) : List Char → List Char
  | [] => []
  | c :: rest =>
    (if upper then Text.upperChar c else Text.lowerChar c) ++ canonicalFrom (c = '-') rest

/-- The canonical form of a header name. -/
def canonical (name : List Char) : List Char :=
  canonicalFrom true name

/-- The canonical form of a header name as a string. -/
def canonicalKey (name : String) : String :=
  String.ofList (canonical name.toList)

/-- The values of a header in one text. -/
def joined (values : List Http.HeaderValue) : String :=
  String.intercalate "," (values.map Http.HeaderValue.toStringLossy)

def snapshot (headers : Http.Headers) : Dictionary String String :=
  .ofList (headers.names.map fun name =>
    (String.ofList (canonical name.chars), joined (headers.getAll name)))

end Span

namespace SpanSource

/-- An odd number about as large as the 64-bit words, so that successive spans differ much. -/
def stride : Nat := 11400714819323198485

/-- The spans that follow from a seed: steps of an odd size around the positive 64-bit integers. -/
def seeded (seed : Nat) : SpanSource where
  ids n := Int64.ofNat ((seed + n * stride) % (Text.int64Half - 1) + 1)
  positive n := by
    have h : (seed + n * stride) % (Text.int64Half - 1) < Text.int64Half - 1 :=
      Nat.mod_lt _ (by decide)
    unfold Text.int64Half at *
    rw [Int64.lt_iff_toInt_lt, Int64.toInt_ofNat_of_lt (by omega), Int64.toInt_zero]
    omega

end SpanSource

/-- The span of a request: the `n`-th fresh one, with the parent that its headers name. -/
def SpanSource.draw (source : SpanSource) (n : Nat) (headers : Http.Headers) : SpanContext :=
  ⟨source.ids n, Span.parentOf headers⟩

end Telemetry
