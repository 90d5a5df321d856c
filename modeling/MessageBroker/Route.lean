/-!
# Routes and patterns

A route is a text of segments separated by slashes, and so is a pattern. They match if they agree at
every place that both have: equal segments, or a lone star on either side. The longer one may go on
as it likes, so `bar/*` matches `bar/foo/baz` and `bar/*/foo` also matches `bar/foo`. Empty text is
neither a route nor a pattern and matches nothing.
-/

namespace MessageBroker

namespace Route

/-- A stretch of a route between slashes. -/
abbrev Segment := List Char

/-- The segments of a text: one more than it has slashes. -/
def segmentsOf : List Char → List Segment
  | [] => [[]]
  | c :: rest =>
    if c = '/' then [] :: segmentsOf rest
    else
      match segmentsOf rest with
      | [] => [[c]]
      | segment :: more => (c :: segment) :: more

/-- The segments of a route. -/
def segments (route : String) : List Segment :=
  segmentsOf route.toList

/-- Put segments together again, a slash between each two. -/
def join : List Segment → List Char
  | [] => []
  | [segment] => segment
  | segment :: more => segment ++ '/' :: join more

/-- Whether a segment stands for any segment. -/
def isWild (segment : Segment) : Bool :=
  segment == ['*']

/-- Whether two segments agree. -/
def segmentAgrees (a b : Segment) : Bool :=
  a == b || isWild a || isWild b

/-- Whether two lists of segments agree wherever both have one. -/
def agrees : List Segment → List Segment → Bool
  | a :: as, b :: bs => segmentAgrees a b && agrees as bs
  | _, _ => true

/-- Whether a message published on `route` belongs to `pattern`. -/
def matchesText (route pattern : String) : Bool :=
  !route.isEmpty && !pattern.isEmpty && agrees (segments route) (segments pattern)

end Route

/-- A route pattern: any text but the empty one. -/
structure Pattern where
  text : String
  nonempty : text.isEmpty = false
deriving DecidableEq

namespace Pattern

/-- The pattern with a given text. -/
def ofText? (text : String) : Option Pattern :=
  if h : text.isEmpty = false then some ⟨text, h⟩ else none

/-- The segments of a pattern. -/
def segments (p : Pattern) : List Route.Segment :=
  Route.segments p.text

/-- The number of segments. -/
def depth (p : Pattern) : Nat :=
  p.segments.length

/-- Whether a message published on `route` belongs to the pattern. -/
def accepts (p : Pattern) (route : String) : Bool :=
  !route.isEmpty && Route.agrees (Route.segments route) p.segments

end Pattern

end MessageBroker
