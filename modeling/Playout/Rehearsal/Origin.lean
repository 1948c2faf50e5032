import Playout.Link
import Playout.Session.Cue
import Playout.Source.Delivery
import Playout.Url.Join

/-!
# Origins

The origin of a rehearsal answers requests for paths from a table. An answer may send the client elsewhere,
may break off before its declared end, and may fail to come at all. Redirects are followed ten times. Where
there is no network, or the host is another one, a request fails before it is sent.
-/

namespace Playout.Rehearsal

/-- What the origin answers for a path. -/
structure Route where
  status : Nat := 200
  /-- The raw value of the content type header, if there is one. -/
  contentType : Option Bytes := none
  body : Bytes := []
  location : Option String := none
  /-- The size that the header declares, where it differs from that of the body. -/
  declared : Option Nat := none
  /-- The connection is closed without an answer. -/
  dropped : Bool := false
deriving DecidableEq, Repr

/-- The host of the sources and its table. -/
structure Origin where
  host : Url.Host := .domain ""
  port : Option Nat := none
  routes : List (String × Route) := []
deriving DecidableEq, Repr

structure Response where
  head : Head
  body : List Source.Arrival
deriving DecidableEq, Repr

def isBlank (b : UInt8) : Bool := b = 9 || b = 0x20

/-- A header value without the blanks around it. -/
def trimBlanks (value : Bytes) : Bytes :=
  ((value.dropWhile isBlank).reverse.dropWhile isBlank).reverse

/-- A header value as text: printable ASCII and tabs, or else nothing. -/
def headerText (value : Bytes) : String :=
  if value.all fun b => b = 9 || (0x20 ≤ b && b < 0x7f) then
    String.ofList ((trimBlanks value).map fun b => Char.ofNat b.toNat)
  else ""

/-- The codes of answers without a body. -/
def bodiless : List Nat := [204, 304]

/-- The codes that send a client elsewhere. -/
def redirects : List Nat := [301, 302, 303, 307, 308]

def redirectLimit : Nat := 10

def unsent (url : Url) : String := s!"error sending request for url ({url.text})"

namespace Route

/-- The response to a client that is not sent elsewhere. -/
def response (r : Route) : Response where
  head := ⟨r.status, headerText (r.contentType.getD [])⟩
  body :=
    if r.status ∈ bodiless then []
    else
      .chunk r.body ::
        (match r.declared with
          | some size =>
            if r.body.length < size then [.fault { reason := "error decoding response body" }]
            else []
          | none => [])

end Route

/-- Requests a source and follows up to `left` redirects. -/
def Origin.follow (o : Origin) (left : Nat) (url : Url) : Except String Response :=
  let route := if url.host = o.host ∧ url.port = o.port then
      (o.routes.lookup url.path).getD { status := 404 }
    else { dropped := true }
  let target := if route.status ∈ redirects then route.location.bind url.join else none
  if route.dropped then .error (unsent url)
  else
    match target, left with
    | none, _ => .ok route.response
    | some _, 0 => .error s!"error following redirect for url ({url.text})"
    | some next, left + 1 => o.follow left next
termination_by left

def Origin.fetch (o : Origin) (link : Link) (url : Url) : Except String Response :=
  match link with
  | .down => .error (unsent url)
  | .up => o.follow redirectLimit url

end Playout.Rehearsal
