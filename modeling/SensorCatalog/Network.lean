import SensorCatalog.Text.Utf8
import SensorCatalog.Url.Objection

/-!
# Fetching over a network

URLs are asked for one after another. The agent that does it opens connections, follows redirects
and waits no longer than it is told to; what it meets on the way can be anything, and may depend on
what was asked for before. So a network is whatever says what comes of asking, and only so much is
known of it: a request for the URL itself arrives before any that a redirect leads to, and a
redirect is followed or given up, but never handed out as an answer.

## Main definitions

* `Network`: what comes of asking for URLs.
* `Network.Exchange`, `Network.Response`: what can come of asking for one.
* `Network.get`, `Network.Call`: asking for a URL.
* `Network.server`, `Network.unreachable`: two networks.
-/

namespace SensorCatalog

/-- The statuses that lead elsewhere. Only one of their hundred does not: 304 says that nothing is
new. -/
def Network.IsRedirect (status : Nat) : Prop :=
  300 ≤ status ∧ status < 400 ∧ status ≠ 304

instance (status : Nat) : Decidable (Network.IsRedirect status) :=
  inferInstanceAs (Decidable (_ ∧ _ ∧ _))

/-- An answer that is handed out, with all that was sent. -/
structure Network.Response where
  /-- The status code. -/
  status : Nat
  /-- What was sent. -/
  body : ByteArray
  /-- The answer does not lead elsewhere. -/
  isFinal : ¬ Network.IsRedirect status := by decide

/-- What comes of asking for a URL. -/
inductive Network.Exchange where
  /-- No request arrives, for this reason. -/
  | lost (reason : String)
  /-- A request for the URL arrives, and then requests with these targets, to which redirects lead.
  At the end there is an answer, or there is none for some reason: the connection or the body breaks
  off, the time is over, the body is too long, or a redirect is given up. -/
  | arrived (redirects : List String) (answer : Except String Network.Response)

/-- What comes of asking for URLs. -/
structure Network where
  /-- What comes of asking for a URL, with this many seconds to get an answer, after these other
  URLs have been asked for. -/
  exchange : Nat → List Url → Url → Network.Exchange

namespace Network

/-! ### Answers -/

/-- The text in an answer. Some statuses say that there is none, whatever was sent. -/
def Response.content (response : Response) : String :=
  if response.status < 200 ∨ response.status = 204 ∨ response.status = 304 then ""
  else Utf8.decodeLossy '?' response.body

/-- The text of an answer, unless its status tells of a failure. -/
def Response.text (response : Response) : Except String String :=
  if 400 ≤ response.status then .error ("http status: " ++ toString response.status)
  else .ok response.content

/-- An answer that does not tell of a failure is no redirect either, so it tells of success, or says
that nothing is new. -/
theorem Response.status_lt_iff (response : Response) :
    response.status < 400 ↔ response.status < 300 ∨ response.status = 304 := by
  have hfinal := response.isFinal
  rw [IsRedirect] at hfinal
  omega

/-- The text that was asked for, or why there is none. -/
def Exchange.text : Exchange → Except String String
  | .lost reason => .error reason
  | .arrived _ (.error reason) => .error reason
  | .arrived _ (.ok response) => response.text

/-! ### Calls -/

/-- A URL that was asked for. -/
structure Call where
  /-- The URL. -/
  url : Url
  /-- What came of it. -/
  exchange : Exchange

/-- Asks for a URL. Nothing is sent if nothing can be asked of the URL. -/
def get (network : Network) (timeout : Nat) (asked : List Url) (url : Url) : Call where
  url
  exchange :=
    match url.objection? with
    | some objection => .lost objection.message
    | none => network.exchange timeout asked url

@[simp] theorem get_url (network : Network) (timeout : Nat) (asked : List Url) (url : Url) :
    (network.get timeout asked url).url = url :=
  rfl

/-- The line of the request with a target. -/
def requestLine (target : String) : String :=
  "GET " ++ target

/-- The lines of the requests that arrived when a URL was asked for, in order. -/
def Call.requests (call : Call) : List String :=
  match call.exchange with
  | .lost _ => []
  | .arrived redirects _ => (call.url.target :: redirects).map requestLine

/-! ### Two networks -/

/-- The answer to a request for what a server has. -/
def Response.found (body : ByteArray) : Response where
  status := 200
  body

/-- The answer to a request for what a server does not know. -/
def Response.unknown : Response where
  status := 404
  body := .empty

/-- A server that has these answers, in this order, and knows of nothing else. -/
def server (responses : List Response) : Network where
  exchange _ asked _ := .arrived [] (.ok (responses.getD asked.length .unknown))

/-- No request arrives anywhere, for this reason. -/
def unreachable (reason : String) : Network where
  exchange _ _ _ := .lost ("io: " ++ reason)

end Network

end SensorCatalog
