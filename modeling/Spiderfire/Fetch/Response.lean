import Spiderfire.Fetch.Request

namespace Spiderfire

inductive ResponseKind where
  | Basic | Cors | Opaque | OpaqueRedirect | Error
  deriving DecidableEq, Repr

/-- `ResponseTaint`; its default is `Basic`. -/
inductive ResponseTaint where
  | Basic | Cors | Opaque
  deriving DecidableEq, Repr

/-- `Response`, with the header map of its `Headers` object. -/
structure Response where
  kind : ResponseKind
  url : Option Url
  status : Option Nat
  statusText : Option String
  headers : HeaderMap
  body : Option (List UInt8)
  redirected : Bool
  rangeRequested : Bool

/-- Modelled from the spec: `network_error` (response.rs, missing), the error response whose
status, URL, body and headers read as absent or empty. -/
def networkError : Response :=
  ⟨.Error, none, none, none, HeaderMap.empty, none, false, false⟩

/-- What the HTTP client answers: status, reason phrase, headers and body. -/
structure IncomingResponse where
  status : Nat
  reason : Option String
  headers : HeaderMap
  body : List UInt8

namespace Response

/-- Modelled from the spec: `Response::new` (response.rs, missing) wraps the client's response
under the request's URL. -/
def new (incoming : IncomingResponse) (url : Url) : Response :=
  ⟨.Basic, some url, some incoming.status, incoming.reason, incoming.headers, some incoming.body,
    false, false⟩

/-- Modelled from the spec: `Response::new_from_bytes` (response.rs, missing), an immediate 200
response with the bytes as its body. -/
def newFromBytes (bytes : List UInt8) (url : Url) (headers : HeaderMap) : Response :=
  ⟨.Basic, some url, some 200, none, headers, some bytes, false, false⟩

end Response

end Spiderfire
