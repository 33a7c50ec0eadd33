import Spiderfire.Fetch.Headers
import Spiderfire.Fetch.Url

namespace Spiderfire

/-- The http crate's `Method`: the standard methods and any extension method. -/
inductive Method where
  | GET | HEAD | POST | PUT | DELETE | CONNECT | OPTIONS | TRACE | PATCH
  | extension (name : String)
  deriving DecidableEq, Repr

/-- `FetchBody`'s `FetchBodyInner`: no body, or buffered bytes. The body's script source and
kind are not read by the pipeline. -/
inductive FetchBody where
  | None
  | Bytes (data : List UInt8)
  deriving DecidableEq, Repr

namespace FetchBody

/-- `FetchBody::is_none`. -/
def isNone : FetchBody → Bool
  | .None => true
  | .Bytes _ => false

/-- `FetchBody::len`. -/
def len : FetchBody → Option Nat
  | .None => none
  | .Bytes data => some data.length

/-- `FetchBody::is_stream`: `!matches!(None | Bytes(_))`, false for every body. -/
def isStream : FetchBody → Bool
  | .None | .Bytes _ => false

/-- `is_not_stream`, which main_fetch calls: the negation of `is_stream`. -/
def isNotStream (body : FetchBody) : Bool := !body.isStream

end FetchBody

inductive RequestMode where
  | SameOrigin | NoCors | Cors
  deriving DecidableEq, Repr

inductive RequestCredentials where
  | Omit | SameOrigin | Include
  deriving DecidableEq, Repr

inductive RequestCache where
  | Default | NoStore | Reload | NoCache | ForceCache | OnlyIfCached
  deriving DecidableEq, Repr

inductive RequestRedirect where
  | Follow | Error | Manual
  deriving DecidableEq, Repr

inductive Referrer where
  | NoReferrer | Client
  | Url (url : Url)

inductive ReferrerPolicy where
  | None | NoReferrer | NoReferrerWhenDowngrade | SameOrigin | Origin | StrictOrigin
  | OriginWhenCrossOrigin | StrictOriginWhenCrossOrigin | UnsafeUrl
  deriving DecidableEq, Repr

/-- Modelled from the spec: `ReferrerPolicy::from_str` (request.rs, missing) reads the Referrer
Policy keywords. -/
def ReferrerPolicy.fromStr : String → Option ReferrerPolicy
  | "" => some .None
  | "no-referrer" => some .NoReferrer
  | "no-referrer-when-downgrade" => some .NoReferrerWhenDowngrade
  | "same-origin" => some .SameOrigin
  | "origin" => some .Origin
  | "strict-origin" => some .StrictOrigin
  | "origin-when-cross-origin" => some .OriginWhenCrossOrigin
  | "strict-origin-when-cross-origin" => some .StrictOriginWhenCrossOrigin
  | "unsafe-url" => some .UnsafeUrl
  | _ => none

/-- Modelled from the spec: `Request` (request.rs, missing) as the pipeline reads it: the
method of its `http::Request`, the URL, the header map of its `Headers` object, the body, the
fetch options and the URLs of the redirects followed so far. -/
structure Request where
  method : Method
  url : Url
  headers : HeaderMap
  body : FetchBody
  mode : RequestMode
  credentials : RequestCredentials
  cache : RequestCache
  redirect : RequestRedirect
  referrer : Referrer
  referrerPolicy : ReferrerPolicy
  clientWindow : Bool
  locations : List Url

end Spiderfire
