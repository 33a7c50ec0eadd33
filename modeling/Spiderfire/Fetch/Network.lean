import Spiderfire.Fetch.Response
import Spiderfire.Basic

namespace Spiderfire

/-- The `unwrap`s of the fetch pipeline that can fail, by call site. -/
inductive Panic where
  /-- `location.next().unwrap()` in http_redirect_fetch. -/
  | locationNext
  /-- `str::from_utf8(location.as_bytes()).unwrap()` in http_redirect_fetch. -/
  | locationUtf8
  /-- `str::from_utf8(v.as_bytes()).unwrap()` on a `Referrer-Policy` value. -/
  | referrerPolicyUtf8
  /-- `url.to_file_path().unwrap()` in scheme_fetch. -/
  | filePath
  /-- `host_str().map(..).unwrap()` in http_network_fetch. -/
  | host
  /-- `HeaderValue::from_str(..).unwrap()`. -/
  | headerValue
  /-- `response.url.take().unwrap()` in main_fetch. -/
  | responseUrl
  deriving DecidableEq, Repr

/-- The collaborators the pipeline runs against: the HTTP client, which answers a request
knowing every request sent before it (`none`: a transport error), the file system, the url
crate's parser (with a base URL), and the crate version the default user agent names. -/
structure Env where
  send : List Request → Request → Option IncomingResponse
  read : String → Option (List UInt8)
  parse : Option Url → String → Option Url
  version : String

/-- A computation of the pipeline: from the requests the client was sent so far, its result or
a panic, and the requests sent by then, which stay sent when it panics. -/
def FetchM (α : Type) : Type := List Request → Except Panic α × List Request

namespace FetchM

variable {α β : Type}

def pure (a : α) : FetchM α := fun sent => (.ok a, sent)

def bind (x : FetchM α) (f : α → FetchM β) : FetchM β := fun sent =>
  match x sent with
  | (.ok a, sent) => f a sent
  | (.error p, sent) => (.error p, sent)

instance : Monad FetchM where
  pure := FetchM.pure
  bind := FetchM.bind

/-- A computation that reads nothing and may panic. -/
def lift (x : Except Panic α) : FetchM α := fun sent => (x, sent)

/-- `client.request(..)`: the client's answer; the request joins those sent. -/
def send (env : Env) (request : Request) : FetchM (Option IncomingResponse) :=
  fun sent => (.ok (env.send sent request), sent ++ [request])

@[simp] theorem pure_apply (a : α) (sent : List Request) :
    (Pure.pure a : FetchM α) sent = (.ok a, sent) := rfl

@[simp] theorem lift_apply (x : Except Panic α) (sent : List Request) :
    lift x sent = (x, sent) := rfl

@[simp] theorem send_apply (env : Env) (request : Request) (sent : List Request) :
    send env request sent = (.ok (env.send sent request), sent ++ [request]) := rfl

theorem bind_apply (x : FetchM α) (f : α → FetchM β) (sent : List Request) :
    (x >>= f) sent = match x sent with
      | (.ok a, sent) => f a sent
      | (.error p, sent) => (.error p, sent) := rfl

end FetchM

/-- `.unwrap()` of an `Option`. -/
def orPanic {α : Type} (value : Option α) (p : Panic) : Except Panic α :=
  match value with
  | some a => .ok a
  | none => .error p

/-- `DEFAULT_USER_AGENT`. -/
def defaultUserAgent (version : String) : String := "Spiderfire/" ++ version

/-- The conditional request headers that turn the `default` cache mode into `no-store`. -/
def conditionalHeaders : List HeaderName :=
  [HeaderName.ifModifiedSince, HeaderName.ifNoneMatch, HeaderName.ifUnmodifiedSince,
    HeaderName.ifMatch, HeaderName.ifRange]

/-- The `Host` value http_network_fetch computes: the host, and `:port` for an explicit port. -/
def hostValue (url : Url) : Option String :=
  url.host.map fun host =>
    match url.port with
    | some port => host ++ ":" ++ toString port
    | none => host

/-- The `Content-Length` http_network_fetch sends: the body's length, or 0 for a POST or PUT
without body. -/
def contentLength (req : Request) : Option Nat :=
  match req.body.len with
  | some length => some length
  | none => if req.body.isNone && (req.method == Method.POST || req.method == Method.PUT) then some 0 else none

/-- http_network_fetch's normalisation of the clone it sends: the request's headers with the
normalising ones appended, and the cache mode after conditional headers. -/
def networkHeaders (version : String) (req : Request) : Except Panic (HeaderMap × RequestCache) := do
  let headers := req.headers
  let headers ← match contentLength req with
    | some length => do
      pure (headers.append HeaderName.contentLength
        (← orPanic (HeaderValue.fromStr (toString length)) .headerValue))
    | none => pure headers
  let headers ← match req.referrer with
    | .Url url => do
      pure (headers.append HeaderName.referer (← orPanic (HeaderValue.fromStr url.serialization) .headerValue))
    | _ => pure headers
  let headers := if headers.containsKey HeaderName.userAgent then headers
    else headers.append HeaderName.userAgent (utf8Bytes (defaultUserAgent version))
  let cache := if req.cache = .Default && conditionalHeaders.any headers.containsKey then .NoStore
    else req.cache
  let headers := if cache = .NoCache && !headers.containsKey HeaderName.cacheControl then
      headers.append HeaderName.cacheControl (utf8Bytes "max-age=0")
    else headers
  let headers := if cache = .NoStore || cache = .Reload then
      let headers := if headers.containsKey HeaderName.pragma then headers
        else headers.append HeaderName.pragma (utf8Bytes "no-cache")
      if headers.containsKey HeaderName.cacheControl then headers
      else headers.append HeaderName.cacheControl (utf8Bytes "no-cache")
    else headers
  let headers := if headers.containsKey HeaderName.range then
      headers.append HeaderName.acceptEncoding (utf8Bytes "identity")
    else headers
  let headers ← if headers.containsKey HeaderName.host then pure headers else do
    let host ← orPanic (hostValue req.url) .host
    pure (headers.append HeaderName.host (← orPanic (HeaderValue.fromStr host) .headerValue))
  pure (headers, cache)

/-- http_network_fetch up to the client call: the clone of the request it sends, which differs
from the request only in its headers and cache mode. -/
def httpNetworkRequest (version : String) (req : Request) : Except Panic Request :=
  (networkHeaders version req).map fun (headers, cache) => { req with headers := headers, cache := cache }

theorem httpNetworkRequest_ok {version : String} {req out : Request}
    (h : httpNetworkRequest version req = .ok out) :
    ∃ headers cache, out = { req with headers := headers, cache := cache } := by
  rcases normalised : networkHeaders version req with _ | ⟨headers, cache⟩ <;>
    rw [httpNetworkRequest, normalised] at h
  · cases h
  · exact ⟨headers, cache, (Except.ok.inj h).symm⟩

/-- `http_network_fetch`: send the normalised clone unless the cache mode is `only-if-cached`;
a 407 without a client window is a network error; a 421 is retried once, with `is_new` set,
when the body is not a stream. -/
def httpNetworkFetch (env : Env) (req : Request) (isNew : Bool) : FetchM Response :=
  FetchM.lift (httpNetworkRequest env.version req) >>= fun request =>
  if request.cache = .OnlyIfCached then pure networkError else
  FetchM.send env request >>= fun answer =>
  match answer with
  | none => pure networkError
  | some incoming =>
    let response := { Response.new incoming req.url with
      rangeRequested := request.headers.containsKey HeaderName.range }
    if response.status = some 407 && !req.clientWindow then pure networkError
    else if _retry : response.status = some 421 ∧ isNew = false ∧ req.body.isNotStream = true then
      httpNetworkFetch env req true
    else pure response
termination_by if isNew then 0 else 1
decreasing_by simp [_retry.2.1]

open FetchM in
theorem httpNetworkFetch_apply (env : Env) (req : Request) (isNew : Bool) (sent : List Request) :
    httpNetworkFetch env req isNew sent =
      match httpNetworkRequest env.version req with
      | .error p => (.error p, sent)
      | .ok request =>
        if request.cache = .OnlyIfCached then (.ok networkError, sent) else
        match env.send sent request with
        | none => (.ok networkError, sent ++ [request])
        | some incoming =>
          if incoming.status = 407 ∧ req.clientWindow = false then (.ok networkError, sent ++ [request])
          else if incoming.status = 421 ∧ isNew = false ∧ req.body.isNotStream = true then
            httpNetworkFetch env req true (sent ++ [request])
          else (.ok { Response.new incoming req.url with
            rangeRequested := request.headers.containsKey HeaderName.range }, sent ++ [request]) := by
  rw [httpNetworkFetch]
  simp only [bind_apply, lift_apply]
  rcases httpNetworkRequest env.version req with p | request
  · rfl
  · dsimp only
    split
    · rfl
    · simp only [bind_apply, send_apply]
      rcases env.send sent request with _ | incoming
      · rfl
      · dsimp only [Response.new]
        by_cases proxy : incoming.status = 407 ∧ req.clientWindow = false
        · simp [proxy]
        · by_cases retry : incoming.status = 421 ∧ isNew = false ∧ req.body.isNotStream = true
          · simp [proxy, retry]
          · simp [proxy, retry]

/-- What an http_network_fetch from `sent` can come to: it sends the normalised clone at most
`bound` times and never with the cache mode only-if-cached, returns a network error or the
client's response under the request's URL, and panics only where the normalisation does. -/
structure NetworkSpec (env : Env) (req : Request) (bound : Nat) (sent : List Request)
    (outcome : Except Panic Response × List Request) : Prop where
  sent_eq : ∃ extra, outcome.2 = sent ++ extra ∧ extra.length ≤ bound ∧
    ∀ out ∈ extra, httpNetworkRequest env.version req = .ok out ∧ out.cache ≠ .OnlyIfCached
  result : ∀ r, outcome.1 = .ok r →
    r = networkError ∨ (r.kind = .Basic ∧ r.url = some req.url ∧ r.redirected = false)
  panic : ∀ p, outcome.1 = .error p → httpNetworkRequest env.version req = .error p

theorem httpNetworkFetch_spec_of_retry {env : Env} {req : Request} {isNew : Bool}
    (retried : isNew = false → ∀ sent, NetworkSpec env req 1 sent (httpNetworkFetch env req true sent))
    (sent : List Request) :
    NetworkSpec env req (if isNew then 1 else 2) sent (httpNetworkFetch env req isNew sent) := by
  have bound : 1 ≤ if isNew then 1 else 2 := by split <;> decide
  rw [httpNetworkFetch_apply]
  rcases normalised : httpNetworkRequest env.version req with p | request
  · exact ⟨⟨[], by simp, by simp, by simp⟩, by simp, by simp [normalised]⟩
  dsimp only
  by_cases cached : request.cache = .OnlyIfCached
  · rw [if_pos cached]
    exact ⟨⟨[], by simp, by simp, by simp⟩, by simp, by simp⟩
  rw [if_neg cached]
  have once : ∀ out ∈ [request], httpNetworkRequest env.version req = .ok out ∧
      out.cache ≠ .OnlyIfCached := by simp [normalised, cached]
  rcases env.send sent request with _ | incoming
  · exact ⟨⟨[request], rfl, bound, once⟩, by simp, by simp⟩
  dsimp only
  by_cases proxy : incoming.status = 407 ∧ req.clientWindow = false
  · rw [if_pos proxy]
    exact ⟨⟨[request], rfl, bound, once⟩, by simp, by simp⟩
  rw [if_neg proxy]
  by_cases retry : incoming.status = 421 ∧ isNew = false ∧ req.body.isNotStream = true
  · rw [if_pos retry]
    obtain ⟨⟨extra, sentEq, length, each⟩, result, panic⟩ := retried retry.2.1 (sent ++ [request])
    refine ⟨⟨[request] ++ extra, by simp [sentEq], ?_, ?_⟩, result, panic⟩
    · simp only [retry.2.1, Bool.false_eq_true, if_false, List.length_append, List.length_singleton]
      omega
    · intro out member
      rcases List.mem_append.mp member with first | later
      · exact once out first
      · exact each out later
  · rw [if_neg retry]
    refine ⟨⟨[request], rfl, bound, once⟩, ?_, by simp⟩
    rintro r ⟨⟩
    exact .inr ⟨rfl, rfl, rfl⟩

theorem httpNetworkFetch_spec (env : Env) (req : Request) (isNew : Bool) (sent : List Request) :
    NetworkSpec env req (if isNew then 1 else 2) sent (httpNetworkFetch env req isNew sent) :=
  httpNetworkFetch_spec_of_retry (fun _ => @httpNetworkFetch_spec_of_retry env req true nofun) sent

end Spiderfire
