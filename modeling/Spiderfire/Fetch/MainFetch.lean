import Spiderfire.Fetch.Network
import Spiderfire.Fetch.DataUrl

namespace Spiderfire

/-- `BAD_PORTS`. -/
def badPorts : List Nat :=
  [1, 7, 9, 11, 13, 15, 17, 19, 20, 21, 22, 23, 25, 37, 42, 43, 53, 69, 77, 79, 87, 95, 101, 102,
    103, 104, 109, 110, 111, 113, 115, 117, 119, 123, 135, 137, 139, 143, 161, 179, 389, 427, 465,
    512, 513, 514, 515, 526, 530, 531, 532, 540, 548, 554, 556, 563, 587, 601, 636, 989, 990, 993,
    995, 1719, 1720, 1723, 2049, 3659, 4045, 5060, 5061, 6000, 6566, 6665, 6666, 6667, 6668, 6669,
    6697, 10080]

/-- `SCHEMES`: the schemes main_fetch hands to scheme_fetch. -/
def schemes : List String := ["about", "blob", "data", "file"]

/-- The statuses whose body main_fetch drops: 101, 103 (Early Hints), 204, 205 and 304. -/
def nullBodyStatuses : List Nat := [101, 103, 204, 205, 304]

/-- `data_fetch` (scheme.rs), whose code main_fetch's own scheme_fetch repeats in its `data`
arm: the body of the `data:` URL, with its MIME type as `Content-Type`; a URL that does not
process or a body that does not decode is a network error. -/
def dataFetch (url : Url) : Except Panic Response :=
  match DataUrl.process url.serialization with
  | none => pure networkError
  | some dataUrl =>
    match dataUrl.decodeToVec with
    | none => pure networkError
    | some body => do
      let mime := dataUrl.mimeType.type_ ++ "/" ++ dataUrl.mimeType.subtype
      let value ← orPanic (HeaderValue.fromStr mime) .headerValue
      pure (Response.newFromBytes body url (HeaderMap.ofList [(HeaderName.contentType, value)]))

theorem dataFetch_of_unprocessed {url : Url} (unprocessed : DataUrl.process url.serialization = none) :
    dataFetch url = .ok networkError := by
  simp only [dataFetch, unprocessed]
  rfl

/-- A URL that processes and decodes is answered with its body, under its MIME type. -/
theorem dataFetch_of_decoded {url : Url} {dataUrl : DataUrl} {body : List UInt8} {value : HeaderValue}
    (processed : DataUrl.process url.serialization = some dataUrl)
    (decoded : dataUrl.decodeToVec = some body)
    (valid : HeaderValue.fromStr (dataUrl.mimeType.type_ ++ "/" ++ dataUrl.mimeType.subtype) = some value) :
    dataFetch url =
      .ok (Response.newFromBytes body url (HeaderMap.ofList [(HeaderName.contentType, value)])) := by
  simp only [dataFetch, processed, decoded, valid]
  rfl

/-- `scheme_fetch` of main_fetch's module: `about:blank`, `data:` and `file:` URLs; it sends
nothing. -/
def schemeFetch (env : Env) (scheme : String) (url : Url) : Except Panic Response :=
  if scheme = "about" ∧ url.path = "blank" then
    pure (Response.newFromBytes [] url
      (HeaderMap.ofList [(HeaderName.contentType, utf8Bytes "text/html;charset=UTF-8")]))
  else if scheme = "data" then dataFetch url
  else if scheme = "file" then do
    let path ← orPanic url.toFilePath .filePath
    match env.read path with
    | some bytes => pure (Response.newFromBytes bytes url HeaderMap.empty)
    | none => pure networkError
  else pure networkError

/-- The CORS arm of main_fetch's filtering: the names to remove are, when some
`Access-Control-Allow-Headers` value is `*` and credentials are not `include`, the names with
more than one value (`size_hint().1.is_none()`), and otherwise the names equal to some allow
value; then the forbidden response headers go. -/
def corsHeaders (credentials : RequestCredentials) (headers : HeaderMap) : HeaderMap :=
  let allowed := headers.getAll HeaderName.accessControlAllowHeaders
  let allowsAll := allowed.any (· == utf8Bytes "*")
  let toRemove := if credentials != .Include && allowsAll then
      headers.keys.filter fun name => (sizeHintUpper (headers.getAll name)).isNone
    else headers.keys.filter fun name => allowed.any (· == utf8Bytes name)
  forbiddenResponseHeaders.foldl removeAllHeaderEntries (toRemove.foldl removeAllHeaderEntries headers)

/-- The last step of main_fetch: the response as an opaque redirect, or filtered by taint. -/
def filterResponse (credentials : RequestCredentials) (taint : ResponseTaint) (opaqueRedirect : Bool)
    (response : Response) : Response :=
  if opaqueRedirect then
    { response with kind := .OpaqueRedirect, url := none, status := none, statusText := none,
                    body := none, headers := HeaderMap.empty }
  else
    match taint with
    | .Basic =>
      { response with kind := .Basic,
                      headers := forbiddenResponseHeaders.foldl removeAllHeaderEntries response.headers }
    | .Cors => { response with kind := .Cors, headers := corsHeaders credentials response.headers }
    | .Opaque =>
      { response with kind := .Opaque, url := none, status := none, statusText := none,
                      body := none, headers := HeaderMap.empty }

/-- main_fetch from `let redirected = redirections > 0` on: an inner call or an error returns at
once with `redirected` set; otherwise the URL is filled in, the range guard may turn the response
into a network error, the body of a HEAD or CONNECT request or a body-less status is dropped,
and the response is filtered. -/
def mainFetchFinish (request : Request) (redirections : UInt8) (taint : ResponseTaint)
    (opaqueRedirect : Bool) (response : Response) : Except Panic Response :=
  if 0 < redirections ∨ response.kind = .Error then
    pure { response with redirected := decide (0 < redirections) }
  else
    let response := { response with url := some (response.url.getD request.url) }
    if !opaqueRedirect && taint == .Opaque && response.status == some 206 &&
        response.rangeRequested && !response.headers.containsKey HeaderName.range then do
      let url ← orPanic response.url .responseUrl
      pure { networkError with url := some url }
    else
      let response :=
        if !opaqueRedirect && (request.method == .HEAD || request.method == .CONNECT ||
            response.status.any (· ∈ nullBodyStatuses)) then { response with body := none }
        else response
      pure (filterResponse request.credentials taint opaqueRedirect response)

/-- The `Referrer-Policy` a redirect adopts: the last non-empty value that names a policy; a
value reached on the way that is not UTF-8 panics. -/
def findPolicy : List HeaderValue → Except Panic (Option ReferrerPolicy)
  | [] => pure none
  | value :: rest => do
    let text ← orPanic (fromUtf8 value) .referrerPolicyUtf8
    match ReferrerPolicy.fromStr text with
    | some policy => pure (some policy)
    | none => findPolicy rest

def referrerPolicyOf (headers : HeaderMap) : Except Panic (Option ReferrerPolicy) :=
  findPolicy ((headers.getAll HeaderName.referrerPolicy).reverse.filter (· ≠ []))

/-- The request headers a method downgrade removes. -/
def downgradeHeaders : List HeaderName :=
  [HeaderName.contentEncoding, HeaderName.contentLanguage, HeaderName.contentLocation,
    HeaderName.contentType]

/-- http_redirect_fetch's downgrade: a POST redirected by 301 or 302, or any request redirected
by 303 (the code's test `method != GET || method != HEAD` holds of every method), becomes a GET
without body and without the content headers. -/
def redirectDowngrade (request : Request) (status : Option Nat) : Request :=
  if ((status = some 301 ∨ status = some 302) ∧ request.method = .POST) ∨
      (status = some 303 ∧ (request.method ≠ .GET ∨ request.method ≠ .HEAD)) then
    { request with method := .GET, body := .None,
                   headers := downgradeHeaders.foldl removeAllHeaderEntries request.headers }
  else request

/-- The redirect target: the parsed `Location`, with the previous URL's fragment when it has none. -/
def redirectTarget (parsed : Url) (previous : Option Url) : Url :=
  if parsed.fragment.isNone then parsed.setFragment (previous.bind Url.fragment) else parsed

/-- The request http_redirect_fetch hands back to main_fetch: downgraded by the status, with the
location pushed and made its URL, and with the referrer policy of the response if it names one. -/
def redirectedRequest (request : Request) (status : Option Nat) (location : Url)
    (policy : Option ReferrerPolicy) : Request :=
  let request := redirectDowngrade request status
  let request := { request with locations := request.locations ++ [location], url := location }
  match policy with
  | some policy => { request with referrerPolicy := policy }
  | none => request

section RedirectedRequest

variable (request : Request) (status : Option Nat) (location : Url) (policy : Option ReferrerPolicy)

@[simp] theorem redirectedRequest_mode :
    (redirectedRequest request status location policy).mode = request.mode := by
  cases policy <;> (unfold redirectedRequest redirectDowngrade; split <;> rfl)

@[simp] theorem redirectedRequest_locations :
    (redirectedRequest request status location policy).locations = request.locations ++ [location] := by
  cases policy <;> (unfold redirectedRequest redirectDowngrade; split <;> rfl)

@[simp] theorem redirectedRequest_url : (redirectedRequest request status location policy).url = location := by
  cases policy <;> rfl

end RedirectedRequest

theorem UInt8.le_iff_toNat_le {a b : UInt8} : a ≤ b ↔ a.toNat ≤ b.toNat := by
  simp [UInt8.le_def, BitVec.le_def, UInt8.toNat]

theorem toNat_lt_of_not_capped {redirections : UInt8} (capped : ¬20 ≤ redirections) :
    redirections.toNat < 20 := by
  rw [UInt8.le_iff_toNat_le] at capped
  exact Nat.lt_of_not_le capped

theorem toNat_succ_of_not_capped {redirections : UInt8} (capped : ¬20 ≤ redirections) :
    (redirections + 1).toNat = redirections.toNat + 1 := by
  have wrapping : (redirections + 1).toNat = (redirections.toNat + 1) % 256 := rfl
  have := toNat_lt_of_not_capped capped
  omega

mutual

/-- `main_fetch`. -/
def mainFetch (env : Env) (request : Request) (redirections : UInt8) : FetchM (Response × Request) :=
  let scheme := request.url.scheme
  if request.mode = .SameOrigin then
    FetchM.lift ((mainFetchFinish request redirections .Basic false networkError).map (·, request))
  else if scheme ∈ schemes then
    FetchM.lift ((schemeFetch env scheme request.url).bind fun response =>
      (mainFetchFinish request redirections .Basic false response).map (·, request))
  else if scheme = "https" ∨ scheme = "http" then
    if request.url.port.any (· ∈ badPorts) then pure (networkError, request)
    else if request.mode = .NoCors ∧ request.redirect ≠ .Follow then pure (networkError, request)
    else
      let taint := if request.mode = .NoCors then ResponseTaint.Basic else .Cors
      httpFetch env request taint redirections >>= fun ((response, opaqueRedirect), request) =>
      FetchM.lift ((mainFetchFinish request redirections taint opaqueRedirect response).map (·, request))
  else
    FetchM.lift ((mainFetchFinish request redirections .Basic false networkError).map (·, request))
termination_by 3 * (20 - redirections.toNat) + 2
decreasing_by all_goals simp_wf

/-- `http_fetch`: a redirect status is followed, turned into a network error, or returned as an
opaque redirect, by the request's redirect mode. -/
def httpFetch (env : Env) (request : Request) (taint : ResponseTaint) (redirections : UInt8) :
    FetchM ((Response × Bool) × Request) :=
  httpNetworkFetch env request false >>= fun response =>
  match response.status with
  | some status =>
    if 300 ≤ status ∧ status ≤ 399 then
      match request.redirect with
      | .Follow =>
        httpRedirectFetch env request response taint redirections >>= fun (response, request) =>
        pure ((response, false), request)
      | .Error => pure ((networkError, false), request)
      | .Manual => pure ((response, true), request)
    else pure ((response, false), request)
  | none => pure ((response, false), request)
termination_by 3 * (20 - redirections.toNat) + 1
decreasing_by all_goals simp_wf

/-- `http_redirect_fetch`. -/
def httpRedirectFetch (env : Env) (request : Request) (response : Response) (taint : ResponseTaint)
    (redirections : UInt8) : FetchM (Response × Request) :=
  let locations := response.headers.getAll HeaderName.location
  match sizeHintUpper locations with
  | some 0 => pure (response, request)
  | none => pure (networkError, request)
  | some _ =>
    FetchM.lift (orPanic locations.head? .locationNext >>= fun value =>
      orPanic (fromUtf8 value) .locationUtf8) >>= fun text =>
    match env.parse response.url text with
    | none => pure (networkError, request)
    | some parsed =>
      let location := redirectTarget parsed response.url
      if ¬(location.scheme = "https" ∨ location.scheme = "http") then pure (networkError, request)
      else if capped : 20 ≤ redirections then pure (networkError, request)
      else if taint = .Cors ∧ (location.username ≠ "" ∨ location.password.isSome) then
        pure (networkError, request)
      else if response.status ≠ some 303 ∧ !request.body.isNone ∧ !request.body.isNotStream then
        pure (networkError, request)
      else
        FetchM.lift (referrerPolicyOf response.headers) >>= fun policy =>
        mainFetch env (redirectedRequest request response.status location policy) (redirections + 1)
termination_by 3 * (20 - redirections.toNat)
decreasing_by
  all_goals simp_wf
  have := toNat_lt_of_not_capped capped
  rw [toNat_succ_of_not_capped capped]
  omega

end

end Spiderfire
