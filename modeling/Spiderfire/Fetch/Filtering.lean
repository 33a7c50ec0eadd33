import Spiderfire.Fetch.MainFetch

namespace Spiderfire

@[simp] theorem keys_removeAllHeaderEntries (m : HeaderMap) (name : HeaderName) :
    (removeAllHeaderEntries m name).keys = m.keys.filter (· ≠ name) := by
  simp [removeAllHeaderEntries, HeaderMap.keys, List.filter_map, Function.comp_def]

@[simp] theorem getAll_removeAllHeaderEntries (m : HeaderMap) (name n : HeaderName) :
    (removeAllHeaderEntries m name).getAll n = if n = name then [] else m.getAll n := by
  simp only [removeAllHeaderEntries, HeaderMap.getAll, List.filter_filter]
  split
  · subst n; simp
  · congr 1
    apply List.filter_congr
    intro e _
    by_cases e.1 = n <;> simp_all

theorem getAll_foldl_remove (names : List HeaderName) (m : HeaderMap) (n : HeaderName) :
    (names.foldl removeAllHeaderEntries m).getAll n = if n ∈ names then [] else m.getAll n := by
  induction names generalizing m with
  | nil => simp
  | cons name rest ih =>
    by_cases here : n = name
    · subst here
      simp [ih]
    · simp [ih, here]

theorem HeaderMap.mem_keys_iff_getAll_ne_nil (m : HeaderMap) (n : HeaderName) :
    n ∈ m.keys ↔ m.getAll n ≠ [] := by
  simp only [HeaderMap.keys, HeaderMap.getAll, List.mem_map, ne_eq, List.flatMap_eq_nil_iff,
    List.mem_filter, decide_eq_true_eq, not_forall]
  constructor
  · rintro ⟨entry, member, rfl⟩
    exact ⟨entry, ⟨member, rfl⟩, m.values_ne_nil entry member⟩
  · rintro ⟨entry, ⟨member, rfl⟩, -⟩
    exact ⟨entry, member, rfl⟩

/-- The names the CORS arm of main_fetch removes before the forbidden ones: under a `*` allow
value without credentials `include`, the names with more than one value; otherwise the names
an allow value spells. -/
def corsRemoved (credentials : RequestCredentials) (headers : HeaderMap) (n : HeaderName) : Bool :=
  if credentials ≠ .Include ∧ utf8Bytes "*" ∈ headers.getAll HeaderName.accessControlAllowHeaders then
    2 ≤ (headers.getAll n).length
  else utf8Bytes n ∈ headers.getAll HeaderName.accessControlAllowHeaders

theorem sizeHintUpper_eq_none_iff (values : List HeaderValue) :
    sizeHintUpper values = none ↔ 2 ≤ values.length := by
  match values with
  | [] | [_] => simp [sizeHintUpper]
  | _ :: _ :: _ => simp [sizeHintUpper]

/-- The CORS arm keeps exactly the names of the response that it does not remove and that are
not forbidden, each with all its values in order. -/
theorem getAll_corsHeaders (credentials : RequestCredentials) (headers : HeaderMap)
    (n : HeaderName) :
    (corsHeaders credentials headers).getAll n =
      if corsRemoved credentials headers n ∨ n ∈ forbiddenResponseHeaders then []
      else headers.getAll n := by
  by_cases listed : n ∈ headers.keys
  · have wildcard : (headers.getAll HeaderName.accessControlAllowHeaders).any
        (· == utf8Bytes "*") = decide (utf8Bytes "*" ∈
          headers.getAll HeaderName.accessControlAllowHeaders) := by
      simp [List.any_eq]
    simp only [corsHeaders, getAll_foldl_remove, List.mem_filter, listed, true_and, wildcard,
      corsRemoved, sizeHintUpper_eq_none_iff]
    split_ifs <;> simp_all [sizeHintUpper_eq_none_iff]
    omega
  · have absent : headers.getAll n = [] := by
      simpa [HeaderMap.mem_keys_iff_getAll_ne_nil] using listed
    simp [corsHeaders, getAll_foldl_remove, absent]

/-- Whatever the credentials, an allow value that spells a name removes it, and under a `*`
allow value without credentials `include` every name with more than one value goes. -/
theorem corsHeaders_removes_allowed_names (credentials : RequestCredentials) (headers : HeaderMap)
    (n : HeaderName) :
    ((credentials = .Include ∨ utf8Bytes "*" ∉ headers.getAll HeaderName.accessControlAllowHeaders) →
      utf8Bytes n ∈ headers.getAll HeaderName.accessControlAllowHeaders →
      n ∉ (corsHeaders credentials headers).keys) ∧
    (credentials ≠ .Include → utf8Bytes "*" ∈ headers.getAll HeaderName.accessControlAllowHeaders →
      2 ≤ (headers.getAll n).length → n ∉ (corsHeaders credentials headers).keys) := by
  simp only [HeaderMap.mem_keys_iff_getAll_ne_nil, getAll_corsHeaders, corsRemoved, ne_eq,
    not_not]
  constructor
  · intro noWildcard listed
    have : ¬(¬credentials = .Include ∧
        utf8Bytes "*" ∈ headers.getAll HeaderName.accessControlAllowHeaders) := by tauto
    simp [this, listed]
  · intro credentialsNotIncluded wildcard several
    simp [credentialsNotIncluded, wildcard, several]

/-- The failing input: an allow list naming `x-custom`, a response carrying `x-custom`, and
credentials `omit`. -/
def corsResponseHeaders : HeaderMap :=
  HeaderMap.ofList [(HeaderName.accessControlAllowHeaders, utf8Bytes "x-custom"),
    ("x-custom", utf8Bytes "1")]

theorem allowed_cors_header_removed :
    ((RequestCredentials.Omit = .Include ∨
        utf8Bytes "*" ∉ corsResponseHeaders.getAll HeaderName.accessControlAllowHeaders) ∧
      utf8Bytes "x-custom" ∈ corsResponseHeaders.getAll HeaderName.accessControlAllowHeaders) ∧
    "x-custom" ∈ corsResponseHeaders.keys ∧
    "x-custom" ∉ (corsHeaders .Omit corsResponseHeaders).keys :=
  ⟨⟨by decide, by decide⟩, by decide,
    (corsHeaders_removes_allowed_names .Omit corsResponseHeaders "x-custom").1 (by decide)
      (by decide)⟩

/-- A response that shows nothing: no URL, status, status text or body, and no header. -/
structure Hidden (response : Response) : Prop where
  url : response.url = none
  status : response.status = none
  statusText : response.statusText = none
  body : response.body = none
  headers : response.headers.entries = []

section FilterResponse

variable (credentials : RequestCredentials) (taint : ResponseTaint) (opaqueRedirect : Bool)
  (response : Response)

@[simp] theorem filterResponse_redirected :
    (filterResponse credentials taint opaqueRedirect response).redirected = response.redirected := by
  unfold filterResponse
  split
  · rfl
  · split <;> rfl

theorem filterResponse_kind_ne_error :
    (filterResponse credentials taint opaqueRedirect response).kind ≠ .Error := by
  unfold filterResponse
  split
  · nofun
  · split <;> nofun

theorem filterResponse_hidden
    (kind : (filterResponse credentials taint opaqueRedirect response).kind = .OpaqueRedirect ∨
      (filterResponse credentials taint opaqueRedirect response).kind = .Opaque) :
    Hidden (filterResponse credentials taint opaqueRedirect response) := by
  unfold filterResponse at kind ⊢
  cases opaqueRedirect
  · cases taint
    · simp at kind
    · simp at kind
    · exact ⟨rfl, rfl, rfl, rfl, rfl⟩
  · exact ⟨rfl, rfl, rfl, rfl, rfl⟩

theorem filterResponse_shown
    (kind : (filterResponse credentials taint opaqueRedirect response).kind = .Basic ∨
      (filterResponse credentials taint opaqueRedirect response).kind = .Cors) :
    opaqueRedirect = false ∧
      (filterResponse credentials taint opaqueRedirect response).url = response.url ∧
      (filterResponse credentials taint opaqueRedirect response).body = response.body ∧
      (filterResponse credentials taint opaqueRedirect response).status = response.status := by
  unfold filterResponse at kind ⊢
  cases opaqueRedirect
  · cases taint
    · exact ⟨rfl, rfl, rfl, rfl⟩
    · exact ⟨rfl, rfl, rfl, rfl⟩
    · simp at kind
  · simp at kind

theorem filterResponse_forbidden {name : HeaderName} (forbidden : name ∈ forbiddenResponseHeaders) :
    (filterResponse credentials taint opaqueRedirect response).headers.getAll name = [] := by
  unfold filterResponse
  cases opaqueRedirect
  · cases taint
    · simp [getAll_foldl_remove, forbidden]
    · simp [getAll_corsHeaders, forbidden]
    · rfl
  · rfl

end FilterResponse

/-- A response as a level of the pipeline hands it up: an error response is a network error,
with `redirected` possibly set, and any other is marked redirected exactly when `redirected`
holds. -/
structure Shaped (redirected : Prop) (response : Response) : Prop where
  error : response.kind = .Error → response = { networkError with redirected := response.redirected }
  redirected : response.kind ≠ .Error → (response.redirected = true ↔ redirected)

theorem Shaped.hidden {redirected : Prop} {response : Response} (shaped : Shaped redirected response)
    (error : response.kind = .Error) : Hidden response := by
  rw [shaped.error error]
  exact ⟨rfl, rfl, rfl, rfl, rfl⟩

/-- The response the top level of main_fetch hands its caller, as the caller sees it: an
error, opaque-redirect or opaque response is hidden; a basic or cors one has a URL, and no body
for a HEAD or CONNECT request or a body-less status; it is marked redirected exactly when it is
no error and `grown` holds. -/
structure Visible (final : Request) (grown : Prop) (response : Response) : Prop where
  hidden : response.kind = .Error ∨ response.kind = .OpaqueRedirect ∨ response.kind = .Opaque →
    Hidden response
  url : response.kind = .Basic ∨ response.kind = .Cors → response.url.isSome
  body : response.kind = .Basic ∨ response.kind = .Cors →
    final.method = .HEAD ∨ final.method = .CONNECT ∨
      (∃ status ∈ nullBodyStatuses, response.status = some status) → response.body = none
  redirected : response.redirected = true ↔ response.kind ≠ .Error ∧ grown

section MainFetchFinish

variable {request : Request} {redirections : UInt8} {taint : ResponseTaint}
  {opaqueRedirect : Bool} {response result : Response}

theorem mainFetchFinish_of_early (early : 0 < redirections ∨ response.kind = .Error) :
    mainFetchFinish request redirections taint opaqueRedirect response =
      .ok { response with redirected := decide (0 < redirections) } := by
  rw [mainFetchFinish, if_pos early]
  rfl

/-- Past the early return, and with a taint that is not opaque (so that the range guard never
fires), main_fetch fills in the URL, may drop the body, and filters. -/
theorem mainFetchFinish_of_not_early (late : ¬(0 < redirections ∨ response.kind = .Error))
    (notOpaque : taint ≠ .Opaque) :
    ∃ body, mainFetchFinish request redirections taint opaqueRedirect response =
      .ok (filterResponse request.credentials taint opaqueRedirect
        { response with url := some (response.url.getD request.url), body := body }) ∧
      (opaqueRedirect = false → request.method = .HEAD ∨ request.method = .CONNECT ∨
        (∃ status ∈ nullBodyStatuses, response.status = some status) → body = none) := by
  have guard : (taint == .Opaque) = false := by cases taint <;> simp_all
  rw [mainFetchFinish, if_neg late]
  simp only [guard, Bool.and_false, Bool.false_and, Bool.false_eq_true, if_false]
  split
  · exact ⟨none, rfl, fun _ _ => rfl⟩
  · rename_i kept
    refine ⟨response.body, rfl, fun plain which => ?_⟩
    rcases which with head | connect | ⟨status, member, same⟩
    · simp [plain, head] at kept
    · simp [plain, connect] at kept
    · simp [plain, same, member] at kept

theorem Shaped.finish {redirected : Prop} (shaped : Shaped redirected response)
    (notOpaque : taint ≠ .Opaque)
    (finished : mainFetchFinish request redirections taint opaqueRedirect response = .ok result) :
    Shaped (0 < redirections ∨ redirected) result := by
  by_cases early : 0 < redirections ∨ response.kind = .Error
  · rw [mainFetchFinish_of_early early] at finished
    cases finished
    constructor
    · intro error
      rw [shaped.error error]
    · intro notError
      have inner : 0 < redirections := early.resolve_right notError
      simp [inner]
  · obtain ⟨body, eq, -⟩ := @mainFetchFinish_of_not_early _ _ _ opaqueRedirect _ early notOpaque
    rw [eq] at finished
    cases finished
    refine ⟨fun error => (filterResponse_kind_ne_error _ _ _ _ error).elim, fun _ => ?_⟩
    simp only [not_or] at early
    simp [shaped.redirected early.2, early.1]

theorem Visible.finish {grown : Prop} (shaped : Shaped grown response) (notOpaque : taint ≠ .Opaque)
    (finished : mainFetchFinish request 0 taint opaqueRedirect response = .ok result) :
    Visible request grown result := by
  by_cases error : response.kind = .Error
  · rw [mainFetchFinish_of_early (.inr error)] at finished
    cases finished
    have hidden := shaped.hidden error
    refine ⟨fun _ => ⟨hidden.url, hidden.status, hidden.statusText, hidden.body, hidden.headers⟩,
      fun kind => ?_, fun kind => ?_, ?_⟩ <;> simp_all
  · have late : ¬((0 : UInt8) < 0 ∨ response.kind = .Error) := by simp [error]
    obtain ⟨body, eq, nulled⟩ := @mainFetchFinish_of_not_early _ _ _ opaqueRedirect _ late notOpaque
    rw [eq] at finished
    cases finished
    refine ⟨fun kind => filterResponse_hidden _ _ _ _ (by simpa [filterResponse_kind_ne_error] using kind),
      fun kind => ?_, fun kind which => ?_, ?_⟩
    · simp [(filterResponse_shown _ _ _ _ kind).2.1]
    · obtain ⟨plain, -, same, status⟩ := filterResponse_shown _ _ _ _ kind
      rw [status] at which
      rw [same]
      exact nulled plain which
    · simp [shaped.redirected error, filterResponse_kind_ne_error]

theorem mainFetchFinish_forbidden (notOpaque : taint ≠ .Opaque)
    (finished : mainFetchFinish request 0 taint opaqueRedirect response = .ok result)
    (notError : result.kind ≠ .Error) :
    ∀ name ∈ forbiddenResponseHeaders, name ∉ result.headers.keys := by
  intro name forbidden
  by_cases error : response.kind = .Error
  · rw [mainFetchFinish_of_early (.inr error)] at finished
    cases finished
    exact absurd error notError
  · have late : ¬((0 : UInt8) < 0 ∨ response.kind = .Error) := by simp [error]
    obtain ⟨body, eq, -⟩ := @mainFetchFinish_of_not_early _ _ _ opaqueRedirect _ late notOpaque
    rw [eq] at finished
    cases finished
    simp [HeaderMap.mem_keys_iff_getAll_ne_nil, filterResponse_forbidden _ _ _ _ forbidden]

end MainFetchFinish

/-- How main_fetch ends: with a network error returned before anything is fetched, or through
its last step, on a response shaped by `grown` and with a taint that is not opaque. -/
def Finished (redirections : UInt8) (final : Request) (grown : Prop) (response : Response) : Prop :=
  response = networkError ∨ ∃ taint opaqueRedirect inner, taint ≠ .Opaque ∧ Shaped grown inner ∧
    mainFetchFinish final redirections taint opaqueRedirect inner = .ok response

section Finished

variable {redirections : UInt8} {final : Request} {grown : Prop} {response : Response}

theorem Finished.shaped (finished : Finished redirections final grown response) :
    Shaped (0 < redirections ∨ grown) response := by
  rcases finished with rfl | ⟨taint, opaqueRedirect, inner, notOpaque, shaped, finished⟩
  · exact ⟨fun _ => rfl, fun notError => absurd rfl notError⟩
  · exact shaped.finish notOpaque finished

theorem Finished.visible (finished : Finished 0 final grown response) : Visible final grown response := by
  rcases finished with rfl | ⟨taint, opaqueRedirect, inner, notOpaque, shaped, finished⟩
  · exact ⟨fun _ => ⟨rfl, rfl, rfl, rfl, rfl⟩, nofun, nofun, by simp [networkError]⟩
  · exact Visible.finish shaped notOpaque finished

theorem Finished.forbidden (finished : Finished 0 final grown response)
    (notError : response.kind ≠ .Error) :
    ∀ name ∈ forbiddenResponseHeaders, name ∉ response.headers.keys := by
  rcases finished with rfl | ⟨taint, opaqueRedirect, inner, notOpaque, -, finished⟩
  · exact absurd rfl notError
  · exact mainFetchFinish_forbidden notOpaque finished notError

end Finished

end Spiderfire
