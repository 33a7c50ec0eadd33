import Spiderfire.Fetch.Filtering

namespace Spiderfire

/-- The gates main_fetch checks before it hands a request to http_fetch: an http(s) URL on a
port outside `BAD_PORTS`, a mode other than same-origin, and redirect mode follow under no-cors. -/
structure Admissible (request : Request) : Prop where
  scheme : request.url.scheme = "https" ∨ request.url.scheme = "http"
  port : request.url.port.any (· ∈ badPorts) = false
  mode : request.mode ≠ .SameOrigin
  noCors : request.mode = .NoCors → request.redirect = .Follow

/-- A request the client is sent during the fetch of `request`: admissible and not
only-if-cached, in the fetch's mode, with the fetch's locations and maybe more, and, in a cors
fetch, without userinfo when its URL is one of the redirect targets followed. -/
structure Transported (request out : Request) : Prop where
  admissible : Admissible out
  cache : out.cache ≠ .OnlyIfCached
  mode : out.mode = request.mode
  locations : request.locations <+: out.locations
  userinfo : out.mode = .Cors → out.url ∈ out.locations.drop request.locations.length →
    out.url.username = "" ∧ out.url.password = none

/-- The client calls from `sent` to `sent'` of a part of the fetch of `request`: at most
`bound`, each transported for `request`. -/
def SendsAtMost (request : Request) (bound : Nat) (sent sent' : List Request) : Prop :=
  ∃ extra, sent' = sent ++ extra ∧ extra.length ≤ bound ∧ ∀ out ∈ extra, Transported request out

/-- The request a part of the fetch of `request` hands back: `request` with at most `bound`
locations pushed. -/
def Pushes (request final : Request) (bound : Nat) : Prop :=
  ∃ added, final.locations = request.locations ++ added ∧ added.length ≤ bound

/-- What a part of the pipeline comes to from `sent`: at most `calls` client calls, and a
result satisfying `returns`, whose request (read by `final`) carries at most `hops` locations
more than `request`. -/
structure LevelSpec {α : Type} (final : α → Request) (request : Request) (calls hops : Nat)
    (returns : α → Prop) (sent : List Request) (outcome : Except Panic α × List Request) : Prop where
  sends : SendsAtMost request calls sent outcome.2
  result : ∀ a, outcome.1 = .ok a → Pushes request (final a) hops ∧ returns a

section Sends

variable {request : Request} {bound : Nat} {sent sent' : List Request}

theorem SendsAtMost.refl : SendsAtMost request bound sent sent :=
  ⟨[], by simp, by simp, by simp⟩

theorem SendsAtMost.trans {more : Nat} {sent'' : List Request}
    (first : SendsAtMost request bound sent sent') (second : SendsAtMost request more sent' sent'') :
    SendsAtMost request (bound + more) sent sent'' := by
  obtain ⟨extra, rfl, length, each⟩ := first
  obtain ⟨extra', rfl, length', each'⟩ := second
  refine ⟨extra ++ extra', by simp, by simp; omega, fun out member => ?_⟩
  rcases List.mem_append.mp member with early | late
  · exact each out early
  · exact each' out late

theorem SendsAtMost.mono {more : Nat} (sends : SendsAtMost request bound sent sent')
    (le : bound ≤ more) : SendsAtMost request more sent sent' := by
  obtain ⟨extra, eq, length, each⟩ := sends
  exact ⟨extra, eq, by omega, each⟩

theorem SendsAtMost.outer {inner : Request} (sends : SendsAtMost inner bound sent sent')
    (lift : ∀ out, Transported inner out → Transported request out) :
    SendsAtMost request bound sent sent' := by
  obtain ⟨extra, eq, length, each⟩ := sends
  exact ⟨extra, eq, length, fun out member => lift out (each out member)⟩

end Sends

theorem Pushes.refl (request : Request) (bound : Nat) : Pushes request request bound :=
  ⟨[], by simp, by simp⟩

theorem Shaped.congr {p q : Prop} {response : Response} (shaped : Shaped p response) (iff : p ↔ q) :
    Shaped q response :=
  ⟨shaped.error, fun notError => (shaped.redirected notError).trans iff⟩

theorem shaped_networkError (p : Prop) : Shaped p networkError :=
  ⟨fun _ => rfl, fun notError => absurd rfl notError⟩

section LevelSpec

variable {α : Type} {final : α → Request} {request : Request} {calls bound hops : Nat}
  {returns : α → Prop} {sent sent' : List Request}

theorem LevelSpec.lift {x : Except Panic α}
    (result : ∀ a, x = .ok a → final a = request ∧ returns a) :
    LevelSpec final request calls hops returns sent (FetchM.lift x sent) := by
  refine ⟨SendsAtMost.refl, fun a ok => ?_⟩
  obtain ⟨same, holds⟩ := result a ok
  exact ⟨same ▸ Pushes.refl request hops, holds⟩

theorem LevelSpec.pure {a : α} (sends : SendsAtMost request bound sent sent') (le : bound ≤ calls)
    (same : final a = request) (holds : returns a) :
    LevelSpec final request calls hops returns sent ((Pure.pure a : FetchM α) sent') := by
  refine ⟨sends.mono le, fun b ok => ?_⟩
  cases ok
  exact ⟨same ▸ Pushes.refl request hops, holds⟩

theorem LevelSpec.panic {p : Panic} (sends : SendsAtMost request bound sent sent')
    (le : bound ≤ calls) :
    LevelSpec final request calls hops returns sent ((.error p, sent') : Except Panic α × List Request) :=
  ⟨sends.mono le, nofun⟩

end LevelSpec

section Network

variable {env : Env} {request : Request} {bound : Nat} {sent : List Request}
  {outcome : Except Panic Response × List Request}

theorem NetworkSpec.sends (gate : Admissible request) (spec : NetworkSpec env request bound sent outcome) :
    SendsAtMost request bound sent outcome.2 := by
  obtain ⟨extra, eq, length, each⟩ := spec.sent_eq
  refine ⟨extra, eq, length, fun out member => ?_⟩
  obtain ⟨normalised, cache⟩ := each out member
  obtain ⟨headers, cache', rfl⟩ := httpNetworkRequest_ok normalised
  exact ⟨⟨gate.scheme, gate.port, gate.mode, gate.noCors⟩, cache, rfl, List.prefix_refl _,
    fun _ inDrop => by simp at inDrop⟩

theorem NetworkSpec.shaped (spec : NetworkSpec env request bound sent outcome) {response : Response}
    (ok : outcome.1 = .ok response) : Shaped False response := by
  rcases spec.result response ok with rfl | ⟨basic, -, plain⟩
  · exact shaped_networkError False
  · exact ⟨fun error => (by rw [basic] at error; cases error), fun _ => by simp [plain]⟩

end Network

/-- http_fetch, given what http_redirect_fetch comes to at the same count: the network hop
adds at most two client calls, and a response it does not redirect is handed back as it is. -/
theorem httpFetch_spec_of_redirect {env : Env} {redirections : UInt8} {request : Request}
    {taint : ResponseTaint} (within : redirections.toNat ≤ 20) (gate : Admissible request)
    (redirect : ∀ response sent, Shaped False response →
      LevelSpec Prod.snd request (2 * (20 - redirections.toNat)) (20 - redirections.toNat)
        (fun a => Shaped (request.locations.length < a.2.locations.length) a.1) sent
        (httpRedirectFetch env request response taint redirections sent))
    (sent : List Request) :
    LevelSpec Prod.snd request (2 * (21 - redirections.toNat)) (20 - redirections.toNat)
      (fun a => Shaped (request.locations.length < a.2.locations.length) a.1.1) sent
      (httpFetch env request taint redirections sent) := by
  have network := httpNetworkFetch_spec env request false sent
  rw [httpFetch, FetchM.bind_apply]
  rcases outcome : httpNetworkFetch env request false sent with ⟨_ | response, sent'⟩ <;>
    rw [outcome] at network <;> have sends := network.sends gate
  · exact LevelSpec.panic sends (by simp; omega)
  have shaped := network.shaped rfl
  have done : ∀ r o, Shaped False r → LevelSpec Prod.snd request (2 * (21 - redirections.toNat))
      (20 - redirections.toNat)
      (fun a => Shaped (request.locations.length < a.2.locations.length) a.1.1) sent
      ((Pure.pure ((r, o), request) : FetchM ((Response × Bool) × Request)) sent') :=
    fun _ _ shaped => LevelSpec.pure sends (by simp; omega) rfl (shaped.congr (by simp))
  dsimp only
  rcases answered : response.status with _ | status
  · exact done response false shaped
  by_cases redirection : 300 ≤ status ∧ status ≤ 399
  · dsimp only
    rw [if_pos redirection]
    rcases mode : request.redirect
    · dsimp only
      rw [FetchM.bind_apply]
      have inner := redirect response sent' shaped
      rcases redirected : httpRedirectFetch env request response taint redirections sent' with
        ⟨_ | ⟨response', final⟩, sent''⟩ <;> rw [redirected] at inner
      · exact LevelSpec.panic (sends.trans inner.sends) (by simp; omega)
      · refine ⟨(sends.trans inner.sends).mono (by simp; omega), fun a ok => ?_⟩
        cases ok
        exact inner.result (response', final) rfl
    · exact done networkError false (shaped_networkError False)
    · exact done response true shaped
  · dsimp only
    rw [if_neg redirection]
    exact done response false shaped

/-- A request sent during the fetch of a redirected request is one of the fetch before the
redirect: the mode and the earlier locations stay, and a cors fetch only follows a location
without userinfo. -/
theorem Transported.of_redirect {request out : Request} {status : Option Nat} {location : Url}
    {policy : Option ReferrerPolicy} {taint : ResponseTaint}
    (tainted : request.mode = .Cors → taint = .Cors)
    (checked : ¬(taint = .Cors ∧ (location.username ≠ "" ∨ location.password.isSome)))
    (inner : Transported (redirectedRequest request status location policy) out) :
    Transported request out := by
  obtain ⟨admissible, cache, mode, ⟨rest, locations⟩, userinfo⟩ := inner
  simp only [redirectedRequest_mode, redirectedRequest_locations] at mode locations userinfo
  refine ⟨admissible, cache, mode, ⟨[location] ++ rest, by simp [← locations]⟩, fun cors member => ?_⟩
  rw [← locations] at member userinfo
  simp only [List.append_assoc, List.drop_left, List.singleton_append, List.mem_cons] at member
  rcases member with here | later
  · have corsTaint : taint = .Cors := tainted (mode ▸ cors)
    rw [here]
    exact ⟨by_contra fun named => checked ⟨corsTaint, .inl named⟩,
      Option.not_isSome_iff_eq_none.mp fun some => checked ⟨corsTaint, .inr some⟩⟩
  · exact userinfo cors (by simpa [List.drop_left'] using later)

theorem pos_succ_of_not_capped {redirections : UInt8} (capped : ¬20 ≤ redirections) :
    0 < redirections + 1 := by
  have : (0 : UInt8).toNat < (redirections + 1).toNat := by
    rw [toNat_succ_of_not_capped capped]
    exact Nat.succ_pos _
  exact this

/-- http_redirect_fetch, given what main_fetch comes to one count further: every guard that
fails hands back a network error with no client call, and a followed redirect is a fetch of the
redirected request that pushes its location. -/
theorem httpRedirectFetch_spec_of_main {env : Env} {redirections : UInt8} {request : Request}
    {response : Response} {taint : ResponseTaint} (tainted : request.mode = .Cors → taint = .Cors)
    (shaped : Shaped False response)
    (main : ¬20 ≤ redirections → ∀ request sent,
      LevelSpec Prod.snd request (2 * (21 - (redirections + 1).toNat)) (20 - (redirections + 1).toNat)
        (fun a => Finished (redirections + 1) a.2
          (request.locations.length < a.2.locations.length) a.1)
        sent (mainFetch env request (redirections + 1) sent))
    (sent : List Request) :
    LevelSpec Prod.snd request (2 * (20 - redirections.toNat)) (20 - redirections.toNat)
      (fun a => Shaped (request.locations.length < a.2.locations.length) a.1) sent
      (httpRedirectFetch env request response taint redirections sent) := by
  have failed : LevelSpec Prod.snd request (2 * (20 - redirections.toNat)) (20 - redirections.toNat)
      (fun a => Shaped (request.locations.length < a.2.locations.length) a.1) sent
      ((Pure.pure (networkError, request) : FetchM (Response × Request)) sent) :=
    LevelSpec.pure SendsAtMost.refl (Nat.zero_le _) rfl (shaped_networkError _)
  rw [httpRedirectFetch]
  dsimp only
  rcases hint : sizeHintUpper (response.headers.getAll HeaderName.location) with _ | _ | n
  · exact failed
  · exact LevelSpec.pure SendsAtMost.refl (Nat.zero_le _) rfl (shaped.congr (by simp))
  simp only []
  rw [FetchM.bind_apply, FetchM.lift_apply]
  rcases (orPanic (response.headers.getAll HeaderName.location).head? .locationNext >>= fun value =>
      orPanic (fromUtf8 value) .locationUtf8) with p | text
  · exact LevelSpec.panic SendsAtMost.refl (Nat.zero_le _)
  dsimp only
  rcases env.parse response.url text with _ | parsed
  · exact failed
  dsimp only
  split_ifs with web capped credentialed stream <;> try exact failed
  rw [FetchM.bind_apply, FetchM.lift_apply]
  rcases referrerPolicyOf response.headers with p | policy
  · exact LevelSpec.panic SendsAtMost.refl (Nat.zero_le _)
  dsimp only
  have inner := main capped (redirectedRequest request response.status
    (redirectTarget parsed response.url) policy) sent
  have hops : 20 - (redirections + 1).toNat + 1 = 20 - redirections.toNat := by
    have := toNat_lt_of_not_capped capped
    rw [toNat_succ_of_not_capped capped]
    omega
  refine ⟨(inner.sends.outer fun out => Transported.of_redirect tainted credentialed).mono
    (by omega), fun a ok => ?_⟩
  obtain ⟨⟨added, locations, length⟩, finished⟩ := inner.result a ok
  simp only [redirectedRequest_locations, List.append_assoc] at locations finished
  refine ⟨⟨_ :: added, by simpa using locations, by simp; omega⟩, finished.shaped.congr ?_⟩
  have grew : request.locations.length < a.2.locations.length := by simp [locations]
  simp [pos_succ_of_not_capped capped, grew]

theorem newFromBytes_shaped (bytes : List UInt8) (url : Url) (headers : HeaderMap) :
    Shaped False (Response.newFromBytes bytes url headers) :=
  ⟨nofun, fun _ => by simp [Response.newFromBytes]⟩

theorem dataFetch_shaped {url : Url} {response : Response} (fetched : dataFetch url = .ok response) :
    Shaped False response := by
  unfold dataFetch at fetched
  split at fetched
  · cases fetched
    exact shaped_networkError False
  · split at fetched
    · cases fetched
      exact shaped_networkError False
    · obtain ⟨_, -, done⟩ := Except.bind_eq_ok fetched
      cases done
      exact newFromBytes_shaped _ _ _

theorem schemeFetch_shaped {env : Env} {scheme : String} {url : Url} {response : Response}
    (fetched : schemeFetch env scheme url = .ok response) : Shaped False response := by
  unfold schemeFetch at fetched
  split_ifs at fetched
  · cases fetched
    exact newFromBytes_shaped _ _ _
  · exact dataFetch_shaped fetched
  · obtain ⟨_, -, done⟩ := Except.bind_eq_ok fetched
    split at done
    · cases done
      exact newFromBytes_shaped _ _ _
    · cases done
      exact shaped_networkError False
  · cases fetched
    exact shaped_networkError False

/-- main_fetch, given what http_fetch comes to at the same count: the local schemes and the
failed gates make no client call, and an admissible request goes to http_fetch with a taint
that is cors exactly in cors mode. -/
theorem mainFetch_spec_of_http {env : Env} {redirections : UInt8}
    (http : ∀ request taint sent, Admissible request → (request.mode = .Cors → taint = .Cors) →
      taint ≠ .Opaque →
      LevelSpec Prod.snd request (2 * (21 - redirections.toNat)) (20 - redirections.toNat)
        (fun a => Shaped (request.locations.length < a.2.locations.length) a.1.1) sent
        (httpFetch env request taint redirections sent))
    (request : Request) (sent : List Request) :
    LevelSpec Prod.snd request (2 * (21 - redirections.toNat)) (20 - redirections.toNat)
      (fun a => Finished redirections a.2 (request.locations.length < a.2.locations.length) a.1)
      sent (mainFetch env request redirections sent) := by
  have handBack : ∀ response a, Shaped False response →
      (mainFetchFinish request redirections .Basic false response).map (·, request) = .ok a →
      a.2 = request ∧
        Finished redirections a.2 (request.locations.length < a.2.locations.length) a.1 := by
    intro response a shaped mapped
    obtain ⟨r, finished, rfl⟩ := Except.map_eq_ok mapped
    exact ⟨rfl, .inr ⟨.Basic, false, response, nofun, shaped.congr (by simp), finished⟩⟩
  have refused : LevelSpec Prod.snd request (2 * (21 - redirections.toNat)) (20 - redirections.toNat)
      (fun a => Finished redirections a.2 (request.locations.length < a.2.locations.length) a.1)
      sent ((Pure.pure (networkError, request) : FetchM (Response × Request)) sent) :=
    LevelSpec.pure SendsAtMost.refl (Nat.zero_le _) rfl (.inl rfl)
  rw [mainFetch]
  dsimp only
  by_cases sameOrigin : request.mode = .SameOrigin
  · rw [if_pos sameOrigin]
    exact LevelSpec.lift fun a => handBack _ a (shaped_networkError False)
  rw [if_neg sameOrigin]
  by_cases listed : request.url.scheme ∈ schemes
  · rw [if_pos listed]
    refine LevelSpec.lift fun a fetched => ?_
    obtain ⟨response, fetched, finished⟩ := Except.bind_eq_ok fetched
    exact handBack response a (schemeFetch_shaped fetched) finished
  rw [if_neg listed]
  by_cases web : request.url.scheme = "https" ∨ request.url.scheme = "http"
  swap
  · rw [if_neg web]
    exact LevelSpec.lift fun a => handBack _ a (shaped_networkError False)
  rw [if_pos web]
  by_cases badPort : request.url.port.any (· ∈ badPorts)
  · rw [if_pos badPort]
    exact refused
  rw [if_neg badPort]
  by_cases blocked : request.mode = .NoCors ∧ request.redirect ≠ .Follow
  · rw [if_pos blocked]
    exact refused
  rw [if_neg blocked]
  have gate : Admissible request :=
    ⟨web, by simpa using badPort, sameOrigin, fun noCors => by simpa [noCors] using blocked⟩
  have notOpaque : (if request.mode = .NoCors then ResponseTaint.Basic else .Cors) ≠ .Opaque := by
    split <;> nofun
  have inner := http request _ sent gate (fun cors => by simp [cors]) notOpaque
  rw [FetchM.bind_apply]
  rcases fetched : httpFetch env request (if request.mode = .NoCors then .Basic else .Cors)
    redirections sent with ⟨_ | ⟨⟨response, opaqueRedirect⟩, final⟩, sent'⟩ <;>
    rw [fetched] at inner
  · exact LevelSpec.panic inner.sends le_rfl
  obtain ⟨pushes, shaped⟩ := inner.result _ rfl
  refine ⟨inner.sends, fun a mapped => ?_⟩
  obtain ⟨r, finished, rfl⟩ := Except.map_eq_ok mapped
  exact ⟨pushes, .inr ⟨_, opaqueRedirect, response, notOpaque, shaped, finished⟩⟩

/-- One level of main_fetch, given the level after it: http_fetch and http_redirect_fetch at
this count, composed. -/
theorem mainFetch_spec_of_next {env : Env} {redirections : UInt8} (within : redirections.toNat ≤ 20)
    (next : ¬20 ≤ redirections → ∀ request sent,
      LevelSpec Prod.snd request (2 * (21 - (redirections + 1).toNat)) (20 - (redirections + 1).toNat)
        (fun a => Finished (redirections + 1) a.2
          (request.locations.length < a.2.locations.length) a.1)
        sent (mainFetch env request (redirections + 1) sent))
    (request : Request) (sent : List Request) :
    LevelSpec Prod.snd request (2 * (21 - redirections.toNat)) (20 - redirections.toNat)
      (fun a => Finished redirections a.2 (request.locations.length < a.2.locations.length) a.1)
      sent (mainFetch env request redirections sent) :=
  mainFetch_spec_of_http (fun _ _ _ gate tainted _ => httpFetch_spec_of_redirect within gate
    (fun _ _ shaped => httpRedirectFetch_spec_of_main tainted shaped next _) _) request sent

/-- Every run of main_fetch from a count of at most 20: at most two client calls for each level
it can still enter, every one of them transported; at most one location pushed per level; and
the response comes out of main_fetch's last step or a refused gate. -/
theorem mainFetch_spec (env : Env) (redirections : UInt8) (within : redirections.toNat ≤ 20)
    (request : Request) (sent : List Request) :
    LevelSpec Prod.snd request (2 * (21 - redirections.toNat)) (20 - redirections.toNat)
      (fun a => Finished redirections a.2 (request.locations.length < a.2.locations.length) a.1)
      sent (mainFetch env request redirections sent) := by
  suffices run : ∀ n (redirections : UInt8), redirections.toNat + n = 20 → ∀ request sent,
      LevelSpec Prod.snd request (2 * (21 - redirections.toNat)) (20 - redirections.toNat)
        (fun a => Finished redirections a.2 (request.locations.length < a.2.locations.length) a.1)
        sent (mainFetch env request redirections sent) from
    run (20 - redirections.toNat) redirections (by omega) request sent
  have twenty : (20 : UInt8).toNat = 20 := rfl
  intro n
  induction n with
  | zero =>
    intro redirections full
    exact mainFetch_spec_of_next (by omega) fun capped =>
      absurd (UInt8.le_iff_toNat_le.mpr (by omega)) capped
  | succ n ih =>
    intro redirections below
    exact mainFetch_spec_of_next (by omega) fun capped =>
      ih (redirections + 1) (by rw [toNat_succ_of_not_capped capped]; omega)

end Spiderfire
