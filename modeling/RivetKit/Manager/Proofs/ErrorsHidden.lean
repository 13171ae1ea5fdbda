/-
Which errors a client can tell apart.

# Places that hide every internal error

`deconstructError` without the expose flag gives one error for all
(`deconstructError_internal`), so a place hides them if nothing has made
the error public before and the flag is not set.

# Places that do not

`proxyCatch` and the `catch`es around `JSON.parse` put the error's text
into a public error. The flag is set by a header that the actor's router
and the handlers of a WebSocket look at: actions, SSE connections and
messages reach the actor with headers without it
(`exposes_of_callHeaders`), raw HTTP requests and the inspector's with
the client's, and a WebSocket's handlers get the client's request itself.
-/
import RivetKit.Manager.ErrorPlaces

namespace RivetKit.Manager

open Http
open Js
open Actor
open Common
open Protocol

variable (registry : Registry)

-- ============================================================== the claim

/-- At this place a client cannot tell two errors apart that are not
public, of all instances of `Error`. -/
def Hides (place : Place) (request : Request) : Prop :=
  ∀ e₁ e₂ : Thrown, e₁.isPublic = false → e₂.isPublic = false →
    observe registry place request e₁ = observe registry place request e₂

/-- The handlers with a `proxyCatch`. -/
def ClientRoute.proxies : ClientRoute → Bool
  | .action _ => true
  | .message => true
  | .rawHttp => true
  | _ => false

/-- Whether the request reaches the actor behind a route. -/
def Reaches (route : ClientRoute) (request : Request) : Prop :=
  (actorHeaders registry route request).isSome = true

/-- The client asks for internal errors. -/
def Asks (request : Request) : Prop :=
  request.headers.get headerExposeInternalError = some "true"

/-- The places and requests for which nothing of an error gets out. -/
def Sealed (place : Place) (request : Request) : Prop :=
  match place with
  | .manager route => route.proxies = false
  | .managerEncoded _ => True
  | .queryJson route =>
      match route with
      | .connectWebSocket => True
      | .connectSse => requestEncoding request.headers = none
      | .rawWebSocket => True
      | .inspect => True
      | _ => False
  | .paramsJson route => route.proxies = false
  | .actor route =>
      match route with
      | .rawHttp => Reaches registry route request → ¬ Asks request
      | .inspect => ¬ Asks request
      | _ => True
  | .actorParamsJson route =>
      match route with
      | .connectSse => ¬ Reaches registry route request
      | .action _ => ¬ Reaches registry route request
      | .rawHttp => Reaches registry route request → ¬ Asks request
      | .inspect => ¬ Asks request
      | _ => True
  | .sseStream => True
  | .webSocket =>
      (∃ call, serve registry .connectWebSocket request = .ok call) →
        ¬ Asks request
  | .processMessage _ => True
  | .rawWebSocketOpen => True

-- ============================================================ the errors

/-- An `ActorError` with a code, and an `Error` with a message. -/
def coded (code : String) : Thrown :=
  .actorError
    { statusCode := 500
      isPublic := false
      code
      message := "secret"
      metadata := .undefined }

def worded (message : String) : Thrown :=
  .other ("Error: " ++ message) message ("Error: " ++ message)

theorem handleRouteError_coded (code : String) {headers : Headers}
    (h : getRequestExposeInternalError headers = true) :
    (handleRouteError true (coded code) headers).error.code = code := by
  unfold handleRouteError
  rw [h]
  rfl

/-- A public error is sent as it is. -/
theorem handleRouteError_public (enable : Bool) {error : ActorError}
    (headers : Headers) (h : error.isPublic = true) :
    (handleRouteError enable (.actorError error) headers).error
      = error.body := by
  unfold handleRouteError deconstructError
  simp only [h, if_true]
  rfl

/-- Two texts in one sentence. -/
theorem text_ne (start : String) :
    start ++ (worded "a").text ≠ start ++ (worded "b").text := by
  intro heq
  have hlist := congrArg String.toList heq
  rw [String.toList_append, String.toList_append] at hlist
  have htail := List.append_cancel_left hlist
  exact absurd htail (by decide)

-- ============================================== the headers at the actor

/-- Headers that are set do not bring the flag. -/
theorem exposes_of_setJson {headers headers' : Headers} {name : String}
    {v : Value} (hname : lowerName headerExposeInternalError
      ≠ lowerName name)
    (h : setJson registry headers name v = .ok headers') :
    headers'.get headerExposeInternalError
      = headers.get headerExposeInternalError := by
  cases hv : v.truthy with
  | true =>
    exact (setJson_get registry headerExposeInternalError hv h).2 hname
  | false =>
    rw [setJson_falsy registry headers name hv] at h
    injection h with h
    rw [h]

theorem orThrow_ok {α : Type} {x : Option α} {a : α}
    (h : orThrow x = .ok a) : x = some a := by
  cases x with
  | none => exact absurd h (by simp [orThrow])
  | some b =>
    injection h with h
    rw [h]

/-- The headers of actions and SSE connections. -/
theorem exposes_of_freshHeaders {authorized : Authorized}
    {headers : Headers}
    (h : freshHeaders registry authorized = .ok headers) :
    headers.get headerExposeInternalError = none := by
  unfold freshHeaders at h
  obtain ⟨encoded, hencoded, h⟩ := bind_ok h
  have hset := Headers.get_set_of_ne (orThrow_ok hencoded)
    (show lowerName headerExposeInternalError ≠ lowerName headerEncoding
      by simp)
  have hnone : encoded.get headerExposeInternalError = none := by
    rw [hset]
    exact Headers.get_empty _
  have hkeeps : ∀ {written : Headers},
      setJson registry encoded headerAuthData authorized.authData
        = .ok written → written.get headerExposeInternalError = none := by
    intro written hwritten
    rw [exposes_of_setJson registry (by simp) hwritten]
    exact hnone
  split at h
  · rename_i s hs
    split at h
    · exact hkeeps h
    · obtain ⟨withParams, hparams, h⟩ := bind_ok h
      rw [exposes_of_setJson registry (by simp) h]
      rw [Headers.get_set_of_ne (orThrow_ok hparams) (by simp)]
      exact hnone
  · exact hkeeps h

/-- A call from headers sees these headers. -/
theorem handlerHeaders_of_proxyRequest {route : ActorRoute}
    {headers : Headers} {actorId : String} {call : ActorCall}
    (h : Drivers.FileSystem.proxyRequest registry.text { route, headers }
      actorId = .ok call) :
    handlerHeaders call.handler = some headers := by
  unfold Drivers.FileSystem.proxyRequest actorRouterFetch at h
  obtain ⟨authData, -, h⟩ := bind_ok h
  have hcall := Except.ok.inj h
  rw [← hcall]
  cases route with
  | connectSse => rfl
  | action name => rfl
  | rawHttp subpath search => rfl

/-- Actions and SSE connections reach the actor without the flag. -/
theorem exposes_of_fresh {authorized : Except RouteError Authorized}
    {route : ActorRoute} {call : ActorCall} {headers : Headers}
    (h : (authorized >>= fun authorized => freshHeaders registry authorized
        >>= fun headers => Drivers.FileSystem.proxyRequest registry.text
          { route, headers } authorized.actorId) = .ok call)
    (hheaders : handlerHeaders call.handler = some headers) :
    headers.get headerExposeInternalError = none := by
  obtain ⟨authorized, -, h⟩ := bind_ok h
  obtain ⟨fresh, hfresh, h⟩ := bind_ok h
  rw [handlerHeaders_of_proxyRequest registry h] at hheaders
  have hsame := Option.some.inj hheaders
  rw [← hsame]
  exact exposes_of_freshHeaders registry hfresh

/-- Raw HTTP requests reach it with the client's. -/
theorem exposes_of_rawHttp {request : Request} {call : ActorCall}
    {headers : Headers}
    (h : handleRawHttpRequest registry request = .ok call)
    (hheaders : handlerHeaders call.handler = some headers) :
    headers.get headerExposeInternalError
      = request.headers.get headerExposeInternalError := by
  unfold handleRawHttpRequest at h
  obtain ⟨authorized, -, h⟩ := bind_ok h
  obtain ⟨withParams, hparams, h⟩ := bind_ok h
  obtain ⟨withAuth, hauth, h⟩ := bind_ok h
  rw [handlerHeaders_of_proxyRequest registry h] at hheaders
  have hsame := Option.some.inj hheaders
  rw [← hsame, exposes_of_setJson registry (by simp) hauth]
  exact exposes_of_setJson registry (by simp) hparams

/-- And messages without. -/
theorem exposes_of_messageHeaders {request : Request} {headers : Headers}
    (h : messageHeaders request = some headers) :
    headers.get headerExposeInternalError = none := by
  unfold messageHeaders at h
  obtain ⟨_, -, h⟩ := Option.bind_eq_some_iff.1 h
  obtain ⟨connId, -, h⟩ := Option.bind_eq_some_iff.1 h
  obtain ⟨encoding, -, h⟩ := Option.bind_eq_some_iff.1 h
  obtain ⟨connToken, -, h⟩ := Option.bind_eq_some_iff.1 h
  rw [Headers.get_setAll_of_ne _ h]
  · exact Headers.get_empty _
  · intro e he
    simp only [List.mem_cons, List.not_mem_nil, or_false] at he
    rcases he with he | he | he
    · rw [he]
      show lowerName headerExposeInternalError
        ≠ lowerName headerEncoding
      decide
    · rw [he]
      show lowerName headerExposeInternalError
        ≠ lowerName headerConnId
      decide
    · rw [he]
      show lowerName headerExposeInternalError
        ≠ lowerName headerConnToken
      decide

/-- What the flag at the actor is. -/
theorem exposes_of_actorHeaders {route : ClientRoute} {request : Request}
    {headers : Headers}
    (h : actorHeaders registry route request = some headers) :
    headers.get headerExposeInternalError
      = match route with
        | .rawHttp => request.headers.get headerExposeInternalError
        | .inspect => request.headers.get headerExposeInternalError
        | _ => none := by
  have hcall : ∀ {r : Route}, callHeaders registry r request = some headers →
      ∃ call, serve registry r request = .ok call
        ∧ handlerHeaders call.handler = some headers := by
    intro r hr
    unfold callHeaders at hr
    split at hr
    · rename_i call hserve
      exact ⟨call, hserve, hr⟩
    · exact absurd hr (by simp)
  cases route with
  | resolve => exact absurd h (by simp [actorHeaders])
  | connectWebSocket => exact absurd h (by simp [actorHeaders])
  | connectSse =>
    obtain ⟨call, hserve, hheaders⟩ := hcall h
    replace hserve : handleSseConnectRequest registry request = .ok call :=
      hserve
    exact exposes_of_fresh registry hserve hheaders
  | action name =>
    obtain ⟨call, hserve, hheaders⟩ := hcall h
    replace hserve : handleActionRequest registry name request = .ok call :=
      hserve
    exact exposes_of_fresh registry hserve hheaders
  | message => exact exposes_of_messageHeaders h
  | rawHttp =>
    obtain ⟨call, hserve, hheaders⟩ := hcall h
    exact exposes_of_rawHttp registry hserve hheaders
  | rawWebSocket => exact absurd h (by simp [actorHeaders])
  | inspect =>
    injection h with h
    rw [h]

-- ============================================================ the places

/-- Two errors that come out differently. -/
theorem not_hides {place : Place} {request : Request} {e₁ e₂ : Thrown}
    (h₁ : e₁.isPublic = false) (h₂ : e₂.isPublic = false)
    (h : observe registry place request e₁
      ≠ observe registry place request e₂) :
    ¬ Hides registry place request := by
  intro hhides
  exact h (hhides e₁ e₂ h₁ h₂)

/-- A handler of the manager hides what is not proxied. -/
theorem managerError_internal {route : ClientRoute} {request : Request}
    {e₁ e₂ : Thrown} (hroute : route.proxies = false)
    (h₁ : e₁.isPublic = false) (h₂ : e₂.isPublic = false) :
    managerError route request e₁ = managerError route request e₂ := by
  have hresponse : handleRouteError false e₁ request.headers
      = handleRouteError false e₂ request.headers := by
    rw [handleRouteError_internal h₁ rfl, handleRouteError_internal h₂ rfl]
  have hdeconstructed : deconstructError e₁ false
      = deconstructError e₂ false := by
    rw [deconstructError_internal h₁, deconstructError_internal h₂]
  cases route with
  | resolve => exact congrArg Observation.response hresponse
  | connectWebSocket =>
    unfold managerError
    rw [hdeconstructed]
  | connectSse =>
    unfold managerError
    rw [hdeconstructed]
  | action name => exact absurd hroute (by simp [ClientRoute.proxies])
  | message => exact absurd hroute (by simp [ClientRoute.proxies])
  | rawHttp => exact absurd hroute (by simp [ClientRoute.proxies])
  | rawWebSocket =>
    unfold managerError
    rw [hdeconstructed]
  | inspect => exact congrArg Observation.response hresponse

/-- A response shows the message of a public error. -/
theorem response_ne {error₁ error₂ : ActorError} {enable : Bool}
    {headers : Headers} (h₁ : error₁.isPublic = true)
    (h₂ : error₂.isPublic = true) (hne : error₁.message ≠ error₂.message) :
    Observation.response
        (handleRouteError enable (.actorError error₁) headers)
      ≠ Observation.response
        (handleRouteError enable (.actorError error₂) headers) := by
  intro heq
  injection heq with heq
  have hbody := congrArg (fun r => r.error.message) heq
  rw [handleRouteError_public enable headers h₁] at hbody
  rw [handleRouteError_public enable headers h₂] at hbody
  exact hne hbody

/-- A proxied text gets out. -/
theorem managerError_proxies {route : ClientRoute} (request : Request)
    (hroute : route.proxies = true) :
    managerError route request (worded "a")
      ≠ managerError route request (worded "b") := by
  have hne : ∀ operation, Observation.response (handleRouteError false
        (proxyCatch operation (worded "a")) request.headers)
      ≠ Observation.response (handleRouteError false
        (proxyCatch operation (worded "b")) request.headers) := by
    intro operation
    exact response_ne rfl rfl (text_ne _)
  cases route with
  | action name => exact hne _
  | message => exact hne _
  | rawHttp => exact hne _
  | resolve => exact absurd hroute (by simp [ClientRoute.proxies])
  | connectWebSocket => exact absurd hroute (by simp [ClientRoute.proxies])
  | connectSse => exact absurd hroute (by simp [ClientRoute.proxies])
  | rawWebSocket => exact absurd hroute (by simp [ClientRoute.proxies])
  | inspect => exact absurd hroute (by simp [ClientRoute.proxies])

/-- The manager's handlers. -/
theorem manager_hides_iff (route : ClientRoute) (request : Request) :
    Hides registry (.manager route) request
      ↔ Sealed registry (.manager route) request := by
  show _ ↔ route.proxies = false
  cases hroute : route.proxies with
  | true =>
    have hnot : ¬ Hides registry (.manager route) request :=
      not_hides registry (show (worded "a").isPublic = false from rfl)
        (show (worded "b").isPublic = false from rfl)
        (managerError_proxies request hroute)
    simp [hnot]
  | false =>
    refine iff_of_true ?_ rfl
    intro e₁ e₂ h₁ h₂
    exact managerError_internal hroute h₁ h₂

/-- The `JSON.parse` of the query. -/
theorem queryJson_hides_iff (route : ClientRoute) (request : Request) :
    Hides registry (.queryJson route) request
      ↔ Sealed registry (.queryJson route) request := by
  have hpublic : ∀ enable headers, Observation.response
        (handleRouteError enable
          (.actorError (invalidQueryJson (worded "a"))) headers)
      ≠ Observation.response (handleRouteError enable
          (.actorError (invalidQueryJson (worded "b"))) headers) :=
    fun _ _ => response_ne rfl rfl (text_ne _)
  have hmanager := manager_hides_iff registry route request
  have hnot : observe registry (.queryJson route) request (worded "a")
        ≠ observe registry (.queryJson route) request (worded "b") →
      ¬ Hides registry (.queryJson route) request :=
    not_hides registry (show (worded "a").isPublic = false from rfl)
      (show (worded "b").isPublic = false from rfl)
  cases route with
  | resolve => exact iff_of_false (hnot (hpublic _ _)) id
  | connectWebSocket =>
    -- the encoding is not known yet, so only the code gets out
    refine iff_of_true ?_ trivial
    intro e₁ e₂ _ _
    rfl
  | connectSse =>
    show _ ↔ requestEncoding request.headers = none
    cases hencoding : requestEncoding request.headers with
    | none =>
      refine iff_of_true ?_ rfl
      intro e₁ e₂ _ _
      show managerError .connectSse request _
        = managerError .connectSse request _
      unfold managerError
      rw [hencoding]
      rfl
    | some encoding =>
      refine iff_of_false (hnot ?_) (by simp)
      show managerError .connectSse request _
        ≠ managerError .connectSse request _
      unfold managerError
      rw [hencoding]
      intro heq
      injection heq with hsame hbody
      exact text_ne _ (congrArg ErrorBody.message hbody)
  | action name => exact iff_of_false (hnot (hpublic _ _)) id
  | message =>
    exact iff_of_false (fun h => Bool.noConfusion (hmanager.1 h)) id
  | rawHttp =>
    exact iff_of_false (fun h => Bool.noConfusion (hmanager.1 h)) id
  | rawWebSocket => exact iff_of_true (hmanager.2 rfl) trivial
  | inspect => exact iff_of_true (hmanager.2 rfl) trivial

/-- The `JSON.parse` of the parameters. -/
theorem paramsJson_hides_iff (route : ClientRoute) (request : Request) :
    Hides registry (.paramsJson route) request
      ↔ Sealed registry (.paramsJson route) request := by
  have hmanager := manager_hides_iff registry route request
  cases route with
  | connectWebSocket =>
    refine iff_of_true ?_ rfl
    intro e₁ e₂ _ _
    rfl
  | resolve => exact hmanager
  | connectSse => exact hmanager
  | action name => exact hmanager
  | message => exact hmanager
  | rawHttp => exact hmanager
  | rawWebSocket => exact hmanager
  | inspect => exact hmanager

/-- The flag of a request that the actor's router gets. -/
theorem exposes_iff {headers : Headers} :
    getRequestExposeInternalError headers = true
      ↔ headers.get headerExposeInternalError = some "true" := by
  unfold getRequestExposeInternalError
  exact decide_eq_true_iff

/-- The actor's router hides errors unless the flag is set on a request
that reaches it. -/
theorem actor_hides (route : ClientRoute) (request : Request) :
    Hides registry (.actor route) request
      ↔ ∀ headers, actorHeaders registry route request = some headers →
        headers.get headerExposeInternalError ≠ some "true" := by
  have hobserve : ∀ error, observe registry (.actor route) request error
      = actorError registry route request error := fun _ => rfl
  constructor
  · intro hhides headers hheaders hflag
    have hsame := hhides (coded "a") (coded "b") rfl rfl
    rw [hobserve, hobserve] at hsame
    unfold actorError at hsame
    rw [hheaders] at hsame
    injection hsame with hsame
    have hcode := congrArg (fun r => r.error.code) hsame
    have hexpose := exposes_iff.2 hflag
    rw [handleRouteError_coded "a" hexpose] at hcode
    rw [handleRouteError_coded "b" hexpose] at hcode
    exact absurd hcode (by decide)
  · intro hflag e₁ e₂ h₁ h₂
    rw [hobserve, hobserve]
    unfold actorError
    cases hheaders : actorHeaders registry route request with
    | none => rfl
    | some headers =>
      have hexpose : (true && getRequestExposeInternalError headers)
          = false := by
        rw [Bool.true_and]
        apply Bool.eq_false_iff.2
        intro hset
        exact hflag headers hheaders (exposes_iff.1 hset)
      dsimp only
      rw [handleRouteError_internal h₁ hexpose]
      rw [handleRouteError_internal h₂ hexpose]

/-- And so by the client's own header. -/
theorem actor_hides_iff (route : ClientRoute) (request : Request) :
    Hides registry (.actor route) request
      ↔ Sealed registry (.actor route) request := by
  rw [actor_hides]
  have hflag := fun headers (h : actorHeaders registry route request
    = some headers) => exposes_of_actorHeaders registry h
  have hnever : (∀ headers, actorHeaders registry route request
        = some headers → headers.get headerExposeInternalError = none) →
      ∀ headers, actorHeaders registry route request = some headers →
        headers.get headerExposeInternalError ≠ some "true" := by
    intro hnone headers hheaders hset
    rw [hnone headers hheaders] at hset
    exact absurd hset (by simp)
  cases route with
  | resolve => exact iff_of_true (hnever hflag) trivial
  | connectWebSocket => exact iff_of_true (hnever hflag) trivial
  | connectSse => exact iff_of_true (hnever hflag) trivial
  | action name => exact iff_of_true (hnever hflag) trivial
  | message => exact iff_of_true (hnever hflag) trivial
  | rawWebSocket => exact iff_of_true (hnever hflag) trivial
  | rawHttp =>
    constructor
    · intro hall hreaches hasks
      obtain ⟨headers, hheaders⟩ := Option.isSome_iff_exists.1 hreaches
      apply hall headers hheaders
      rw [hflag headers hheaders]
      exact hasks
    · intro hsealed headers hheaders hset
      rw [hflag headers hheaders] at hset
      exact hsealed (Option.isSome_iff_exists.2 ⟨headers, hheaders⟩) hset
  | inspect =>
    constructor
    · intro hall hasks
      exact hall request.headers rfl hasks
    · intro hsealed headers hheaders hset
      rw [hflag headers hheaders] at hset
      exact hsealed hset

/-- The `JSON.parse` of the parameters at the actor. -/
theorem actorParamsJson_hides_iff (route : ClientRoute)
    (request : Request) :
    Hides registry (.actorParamsJson route) request
      ↔ Sealed registry (.actorParamsJson route) request := by
  have hactor := actor_hides_iff registry route request
  -- where the text gets into a public error
  have hpublic : (∀ error, observe registry (.actorParamsJson route) request
        error = actorError registry route request
          (.actorError (invalidParams error))) →
      (Hides registry (.actorParamsJson route) request
        ↔ ¬ Reaches registry route request) := by
    intro hobserve
    constructor
    · intro hhides hreaches
      obtain ⟨headers, hheaders⟩ := Option.isSome_iff_exists.1 hreaches
      have hsame := hhides (worded "a") (worded "b") rfl rfl
      rw [hobserve, hobserve] at hsame
      unfold actorError at hsame
      rw [hheaders] at hsame
      exact response_ne rfl rfl (text_ne _) hsame
    · intro hreaches e₁ e₂ _ _
      have hnone : actorHeaders registry route request = none :=
        Option.not_isSome_iff_eq_none.1 hreaches
      rw [hobserve, hobserve]
      unfold actorError
      rw [hnone]
  cases route with
  | connectSse => exact hpublic fun _ => rfl
  | action name => exact hpublic fun _ => rfl
  | resolve => exact hactor
  | connectWebSocket => exact hactor
  | message => exact hactor
  | rawHttp => exact hactor
  | rawWebSocket => exact hactor
  | inspect => exact hactor

/-- The handlers of a WebSocket. -/
theorem webSocket_hides_iff (request : Request) :
    Hides registry .webSocket request
      ↔ Sealed registry .webSocket request := by
  show _ ↔ ((∃ call, serve registry .connectWebSocket request = .ok call) →
    ¬ Asks request)
  constructor
  · intro hhides hcall hasks
    obtain ⟨call, hserve⟩ := hcall
    have hsame := hhides (coded "a") (coded "b") rfl rfl
    unfold observe at hsame
    rw [hserve, exposes_iff.2 hasks] at hsame
    injection hsame with hclose hcode
    exact absurd hcode (by decide)
  · intro hsealed e₁ e₂ h₁ h₂
    unfold observe
    cases hserve : serve registry .connectWebSocket request with
    | error e => rfl
    | ok call =>
      have hexpose : getRequestExposeInternalError request.headers
          = false := by
        apply Bool.eq_false_iff.2
        intro hset
        exact hsealed ⟨call, hserve⟩ (exposes_iff.1 hset)
      dsimp only
      rw [hexpose, deconstructError_internal h₁]
      rw [deconstructError_internal h₂]

/-- A client cannot tell internal errors apart, at a place and with a
request, exactly if these are sealed. -/
theorem hides_iff (place : Place) (request : Request) :
    Hides registry place request ↔ Sealed registry place request := by
  have hinternal : ∀ {e₁ e₂ : Thrown}, e₁.isPublic = false →
      e₂.isPublic = false →
      deconstructError e₁ false = deconstructError e₂ false := by
    intro e₁ e₂ h₁ h₂
    rw [deconstructError_internal h₁, deconstructError_internal h₂]
  cases place with
  | manager route => exact manager_hides_iff registry route request
  | managerEncoded encoding =>
    refine iff_of_true ?_ trivial
    intro e₁ e₂ h₁ h₂
    unfold observe
    rw [hinternal h₁ h₂]
  | queryJson route => exact queryJson_hides_iff registry route request
  | paramsJson route => exact paramsJson_hides_iff registry route request
  | actor route => exact actor_hides_iff registry route request
  | actorParamsJson route =>
    exact actorParamsJson_hides_iff registry route request
  | sseStream =>
    refine iff_of_true ?_ trivial
    intro e₁ e₂ _ _
    rfl
  | webSocket => exact webSocket_hides_iff registry request
  | processMessage actionId =>
    refine iff_of_true ?_ trivial
    intro e₁ e₂ h₁ h₂
    unfold observe
    rw [hinternal h₁ h₂]
  | rawWebSocketOpen =>
    refine iff_of_true ?_ trivial
    intro e₁ e₂ _ _
    rfl

/-- A hook that throws while an action is authorized: what it threw is in
the message of the response. -/
theorem proxied_text :
    ¬ ∀ (registry : Registry) (place : Place) (request : Request)
        (e₁ e₂ : Thrown),
      e₁.isPublic = false → e₂.isPublic = false →
        observe registry place request e₁
          = observe registry place request e₂ := by
  intro hall
  exact managerError_proxies honestRequest
    (show (ClientRoute.action "increment").proxies = true from rfl)
    (hall openRegistry (.manager (.action "increment")) honestRequest
      (worded "a") (worded "b") rfl rfl)

end RivetKit.Manager
