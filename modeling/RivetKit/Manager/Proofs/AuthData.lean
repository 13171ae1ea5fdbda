/-
The auth data that an actor receives for a request to the manager.

# The two ways it takes

A WebSocket route hands what `onAuth` returned to the actor's handler as
it is. An HTTP route writes it into a header of the request to the
actor's router, which parses the header again. `received_iff` is about
that header: it is only written for a truthy value, and only a text of
bytes can be written, so a falsy value leaves what the header said
before.

# What it said before

Actions and SSE connections start from headers of their own
(`freshHeaders_eq`), so before it said nothing. Raw HTTP requests start
from the client's headers.
-/
import RivetKit.Lib.Decimal
import RivetKit.Lib.Proofs.JsonText
import RivetKit.Manager.Router

namespace RivetKit.Manager

open Http
open Js
open Actor
open Protocol

-- ============================================================= the routes

/-- The routes of external requests. -/
inductive Route
  | action (name : String)
  | connectSse
  | connectWebSocket
  | rawHttp
  | rawWebSocket

variable (registry : Registry)

/-- The handler of a route. -/
def serve (route : Route) (request : Request) :
    Except RouteError ActorCall :=
  match route with
  | .action name => handleActionRequest registry name request
  | .connectSse => handleSseConnectRequest registry request
  | .connectWebSocket => handleWebSocketConnectRequest registry request
  | .rawHttp => handleRawHttpRequest registry request
  | .rawWebSocket => handleRawWebSocketRequest registry request

/-- The first half of a route's handler, with what `onAuth` returned. -/
def authorizeRoute (route : Route) (request : Request) :
    Except RouteError Authorized :=
  match route with
  | .action _ => authorizeWithHeaders registry request [.action]
  | .connectSse => authorizeSse registry request
  | .connectWebSocket => authorizeWebSocketConnect registry request
  | .rawHttp => authorizeRawHttp registry request
  | .rawWebSocket => authorizeRawWebSocket registry request

/-- What `onAuth` may return: a JSON value or `undefined`. -/
def IsAuthData (v : Value) : Prop :=
  v = .undefined ∨ ∃ x : Json, x.Valid ∧ v = x.toValue

/-- The actor is called for a request, with these auth data. -/
def Receives (route : Route) (request : Request) (authData : Value) :
    Prop :=
  ∃ call, serve registry route request = .ok call
    ∧ call.authData = authData

/-- The JSON text of a value can be a header value. -/
def FitsHeader (v : Value) : Prop :=
  ∃ s, stringify registry.text (fun _ => none) v = some (some s)
    ∧ IsValue (normalizeValue s)

/-- When a route hands on what `onAuth` returned. Actions and SSE
connections: it is `undefined`, or truthy and fits a header. Raw HTTP:
the parameters fit a header if they are truthy, and it is truthy and fits
a header, or falsy and what the client's own header says. -/
def HandsOn (route : Route) (request : Request)
    (authorized : Authorized) : Prop :=
  let authData := authorized.authData
  match route with
  | .connectWebSocket => True
  | .rawWebSocket => True
  | .action _ | .connectSse =>
      authData = .undefined
        ∨ (authData.truthy = true ∧ FitsHeader registry authData)
  | .rawHttp =>
      (authorized.connParams.truthy = true →
          FitsHeader registry authorized.connParams)
        ∧ ((authData.truthy = true ∧ FitsHeader registry authData)
          ∨ (authData.truthy = false
            ∧ requestAuthData registry.text request.headers
              = .ok authData))

-- ============================================================== JSON texts

/-- A JSON text has no white space to lose. -/
theorem normalizeValue_print {text : NumberText} {x : Json}
    (h : x.Valid) :
    normalizeValue (String.ofList (x.print text))
      = String.ofList (x.print text) := by
  obtain ⟨first, rest, hprint, hfirst, -⟩ := @print_head text x h
  obtain ⟨last, hlast, hend⟩ := @print_last text x h
  have hhead : (x.print text).head? = some first := by
    rw [hprint]
    rfl
  exact normalizeValue_of_ends hhead hlast hfirst hend

/-- A JSON value fits a header exactly if its text has no character
beyond U+00FF. -/
theorem fitsHeader_iff {x : Json} (h : x.Valid) :
    FitsHeader registry x.toValue
      ↔ ∀ c ∈ x.print registry.text, c.toNat ≤ 0xff := by
  have hstringify : stringify registry.text (fun _ => none) x.toValue
      = some (some (String.ofList (x.print registry.text))) := by
    unfold stringify
    rw [toJson_toValue]
  unfold FitsHeader
  rw [hstringify]
  constructor
  · rintro ⟨s, hs, hvalue⟩ c hc
    injection hs with hs
    injection hs with hs
    rw [← hs, normalizeValue_print h] at hvalue
    have hchar := hvalue.2 c (by rw [String.toList_ofList]; exact hc)
    unfold isValueChar at hchar
    simp only [Bool.and_eq_true, decide_eq_true_eq] at hchar
    exact hchar.1.1.1
  · intro hall
    refine ⟨_, rfl, ?_⟩
    rw [normalizeValue_print h]
    refine ⟨normalizeValue_print h, ?_⟩
    intro c hc
    rw [String.toList_ofList] at hc
    have hle := hall c hc
    have hge := print_ge x h c hc
    unfold isValueChar
    simp only [Bool.and_eq_true, decide_eq_true_eq]
    refine ⟨⟨⟨hle, by omega⟩, ?_⟩, ?_⟩
    · rintro rfl
      exact absurd hge (by decide)
    · rintro rfl
      exact absurd hge (by decide)

-- ============================================================ the header

theorem bind_ok {ε α β : Type} {x : Except ε α} {f : α → Except ε β}
    {b : β} (h : (x >>= f) = .ok b) : ∃ a, x = .ok a ∧ f a = .ok b := by
  cases x with
  | error e => exact absurd h (by simp [bind, Except.bind])
  | ok a => exact ⟨a, rfl, h⟩

theorem ok_bind {ε α β : Type} (a : α) (f : α → Except ε β) :
    (Except.ok a >>= f) = f a := rfl

/-- A falsy value leaves the headers alone. -/
theorem setJson_falsy {v : Value} (headers : Headers) (name : String)
    (hv : v.truthy = false) :
    setJson registry headers name v = .ok headers := by
  unfold setJson
  rw [hv]
  rfl

/-- A truthy value is written exactly if it fits. -/
theorem setJson_truthy {v : Value} (headers : Headers) (name : String)
    (hv : v.truthy = true) :
    (∃ headers', setJson registry headers name v = .ok headers')
      ↔ FitsHeader registry v := by
  unfold setJson FitsHeader
  rw [if_pos hv]
  cases hs : stringify registry.text (fun _ => none) v with
  | none => simp
  | some written =>
    cases written with
    | none => simp
    | some s =>
      dsimp only
      cases hset : headers.set name s with
      | none =>
        have hvalue := (Headers.set_eq_none_iff headers name s).1 hset
        simp [orThrow, hvalue]
      | some headers' =>
        have hvalue : IsValue (normalizeValue s) := by
          by_contra hnot
          rw [(Headers.set_eq_none_iff headers name s).2 hnot] at hset
          exact absurd hset (by simp)
        simp [orThrow, hvalue]

/-- A written value is a header under its name, and other headers keep
their values. -/
theorem setJson_get {v : Value} {headers headers' : Headers}
    {name : String} (other : String) (hv : v.truthy = true)
    (h : setJson registry headers name v = .ok headers') :
    (∃ s, stringify registry.text (fun _ => none) v = some (some s)
        ∧ headers'.get name = some (normalizeValue s))
      ∧ (lowerName other ≠ lowerName name →
          headers'.get other = headers.get other) := by
  unfold setJson at h
  rw [if_pos hv] at h
  split at h
  · rename_i s hs
    cases hset : headers.set name s with
    | none =>
      rw [hset] at h
      exact absurd h (by simp [orThrow])
    | some written =>
      rw [hset] at h
      injection h with h
      rw [← h]
      exact ⟨⟨s, hs, Headers.get_set hset rfl⟩,
        Headers.get_set_of_ne hset⟩
  · exact absurd h (by simp)

/-- A truthy JSON value is read back from the header it was written
to. -/
theorem requestAuthData_setJson {x : Json} {headers headers' : Headers}
    (hx : x.Valid) (hv : x.toValue.truthy = true)
    (h : setJson registry headers headerAuthData x.toValue
      = .ok headers') :
    requestAuthData registry.text headers' = .ok x.toValue := by
  obtain ⟨⟨s, hs, hget⟩, -⟩ :=
    setJson_get registry headerAuthData hv h
  unfold stringify at hs
  rw [toJson_toValue] at hs
  injection hs with hs
  injection hs with hs
  rw [← hs, normalizeValue_print hx] at hget
  have hparse : parse registry.text
      (String.ofList (x.print registry.text)) = some x := parse_print hx
  have hne : String.ofList (x.print registry.text) ≠ "" := by
    obtain ⟨c, cs, hprint, -⟩ := @print_head registry.text x hx
    intro hempty
    have hlist := congrArg String.toList hempty
    rw [String.toList_ofList, hprint] at hlist
    exact absurd hlist (by simp)
  unfold requestAuthData parseOptional
  rw [hget]
  dsimp only
  rw [if_neg hne]
  unfold parseJson
  rw [hparse]
  rfl

/-- What the actor receives of auth data that are written into the
headers of a request, if they are truthy: exactly these if they fit, or
are falsy and what the headers said before. -/
theorem received_iff {v : Value} (hv : IsAuthData v) (headers : Headers)
    (route : ActorRoute) (actorId : String) :
    (∃ call, (setJson registry headers headerAuthData v >>= fun headers =>
        Drivers.FileSystem.proxyRequest registry.text { route, headers }
          actorId) = .ok call ∧ call.authData = v)
      ↔ (v.truthy = true ∧ FitsHeader registry v)
        ∨ (v.truthy = false
          ∧ requestAuthData registry.text headers = .ok v) := by
  by_cases htruthy : v.truthy = true
  · have hright : ((v.truthy = true ∧ FitsHeader registry v)
        ∨ (v.truthy = false
          ∧ requestAuthData registry.text headers = .ok v))
        ↔ FitsHeader registry v := by
      simp [htruthy]
    rw [hright, ← setJson_truthy registry headers headerAuthData htruthy]
    constructor
    · rintro ⟨call, hcall, -⟩
      obtain ⟨headers', hset, -⟩ := bind_ok hcall
      exact ⟨headers', hset⟩
    · rintro ⟨headers', hset⟩
      obtain ⟨x, hx, rfl⟩ : ∃ x : Json, x.Valid ∧ v = x.toValue := by
        rcases hv with rfl | hv
        · exact absurd htruthy (by simp [Value.truthy])
        · exact hv
      have hread := requestAuthData_setJson registry hx htruthy hset
      rw [hset]
      unfold Drivers.FileSystem.proxyRequest actorRouterFetch
      simp only [bind, Except.bind, hread]
      exact ⟨_, rfl, rfl⟩
  · have hfalsy : v.truthy = false := Bool.eq_false_iff.2 htruthy
    have hright : ((v.truthy = true ∧ FitsHeader registry v)
        ∨ (v.truthy = false
          ∧ requestAuthData registry.text headers = .ok v))
        ↔ requestAuthData registry.text headers = .ok v := by
      simp [hfalsy]
    rw [hright, setJson_falsy registry headers headerAuthData hfalsy]
    unfold Drivers.FileSystem.proxyRequest actorRouterFetch
    cases hread : requestAuthData registry.text headers with
    | error e => simp [bind, Except.bind, hread]
    | ok read => simp [bind, Except.bind, pure, Except.pure, hread]

-- ============================================================ each route

/-- The headers of actions and SSE connections say nothing of auth data
before these are written. -/
theorem freshHeaders_eq {authorized : Authorized}
    (hraw : ∀ s, authorized.connParamsRaw = some s → IsValue s) :
    ∃ headers, requestAuthData registry.text headers = .ok .undefined
      ∧ freshHeaders registry authorized
        = setJson registry headers headerAuthData authorized.authData := by
  have hnothing : ∀ headers : Headers, headers.get headerAuthData = none →
      requestAuthData registry.text headers = .ok .undefined := by
    intro headers hget
    unfold requestAuthData
    rw [hget]
    rfl
  obtain ⟨encoded, hencoded⟩ : ∃ encoded, Headers.empty.set headerEncoding
      (encodingText authorized.encoding) = some encoded := by
    cases authorized.encoding with
    | json => exact ⟨_, rfl⟩
    | cbor => exact ⟨_, rfl⟩
    | bare => exact ⟨_, rfl⟩
  have hget : encoded.get headerAuthData = none := by
    rw [Headers.get_set_of_ne hencoded (by decide)]
    rfl
  unfold freshHeaders
  rw [hencoded]
  cases hparams : authorized.connParamsRaw with
  | none => exact ⟨encoded, hnothing encoded hget, rfl⟩
  | some s =>
    by_cases hempty : s = ""
    · refine ⟨encoded, hnothing encoded hget, ?_⟩
      simp [orThrow, bind, Except.bind, pure, Except.pure, hempty]
    · -- the text came out of a header, so it can be one again
      have hvalue := hraw s hparams
      obtain ⟨withParams, hset⟩ : ∃ withParams,
          encoded.set headerConnParams s = some withParams := by
        rw [← Option.ne_none_iff_exists']
        intro hnone
        have hnot := (Headers.set_eq_none_iff _ _ _).1 hnone
        rw [hvalue.1] at hnot
        exact hnot hvalue
      refine ⟨withParams, hnothing withParams ?_, ?_⟩
      · rw [Headers.get_set_of_ne hset (by decide)]
        exact hget
      · simp [orThrow, bind, Except.bind, hempty, hset]

/-- The raw parameters of an action or an SSE connection are a header of
the client. -/
theorem connParamsRaw_of_authorizeWithHeaders {request : Request}
    {intents : List AuthIntent} {authorized : Authorized}
    (h : authorizeWithHeaders registry request intents = .ok authorized) :
    authorized.connParamsRaw = request.headers.get headerConnParams := by
  unfold authorizeWithHeaders at h
  obtain ⟨_, -, h⟩ := bind_ok h
  obtain ⟨_, -, h⟩ := bind_ok h
  obtain ⟨_, -, h⟩ := bind_ok h
  obtain ⟨_, -, h⟩ := bind_ok h
  obtain ⟨_, -, h⟩ := bind_ok h
  injection h with h
  rw [← h]

/-- Actions and SSE connections. -/
theorem received_fresh_iff {request : Request}
    {intents : List AuthIntent} {authorized : Authorized}
    (h : authorizeWithHeaders registry request intents = .ok authorized)
    (hdata : IsAuthData authorized.authData) (route : ActorRoute) :
    (∃ call, (freshHeaders registry authorized >>= fun headers =>
        Drivers.FileSystem.proxyRequest registry.text { route, headers }
          authorized.actorId) = .ok call
        ∧ call.authData = authorized.authData)
      ↔ authorized.authData = .undefined
        ∨ (authorized.authData.truthy = true
          ∧ FitsHeader registry authorized.authData) := by
  have hraw : ∀ s, authorized.connParamsRaw = some s → IsValue s := by
    intro s hs
    rw [connParamsRaw_of_authorizeWithHeaders registry h] at hs
    exact Headers.valid_of_get hs
  obtain ⟨headers, hnothing, hfresh⟩ := freshHeaders_eq registry hraw
  rw [hfresh, received_iff registry hdata, hnothing]
  constructor
  · rintro (hfits | ⟨-, hundefined⟩)
    · exact Or.inr hfits
    · injection hundefined with hundefined
      exact Or.inl hundefined.symm
  · rintro (hundefined | hfits)
    · rw [hundefined]
      exact Or.inr ⟨rfl, rfl⟩
    · exact Or.inl hfits

/-- Raw HTTP requests. -/
theorem received_rawHttp_iff (request : Request) {authorized : Authorized}
    (hdata : IsAuthData authorized.authData) (route : ActorRoute) :
    (∃ call, (setJson registry request.headers headerConnParams
          authorized.connParams >>= fun headers =>
        setJson registry headers headerAuthData authorized.authData
          >>= fun headers =>
        Drivers.FileSystem.proxyRequest registry.text { route, headers }
          authorized.actorId) = .ok call
        ∧ call.authData = authorized.authData)
      ↔ HandsOn registry .rawHttp request authorized := by
  unfold HandsOn
  dsimp only
  by_cases hparams : authorized.connParams.truthy = true
  · rw [← setJson_truthy registry request.headers headerConnParams hparams]
    constructor
    · rintro ⟨call, hcall, hauth⟩
      obtain ⟨headers, hset, hcall⟩ := bind_ok hcall
      refine ⟨fun _ => ⟨headers, hset⟩, ?_⟩
      have hiff := (received_iff registry hdata headers route
        authorized.actorId).1 ⟨call, hcall, hauth⟩
      -- the parameters are another header
      have hsame := (setJson_get registry headerAuthData hparams
        hset).2 (by decide)
      unfold requestAuthData at hiff ⊢
      rw [hsame] at hiff
      exact hiff
    · rintro ⟨hfits, hauth⟩
      obtain ⟨headers, hset⟩ := hfits hparams
      have hsame := (setJson_get registry headerAuthData hparams
        hset).2 (by decide)
      rw [hset]
      apply (received_iff registry hdata headers route
        authorized.actorId).2
      unfold requestAuthData at hauth ⊢
      rw [hsame]
      exact hauth
  · have hfalsy := Bool.eq_false_iff.2 hparams
    rw [setJson_falsy registry request.headers headerConnParams hfalsy]
    rw [hfalsy]
    have hiff := received_iff registry hdata request.headers route
      authorized.actorId
    constructor
    · intro hcall
      exact ⟨fun h => absurd h (by simp), hiff.1 hcall⟩
    · rintro ⟨-, hauth⟩
      exact hiff.2 hauth

-- ========================================================== every route

/-- A raw WebSocket's path is not the one of connections. -/
theorem rawWebSocket_path (s : String) :
    pathRawWebSocketPrefix ++ s ≠ pathConnectWebSocket
      ∧ ∃ rest, afterStart pathRawWebSocketPrefix
          (pathRawWebSocketPrefix ++ s) = some rest := by
  constructor
  · intro heq
    have hlist := congrArg String.toList heq
    rw [String.toList_append] at hlist
    unfold pathRawWebSocketPrefix pathConnectWebSocket at hlist
    exact absurd (congrArg (List.take 2) hlist) (by simp)
  · unfold afterStart
    rw [String.toList_append, if_pos]
    · exact ⟨_, rfl⟩
    · rw [List.isPrefixOf_iff_prefix]
      exact List.prefix_append _ _

/-- Once a request is authorized, the actor receives exactly what
`onAuth` returned if and only if the route hands it on. -/
theorem receives_iff {route : Route} {request : Request}
    {authorized : Authorized}
    (h : authorizeRoute registry route request = .ok authorized)
    (hdata : IsAuthData authorized.authData) :
    Receives registry route request authorized.authData
      ↔ HandsOn registry route request authorized := by
  unfold Receives
  cases route with
  | action name =>
    replace h : authorizeWithHeaders registry request [.action]
      = .ok authorized := h
    show (∃ call, handleActionRequest registry name request = .ok call
      ∧ _) ↔ _
    unfold handleActionRequest
    rw [h, ok_bind]
    exact received_fresh_iff registry h hdata (.action name)
  | connectSse =>
    replace h : authorizeSse registry request = .ok authorized := h
    show (∃ call, handleSseConnectRequest registry request = .ok call
      ∧ _) ↔ _
    unfold handleSseConnectRequest
    rw [h, ok_bind]
    unfold authorizeSse at h
    obtain ⟨_, -, h⟩ := bind_ok h
    exact received_fresh_iff registry h hdata .connectSse
  | connectWebSocket =>
    replace h : authorizeWebSocketConnect registry request
      = .ok authorized := h
    show (∃ call, handleWebSocketConnectRequest registry request
      = .ok call ∧ _) ↔ True
    unfold handleWebSocketConnectRequest
    rw [h, ok_bind]
    constructor
    · intro _
      trivial
    · intro _
      unfold Drivers.FileSystem.proxyWebSocket
      rw [if_pos rfl]
      exact ⟨_, rfl, rfl⟩
  | rawHttp =>
    replace h : authorizeRawHttp registry request = .ok authorized := h
    show (∃ call, handleRawHttpRequest registry request = .ok call
      ∧ _) ↔ _
    unfold handleRawHttpRequest
    rw [h, ok_bind]
    exact received_rawHttp_iff registry request hdata _
  | rawWebSocket =>
    replace h : authorizeRawWebSocket registry request
      = .ok authorized := h
    show (∃ call, handleRawWebSocketRequest registry request = .ok call
      ∧ _) ↔ True
    unfold handleRawWebSocketRequest
    rw [h, ok_bind]
    constructor
    · intro _
      trivial
    · intro _
      obtain ⟨hpath, rest, hrest⟩ := rawWebSocket_path
        (subpath "/raw/websocket/" request ++ request.search)
      rw [← String.append_assoc] at hpath hrest
      unfold Drivers.FileSystem.proxyWebSocket
      rw [if_neg hpath, hrest]
      exact ⟨_, rfl, rfl⟩

/-- The query of a client, and its text. -/
def counterQuery : Json :=
  .obj [("getForKey",
    .obj [("name", .str "counter"), ("key", .arr [])])]

def counterQueryText : String :=
  "\x7b\"getForKey\":\x7b\"name\":\"counter\",\"key\":[]\x7d\x7d"

theorem parse_counterQuery :
    parse NumberText.decimal counterQueryText = some counterQuery := by
  have htext : counterQueryText
      = String.ofList (counterQuery.print NumberText.decimal) := by decide
  rw [htext]
  apply parse_print
  simp [counterQuery, Json.Valid, MembersValid, ElementsValid]

/-- A registry with one actor, whose `onAuth` lets everyone in and
returns nothing. -/
def openRegistry : Registry :=
  { text := NumberText.decimal
    use := fun _ => some { onAuth := some fun _ _ _ => .ok .undefined }
    driver :=
      { getForId := fun _ _ => .ok none
        getWithKey := fun _ _ => .ok (some ⟨"id", "counter", []⟩)
        getOrCreateWithKey := fun _ _ _ _ => .ok ⟨"id", "counter", []⟩
        createActor := fun _ _ _ _ => .ok ⟨"id", "counter", []⟩ }
    upgradeWebSocket := true }

/-- A request without auth data. -/
def honestRequest : Request :=
  { path := "/actors/raw/http/"
    search := ""
    headers :=
      { entries := [("x-rivetkit-query", counterQueryText)]
        lower := by decide
        distinct := by decide
        valid := by decide } }

/-- A request that brings auth data of its own. -/
def forgedRequest : Request :=
  { path := "/actors/raw/http/"
    search := ""
    headers :=
      { entries := [("x-rivetkit-auth-data", "true"),
          ("x-rivetkit-query", counterQueryText)]
        lower := by decide
        distinct := by decide
        valid := by decide } }

/-- What the route knows of both. -/
def counterAuthorized : Authorized :=
  { encoding := .json
    connParamsRaw := none
    connParams := .undefined
    authData := .undefined
    actorId := "id" }

theorem authorize_counter {request : Request}
    (hquery : request.headers.get headerActorQuery
      = some counterQueryText)
    (hparams : request.headers.get headerConnParams = none) :
    authorizeRoute openRegistry .rawHttp request
      = .ok counterAuthorized := by
  have hempty : counterQueryText ≠ "" := by decide
  show authorizeRawHttp openRegistry request = _
  unfold authorizeRawHttp
  rw [hquery, hparams]
  dsimp only
  rw [if_neg hempty]
  unfold parseJson
  rw [show parse openRegistry.text counterQueryText = some counterQuery
    from parse_counterQuery]
  rfl

theorem requestAuthData_forged :
    requestAuthData openRegistry.text forgedRequest.headers
      = .ok (.bool true) := by
  have hget : forgedRequest.headers.get headerAuthData = some "true" := by
    decide
  have hparse : parse NumberText.decimal
      (String.ofList ((Json.bool true).print NumberText.decimal))
        = some (.bool true) := parse_print trivial
  have htext : String.ofList ((Json.bool true).print NumberText.decimal)
      = "true" := by decide
  rw [htext] at hparse
  unfold requestAuthData parseOptional
  rw [hget]
  dsimp only
  rw [if_neg (by decide)]
  unfold parseJson
  rw [show parse openRegistry.text "true" = some (.bool true) from hparse]
  rfl

/-- Two requests on one route for which `onAuth` returned the same: the
actor receives exactly that for both, and so the same, if and only if the
route hands it on for both. -/
theorem auth_data_integrity {route : Route} {r₁ r₂ : Request}
    {a₁ a₂ : Authorized}
    (h₁ : authorizeRoute registry route r₁ = .ok a₁)
    (h₂ : authorizeRoute registry route r₂ = .ok a₂)
    (hdata : IsAuthData a₁.authData) (hsame : a₁.authData = a₂.authData) :
    (Receives registry route r₁ a₁.authData
        ∧ Receives registry route r₂ a₂.authData
        ∧ ∃ c₁ c₂, serve registry route r₁ = .ok c₁
          ∧ serve registry route r₂ = .ok c₂ ∧ c₁.authData = c₂.authData)
      ↔ HandsOn registry route r₁ a₁ ∧ HandsOn registry route r₂ a₂ := by
  have hdata₂ : IsAuthData a₂.authData := by
    rw [← hsame]
    exact hdata
  rw [← receives_iff registry h₁ hdata, ← receives_iff registry h₂ hdata₂]
  constructor
  · rintro ⟨k₁, k₂, -⟩
    exact ⟨k₁, k₂⟩
  · rintro ⟨⟨c₁, hc₁, hauth₁⟩, ⟨c₂, hc₂, hauth₂⟩⟩
    refine ⟨⟨c₁, hc₁, hauth₁⟩, ⟨c₂, hc₂, hauth₂⟩, c₁, c₂, hc₁, hc₂, ?_⟩
    rw [hauth₁, hauth₂, hsame]

theorem auth_data_integrity_counter :
    (Receives openRegistry .rawHttp honestRequest .undefined
        ∧ Receives openRegistry .rawHttp forgedRequest .undefined
        ∧ ∃ c₁ c₂, serve openRegistry .rawHttp honestRequest = .ok c₁
          ∧ serve openRegistry .rawHttp forgedRequest = .ok c₂
          ∧ c₁.authData = c₂.authData)
      ↔ HandsOn openRegistry .rawHttp honestRequest counterAuthorized
        ∧ HandsOn openRegistry .rawHttp forgedRequest
            counterAuthorized :=
  auth_data_integrity openRegistry
    (authorize_counter (by decide) (by decide))
    (authorize_counter (by decide) (by decide)) (Or.inl rfl) rfl

/-- `onAuth` returned nothing; the actor receives what the client put
into the header. -/
theorem forged_auth_data :
    ¬ ∀ (registry : Registry) (route : Route) (request : Request)
        (authorized : Authorized),
      authorizeRoute registry route request = .ok authorized →
        IsAuthData authorized.authData →
          Receives registry route request authorized.authData := by
  intro hall
  have hauthorized : authorizeRoute openRegistry .rawHttp forgedRequest
      = .ok counterAuthorized :=
    authorize_counter (by decide) (by decide)
  have hreceives := hall _ _ _ _ hauthorized (Or.inl rfl)
  rw [receives_iff openRegistry hauthorized (Or.inl rfl)] at hreceives
  obtain ⟨-, hforged⟩ := hreceives
  rcases hforged with ⟨htruthy, -⟩ | ⟨-, hread⟩
  · exact absurd htruthy (by decide)
  · rw [requestAuthData_forged] at hread
    injection hread with hread
    exact absurd hread (by simp [counterAuthorized])

end RivetKit.Manager
