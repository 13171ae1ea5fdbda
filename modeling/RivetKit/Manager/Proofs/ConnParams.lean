/-
The connection parameters that `onAuth` and the actor's hooks see, for
each of the client's transports.

# Three ways

Actions, SSE connections and raw HTTP requests carry the JSON text in a
header, which the manager parses for `onAuth` and the actor's router for
the hooks: both see the value, provided the text can be in a header.

WebSockets carry it in a subprotocol, only if the value is truthy and its
text has no parenthesis. The manager hands the parsed value to the actor
and the text itself to `onAuth`, and no value is its own text
(`webSocket_disagrees`).

Raw WebSockets carry it like WebSockets, and `onAuth` gets the parsed
value. Raw requests make no connection, so the hooks see nothing there.
-/
import RivetKit.Actor.ConnHooks
import RivetKit.Manager.Proofs.ClientRequests

namespace RivetKit.Manager

open Http
open Js
open Actor
open Protocol
open Client.HttpClientDriver

-- ============================================================ transports

/-- How a client reaches an actor. -/
inductive Transport
  | action (name : String)
  | connectSse
  | connectWebSocket
  | rawHttp (path search : String) (init : Headers)
  | rawWebSocket (path search : String) (subprotocols : Subprotocols)

namespace Transport

/-- The client's request. -/
def request (text : NumberText) (actorQuery : Value)
    (encoding : Encoding) (params : Value) : Transport → Option Request
  | action name =>
      Client.HttpClientDriver.action text actorQuery encoding params name
  | connectSse =>
      Client.HttpClientDriver.connectSse text actorQuery encoding params
  | connectWebSocket =>
      Client.HttpClientDriver.connectWebSocket text actorQuery encoding
        params
  | rawHttp path search init =>
      rawHttpRequest text actorQuery encoding params path search init
  | rawWebSocket path search subprotocols =>
      Client.HttpClientDriver.rawWebSocket text actorQuery encoding params
        path search subprotocols.protocols

/-- The manager's route for it. -/
def route : Transport → Route
  | action name => .action name
  | connectSse => .connectSse
  | connectWebSocket => .connectWebSocket
  | rawHttp _ _ _ => .rawHttp
  | rawWebSocket _ _ _ => .rawWebSocket

/-- Whether the actor makes a connection for it. -/
def connects : Transport → Bool
  | action _ => true
  | connectSse => true
  | connectWebSocket => true
  | rawHttp _ _ _ => false
  | rawWebSocket _ _ _ => false

end Transport

-- ============================================================== the claim

variable (registry : Registry)

/-- The registry whose `onAuth` hooks answer with the parameters they
see. -/
def Registry.echo : Registry :=
  { registry with
    use := fun name => (registry.use name).map fun definition =>
      { onAuth := definition.onAuth.map fun _ _ _ params =>
          .ok params } }

/-- `onAuth` is called for a request, with these parameters. -/
def OnAuthSees (route : Route) (request : Request) (params : Value) :
    Prop :=
  ∃ authorized, authorizeRoute registry.echo route request = .ok authorized
    ∧ authorized.authData = params

/-- A client's request gets through, `onAuth` sees its parameters, and so
do the hooks if the actor makes a connection. -/
def Agrees (transport : Transport) (query : Json) (encoding : Encoding)
    (params : Json) : Prop :=
  ∃ request, transport.request registry.text query.toValue encoding
      params.toValue = some request
    ∧ OnAuthSees registry transport.route request params.toValue
    ∧ (transport.connects = true →
        ∃ call, serve registry transport.route request = .ok call)
    ∧ ∀ call, serve registry transport.route request = .ok call →
        ∀ config, call.handler.hookCalls registry.text config
          = .ok (if transport.connects then
              prepareConn config params.toValue else [])

/-- A query that the schema takes as it is. -/
structure IsActorQuery (query : Json) : Prop where
  valid : query.Valid
  schema : actorQuerySchema query.toValue = some query.toValue

/-- A query finds an actor whose `onAuth` lets everybody in, with auth
data that can be handed on. -/
structure Admits (query : Value) : Prop where
  upgrades : registry.upgradeWebSocket = true
  named : ∃ name definition onAuth,
    getActorNameFromQuery registry query = .ok name
      ∧ registry.use (name.toText registry.text) = some definition
      ∧ definition.onAuth = some onAuth
      ∧ ∀ request intents params, ∃ authData,
        onAuth request intents params = .ok authData
          ∧ IsAuthData authData
          ∧ (authData.truthy = true → FitsHeader registry authData)
  found : ∃ actorId, queryActor registry query = .ok actorId

/-- When a transport's parameters agree. -/
def Carries (transport : Transport) (query params : Json) : Prop :=
  match transport with
  | .action _ | .connectSse | .rawHttp _ _ _ =>
      FitsHeader registry query.toValue
        ∧ FitsHeader registry params.toValue
  | .connectWebSocket => False
  | .rawWebSocket _ _ _ =>
      params.toValue.truthy = true ∧ FitsProtocol registry query
        ∧ FitsProtocol registry params

-- =============================================================== the manager

/-- The schema takes objects only, so the intents can be read. -/
theorem exists_intents {query : Json} (h : IsActorQuery query) :
    ∃ intents, getIntentsFromQuery query.toValue = .ok intents := by
  have hschema := h.schema
  cases query with
  | obj members =>
    have hhas : ∀ name, ∃ b,
        orThrow ((Json.obj members).toValue.has name) = .ok b :=
      fun name => ⟨_, rfl⟩
    obtain ⟨b₁, h₁⟩ := hhas "getForId"
    obtain ⟨b₂, h₂⟩ := hhas "getForKey"
    obtain ⟨b₃, h₃⟩ := hhas "getOrCreateForKey"
    obtain ⟨b₄, h₄⟩ := hhas "create"
    unfold getIntentsFromQuery
    rw [h₁, h₂, h₃, h₄]
    cases b₁ with
    | true => exact ⟨_, rfl⟩
    | false =>
      cases b₂ with
      | true => exact ⟨_, rfl⟩
      | false =>
        cases b₃ with
        | true => exact ⟨_, rfl⟩
        | false =>
          cases b₄ with
          | true => exact ⟨_, rfl⟩
          | false => exact ⟨_, rfl⟩
  | null => exact absurd hschema (by simp [actorQuerySchema, objectSchema,
      Json.toValue])
  | bool b => exact absurd hschema (by simp [actorQuerySchema,
      objectSchema, Json.toValue])
  | num q => exact absurd hschema (by simp [actorQuerySchema,
      objectSchema, Json.toValue])
  | str s => exact absurd hschema (by simp [actorQuerySchema,
      objectSchema, Json.toValue])
  | arr xs => exact absurd hschema (by simp [actorQuerySchema,
      objectSchema, Json.toValue])

/-- A request whose query names an actor is answered by its `onAuth`. -/
theorem authenticateEndpoint_eq {query : Json}
    {name : Value} {definition : ActorDefinition}
    {onAuth : Request → List AuthIntent → Value → Except RouteError Value}
    (hquery : IsActorQuery query)
    (hname : getActorNameFromQuery registry query.toValue = .ok name)
    (huse : registry.use (name.toText registry.text) = some definition)
    (honAuth : definition.onAuth = some onAuth) (request : Request)
    (additionalIntents : List AuthIntent) (params : Value) :
    ∃ intents, authenticateEndpoint registry request query.toValue
      additionalIntents params = onAuth request intents params := by
  obtain ⟨intents, hintents⟩ := exists_intents hquery
  refine ⟨additionalIntents.foldl addIntent intents, ?_⟩
  unfold authenticateEndpoint
  rw [hintents, ok_bind, hname, ok_bind]
  dsimp only
  rw [huse]
  unfold authenticateRequest
  dsimp only
  rw [honAuth]

/-- Where a query finds an actor, the echo answers with the
parameters. -/
theorem authorize_echo {query : Json} (hquery : IsActorQuery query)
    (hadmits : Admits registry query.toValue) (request : Request)
    (intents : List AuthIntent) (params : Value) :
    ∃ actorId, authorize registry.echo request query.toValue intents params
      = .ok (params, actorId) := by
  obtain ⟨name, definition, onAuth, hname, huse, honAuth, -⟩ :=
    hadmits.named
  obtain ⟨actorId, hfound⟩ := hadmits.found
  have huse' : registry.echo.use (name.toText registry.echo.text)
      = some { onAuth := some fun _ _ params => .ok params } := by
    show (registry.use (name.toText registry.text)).map _ = _
    rw [huse, Option.map_some, honAuth]
    rfl
  obtain ⟨all, hauth⟩ := authenticateEndpoint_eq registry.echo
    hquery hname huse' rfl request intents params
  refine ⟨actorId, ?_⟩
  unfold authorize
  rw [hauth, ok_bind]
  show (queryActor registry query.toValue >>= _) = _
  rw [hfound]
  rfl

/-- And its own `onAuth` lets the client in. -/
theorem authorize_admits {query : Json} (hquery : IsActorQuery query)
    (hadmits : Admits registry query.toValue) (request : Request)
    (intents : List AuthIntent) (params : Value) :
    ∃ authData actorId,
      authorize registry request query.toValue intents params
          = .ok (authData, actorId)
        ∧ IsAuthData authData
        ∧ (authData.truthy = true → FitsHeader registry authData) := by
  obtain ⟨name, definition, onAuth, hname, huse, honAuth, hlets⟩ :=
    hadmits.named
  obtain ⟨actorId, hfound⟩ := hadmits.found
  obtain ⟨all, hauth⟩ := authenticateEndpoint_eq registry hquery hname huse honAuth
    request intents params
  obtain ⟨authData, hanswer, hdata, hfits⟩ := hlets request all params
  refine ⟨authData, actorId, ?_, hdata, hfits⟩
  unfold authorize
  rw [hauth, hanswer, ok_bind, hfound]
  rfl

/-- What the manager reads of the headers. -/
theorem getRequestQuery_brings {headers : Headers} {query params : Json}
    {encoding : Encoding} (hquery : IsActorQuery query)
    (h : Brings registry headers query encoding params)
    (path search : String) :
    getRequestQuery registry { path, search, headers }
      = .ok query.toValue := by
  unfold getRequestQuery
  dsimp only
  rw [h.query]
  dsimp only
  rw [if_neg (printed_ne_empty registry hquery.valid)]
  rw [parseJson_printed registry hquery.valid]

theorem getRequestEncoding_of_get {headers : Headers}
    {encoding : Encoding}
    (h : headers.get headerEncoding = some (encodingText encoding))
    (path search : String) :
    getRequestEncoding { path, search, headers } = .ok encoding := by
  unfold getRequestEncoding
  dsimp only
  rw [h]
  dsimp only
  rw [encodingSchema_encodingText]

/-- Actions and SSE connections: the parsed parameters go to `onAuth`,
and the text goes on. -/
theorem authorizeWithHeaders_eq {headers : Headers} {query params : Json}
    {encoding : Encoding} (hquery : IsActorQuery query)
    (hparams : params.Valid)
    (h : Brings registry headers query encoding params)
    (path search : String) (intents : List AuthIntent) :
    authorizeWithHeaders registry { path, search, headers } intents
      = (authorize registry { path, search, headers } query.toValue intents
          params.toValue).map fun answer =>
        { encoding
          connParamsRaw := some (printed registry params)
          connParams := params.toValue
          authData := answer.1
          actorId := answer.2 } := by
  unfold authorizeWithHeaders
  rw [getRequestQuery_brings registry hquery h, ok_bind]
  rw [hquery.schema]
  show (Except.ok query.toValue >>= _) = _
  rw [ok_bind]
  dsimp only
  rw [h.encoding, h.params, Option.bind_some]
  rw [encodingSchema_encodingText]
  show (Except.ok encoding >>= _) = _
  rw [ok_bind, parseOptional_printed registry hparams, ok_bind]
  cases authorize registry { path, search, headers } query.toValue intents
    params.toValue with
  | error e => rfl
  | ok answer => rfl

/-- Raw HTTP requests. -/
theorem authorizeRawHttp_eq {headers : Headers} {query params : Json}
    {encoding : Encoding} (hquery : IsActorQuery query)
    (hparams : params.Valid)
    (h : Brings registry headers query encoding params)
    (path search : String) :
    authorizeRawHttp registry { path, search, headers }
      = (authorize registry { path, search, headers } query.toValue
          [.action] params.toValue).map fun answer =>
        { encoding := .json
          connParamsRaw := some (printed registry params)
          connParams := params.toValue
          authData := answer.1
          actorId := answer.2 } := by
  unfold authorizeRawHttp
  dsimp only
  rw [h.query, h.params]
  dsimp only
  rw [if_neg (printed_ne_empty registry hquery.valid)]
  rw [parseJson_printed registry hquery.valid, ok_bind]
  rw [parseOptional_printed registry hparams, ok_bind]
  cases authorize registry { path, search, headers } query.toValue
    [.action] params.toValue with
  | error e => rfl
  | ok answer => rfl

theorem orInvalid_some {α : Type} (a : α) : orInvalid (some a) = .ok a :=
  rfl

/-- WebSockets: the parsed parameters go on, and their text to
`onAuth`. -/
theorem authorizeWebSocketConnect_eq {request : Request}
    {query params : Json} {encoding : Encoding}
    (hquery : IsActorQuery query) (hparams : params.Valid)
    (hupgrades : registry.upgradeWebSocket = true)
    (h : parseWebSocketProtocols
        (request.headers.get "sec-websocket-protocol")
      = .ok (driverRead registry query encoding params)) :
    authorizeWebSocketConnect registry request
      = (authorize registry request query.toValue [.connect]
          (if params.toValue.truthy then .str (printed registry params)
            else .undefined)).map fun answer =>
        { encoding
          connParamsRaw :=
            (driverRead registry query encoding params).connParamsRaw
          connParams :=
            if params.toValue.truthy then params.toValue else .null
          authData := answer.1
          actorId := answer.2 } := by
  unfold authorizeWebSocketConnect
  rw [hupgrades, h]
  have hencoding : (some (encodingText encoding)).bind encodingSchema
      = some encoding := by
    rw [Option.bind_some, encodingSchema_encodingText]
  unfold driverRead
  simp only [Bool.not_true, Bool.false_eq_true, if_false, ok_bind]
  rw [parseJson_printed registry hquery.valid]
  simp only [pure_bind]
  rw [hquery.schema, hencoding, orInvalid_some, orInvalid_some]
  simp only [ok_bind]
  cases params.toValue.truthy with
  | true =>
    simp only [if_true]
    rw [parseOptional_printed registry hparams]
    split
    · rename_i hundefined
      injection hundefined with hundefined
      exact absurd hundefined.symm (printed_ne_toValue registry params).2
    · rename_i hparsed
      injection hparsed with hparsed
      rw [← hparsed]
      cases authorize registry request query.toValue [.connect]
        (.str (printed registry params)) with
      | error e => rfl
      | ok answer => rfl
    · rename_i herror
      exact absurd herror (by simp)
  | false =>
    simp only [Bool.false_eq_true, if_false]
    show (authorize registry request query.toValue [.connect] .undefined
      >>= _) = _
    cases authorize registry request query.toValue [.connect] .undefined
      with
    | error e => rfl
    | ok answer => rfl

/-- Raw WebSockets: the parsed parameters go to `onAuth`. -/
theorem authorizeRawWebSocket_eq {request : Request}
    {query params : Json} {encoding : Encoding}
    (hquery : IsActorQuery query) (hparams : params.Valid)
    (hupgrades : registry.upgradeWebSocket = true)
    (h : parseWebSocketProtocols
        (request.headers.get "sec-websocket-protocol")
      = .ok (driverRead registry query encoding params)) :
    authorizeRawWebSocket registry request
      = (authorize registry request query.toValue [.action]
          (if params.toValue.truthy then params.toValue
            else .undefined)).map fun answer =>
        { encoding := .json
          connParamsRaw :=
            (driverRead registry query encoding params).connParamsRaw
          connParams :=
            if params.toValue.truthy then params.toValue else .undefined
          authData := answer.1
          actorId := answer.2 } := by
  have hne := printed_ne_empty registry hquery.valid
  unfold authorizeRawWebSocket
  rw [hupgrades, h]
  unfold driverRead
  simp only [Bool.not_true, Bool.false_eq_true, if_false, ok_bind]
  rw [if_neg hne, parseJson_printed registry hquery.valid]
  simp only [ok_bind]
  cases params.toValue.truthy with
  | true =>
    simp only [if_true]
    rw [parseOptional_printed registry hparams, ok_bind]
    cases authorize registry request query.toValue [.action]
      params.toValue with
    | error e => rfl
    | ok answer => rfl
  | false =>
    simp only [Bool.false_eq_true, if_false]
    show (authorize registry request query.toValue [.action] .undefined
      >>= _) = _
    cases authorize registry request query.toValue [.action] .undefined
      with
    | error e => rfl
    | ok answer => rfl

-- ============================================================= the actor

/-- Auth data that are `undefined` or JSON, and fit if they are truthy,
are written into headers without any, which can be read again. -/
theorem setJson_authData {v : Value} (hdata : IsAuthData v)
    (hfits : v.truthy = true → FitsHeader registry v) {headers : Headers}
    (hnone : headers.get headerAuthData = none) :
    ∃ headers', setJson registry headers headerAuthData v = .ok headers'
      ∧ (∀ other, lowerName other ≠ lowerName headerAuthData →
          headers'.get other = headers.get other)
      ∧ ∃ read, requestAuthData registry.text headers' = .ok read := by
  by_cases htruthy : v.truthy = true
  · obtain ⟨headers', hset⟩ :=
      (setJson_truthy registry headers headerAuthData htruthy).2
        (hfits htruthy)
    refine ⟨headers', hset, fun other =>
      (setJson_get registry other htruthy hset).2, v, ?_⟩
    rcases hdata with rfl | ⟨x, hx, rfl⟩
    · exact absurd htruthy (by simp [Value.truthy])
    · exact requestAuthData_setJson registry hx htruthy hset
  · refine ⟨headers, setJson_falsy registry headers headerAuthData
      (Bool.eq_false_iff.2 htruthy), fun _ _ => rfl, .undefined, ?_⟩
    unfold requestAuthData
    rw [hnone]
    rfl

/-- The headers of actions and SSE connections bring the actor what the
client's brought the manager. -/
theorem freshHeaders_brings {authorized : Authorized} {params : Json}
    (hparams : params.Valid) (hvalue : IsValue (printed registry params))
    (hraw : authorized.connParamsRaw = some (printed registry params))
    (hdata : IsAuthData authorized.authData)
    (hfits : authorized.authData.truthy = true →
      FitsHeader registry authorized.authData) :
    ∃ headers, freshHeaders registry authorized = .ok headers
      ∧ headers.get headerEncoding
        = some (encodingText authorized.encoding)
      ∧ headers.get headerConnParams = some (printed registry params)
      ∧ ∃ read, requestAuthData registry.text headers = .ok read := by
  obtain ⟨hnormal, hencoding⟩ := isValue_encodingText authorized.encoding
  have hset : ∀ (headers : Headers) (name value : String),
      IsValue value → ∃ headers', headers.set name value = some headers' := by
    intro headers name value hvalue
    apply Option.ne_none_iff_exists'.1
    intro hnone
    rw [Headers.set_eq_none_iff, hvalue.1] at hnone
    exact hnone hvalue
  obtain ⟨encoded, hencoded⟩ := hset Headers.empty headerEncoding _ hencoding
  obtain ⟨withParams, hwith⟩ := hset encoded headerConnParams _ hvalue
  have hnone : withParams.get headerAuthData = none := by
    rw [Headers.get_set_of_ne hwith (by decide)]
    rw [Headers.get_set_of_ne hencoded (by decide)]
    exact Headers.get_empty _
  obtain ⟨headers, hauth, hother, hread⟩ :=
    setJson_authData registry hdata hfits hnone
  refine ⟨headers, ?_, ?_, ?_, hread⟩
  · unfold freshHeaders
    rw [hencoded, hraw]
    show (Except.ok encoded >>= _) = _
    rw [ok_bind]
    dsimp only
    rw [if_neg (printed_ne_empty registry hparams), hwith]
    exact hauth
  · rw [hother _ (by decide), Headers.get_set_of_ne hwith (by decide)]
    rw [Headers.get_set hencoded rfl, hnormal]
  · rw [hother _ (by decide), Headers.get_set hwith rfl]
    rw [hvalue.1]

/-- A call of an action or an SSE connection shows the hooks what the
headers bring. -/
theorem getRequestConnParams_of_get {headers : Headers} {params : Json}
    (hparams : params.Valid)
    (h : headers.get headerConnParams = some (printed registry params)) :
    getRequestConnParams registry.text headers = .ok params.toValue := by
  unfold getRequestConnParams
  rw [h]
  dsimp only
  rw [if_neg (printed_ne_empty registry hparams)]
  rw [parseJson_printed registry hparams]

/-- Either way of making a call from the headers. -/
theorem call_of_freshHeaders {authorized : Authorized} {params : Json}
    (hparams : params.Valid) (hvalue : IsValue (printed registry params))
    (hraw : authorized.connParamsRaw = some (printed registry params))
    (hdata : IsAuthData authorized.authData)
    (hfits : authorized.authData.truthy = true →
      FitsHeader registry authorized.authData) (route : ActorRoute)
    (hroute : route = .connectSse ∨ ∃ name, route = .action name) :
    ∃ call, (freshHeaders registry authorized >>= fun headers =>
        Drivers.FileSystem.proxyRequest registry.text { route, headers }
          authorized.actorId) = .ok call
      ∧ ∀ config, call.handler.hookCalls registry.text config
        = .ok (prepareConn config params.toValue) := by
  obtain ⟨headers, hfresh, hencoding, hget, read, hread⟩ :=
    freshHeaders_brings registry hparams hvalue hraw hdata hfits
  have hcalls : ∀ config : ConnConfig, (do
      let _ ← getRequestEncoding { path := "", search := "", headers }
      let parameters ← getRequestConnParams registry.text headers
      return prepareConn config parameters)
        = Except.ok (prepareConn config params.toValue) := by
    intro config
    rw [getRequestEncoding_of_get hencoding, ok_bind]
    rw [getRequestConnParams_of_get registry hparams hget, ok_bind]
    rfl
  rw [hfresh, ok_bind]
  unfold Drivers.FileSystem.proxyRequest actorRouterFetch
  dsimp only
  rw [hread, ok_bind]
  rcases hroute with rfl | ⟨name, rfl⟩
  · exact ⟨_, rfl, hcalls⟩
  · exact ⟨_, rfl, hcalls⟩

-- ======================================================== each transport

/-- A transport whose texts are headers has a request exactly if they
fit, and then `onAuth` sees the parameters. -/
theorem connHeaders_iff (query : Json) (encoding : Encoding)
    (params : Json) :
    (∃ headers, connHeaders registry.text query.toValue encoding
        params.toValue = some headers)
      ↔ FitsHeader registry query.toValue
        ∧ FitsHeader registry params.toValue := by
  rw [connHeaders_eq]
  exact exists_setAll_clientEntries registry false _ query encoding params

theorem connHeaders_brings {headers : Headers} {query params : Json}
    {encoding : Encoding} (hquery : query.Valid) (hparams : params.Valid)
    (h : connHeaders registry.text query.toValue encoding params.toValue
      = some headers) :
    Brings registry headers query encoding params := by
  rw [connHeaders_eq] at h
  exact brings_of_setAll registry hquery hparams h

/-- What `authorizeWithHeaders` knows of the client's headers, for the
registry and for its echo. -/
theorem authorized_of_brings {headers : Headers} {query params : Json}
    {encoding : Encoding} (hquery : IsActorQuery query)
    (hparams : params.Valid) (hadmits : Admits registry query.toValue)
    (h : Brings registry headers query encoding params)
    (path search : String) (intents : List AuthIntent) :
    (∃ authorized, authorizeWithHeaders registry.echo
          { path, search, headers } intents = .ok authorized
        ∧ authorized.authData = params.toValue)
      ∧ ∃ authorized, authorizeWithHeaders registry
          { path, search, headers } intents = .ok authorized
        ∧ authorized.connParamsRaw = some (printed registry params)
        ∧ IsAuthData authorized.authData
        ∧ (authorized.authData.truthy = true →
            FitsHeader registry authorized.authData) := by
  constructor
  · obtain ⟨actorId, hauth⟩ := authorize_echo registry hquery hadmits
      { path, search, headers } intents params.toValue
    rw [authorizeWithHeaders_eq registry.echo hquery hparams
      (h := ⟨h.query, h.encoding, h.params⟩), hauth]
    exact ⟨_, rfl, rfl⟩
  · obtain ⟨authData, actorId, hauth, hdata, hfits⟩ :=
      authorize_admits registry hquery hadmits { path, search, headers }
        intents params.toValue
    rw [authorizeWithHeaders_eq registry hquery hparams h, hauth]
    exact ⟨_, rfl, rfl, hdata, hfits⟩

/-- Actions and SSE connections: a request whose headers bring the query
and the parameters agrees, where its route authorizes with the headers
and goes on with fresh ones. -/
theorem agrees_of_brings {transport : Transport} {route : ActorRoute}
    {headers : Headers} {query params : Json} {encoding : Encoding}
    (path search : String) (intents : List AuthIntent)
    (hquery : IsActorQuery query) (hparams : params.Valid)
    (hadmits : Admits registry query.toValue)
    (hbrings : Brings registry headers query encoding params)
    (hconnects : transport.connects = true)
    (hroute : route = .connectSse ∨ ∃ name, route = .action name)
    (hrequest : transport.request registry.text query.toValue encoding
      params.toValue = some { path, search, headers })
    (hauthorize : ∀ registry : Registry, authorizeRoute registry
        transport.route { path, search, headers }
      = authorizeWithHeaders registry { path, search, headers } intents)
    (hserve : serve registry transport.route { path, search, headers }
      = authorizeWithHeaders registry { path, search, headers } intents
          >>= fun authorized => freshHeaders registry authorized
          >>= fun headers => Drivers.FileSystem.proxyRequest registry.text
            { route, headers } authorized.actorId) :
    Agrees registry transport query encoding params := by
  obtain ⟨⟨echoed, hecho, hsees⟩, authorized, hauthorized, hraw, hdata,
    hfits⟩ := authorized_of_brings registry hquery hparams hadmits hbrings
      path search intents
  obtain ⟨call, hcall, hcalls⟩ := call_of_freshHeaders registry hparams
    (Headers.valid_of_get hbrings.params) hraw hdata hfits route hroute
  have hok : serve registry transport.route { path, search, headers }
      = .ok call := by
    rw [hserve, hauthorized, ok_bind]
    exact hcall
  refine ⟨_, hrequest, ⟨echoed, ?_, hsees⟩, fun _ => ⟨call, hok⟩, ?_⟩
  · rw [hauthorize]
    exact hecho
  · intro call' hcall' config
    have hsame : call = call' := Except.ok.inj (hok.symm.trans hcall')
    rw [← hsame, hconnects, if_pos rfl]
    exact hcalls config

/-- Actions. -/
theorem action_agrees_iff {query params : Json} {encoding : Encoding}
    (hquery : IsActorQuery query) (hparams : params.Valid)
    (hadmits : Admits registry query.toValue) (name : String) :
    Agrees registry (.action name) query encoding params
      ↔ FitsHeader registry query.toValue
        ∧ FitsHeader registry params.toValue := by
  rw [← connHeaders_iff registry query encoding params]
  constructor
  · rintro ⟨request, hrequest, -⟩
    obtain ⟨headers, hheaders, -⟩ := Option.bind_eq_some_iff.1 hrequest
    exact ⟨headers, hheaders⟩
  · rintro ⟨headers, hheaders⟩
    apply agrees_of_brings registry
      ("/registry/actors/actions/" ++ encodeURIComponent name) "" [.action]
      hquery hparams hadmits
      (connHeaders_brings registry hquery.valid hparams hheaders) rfl
      (Or.inr ⟨name, rfl⟩)
    · show Client.HttpClientDriver.action _ _ _ _ _ = _
      unfold Client.HttpClientDriver.action
      rw [hheaders]
      rfl
    · intro registry
      rfl
    · rfl

/-- SSE connections. -/
theorem connectSse_agrees_iff {query params : Json} {encoding : Encoding}
    (hquery : IsActorQuery query) (hparams : params.Valid)
    (hadmits : Admits registry query.toValue) :
    Agrees registry .connectSse query encoding params
      ↔ FitsHeader registry query.toValue
        ∧ FitsHeader registry params.toValue := by
  rw [← connHeaders_iff registry query encoding params]
  constructor
  · rintro ⟨request, hrequest, -⟩
    obtain ⟨headers, hheaders, -⟩ := Option.bind_eq_some_iff.1 hrequest
    exact ⟨headers, hheaders⟩
  · rintro ⟨headers, hheaders⟩
    have hbrings := connHeaders_brings registry hquery.valid hparams
      hheaders
    have hauthorize : ∀ registry : Registry, authorizeSse registry
        { path := "/registry/actors/connect/sse", search := "", headers }
      = authorizeWithHeaders registry
        { path := "/registry/actors/connect/sse", search := "", headers }
        [.connect] := by
      intro registry
      unfold authorizeSse
      rw [getRequestEncoding_of_get hbrings.encoding]
      rfl
    apply agrees_of_brings registry "/registry/actors/connect/sse" ""
      [.connect] hquery hparams hadmits hbrings rfl (Or.inl rfl)
    · show Client.HttpClientDriver.connectSse _ _ _ _ = _
      unfold Client.HttpClientDriver.connectSse
      rw [hheaders]
      rfl
    · exact hauthorize
    · show handleSseConnectRequest registry _ = _
      unfold handleSseConnectRequest
      rw [hauthorize]

/-- A raw HTTP request makes no connection. -/
theorem hookCalls_rawHttp {subpath search actorId : String}
    {headers : Headers} {call : ActorCall}
    (h : Drivers.FileSystem.proxyRequest registry.text
      { route := .rawHttp subpath search, headers } actorId = .ok call)
    (config : ConnConfig) :
    call.handler.hookCalls registry.text config = .ok [] := by
  unfold Drivers.FileSystem.proxyRequest actorRouterFetch at h
  obtain ⟨authData, -, h⟩ := bind_ok h
  injection h with h
  rw [← h]
  rfl

/-- Raw HTTP requests. -/
theorem rawHttp_agrees_iff {query params : Json} {encoding : Encoding}
    (hquery : IsActorQuery query) (hparams : params.Valid)
    (hadmits : Admits registry query.toValue) (path search : String)
    (init : Headers) :
    Agrees registry (.rawHttp path search init) query encoding params
      ↔ FitsHeader registry query.toValue
        ∧ FitsHeader registry params.toValue := by
  rw [← exists_setAll_clientEntries registry true init query encoding
    params]
  have hbuild := rawHttpRequest_eq registry query encoding params path
    search init
  constructor
  · rintro ⟨request, hrequest, -⟩
    replace hrequest : rawHttpRequest _ _ _ _ _ _ _ = _ := hrequest
    rw [hbuild] at hrequest
    obtain ⟨headers, hheaders, -⟩ := Option.bind_eq_some_iff.1 hrequest
    exact ⟨headers, hheaders⟩
  · rintro ⟨headers, hheaders⟩
    rw [hheaders, Option.bind_some] at hbuild
    have hbrings := brings_of_setAll registry hquery.valid hparams hheaders
    refine ⟨_, hbuild, ?_, fun h => absurd h Bool.false_ne_true, ?_⟩
    · obtain ⟨actorId, hauth⟩ := authorize_echo registry hquery hadmits
        { path := "/registry/actors/raw/http/" ++ path, search, headers }
        [.action] params.toValue
      show ∃ authorized, authorizeRawHttp registry.echo _ = _ ∧ _
      rw [authorizeRawHttp_eq registry.echo hquery hparams
        (h := ⟨hbrings.query, hbrings.encoding, hbrings.params⟩), hauth]
      exact ⟨_, rfl, rfl⟩
    · intro call hcall config
      replace hcall : handleRawHttpRequest registry _ = .ok call := hcall
      unfold handleRawHttpRequest at hcall
      obtain ⟨authorized, -, hcall⟩ := bind_ok hcall
      obtain ⟨headers₁, -, hcall⟩ := bind_ok hcall
      obtain ⟨headers₂, -, hcall⟩ := bind_ok hcall
      exact hookCalls_rawHttp registry hcall config

/-- WebSockets: `onAuth` sees the text, and the hooks the value. Where
the value is not truthy, they see `undefined` and `null`. -/
theorem connectWebSocket_sees {query params : Json} {encoding : Encoding}
    (hquery : IsActorQuery query) (hparams : params.Valid)
    (hadmits : Admits registry query.toValue) {request : Request}
    (hrequest : Transport.connectWebSocket.request registry.text
      query.toValue encoding params.toValue = some request) :
    OnAuthSees registry .connectWebSocket request
        (if params.toValue.truthy then .str (printed registry params)
          else .undefined)
      ∧ ∃ call, serve registry .connectWebSocket request = .ok call
        ∧ ∀ config, call.handler.hookCalls registry.text config
          = .ok (prepareConn config
              (if params.toValue.truthy then params.toValue
                else .null)) := by
  replace hrequest : Client.HttpClientDriver.connectWebSocket _ _ _ _
    = some request := hrequest
  unfold Client.HttpClientDriver.connectWebSocket at hrequest
  rw [connProtocols_eq, Option.bind_eq_bind, Option.bind_some] at hrequest
  rw [← List.append_nil (driverProtocols _ _ _ _)] at hrequest
  have hread := parseWebSocketProtocols_of_open registry
    (s := Subprotocols.none) hrequest
  constructor
  · obtain ⟨actorId, hauth⟩ := authorize_echo registry hquery hadmits
      request [.connect] (if params.toValue.truthy then
        .str (printed registry.echo params) else .undefined)
    show ∃ authorized, authorizeWebSocketConnect registry.echo request = _
      ∧ _
    rw [authorizeWebSocketConnect_eq registry.echo hquery hparams
      hadmits.upgrades hread, hauth]
    exact ⟨_, rfl, rfl⟩
  · obtain ⟨authData, actorId, hauth, -⟩ := authorize_admits registry hquery
      hadmits request [.connect] (if params.toValue.truthy then
        .str (printed registry params) else .undefined)
    show ∃ call, handleWebSocketConnectRequest registry request = _ ∧ _
    unfold handleWebSocketConnectRequest
    rw [authorizeWebSocketConnect_eq registry hquery hparams
      hadmits.upgrades hread, hauth]
    exact ⟨_, rfl, fun config => rfl⟩

/-- So whatever gets through, `onAuth` sees another value. -/
theorem webSocket_disagrees {query params : Json} {encoding : Encoding}
    (hquery : IsActorQuery query) (hparams : params.Valid)
    (hadmits : Admits registry query.toValue) :
    ¬ Agrees registry .connectWebSocket query encoding params := by
  rintro ⟨request, hrequest, ⟨authorized, hauthorized, hsees⟩, -⟩
  obtain ⟨⟨authorized', hauthorized', hsees'⟩, -⟩ :=
    connectWebSocket_sees registry hquery hparams hadmits hrequest
  have hsame : authorized = authorized' :=
    Except.ok.inj (hauthorized.symm.trans hauthorized')
  rw [← hsame, hsees] at hsees'
  obtain ⟨htext, hundefined⟩ := printed_ne_toValue registry params
  split at hsees'
  · exact htext hsees'.symm
  · exact hundefined hsees'.symm

/-- Nor does a raw WebSocket. -/
theorem hookCalls_rawWebSocket {path search actorId : String}
    {encoding : Encoding} {connParams authData : Value} {call : ActorCall}
    (h : Drivers.FileSystem.proxyWebSocket
      (pathRawWebSocketPrefix ++ path ++ search) actorId encoding connParams
      authData = .ok call) (config : ConnConfig) :
    call.handler.hookCalls registry.text config = .ok [] := by
  obtain ⟨hpath, rest, hrest⟩ := rawWebSocket_path (path ++ search)
  rw [← String.append_assoc] at hpath hrest
  unfold Drivers.FileSystem.proxyWebSocket at h
  rw [if_neg hpath, hrest] at h
  injection h with h
  rw [← h]
  rfl

/-- Raw WebSockets. -/
theorem rawWebSocket_agrees_iff {query params : Json} {encoding : Encoding}
    (hquery : IsActorQuery query) (hparams : params.Valid)
    (hadmits : Admits registry query.toValue) (path search : String)
    (subprotocols : Subprotocols) :
    Agrees registry (.rawWebSocket path search subprotocols) query encoding
        params
      ↔ params.toValue.truthy = true ∧ FitsProtocol registry query
        ∧ FitsProtocol registry params := by
  have htokens := tokens_iff registry query encoding params subprotocols
  rw [← openWebSocket_eq_some_iff ("/registry/actors/raw/websocket/" ++ path)
    search (driverProtocols_ne_nil registry query encoding params
      subprotocols.protocols)] at htokens
  have hbuild : (Transport.rawWebSocket path search subprotocols).request
      registry.text query.toValue encoding params.toValue
      = openWebSocket ("/registry/actors/raw/websocket/" ++ path) search
        (driverProtocols registry query encoding params
          ++ subprotocols.protocols) := by
    show Client.HttpClientDriver.rawWebSocket _ _ _ _ _ _ _ = _
    unfold Client.HttpClientDriver.rawWebSocket
    rw [connProtocols_eq, Option.bind_eq_bind, Option.bind_some]
  constructor
  · rintro ⟨request, hrequest, ⟨authorized, hauthorized, hsees⟩, -⟩
    rw [hbuild] at hrequest
    have hread := parseWebSocketProtocols_of_open registry hrequest
    obtain ⟨hfits, hparamsFit⟩ := htokens.1 ⟨request, hrequest⟩
    have htruthy : params.toValue.truthy = true := by
      apply Classical.byContradiction
      intro hfalsy
      obtain ⟨actorId, hauth⟩ := authorize_echo registry hquery hadmits
        request [.action] .undefined
      replace hauthorized : authorizeRawWebSocket registry.echo request
        = .ok authorized := hauthorized
      rw [authorizeRawWebSocket_eq registry.echo hquery hparams
        hadmits.upgrades hread, if_neg hfalsy, hauth] at hauthorized
      have hdata : Value.undefined = authorized.authData :=
        congrArg Authorized.authData (Except.ok.inj hauthorized)
      rw [hsees] at hdata
      exact (printed_ne_toValue registry params).2 hdata
    exact ⟨htruthy, hfits, hparamsFit htruthy⟩
  · rintro ⟨htruthy, hfits, hparamsFit⟩
    obtain ⟨request, hrequest⟩ := htokens.2 ⟨hfits, fun _ => hparamsFit⟩
    have hread := parseWebSocketProtocols_of_open registry hrequest
    rw [← hbuild] at hrequest
    refine ⟨request, hrequest, ?_, fun h => absurd h Bool.false_ne_true,
      ?_⟩
    · obtain ⟨actorId, hauth⟩ := authorize_echo registry hquery hadmits
        request [.action] params.toValue
      show ∃ authorized, authorizeRawWebSocket registry.echo request = _ ∧ _
      rw [authorizeRawWebSocket_eq registry.echo hquery hparams
        hadmits.upgrades hread, if_pos htruthy, hauth]
      exact ⟨_, rfl, rfl⟩
    · intro call hcall config
      replace hcall : handleRawWebSocketRequest registry request
        = .ok call := hcall
      unfold handleRawWebSocketRequest at hcall
      obtain ⟨authorized, -, hcall⟩ := bind_ok hcall
      exact hookCalls_rawWebSocket registry hcall config

theorem isActorQuery_counter : IsActorQuery counterQuery :=
  { valid := by
      simp [counterQuery, Json.Valid, MembersValid, ElementsValid]
    schema := rfl }

theorem openRegistry_admits : Admits openRegistry counterQuery.toValue :=
  { upgrades := rfl
    named := ⟨.str "counter", _, _, rfl, rfl, rfl,
      fun _ _ _ => ⟨.undefined, rfl, Or.inl rfl, fun h =>
        absurd h Bool.false_ne_true⟩⟩
    found := ⟨"id", rfl⟩ }

end RivetKit.Manager
