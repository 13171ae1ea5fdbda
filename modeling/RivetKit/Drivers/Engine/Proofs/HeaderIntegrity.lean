/-
The identity headers of a proxied WebSocket.

# What the manager computes

`ManagerHeaders` says which properties the manager's object has for the
identity headers: at most one a header, the three that the guard routes
by in lower case, the others spelled `X-RivetKit-…`.

# What the client's headers do to it

The client's headers are assigned under their lower-case names. So a
header that the guard routes by is overwritten, and for one of the others
the object holds a second spelling (`values_createWebSocketProxy`). The
connection is the one that the manager asked for exactly if the client
sends no header that differs (`Harmless`).

On the HTTP path the guard's headers are set last, whatever the client
sends (`buildGuardHeadersForHttp_get`).
-/
import RivetKit.Drivers.Engine.ManagerDriver
import RivetKit.Lib.Decimal
import RivetKit.Lib.Proofs.Json

namespace RivetKit.Drivers.Engine

open Actor
open Http
open Js
open Protocol

variable (text : NumberText)

-- ==================================================== the identity headers

/-- The headers that say which actor is reached, and as whom. -/
def identityHeaders : List String :=
  ["x-rivet-target", "x-rivet-actor", "x-rivet-port",
    "x-rivetkit-encoding", "x-rivetkit-conn-params",
    "x-rivetkit-auth-data"]

/-- The socket that opens to the guard for one upgrade request, if one
does. -/
def opens (endpoint path actorId : String) (encoding : Encoding)
    (params authData : Value) (clientHeaders : Headers)
    (readyState : Nat) : Option Target :=
  (proxyWebSocket text endpoint clientHeaders path actorId encoding params
    authData).bind (·.onOpen readyState)

/-- A target carries for each identity header exactly what the manager
computed. -/
def CarriesIdentity (actorId : String) (encoding : Encoding)
    (params authData : Value) (target : Target) : Prop :=
  ∃ headers, buildGuardHeadersForWebSocket text actorId encoding params
      authData = some headers
    ∧ ∀ name ∈ identityHeaders,
        target.headers.values name = headers.values name

/-- Two targets are the same, as far as the guard and the actor can tell
by the identity headers. -/
def SameIdentity (t₁ t₂ : Target) : Prop :=
  t₁.url = t₂.url
    ∧ ∀ name ∈ identityHeaders,
        t₁.headers.values name = t₂.headers.values name

/-- Client headers that change nothing: what the guard routes by is
absent or what the manager says, and the `X-RivetKit-` headers are
absent. -/
structure Harmless (actorId : String) (client : Headers) : Prop where
  target : ∀ v, client.get "x-rivet-target" = some v → v = "actor"
  actor : ∀ v, client.get "x-rivet-actor" = some v → v = actorId
  port : ∀ v, client.get "x-rivet-port" = some v → v = "main"
  encoding : client.get headerEncoding = none
  connParams : client.get headerConnParams = none
  authData : client.get headerAuthData = none

-- =================================================== the manager's headers

/-- A header that is assigned a new JSON text comes last. -/
theorem assignJson_eq {headers headers' : Record} {name : String}
    {v : Value} (hproto : name ≠ "__proto__")
    (hnew : ∀ e ∈ headers, e.1 ≠ name)
    (h : assignJson text headers name v = some headers') :
    ∃ json : Option String,
      headers' = headers ++ (json.map fun s => (name, s)).toList := by
  unfold assignJson at h
  split at h
  · split at h
    · rename_i s _
      injection h with h
      refine ⟨some s, ?_⟩
      rw [← h, Record.assign_new s hproto hnew]
      rfl
    · exact absurd h (by simp)
  · injection h with h
    refine ⟨none, ?_⟩
    rw [← h]
    simp

/-- The part of the manager's object that is always there. -/
def fixedHeaders (actorId : String) (encoding : Encoding) : Record :=
  [("x-rivet-target", "actor"), ("x-rivet-actor", actorId),
    ("x-rivet-port", "main"), (headerExposeInternalError, "true"),
    (headerEncoding, encodingText encoding)]

/-- The auth data come under a name of their own. -/
theorem authData_new {actorId : String} {encoding : Encoding}
    (connParams : Option String) :
    ∀ e ∈ fixedHeaders actorId encoding
        ++ (connParams.map fun s => (headerConnParams, s)).toList,
      e.1 ≠ headerAuthData := by
  cases connParams with
  | none =>
      simp [fixedHeaders, headerExposeInternalError, headerEncoding,
        headerAuthData]
  | some s =>
      simp [fixedHeaders, headerExposeInternalError, headerEncoding,
        headerConnParams, headerAuthData]

/-- The manager's object, whole. -/
theorem buildGuardHeadersForWebSocket_eq {actorId : String}
    {encoding : Encoding} {params authData : Value} {headers : Record}
    (h : buildGuardHeadersForWebSocket text actorId encoding params
      authData = some headers) :
    ∃ connParams auth : Option String,
      headers = fixedHeaders actorId encoding
        ++ (connParams.map fun s => (headerConnParams, s)).toList
        ++ (auth.map fun s => (headerAuthData, s)).toList := by
  have hfixed : ((((Record.assign [] "x-rivet-target" "actor").assign
      "x-rivet-actor" actorId).assign "x-rivet-port" "main").assign
      headerExposeInternalError "true").assign headerEncoding
      (encodingText encoding) = fixedHeaders actorId encoding := by
    rw [Record.assign_new "actor" (by decide) (by simp)]
    rw [Record.assign_new actorId (by decide) (by simp)]
    rw [Record.assign_new "main" (by decide) (by simp)]
    rw [Record.assign_new "true" (by decide)
      (by simp [headerExposeInternalError])]
    rw [Record.assign_new (encodingText encoding) (by decide)
      (by simp [headerExposeInternalError, headerEncoding])]
    rfl
  unfold buildGuardHeadersForWebSocket at h
  dsimp only at h
  rw [hfixed] at h
  split at h
  · rename_i withParams hparams
    obtain ⟨connParams, rfl⟩ := assignJson_eq text (by decide)
      (by simp [fixedHeaders, headerExposeInternalError, headerEncoding,
        headerConnParams]) hparams
    obtain ⟨auth, rfl⟩ := assignJson_eq text (by decide)
      (authData_new connParams) h
    exact ⟨connParams, auth, rfl⟩
  · exact absurd h (by simp)

/-- What the manager computes for a header: the one property under the
name, in its spelling. -/
structure ManagerHeaders (actorId : String) (headers : Record) :
    Prop where
  target : (headers.filter fun e => lowerName e.1 = "x-rivet-target")
    = [("x-rivet-target", "actor")]
  actor : (headers.filter fun e => lowerName e.1 = "x-rivet-actor")
    = [("x-rivet-actor", actorId)]
  port : (headers.filter fun e => lowerName e.1 = "x-rivet-port")
    = [("x-rivet-port", "main")]
  spelled : ∀ name ∈ [headerEncoding, headerConnParams, headerAuthData],
    ∃ own : Option String,
      (headers.filter fun e => lowerName e.1 = lowerName name)
        = (own.map fun s => (name, s)).toList

@[simp] theorem lowerName_target :
    lowerName "x-rivet-target" = "x-rivet-target" := by decide

@[simp] theorem lowerName_actor :
    lowerName "x-rivet-actor" = "x-rivet-actor" := by decide

@[simp] theorem lowerName_port :
    lowerName "x-rivet-port" = "x-rivet-port" := by decide

theorem managerHeaders_of_build {actorId : String} {encoding : Encoding}
    {params authData : Value} {headers : Record}
    (h : buildGuardHeadersForWebSocket text actorId encoding params
      authData = some headers) :
    ManagerHeaders actorId headers := by
  obtain ⟨connParams, auth, rfl⟩ :=
    buildGuardHeadersForWebSocket_eq text h
  refine ⟨?_, ?_, ?_, ?_⟩
  · cases connParams <;> cases auth <;> simp [fixedHeaders]
  · cases connParams <;> cases auth <;> simp [fixedHeaders]
  · cases connParams <;> cases auth <;> simp [fixedHeaders]
  · intro name hname
    simp only [List.mem_cons, List.not_mem_nil, or_false] at hname
    rcases hname with rfl | rfl | rfl
    · refine ⟨some (encodingText encoding), ?_⟩
      cases connParams <;> cases auth <;> simp [fixedHeaders]
    · refine ⟨connParams, ?_⟩
      cases connParams <;> cases auth <;> simp [fixedHeaders]
    · refine ⟨auth, ?_⟩
      cases connParams <;> cases auth <;> simp [fixedHeaders]

-- ============================================== what the client's do to it

/-- The client's headers are assigned under the names that are passed
on. -/
theorem createWebSocketProxy_headers (client : Headers)
    (targetUrl : String) (headers : Record) :
    (createWebSocketProxy client targetUrl headers).headers
      = headers.assignAll
          (client.entries.filter fun e => isForwarded e.1) := by
  unfold createWebSocketProxy Record.assignAll
  dsimp only
  rw [List.foldl_filter]

/-- The client's entries for a header that is passed on: the one that
`get` reads. -/
theorem forwarded_entries {client : Headers} {name : String}
    (hlower : lowerName name = name) (hforward : isForwarded name = true)
    (hcookie : name ≠ "set-cookie") :
    (client.entries.filter fun e => isForwarded e.1).filter
        (fun e => lowerName e.1 = name)
      = ((client.get name).map fun v => (name, v)).toList := by
  rw [← Headers.filter_entries hlower hcookie, List.filter_filter]
  apply List.filter_congr
  intro e he
  rw [client.lower e he]
  by_cases hname : e.1 = name
  · simp [hname, hforward]
  · simp [hname]

/-- A header that the client does not send is the manager's; one that it
sends replaces a property of the same spelling, and stands beside any
other. -/
theorem values_createWebSocketProxy {client : Headers}
    {targetUrl name : String} {headers : Record}
    {own : Option (String × String)}
    (hlower : lowerName name = name) (hforward : isForwarded name = true)
    (hcookie : name ≠ "set-cookie") (hproto : name ≠ "__proto__")
    (hown : (headers.filter fun e => lowerName e.1 = name)
      = own.toList) :
    (createWebSocketProxy client targetUrl headers).headers.values name
      = (client.get name).elim (own.map (·.2)).toList fun v =>
          own.elim [v] fun e => if e.1 = name then [v] else [e.2, v] := by
  have hentries : (client.entries.filter fun e => isForwarded e.1).filter
      (fun e => lowerName e.1 = name) = _ :=
    forwarded_entries hlower hforward hcookie
  rw [createWebSocketProxy_headers]
  cases hget : client.get name with
  | none =>
    rw [hget] at hentries
    rw [Record.values_assignAll_none]
    · unfold Record.values
      rw [hlower, hown]
      cases own <;> rfl
    · rw [hlower]
      exact hentries
  | some v =>
    rw [hget] at hentries
    exact Record.values_assignAll_one headers name v own hproto hlower _
      hown hentries

/-- A header keeps the manager's value exactly if what the client sends
for it is that very property. -/
theorem values_eq_iff (client : Headers) (targetUrl : String)
    {name : String} {headers : Record} {own : Option (String × String)}
    (hlower : lowerName name = name) (hforward : isForwarded name = true)
    (hcookie : name ≠ "set-cookie") (hproto : name ≠ "__proto__")
    (hown : (headers.filter fun e => lowerName e.1 = name)
      = own.toList) :
    (createWebSocketProxy client targetUrl headers).headers.values name
        = headers.values name
      ↔ ∀ v, client.get name = some v → own = some (name, v) := by
  have hvalues : headers.values name = (own.map (·.2)).toList := by
    unfold Record.values
    rw [hlower, hown]
    cases own <;> rfl
  rw [values_createWebSocketProxy hlower hforward hcookie hproto hown]
  rw [hvalues]
  cases hget : client.get name with
  | none => simp
  | some v =>
    cases own with
    | none => simp
    | some e =>
      by_cases he : e.1 = name
      · simp [← he, Prod.ext_iff, eq_comm]
      · simp [he, Prod.ext_iff]

/-- A header that the guard routes by. -/
theorem guard_values_eq_iff (client : Headers) (targetUrl : String)
    {name value : String} {headers : Record}
    (hlower : lowerName name = name) (hforward : isForwarded name = true)
    (hcookie : name ≠ "set-cookie") (hproto : name ≠ "__proto__")
    (hown : (headers.filter fun e => lowerName e.1 = name)
      = [(name, value)]) :
    (createWebSocketProxy client targetUrl headers).headers.values name
        = headers.values name
      ↔ ∀ v, client.get name = some v → v = value := by
  have hown' : (headers.filter fun e => lowerName e.1 = name)
      = (some (name, value)).toList := hown
  have hiff := values_eq_iff client targetUrl hlower hforward hcookie
    hproto hown'
  rw [hiff]
  constructor
  · intro h v hv
    have heq := h v hv
    injection heq with heq
    exact (congrArg Prod.snd heq).symm
  · intro h v hv
    rw [h v hv]

/-- A header that the manager spells with capitals. -/
theorem spelled_values_eq_iff (client : Headers) (targetUrl : String)
    {name : String} {headers : Record} {own : Option String}
    (hspelled : lowerName name ≠ name)
    (hforward : isForwarded (lowerName name) = true)
    (hcookie : lowerName name ≠ "set-cookie")
    (hproto : lowerName name ≠ "__proto__")
    (hown : (headers.filter fun e => lowerName e.1 = lowerName name)
      = (own.map fun s => (name, s)).toList) :
    (createWebSocketProxy client targetUrl headers).headers.values
          (lowerName name)
        = headers.values (lowerName name)
      ↔ client.get name = none := by
  have hiff := values_eq_iff client targetUrl (lowerName_lowerName name)
    hforward hcookie hproto hown
  rw [hiff, Headers.get_lowerName]
  constructor
  · intro h
    cases hget : client.get name with
    | none => rfl
    | some v =>
      -- the two spellings differ, so it is not the manager's property
      have heq := h v hget
      cases own with
      | none => exact absurd heq (by simp)
      | some s =>
        injection heq with heq
        exact absurd (congrArg Prod.fst heq).symm hspelled
  · intro h v hv
    rw [h] at hv
    exact absurd hv (by simp)

-- =========================================================== the HTTP path

/-- On the HTTP path the guard's headers are set after the request's own
are copied: whatever the client sent, they are the manager's. -/
theorem buildGuardHeadersForHttp_get {requestHeaders headers : Headers}
    {actorId : String}
    (h : buildGuardHeadersForHttp requestHeaders actorId = some headers) :
    headers.get "x-rivet-target" = some "actor"
      ∧ headers.get "x-rivet-actor" = some (normalizeValue actorId)
      ∧ headers.get "x-rivet-port" = some "main" := by
  unfold buildGuardHeadersForHttp at h
  dsimp only at h
  obtain ⟨copied, -, h⟩ := Option.bind_eq_some_iff.1 h
  obtain ⟨targeted, htarget, h⟩ := Option.bind_eq_some_iff.1 h
  obtain ⟨addressed, hactor, hport⟩ := Option.bind_eq_some_iff.1 h
  refine ⟨?_, ?_, ?_⟩
  · rw [Headers.get_set_of_ne hport (by decide)]
    rw [Headers.get_set_of_ne hactor (by decide)]
    rw [Headers.get_set htarget rfl]
    decide
  · rw [Headers.get_set_of_ne hport (by decide)]
    exact Headers.get_set hactor rfl
  · rw [Headers.get_set hport rfl]
    decide

-- ======================================================= the whole request

/-- The target of a request is what `createWebSocketProxy` makes of the
manager's object. -/
theorem opens_eq_some {endpoint path actorId : String}
    {encoding : Encoding} {params authData : Value} {client : Headers}
    {readyState : Nat} {target : Target}
    (h : opens text endpoint path actorId encoding params authData client
      readyState = some target) :
    ∃ headers, buildGuardHeadersForWebSocket text actorId encoding params
        authData = some headers
      ∧ target.url = wsGuardUrl endpoint path
      ∧ target.headers = (createWebSocketProxy client
          (wsGuardUrl endpoint path) headers).headers := by
  unfold opens proxyWebSocket at h
  cases hbuild : buildGuardHeadersForWebSocket text actorId encoding
      params authData with
  | none =>
    rw [hbuild] at h
    exact absurd h (by simp)
  | some headers =>
    rw [hbuild] at h
    replace h : (createWebSocketProxy client (wsGuardUrl endpoint path)
        headers).onOpen readyState = some target := h
    unfold UpgradeWebSocketArgs.onOpen at h
    split at h
    · exact absurd h (by simp)
    · injection h with h
      rw [← h]
      exact ⟨headers, rfl, rfl, rfl⟩

/-- The target carries the manager's identity headers exactly if the
client's headers are harmless. -/
theorem carriesIdentity_iff {endpoint path actorId : String}
    {encoding : Encoding} {params authData : Value} {client : Headers}
    {readyState : Nat} {target : Target}
    (h : opens text endpoint path actorId encoding params authData client
      readyState = some target) :
    CarriesIdentity text actorId encoding params authData target
      ↔ Harmless actorId client := by
  obtain ⟨headers, hbuild, -, hheaders⟩ := opens_eq_some text h
  have hmanager := managerHeaders_of_build text hbuild
  obtain ⟨enc, henc⟩ := hmanager.spelled headerEncoding (by simp)
  obtain ⟨par, hpar⟩ := hmanager.spelled headerConnParams (by simp)
  obtain ⟨auth, hauth⟩ := hmanager.spelled headerAuthData (by simp)
  have htarget := guard_values_eq_iff client
    (wsGuardUrl endpoint path) lowerName_target (by decide)
    (by decide) (by decide) hmanager.target
  have hactor := guard_values_eq_iff client
    (wsGuardUrl endpoint path) lowerName_actor (by decide)
    (by decide) (by decide) hmanager.actor
  have hport := guard_values_eq_iff client
    (wsGuardUrl endpoint path) lowerName_port (by decide)
    (by decide) (by decide) hmanager.port
  have hencoding := spelled_values_eq_iff client
    (wsGuardUrl endpoint path) (by decide) (by decide)
    (by decide) (by decide) henc
  have hconnParams := spelled_values_eq_iff client
    (wsGuardUrl endpoint path) (by decide) (by decide)
    (by decide) (by decide) hpar
  have hauthData := spelled_values_eq_iff client
    (wsGuardUrl endpoint path) (by decide) (by decide)
    (by decide) (by decide) hauth
  rw [lowerName_headerEncoding] at hencoding
  rw [lowerName_headerConnParams] at hconnParams
  rw [lowerName_headerAuthData] at hauthData
  have hcarries : CarriesIdentity text actorId encoding params authData
      target ↔ ∀ name ∈ identityHeaders,
        target.headers.values name = headers.values name := by
    unfold CarriesIdentity
    rw [hbuild]
    simp
  rw [hcarries, hheaders]
  constructor
  · intro hall
    exact {
      target := htarget.1 (hall _ (by simp [identityHeaders]))
      actor := hactor.1 (hall _ (by simp [identityHeaders]))
      port := hport.1 (hall _ (by simp [identityHeaders]))
      encoding := hencoding.1 (hall _ (by simp [identityHeaders]))
      connParams := hconnParams.1 (hall _ (by simp [identityHeaders]))
      authData := hauthData.1 (hall _ (by simp [identityHeaders])) }
  · intro hharmless name hname
    simp only [identityHeaders, List.mem_cons, List.not_mem_nil,
      or_false] at hname
    rcases hname with rfl | rfl | rfl | rfl | rfl | rfl
    · exact htarget.2 hharmless.target
    · exact hactor.2 hharmless.actor
    · exact hport.2 hharmless.port
    · exact hencoding.2 hharmless.encoding
    · exact hconnParams.2 hharmless.connParams
    · exact hauthData.2 hharmless.authData

/-- Targets that carry the manager's identity headers are the same,
whatever else their clients sent. -/
theorem sameIdentity_of_carries {endpoint path actorId : String}
    {encoding : Encoding} {params authData : Value} {c₁ c₂ : Headers}
    {rs₁ rs₂ : Nat} {t₁ t₂ : Target}
    (h₁ : opens text endpoint path actorId encoding params authData c₁ rs₁
      = some t₁)
    (h₂ : opens text endpoint path actorId encoding params authData c₂ rs₂
      = some t₂)
    (k₁ : CarriesIdentity text actorId encoding params authData t₁)
    (k₂ : CarriesIdentity text actorId encoding params authData t₂) :
    SameIdentity t₁ t₂ := by
  obtain ⟨m₁, hm₁, hk₁⟩ := k₁
  obtain ⟨m₂, hm₂, hk₂⟩ := k₂
  obtain ⟨_, _, hurl₁, _⟩ := opens_eq_some text h₁
  obtain ⟨_, _, hurl₂, _⟩ := opens_eq_some text h₂
  rw [hm₁] at hm₂
  injection hm₂ with hm
  refine ⟨by rw [hurl₁, hurl₂], ?_⟩
  intro name hname
  rw [hk₁ name hname, hk₂ name hname, hm]

/-- Two upgrade requests that differ in their headers only: both targets
carry the manager's identity headers, and are the same, exactly if the
headers of both clients are harmless. -/
theorem header_integrity {endpoint path actorId : String}
    {encoding : Encoding} {params authData : Value} {c₁ c₂ : Headers}
    {rs₁ rs₂ : Nat} {t₁ t₂ : Target}
    (h₁ : opens text endpoint path actorId encoding params authData c₁ rs₁
      = some t₁)
    (h₂ : opens text endpoint path actorId encoding params authData c₂ rs₂
      = some t₂) :
    (CarriesIdentity text actorId encoding params authData t₁
        ∧ CarriesIdentity text actorId encoding params authData t₂
        ∧ SameIdentity t₁ t₂)
      ↔ Harmless actorId c₁ ∧ Harmless actorId c₂ := by
  rw [carriesIdentity_iff text h₁, carriesIdentity_iff text h₂]
  constructor
  · rintro ⟨k₁, k₂, -⟩
    exact ⟨k₁, k₂⟩
  · rintro ⟨k₁, k₂⟩
    refine ⟨k₁, k₂, ?_⟩
    apply sameIdentity_of_carries text h₁ h₂
    · exact (carriesIdentity_iff text h₁).2 k₁
    · exact (carriesIdentity_iff text h₂).2 k₂

/-- A client that names another actor than the one it may reach. -/
def intruder : Headers :=
  { entries := [("user-agent", "curl"), ("x-rivet-actor", "other")]
    lower := by decide
    distinct := by decide
    valid := by decide }

/-- The target of the intruder's request. -/
def intrudersTarget : Target :=
  { url := "ws://guard/connect/websocket"
    headers :=
      [("x-rivet-target", "actor"), ("x-rivet-actor", "other"),
        ("x-rivet-port", "main"),
        ("X-RivetKit-Expose-Internal-Error", "true"),
        ("X-RivetKit-Encoding", "json"), ("user-agent", "curl")] }

/-- The target of a request without headers. -/
def plainTarget : Target :=
  { url := "ws://guard/connect/websocket"
    headers := fixedHeaders "mine" .json }

theorem header_integrity_intruder :
    (CarriesIdentity NumberText.decimal "mine" .json .undefined .undefined
          plainTarget
        ∧ CarriesIdentity NumberText.decimal "mine" .json .undefined
            .undefined intrudersTarget
        ∧ SameIdentity plainTarget intrudersTarget)
      ↔ Harmless "mine" Headers.empty ∧ Harmless "mine" intruder :=
  header_integrity NumberText.decimal
    (by decide : opens NumberText.decimal "http://guard"
      "/connect/websocket" "mine" .json .undefined .undefined
      Headers.empty 1 = some plainTarget)
    (by decide : opens NumberText.decimal "http://guard"
      "/connect/websocket" "mine" .json .undefined .undefined intruder 1
      = some intrudersTarget)

/-- The manager asks for the actor `mine`; the connection is opened to
the actor `other`. -/
theorem intruder_reaches_other_actor :
    ¬ ∀ (endpoint path actorId : String) (encoding : Encoding)
        (params authData : Value) (client : Headers) (readyState : Nat)
        (target : Target),
      opens NumberText.decimal endpoint path actorId encoding params
          authData client readyState = some target →
        CarriesIdentity NumberText.decimal actorId encoding params
          authData target := by
  intro hall
  have hopens : opens NumberText.decimal "http://guard"
      "/connect/websocket" "mine" .json .undefined .undefined intruder 1
      = some intrudersTarget := by decide
  obtain ⟨headers, hbuild, hvalues⟩ := hall _ _ _ _ _ _ _ _ _ hopens
  have hmine : buildGuardHeadersForWebSocket NumberText.decimal "mine"
      .json .undefined .undefined = some plainTarget.headers := by decide
  rw [hmine] at hbuild
  injection hbuild with hbuild
  rw [← hbuild] at hvalues
  have hactor := hvalues "x-rivet-actor" (by simp [identityHeaders])
  exact absurd hactor (by decide)

end RivetKit.Drivers.Engine
