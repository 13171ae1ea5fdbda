/-
What an endpoint reads of a query, three times: for the intents, for the
name of the definition, and for the operation.

# One order of members

The three look for the members of a query in one order, whatever value
the query is. So the intents and the name are those of the operation
(`hookRun_eq`): by key, the name is the one that the operation gets
(`actorName_byKey`), with an id both ask the driver for it, and an
operation that may create comes from a member that adds the intent
(`create_mem_intents`).

# All routes

Every route is what it reads, and then `authorize` of it
(`authorizeRoute_read`, `authorizeResolve_read`).
-/
import RivetKit.Manager.ClientEndpoints

namespace RivetKit.Manager

open Js
open Actor
open Drivers.FileSystem

variable (registry : Registry)

-- ============================================================ the routes

/-- The parameters that `handleWebSocketConnectRequest` authorizes with: they
are looked at, but `onAuth` gets the text. -/
def rawParams (protocols : WebSocketProtocols) : Value :=
  match protocols.connParamsRaw with
  | some s => .str s
  | none => .undefined

/-- What is authorized behind the parameters. -/
theorem connectTail_ok {protocols : WebSocketProtocols} {query : Value}
    {connParams : Value} {request : Request} {authorized : Authorized}
    (h : (do
      let query ← orInvalid (actorQuerySchema query)
      let encoding ← orInvalid (protocols.encodingRaw.bind encodingSchema)
      let (authData, actorId) ← authorize registry request query
        [.connect] (rawParams protocols)
      let connParamsRaw := protocols.connParamsRaw
      return { encoding, connParamsRaw, connParams, authData,
               actorId : Authorized }) = Except.ok authorized) :
    ∃ parsed encoding, orInvalid (actorQuerySchema query) = .ok parsed
      ∧ orInvalid (protocols.encodingRaw.bind encodingSchema) = .ok encoding
      ∧ authorize registry request parsed [.connect] (rawParams protocols)
        = .ok (authorized.authData, authorized.actorId) := by
  obtain ⟨parsed, hparsed, h⟩ := bind_ok h
  obtain ⟨encoding, hencoding, h⟩ := bind_ok h
  obtain ⟨pair, hpair, h⟩ := bind_ok h
  refine ⟨parsed, encoding, hparsed, hencoding, ?_⟩
  rw [← Except.ok.inj h]
  exact hpair

/-- A handler's first half is what it reads, then `authorize`. -/
theorem authorizeRoute_read {route : Route} {request : Request}
    {authorized : Authorized}
    (h : authorizeRoute registry route request = .ok authorized) :
    ∃ read, readRoute registry (.actor route) request = .ok read
      ∧ authorize registry request read.query read.additionalIntents
          read.params = .ok (authorized.authData, authorized.actorId) := by
  cases route with
  | action name =>
    obtain ⟨query, hquery, h⟩ := bind_ok h
    obtain ⟨parsed, hparsed, h⟩ := bind_ok h
    obtain ⟨encoding, hencoding, h⟩ := bind_ok h
    obtain ⟨params, hparams, h⟩ := bind_ok h
    obtain ⟨pair, hpair, h⟩ := bind_ok h
    rw [← Except.ok.inj h]
    refine ⟨{ query := parsed, additionalIntents := [.action], params },
      ?_, hpair⟩
    show readHeaders registry request [.action] = _
    unfold readHeaders
    rw [hquery, ok_bind, hparsed, ok_bind, hencoding, ok_bind, hparams]
    rfl
  | connectSse =>
    obtain ⟨_, hread, h⟩ := bind_ok h
    obtain ⟨query, hquery, h⟩ := bind_ok h
    obtain ⟨parsed, hparsed, h⟩ := bind_ok h
    obtain ⟨encoding, hencoding, h⟩ := bind_ok h
    obtain ⟨params, hparams, h⟩ := bind_ok h
    obtain ⟨pair, hpair, h⟩ := bind_ok h
    rw [← Except.ok.inj h]
    refine ⟨{ query := parsed, additionalIntents := [.connect], params },
      ?_, hpair⟩
    unfold readRoute
    dsimp only
    unfold readHeaders
    rw [hread, ok_bind, hquery, ok_bind, hparsed, ok_bind, hencoding,
      ok_bind, hparams]
    rfl
  | rawHttp =>
    replace h : authorizeRawHttp registry request = .ok authorized := h
    unfold authorizeRawHttp at h
    unfold readRoute
    dsimp only at h ⊢
    cases hs : request.headers.get headerActorQuery with
    | none =>
      rw [hs] at h
      cases h
    | some s =>
      rw [hs] at h
      dsimp only at h ⊢
      by_cases hempty : s = ""
      · rw [if_pos hempty] at h
        cases h
      · rw [if_neg hempty] at h ⊢
        obtain ⟨query, hquery, h⟩ := bind_ok h
        obtain ⟨params, hparams, h⟩ := bind_ok h
        obtain ⟨pair, hpair, h⟩ := bind_ok h
        rw [← Except.ok.inj h]
        refine ⟨{ query, additionalIntents := [.action], params }, ?_,
          hpair⟩
        rw [hquery, ok_bind, hparams]
        rfl
  | rawWebSocket =>
    replace h : authorizeRawWebSocket registry request
      = .ok authorized := h
    unfold authorizeRawWebSocket at h
    unfold readRoute
    dsimp only at h ⊢
    by_cases hupgrade : (!registry.upgradeWebSocket) = true
    · rw [if_pos hupgrade] at h
      cases h
    rw [if_neg hupgrade] at h ⊢
    obtain ⟨protocols, hprotocols, h⟩ := bind_ok h
    rw [hprotocols, ok_bind]
    cases hs : protocols.queryRaw with
    | none =>
      rw [hs] at h
      cases h
    | some s =>
      rw [hs] at h
      dsimp only at h ⊢
      by_cases hempty : s = ""
      · rw [if_pos hempty] at h
        cases h
      · rw [if_neg hempty] at h ⊢
        obtain ⟨query, hquery, h⟩ := bind_ok h
        obtain ⟨params, hparams, h⟩ := bind_ok h
        obtain ⟨pair, hpair, h⟩ := bind_ok h
        rw [← Except.ok.inj h]
        refine ⟨{ query, additionalIntents := [.action], params }, ?_,
          hpair⟩
        rw [hquery, ok_bind, hparams]
        rfl
  | connectWebSocket =>
    replace h : authorizeWebSocketConnect registry request
      = .ok authorized := h
    unfold authorizeWebSocketConnect at h
    unfold readRoute
    dsimp only at h ⊢
    by_cases hupgrade : (!registry.upgradeWebSocket) = true
    · rw [if_pos hupgrade] at h
      cases h
    rw [if_neg hupgrade] at h ⊢
    obtain ⟨protocols, hprotocols, h⟩ := bind_ok h
    rw [hprotocols, ok_bind]
    cases hs : protocols.queryRaw with
    | none =>
      rw [hs] at h
      cases h
    | some s =>
    rw [hs] at h
    dsimp only at h ⊢
    cases hquery : parseJson registry.text s with
    | error error =>
      rw [hquery] at h
      cases h
    | ok query =>
    rw [hquery] at h
    -- the parameters are looked at, but not what `onAuth` gets
    cases hparams : parseOptional registry.text protocols.connParamsRaw with
    | error error =>
      rw [hparams] at h
      cases h
    | ok v =>
    rw [hparams] at h
    obtain ⟨parsed, encoding, hparsed, hencoding, hauthorize⟩ :
        ∃ parsed encoding, orInvalid (actorQuerySchema query) = .ok parsed
          ∧ orInvalid (protocols.encodingRaw.bind encodingSchema)
            = .ok encoding
          ∧ authorize registry request parsed [.connect] (rawParams protocols)
            = .ok (authorized.authData, authorized.actorId) := by
      cases v with
      | undefined => exact connectTail_ok registry h
      | null => exact connectTail_ok registry h
      | bool b => exact connectTail_ok registry h
      | num n => exact connectTail_ok registry h
      | bigint i => exact connectTail_ok registry h
      | str s => exact connectTail_ok registry h
      | bytes b => exact connectTail_ok registry h
      | arr vs => exact connectTail_ok registry h
      | obj members => exact connectTail_ok registry h
    refine ⟨{ query := parsed, additionalIntents := [.connect],
               params := rawParams protocols }, ?_, hauthorize⟩
    rw [hencoding]
    simp only [pure, Except.pure, ok_bind]
    rw [hparsed]
    rfl

/-- The same for `handleResolveRequest`. -/
theorem authorizeResolve_read {request : Request} {authorized : Value × String}
    (h : authorizeResolve registry request = .ok authorized) :
    ∃ read, readRoute registry .resolve request = .ok read
      ∧ authorize registry request read.query read.additionalIntents
          read.params = .ok authorized := by
  obtain ⟨_, hread, h⟩ := bind_ok h
  obtain ⟨query, hquery, h⟩ := bind_ok h
  obtain ⟨parsed, hparsed, h⟩ := bind_ok h
  obtain ⟨params, hparams, h⟩ := bind_ok h
  refine ⟨{ query := parsed, additionalIntents := [], params }, ?_, h⟩
  unfold readRoute
  dsimp only
  rw [hread, ok_bind, hquery, ok_bind, hparsed, ok_bind, hparams]
  rfl

-- ================================================== one order of members

/-- `onAuth` runs for the name and with the intents of `hookRun`. -/
theorem authenticateEndpoint_hookRun (request : Request) (query : Value)
    (additionalIntents : List AuthIntent) (params : Value) :
    authenticateEndpoint registry request query additionalIntents params
      = (hookRun registry query additionalIntents >>= fun run =>
          match registry.use run.1 with
          | some actorDefinition =>
              authenticateRequest request actorDefinition run.2 params
          | none => .error (.actorNotFound run.1)) := by
  unfold authenticateEndpoint hookRun
  cases getIntentsFromQuery query with
  | error e => rfl
  | ok intents =>
    cases getActorNameFromQuery registry query with
    | error e => rfl
    | ok name => rfl

/-- `queryActor` is its operation. -/
theorem queryActor_eq (query : Value) :
    queryActor registry query
      = (queryCall query >>= fun call => call.run registry) := by
  unfold queryActor queryCall
  dsimp only
  cases orThrow (query.has "getForId") with
  | error e => rfl
  | ok byId =>
  cases byId with
  | true =>
    cases orThrow ((query.member "getForId").get "name") with
    | error e => rfl
    | ok name =>
    cases orThrow ((query.member "getForId").get "actorId") with
    | error e => rfl
    | ok actorId =>
      show _ = DriverCall.run registry (.getForId name actorId)
      unfold DriverCall.run
      cases h : registry.driver.getForId name actorId with
      | error e =>
        simp only [ok_bind, if_true, h]
        rfl
      | ok output =>
        cases output with
        | none => simp only [ok_bind, if_true, h]; rfl
        | some output => simp only [ok_bind, if_true, h]
  | false =>
  cases orThrow (query.has "getForKey") with
  | error e => rfl
  | ok forKey =>
  cases forKey with
  | true =>
    cases orThrow ((query.member "getForKey").get "name") with
    | error e => rfl
    | ok name =>
    cases orThrow ((query.member "getForKey").get "key") with
    | error e => rfl
    | ok key =>
      show _ = DriverCall.run registry (.getWithKey name key)
      unfold DriverCall.run
      cases h : registry.driver.getWithKey name key with
      | error e =>
        simp only [ok_bind, if_true, h]
        rfl
      | ok output =>
        cases output with
        | none =>
          simp only [ok_bind, if_true, h]
          cases orThrow (stringify registry.text (fun _ => none) key) with
          | error e => rfl
          | ok key => rfl
        | some output => simp only [ok_bind, if_true, h]; rfl
  | false =>
  cases orThrow (query.has "getOrCreateForKey") with
  | error e => rfl
  | ok forKey =>
  cases forKey with
  | true =>
    cases orThrow ((query.member "getOrCreateForKey").get "name") with
    | error e => rfl
    | ok name =>
    cases orThrow ((query.member "getOrCreateForKey").get "key") with
    | error e => rfl
    | ok key =>
    cases orThrow ((query.member "getOrCreateForKey").get "input") with
    | error e => rfl
    | ok input =>
    cases orThrow ((query.member "getOrCreateForKey").get "region") with
    | error e => rfl
    | ok region =>
      simp only [ok_bind, if_true]
      rfl
  | false =>
  cases orThrow (query.has "create") with
  | error e => rfl
  | ok create =>
    cases create with
    | false => rfl
    | true =>
      cases orThrow ((query.member "create").get "name") with
      | error e => rfl
      | ok name =>
      cases orThrow ((query.member "create").get "key") with
      | error e => rfl
      | ok key =>
      cases orThrow ((query.member "create").get "input") with
      | error e => rfl
      | ok input =>
      cases orThrow ((query.member "create").get "region") with
      | error e => rfl
      | ok region =>
        simp only [ok_bind, if_true]
        rfl

/-- The intents of an operation's query. -/
def DriverCall.intents : DriverCall → List AuthIntent
  | getForId _ _ => [.get]
  | getWithKey _ _ => [.get]
  | getOrCreateWithKey _ _ _ _ => [.get, .create]
  | createActor _ _ _ _ => [.create]

/-- The name of the definition that an operation's query is authenticated
against. -/
def DriverCall.actorName :
    DriverCall → Except RouteError Value
  | getForId name actorId => do
      match ← registry.driver.getForId name actorId with
      | some output => return .str output.name
      | none => throw (.actorNotFound (actorId.toText registry.text))
  | getWithKey name _ => .ok name
  | getOrCreateWithKey name _ _ _ => .ok name
  | createActor name _ _ _ => .ok name

/-- The member that an operation came from: those that are looked for
before it are not there. -/
inductive ComesFrom (query : Value) : DriverCall → Prop
  | getForId {name actorId : Value}
      (has : orThrow (query.has "getForId") = .ok true)
      (hname : orThrow ((query.member "getForId").get "name") = .ok name)
      (hid : orThrow ((query.member "getForId").get "actorId")
        = .ok actorId) :
      ComesFrom query (.getForId name actorId)
  | getForKey {name key : Value}
      (hbefore : orThrow (query.has "getForId") = .ok false)
      (has : orThrow (query.has "getForKey") = .ok true)
      (hname : orThrow ((query.member "getForKey").get "name") = .ok name) :
      ComesFrom query (.getWithKey name key)
  | getOrCreateForKey {name key input region : Value}
      (hbefore : orThrow (query.has "getForId") = .ok false
        ∧ orThrow (query.has "getForKey") = .ok false)
      (has : orThrow (query.has "getOrCreateForKey") = .ok true)
      (hname : orThrow ((query.member "getOrCreateForKey").get "name")
        = .ok name) :
      ComesFrom query (.getOrCreateWithKey name key input region)
  | create {name key input region : Value}
      (hbefore : orThrow (query.has "getForId") = .ok false
        ∧ orThrow (query.has "getForKey") = .ok false
        ∧ orThrow (query.has "getOrCreateForKey") = .ok false)
      (has : orThrow (query.has "create") = .ok true)
      (hname : orThrow ((query.member "create").get "name") = .ok name) :
      ComesFrom query (.createActor name key input region)

/-- A member is looked for: it is there or not. -/
theorem if_has {α : Type} {found : Except RouteError Bool}
    {yes no : Except RouteError α} {a : α}
    (h : (found >>= fun found => if found = true then yes else no)
      = .ok a) :
    (found = .ok true ∧ yes = .ok a) ∨ (found = .ok false ∧ no = .ok a) := by
  cases found with
  | error e => exact absurd h (by simp [bind, Except.bind])
  | ok found =>
    cases found with
    | true => exact Or.inl ⟨rfl, h⟩
    | false => exact Or.inr ⟨rfl, h⟩

theorem comesFrom_of_queryCall {query : Value} {call : DriverCall}
    (h : queryCall query = .ok call) : ComesFrom query call := by
  unfold queryCall at h
  rcases if_has h with ⟨hid, h⟩ | ⟨hid, h⟩
  · obtain ⟨name, hname, h⟩ := bind_ok h
    obtain ⟨actorId, hactorId, h⟩ := bind_ok h
    injection h with h
    rw [← h]
    exact .getForId hid hname hactorId
  rcases if_has h with ⟨hkey, h⟩ | ⟨hkey, h⟩
  · obtain ⟨name, hname, h⟩ := bind_ok h
    obtain ⟨key, -, h⟩ := bind_ok h
    injection h with h
    rw [← h]
    exact .getForKey hid hkey hname
  rcases if_has h with ⟨hor, h⟩ | ⟨hor, h⟩
  · obtain ⟨name, hname, h⟩ := bind_ok h
    obtain ⟨key, -, h⟩ := bind_ok h
    obtain ⟨input, -, h⟩ := bind_ok h
    obtain ⟨region, -, h⟩ := bind_ok h
    injection h with h
    rw [← h]
    exact .getOrCreateForKey ⟨hid, hkey⟩ hor hname
  rcases if_has h with ⟨hcreate, h⟩ | ⟨-, h⟩
  · obtain ⟨name, hname, h⟩ := bind_ok h
    obtain ⟨key, -, h⟩ := bind_ok h
    obtain ⟨input, -, h⟩ := bind_ok h
    obtain ⟨region, -, h⟩ := bind_ok h
    injection h with h
    rw [← h]
    exact .create ⟨hid, hkey, hor⟩ hcreate hname
  · exact absurd h (by simp [throw, throwThe, MonadExceptOf.throw])

/-- The intents of a query are those of its operation. -/
theorem getIntentsFromQuery_eq {query : Value} {call : DriverCall}
    (h : ComesFrom query call) :
    getIntentsFromQuery query = .ok call.intents := by
  unfold getIntentsFromQuery
  cases h with
  | getForId has _ _ => rw [has]; rfl
  | getForKey hbefore has _ => rw [hbefore, has]; rfl
  | getOrCreateForKey hbefore has _ =>
    rw [hbefore.1, hbefore.2, has]
    rfl
  | create hbefore has _ =>
    rw [hbefore.1, hbefore.2.1, hbefore.2.2, has]
    rfl

/-- The name of a query is that of its operation. -/
theorem getActorNameFromQuery_eq {query : Value}
    {call : DriverCall} (h : ComesFrom query call) :
    getActorNameFromQuery registry query = call.actorName registry := by
  unfold getActorNameFromQuery
  cases h with
  | getForId has hname hid =>
    rename_i name actorId
    rw [has]
    dsimp only
    rw [hname, hid]
    unfold DriverCall.actorName
    simp only [ok_bind, if_true]
    cases registry.driver.getForId name actorId with
    | error e => rfl
    | ok output =>
      cases output with
      | none => rfl
      | some output => rfl
  | getForKey hbefore has hname => rw [hbefore, has, hname]; rfl
  | getOrCreateForKey hbefore has hname =>
    rw [hbefore.1, hbefore.2, has, hname]
    rfl
  | create hbefore has hname =>
    rw [hbefore.1, hbefore.2.1, hbefore.2.2, has, hname]
    rfl

/-- `onAuth` runs for the name and with the intents of the operation. -/
theorem hookRun_eq {query : Value} {call : DriverCall}
    (h : ComesFrom query call) (additionalIntents : List AuthIntent) :
    hookRun registry query additionalIntents
      = (call.actorName registry >>= fun name =>
          .ok (name.toText registry.text,
            additionalIntents.foldl addIntent call.intents)) := by
  unfold hookRun
  rw [getIntentsFromQuery_eq h, getActorNameFromQuery_eq registry h]
  rfl

/-- Adding intents keeps those there were. -/
theorem mem_foldl_addIntent {intent : AuthIntent}
    (additional : List AuthIntent) :
    ∀ {intents : List AuthIntent}, intent ∈ intents →
      intent ∈ additional.foldl addIntent intents := by
  induction additional with
  | nil =>
    intro intents h
    exact h
  | cons other additional ih =>
    intro intents h
    apply ih
    unfold addIntent
    split
    · exact h
    · exact List.mem_append_left _ h

/-- An operation that may create is preceded by the intent. -/
theorem create_mem_intents {call : DriverCall}
    (h : call.mayCreate = true) : AuthIntent.create ∈ call.intents := by
  cases call with
  | getForId name actorId => exact absurd h (by simp [DriverCall.mayCreate])
  | getWithKey name key => exact absurd h (by simp [DriverCall.mayCreate])
  | getOrCreateWithKey name key input region =>
    exact List.mem_cons_of_mem _ (List.mem_singleton.2 rfl)
  | createActor name key input region => exact List.mem_singleton.2 rfl

/-- By key, the definition is the one of the operation's name. -/
theorem actorName_byKey {call : DriverCall} {name key : Value}
    (h : call.byKey = some (name, key)) :
    call.actorName registry = .ok name := by
  cases call with
  | getForId name actorId => exact absurd h (by simp [DriverCall.byKey])
  | getWithKey name' key' =>
    injection h with h
    injection h with h
    rw [← h]
    rfl
  | getOrCreateWithKey name' key' input region =>
    injection h with h
    injection h with h
    rw [← h]
    rfl
  | createActor name' key' input region =>
    injection h with h
    injection h with h
    rw [← h]
    rfl

end RivetKit.Manager
