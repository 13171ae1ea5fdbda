/-
The actor that a request reaches belongs to the definition whose `onAuth`
ran for it.

# Names

`namesApart_iff`: names and keys that are JSON are written apart where the
names are, except for a name that is missing beside one that is `null`.
So the condition of `authorized_of_reaches` always holds where a schema
has let the query through. The raw routes have none, and there a query
without a name reaches the actor of another definition
(`nameless_reaches_null`).
-/
import Mathlib.Logic.Equiv.Basic
import RivetKit.Manager.Proofs.ClientRequests
import RivetKit.Manager.Proofs.ReachedActor

namespace RivetKit.Manager

open Http
open Js
open Actor
open Transition
open Drivers.FileSystem

variable (registry : Registry)

-- ============================================================ the names

/-- A member of a query: JSON, or nothing. -/
def memberValue : Option Json → Value
  | some x => x.toValue
  | none => .undefined

/-- `JSON.stringify` of a name and a key, either of which may be
missing. -/
theorem stringify_pair (text : NumberText) (name key : Option Json) :
    stringify text (fun _ => none) (.arr [memberValue name, memberValue key])
      = some (some (String.ofList
          ((Json.arr [name.getD .null, key.getD .null]).print text))) := by
  have hmember : ∀ m : Option Json,
      (memberValue m).toJson (fun _ => none) = some m := by
    intro m
    cases m with
    | none => rfl
    | some x => exact toJson_toValue x
  unfold stringify
  simp only [Value.toJson, elementsToJson, hmember]

/-- Names and keys that are JSON are written apart, and the names are
apart as property keys, unless one name is missing and the other is
`null`. -/
theorem namesApart_iff {name key name' key' : Option Json}
    (hname : (name.getD .null).Valid) (hkey : (key.getD .null).Valid)
    (hname' : (name'.getD .null).Valid) (hkey' : (key'.getD .null).Valid) :
    NamesApart registry (memberValue name) (memberValue key)
        (memberValue name') (memberValue key')
      ↔ (key.getD .null = key'.getD .null →
        ¬ (name = none ∧ name' = some .null)
          ∧ ¬ (name = some .null ∧ name' = none)) := by
  unfold NamesApart
  rw [stringify_pair, stringify_pair]
  have hvalid : (Json.arr [name.getD .null, key.getD .null]).Valid :=
    ⟨hname, hkey, trivial⟩
  have hvalid' : (Json.arr [name'.getD .null, key'.getD .null]).Valid :=
    ⟨hname', hkey', trivial⟩
  constructor
  · intro h hsame
    constructor
    · intro ⟨h₁, h₂⟩
      rw [h₁, h₂, hsame] at h
      replace h : "undefined" = "null" := h rfl
      exact absurd h (by decide)
    · intro ⟨h₁, h₂⟩
      rw [h₁, h₂, hsame] at h
      replace h : "null" = "undefined" := h rfl
      exact absurd h (by decide)
  · intro h hprint
    replace hprint := Option.some.inj (Option.some.inj hprint)
    have hparse := @parse_print registry.text _ hvalid
    rw [hprint, @parse_print registry.text _ hvalid'] at hparse
    have hlists := Json.arr.inj (Option.some.inj hparse)
    have hnames : name'.getD .null = name.getD .null :=
      (List.cons.inj hlists).1
    have hkeys : key'.getD .null = key.getD .null :=
      (List.cons.inj (List.cons.inj hlists).2).1
    obtain ⟨h₁, h₂⟩ := h hkeys.symm
    cases name with
    | none =>
      cases name' with
      | none => rfl
      | some x =>
        replace hnames : x = .null := hnames
        exact absurd ⟨rfl, by rw [hnames]⟩ h₁
    | some x =>
      cases name' with
      | none =>
        replace hnames : Json.null = x := hnames
        exact absurd ⟨by rw [hnames], rfl⟩ h₂
      | some x' =>
        replace hnames : x' = x := hnames
        rw [hnames]

-- ============================================================ the result

/-- A state that a call may find goes back to its name. -/
theorem DirectoryRooted.known {registry : Registry}
    {hash getActorStatePath : String → String}
    {created : List (Value × Value)} {d : Directory} {id : String}
    {state : StoredActor}
    (h : DirectoryRooted registry hash getActorStatePath created d)
    (hknown : Known getActorStatePath d id state) :
    Rooted registry hash created (getActorStatePath id)
      (state.name.toText registry.text) := by
  cases hknown with
  | entry hs => exact (h.entries hs).rooted
  | held hs => exact (h.held hs).rooted
  | file hs => exact (h.files hs).2.2.rooted

/-- In every run whose queries by key keep their names apart, every
request is authorized for the actor that it reaches. -/
theorem authorized_of_reaches (hash getActorStatePath : String → String)
    (hhash : Function.Injective hash)
    (hpath : ∀ s, getActorStatePath (hash s) = hash s) {persist : Bool}
    {e : Endpoints}
    (h : (endpoints registry hash getActorStatePath persist).Reaches
      (KeepsApart registry) e) :
    AllAuthorized registry getActorStatePath e := by
  have htracked := tracked_of_reaches hhash hpath h
  constructor
  · intro request hmem actorId hpc state hknown
    have hrequest := htracked.requests request hmem
    exact htracked.coherent (htracked.directory.known hknown)
      (hrequest.reached (Or.inl hpc))
  · intro request hmem call hcall hmay
    have hrequest := htracked.requests request hmem
    exact hrequest.mayCreate (hrequest.called hcall) hmay

-- ==================================================== two definitions

/-- A query by key, with a name or without one. -/
def byKeyQuery (member : String) (name : Option Json) : Json :=
  .obj [(member, .obj ((name.map fun x => ("name", x)).toList
    ++ [("key", .arr [])]))]

theorem byKeyQuery_valid (member : String) {name : Option Json}
    (h : (name.getD .null).Valid) : (byKeyQuery member name).Valid := by
  cases name with
  | none => simp [byKeyQuery, Json.Valid, MembersValid, ElementsValid]
  | some x =>
    replace h : x.Valid := h
    simp [byKeyQuery, Json.Valid, MembersValid, ElementsValid, h]

/-- A raw HTTP request with a query. -/
def rawRequest (query : String) (h : IsValue query) : Request :=
  { path := "/raw/http/"
    search := ""
    headers :=
      { entries := [("x-rivetkit-query", query)]
        lower := by
          intro e he
          rw [List.mem_singleton.1 he]
          show lowerName "x-rivetkit-query" = "x-rivetkit-query"
          decide
        distinct := List.pairwise_singleton _ _
        valid := by
          intro e he
          rw [List.mem_singleton.1 he]
          exact h } }

/-- What the route reads of it. -/
theorem readRoute_rawRequest {registry : Registry} {query : Json}
    (hvalid : query.Valid)
    (h : IsValue (printed registry query)) :
    readRoute registry (.actor .rawHttp)
        (rawRequest (printed registry query) h)
      = .ok
          { query := query.toValue
            additionalIntents := [.action]
            params := .undefined } := by
  have hget : (rawRequest (printed registry query) h).headers.get
      headerActorQuery = some (printed registry query) := rfl
  have hparams : (rawRequest (printed registry query) h).headers.get
      headerConnParams = none := rfl
  unfold readRoute
  dsimp only
  rw [hget, hparams]
  dsimp only
  rw [if_neg (printed_ne_empty registry hvalid),
    parseJson_printed registry hvalid]
  rfl

/-- `onAuth` lets everyone in. -/
def openDefinition : ActorDefinition :=
  { onAuth := some fun _ _ _ => .ok .undefined }

/-- A registry with these definitions. -/
def registryOf (names : List String) : Registry :=
  { text := NumberText.decimal
    use := fun name => if name ∈ names then some openDefinition else none
    driver := { persist := false : Directory }.managerDriver
      NumberText.decimal id none
    upgradeWebSocket := true }

/-- A request on the raw route runs `onAuth`. -/
theorem authenticate_rawRequest {registry : Registry} {query : Json}
    {hash getActorStatePath : String → String} {persist : Bool}
    {e : Endpoints} (hvalid : query.Valid)
    (h : IsValue (printed registry query))
    {definition : String} {intents : List AuthIntent}
    (hrun : hookRun (e.registryAt registry hash none) query.toValue
      [.action] = .ok (definition, intents))
    (huse : registry.use definition = some openDefinition) :
    (endpoints registry hash getActorStatePath persist).step e
        (.authenticate (.actor .rawHttp)
          (rawRequest (printed registry query) h) none)
      = some { e with
          requests := e.requests
            ++ [{ query := query.toValue, definition, intents }] } := by
  have hread : readRoute (e.registryAt registry hash none)
      (.actor .rawHttp) (rawRequest (printed registry query) h)
        = .ok
            { query := query.toValue
              additionalIntents := [.action]
              params := .undefined } := readRoute_rawRequest hvalid h
  have hauth : authenticateEndpoint (e.registryAt registry hash none)
      (rawRequest (printed registry query) h) query.toValue [.action]
      .undefined = .ok .undefined := by
    rw [authenticateEndpoint_hookRun, hrun, ok_bind]
    have huse' : (e.registryAt registry hash none).use definition
        = some openDefinition := huse
    dsimp only
    rw [huse']
    rfl
  show (e.authenticate registry hash _ _ none).toOption = _
  unfold Endpoints.authenticate
  dsimp only
  rw [hread, ok_bind]
  dsimp only
  rw [hrun, ok_bind, hauth]
  rfl

/-- Two names. -/
def twoNames : Registry := registryOf ["null", "undefined"]

/-- A hash that takes a text to an id. -/
def shortHash (text id : String) : String → String := Equiv.swap text id

/-- The hash of `[null,[]]`. -/
def nullHash : String → String := shortHash "[null,[]]" "97294f05c3603881"

def nullActor : StoredActor :=
  { actorId := "97294f05c3603881", name := .null, key := .arr [] }

def nullQuery : Json := byKeyQuery "getOrCreateForKey" (some .null)

def namelessQuery : Json := byKeyQuery "getForKey" none

theorem isValue_nullQuery : IsValue (printed twoNames nullQuery) := by
  decide

theorem isValue_namelessQuery :
    IsValue (printed twoNames namelessQuery) := by
  decide

/-- A request with the name `null`, past `onAuth`. -/
def nullRequest : QueryRequest :=
  { query := nullQuery.toValue
    definition := "null"
    intents := [.get, .create, .action] }

/-- A request without a name, past `onAuth`. -/
def namelessRequest : QueryRequest :=
  { query := namelessQuery.toValue
    definition := "undefined"
    intents := [.get, .action] }

/-- The first one has created the actor. -/
def nullCreated : Endpoints :=
  { directory :=
      ({ persist := false : Directory }).create true nullActor
    requests :=
      [{ nullRequest with
          call := some
            (.getOrCreateWithKey .null (.arr []) .undefined .undefined)
          pc := .reached "97294f05c3603881" }]
    created := [(.null, .arr [])] }

theorem queryActor_null :
    (endpoints twoNames nullHash id false).step
        { directory := { persist := false }, requests := [nullRequest] }
        (.queryActor 0 none)
      = some nullCreated := by
  rfl

/-- The second one has reached it. -/
def namelessReached : Endpoints :=
  { nullCreated with
    requests := nullCreated.requests
      ++ [{ namelessRequest with
              call := some (.getWithKey .undefined (.arr []))
              pc := .reached "97294f05c3603881" }] }

theorem queryActor_nameless :
    (endpoints twoNames nullHash id false).step
        { nullCreated with
          requests := nullCreated.requests ++ [namelessRequest] }
        (.queryActor 1 none)
      = some namelessReached := by
  rfl

theorem nullQuery_valid : nullQuery.Valid :=
  byKeyQuery_valid "getOrCreateForKey" trivial

theorem namelessQuery_valid : namelessQuery.Valid :=
  byKeyQuery_valid "getForKey" trivial

theorem hookRun_null (e : Endpoints) :
    hookRun (e.registryAt twoNames nullHash none) nullQuery.toValue [.action]
      = .ok ("null", [.get, .create, .action]) := by
  rfl

theorem hookRun_nameless (e : Endpoints) :
    hookRun (e.registryAt twoNames nullHash none) namelessQuery.toValue
      [.action] = .ok ("undefined", [.get, .action]) := by
  rfl

theorem reachable_namelessReached :
    (endpoints twoNames nullHash id false).Reachable namelessReached := by
  have h₀ : (endpoints twoNames nullHash id false).Reachable
      { directory := { persist := false } } := .init rfl
  have h₁ := System.Reaches.step _ h₀ trivial
    (authenticate_rawRequest nullQuery_valid isValue_nullQuery
      (hookRun_null _) rfl)
  have h₂ := System.Reaches.step _ h₁ trivial queryActor_null
  have h₃ := System.Reaches.step _ h₂ trivial
    (authenticate_rawRequest namelessQuery_valid isValue_namelessQuery
      (hookRun_nameless _) rfl)
  exact System.Reaches.step _ h₃ trivial queryActor_nameless

/-- `onAuth` of `undefined` has run for the actor of `null`. -/
theorem nameless_reaches_null :
    ¬ ∀ (registry : Registry) (hash getActorStatePath : String → String)
        (persist : Bool) (e : Endpoints),
      Function.Injective hash →
        (∀ s, getActorStatePath (hash s) = hash s) →
          (endpoints registry hash getActorStatePath persist).Reachable e →
            AllAuthorized registry getActorStatePath e := by
  intro hall
  have hauthorized := hall twoNames nullHash id false namelessReached
    (Equiv.swap _ _).injective (fun _ => rfl) reachable_namelessReached
  have hname := hauthorized.reached _ (List.mem_cons_of_mem _
    (List.mem_singleton.2 rfl)) "97294f05c3603881" rfl nullActor
    (.entry rfl)
  replace hname : "null" = "undefined" := hname
  exact absurd hname (by decide)

-- ======================================================= one definition

/-- The hash of `["counter",[]]`. -/
def counterHash : String → String :=
  shortHash "[\"counter\",[]]" "76dea91135f9a6b0"

def newCounterQuery : Json :=
  byKeyQuery "getOrCreateForKey" (some (.str "counter"))

def counterRegistry : Registry := registryOf ["counter"]

theorem isValue_newCounterQuery :
    IsValue (printed counterRegistry newCounterQuery) := by
  decide

/-- A request for a counter, past `onAuth`. -/
def counterRequest : QueryRequest :=
  { query := newCounterQuery.toValue
    definition := "counter"
    intents := [.get, .create, .action] }

/-- It has created the counter. -/
def counterReached : Endpoints :=
  { directory :=
      ({ persist := false : Directory }).create true
        { actorId := "76dea91135f9a6b0"
          name := .str "counter"
          key := .arr [] }
    requests :=
      [{ counterRequest with
          call := some
            (.getOrCreateWithKey (.str "counter") (.arr []) .undefined
              .undefined)
          pc := .reached "76dea91135f9a6b0" }]
    created := [(.str "counter", .arr [])] }

theorem queryActor_counter :
    (endpoints counterRegistry counterHash id false).step
        { directory := { persist := false }, requests := [counterRequest] }
        (.queryActor 0 none)
      = some counterReached := by
  rfl

theorem newCounterQuery_valid : newCounterQuery.Valid :=
  byKeyQuery_valid "getOrCreateForKey" trivial

theorem hookRun_counter (e : Endpoints) :
    hookRun (e.registryAt counterRegistry counterHash none)
      newCounterQuery.toValue [.action]
        = .ok ("counter", [.get, .create, .action]) := by
  rfl

theorem authenticate_counter :
    (endpoints counterRegistry counterHash id false).step
        { directory := { persist := false } }
        (.authenticate (.actor .rawHttp)
          (rawRequest (printed counterRegistry newCounterQuery)
            isValue_newCounterQuery) none)
      = some
        { directory := { persist := false }
          requests := [counterRequest] } :=
  authenticate_rawRequest newCounterQuery_valid isValue_newCounterQuery
    (hookRun_counter _) rfl

theorem reaches_counterReached :
    (endpoints counterRegistry counterHash id false).Reaches
      (KeepsApart counterRegistry) counterReached := by
  refine System.Reaches.step _ (System.Reaches.step _ (.init rfl) ?_
    authenticate_counter) ?_ queryActor_counter
  · trivial
  · intro request call name key _ _ _ c hc
    exact absurd hc (by simp)

theorem authorized_of_reaches_counter :
    AllAuthorized counterRegistry id counterReached :=
  authorized_of_reaches counterRegistry counterHash id
    (Equiv.swap _ _).injective (fun _ => rfl) reaches_counterReached

end RivetKit.Manager
