/-
The texts in a client's requests, and what the manager reads of them.

# Headers

`fetch` takes the query and the parameters exactly if their JSON texts
fit a header (`exists_setAll_clientEntries`), and the manager gets these
texts (`brings_of_setAll`).

# Subprotocols

`new WebSocket` takes them exactly if there is no parenthesis in them
(`tokens_iff`), which `encodeURIComponent` leaves alone and a token does
not have. The manager reads the texts, and of the parameters only those
that are truthy (`parseWebSocketProtocols_of_open`).
-/
import RivetKit.Client.HttpClientDriver
import RivetKit.Lib.Proofs.Text
import RivetKit.Manager.Proofs.AuthData

namespace RivetKit.Manager

open Http
open Js
open Actor
open Protocol
open Client.HttpClientDriver

variable (registry : Registry)

-- ================================================================= texts

/-- The text of a JSON value. -/
def printed (x : Json) : String := String.ofList (x.print registry.text)

theorem stringify_toValue (x : Json) :
    stringify registry.text (fun _ => none) x.toValue
      = some (some (printed registry x)) := by
  unfold stringify
  rw [toJson_toValue]
  rfl

theorem jsonText_toValue (x : Json) :
    jsonText registry.text x.toValue = some (printed registry x) := by
  unfold jsonText
  rw [stringify_toValue]
  rfl

theorem printed_ne_empty {x : Json} (h : x.Valid) :
    printed registry x ≠ "" := by
  obtain ⟨c, cs, hprint, -⟩ := @print_head registry.text x h
  intro hempty
  have hlist := congrArg String.toList hempty
  unfold printed at hlist
  rw [String.toList_ofList, hprint] at hlist
  exact absurd hlist (List.cons_ne_nil c cs)

theorem parseJson_printed {x : Json} (h : x.Valid) :
    parseJson registry.text (printed registry x) = .ok x.toValue := by
  unfold parseJson printed
  rw [parse_print h]
  rfl

theorem parseOptional_printed {x : Json} (h : x.Valid) :
    parseOptional registry.text (some (printed registry x))
      = .ok x.toValue := by
  unfold parseOptional
  dsimp only
  rw [if_neg (printed_ne_empty registry h)]
  exact parseJson_printed registry h

theorem fitsHeader_toValue (x : Json) :
    FitsHeader registry x.toValue
      ↔ IsValue (normalizeValue (printed registry x)) := by
  unfold FitsHeader
  rw [stringify_toValue]
  simp

theorem isDefined_toValue (x : Json) : x.toValue.isDefined = true := by
  cases x with
  | null => rfl
  | bool b => rfl
  | num q => rfl
  | str s => rfl
  | arr xs => rfl
  | obj members => rfl

/-- No value is its own text, and none is `undefined`. -/
theorem printed_ne_toValue (x : Json) :
    Value.str (printed registry x) ≠ x.toValue
      ∧ Value.undefined ≠ x.toValue := by
  cases x with
  | str s =>
    refine ⟨?_, by simp [Json.toValue]⟩
    intro heq
    simp only [Json.toValue, Value.str.injEq] at heq
    have hlist := congrArg String.toList heq
    unfold printed at hlist
    rw [String.toList_ofList] at hlist
    simp only [Json.print] at hlist
    have hlength := length_le_flatMap_escapeChar s.toList
    have hlen := congrArg List.length hlist
    unfold quote at hlen
    simp only [List.length_cons, List.length_append, List.length_nil]
      at hlen
    omega
  | null => simp [Json.toValue]
  | bool b => simp [Json.toValue]
  | num q => simp [Json.toValue]
  | arr xs => simp [Json.toValue]
  | obj members => simp [Json.toValue]

-- =============================================================== headers

/-- Headers of a client's request. -/
structure Brings (headers : Headers) (query : Json) (encoding : Encoding)
    (params : Json) : Prop where
  query : headers.get headerActorQuery = some (printed registry query)
  encoding : headers.get headerEncoding = some (encodingText encoding)
  params : headers.get headerConnParams = some (printed registry params)

/-- The entries that a client sets, in the order of `action` or in that
of `rawHttpRequest`. -/
def clientEntries (raw : Bool) (query : Json) (encoding : Encoding)
    (params : Json) : List (String × String) :=
  (if raw then
      [(headerActorQuery, printed registry query),
        (headerEncoding, encodingText encoding)]
    else
      [(headerEncoding, encodingText encoding),
        (headerActorQuery, printed registry query)])
    ++ [(headerConnParams, printed registry params)]

theorem isValue_encodingText (encoding : Encoding) :
    normalizeValue (encodingText encoding) = encodingText encoding
      ∧ IsValue (encodingText encoding) := by
  cases encoding with
  | json => decide
  | cbor => decide
  | bare => decide

/-- They can be set exactly if both texts fit. -/
theorem exists_setAll_clientEntries (raw : Bool) (start : Headers)
    (query : Json) (encoding : Encoding) (params : Json) :
    (∃ headers, start.setAll (clientEntries registry raw query encoding
        params) = some headers)
      ↔ FitsHeader registry query.toValue
        ∧ FitsHeader registry params.toValue := by
  obtain ⟨hnormal, hvalue⟩ := isValue_encodingText encoding
  rw [Headers.exists_setAll_iff]
  rw [fitsHeader_toValue, fitsHeader_toValue]
  unfold clientEntries
  cases raw with
  | true => simp [hnormal, hvalue]
  | false => simp [hnormal, hvalue]

/-- What is got of them. -/
theorem brings_of_setAll {raw : Bool} {start headers : Headers}
    {query params : Json} {encoding : Encoding} (hquery : query.Valid)
    (hparams : params.Valid)
    (h : start.setAll (clientEntries registry raw query encoding params)
      = some headers) :
    Brings registry headers query encoding params := by
  have hnames : (clientEntries registry raw query encoding
      params).Pairwise fun a b => lowerName a.1 ≠ lowerName b.1 := by
    unfold clientEntries
    cases raw with
    | true => simp
    | false => simp
  have hget : ∀ name value, normalizeValue value = value →
      (name, value) ∈ clientEntries registry raw query encoding params →
      headers.get name = some value := by
    intro name value hnormal hmem
    have hgot := Headers.get_setAll _ h hnames hmem
    rw [hgot, hnormal]
  have hnormal := (isValue_encodingText encoding).1
  constructor
  · apply hget _ _ (normalizeValue_print hquery)
    cases raw with
    | true => simp [clientEntries, printed]
    | false => simp [clientEntries, printed]
  · apply hget _ _ hnormal
    cases raw with
    | true => simp [clientEntries]
    | false => simp [clientEntries]
  · apply hget _ _ (normalizeValue_print hparams)
    simp [clientEntries, printed]

/-- The headers of `action` and `connectSse`. -/
theorem connHeaders_eq (query : Json) (encoding : Encoding)
    (params : Json) :
    connHeaders registry.text query.toValue encoding params.toValue
      = Headers.empty.setAll
          (clientEntries registry false query encoding params) := by
  unfold connHeaders paramsHeaders clientEntries
  rw [isDefined_toValue, jsonText_toValue, jsonText_toValue]
  simp only [if_true, Option.map_some, Option.bind_eq_bind,
    Option.bind_some, Bool.false_eq_true, if_false]

/-- The request of `rawHttpRequest`. -/
theorem rawHttpRequest_eq (query : Json) (encoding : Encoding)
    (params : Json) (path search : String) (init : Headers) :
    rawHttpRequest registry.text query.toValue encoding params.toValue path
        search init
      = (init.setAll (clientEntries registry true query encoding
          params)).bind fun headers => some
        { path := "/registry/actors/raw/http/" ++ path
          search
          headers } := by
  unfold rawHttpRequest paramsHeaders clientEntries
  rw [isDefined_toValue, jsonText_toValue, jsonText_toValue]
  simp only [if_true, Option.map_some, Option.bind_eq_bind,
    Option.bind_some, Option.pure_def]

-- ========================================================== subprotocols

/-- Subprotocols of an application's own: names that the driver's list
has no use for. -/
structure Subprotocols where
  protocols : List String
  tokens : ∀ p ∈ protocols, IsToken p
  distinct : protocols.Nodup
  unread : ∀ p ∈ protocols, ∀ start ∈ ["query.", "encoding.",
    "conn_params."], afterStart start p = none
  unused : "rivetkit" ∉ protocols

/-- No subprotocols. -/
def Subprotocols.none : Subprotocols :=
  { protocols := []
    tokens := fun _ h => nomatch h
    distinct := List.nodup_nil
    unread := fun _ h => nomatch h
    unused := List.not_mem_nil }

/-- The text of a value can be in a subprotocol. -/
def FitsProtocol (x : Json) : Prop :=
  ∀ c ∈ x.print registry.text, c ≠ '(' ∧ c ≠ ')'

/-- The driver's own subprotocols. -/
def driverProtocols (query : Json) (encoding : Encoding) (params : Json) :
    List String :=
  ["query." ++ encodeURIComponent (printed registry query),
      "encoding." ++ encodingText encoding]
    ++ (if params.toValue.truthy then
        ["conn_params." ++ encodeURIComponent (printed registry params)]
      else [])
    ++ ["rivetkit"]

/-- What the manager is to read of them. -/
def driverRead (query : Json) (encoding : Encoding) (params : Json) :
    WebSocketProtocols :=
  { queryRaw := some (printed registry query)
    encodingRaw := some (encodingText encoding)
    connParamsRaw :=
      if params.toValue.truthy then some (printed registry params)
      else none }

theorem connProtocols_eq (query : Json) (encoding : Encoding)
    (params : Json) :
    connProtocols registry.text query.toValue encoding params.toValue
      = some (driverProtocols registry query encoding params) := by
  unfold connProtocols driverProtocols
  rw [jsonText_toValue, jsonText_toValue]
  cases params.toValue.truthy with
  | true => rfl
  | false => rfl

theorem afterStart_append (start s : String) :
    afterStart start (start ++ s) = some s := by
  unfold afterStart
  rw [String.toList_append, if_pos]
  · rw [List.drop_left, String.ofList_toList]
  · rw [List.isPrefixOf_iff_prefix]
    exact List.prefix_append _ _

/-- Two starts that differ in their first character. -/
theorem afterStart_other (start : String) {other : String} {a b : Char}
    {as bs : List Char} (hstart : start.toList = a :: as)
    (hother : other.toList = b :: bs) (hne : a ≠ b) (s : String) :
    afterStart start (other ++ s) = none := by
  unfold afterStart
  rw [String.toList_append, hstart, hother, if_neg]
  intro hprefix
  simp only [List.cons_append, List.isPrefixOf, Bool.and_eq_true,
    beq_iff_eq] at hprefix
  exact hne hprefix.1

theorem readProtocol_query (read : WebSocketProtocols) (s : String) :
    readProtocol read ("query." ++ encodeURIComponent s)
      = .ok { read with queryRaw := some s } := by
  unfold readProtocol
  rw [afterStart_append]
  dsimp only
  rw [decodeURIComponent_encodeURIComponent]
  rfl

theorem readProtocol_encoding (read : WebSocketProtocols) (s : String) :
    readProtocol read ("encoding." ++ s)
      = .ok { read with encodingRaw := some s } := by
  unfold readProtocol
  rw [afterStart_other "query." rfl rfl (by decide)]
  dsimp only
  rw [afterStart_append]
  rfl

theorem readProtocol_connParams (read : WebSocketProtocols) (s : String) :
    readProtocol read ("conn_params." ++ encodeURIComponent s)
      = .ok { read with connParamsRaw := some s } := by
  unfold readProtocol
  rw [afterStart_other "query." rfl rfl (by decide)]
  dsimp only
  rw [afterStart_other "encoding." rfl rfl (by decide)]
  dsimp only
  rw [afterStart_append]
  dsimp only
  rw [decodeURIComponent_encodeURIComponent]
  rfl

/-- An application's subprotocols are read over. -/
theorem foldlM_readProtocol_own (subprotocols : Subprotocols)
    (read : WebSocketProtocols) :
    subprotocols.protocols.foldlM readProtocol read = .ok read := by
  have hunread := subprotocols.unread
  generalize subprotocols.protocols = protocols at hunread ⊢
  induction protocols with
  | nil => rfl
  | cons p protocols ih =>
    have hp := hunread p List.mem_cons_self
    have hread : readProtocol read p = .ok read := by
      unfold readProtocol
      rw [hp "query." (by decide)]
      dsimp only
      rw [hp "encoding." (by decide)]
      dsimp only
      rw [hp "conn_params." (by decide)]
      rfl
    rw [List.foldlM_cons, hread, ok_bind]
    exact ih fun q hq => hunread q (List.mem_cons_of_mem _ hq)

/-- The whole list. -/
theorem foldlM_readProtocol (query : Json) (encoding : Encoding)
    (params : Json) (subprotocols : Subprotocols) :
    (driverProtocols registry query encoding params
        ++ subprotocols.protocols).foldlM readProtocol {}
      = .ok (driverRead registry query encoding params) := by
  have hlast : ∀ read : WebSocketProtocols,
      ("rivetkit" :: subprotocols.protocols).foldlM readProtocol read
        = .ok read := by
    intro read
    rw [List.foldlM_cons]
    show (Except.ok read >>= _) = _
    rw [ok_bind]
    exact foldlM_readProtocol_own subprotocols read
  unfold driverProtocols driverRead
  simp only [List.append_assoc, List.cons_append, List.nil_append]
  rw [List.foldlM_cons, readProtocol_query, ok_bind]
  rw [List.foldlM_cons, readProtocol_encoding, ok_bind]
  cases params.toValue.truthy with
  | true =>
    simp only [if_true, List.cons_append, List.nil_append]
    rw [List.foldlM_cons, readProtocol_connParams, ok_bind]
    exact hlast _
  | false =>
    simp only [Bool.false_eq_true, if_false, List.nil_append]
    exact hlast _

/-- What `new WebSocket` sends of a list that is not empty. -/
theorem openWebSocket_eq_some_iff (path search : String)
    {protocols : List String} (hne : protocols ≠ []) :
    (∃ request, openWebSocket path search protocols = some request)
      ↔ (∀ p ∈ protocols, IsToken p) ∧ protocols.Nodup := by
  unfold openWebSocket
  constructor
  · rintro ⟨request, h⟩
    obtain ⟨header, hheader, -⟩ := Option.bind_eq_some_iff.1 h
    unfold protocolHeader at hheader
    split at hheader
    · assumption
    · exact absurd hheader (by simp)
  · intro htokens
    obtain ⟨header, hheader⟩ : ∃ header,
        protocolHeader protocols = some header := by
      unfold protocolHeader
      rw [if_pos htokens]
      exact ⟨_, rfl⟩
    have hvalue := isValue_protocolHeader hne hheader
    obtain ⟨headers, hset⟩ : ∃ headers, Headers.empty.set
        "sec-websocket-protocol" header = some headers := by
      apply Option.ne_none_iff_exists'.1
      intro hnone
      rw [Headers.set_eq_none_iff, hvalue.1] at hnone
      exact hnone hvalue
    rw [hheader, Option.bind_eq_bind, Option.bind_some, hset]
    exact ⟨_, rfl⟩

theorem get_of_openWebSocket {path search : String}
    {protocols : List String} {request : Request} (hne : protocols ≠ [])
    (h : openWebSocket path search protocols = some request) :
    ∃ header, protocolHeader protocols = some header
      ∧ request.headers.get "sec-websocket-protocol" = some header := by
  unfold openWebSocket at h
  obtain ⟨header, hheader, h⟩ := Option.bind_eq_some_iff.1 h
  obtain ⟨headers, hset, h⟩ := Option.bind_eq_some_iff.1 h
  injection h with h
  refine ⟨header, hheader, ?_⟩
  rw [← h]
  dsimp only
  rw [Headers.get_set hset rfl, (isValue_protocolHeader hne hheader).1]

theorem driverProtocols_ne_nil (query : Json) (encoding : Encoding)
    (params : Json) (protocols : List String) :
    driverProtocols registry query encoding params ++ protocols ≠ [] := by
  unfold driverProtocols
  simp

/-- And what the manager reads of it. -/
theorem parseWebSocketProtocols_of_open {path search : String}
    {request : Request} {query params : Json} {encoding : Encoding}
    {s : Subprotocols}
    (h : openWebSocket path search
      (driverProtocols registry query encoding params ++ s.protocols)
        = some request) :
    parseWebSocketProtocols (request.headers.get "sec-websocket-protocol")
      = .ok (driverRead registry query encoding params) := by
  have hne := driverProtocols_ne_nil registry query encoding params
    s.protocols
  obtain ⟨header, hheader, hget⟩ := get_of_openWebSocket hne h
  have hsplit := map_trim_split hne hheader
  rw [hget]
  unfold parseWebSocketProtocols
  dsimp only
  rw [if_neg, hsplit]
  · exact foldlM_readProtocol registry query encoding params s
  · -- an empty header has one part
    rintro rfl
    have hlength := congrArg List.length hsplit
    unfold driverProtocols at hlength
    simp only [List.length_append, List.length_cons] at hlength
    have hone : ((split "," "").map trim).length = 1 := rfl
    omega

theorem isToken_encodingText (encoding : Encoding) :
    IsToken ("encoding." ++ encodingText encoding) := by
  cases encoding with
  | json => decide
  | cbor => decide
  | bare => decide

/-- The start of an application's subprotocol is none of the
driver's. -/
theorem not_mem_own (subprotocols : Subprotocols) (start : String)
    (hstart : start ∈ ["query.", "encoding.", "conn_params."])
    (s : String) : start ++ s ∉ subprotocols.protocols := by
  intro hmem
  have hnone := subprotocols.unread _ hmem start hstart
  rw [afterStart_append] at hnone
  exact absurd hnone (by simp)

/-- The list is one for `new WebSocket` exactly if the texts fit. -/
theorem tokens_iff (query : Json) (encoding : Encoding) (params : Json)
    (subprotocols : Subprotocols) :
    ((∀ p ∈ driverProtocols registry query encoding params
          ++ subprotocols.protocols, IsToken p)
        ∧ (driverProtocols registry query encoding params
          ++ subprotocols.protocols).Nodup)
      ↔ FitsProtocol registry query
        ∧ (params.toValue.truthy = true →
            FitsProtocol registry params) := by
  have hfits : ∀ (start : String) (x : Json), IsToken start →
      (IsToken (start ++ encodeURIComponent (printed registry x))
        ↔ FitsProtocol registry x) := by
    intro start x hstart
    rw [isToken_encodeURIComponent _ hstart]
    unfold FitsProtocol printed
    rw [String.toList_ofList]
  have hquery := hfits "query." query (by decide)
  have hparams := hfits "conn_params." params (by decide)
  have hstarts : ∀ s t : String, "query." ++ s ≠ "encoding." ++ t
      ∧ "query." ++ s ≠ "conn_params." ++ t
      ∧ "encoding." ++ s ≠ "conn_params." ++ t := by
    intro s t
    refine ⟨?_, ?_, ?_⟩
    all_goals
      intro heq
      have hhead := congrArg (fun u => u.toList.head?) heq
      rw [String.toList_append] at hhead
      simp at hhead
  have hlast : ∀ s : String, "query." ++ s ≠ "rivetkit"
      ∧ "encoding." ++ s ≠ "rivetkit"
      ∧ "conn_params." ++ s ≠ "rivetkit" := by
    intro s
    refine ⟨?_, ?_, ?_⟩
    all_goals
      intro heq
      have hhead := congrArg (fun u => u.toList.head?) heq
      rw [String.toList_append] at hhead
      simp at hhead
  have hrivetkit : IsToken "rivetkit" := by decide
  have hencoding := isToken_encodingText encoding
  have hown := subprotocols.tokens
  have hdistinct := subprotocols.distinct
  have hunused := subprotocols.unused
  have hnot₁ := not_mem_own subprotocols "query." (by decide)
  have hnot₂ := not_mem_own subprotocols "encoding."
    (by decide)
  have hnot₃ := not_mem_own subprotocols "conn_params."
    (by decide)
  unfold driverProtocols
  cases params.toValue.truthy with
  | true =>
    simp only [if_true, List.cons_append, List.nil_append,
      List.forall_mem_cons, hrivetkit, hencoding, hquery, hparams,
      true_and, forall_const]
    constructor
    · rintro ⟨⟨hq, hp, -⟩, -⟩
      exact ⟨hq, hp⟩
    · rintro ⟨hq, hp⟩
      refine ⟨⟨hq, hp, hown⟩, ?_⟩
      simp [hstarts, hlast, hnot₁, hnot₂, hnot₃, hunused, hdistinct]
  | false =>
    simp only [Bool.false_eq_true, if_false, List.cons_append,
      List.nil_append, List.forall_mem_cons, hrivetkit, hencoding, hquery,
      true_and, false_implies, and_true]
    constructor
    · rintro ⟨⟨hq, -⟩, -⟩
      exact hq
    · intro hq
      refine ⟨⟨hq, hown⟩, ?_⟩
      simp [hstarts, hlast, hnot₁, hnot₂, hunused, hdistinct]

end RivetKit.Manager
