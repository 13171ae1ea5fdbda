/-
What the manager reads of the subprotocols of a WebSocket
(`round_trips_iff`): the driver's entries come back with whatever an
application has put behind them.

# Where it fails

`parseWebSocketProtocols` knows an entry by its start and the last one of
a kind counts, so an application's entry can stand in the place of the
driver's, and one that cannot be decoded throws. The driver leaves out
parameters that are falsy, where for actions, SSE and raw HTTP it leaves
out only `undefined`.

# The last of a kind

`lastRead` is the part that counts. `foldlM_parts` gives what is read of
any list of parts in these terms, and that nothing is read if one of them
cannot be decoded.
-/
import RivetKit.Manager.Proofs.ClientRequests

namespace RivetKit.Manager

open Http
open Js
open Actor
open Protocol
open Client.HttpClientDriver

-- ============================================================== the header

/-- Connection parameters: a JSON value or `undefined`. -/
def paramsValue : Option Json → Value
  | some params => params.toValue
  | none => .undefined

variable (registry : Registry)

/-- The header that `connectWebSocket` and `rawWebSocket` build, the
latter with an application's own `protocols`. -/
def driverHeader (query : Json) (encoding : Encoding)
    (params : Option Json) (protocols : List String) : Option String :=
  (connProtocols registry.text query.toValue encoding
    (paramsValue params)).map fun own => joinProtocols (own ++ protocols)

/-- What `parseWebSocketProtocols` returns is what the driver was given. -/
structure ReadsBack (query : Json) (encoding : Encoding)
    (params : Option Json) (read : WebSocketProtocols) : Prop where
  query : read.queryRaw.map (parseJson registry.text)
    = some (.ok query.toValue)
  encoding : read.encodingRaw = some (encodingText encoding)
  params : read.connParamsRaw.map (parseJson registry.text)
    = params.map fun params => .ok params.toValue

/-- It does not throw and returns that. -/
def RoundTrips (query : Json) (encoding : Encoding) (params : Option Json)
    (protocols : List String) : Prop :=
  ∃ header read,
    driverHeader registry query encoding params protocols = some header
      ∧ parseWebSocketProtocols (some header) = .ok read
      ∧ ReadsBack registry query encoding params read

-- =========================================================== the condition

/-- What follows the start in the last part that has it. -/
def lastRead (start : String) : List String → Option String
  | [] => none
  | part :: parts => (lastRead start parts).or (afterStart start part)

/-- The parts with a text can be decoded. -/
def Decodable (parts : List String) : Prop :=
  ∀ part ∈ parts, ∀ start ∈ ["query.", "conn_params."], ∀ raw,
    afterStart start part = some raw → decodeURIComponent raw ≠ none

/-- The text of a part stands for the value. -/
def Says (raw : String) (value : Value) : Prop :=
  ∃ s, decodeURIComponent raw = some s
    ∧ parseJson registry.text s = .ok value

/-- The last part of parameters says what the driver does; without one the
driver has them in its list, or there are none. -/
def SaysParams : Option String → Option Json → Prop
  | some raw, some params => Says registry raw params.toValue
  | some _, none => False
  | none, some params => params.toValue.truthy = true
  | none, none => True

/-- The parts of an application's own entries can be decoded, and the last
of each kind says what the driver says; parameters that are falsy and not
`undefined` are among them. -/
structure Harmless (query : Json) (encoding : Encoding)
    (params : Option Json) (parts : List String) : Prop where
  decodable : Decodable parts
  query : ∀ raw, lastRead "query." parts = some raw →
    Says registry raw query.toValue
  encoding : ∀ raw, lastRead "encoding." parts = some raw →
    raw = encodingText encoding
  params : SaysParams registry (lastRead "conn_params." parts) params

-- =============================================================== the parts

variable {registry}

theorem afterStart_some {start s raw : String}
    (h : afterStart start s = some raw) : s = start ++ raw := by
  unfold afterStart at h
  split at h
  · next hprefix =>
    obtain ⟨rest, hrest⟩ := List.isPrefixOf_iff_prefix.1 hprefix
    have hraw := (Option.some.inj h).symm
    rw [← hrest, List.drop_left] at hraw
    rw [hraw, ← String.ofList_toList (s := s), ← hrest, String.ofList_append,
      String.ofList_toList]
  · cases h

/-- A part is of one kind. -/
theorem afterStart_kinds {part raw : String} :
    (afterStart "query." part = some raw →
        afterStart "encoding." part = none
          ∧ afterStart "conn_params." part = none)
      ∧ (afterStart "encoding." part = some raw →
        afterStart "conn_params." part = none) := by
  constructor
  · intro h
    rw [afterStart_some h]
    exact ⟨afterStart_other "encoding." rfl rfl (by decide) raw,
      afterStart_other "conn_params." rfl rfl (by decide) raw⟩
  · intro h
    rw [afterStart_some h]
    exact afterStart_other "conn_params." rfl rfl (by decide) raw

/-- What is read with the parts behind what was read before. -/
def readParts (read : WebSocketProtocols) (parts : List String) :
    WebSocketProtocols where
  queryRaw := ((lastRead "query." parts).map decodeURIComponent).getD
    read.queryRaw
  encodingRaw := (lastRead "encoding." parts).or read.encodingRaw
  connParamsRaw :=
    ((lastRead "conn_params." parts).map decodeURIComponent).getD
      read.connParamsRaw

theorem lastRead_cons (start part : String) (parts : List String) :
    lastRead start (part :: parts)
      = (lastRead start parts).or (afterStart start part) := rfl

/-- A part that is decoded, and the ones behind it. -/
theorem readParts_cons {read next : WebSocketProtocols} {part : String}
    (h : readProtocol read part = .ok next) (parts : List String) :
    readParts next parts = readParts read (part :: parts) := by
  unfold readProtocol at h
  unfold readParts
  simp only [lastRead_cons]
  cases hquery : afterStart "query." part with
  | some raw =>
      obtain ⟨hencoding, hparams⟩ := afterStart_kinds.1 hquery
      rw [hquery] at h
      dsimp only at h
      cases hdecode : decodeURIComponent raw with
      | none =>
          rw [hdecode] at h
          cases h
      | some s =>
          rw [hdecode] at h
          obtain rfl := Except.ok.inj h
          rw [hencoding, hparams]
          cases lastRead "query." parts <;> simp [hdecode]
  | none =>
  rw [hquery] at h
  cases hencoding : afterStart "encoding." part with
  | some raw =>
      have hparams := afterStart_kinds.2 hencoding
      rw [hencoding] at h
      obtain rfl := Except.ok.inj h
      rw [hparams]
      cases lastRead "encoding." parts <;> simp
  | none =>
  rw [hencoding] at h
  cases hparams : afterStart "conn_params." part with
  | some raw =>
      rw [hparams] at h
      dsimp only at h
      cases hdecode : decodeURIComponent raw with
      | none =>
          rw [hdecode] at h
          cases h
      | some s =>
          rw [hdecode] at h
          obtain rfl := Except.ok.inj h
          cases lastRead "conn_params." parts <;> simp [hdecode]
  | none =>
      rw [hparams] at h
      obtain rfl := Except.ok.inj h
      simp

/-- A part is read exactly if it can be decoded. -/
theorem readProtocol_ok_iff (read : WebSocketProtocols) (part : String) :
    (∃ next, readProtocol read part = .ok next) ↔ Decodable [part] := by
  unfold Decodable readProtocol
  constructor
  · intro h part' hpart start hstart raw hraw hnone
    obtain ⟨next, h⟩ := h
    rw [List.mem_singleton.1 hpart] at hraw
    rcases List.mem_cons.1 hstart with rfl | hstart
    · rw [hraw] at h
      dsimp only at h
      rw [hnone] at h
      cases h
    · rw [List.mem_singleton.1 hstart] at hraw
      rw [afterStart_some hraw, afterStart_other "query." rfl rfl (by decide),
        afterStart_other "encoding." rfl rfl (by decide),
        afterStart_append] at h
      dsimp only at h
      rw [hnone] at h
      cases h
  · intro h
    have hdecode := h part (List.mem_singleton.2 rfl)
    cases hquery : afterStart "query." part with
    | some raw =>
        obtain ⟨s, hs⟩ := Option.ne_none_iff_exists'.1
          (hdecode "query." (by decide) raw hquery)
        dsimp only
        rw [hs]
        exact ⟨_, rfl⟩
    | none =>
    cases hencoding : afterStart "encoding." part with
    | some raw => exact ⟨_, rfl⟩
    | none =>
    cases hparams : afterStart "conn_params." part with
    | some raw =>
        obtain ⟨s, hs⟩ := Option.ne_none_iff_exists'.1
          (hdecode "conn_params." (by decide) raw hparams)
        dsimp only
        rw [hs]
        exact ⟨_, rfl⟩
    | none => exact ⟨_, rfl⟩

/-- What is read of a list of parts. -/
theorem foldlM_parts (parts : List String) :
    ∀ read next : WebSocketProtocols,
      parts.foldlM readProtocol read = .ok next
        ↔ Decodable parts ∧ next = readParts read parts := by
  induction parts with
  | nil =>
      intro read next
      have hread : readParts read [] = read := rfl
      rw [hread]
      constructor
      · intro h
        refine ⟨?_, (Except.ok.inj h).symm⟩
        intro part hpart
        cases hpart
      · intro h
        rw [h.2]
        rfl
  | cons part parts ih =>
      intro read next
      have hsplit : Decodable (part :: parts)
          ↔ Decodable [part] ∧ Decodable parts := by
        unfold Decodable
        simp only [List.forall_mem_cons, List.not_mem_nil, false_implies,
          implies_true, and_true]
      rw [List.foldlM_cons, hsplit, ← readProtocol_ok_iff read part]
      cases hread : readProtocol read part with
      | error e =>
          constructor
          · intro h
            cases h
          · intro h
            obtain ⟨⟨_, h⟩, -⟩ := h.1
            cases h
      | ok between =>
          rw [← readParts_cons hread]
          show parts.foldlM readProtocol between = .ok next ↔ _
          rw [ih]
          constructor
          · intro h
            exact ⟨⟨⟨_, rfl⟩, h.1⟩, h.2⟩
          · intro h
            exact ⟨h.1.2, h.2⟩

-- ======================================================= the driver's own

/-- The driver's entries are parts as they are. -/
theorem partsOf_driverProtocols (query : Json) (encoding : Encoding)
    (params : Json) :
    (driverProtocols registry query encoding params).flatMap partsOf
      = driverProtocols registry query encoding params := by
  have hencoded : ∀ (start : String) (x : Json),
      (∀ c ∈ start.toList, c ≠ ',' ∧ isSpace c = false) →
      partsOf (start ++ encodeURIComponent (printed registry x))
        = [start ++ encodeURIComponent (printed registry x)] := by
    intro start x hstart
    apply partsOf_plain
    intro c hc
    rw [String.toList_append] at hc
    rcases List.mem_append.1 hc with hc | hc
    · exact hstart c hc
    · exact plain_encodeURIComponent _ c hc
  have hencoding : partsOf ("encoding." ++ encodingText encoding)
      = ["encoding." ++ encodingText encoding] := by
    apply partsOf_plain
    cases encoding with
    | json => exact forall_mem_of_all rfl
    | cbor => exact forall_mem_of_all rfl
    | bare => exact forall_mem_of_all rfl
  have hquery := hencoded "query." query (forall_mem_of_all rfl)
  have hparams := hencoded "conn_params." params (forall_mem_of_all rfl)
  have hlast : partsOf "rivetkit" = ["rivetkit"] :=
    partsOf_plain (forall_mem_of_all rfl)
  unfold driverProtocols
  cases params.toValue.truthy with
  | true =>
      simp only [if_true, List.cons_append, List.nil_append,
        List.flatMap_cons, List.flatMap_nil, hquery, hencoding, hparams,
        hlast]
  | false =>
      simp only [Bool.false_eq_true, if_false, List.cons_append,
        List.nil_append, List.flatMap_cons, List.flatMap_nil, hquery,
        hencoding, hlast]

/-- `undefined` is left out as `null` is. -/
theorem driverHeader_eq (query : Json) (encoding : Encoding)
    (params : Option Json) (protocols : List String) :
    driverHeader registry query encoding params protocols
      = some (joinProtocols
        (driverProtocols registry query encoding (params.getD .null)
          ++ protocols)) := by
  unfold driverHeader
  cases params with
  | some params =>
      show (connProtocols registry.text query.toValue encoding
        params.toValue).map _ = _
      rw [connProtocols_eq]
      rfl
  | none =>
      have hsame : connProtocols registry.text query.toValue encoding
          .undefined = connProtocols registry.text query.toValue encoding
            Json.null.toValue := rfl
      show (connProtocols registry.text query.toValue encoding
        .undefined).map _ = _
      rw [hsame, connProtocols_eq]
      rfl

/-- The application's parts are read behind the driver's. -/
theorem parse_driverHeader (query : Json) (encoding : Encoding)
    (params : Json) (protocols : List String) :
    parseWebSocketProtocols (some (joinProtocols
        (driverProtocols registry query encoding params ++ protocols)))
      = (protocols.flatMap partsOf).foldlM readProtocol
          (driverRead registry query encoding params) := by
  have hown := @partsOf_driverProtocols registry query encoding params
  have hfold := foldlM_readProtocol registry query encoding params
    Subprotocols.none
  rw [show Subprotocols.none.protocols = [] from rfl, List.append_nil]
    at hfold
  have hparts : partsOf (joinProtocols
      (driverProtocols registry query encoding params ++ protocols))
      = driverProtocols registry query encoding params
        ++ protocols.flatMap partsOf := by
    obtain ⟨p, ps, hlist⟩ := List.exists_cons_of_ne_nil
      (driverProtocols_ne_nil registry query encoding params protocols)
    rw [hlist, partsOf_joinProtocols, ← hlist, List.flatMap_append, hown]
  generalize joinProtocols (driverProtocols registry query encoding params
    ++ protocols) = header at hparts
  have hne : header ≠ "" := by
    rintro rfl
    have hlength := congrArg List.length hparts
    unfold driverProtocols at hlength
    simp only [List.length_append, List.length_cons] at hlength
    have hone : (partsOf "").length = 1 := rfl
    omega
  unfold parseWebSocketProtocols
  dsimp only
  rw [if_neg hne]
  show (partsOf header).foldlM readProtocol {} = _
  rw [hparts, List.foldlM_append, hfold, ok_bind]

-- ============================================================== the result

/-- What is read is what the driver was given, exactly if the parts of the
application's own entries are harmless. -/
theorem readsBack_iff {query : Json} {encoding : Encoding}
    {params : Option Json} (hquery : query.Valid)
    (hparams : ∀ x, params = some x → x.Valid) {parts : List String}
    (hdecodable : Decodable parts) :
    ReadsBack registry query encoding params
        (readParts (driverRead registry query encoding (params.getD .null))
          parts)
      ↔ Harmless registry query encoding params parts := by
  have hdecode : ∀ start ∈ ["query.", "conn_params."], ∀ raw,
      lastRead start parts = some raw →
      ∃ s, decodeURIComponent raw = some s := by
    intro start hstart raw hraw
    apply Option.ne_none_iff_exists'.1
    clear hquery hparams
    induction parts with
    | nil => cases hraw
    | cons part parts ih =>
        rw [lastRead_cons] at hraw
        rcases Option.or_eq_some_iff.1 hraw with hraw | ⟨-, hraw⟩
        · exact ih (fun p hp => hdecodable p (List.mem_cons_of_mem _ hp)) hraw
        · exact hdecodable part List.mem_cons_self start hstart raw hraw
  have hqueryIff : (readParts (driverRead registry query encoding
      (params.getD .null)) parts).queryRaw.map (parseJson registry.text)
        = some (.ok query.toValue)
      ↔ ∀ raw, lastRead "query." parts = some raw →
        Says registry raw query.toValue := by
    unfold readParts Says
    dsimp only
    cases hlast : lastRead "query." parts with
    | none =>
        refine iff_of_true ?_ (fun _ h => by cases h)
        show (driverRead registry query encoding _).queryRaw.map _ = _
        unfold driverRead
        rw [Option.map_some, parseJson_printed registry hquery]
    | some raw =>
        obtain ⟨s, hs⟩ := hdecode "query." (by decide) raw hlast
        simp [hs]
  have hencodingIff : (readParts (driverRead registry query encoding
      (params.getD .null)) parts).encodingRaw = some (encodingText encoding)
      ↔ ∀ raw, lastRead "encoding." parts = some raw →
        raw = encodingText encoding := by
    unfold readParts driverRead
    dsimp only
    cases lastRead "encoding." parts with
    | none => simp
    | some raw => simp
  have hparamsIff : (readParts (driverRead registry query encoding
      (params.getD .null)) parts).connParamsRaw.map
        (parseJson registry.text)
        = params.map (fun params => .ok params.toValue)
      ↔ SaysParams registry (lastRead "conn_params." parts) params := by
    unfold readParts driverRead SaysParams Says
    dsimp only
    cases hlast : lastRead "conn_params." parts with
    | none =>
        cases params with
        | none => simp [Json.toValue, Value.truthy]
        | some x =>
            by_cases htruthy : x.toValue.truthy = true
            · simp [htruthy, parseJson_printed registry (hparams x rfl)]
            · simp [htruthy]
    | some raw =>
        obtain ⟨s, hs⟩ := hdecode "conn_params." (by decide) raw hlast
        cases params with
        | none => simp [hs]
        | some x => simp [hs]
  constructor
  · intro h
    exact ⟨hdecodable, hqueryIff.1 h.query, hencodingIff.1 h.encoding,
      hparamsIff.1 h.params⟩
  · intro h
    exact ⟨hqueryIff.2 h.query, hencodingIff.2 h.encoding,
      hparamsIff.2 h.params⟩

/-- The driver's query, encoding and parameters come back if and only if
the parts of the application's own entries are harmless. -/
theorem round_trips_iff {query : Json} {encoding : Encoding}
    {params : Option Json} (hquery : query.Valid)
    (hparams : ∀ x, params = some x → x.Valid) (protocols : List String) :
    RoundTrips registry query encoding params protocols
      ↔ Harmless registry query encoding params
        (protocols.flatMap partsOf) := by
  unfold RoundTrips
  rw [driverHeader_eq]
  constructor
  · intro h
    obtain ⟨header, read, hheader, hread, hback⟩ := h
    obtain rfl := Option.some.inj hheader
    rw [parse_driverHeader, foldlM_parts] at hread
    obtain ⟨hdecodable, rfl⟩ := hread
    exact (readsBack_iff hquery hparams hdecodable).1 hback
  · intro h
    refine ⟨_, _, rfl, ?_, (readsBack_iff hquery hparams h.decodable).2 h⟩
    rw [parse_driverHeader, foldlM_parts]
    exact ⟨h.decodable, rfl⟩

/-- An application's own `chat`. -/
theorem round_trips_iff_chat :
    RoundTrips openRegistry counterQuery .json none ["chat"] := by
  have hquery : counterQuery.Valid := by
    simp [counterQuery, Json.Valid, MembersValid, ElementsValid]
  refine (round_trips_iff hquery (fun _ h => by cases h) ["chat"]).2 ?_
  have hparts : ["chat"].flatMap partsOf = ["chat"] := by decide
  rw [hparts]
  refine ⟨?_, (fun _ h => by cases h), (fun _ h => by cases h), trivial⟩
  intro part hpart start hstart raw hraw
  rw [List.mem_singleton.1 hpart] at hraw
  rcases List.mem_cons.1 hstart with rfl | hstart
  · cases hraw
  · rw [List.mem_singleton.1 hstart] at hraw
    cases hraw

/-- The parameters `false` without an entry of the application's own, and
the encoding with `encoding.cbor` among these. -/
theorem not_round_trips :
    ¬ RoundTrips openRegistry counterQuery .json (some (.bool false)) []
      ∧ ¬ RoundTrips openRegistry counterQuery .json none
        ["encoding.cbor"] := by
  have hread : ∀ (params : Option Json) (protocols : List String) header read,
      driverHeader openRegistry counterQuery .json params protocols
        = some header →
      parseWebSocketProtocols (some header) = .ok read →
      (protocols.flatMap partsOf).foldlM readProtocol
        (driverRead openRegistry counterQuery .json (params.getD .null))
        = .ok read := by
    intro params protocols header read hheader hparse
    rw [driverHeader_eq] at hheader
    obtain rfl := Option.some.inj hheader
    rw [parse_driverHeader] at hparse
    exact hparse
  constructor
  · intro h
    obtain ⟨header, read, hheader, hparse, hback⟩ := h
    have hfold := hread _ _ _ _ hheader hparse
    obtain rfl := Except.ok.inj hfold
    cases hback.params
  · intro h
    obtain ⟨header, read, hheader, hparse, hback⟩ := h
    have hfold := hread _ _ _ _ hheader hparse
    have hparts : ["encoding.cbor"].flatMap partsOf = ["encoding.cbor"] := by
      decide
    rw [hparts] at hfold
    obtain rfl := Except.ok.inj hfold
    exact absurd hback.encoding (by decide)

end RivetKit.Manager
