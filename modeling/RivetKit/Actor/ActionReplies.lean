/-
One `ActionRequest` from `processMessage` (actor/protocol/old.ts) over
`executeAction` (actor/instance.ts) and `deadline` (actor/utils.ts) to
its reply, or to the `catch` of `onMessage` (actor/router-endpoints.ts).

# Values

`V` is the type of the values of the program. What the action and
`onBeforeActionResponse` are, and what `cbor.encode` makes of a value, is
in `ActionSetup`. A value that is not a `Promise` but has a `then` is
`Output.thenable`: `executeAction` treats it like any other value, but
the `return` of an async function waits for it.

# What is thrown

Anything can be thrown, also `null`, and what is thrown can throw itself
where it is read. `Raised` has what the two functions that read it get:
`deconstructError` and `stringifyError`.

# History

`returned` is what the action returned in time, in the form that
`onBeforeActionResponse` has given it. No branch reads it.
-/
import RivetKit.Lib.System
import RivetKit.Common.Errors

namespace RivetKit.Actor

open Transition

universe u

-- =================================================================== errors

/-- What `deconstructError` reads of an error. -/
structure ErrorParts (V : Type u) where
  isActorError : Bool
  isPublic : Bool
  code : String
  message : String
  metadata : V

/-- A value that is thrown. -/
inductive Raised (V : Type u)
  /-- Its `__type` cannot be read, though its `typeof` is `"object"`. -/
  | null
  /-- What `deconstructError` reads or what it throws instead, and the same
  of `stringifyError`. -/
  | value (parts : Except (Raised V) (ErrorParts V))
      (stringified : Except (Raised V) String)

/-- `cbor.encode`, and two values that it encodes. -/
structure CborEncoder (V : Type u) where
  encode : V → Except (Raised V) (List UInt8)
  undefined : V
  emptyObject : V
  encode_undefined : ∃ bytes, encode undefined = .ok bytes
  encode_emptyObject : ∃ bytes, encode emptyObject = .ok bytes

namespace Raised

variable {V : Type u} (cbor : CborEncoder V)

/-- An `ActorError` that the code makes, with `public: true`. -/
def publicError (code message : String) : Raised V :=
  .value
    (.ok { isActorError := true, isPublic := true, code, message
           metadata := cbor.undefined })
    (.ok ("Error: " ++ message))

/-- Any other `Error` that the code throws. -/
def plainError (name message : String) : Raised V :=
  .value
    (.ok { isActorError := false, isPublic := false, code := "", message
           metadata := cbor.undefined })
    (.ok (name ++ ": " ++ message))

/-- `ActionNotFound`. -/
def actionNotFound (name : String) : Raised V :=
  publicError cbor "action_not_found"
    ("Action '" ++ name
      ++ "' not found. Validate the action exists on your actor.")

/-- `ActionTimedOut`. -/
def actionTimedOut : Raised V :=
  publicError cbor "action_timed_out"
    ("Action timed out. This can be increased with: "
      ++ "`actor(\x7b options: \x7b action: \x7b timeout: ... \x7d \x7d \x7d)`")

/-- What `deconstructError` makes of the parts. -/
def expose (parts : ErrorParts V) (exposeInternalError : Bool) :
    ErrorParts V :=
  if parts.isActorError && parts.isPublic then parts
  else if exposeInternalError then
    if parts.isActorError then { parts with isPublic := false }
    else
      { parts with
        isPublic := false
        code := Common.internalErrorCode
        metadata := cbor.undefined }
  else
    { parts with
      isPublic := false
      code := Common.internalErrorCode
      message := Common.internalErrorDescription
      metadata := cbor.emptyObject }

/-- `deconstructError`, or what it throws. -/
def deconstructError (error : Raised V) (exposeInternalError : Bool) :
    Except (Raised V) (ErrorParts V) :=
  match error with
  | .null =>
      .error (plainError cbor "TypeError"
        "Cannot read properties of null (reading '__type')")
  | .value (.ok parts) _ => .ok (expose cbor parts exposeInternalError)
  | .value (.error error) _ => .error error

/-- `stringifyError`, or what it throws. -/
def stringifyError (error : Raised V) : Except (Raised V) String :=
  match error with
  | .null => .ok "Unknown error: null"
  | .value _ stringified => stringified

/-- What the `catch` of `executeAction` throws: the error it has logged. -/
def rethrown (error : Raised V) : Raised V :=
  match stringifyError error with
  | .ok _ => error
  | .error error => error

end Raised

-- ============================================================== the request

/-- What a function of the user returns, if it is no `Promise`. -/
inductive Output (V : Type u)
  | value (v : V)
  | thenable

/-- What the call of a function of the user gives. -/
inductive Called (V : Type u)
  | throws (error : Raised V)
  | returns (output : Output V)
  | promise

/-- A request and what it meets. `args` is what `cbor.decode` gave. Without
`action` there is no function of the name. -/
structure ActionSetup (V : Type u) where
  cbor : CborEncoder V
  exposeInternalError : Bool
  ready : Bool
  id : Int
  name : String
  args : Except (Raised V) V
  action : Option (V → Called V)
  onBeforeActionResponse : Option (V → Output V → Called V)

/-- A message to the client. -/
inductive ReplyBody
  | actionResponse (id : Int) (output : List UInt8)
  | error (code message : String) (metadata : List UInt8) (actionId : Int)
  deriving DecidableEq

/-- Where `processMessage` waits: for `deadline`, for the promise of
`onBeforeActionResponse`, for a thenable of the action or of
`onBeforeActionResponse`. -/
inductive ReplyPhase (V : Type u)
  | idle
  | racing
  | processing (output : Output V)
  | adopting (fromAction : Bool)
  | done

/-- A request under way. `late` says that the timeout of the action has
passed, `closed` has the reasons that the socket was closed with. -/
structure ActionReply (V : Type u) where
  phase : ReplyPhase V := .idle
  late : Bool := false
  sent : List ReplyBody := []
  closed : List String := []
  returned : Option V := none

namespace ActionReply

variable {V : Type u} (r : ActionSetup V)

-- ============================================================ processMessage

/-- `processMessage` is rejected, and the `catch` of `onMessage` closes the
socket. -/
def reject (s : ActionReply V) (error : Raised V) : ActionReply V :=
  match error.deconstructError r.cbor r.exposeInternalError with
  | .ok parts => { s with phase := .done, closed := s.closed ++ [parts.code] }
  | .error _ => { s with phase := .done }

/-- The `catch` of `processMessage`. -/
def replyError (s : ActionReply V) (error : Raised V) : ActionReply V :=
  match error.deconstructError r.cbor false with
  | .ok parts =>
      match r.cbor.encode parts.metadata with
      | .ok metadata =>
          { s with
            phase := .done
            sent := s.sent ++
              [.error parts.code parts.message metadata r.id] }
      | .error error => s.reject r error
  | .error error => s.reject r error

/-- `processMessage` behind `await handler.onExecuteAction(…)`. -/
def sendOutput (s : ActionReply V) (output : V) : ActionReply V :=
  match r.cbor.encode output with
  | .ok output =>
      { s with
        phase := .done
        sent := s.sent ++ [.actionResponse r.id output] }
  | .error error => s.replyError r error

-- ============================================================= executeAction

/-- The `catch` of `executeAction`, of an error that is no
`DeadlineError`. -/
def failAction (s : ActionReply V) (error : Raised V) : ActionReply V :=
  s.replyError r error.rethrown

/-- `return output`. -/
def returnOutput (s : ActionReply V) (output : Output V)
    (fromAction : Bool) : ActionReply V :=
  match output with
  | .value v => s.sendOutput r v
  | .thenable => { s with phase := .adopting fromAction }

/-- The `catch` around `onBeforeActionResponse`: the output stays. -/
def hookFailed (s : ActionReply V) (output : Output V)
    (error : Raised V) : ActionReply V :=
  match error.stringifyError with
  | .ok _ => s.returnOutput r output true
  | .error error => s.failAction r error

/-- An output is returned by the action or by `onBeforeActionResponse`. -/
def recordOutput (s : ActionReply V) : Output V → ActionReply V
  | .value v => { s with returned := some v }
  | .thenable => s

/-- `onBeforeActionResponse` has given an output. -/
def processed (s : ActionReply V) (output : Output V) : ActionReply V :=
  (s.recordOutput output).returnOutput r output false

/-- `executeAction` with the output of the action. -/
def respond (s : ActionReply V) (args : V) (output : Output V) :
    ActionReply V :=
  let s := s.recordOutput output
  match r.onBeforeActionResponse with
  | none => s.returnOutput r output true
  | some onBeforeActionResponse =>
      match onBeforeActionResponse args output with
      | .throws error => s.hookFailed r output error
      | .returns output => s.processed r output
      | .promise => { s with phase := .processing output }

/-- `executeAction` up to its first `await`. -/
def callAction (s : ActionReply V) (args : V) : ActionReply V :=
  if r.ready then
    match r.action with
    | none => s.replyError r (.actionNotFound r.cbor r.name)
    | some action =>
        match action args with
        | .throws error => s.failAction r error
        | .returns output => s.respond r args output
        | .promise => { s with phase := .racing }
  else
    s.replyError r (.plainError r.cbor "Invariant Violation"
      "executing action before ready")

/-- `processMessage`. -/
def start (s : ActionReply V) : ActionReply V :=
  match r.args with
  | .ok args => s.callAction r args
  | .error error => s.replyError r error

end ActionReply

-- =================================================================== the runs

/-- What happens to a request. A promise of a function of the user settles
at any time or never. -/
inductive ReplyStep (V : Type u)
  | start
  | actionSettles (result : Except (Raised V) V)
  | timeout
  | hookSettles (result : Except (Raised V) V)
  | thenableSettles (result : Except (Raised V) V)

namespace ActionReply

variable {V : Type u} (r : ActionSetup V)

/-- The promise of the action. Behind `deadline` nothing waits for it. -/
def actionSettles (s : ActionReply V) (result : Except (Raised V) V) :
    Option (ActionReply V) :=
  match s.phase, r.args with
  | .racing, .ok args =>
      match result with
      | .ok v => some (s.respond r args (.value v))
      | .error error => some (s.failAction r error)
  | .done, _ => some s
  | _, _ => none

/-- The timer of `deadline`, or, where it is not set or was cleared, only
the time. -/
def timeout (s : ActionReply V) : Option (ActionReply V) :=
  let s := { s with late := true }
  match s.phase with
  | .idle => none
  | .racing => some (s.replyError r (.actionTimedOut r.cbor))
  | _ => some s

/-- The promise of `onBeforeActionResponse`. -/
def hookSettles (s : ActionReply V) (result : Except (Raised V) V) :
    Option (ActionReply V) :=
  match s.phase with
  | .processing output =>
      match result with
      | .ok v => some (s.processed r (.value v))
      | .error error => some (s.hookFailed r output error)
  | _ => none

/-- The thenable that `executeAction` has returned. -/
def thenableSettles (s : ActionReply V) (result : Except (Raised V) V) :
    Option (ActionReply V) :=
  match s.phase with
  | .adopting fromAction =>
      match result with
      | .ok v =>
          let s := if fromAction && s.late then s
            else { s with returned := some v }
          some (s.sendOutput r v)
      | .error error => some (s.replyError r error)
  | _ => none

end ActionReply

/-- One step. -/
def replyStep {V : Type u} (r : ActionSetup V) (s : ActionReply V) :
    ReplyStep V → Option (ActionReply V)
  | .start =>
      match s.phase with
      | .idle => some (s.start r)
      | _ => none
  | .actionSettles result => s.actionSettles r result
  | .timeout => s.timeout r
  | .hookSettles result => s.hookSettles r result
  | .thenableSettles result => s.thenableSettles r result

/-- The runs of a request. -/
def replySystem {V : Type u} (r : ActionSetup V) :
    System (ActionReply V) (ReplyStep V) where
  init s := s = {}
  step := replyStep r

-- ================================================= against the other model

namespace Raised

/-- What is read of a `Thrown`. -/
def ofThrown (cbor : CborEncoder Js.Value) :
    Common.Thrown → Raised Js.Value
  | .actorError error =>
      .value
        (.ok { isActorError := true, isPublic := error.isPublic
               code := error.code, message := error.message
               metadata := error.metadata })
        (.ok ("Error: " ++ error.message))
  | .other _ message stringified =>
      .value
        (.ok { isActorError := false, isPublic := false, code := ""
               message, metadata := cbor.undefined })
        (.ok stringified)

/-- Of it the two models of `deconstructError` give the same. -/
theorem deconstructError_ofThrown {cbor : CborEncoder Js.Value}
    (hundefined : cbor.undefined = .undefined)
    (hempty : cbor.emptyObject = .obj []) (error : Common.Thrown)
    (exposeInternalError : Bool) :
    (deconstructError cbor (ofThrown cbor error) exposeInternalError).map
        (fun parts => (parts.code, parts.message, parts.metadata))
      = .ok
        ((Common.deconstructError error exposeInternalError).code,
          (Common.deconstructError error exposeInternalError).message,
          (Common.deconstructError error exposeInternalError).metadata) := by
  cases error with
  | actorError error =>
      cases hpublic : error.isPublic <;> cases exposeInternalError <;>
        simp [ofThrown, deconstructError, expose, Common.deconstructError,
          Common.internalError, hpublic, hempty, Except.map]
  | other text message stringified =>
      cases exposeInternalError <;>
        simp [ofThrown, deconstructError, expose, Common.deconstructError,
          Common.internalError, hundefined, hempty, Except.map]

end Raised

end RivetKit.Actor
