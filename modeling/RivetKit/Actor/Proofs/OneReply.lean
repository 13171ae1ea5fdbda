/-
One reply for each `ActionRequest`: an `ActionResponse` with the output
that was returned in time, and an `Error` otherwise.

# What can go wrong

`processMessage` builds the `Error` in its `catch`. What throws there
rejects it, and then nothing is sent and the socket is closed: an error
that `deconstructError` cannot read, `null` above all, and a public one
with metadata that `cbor.encode` does not take. `Answerable` is what is
left. Three more cases concern what is not a `Promise`: a thenable of the
action has no timeout, one of `onBeforeActionResponse` is outside the
`catch` that keeps the output, and so is an error of it that
`stringifyError` cannot read. `Safe` says that none of these is met.

# The invariant

`Inv` is the result with what `returned` is in each of the phases. Every
function that ends the request has a lemma that gives the result from
what holds before: nothing is sent yet.
-/
import RivetKit.Actor.ActionReplies

namespace RivetKit.Actor

open Transition

universe u

variable {V : Type u} {r : ActionSetup V}

-- =========================================================== the condition

/-- The error can be put into a reply. -/
def Answerable (cbor : CborEncoder V) (error : Raised V) : Prop :=
  ∃ parts, error.deconstructError cbor false = .ok parts
    ∧ ∃ metadata, cbor.encode parts.metadata = .ok metadata

/-- A value is encoded, or what `cbor.encode` throws can be answered. -/
def SafeValue (cbor : CborEncoder V) (v : V) : Prop :=
  ∀ error, cbor.encode v = .error error → Answerable cbor error

/-- The same of an output. -/
def SafeOutput (cbor : CborEncoder V) : Output V → Prop
  | .value v => SafeValue cbor v
  | .thenable => True

/-- An error of `onBeforeActionResponse` can be logged, and the output of
the action be sent. -/
def SafeHookError (cbor : CborEncoder V) (output : Output V)
    (error : Raised V) : Prop :=
  (∃ text, error.stringifyError = .ok text) ∧ SafeOutput cbor output

/-- What the call of `onBeforeActionResponse` gives. -/
def SafeRespond (r : ActionSetup V) (args : V) (output : Output V) : Prop :=
  match r.onBeforeActionResponse with
  | none => SafeOutput r.cbor output
  | some onBeforeActionResponse =>
      match onBeforeActionResponse args output with
      | .throws error => SafeHookError r.cbor output error
      | .returns output => SafeOutput r.cbor output
      | .promise => True

/-- What the call of the action gives. -/
def SafeCall (r : ActionSetup V) (args : V) : Prop :=
  match r.action with
  | none => True
  | some action =>
      match action args with
      | .throws error => Answerable r.cbor error.rethrown
      | .returns output => SafeRespond r args output
      | .promise => True

/-- The step meets nothing that cannot be answered, and a thenable of the
action is not waited for when the timeout passes or has passed. -/
def Safe (r : ActionSetup V) (s : ActionReply V) : ReplyStep V → Prop
  | .start =>
      match r.args with
      | .ok args => SafeCall r args
      | .error error => Answerable r.cbor error
  | .actionSettles result =>
      match s.phase, r.args, result with
      | .racing, .ok args, .ok v => SafeRespond r args (.value v)
      | .racing, .ok _, .error error => Answerable r.cbor error.rethrown
      | _, _, _ => True
  | .timeout => ∀ fromAction, s.phase = .adopting fromAction →
      fromAction = false
  | .hookSettles result =>
      match s.phase, result with
      | .processing _, .ok v => SafeValue r.cbor v
      | .processing output, .error error =>
          SafeHookError r.cbor output error
            ∧ (s.late = true → output ≠ .thenable)
      | _, _ => True
  | .thenableSettles result =>
      match s.phase, result with
      | .adopting _, .ok v => SafeValue r.cbor v
      | .adopting fromAction, .error error =>
          fromAction = true ∧ Answerable r.cbor error
      | _, _ => True

-- ============================================================== the result

/-- The reply that the request is to have. -/
def Expected (r : ActionSetup V) (returned : Option V) (reply : ReplyBody) :
    Prop :=
  match returned.map r.cbor.encode with
  | some (.ok output) => reply = .actionResponse r.id output
  | _ => ∃ code message metadata,
      reply = .error code message metadata r.id

/-- Nothing is sent while the request is under way and one reply when it
is done, it is done when the timeout has passed and nothing of
`onBeforeActionResponse` is waited for, and the socket is not closed. -/
structure OneReply (r : ActionSetup V) (s : ActionReply V) : Prop where
  waiting : s.phase ≠ .done → s.sent = []
  replied : s.phase = .done →
    ∃ reply, s.sent = [reply] ∧ Expected r s.returned reply
  prompt : s.late = true → s.phase = .done
    ∨ (∃ output, s.phase = .processing output)
    ∨ s.phase = .adopting false
  unclosed : s.closed = []

/-- What has been returned while the request is under way. -/
def ReturnedIn (s : ActionReply V) : Prop :=
  match s.phase with
  | .idle => s.returned = none
  | .racing => s.returned = none
  | .processing (.value v) => s.returned = some v
  | .processing .thenable => s.returned = none
  | .adopting true => s.returned = none
  | .adopting false => True
  | .done => True

structure ReplyInv (r : ActionSetup V) (s : ActionReply V) : Prop where
  reply : OneReply r s
  returned : ReturnedIn s

/-- Nothing is sent yet. -/
structure Fresh (s : ActionReply V) : Prop where
  sent : s.sent = []
  closed : s.closed = []

/-- Before the end. -/
theorem ReplyInv.fresh {s : ActionReply V} (h : ReplyInv r s)
    (hphase : s.phase ≠ .done) : Fresh s :=
  ⟨h.reply.waiting hphase, h.reply.unclosed⟩

/-- The record of an output sends nothing. -/
theorem Fresh.recordOutput {s : ActionReply V} (h : Fresh s)
    (output : Output V) : Fresh (s.recordOutput output) := by
  cases output
  · exact ⟨h.sent, h.closed⟩
  · exact h

namespace ActionReply

-- ========================================================== the functions

/-- An error that can be answered is. -/
theorem replyError_inv {s : ActionReply V} {error : Raised V}
    (hs : Fresh s) (herror : Answerable r.cbor error)
    (hreturned : ∀ v, s.returned = some v →
      ∃ e, r.cbor.encode v = .error e) :
    ReplyInv r (s.replyError r error) := by
  obtain ⟨parts, hparts, metadata, hmetadata⟩ := herror
  unfold replyError
  simp only [hparts, hmetadata]
  refine ⟨⟨by simp, ?_, by simp, hs.closed⟩, trivial⟩
  intro _
  refine ⟨_, by rw [hs.sent]; rfl, ?_⟩
  unfold Expected
  cases hv : s.returned with
  | none => exact ⟨_, _, _, rfl⟩
  | some v =>
      obtain ⟨e, he⟩ := hreturned v hv
      simp only [Option.map_some, he]
      exact ⟨_, _, _, rfl⟩

/-- The output that is returned is sent. -/
theorem sendOutput_inv {s : ActionReply V} {v : V} (hs : Fresh s)
    (hv : SafeValue r.cbor v) (hreturned : s.returned = some v) :
    ReplyInv r (s.sendOutput r v) := by
  unfold sendOutput
  cases hencode : r.cbor.encode v with
  | ok output =>
      refine ⟨⟨by simp, ?_, by simp, hs.closed⟩, trivial⟩
      intro _
      refine ⟨_, by rw [hs.sent]; rfl, ?_⟩
      unfold Expected
      rw [hreturned, Option.map_some, hencode]
  | error e =>
      dsimp only
      refine replyError_inv hs (hv e hencode) ?_
      intro w hw
      obtain rfl := Option.some.inj (hreturned.symm.trans hw)
      exact ⟨e, hencode⟩

/-- What is recorded of an output. -/
def plain : Output V → Option V
  | .value v => some v
  | .thenable => none

/-- The output of the action is returned. -/
theorem returnOutput_inv {s : ActionReply V} {output : Output V}
    (hs : Fresh s) (hlate : s.late = true → output ≠ .thenable)
    (houtput : SafeOutput r.cbor output)
    (hreturned : s.returned = plain output) :
    ReplyInv r (s.returnOutput r output true) := by
  cases output with
  | value v => exact sendOutput_inv hs houtput hreturned
  | thenable =>
      refine ⟨⟨fun _ => hs.sent, by simp [returnOutput], ?_, hs.closed⟩,
        hreturned⟩
      intro h
      exact absurd rfl (hlate h)

/-- `onBeforeActionResponse` fails: the output of the action is
returned. -/
theorem hookFailed_inv {s : ActionReply V} {output : Output V}
    {error : Raised V} (hs : Fresh s)
    (hlate : s.late = true → output ≠ .thenable)
    (herror : SafeHookError r.cbor output error)
    (hreturned : s.returned = plain output) :
    ReplyInv r (s.hookFailed r output error) := by
  obtain ⟨⟨text, htext⟩, houtput⟩ := herror
  unfold hookFailed
  rw [htext]
  exact returnOutput_inv hs hlate houtput hreturned

/-- It gives an output. -/
theorem processed_inv {s : ActionReply V} {output : Output V}
    (hs : Fresh s) (houtput : SafeOutput r.cbor output) :
    ReplyInv r (s.processed r output) := by
  cases output with
  | value v => exact sendOutput_inv (hs.recordOutput (.value v)) houtput rfl
  | thenable =>
      exact ⟨⟨fun _ => hs.sent, by simp [processed, returnOutput],
        fun _ => .inr (.inr rfl), hs.closed⟩, trivial⟩

/-- `executeAction` with the output of the action, before the timeout. -/
theorem respond_inv {s : ActionReply V} {args : V} {output : Output V}
    (hs : Fresh s) (hlate : s.late = false) (hnone : s.returned = none)
    (hrespond : SafeRespond r args output) :
    ReplyInv r (s.respond r args output) := by
  unfold respond
  unfold SafeRespond at hrespond
  -- the state in which `onBeforeActionResponse` is called
  generalize hnext : s.recordOutput output = next
  have hfresh : Fresh next := hnext ▸ hs.recordOutput output
  have hlate : next.late = false := by
    cases output <;> exact hnext ▸ hlate
  have hreturned : next.returned = plain output := by
    cases output with
    | value v => exact hnext ▸ rfl
    | thenable => exact hnext ▸ hnone
  dsimp only
  have hnot : next.late = true → output ≠ .thenable := by
    intro h
    rw [hlate] at h
    cases h
  cases hhook : r.onBeforeActionResponse with
  | none =>
      rw [hhook] at hrespond
      exact returnOutput_inv hfresh hnot hrespond hreturned
  | some hook =>
      rw [hhook] at hrespond
      dsimp only at hrespond ⊢
      cases hcalled : hook args output with
      | throws error =>
          rw [hcalled] at hrespond
          exact hookFailed_inv hfresh hnot hrespond hreturned
      | returns output' =>
          rw [hcalled] at hrespond
          exact processed_inv hfresh hrespond
      | promise =>
          refine ⟨⟨fun _ => hfresh.sent, by simp, ?_, hfresh.closed⟩, ?_⟩
          · exact fun _ => .inr (.inl ⟨output, rfl⟩)
          · cases output <;> exact hreturned

/-- Nothing was returned: an error is the reply. -/
theorem replyError_none {s : ActionReply V} {error : Raised V}
    (hs : Fresh s) (hnone : s.returned = none)
    (herror : Answerable r.cbor error) :
    ReplyInv r (s.replyError r error) := by
  refine replyError_inv hs herror ?_
  intro v hv
  rw [hnone] at hv
  cases hv

/-- The errors that the code makes can be answered. -/
theorem answerable_publicError (cbor : CborEncoder V)
    (code message : String) :
    Answerable cbor (.publicError cbor code message) :=
  ⟨_, rfl, cbor.encode_undefined⟩

theorem answerable_plainError (cbor : CborEncoder V)
    (name message : String) :
    Answerable cbor (.plainError cbor name message) :=
  ⟨_, rfl, cbor.encode_emptyObject⟩

theorem start_inv {s : ActionReply V} (hs : Fresh s) (hlate : s.late = false)
    (hnone : s.returned = none) (hsafe : Safe r s .start) :
    ReplyInv r (s.start r) := by
  unfold start
  unfold Safe at hsafe
  cases hargs : r.args with
  | error error =>
      rw [hargs] at hsafe
      exact replyError_none hs hnone hsafe
  | ok args =>
      rw [hargs] at hsafe
      have hcall : SafeCall r args := hsafe
      unfold SafeCall at hcall
      dsimp only
      unfold callAction
      by_cases hready : r.ready = true
      · rw [if_pos hready]
        cases haction : r.action with
        | none =>
            exact replyError_none hs hnone (answerable_publicError _ _ _)
        | some action =>
            rw [haction] at hcall
            dsimp only at hcall ⊢
            cases hcalled : action args with
            | throws error =>
                rw [hcalled] at hcall
                exact replyError_none hs hnone hcall
            | returns output =>
                rw [hcalled] at hcall
                exact respond_inv hs hlate hnone hcall
            | promise =>
                refine ⟨⟨fun _ => hs.sent, by simp, ?_, hs.closed⟩, hnone⟩
                intro h
                have h : s.late = true := h
                rw [hlate] at h
                cases h
      · rw [if_neg hready]
        exact replyError_none hs hnone (answerable_plainError _ _ _)

end ActionReply

-- ================================================================= the steps

/-- Before the end the timeout has passed only while something of
`onBeforeActionResponse` is waited for. -/
theorem ReplyInv.notLate {s : ActionReply V} (h : ReplyInv r s)
    (hphase : s.phase = .idle ∨ s.phase = .racing
      ∨ s.phase = .adopting true) : s.late = false := by
  cases hlate : s.late with
  | false => rfl
  | true =>
      have hprompt := h.reply.prompt hlate
      rcases hphase with hphase | hphase | hphase <;>
        · rw [hphase] at hprompt
          simp at hprompt

/-- The action settles. -/
theorem ReplyInv.actionSettles {s s' : ActionReply V}
    {result : Except (Raised V) V} (h : ReplyInv r s)
    (hsafe : Safe r s (.actionSettles result))
    (hs : s.actionSettles r result = some s') : ReplyInv r s' := by
  unfold ActionReply.actionSettles at hs
  unfold Safe at hsafe
  split at hs
  · next args hphase hargs =>
    have hfresh := h.fresh (by rw [hphase]; simp)
    have hlate := h.notLate (.inr (.inl hphase))
    have hnone : s.returned = none := by
      have hreturned := h.returned
      unfold ReturnedIn at hreturned
      rw [hphase] at hreturned
      exact hreturned
    rw [hphase, hargs] at hsafe
    cases result with
    | ok v =>
        obtain rfl := Option.some.inj hs
        exact ActionReply.respond_inv hfresh hlate hnone hsafe
    | error error =>
        obtain rfl := Option.some.inj hs
        exact ActionReply.replyError_none hfresh hnone hsafe
  · obtain rfl := Option.some.inj hs
    exact h
  · cases hs

/-- The timeout passes. -/
theorem ReplyInv.timeout {s s' : ActionReply V} (h : ReplyInv r s)
    (hsafe : Safe r s .timeout) (hs : s.timeout r = some s') :
    ReplyInv r s' := by
  have hsafe : ∀ fromAction, s.phase = .adopting fromAction →
    fromAction = false := hsafe
  unfold ActionReply.timeout at hs
  dsimp only at hs
  split at hs
  · cases hs
  · next hphase =>
    obtain rfl := Option.some.inj hs
    have hfresh := h.fresh (by rw [hphase]; simp)
    have hreturned := h.returned
    unfold ReturnedIn at hreturned
    rw [hphase] at hreturned
    exact ActionReply.replyError_none ⟨hfresh.sent, hfresh.closed⟩
      hreturned (ActionReply.answerable_publicError _ _ _)
  · next hidle hracing =>
    obtain rfl := Option.some.inj hs
    refine ⟨⟨h.reply.waiting, h.reply.replied, ?_, h.reply.unclosed⟩,
      h.returned⟩
    intro _
    dsimp only
    cases hphase : s.phase with
    | idle => exact absurd hphase hidle
    | racing => exact absurd hphase hracing
    | processing output => exact .inr (.inl ⟨output, rfl⟩)
    | adopting fromAction =>
        rw [hsafe fromAction hphase]
        exact .inr (.inr rfl)
    | done => exact .inl rfl

/-- `onBeforeActionResponse` settles. -/
theorem ReplyInv.hookSettles {s s' : ActionReply V}
    {result : Except (Raised V) V} (h : ReplyInv r s)
    (hsafe : Safe r s (.hookSettles result))
    (hs : s.hookSettles r result = some s') : ReplyInv r s' := by
  unfold ActionReply.hookSettles at hs
  unfold Safe at hsafe
  split at hs
  · next output hphase =>
    have hfresh := h.fresh (by rw [hphase]; simp)
    have hreturned : s.returned = ActionReply.plain output := by
      have hreturned := h.returned
      unfold ReturnedIn at hreturned
      rw [hphase] at hreturned
      cases output <;> exact hreturned
    rw [hphase] at hsafe
    cases result with
    | ok v =>
        obtain rfl := Option.some.inj hs
        exact ActionReply.processed_inv hfresh hsafe
    | error error =>
        obtain rfl := Option.some.inj hs
        exact ActionReply.hookFailed_inv hfresh hsafe.2 hsafe.1 hreturned
  · cases hs

/-- A thenable settles. -/
theorem ReplyInv.thenableSettles {s s' : ActionReply V}
    {result : Except (Raised V) V} (h : ReplyInv r s)
    (hsafe : Safe r s (.thenableSettles result))
    (hs : s.thenableSettles r result = some s') : ReplyInv r s' := by
  unfold ActionReply.thenableSettles at hs
  unfold Safe at hsafe
  split at hs
  · next fromAction hphase =>
    have hfresh := h.fresh (by rw [hphase]; simp)
    rw [hphase] at hsafe
    cases result with
    | ok v =>
        obtain rfl := Option.some.inj hs
        have hlate : (fromAction && s.late) = false := by
          cases fromAction with
          | false => rfl
          | true => exact h.notLate (.inr (.inr hphase))
        rw [hlate]
        exact ActionReply.sendOutput_inv ⟨hfresh.sent, hfresh.closed⟩
          hsafe rfl
    | error error =>
        obtain rfl := Option.some.inj hs
        obtain ⟨rfl, herror⟩ := hsafe
        have hreturned := h.returned
        unfold ReturnedIn at hreturned
        rw [hphase] at hreturned
        exact ActionReply.replyError_none hfresh hreturned herror
  · cases hs

/-- What a step keeps. -/
theorem ReplyInv.step {s s' : ActionReply V} {a : ReplyStep V}
    (h : ReplyInv r s) (hsafe : Safe r s a)
    (hs : (replySystem r).step s a = some s') : ReplyInv r s' := by
  cases a with
  | start =>
      unfold replySystem replyStep at hs
      dsimp only at hs
      split at hs
      · next hphase =>
        obtain rfl := Option.some.inj hs
        have hreturned := h.returned
        unfold ReturnedIn at hreturned
        rw [hphase] at hreturned
        exact ActionReply.start_inv (h.fresh (by rw [hphase]; simp))
          (h.notLate (.inl hphase)) hreturned hsafe
      · cases hs
  | actionSettles result => exact h.actionSettles hsafe hs
  | timeout => exact h.timeout hsafe hs
  | hookSettles result => exact h.hookSettles hsafe hs
  | thenableSettles result => exact h.thenableSettles hsafe hs

/-- A request that was not started. -/
theorem replyInv_init : ReplyInv r {} :=
  ⟨⟨fun _ => rfl, by simp, by simp, rfl⟩, rfl⟩

/-- What a run keeps. -/
theorem replyInv_of_reaches {s : ActionReply V}
    (h : (replySystem r).Reaches (Safe r) s) : ReplyInv r s := by
  refine h.invariant ?_ ?_
  · intro s hs
    have hs : s = {} := hs
    rw [hs]
    exact replyInv_init
  · intro s a s' _ hinv hsafe hs
    exact hinv.step hsafe hs

/-- Values with one that is a function, `none`, which `cbor.encode` does not
take. -/
def encodeSample : Option Js.Value →
    Except (Raised (Option Js.Value)) (List UInt8)
  | some .undefined => .ok [0xf7]
  | some (.obj []) => .ok [0xb9, 0, 0]
  | some (.bool true) => .ok [0xf5]
  | _ =>
      .error (.value
        (.ok { isActorError := false, isPublic := false, code := ""
               message := "Unknown type: function"
               metadata := some .undefined })
        (.ok "Error: Unknown type: function"))

/-- A request for an action that is called with `null`. -/
def sampleRequest (called : Called (Option Js.Value)) :
    ActionSetup (Option Js.Value) where
  cbor := {
    encode := encodeSample
    undefined := some .undefined
    emptyObject := some (.obj [])
    encode_undefined := ⟨_, rfl⟩
    encode_emptyObject := ⟨_, rfl⟩ }
  exposeInternalError := false
  ready := true
  id := 1
  name := "run"
  args := .ok (some .null)
  action := some fun _ => called
  onBeforeActionResponse := none

/-- A request whose catch throws is not replied to. -/
private theorem not_replied {r : ActionSetup (Option Js.Value)}
    (hrun : (replySystem r).step {} .start
      = some { phase := .done, closed := ["internal_error"] }) :
    ∃ s, (replySystem r).Reachable s ∧ s.phase = .done ∧ s.sent = []
      ∧ s.closed = ["internal_error"] ∧ ¬ OneReply r s := by
  refine ⟨_, .step .start (.init rfl) trivial hrun, rfl, rfl, rfl, ?_⟩
  intro h
  cases h.unclosed

end RivetKit.Actor
