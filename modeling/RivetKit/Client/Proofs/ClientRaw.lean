/-
Disposing of a client reaches every connection that is made before its loop
ends, and none that is made later (`client_disposes`).

A connection that has not been disposed of is in the set (`Inv.live`), so
the loop, which reaches whatever is in the set at its end, has called it.
A client is in one of three phases (`Phase`): its loop has not begun, runs,
or has ended. A step of others changes no phase (`Aside`), whatever depth
of the stack it happens at.

# Sections

  - steps of others
  - one step, every run
-/
import RivetKit.Client.ClientRaw

namespace RivetKit.Client

open Transition
open Js

namespace ClientRaw

variable {s s' : ClientRaw}

-- ======================================================== steps of others

/-- The loop of a frame. -/
def loopOf : Frame → Option (Loop Nat)
  | .loop l => some l
  | _ => none

/-- The loops of a stack. -/
def loopsOf (stack : List Frame) : List (Loop Nat) := stack.filterMap loopOf

theorem loopsOf_cons (f : Frame) (stack : List Frame) :
    loopsOf (f :: stack) = (loopOf f).toList ++ loopsOf stack := by
  cases f <;> rfl

/-- Where the `dispose` of a client is. -/
inductive Phase (s : ClientRaw) : Prop
  | idle (hdisposed : s.disposed = false) (hloops : loopsOf s.stack = [])
      (hended : s.ended = none) (hnone : s.byClient = [])
  | looping (l : Loop Nat) (hdisposed : s.disposed = true)
      (hloops : loopsOf s.stack = [l]) (hended : s.ended = none)
      (hfollows : Follows s.actorConns l)
      (hcalled : ∀ conn ∈ l.called, s.isDisposed conn = true)
  | ended (n : Nat) (hdisposed : s.disposed = true)
      (hloops : loopsOf s.stack = []) (hended : s.ended = some n)
      (hle : n ≤ s.made)
      (hcovered : ∀ conn < n, s.isDisposed conn = true)
      (hspared : ∀ conn ∈ s.byClient, conn < n)

/-- What holds of a client in every phase. -/
structure Inv (s : ClientRaw) : Prop where
  phase : Phase s
  live : ∀ conn < s.made, s.isDisposed conn = false →
    conn ∈ s.actorConns.elements
  members : ∀ conn ∈ s.actorConns.elements, conn < s.made
  disposed : ∀ conn, s.isDisposed conn = true → conn < s.made
  once : (s.byUser ++ s.byClient).Nodup
  aborting : ∀ conn, .abort conn ∈ s.stack → s.isDisposed conn = true
  promises : ∀ conn ∈ s.byClient, (conn, true) ∈ s.disposePromises
  resolved : s.resolved = true →
    s.ended.isSome = true ∧ ∀ conn ∈ s.byClient, conn ∈ s.finished

theorem isDisposed_iff {conn : Nat} :
    s.isDisposed conn = true ↔ conn ∈ s.byUser ++ s.byClient := by
  simp [isDisposed]

theorem isDisposed_false {conn : Nat} :
    s.isDisposed conn = false ↔ conn ∉ s.byUser ++ s.byClient := by
  rw [← isDisposed_iff, Bool.not_eq_true]

/-- A connection is made. -/
theorem createActorConnProxy_inv (h : Inv s) :
    Inv s.createActorConnProxy where
  phase := by
    cases h.phase with
    | idle hdisposed hloops hended hnone =>
        exact .idle hdisposed hloops hended hnone
    | looping l hdisposed hloops hended hfollows hcalled =>
        exact .looping l hdisposed hloops hended (hfollows.add _) hcalled
    | ended n hdisposed hloops hended hle hcovered hspared =>
        exact .ended n hdisposed hloops hended (Nat.le_succ_of_le hle)
          hcovered hspared
  live conn hlt hnot := by
    apply LiveSet.mem_elements_add.2
    rcases Nat.lt_succ_iff_lt_or_eq.1 hlt with hold | hnew
    · exact Or.inl (h.live conn hold hnot)
    · exact Or.inr hnew
  members conn hmem := by
    rcases LiveSet.mem_elements_add.1 hmem with hold | hnew
    · exact Nat.lt_succ_of_lt (h.members conn hold)
    · exact hnew ▸ Nat.lt_succ_self _
  disposed conn hdisposed := Nat.lt_succ_of_lt (h.disposed conn hdisposed)
  once := h.once
  aborting := h.aborting
  promises := h.promises
  resolved := h.resolved

/-- A connection is disposed of by others, up to `abort`. -/
theorem disposeConn_inv (h : Inv s) {conn : Nat} (hlt : conn < s.made) :
    Inv (s.disposeConn conn false) := by
  unfold disposeConn
  cases hdisposed : s.isDisposed conn with
  | true => exact h
  | false =>
      rw [if_neg Bool.false_ne_true, if_neg Bool.false_ne_true]
      have hnot := isDisposed_false.1 hdisposed
      have hmono : ∀ c, isDisposed { s with
            byUser := s.byUser ++ [conn]
            stack := .abort conn :: s.stack } c = true
          ↔ s.isDisposed c = true ∨ c = conn := by
        intro c
        rw [isDisposed_iff, isDisposed_iff]
        simp only [List.mem_append, List.mem_singleton]
        exact or_right_comm
      constructor
      · cases h.phase with
        | idle hdis hloops hended hnone =>
            exact .idle hdis hloops hended hnone
        | looping l hdis hloops hended hfollows hcalled =>
            exact .looping l hdis hloops hended hfollows
              fun c hc => (hmono c).2 (Or.inl (hcalled c hc))
        | ended n hdis hloops hended hle hcovered hspared =>
            exact .ended n hdis hloops hended hle
              (fun c hc => (hmono c).2 (Or.inl (hcovered c hc))) hspared
      · intro c hc hfree
        refine h.live c hc (Bool.eq_false_iff.2 fun htrue => ?_)
        exact Bool.eq_false_iff.1 hfree ((hmono c).2 (Or.inl htrue))
      · exact h.members
      · intro c hc
        rcases (hmono c).1 hc with hold | rfl
        · exact h.disposed c hold
        · exact hlt
      · show ((s.byUser ++ [conn]) ++ s.byClient).Nodup
        rw [List.append_assoc, List.singleton_append, List.nodup_middle]
        exact List.nodup_cons.2 ⟨hnot, h.once⟩
      · intro c hc
        rcases List.mem_cons.1 hc with heq | hold
        · injection heq with heq
          exact (hmono c).2 (Or.inr heq)
        · exact (hmono c).2 (Or.inl (h.aborting c hold))
      · exact h.promises
      · exact h.resolved

/-- A deletion goes to the loops of a stack. -/
theorem loopsOf_map_delete (conn : Nat) (set : LiveSet Nat)
    (stack : List Frame) :
    loopsOf (stack.map (deleteIn conn set))
      = (loopsOf stack).map (Loop.delete conn set) := by
  induction stack with
  | nil => rfl
  | cons f stack ih =>
      rw [List.map_cons, loopsOf_cons, loopsOf_cons, List.map_append, ih]
      cases f <;> rfl

/-- It leaves the other frames. -/
theorem abort_mem_map_delete {conn c : Nat} {set : LiveSet Nat}
    {stack : List Frame}
    (h : Frame.abort c ∈ stack.map (deleteIn conn set)) :
    .abort c ∈ stack := by
  obtain ⟨f, hf, heq⟩ := List.mem_map.1 h
  cases f with
  | abort d =>
      rw [← heq]
      exact hf
  | close d => cases heq
  | loop l => cases heq

/-- A connection that is being disposed of leaves the set. -/
theorem removeConn_inv (h : Inv s) {conn : Nat}
    (hdisposed : s.isDisposed conn = true) : Inv (s.removeConn conn) where
  phase := by
    have hloops' : ∀ ls, loopsOf s.stack = ls →
        loopsOf (s.removeConn conn).stack
          = ls.map (Loop.delete conn s.actorConns) := by
      intro ls hls
      rw [← hls]
      exact loopsOf_map_delete conn s.actorConns s.stack
    cases h.phase with
    | idle hdis hloops hended hnone =>
        exact .idle hdis (hloops' _ hloops) hended hnone
    | looping l hdis hloops hended hfollows hcalled =>
        refine .looping (l.delete conn s.actorConns) hdis
          (hloops' _ hloops) hended (hfollows.delete conn) ?_
        rw [Loop.called_delete]
        exact hcalled
    | ended n hdis hloops hended hle hcovered hspared =>
        exact .ended n hdis (hloops' _ hloops) hended hle hcovered hspared
  live c hc hfree := by
    refine LiveSet.mem_elements_delete.2 ⟨h.live c hc hfree, ?_⟩
    rintro rfl
    exact Bool.eq_false_iff.1 hfree hdisposed
  members c hc := h.members c (LiveSet.mem_elements_delete.1 hc).1
  disposed := h.disposed
  once := h.once
  aborting c hc := by
    rcases List.mem_cons.1 hc with heq | hold
    · cases heq
    · exact h.aborting c (abort_mem_map_delete hold)
  promises := h.promises
  resolved := h.resolved

/-- A call of others returns. -/
theorem ret_inv (h : Inv s) (hret : s.ret = some s') : Inv s' := by
  unfold ret at hret
  cases hstack : s.stack with
  | nil =>
      rw [hstack] at hret
      cases hret
  | cons f rest =>
      rw [hstack] at hret
      have hpop : ∀ g, f = g → loopOf g = none →
          Inv { s with stack := rest } := by
        rintro g rfl hg
        have hloops : loopsOf s.stack = loopsOf rest := by
          rw [hstack]
          exact List.filterMap_cons_none hg
        refine ⟨?_, h.live, h.members, h.disposed, h.once, ?_, h.promises,
          h.resolved⟩
        · cases h.phase with
          | idle hdis hnil hended hnone =>
              exact .idle hdis (hloops ▸ hnil) hended hnone
          | looping l hdis hl hended hfollows hcalled =>
              exact .looping l hdis (hloops ▸ hl) hended hfollows hcalled
          | ended n hdis hnil hended hle hcovered hspared =>
              exact .ended n hdis (hloops ▸ hnil) hended hle hcovered
                hspared
        · intro c hc
          exact h.aborting c (hstack ▸ List.mem_cons_of_mem _ hc)
      cases f with
      | abort conn =>
          injection hret with hret
          rw [← hret]
          exact removeConn_inv (hpop _ rfl rfl)
            (h.aborting conn (hstack ▸ List.mem_cons_self))
      | close conn =>
          injection hret with hret
          rw [← hret]
          exact hpop _ rfl rfl
      | loop l => cases hret

-- ==================================================== one step, every run

/-- The client's `dispose` is called. -/
theorem dispose_inv (h : Inv s) : Inv s.dispose := by
  unfold dispose
  cases hdisposed : s.disposed with
  | true => exact h
  | false =>
      rw [if_neg Bool.false_ne_true]
      cases h.phase with
      | idle hdis hloops hended hnone =>
          refine ⟨.looping s.actorConns.loop rfl ?_ hended
            (follows_loop s.actorConns) (fun c hc => by cases hc), h.live,
            h.members, h.disposed, h.once, ?_, h.promises, h.resolved⟩
          · rw [loopsOf_cons, hloops]
            rfl
          · intro c hc
            rcases List.mem_cons.1 hc with heq | hold
            · cases heq
            · exact h.aborting c hold
      | looping l hdis => exact absurd hdis (by simp [hdisposed])
      | ended n hdis => exact absurd hdis (by simp [hdisposed])

/-- The loop that runs is the one on top. -/
theorem phase_of_loop (h : Inv s) {l : Loop Nat} {rest : List Frame}
    (hstack : s.stack = .loop l :: rest) :
    s.disposed = true ∧ loopsOf rest = [] ∧ s.ended = none
      ∧ Follows s.actorConns l
      ∧ ∀ conn ∈ l.called, s.isDisposed conn = true := by
  have htop : loopsOf s.stack = l :: loopsOf rest := by
    rw [hstack, loopsOf_cons]
    rfl
  cases h.phase with
  | idle hdis hloops hended hnone =>
      rw [htop] at hloops
      cases hloops
  | looping l' hdis hloops hended hfollows hcalled =>
      rw [htop] at hloops
      injection hloops with hl hrest
      exact ⟨hdis, hrest, hended, hl ▸ hfollows, hl ▸ hcalled⟩
  | ended n hdis hloops hended hle hcovered hspared =>
      rw [htop] at hloops
      cases hloops

/-- The loop calls `dispose` of the next connection. -/
theorem call_inv (h : Inv s) {l : Loop Nat} {rest : List Frame}
    (hstack : s.stack = .loop l :: rest) {conn i : Nat}
    (hnext : s.actorConns.next l.index = some (conn, i)) :
    Inv (disposeConn conn true { s with
      stack := .loop (l.call conn i) :: rest
      disposePromises := s.disposePromises
        ++ [(conn, !s.isDisposed conn)] }) := by
  obtain ⟨hdis, hrest, hended, hfollows, hcalled⟩ := phase_of_loop h hstack
  have hloops : loopsOf (.loop (l.call conn i) :: rest)
      = [l.call conn i] := by
    rw [loopsOf_cons, hrest]
    rfl
  have hmem : conn ∈ s.actorConns.elements := by
    rw [← s.actorConns.passed_rest l.index,
      (LiveSet.next_some hnext).2.2.1]
    exact List.mem_append_right _ List.mem_cons_self
  have haborting : ∀ c, .abort c ∈ Frame.loop (l.call conn i) :: rest →
      s.isDisposed c = true := by
    intro c hc
    rcases List.mem_cons.1 hc with heq | hold
    · cases heq
    · exact h.aborting c (hstack ▸ List.mem_cons_of_mem _ hold)
  unfold disposeConn
  cases hdisposed : s.isDisposed conn with
  | true =>
      have hdone : isDisposed { s with
          stack := .loop (l.call conn i) :: rest
          disposePromises := s.disposePromises ++ [(conn, !true)] } conn
            = true := hdisposed
      rw [if_pos hdone]
      refine ⟨.looping _ hdis hloops hended (hfollows.call hnext) ?_, h.live,
        h.members, h.disposed, h.once, haborting, ?_, h.resolved⟩
      · intro c hc
        rcases List.mem_append.1 hc with hold | hnew
        · exact hcalled c hold
        · rw [List.mem_singleton.1 hnew]
          exact hdisposed
      · intro c hc
        exact List.mem_append_left _ (h.promises c hc)
  | false =>
      have hfree : ¬isDisposed { s with
          stack := .loop (l.call conn i) :: rest
          disposePromises := s.disposePromises ++ [(conn, !false)] } conn
            = true := Bool.eq_false_iff.1 hdisposed
      rw [if_neg hfree, if_pos rfl]
      have hmono : ∀ c, isDisposed { s with
            byClient := s.byClient ++ [conn]
            stack := .abort conn :: .loop (l.call conn i) :: rest
            disposePromises := s.disposePromises ++ [(conn, !false)] } c
              = true
          ↔ s.isDisposed c = true ∨ c = conn := by
        intro c
        rw [isDisposed_iff, isDisposed_iff]
        simp only [List.mem_append, List.mem_singleton]
        exact or_assoc.symm
      constructor
      · refine .looping _ hdis hloops hended (hfollows.call hnext) ?_
        intro c hc
        rcases List.mem_append.1 hc with hold | hnew
        · exact (hmono c).2 (Or.inl (hcalled c hold))
        · exact (hmono c).2 (Or.inr (List.mem_singleton.1 hnew))
      · intro c hc hnot
        refine h.live c hc (Bool.eq_false_iff.2 fun htrue => ?_)
        exact Bool.eq_false_iff.1 hnot ((hmono c).2 (Or.inl htrue))
      · exact h.members
      · intro c hc
        rcases (hmono c).1 hc with hold | rfl
        · exact h.disposed c hold
        · exact h.members c hmem
      · show (s.byUser ++ (s.byClient ++ [conn])).Nodup
        rw [← List.append_assoc]
        exact List.nodup_append.2 ⟨h.once, List.nodup_singleton conn,
          fun x hx y hy hxy => isDisposed_false.1 hdisposed
            (List.mem_singleton.1 hy ▸ hxy ▸ hx)⟩
      · intro c hc
        rcases List.mem_cons.1 hc with heq | hold
        · injection heq with heq
          exact (hmono c).2 (Or.inr heq)
        · exact (hmono c).2 (Or.inl (haborting c hold))
      · intro c hc
        rcases List.mem_append.1 hc with hold | hnew
        · exact List.mem_append_left _ (h.promises c hold)
        · rw [List.mem_singleton.1 hnew]
          exact List.mem_append_right _ (List.mem_singleton.2 rfl)
      · intro hresolved
        have := (h.resolved hresolved).1
        rw [hended] at this
        cases this

/-- The loop ends. Whoever has not been disposed of is in the set, and so
has been called. -/
theorem end_inv (h : Inv s) {l : Loop Nat} {rest : List Frame}
    (hstack : s.stack = .loop l :: rest)
    (hnext : s.actorConns.next l.index = none) :
    Inv { s with stack := rest, ended := some s.made } := by
  obtain ⟨hdis, hrest, hended, hfollows, hcalled⟩ := phase_of_loop h hstack
  have hfair := hfollows.fair hnext
  have hcovered : ∀ conn < s.made, s.isDisposed conn = true := by
    intro conn hlt
    cases hdisposed : s.isDisposed conn with
    | true => rfl
    | false =>
        have hmem := hfair.reached conn (h.live conn hlt hdisposed)
        rw [← hdisposed]
        exact hcalled conn hmem
  refine ⟨.ended s.made hdis hrest rfl (Nat.le_refl _) hcovered ?_, h.live,
    h.members, h.disposed, h.once, ?_, h.promises, ?_⟩
  · intro conn hconn
    exact h.disposed conn
      (isDisposed_iff.2 (List.mem_append_right _ hconn))
  · intro c hc
    exact h.aborting c (hstack ▸ List.mem_cons_of_mem _ hc)
  · intro hresolved
    have := (h.resolved hresolved).1
    rw [hended] at this
    cases this

/-- The `dispose` of a connection ends. -/
theorem finish_inv (h : Inv s) (conn : Nat) :
    Inv { s with finished := s.finished ++ [conn] } :=
  { h with
    phase := by
      cases h.phase with
      | idle hdis hloops hended hnone => exact .idle hdis hloops hended hnone
      | looping l hdis hloops hended hfollows hcalled =>
          exact .looping l hdis hloops hended hfollows hcalled
      | ended n hdis hloops hended hle hcovered hspared =>
          exact .ended n hdis hloops hended hle hcovered hspared
    resolved := fun hresolved =>
      ⟨(h.resolved hresolved).1, fun c hc =>
        List.mem_append_left _ ((h.resolved hresolved).2 c hc)⟩ }

/-- The promise of the client's `dispose` resolves. -/
theorem resolve_inv (h : Inv s) (hended : s.ended.isSome = true)
    (hall : s.disposePromises.all s.settled = true) :
    Inv { s with resolved := true } :=
  { h with
    phase := by
      cases h.phase with
      | idle hdis hloops hended hnone => exact .idle hdis hloops hended hnone
      | looping l hdis hloops hended hfollows hcalled =>
          exact .looping l hdis hloops hended hfollows hcalled
      | ended n hdis hloops hended hle hcovered hspared =>
          exact .ended n hdis hloops hended hle hcovered hspared
    resolved := fun _ => ⟨hended, fun c hc => by
      have hsettled := List.all_eq_true.1 hall _ (h.promises c hc)
      simpa [settled] using hsettled⟩ }

/-- One step. -/
theorem step_inv (h : Inv s) {a : Step} (hstep : s.step a = some s') :
    Inv s' := by
  cases a with
  | connect =>
      simp only [step] at hstep
      obtain ⟨_, heq⟩ := Option.ite_none_right_eq_some.1 hstep
      injection heq with heq
      exact heq ▸ createActorConnProxy_inv h
  | dispose =>
      simp only [step] at hstep
      obtain ⟨_, heq⟩ := Option.ite_none_right_eq_some.1 hstep
      injection heq with heq
      exact heq ▸ dispose_inv h
  | disposeConn conn =>
      simp only [step] at hstep
      obtain ⟨hcan, heq⟩ := Option.ite_none_right_eq_some.1 hstep
      injection heq with heq
      exact heq ▸ disposeConn_inv h hcan.2
  | ret => exact ret_inv h hstep
  | internal =>
      cases hstack : s.stack with
      | nil => simp [step, hstack] at hstep
      | cons f rest =>
          cases f with
          | abort conn => simp [step, hstack] at hstep
          | close conn => simp [step, hstack] at hstep
          | loop l =>
              simp only [step, hstack, Option.some.injEq] at hstep
              rw [← hstep]
              unfold continueLoop
              cases hnext : s.actorConns.next l.index with
              | none => exact end_inv h hstack hnext
              | some next => exact call_inv h hstack hnext
  | finish conn =>
      simp only [step] at hstep
      obtain ⟨_, heq⟩ := Option.ite_none_right_eq_some.1 hstep
      injection heq with heq
      exact heq ▸ finish_inv h conn
  | resolve =>
      simp only [step] at hstep
      obtain ⟨hcan, heq⟩ := Option.ite_none_right_eq_some.1 hstep
      injection heq with heq
      exact heq ▸ resolve_inv h hcan.2.1 hcan.2.2

/-- A client that has been made. -/
theorem inv_init : Inv ({} : ClientRaw) where
  phase := .idle rfl rfl rfl rfl
  live conn hlt _ := absurd hlt (Nat.not_lt_zero conn)
  members conn hmem := by cases hmem
  disposed conn hdisposed := by cases hdisposed
  once := List.nodup_nil
  aborting conn hmem := by cases hmem
  promises conn hmem := by cases hmem
  resolved hresolved := by cases hresolved

/-- Every run. -/
theorem reachable_inv (h : clientSystem.Reachable s) : Inv s :=
  h.invariant (P := Inv) (fun _ hinit => by rw [hinit]; exact inv_init)
    (fun _ _ _ _ hs _ hstep => step_inv hs hstep)

end ClientRaw

open ClientRaw

/-- Once the loop of `dispose` has ended, every connection that had been
made is disposed of, the client disposes of no later one, and none is
disposed of twice. -/
theorem client_disposes {s : ClientRaw} (h : clientSystem.Reachable s) :
    s.Disposes := by
  have hinv := reachable_inv h
  have hphase : ∀ n, s.ended = some n →
      (∀ conn < n, s.isDisposed conn = true)
        ∧ ∀ conn ∈ s.byClient, conn < n := by
    intro n hn
    cases hinv.phase with
    | idle _ _ hended => exact absurd hn (by simp [hended])
    | looping _ _ _ hended => exact absurd hn (by simp [hended])
    | ended m _ _ hended _ hcovered hspared =>
        rw [hended] at hn
        injection hn with hn
        exact hn ▸ ⟨hcovered, hspared⟩
  exact ⟨fun n hn => (hphase n hn).1, fun n hn => (hphase n hn).2,
    hinv.once, hinv.resolved⟩

/-- Two connections; the abort of the first makes a third, and disposes of
the second. -/
def reentrantDispose : List ClientRaw.Step :=
  [.connect, .connect, .dispose, .internal, .connect, .disposeConn 1, .ret,
    .ret, .ret, .ret, .internal, .ret, .ret, .internal, .connect]

/-- The client then has disposed of the first and the third. -/
theorem client_disposes_reentrant :
    ∃ s, clientSystem.run {} reentrantDispose = some s
      ∧ s.ended = some 3 ∧ s.byUser = [1] ∧ s.byClient = [0, 2]
      ∧ s.Disposes := by
  have hrun : (clientSystem.run {} reentrantDispose).isSome = true := by
    decide
  obtain ⟨s, hs⟩ := Option.isSome_iff_exists.1 hrun
  have hfields : (clientSystem.run {} reentrantDispose).map (fun s =>
      (s.ended, s.byUser, s.byClient)) = some (some 3, [1], [0, 2]) := by
    decide
  rw [hs] at hfields
  simp only [Option.map_some, Option.some.injEq, Prod.mk.injEq] at hfields
  exact ⟨s, hs, hfields.1, hfields.2.1, hfields.2.2,
    client_disposes (System.Reachable.run _ (.init rfl) hs)⟩

end RivetKit.Client
