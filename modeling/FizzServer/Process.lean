import FizzServer.Acceptor
import FizzServer.Connection.Done
import FizzServer.Connection.Protocol

/-! The server process: `FizzServerAcceptor` and the handler of its live
connection, run together. The event loop delivers connections and accept errors
to the acceptor and the transports' callbacks to the live handler; the handler's
`finish()` calls `acceptor_->done()`, which releases it. The acceptor's own model
takes `done()` as a step the live handler may take at any time; here the step
comes from the handler's code, and every transition the acceptor takes in the
process is one of its model. -/
namespace FizzServer.Process
open Connection

structure State where
  acceptor : Acceptor.FizzServerAcceptor
  handler : Option World

def State.init (loop http : Bool) : State := ⟨.init loop http,none⟩

/-- What the event loop delivers: a connection or an accept error to the
listening socket, or a callback to the live handler through transports that
behave as `env`, nested up to `fuel` deep. -/
inductive Delivery where
  | connectionAccepted (native : Native)
  | acceptError
  | callback (env : Env) (fuel : Nat) (e : Event)

def handlerMode (a : Acceptor.FizzServerAcceptor) : Mode := if a.http then .http else .plain

/-- One delivery, `none` where the process stops: at a fault of the handler, or
through a null `socket_`. A callback in which the handler calls `done()` gives
the acceptor its `done()` step, which releases the handler. The step is taken
when the callback returns: after `acceptor_->done()` the handler's code only
releases the moved-out transport, and a callback that reaches the deleted
handler stops the process (`Fault.deletedHandler`). -/
def step (p : State) : Delivery → Option State
  | .connectionAccepted native => do
    let a ← Acceptor.connectionAccepted p.acceptor
    pure ⟨a,some (World.init (Handler.init native))⟩
  | .acceptError => some ⟨Acceptor.acceptError p.acceptor,p.handler⟩
  | .callback env fuel e => do
    let w ← p.handler
    match dispatch (handlerMode p.acceptor) env fuel e w with
    | .error _ _ => none
    | .ok () w' =>
      if doneCount w' = 0 then pure ⟨p.acceptor,some w'⟩
      else do
        let a ← Acceptor.done p.acceptor
        pure ⟨a,none⟩

/-- What the event loop delivers when, until `terminateLoopSoon()` stops it: the
listening socket reports a connection only while accepting and an error only
while it exists, and callbacks reach only a live handler. -/
def Enabled (p : State) : Delivery → Prop
  | .connectionAccepted _ => p.acceptor.terminating = false ∧ p.acceptor.socket = some true
  | .acceptError => p.acceptor.terminating = false ∧ p.acceptor.socket.isSome
  | .callback _ _ _ => p.acceptor.terminating = false ∧ p.handler.isSome

inductive Reachable (loop http : Bool) : State → Prop
  | init : Reachable loop http (.init loop http)
  | step {p p' : State} {d : Delivery} : Reachable loop http p → Enabled p d → step p d = some p' →
      Reachable loop http p'

structure Live (p : State) : Prop where
  held : p.handler.isSome = p.acceptor.cb.isSome
  fresh : ∀ w, p.handler = some w → Exclusive w.handler ∧ doneCount w = 0

theorem dispatch_doneOnce {mode : Mode} {env : Env} {fuel : Nat} {e : Event} {w w' : World}
    (fresh : Exclusive w.handler ∧ doneCount w = 0) (ran : dispatch mode env fuel e w = .ok () w') :
    Exclusive w'.handler ∧ DoneOnce w' := by
  have kept : Exclusive (final (dispatch mode env fuel e w)).handler ∧ DoneOnce (final (dispatch mode env fuel e w)) :=
    (dispatch_keeps_doneOnce fuel e).final ⟨fresh.1,fun _ => fresh.2,by simp [fresh.2]⟩
  rwa [ran] at kept

section Step
variable {p p' : State}

theorem step_simulates {d : Delivery} (live : Live p) (enabled : Enabled p d) (stepped : step p d = some p') :
    (p'.acceptor = p.acceptor ∨
      ∃ e, Acceptor.Enabled p.acceptor e ∧ Acceptor.step p.acceptor e = some p'.acceptor) ∧ Live p' := by
  cases d with
  | connectionAccepted native =>
    obtain ⟨a,accepted,made⟩ := Option.bind_eq_some.mp stepped
    cases made
    refine ⟨.inr ⟨.connectionAccepted,enabled,accepted⟩,⟨?_,?_⟩⟩
    · have stepped' : Acceptor.step p.acceptor .connectionAccepted = some a := accepted
      rcases Acceptor.step_cases stepped' with ⟨-,-,rfl⟩ | ⟨nope,-⟩ | ⟨nope,-⟩ <;> first | rfl | cases nope
    · rintro w ⟨⟩
      exact ⟨.inr rfl,rfl⟩
  | acceptError =>
    cases stepped
    refine ⟨.inr ⟨.acceptError,enabled,rfl⟩,⟨?_,live.fresh⟩⟩
    rw [live.held]
    unfold Acceptor.acceptError
    split <;> rfl
  | callback env fuel e =>
    obtain ⟨w,live',stepped⟩ := Option.bind_eq_some.mp stepped
    have fresh := live.fresh w live'
    split at stepped
    · cases stepped
    · rename_i w' ran
      have once := dispatch_doneOnce fresh ran
      split at stepped
      · cases stepped
        exact ⟨.inl rfl,⟨by rw [← live.held,live']; rfl,fun _ now => by cases now; exact ⟨once.1,‹_›⟩⟩⟩
      · obtain ⟨a,released,made⟩ := Option.bind_eq_some.mp stepped
        cases made
        have holding : p.acceptor.cb.isSome := by rw [← live.held,live']; rfl
        refine ⟨.inr ⟨.done,⟨enabled.1,holding⟩,released⟩,⟨?_,nofun⟩⟩
        have stepped' : Acceptor.step p.acceptor .done = some a := released
        rcases Acceptor.step_cases stepped' with ⟨nope,-⟩ | ⟨nope,-⟩ | ⟨-,-,rfl⟩ <;> first | rfl | cases nope

theorem fault_of_step_none {d : Delivery} (inv : Acceptor.Inv p.acceptor) (enabled : Enabled p d)
    (stopped : step p d = none) :
    ∃ env fuel e w f w', d = .callback env fuel e ∧ p.handler = some w ∧
      dispatch (handlerMode p.acceptor) env fuel e w = .error f w' := by
  cases d with
  | connectionAccepted native =>
    simp [step,Acceptor.connectionAccepted,enabled.2] at stopped
  | acceptError => cases stopped
  | callback env fuel e =>
    obtain ⟨w,live⟩ := Option.isSome_iff_exists.mp enabled.2
    simp only [step,live,Option.bind_eq_bind,Option.some_bind] at stopped
    split at stopped
    · exact ⟨env,fuel,e,w,_,_,rfl,live,‹_›⟩
    · split at stopped
      · cases stopped
      · simp only [Acceptor.done] at stopped
        split at stopped
        · rename_i looping
          obtain ⟨socket,present⟩ := Option.isSome_iff_exists.mp (inv.listening looping)
          simp [present] at stopped
        · cases stopped

end Step

theorem reachable_live {loop http : Bool} {p : State} (reachable : Reachable loop http p) :
    Acceptor.Reachable loop http p.acceptor ∧ Live p := by
  induction reachable with
  | init => exact ⟨.init,rfl,nofun⟩
  | step _ enabled stepped ih =>
    obtain ⟨moved,live⟩ := step_simulates ih.2 enabled stepped
    rcases moved with same | ⟨e,enabled',stepped'⟩
    · exact ⟨same ▸ ih.1,live⟩
    · exact ⟨.step ih.1 enabled' stepped',live⟩

/-- The process over any run: the acceptor moves only by steps of its own
model, each enabled there, so it is a reachable acceptor (and every property of
those holds of it); a handler is live exactly while the acceptor holds one, and
has not called `done()`; and the process stops only at a fault of the handler. -/
theorem process_refines_acceptor {loop http : Bool} {p : State} (reachable : Reachable loop http p) :
    Acceptor.Reachable loop http p.acceptor ∧ p.handler.isSome = p.acceptor.cb.isSome ∧
    (∀ w, p.handler = some w → doneCount w = 0) ∧
    ∀ d, Enabled p d → step p d = none →
      ∃ env fuel e w f w', d = .callback env fuel e ∧ p.handler = some w ∧
        dispatch (handlerMode p.acceptor) env fuel e w = .error f w' := by
  have both := reachable_live reachable
  exact ⟨both.1,both.2.held,fun w live => (both.2.fresh w live).2,
    fun _ enabled stopped => fault_of_step_none (Acceptor.reachable_inv both.1) enabled stopped⟩

theorem first_connection_reachable : Reachable true false ⟨{ Acceptor.FizzServerAcceptor.init true false with
    socket := some false, cb := some 0, inputHandler := some 0, accepted := 1 },some (World.init (Handler.init ⟨3⟩))⟩ :=
  @Reachable.step true false _ _ (.connectionAccepted ⟨3⟩) .init ⟨rfl,rfl⟩ rfl

theorem process_refines_acceptor_served :
    let p : State := ⟨{ Acceptor.FizzServerAcceptor.init true false with accepted := 1, completed := 1 },none⟩
    Reachable true false p ∧ Acceptor.Reachable true false p.acceptor ∧ p.handler.isSome = p.acceptor.cb.isSome ∧
    (∀ w, p.handler = some w → doneCount w = 0) ∧
    ∀ d, Enabled p d → step p d = none →
      ∃ env fuel e w f w', d = .callback env fuel e ∧ p.handler = some w ∧
        dispatch (handlerMode p.acceptor) env fuel e w = .error f w' :=
  have served : Reachable true false
      ⟨{ Acceptor.FizzServerAcceptor.init true false with accepted := 1, completed := 1 },none⟩ :=
    @Reachable.step true false _ _ (.callback (.quiet default default) 1 .readEOF) first_connection_reachable
      ⟨rfl,rfl⟩ rfl
  ⟨served,process_refines_acceptor served⟩

/-- A connection's end: a terminal callback on the live handler with a slot
populated, where only re-entrant `finish()` calls are delivered before `done()`
and nothing from the release, makes the handler call `done()`; the acceptor
releases it and, under `-loop`, accepts again, and without `-loop` releases the
listening socket. -/
theorem terminal_releases {loop http : Bool} {p : State} (reachable : Reachable loop http p) {w : World}
    (live : p.handler = some w) (populated : ¬ Closed w) {env : Env} (reenters : ReentersFinish env)
    (quiet : ReleasesQuietly env) (n : Nat) {e : Event} (terminal : e.terminal) :
    ∃ p', step p (.callback env (n + 1) e) = some p' ∧ p'.handler = none ∧ p'.acceptor.cb = none ∧
      p'.acceptor.socket = if loop then some true else none := by
  obtain ⟨accepting,held⟩ := reachable_live reachable
  have ends : wp (dispatch (handlerMode p.acceptor) env (n + 1) e) (fun _ => Settled 1) (fun _ => False) w :=
    terminal_done reenters quiet n e terminal populated (held.fresh w live).2
  obtain ⟨⟨⟩,w',ran,settled⟩ := wp_returns ends
  have called : doneCount w' ≠ 0 := by rw [settled.2]; omega
  let after : Acceptor.FizzServerAcceptor := { p.acceptor with
    cb := none, inputHandler := none, completed := p.acceptor.completed + 1,
    socket := if p.acceptor.loop then some true else none }
  have released : Acceptor.done p.acceptor = some after := by
    cases looping : p.acceptor.loop
    · simp [Acceptor.done,after,looping]
    · obtain ⟨socket,present⟩ := Option.isSome_iff_exists.mp ((Acceptor.reachable_inv accepting).listening looping)
      simp [Acceptor.done,after,looping,present]
  refine ⟨⟨after,none⟩,?_,rfl,rfl,?_⟩
  · simp only [step,live,Option.bind_eq_bind,Option.some_bind,ran,called,if_false,released,Option.pure_def]
  · simp only [after,(Acceptor.reachable_config accepting).1]

theorem terminal_releases_readEOF :
    let p : State := ⟨{ Acceptor.FizzServerAcceptor.init true false with
      socket := some false, cb := some 0, inputHandler := some 0, accepted := 1 },some (World.init (Handler.init ⟨3⟩))⟩
    Reachable true false p ∧ p.handler = some (World.init (Handler.init ⟨3⟩)) ∧
    ¬ Closed (World.init (Handler.init ⟨3⟩)) ∧ ReentersFinish (.quiet default default) ∧
    ReleasesQuietly (.quiet default default) ∧ Event.readEOF.terminal ∧
    ∃ p', step p (.callback (.quiet default default) (0 + 1) .readEOF) = some p' ∧ p'.handler = none ∧
      p'.acceptor.cb = none ∧ p'.acceptor.socket = if true then some true else none :=
  have populated : ¬ Closed (World.init (Handler.init ⟨3⟩)) := fun closed => nomatch closed.1
  have reenters : ReentersFinish (.quiet default default) := fun _ _ _ _ member => nomatch member
  have quiet : ReleasesQuietly (.quiet default default) := fun _ => rfl
  ⟨first_connection_reachable,rfl,populated,reenters,quiet,rfl,
    terminal_releases first_connection_reachable rfl populated reenters quiet 0 rfl⟩

end FizzServer.Process
