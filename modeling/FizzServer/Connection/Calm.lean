import FizzServer.Connection.Server

/-! Predicates of the world that every member of the handler keeps, however the
transports call back into it. Apart from `finish()` and the fallback, the
members only record effects other than `done`, write key-log lines only under
the connection's client random, and change fields without filling a transport
slot: a predicate that survives those (`Calm`) is kept by every callback,
nested ones included, once `finish()` and the fallback keep it
(`keeps_dispatch`). -/
namespace FizzServer.Connection
open FizzExampleServer

def Shrinks (h h' : Handler) : Prop :=
  (h'.transport.isSome → h.transport.isSome) ∧ (h'.sslSocket.isSome → h.sslSocket.isSome)

theorem Shrinks.transport_none {h h' : Handler} (shrinks : Shrinks h h') (empty : h.transport = none) :
    h'.transport = none := by
  cases present : h'.transport <;> simp_all [Shrinks]

theorem Shrinks.sslSocket_none {h h' : Handler} (shrinks : Shrinks h h') (empty : h.sslSocket = none) :
    h'.sslSocket = none := by
  cases present : h'.sslSocket <;> simp_all [Shrinks]

theorem Shrinks.same {h h' : Handler} (transport : h'.transport = h.transport)
    (sslSocket : h'.sslSocket = h.sslSocket) : Shrinks h h' := ⟨transport ▸ id,sslSocket ▸ id⟩

/-- The effects the members record outside `finish()`: any but `done`, and
key-log lines only under `clientRandom`. -/
def Effect.quiet (clientRandom : Bytes) : Effect → Prop
  | .done => False
  | .keyLog clientRandom' _ _ => clientRandom' = clientRandom
  | _ => True

theorem Effect.ne_done_of_quiet {clientRandom : Bytes} {e : Effect} (quiet : e.quiet clientRandom) : e ≠ .done := by
  rintro rfl
  exact quiet

/-- `P` survives every quiet effect, and every update that fills no slot. -/
structure Calm (clientRandom : Bytes) (P : World → Prop) : Prop where
  record : ∀ w e, e.quiet clientRandom → P w → P (w.record e)
  update : ∀ w h, Shrinks w.handler h → P w → P (w.update h)

theorem Calm.and {P Q : World → Prop} {clientRandom : Bytes} (first : Calm clientRandom P)
    (second : Calm clientRandom Q) : Calm clientRandom fun w => P w ∧ Q w where
  record w e quiet kept := ⟨first.record w e quiet kept.1,second.record w e quiet kept.2⟩
  update w h shrinks kept := ⟨first.update w h shrinks kept.1,second.update w h shrinks kept.2⟩

section Members
variable {P : World → Prop} {clientRandom : Bytes} (calm : Calm clientRandom P) {call : Site → M Unit}
  (calls : ∀ site, Keeps P (call site))
include calm

theorem Calm.emit {e : Effect} (quiet : e.quiet clientRandom) : Keeps P (emit e) :=
  Keeps.emit fun w => calm.record w e quiet

theorem Calm.modify {f : Handler → Handler} (shrinks : ∀ h, Shrinks h (f h)) : Keeps P (modifyHandler f) :=
  Keeps.modifyHandler fun w => calm.update w _ (shrinks w.handler)

omit calm in
theorem keeps_requireTransport : Keeps P requireTransport :=
  Keeps.getHandler.bind fun h => by
    cases h.transport
    · exact Keeps.fault _
    · exact Keeps.pure _

omit calm in
theorem keeps_requireSslSocket : Keeps P requireSslSocket :=
  Keeps.getHandler.bind fun h => by
    cases h.sslSocket
    · exact Keeps.fault _
    · exact Keeps.pure _

section Keyed
variable {state : FizzState} (keyed : state.clientRandom = clientRandom)
include keyed

theorem keeps_handshakeSuccessLog : Keeps P (handshakeSuccessLog state) :=
  keeps_requireTransport.bind fun _ => Keeps.getHandler.bind fun h =>
    (Keeps.forM fun entry => by
      unfold writeKeyLog
      split
      · exact calm.emit keyed
      · exact Keeps.pure _).bind fun _ => Keeps.pure _

theorem keeps_printHandshakeSuccess : Keeps P (printHandshakeSuccess state) :=
  (calm.emit (by trivial)).bind fun _ => (keeps_handshakeSuccessLog calm keyed).bind fun _ =>
    Keeps.forM fun _ => calm.emit (by trivial)

include calls

theorem keeps_respond (session : LegacySession) (buf : List Bytes) :
    Keeps P (FizzHTTPServer.readBufferAvailable call state session buf) := by
  unfold FizzHTTPServer.readBufferAvailable FizzHTTPServer.responseBody
    FizzHTTPServer.respondHandshakeSuccess FizzHTTPServer.respondFallbackSuccess fallbackSuccessLog
  refine (calm.modify ?_).bind fun _ => Keeps.getHandler.bind fun _ =>
    Keeps.ite ((calm.modify ?_).bind fun _ => Keeps.ite ?_ (calm.emit (by trivial))) (Keeps.pure _)
  · exact fun _ => .same rfl rfl
  · exact fun _ => .same rfl rfl
  refine (Keeps.getHandler.bind fun _ => Keeps.ite ?_ ?_).bind fun _ => Keeps.getHandler.bind fun _ =>
    Keeps.ite ?_ ?_
  · exact (keeps_handshakeSuccessLog calm keyed).bind fun _ => Keeps.pure _
  · exact (keeps_requireSslSocket.bind fun _ => Keeps.pure _).bind fun _ => Keeps.pure _
  · exact (calls _).bind fun _ => keeps_requireTransport.bind fun _ => calls _
  · exact keeps_requireSslSocket.bind fun _ => (calls _).bind fun _ =>
      keeps_requireSslSocket.bind fun _ => calls _

end Keyed

theorem keeps_printFallbackSuccess (session : LegacySession) : Keeps P (printFallbackSuccess session) :=
  (calm.emit (by trivial)).bind fun _ => (keeps_requireSslSocket.bind fun _ => Keeps.pure _).bind fun _ =>
    Keeps.forM fun _ => calm.emit (by trivial)

include calls

theorem keeps_handle (mode : Mode) (env : Env) (keyed : env.fizzState.clientRandom = clientRandom)
    (finishes : Keeps P (finish call))
    (fallbacks : ∀ clientHello, Keeps P (fizzHandshakeAttemptFallback call clientHello)) :
    ∀ e, Keeps P (handle mode env call e)
  | .fizzHandshakeSuccess => by
    refine (calls _).bind fun _ => (calm.modify ?_).bind fun _ => keeps_printHandshakeSuccess calm keyed
    exact fun _ => .same rfl rfl
  | .fizzHandshakeError _ | .handshakeErr _ | .readErr _ | .readEOF =>
    (calm.emit (by trivial)).bind fun _ => finishes
  | .fizzHandshakeAttemptFallback clientHello => fallbacks clientHello
  | .handshakeSuc => by
    refine (calm.emit (by trivial)).bind fun _ => (calls _).bind fun _ => (calm.modify ?_).bind fun _ =>
      keeps_printFallbackSuccess calm _
    exact fun _ => .same rfl rfl
  | .readDataAvailable _ => by
    refine (calm.modify ?_).bind fun _ => ?_
    · exact fun _ => .same rfl rfl
    · cases mode
      · exact Keeps.getHandler.bind fun _ => calm.emit (by trivial)
      · exact Keeps.getHandler.bind fun _ => keeps_respond calm calls keyed _ _
  | .readBufferAvailable _ => by
    cases mode
    · exact calm.emit (by trivial)
    · exact keeps_respond calm calls keyed _ _
  | .secretAvailable _ _ => by
    refine Keeps.getHandler.bind fun _ => Keeps.ite (calm.modify ?_) (Keeps.pure _)
    exact fun _ => .same rfl rfl
  | .write _ => by
    cases mode
    · exact Keeps.getHandler.bind fun _ => Keeps.ite (calls _) (Keeps.ite (calls _) (Keeps.pure _))
    · exact Keeps.pure _
  | .close => finishes

end Members

/-- The fallback keeps a predicate that its log line keeps, and every change of
the fields that leaves the native slot empty or as it was, given that its calls
keep it. -/
theorem keeps_fallback {P : World → Prop} {call : Site → M Unit} (logged : ∀ w line, P w → P (w.record (.log line)))
    (updated : ∀ w h, P w → h.transport = none ∨ h.transport = w.handler.transport → P (w.update h))
    (calls : ∀ site, Keeps P (call site)) (clientHello : Bytes) :
    Keeps P (fizzHandshakeAttemptFallback call clientHello) := by
  refine Keeps.getHandler.bind fun h => ?_
  split
  · exact Keeps.fault _
  · exact (Keeps.emit fun w => logged w _).bind fun _ => (Keeps.modifyHandler fun w kept => updated w _ kept (.inl rfl)).bind
      fun _ => (calls _).bind fun _ => Keeps.getHandler.bind fun _ =>
      (Keeps.modifyHandler fun w kept => updated w _ kept (.inr rfl)).bind fun _ => (calls _).onlyIf.bind fun _ =>
      keeps_requireSslSocket.bind fun _ => (Keeps.modifyHandler fun w kept => updated w _ kept (.inr rfl)).bind
      fun _ => keeps_requireSslSocket.bind fun _ => calls _

section Dispatch
variable {P : World → Prop} {mode : Mode} {env : Env} (calm : Calm env.fizzState.clientRandom P)
include calm

omit calm in
theorem keeps_replies {deliver : Event → M Unit} (delivers : ∀ e, Keeps P (deliver e)) (replies : List Event) :
    Keeps P (replies.forM fun e => do if (← getWorld).deleted then fault .deletedHandler else deliver e) :=
  Keeps.forM fun e => Keeps.getWorld.bind fun _ => Keeps.ite (Keeps.fault _) (delivers e)

theorem keeps_transportCall {deliver : Event → M Unit} (delivers : ∀ e, Keeps P (deliver e)) (site : Site) :
    Keeps P (transportCall env deliver site) :=
  (calm.emit (by trivial)).bind fun _ => Keeps.getWorld.bind fun _ => keeps_replies delivers _

theorem keeps_finish {deliver : Event → M Unit} (delivers : ∀ e, Keeps P (deliver e))
    (deleted : ∀ w, P w → P w.delete) : Keeps P (finish (transportCall env deliver)) := by
  have calls := keeps_transportCall calm delivers
  refine Keeps.getHandler.bind fun _ => Keeps.ite ((calm.modify ?_).bind fun _ => (calm.modify ?_).bind
    fun _ => (calls _).onlyIf.bind fun _ => (calls _).onlyIf.bind fun _ => (Keeps.acceptorDone deleted).bind
    fun _ => (calls _).onlyIf) (Keeps.pure _)
  · exact fun _ => ⟨nofun,id⟩
  · exact fun _ => ⟨id,nofun⟩

/-- Induction on the nesting depth: a calm predicate that `finish()` and the
fallback keep, given that the callbacks nested in their calls keep it, is kept
by every callback. -/
theorem keeps_dispatch
    (finishes : ∀ n, (∀ e, Keeps P (dispatch mode env n e)) →
      Keeps P (finish (transportCall env (dispatch mode env n))))
    (fallbacks : ∀ n clientHello, (∀ e, Keeps P (dispatch mode env n e)) →
      Keeps P (fizzHandshakeAttemptFallback (transportCall env (dispatch mode env n)) clientHello)) :
    ∀ n e, Keeps P (dispatch mode env n e)
  | 0, _ => Keeps.pure _
  | n + 1, e => by
    have nested := keeps_dispatch finishes fallbacks n
    exact keeps_handle calm (keeps_transportCall calm nested) mode env rfl (finishes n nested)
      (fun clientHello => fallbacks n clientHello nested) e

omit calm in
theorem keeps_run (dispatches : ∀ n e, Keeps P (dispatch mode env n e)) (fuel : Nat) (events : List Event) :
    Keeps P (run mode env fuel events) :=
  Keeps.forM (dispatches fuel)

end Dispatch

end FizzServer.Connection
