import FizzServer.Connection.Slots

/-! Transports that keep to their protocol: the native transport calls back only
while `transport_` holds it, the legacy socket only while `sslSocket_` holds it,
a read callback only while one of them is set, and no callback arrives from
inside a call. Delivered so, no callback makes the handler fail its `CHECK` or
call through an emptied slot: each fault of the handler needs a callback from
inside one of its own calls, or one its transport would not make. When the
handshake callbacks moreover come only during the handshake they report on, the
handler's fields follow the connection state machine of the design, callback by
callback. -/
namespace FizzServer.Connection
open FizzExampleServer

/-- Whether a transport would deliver the callback to a handler in state `h`.
This is the assumption on the transports, not code of the handler: the secret
callback and the terminal's `write` and `close` may come at any time. -/
def Event.expected (h : Handler) : Event → Bool
  | .fizzHandshakeSuccess | .fizzHandshakeError _ | .fizzHandshakeAttemptFallback _ => h.transport.isSome
  | .handshakeSuc | .handshakeErr _ => h.sslSocket.isSome
  | .readDataAvailable _ | .readBufferAvailable _ | .readEOF | .readErr _ => h.transport.isSome || h.sslSocket.isSome
  | .secretAvailable _ _ | .write _ | .close => true

/-- An expected callback that is a handshake callback only before the handshake
has succeeded. -/
def Event.orderly (h : Handler) (e : Event) : Bool :=
  e.expected h && match e with
  | .fizzHandshakeSuccess | .fizzHandshakeError _ | .fizzHandshakeAttemptFallback _ | .handshakeSuc
  | .handshakeErr _ => !h.connected
  | _ => true

/-- A run the transports could deliver from the event loop: each callback is
`allowed` in the world it reaches. Nothing is delivered after a fault. -/
def Delivered (allowed : Handler → Event → Bool) (mode : Mode) (env : Env) (fuel : Nat) : World → List Event → Bool
  | _, [] => true
  | w, e :: events => allowed w.handler e &&
    match dispatch mode env fuel e w with
    | .ok () w' => Delivered allowed mode env fuel w' events
    | .error _ _ => true

/-! ## The connection state machine of the design -/

/-- The states of a connection: handshaking on the native transport, established
on it, handshaking on the legacy socket after a fallback, established on it, and
closed. -/
inductive Phase where
  | handshaking
  | establishedNative
  | fallbackPending
  | establishedLegacy
  | closed
  deriving DecidableEq, Repr

def Phase.on (p : Phase) : Event → Phase
  | .fizzHandshakeSuccess => if p = .handshaking then .establishedNative else p
  | .fizzHandshakeAttemptFallback _ => if p = .handshaking then .fallbackPending else p
  | .handshakeSuc => if p = .fallbackPending then .establishedLegacy else p
  | .fizzHandshakeError _ | .handshakeErr _ | .readEOF | .readErr _ | .close => .closed
  | .readDataAvailable _ | .readBufferAvailable _ | .secretAvailable _ _ | .write _ => p

def Handler.phase (h : Handler) : Phase :=
  match h.transport, h.sslSocket with
  | some _, _ => if h.connected then .establishedNative else .handshaking
  | none, some _ => if h.connected then .establishedLegacy else .fallbackPending
  | none, none => .closed

section Passive
variable {call : Site → M Unit} (calls : Passive call)
include calls

theorem onlyIf_passive_apply (c : Bool) (site : Site) (w : World) :
    onlyIf c (call site) w = .ok () { w with effects := w.effects ++ if c then [.call site] else [] } := by
  cases c
  · simp [onlyIf]
  · exact calls site w

theorem finish_apply (w : World) :
    ∃ w', finish call w = .ok () w' ∧ w'.handler = { w.handler with transport := none, sslSocket := none } ∧
      keyLogOf w'.effects = keyLogOf w.effects := by
  simp only [finish,bind_apply,getHandler_apply]
  split
  · simp [onlyIf_passive_apply calls,apply_ite keyLogOf]
  · rename_i idle
    refine ⟨w,rfl,?_,rfl⟩
    simp only [Bool.or_eq_true,Option.isSome_iff_ne_none,not_or,not_not] at idle
    rw [← idle.1,← idle.2]

theorem fizzHandshakeAttemptFallback_apply (clientHello : Bytes) (w : World) {native : Native}
    (present : w.handler.transport = some native) :
    ∃ w', fizzHandshakeAttemptFallback call clientHello w = .ok () w' ∧
      w'.handler = { w.handler with transport := none, sslSocket := some ⟨native.socket,clientHello⟩ } ∧
      keyLogOf w'.effects = keyLogOf w.effects := by
  simp only [Passive] at calls
  cases old : w.handler.sslSocket <;>
    simp [fizzHandshakeAttemptFallback,present,old,calls,onlyIf_passive_apply calls,requireSslSocket]

theorem handshakeSuc_apply (session : LegacySession) (w : World) (present : w.handler.sslSocket.isSome) :
    ∃ w', handshakeSuc call session w = .ok () w' ∧ w'.handler = { w.handler with connected := true } ∧
      keyLogOf w'.effects = keyLogOf w.effects := by
  simp only [Passive] at calls
  obtain ⟨legacy,present⟩ := Option.isSome_iff_exists.mp present
  simp [handshakeSuc,calls,printFallbackSuccess,fallbackSuccessLog,requireSslSocket,present,forM_log_apply]

theorem handle_step (mode : Mode) (env : Env) (e : Event) (w : World) (expected : e.expected w.handler) :
    ∃ w', handle mode env call e w = .ok () w' ∧
      (e.orderly w.handler → Exclusive w.handler → w'.handler.phase = w.handler.phase.on e) ∧
      (mode = .plain → keyLogOf w'.effects = keyLogOf w.effects ++
        if e = .fizzHandshakeSuccess then keyLogOf (keyLogLines env.fizzState w.handler keyLogSecrets) else []) := by
  have answers : ∀ buf w, (w.handler.transport.isSome ∨ w.handler.sslSocket.isSome) →
      ∃ w', FizzHTTPServer.readBufferAvailable call env.fizzState env.session buf w = .ok () w' ∧
        w'.handler.phase = w.handler.phase :=
    fun buf w populated => (readBufferAvailable_apply calls _ _ buf w populated).imp
      fun _ ran => ⟨ran.1,by rw [ran.2.1]; rfl⟩
  have terminates := fun terminal : e.terminal => handle_terminal terminal mode env call w
  cases e with
  | fizzHandshakeSuccess =>
    obtain ⟨w',ran,handler,logged⟩ := fizzHandshakeSuccess_apply calls env.fizzState w expected
    refine ⟨w',ran,fun orderly _ => ?_,fun _ => by rw [logged,if_pos rfl]⟩
    obtain ⟨native,present⟩ := Option.isSome_iff_exists.mp expected
    have handshaking : w.handler.connected = false := by simpa [Event.orderly,Event.expected,present] using orderly
    simp [handler,Handler.phase,Phase.on,present,handshaking]
  | fizzHandshakeAttemptFallback clientHello =>
    obtain ⟨native,present⟩ := Option.isSome_iff_exists.mp expected
    obtain ⟨w',ran,handler,logged⟩ := fizzHandshakeAttemptFallback_apply calls clientHello w present
    refine ⟨w',ran,fun orderly _ => ?_,fun _ => by simp [logged]⟩
    have handshaking : w.handler.connected = false := by simpa [Event.orderly,Event.expected,present] using orderly
    simp [handler,Handler.phase,Phase.on,present,handshaking]
  | handshakeSuc =>
    obtain ⟨w',ran,handler,logged⟩ := handshakeSuc_apply calls env.session w expected
    refine ⟨w',ran,fun orderly exclusive => ?_,fun _ => by simp [logged]⟩
    obtain ⟨legacy,present⟩ := Option.isSome_iff_exists.mp expected
    have handshaking : w.handler.connected = false := by simpa [Event.orderly,Event.expected,present] using orderly
    have alone : w.handler.transport = none := exclusive.resolve_right (by simp [present])
    simp [handler,Handler.phase,Phase.on,present,alone,handshaking]
  | fizzHandshakeError _ | handshakeErr _ | readEOF | readErr _ | close =>
    obtain ⟨w₁,before,finishes⟩ := terminates rfl
    rw [finishes]
    exact (finish_apply calls w₁).imp fun w' ⟨ran,handler,logged⟩ =>
      ⟨ran,fun _ _ => by simp [handler,Handler.phase,Phase.on],fun _ => by rcases before with rfl | ⟨_,rfl⟩ <;> simp [logged]⟩
  | readDataAvailable data =>
    cases mode
    · exact ⟨_,rfl,fun _ _ => rfl,fun _ => by simp⟩
    · simp only [handle,FizzHTTPServer.readDataAvailable,bind_apply,modifyHandler_apply,getHandler_apply]
      exact (answers _ _ (by simpa [Event.expected] using expected)).imp fun _ ran => ⟨ran.1,fun _ _ => ran.2,nofun⟩
  | readBufferAvailable buf =>
    cases mode
    · exact ⟨_,rfl,fun _ _ => rfl,fun _ => by simp⟩
    · exact (answers _ _ (by simpa [Event.expected] using expected)).imp fun _ ran => ⟨ran.1,fun _ _ => ran.2,nofun⟩
  | secretAvailable label secret =>
    exact ⟨_,secretAvailable_apply label secret w,fun _ _ => by split <;> rfl,fun _ => by split <;> simp⟩
  | write msg =>
    simp only [Passive] at calls
    cases mode
    · simp only [handle,FizzExampleServer.write,bind_apply,getHandler_apply]
      split
      · exact ⟨_,calls _ _,fun _ _ => rfl,fun _ => by simp⟩
      · split
        · exact ⟨_,calls _ _,fun _ _ => rfl,fun _ => by simp⟩
        · exact ⟨_,rfl,fun _ _ => rfl,fun _ => by simp⟩
    · exact ⟨w,rfl,fun _ _ => rfl,nofun⟩

end Passive

/-! ## Runs -/

section Runs
variable {mode : Mode} {env : Env} {fuel : Nat} {allowed : Handler → Event → Bool} {σ : Type}

theorem delivered_run (I : World → Prop) (F : World → σ) (next : σ → Event → σ)
    (each : ∀ e w, I w → allowed w.handler e →
      ∃ w', dispatch mode env fuel e w = .ok () w' ∧ I w' ∧ F w' = next (F w) e)
    (events : List Event) (w : World) (holds : I w) (delivered : Delivered allowed mode env fuel w events) :
    ∃ w', run mode env fuel events w = .ok () w' ∧ I w' ∧ F w' = events.foldl next (F w) := by
  induction events generalizing w with
  | nil => exact ⟨w,rfl,holds,rfl⟩
  | cons e events ih =>
    simp only [Delivered,Bool.and_eq_true] at delivered
    obtain ⟨w₁,first,holds₁,moved⟩ := each e w holds delivered.1
    have later := delivered.2
    rw [first] at later
    obtain ⟨w',rest,holds',folded⟩ := ih w₁ holds₁ later
    refine ⟨w',?_,holds',by rw [folded,moved]; rfl⟩
    simp only [run,List.forM_cons',bind_apply,first]
    exact rest

end Runs

section Quiet
variable (mode : Mode) (state : FizzState) (session : LegacySession) (fuel : Nat)

theorem dispatch_orderly (e : Event) (w : World) (exclusive : Throughout Exclusive w) (orderly : e.orderly w.handler) :
    ∃ w', dispatch mode (.quiet state session) (fuel + 1) e w = .ok () w' ∧ Throughout Exclusive w' ∧
      w'.handler.phase = w.handler.phase.on e ∧
      (mode = .plain → keyLogOf w'.effects = keyLogOf w.effects ++
        if e = .fizzHandshakeSuccess then keyLogOf (keyLogLines state w.handler keyLogSecrets) else []) := by
  have expected : e.expected w.handler := by simp only [Event.orderly,Bool.and_eq_true] at orderly; exact orderly.1
  obtain ⟨w',ran,moved,logged⟩ := handle_step (passive_quiet state session _) mode _ e w expected
  have kept : Throughout Exclusive (final (dispatch mode (.quiet state session) (fuel + 1) e w)) :=
    (dispatch_keeps_exclusive (fuel + 1) e).final exclusive
  rw [dispatch,ran] at kept
  exact ⟨w',ran,kept,moved orderly (exclusive _ (List.mem_cons_self _ _)),logged⟩

theorem init_exclusive (native : Native) : Throughout Exclusive (World.init (Handler.init native)) := by
  simp [Throughout,World.init,Exclusive,Handler.init]

/-- The handler refines the design's connection state machine: on a fresh
handler, with transports that keep to their protocol and deliver the handshake
callbacks only during the handshake, every run returns in the state the
design's transition function reaches over the same callbacks. -/
theorem connection_phases (native : Native) (events : List Event)
    (orderly : Delivered Event.orderly mode (.quiet state session) (fuel + 1) (World.init (Handler.init native)) events) :
    ∃ w', run mode (.quiet state session) (fuel + 1) events (World.init (Handler.init native)) = .ok () w' ∧
      w'.handler.phase = events.foldl Phase.on .handshaking := by
  obtain ⟨w',ran,-,phase⟩ := delivered_run _ (fun w => w.handler.phase) Phase.on
    (fun e w exclusive orderly => (dispatch_orderly mode state session fuel e w exclusive orderly).imp
      fun _ step => ⟨step.1,step.2.1,step.2.2.1⟩) events _ (init_exclusive native) orderly
  exact ⟨w',ran,phase⟩

theorem connection_phases_fallback :
    Delivered Event.orderly .http (.quiet default default) 1 (World.init (Handler.init ⟨3⟩))
      [.fizzHandshakeAttemptFallback (ascii "hello"),.handshakeSuc,.readBufferAvailable [ascii "GET / "],.close] ∧
    ∃ w', run .http (.quiet default default) (0 + 1)
      [.fizzHandshakeAttemptFallback (ascii "hello"),.handshakeSuc,.readBufferAvailable [ascii "GET / "],.close]
      (World.init (Handler.init ⟨3⟩)) = .ok () w' ∧
      w'.handler.phase = [Event.fizzHandshakeAttemptFallback (ascii "hello"),.handshakeSuc,
        .readBufferAvailable [ascii "GET / "],.close].foldl Phase.on .handshaking :=
  ⟨rfl,connection_phases .http default default 0 ⟨3⟩ _ rfl⟩

end Quiet

end FizzServer.Connection
