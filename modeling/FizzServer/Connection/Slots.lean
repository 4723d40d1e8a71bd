import FizzServer.Connection.Calm
import FizzServer.Connection.Http

/-! The two transport slots `transport_` and `sslSocket_` are never populated
together, at any point of any run, whatever the transports deliver from inside
the handler's calls. The fallback is the one member that fills a slot; it
empties the native one first, and nothing fills the native slot again. -/
namespace FizzServer.Connection
open FizzExampleServer

def Exclusive (h : Handler) : Prop := h.transport = none ∨ h.sslSocket = none

/-- `I` holds of the handler's fields now and at every point they passed through. -/
def Throughout (I : Handler → Prop) (w : World) : Prop := ∀ h ∈ w.handler :: w.trace, I h

def NoTransport (w : World) : Prop := w.handler.transport = none

def Closed (w : World) : Prop := w.handler.transport = none ∧ w.handler.sslSocket = none

/-- The environment in which only the calls of `finish()` deliver callbacks. -/
def insideFinish (env : Env) : Env :=
  { env with replies := fun site w => if site.inFinish then env.replies site w else [] }

theorem Exclusive.shrink {h h' : Handler} (shrinks : Shrinks h h') : Exclusive h → Exclusive h'
  | .inl empty => .inl (shrinks.transport_none empty)
  | .inr empty => .inr (shrinks.sslSocket_none empty)

theorem throughout_update {I : Handler → Prop} {w : World} {h : Handler} (now : I h)
    (before : Throughout I w) : Throughout I (w.update h) := by
  intro h' member
  simp only [World.update,List.mem_cons] at member
  rcases member with rfl | rfl | member
  · exact now
  · exact now
  · exact before h' (List.mem_cons_of_mem _ member)

variable {clientRandom : Bytes}

theorem calm_throughout {I : Handler → Prop} (shrink : ∀ h h', Shrinks h h' → I h → I h') :
    Calm clientRandom (Throughout I) where
  record _ _ _ before := before
  update _ _ shrinks before := throughout_update (shrink _ _ shrinks (before _ (List.mem_cons_self _ _))) before

theorem NoTransport.update {w : World} {h : Handler} (empty : NoTransport w) (shrinks : Shrinks w.handler h) :
    NoTransport (w.update h) :=
  shrinks.transport_none empty

theorem calm_noTransport : Calm clientRandom NoTransport where
  record _ _ _ empty := empty
  update _ _ shrinks empty := empty.update shrinks

section Fallback
variable {call : Site → M Unit} (clientHello : Bytes)

theorem keeps_fallback_noTransport (calls : ∀ site, Keeps NoTransport (call site)) :
    Keeps NoTransport (fizzHandshakeAttemptFallback call clientHello) :=
  keeps_fallback (fun _ _ empty => empty) (fun _ _ empty => (·.elim id (·.trans empty))) calls clientHello

theorem keeps_fallback_exclusive
    (calls : ∀ site, Keeps (fun w => Throughout Exclusive w ∧ NoTransport w) (call site)) :
    Keeps (Throughout Exclusive) (fizzHandshakeAttemptFallback call clientHello) := by
  have adopt : ∀ socket : Handler → Option Legacy, Keeps (fun w => Throughout Exclusive w ∧ NoTransport w)
      (modifyHandler fun h => { h with sslSocket := socket h }) :=
    fun _ => Keeps.modifyHandler fun _ ⟨excl,empty⟩ => ⟨throughout_update (.inl empty) excl,empty⟩
  intro w before
  simp only [fizzHandshakeAttemptFallback,wp_bind,wp_getHandler]
  split
  · exact before
  · rw [wp_bind,wp_emit,wp_bind,wp_modifyHandler]
    refine Keeps.wp (?_ : Keeps (fun w => Throughout Exclusive w ∧ NoTransport w) _) ⟨?_,rfl⟩
      (fun _ _ kept => kept.1) (fun _ kept => kept.1)
    · exact (calls _).bind fun _ => Keeps.getHandler.bind fun _ => (adopt _).bind fun _ =>
        (calls _).onlyIf.bind fun _ => keeps_requireSslSocket.bind fun _ => (adopt _).bind
        fun _ => keeps_requireSslSocket.bind fun _ => calls _
    · exact throughout_update (.inl rfl) before

end Fallback

variable {mode : Mode} {env : Env}

theorem dispatch_keeps_noTransport : ∀ n e, Keeps NoTransport (dispatch mode env n e) :=
  keeps_dispatch calm_noTransport
    (fun _ nested => keeps_finish calm_noTransport nested
      fun _ empty => empty)
    (fun _ clientHello nested =>
      keeps_fallback_noTransport clientHello (keeps_transportCall calm_noTransport nested))

theorem dispatch_keeps_exclusive : ∀ n e, Keeps (Throughout Exclusive) (dispatch mode env n e) :=
  have calm : Calm env.fizzState.clientRandom (Throughout Exclusive) := calm_throughout fun _ _ => Exclusive.shrink
  keeps_dispatch calm
    (fun _ nested => keeps_finish calm nested fun _ before => before)
    (fun n clientHello nested => keeps_fallback_exclusive clientHello
      (keeps_transportCall (calm.and calm_noTransport) fun e => (nested e).and (dispatch_keeps_noTransport n e)))

theorem Closed.update {w : World} {h : Handler} (empty : Closed w) (shrinks : Shrinks w.handler h) :
    Closed (w.update h) :=
  ⟨shrinks.transport_none empty.1,shrinks.sslSocket_none empty.2⟩

theorem calm_closed : Calm clientRandom Closed where
  record _ _ _ empty := empty
  update _ _ shrinks empty := empty.update shrinks

theorem fallback_closed (call : Site → M Unit) (clientHello : Bytes) :
    Keeps Closed (fizzHandshakeAttemptFallback call clientHello) := by
  intro w empty
  simp only [fizzHandshakeAttemptFallback,wp_bind,wp_getHandler,empty.1,wp_fault]
  exact empty

theorem dispatch_keeps_closed : ∀ n e, Keeps Closed (dispatch mode env n e) :=
  keeps_dispatch calm_closed
    (fun _ nested => keeps_finish calm_closed nested fun _ empty => empty)
    (fun _ clientHello _ => fallback_closed _ clientHello)

theorem finish_closes {call : Site → M Unit} (calls : ∀ site, Keeps Closed (call site)) (w : World) :
    wp (finish call) (fun _ => Closed) Closed w := by
  simp only [finish,wp_bind,wp_getHandler]
  split
  · rw [wp_bind,wp_modifyHandler,wp_bind,wp_modifyHandler]
    exact Keeps.wp ((calls _).onlyIf.bind fun _ => (calls _).onlyIf.bind fun _ =>
      (Keeps.acceptorDone fun _ empty => empty).bind fun _ => (calls _).onlyIf) ⟨rfl,rfl⟩
      (fun _ _ empty => empty) (fun _ empty => empty)
  · rename_i populated
    simp only [Bool.or_eq_true,Option.isSome_iff_ne_none,not_or,not_not] at populated
    exact populated

theorem terminal_closes (n : Nat) (e : Event) (terminal : e.terminal) (w : World) :
    Closed (final (dispatch mode env (n + 1) e w)) := by
  have calls : ∀ site, Keeps Closed (transportCall env (dispatch mode env n) site) :=
    keeps_transportCall calm_closed (dispatch_keeps_closed n)
  obtain ⟨w',-,ran⟩ := handle_terminal terminal mode env (transportCall env (dispatch mode env n)) w
  rw [dispatch,ran]
  exact wp_final (finish_closes calls w')

theorem fallback_adopts (n : Nat) (clientHello : Bytes) (w : World) (native : Native)
    (present : w.handler.transport = some native) :
    ∃ w', dispatch mode (insideFinish env) (n + 1) (.fizzHandshakeAttemptFallback clientHello) w = .ok () w' ∧
      w'.handler.transport = none ∧ w'.handler.sslSocket = some ⟨native.socket,clientHello⟩ := by
  have returns : wp (dispatch mode (insideFinish env) (n + 1) (.fizzHandshakeAttemptFallback clientHello))
      (fun _ w' => w'.handler.transport = none ∧ w'.handler.sslSocket = some ⟨native.socket,clientHello⟩)
      (fun _ => False) w := by
    simp [dispatch,handle,fizzHandshakeAttemptFallback,transportCall,insideFinish,Site.inFinish,
      requireSslSocket,present,World.update,World.record,onlyIf]
  obtain ⟨⟨⟩,w',ran,adopted⟩ := wp_returns returns
  exact ⟨w',ran,adopted⟩

/-! ## Calls on the populated slot -/

/-- The effects so far begin with `base`. -/
def Extends (base : List Effect) (w : World) : Prop := base <+: w.effects

theorem calm_extends (base : List Effect) : Calm clientRandom (Extends base) where
  record _ _ _ begins := begins.trans (List.prefix_append _ _)
  update _ _ _ begins := begins

theorem dispatch_keeps_extends (base : List Effect) : ∀ n e, Keeps (Extends base) (dispatch mode env n e) :=
  keeps_dispatch (calm_extends base)
    (fun _ nested => keeps_finish (calm_extends base) nested fun _ begins => begins.trans (List.prefix_append _ _))
    (fun _ clientHello nested => keeps_fallback (fun _ _ begins => begins.trans (List.prefix_append _ _))
      (fun _ _ begins _ => begins) (keeps_transportCall (calm_extends base) nested) clientHello)

theorem extends_final {m : M α} {w : World} {base : List Effect} (holds : wp m (fun _ => Extends base) (Extends base) w) :
    base <+: (final (m w)).effects :=
  wp_final holds

theorem call_recorded (n : Nat) (site : Site) {before : List Effect} (w : World) (effects : w.effects = before) :
    wp (transportCall env (dispatch mode env n) site) (fun _ => Extends (before ++ [.call site]))
      (Extends (before ++ [.call site])) w := by
  rw [transportCall,wp_bind,wp_emit,wp_bind,wp_getWorld]
  exact keeps_replies (dispatch_keeps_extends _ n) _ _ (effects ▸ List.prefix_refl _)

theorem write_on_slot (n : Nat) (msg : Bytes) (w : World) (exclusive : Exclusive w.handler) :
    (w.handler.transport.isSome → w.effects ++ [.call (.writeNative msg)] <+:
      (final (dispatch .plain env (n + 1) (.write msg) w)).effects) ∧
    (w.handler.sslSocket.isSome → w.effects ++ [.call (.writeLegacy msg)] <+:
      (final (dispatch .plain env (n + 1) (.write msg) w)).effects) := by
  refine ⟨fun present => extends_final ?_,fun present => extends_final ?_⟩
  · simpa [dispatch,handle,FizzExampleServer.write,present] using call_recorded n (.writeNative msg) w rfl
  · have empty : w.handler.transport = none := exclusive.resolve_right (Option.isSome_iff_ne_none.mp present)
    simpa [dispatch,handle,FizzExampleServer.write,present,empty] using call_recorded n (.writeLegacy msg) w rfl

/-- A `GET /` request is answered on the slot that is populated: after the key
log that building the summary writes, the first call is the response's write. -/
theorem respond_on_slot (n : Nat) (buf : List Bytes) (w : World) (exclusive : Exclusive w.handler)
    (get : ((w.handler.requestBuf.getD []).flatten ++ buf.flatten).take 5 = ascii "GET /") :
    (w.handler.transport.isSome → ∃ response, w.effects ++ keyLogLines env.fizzState w.handler keyLogSecrets ++
      [.call (.respondWriteNative response)] <+: (final (dispatch .http env (n + 1) (.readBufferAvailable buf) w)).effects) ∧
    (w.handler.sslSocket.isSome → ∃ response, w.effects ++ [.call (.respondWriteLegacy response)] <+:
      (final (dispatch .http env (n + 1) (.readBufferAvailable buf) w)).effects) := by
  have closes : ∀ {β : Type} (check : M β) site base, (Keeps (Extends base) check) →
      ∀ w', Extends base w' → wp (check >>= fun _ => transportCall env (dispatch .http env n) site)
        (fun _ => Extends base) (Extends base) w' :=
    fun _ _ base checked => checked.bind fun _ => keeps_transportCall (calm_extends base) (dispatch_keeps_extends base n) _
  refine ⟨fun present => ⟨httpResponse (ascii "Fizz HTTP Server\n\n" ++ (ascii "\n").intercalate
      (handshakeSummary env.fizzState w.handler)),extends_final ?_⟩,fun present => ⟨httpResponse
      (ascii "Fizz HTTP Server (Fallback)\n\n" ++ (ascii "\n").intercalate (fallbackSummary env.session)),
      extends_final ?_⟩⟩
  · rw [dispatch,handle,wp,readBufferAvailable_get _ _ _ _ get,← wp,wp_bind,
      wp_of_apply (responseBody_native _ _ _ (by exact present))]
    simp only [wp_bind,wp_getHandler,World.update_handler,present,if_true,handshakeSummary_requestBuf]
    exact wp_mono (fun _ => closes _ _ _ keeps_requireTransport) (fun _ begins => begins) (call_recorded n _ _ rfl)
  · have empty : w.handler.transport = none := exclusive.resolve_right (Option.isSome_iff_ne_none.mp present)
    obtain ⟨legacy,socket⟩ := Option.isSome_iff_exists.mp present
    rw [dispatch,handle,wp,readBufferAvailable_get _ _ _ _ get,← wp,wp_bind,
      wp_of_apply (responseBody_legacy _ _ _ (by exact empty) (by exact present))]
    simp only [wp_bind,wp_getHandler,World.update_handler,empty,Option.isSome_none,Bool.false_eq_true,if_false,
      requireSslSocket,socket,wp_pure]
    exact wp_mono (fun _ => closes _ _ _ keeps_requireSslSocket) (fun _ begins => begins) (call_recorded n _ _ rfl)

/-- The transport slots of a handler: at most one is populated at every point of
every run, whatever the transports deliver from inside the handler's calls; the
handler starts with `transport_` alone; with callbacks delivered from inside
`finish()` only, a fallback request leaves `sslSocket_` alone, around the socket
detached from the native transport; a terminal callback leaves both empty; and
with the slots exclusive, `write()` and the `GET /` responder call the one that
is populated. -/
theorem transport_slots_exclusive (mode : Mode) (env : Env) (native : Native) :
    (∀ fuel events, ∀ h ∈ (final (run mode env fuel events (World.init (Handler.init native)))).trace,
      Exclusive h) ∧
    (Handler.init native).transport = some native ∧ (Handler.init native).sslSocket = none ∧
    (∀ n clientHello w, w.handler.transport = some native →
      ∃ w', dispatch mode (insideFinish env) (n + 1) (.fizzHandshakeAttemptFallback clientHello) w = .ok () w' ∧
        w'.handler.transport = none ∧ w'.handler.sslSocket = some ⟨native.socket,clientHello⟩) ∧
    (∀ n e w, e.terminal → Closed (final (dispatch mode env (n + 1) e w))) ∧
    (∀ n msg w, Exclusive w.handler →
      (w.handler.transport.isSome → w.effects ++ [.call (.writeNative msg)] <+:
        (final (dispatch .plain env (n + 1) (.write msg) w)).effects) ∧
      (w.handler.sslSocket.isSome → w.effects ++ [.call (.writeLegacy msg)] <+:
        (final (dispatch .plain env (n + 1) (.write msg) w)).effects)) ∧
    (∀ n buf w, Exclusive w.handler → ((w.handler.requestBuf.getD []).flatten ++ buf.flatten).take 5 = ascii "GET /" →
      (w.handler.transport.isSome → ∃ response, w.effects ++ keyLogLines env.fizzState w.handler keyLogSecrets ++
        [.call (.respondWriteNative response)] <+:
          (final (dispatch .http env (n + 1) (.readBufferAvailable buf) w)).effects) ∧
      (w.handler.sslSocket.isSome → ∃ response, w.effects ++ [.call (.respondWriteLegacy response)] <+:
        (final (dispatch .http env (n + 1) (.readBufferAvailable buf) w)).effects)) := by
  refine ⟨fun fuel events h member => ?_,rfl,rfl,fun n clientHello w => fallback_adopts n clientHello w native,
    fun n e w terminal => terminal_closes n e terminal w,write_on_slot,respond_on_slot⟩
  have start : Throughout Exclusive (World.init (Handler.init native)) := by
    simp [Throughout,World.init,Handler.init,Exclusive]
  exact (keeps_run dispatch_keeps_exclusive fuel events).final start h (List.mem_cons_of_mem _ member)

theorem transport_slots_exclusive_fallback :
    ∃ w', dispatch .plain (insideFinish (.quiet default default)) 1 (.fizzHandshakeAttemptFallback [22])
        (World.init (Handler.init ⟨3⟩)) = .ok () w' ∧
      w'.handler.transport = none ∧ w'.handler.sslSocket = some ⟨3,[22]⟩ :=
  (transport_slots_exclusive .plain (.quiet default default) ⟨3⟩).2.2.2.1 0 [22] _ rfl

end FizzServer.Connection
