import FizzServer.Text

/-! The state of one connection handler of `FizzServerCommand.cpp`
(`FizzExampleServer`, `FizzHTTPServer`), the callbacks delivered to it, and
what it does in return. The handler's code runs in `M`: it reads and writes its
fields, records effects, and may stop the process at a fault (a failed
`CHECK`, a call through a null transport slot, a callback to the handler
after `acceptor_->done()` deleted it), which keeps the world as it stood then.
The world also records, as ghosts, every value the handler's fields take and
their values at each `acceptor_->done()`. -/
namespace FizzServer.Connection

/-- What `transport_->getState()` shows once the native handshake is done,
each field as the summary prints it (`toString` of the enum). The fields the
code dereferences with `*` are those fizz sets at the end of the handshake. -/
structure FizzState where
  version : Bytes
  cipher : Bytes
  group : Option Bytes
  sigScheme : Option Bytes
  pskType : Bytes
  pskMode : Option Bytes
  keyExchangeType : Bytes
  earlyDataType : Bytes
  serverIdentity : Option Bytes
  clientIdentity : Option Bytes
  serverCertCompAlgo : Option Bytes
  alpn : Option Bytes
  clientRandom : Bytes
  echDecrypter : Bool
  deriving DecidableEq, Repr, Inhabited

structure LegacySession where
  version : Bytes
  cipherName : Bytes
  sigAlgName : Bytes
  selfIdentity : Option Bytes
  peerIdentity : Option Bytes
  deriving DecidableEq, Repr, Inhabited

structure Native where
  socket : Nat
  deriving DecidableEq, Repr

structure Legacy where
  socket : Nat
  preReceived : Bytes
  deriving DecidableEq, Repr

inductive SecretLabel where
  | externalPskBinder | resumptionPskBinder | earlyExporter
  | clientEarlyTraffic | clientHandshakeTraffic | serverHandshakeTraffic
  | exporterMaster | resumptionMaster | clientAppTraffic | serverAppTraffic
  deriving DecidableEq, Repr

inductive KeyLogLabel where
  | clientEarlyTrafficSecret | clientHandshakeTrafficSecret | serverHandshakeTrafficSecret
  | exporterSecret | clientTrafficSecret0 | serverTrafficSecret0
  deriving DecidableEq, Repr

/-- The fields of `FizzExampleServer` (and `FizzHTTPServer::requestBuf_`). -/
structure Handler where
  transport : Option Native
  sslSocket : Option Legacy
  connected : Bool
  secrets : SecretLabel → Option Bytes
  readBuf : Bytes
  requestBuf : Option (List Bytes)

def Handler.init (transport : Native) : Handler :=
  { transport := some transport, sslSocket := none, connected := false,
    secrets := fun _ => none, readBuf := [], requestBuf := none }

/-- Each call the handler makes on a transport, by the statement that makes it. -/
inductive Site where
  | successSetReadCB
  | fallbackReset
  | fallbackAssign
  | fallbackAccept
  | legacySetReadCB
  | writeNative (msg : Bytes)
  | writeLegacy (msg : Bytes)
  | finishReset
  | finishCloseNow
  | finishRelease
  | respondWriteNative (response : Bytes)
  | respondCloseNative
  | respondWriteLegacy (response : Bytes)
  | respondCloseLegacy
  deriving DecidableEq, Repr

/-- The calls `finish()` makes: destroying the legacy socket, `closeNow()`,
and releasing the moved-out native transport. -/
def Site.inFinish : Site → Bool
  | .finishReset | .finishCloseNow | .finishRelease => true
  | _ => false

def Site.beforeDone : Site → Bool
  | .finishReset | .finishCloseNow => true
  | _ => false

/-- The callbacks a handler receives: from the native transport, from the legacy
socket, from either as a read callback, from the secret callback, and from the
terminal (`write`, `close`). -/
inductive Event where
  | fizzHandshakeSuccess
  | fizzHandshakeError (what : Bytes)
  | fizzHandshakeAttemptFallback (clientHello : Bytes)
  | handshakeSuc
  | handshakeErr (what : Bytes)
  | readDataAvailable (data : Bytes)
  | readBufferAvailable (buf : List Bytes)
  | readEOF
  | readErr (what : Bytes)
  | secretAvailable (label : SecretLabel) (secret : Bytes)
  | write (msg : Bytes)
  | close
  deriving DecidableEq, Repr

def Event.terminal : Event → Bool
  | .fizzHandshakeError _ | .handshakeErr _ | .readEOF | .readErr _ | .close => true
  | _ => false

inductive Effect where
  | done
  | keyLog (clientRandom : Bytes) (label : KeyLogLabel) (secret : Bytes)
  | log (line : Bytes)
  | print (data : Bytes)
  | call (site : Site)
  deriving DecidableEq, Repr

/-- Where the process stops: a failed `CHECK`, a call through a null slot, or a
callback delivered to the handler after `acceptor_->done()` has deleted it. -/
inductive Fault where
  | checkFailed
  | nullTransport
  | nullSslSocket
  | deletedHandler
  deriving DecidableEq, Repr

/-- The handler's fields and what it has done, with two ghosts: every value its
fields have taken (`trace`), and its fields at each `acceptor_->done()`
(`doneWith`). -/
structure World where
  handler : Handler
  effects : List Effect
  trace : List Handler
  doneWith : List Handler := []

def World.init (h : Handler) : World := { handler := h, effects := [], trace := [h] }

def final {α : Type} : EStateM.Result Fault World α → World
  | .ok _ w => w
  | .error _ w => w

def faultOf {α : Type} : EStateM.Result Fault World α → Option Fault
  | .ok _ _ => none
  | .error f _ => some f

abbrev M := EStateM Fault World

def World.update (w : World) (h : Handler) : World := { w with handler := h, trace := h :: w.trace }

def World.record (w : World) (e : Effect) : World := { w with effects := w.effects ++ [e] }

/-- The world after `acceptor_->done()`, whose `cb_.reset()` deletes the handler. -/
def World.delete (w : World) : World := { w.record .done with doneWith := w.handler :: w.doneWith }

def World.deleted (w : World) : Bool := w.effects.contains .done

def getWorld : M World := fun w => .ok w w

def getHandler : M Handler := fun w => .ok w.handler w

def modifyHandler (f : Handler → Handler) : M Unit := fun w => .ok () (w.update (f w.handler))

def emit (e : Effect) : M Unit := fun w => .ok () (w.record e)

def fault (f : Fault) : M α := fun w => .error f w

def acceptorDone : M Unit := fun w => .ok () w.delete

/-- The statement `if (c) { m; }`. -/
def onlyIf (c : Bool) (m : M Unit) : M Unit := if c then m else pure ()

@[simp] theorem onlyIf_true (m : M Unit) : onlyIf true m = m := rfl

@[simp] theorem onlyIf_false (m : M Unit) : onlyIf false m = pure () := rfl

@[simp] theorem World.update_handler (w : World) (h : Handler) : (w.update h).handler = h := rfl

@[simp] theorem World.update_effects (w : World) (h : Handler) : (w.update h).effects = w.effects := rfl

@[simp] theorem World.record_handler (w : World) (e : Effect) : (w.record e).handler = w.handler := rfl

@[simp] theorem World.record_effects (w : World) (e : Effect) : (w.record e).effects = w.effects ++ [e] := rfl

@[simp] theorem World.update_doneWith (w : World) (h : Handler) : (w.update h).doneWith = w.doneWith := rfl

@[simp] theorem World.record_doneWith (w : World) (e : Effect) : (w.record e).doneWith = w.doneWith := rfl

@[simp] theorem World.delete_handler (w : World) : w.delete.handler = w.handler := rfl

@[simp] theorem World.delete_effects (w : World) : w.delete.effects = w.effects ++ [.done] := rfl

@[simp] theorem World.delete_doneWith (w : World) : w.delete.doneWith = w.handler :: w.doneWith := rfl

/-! ## Running a member from a world -/

section Run
variable {α β : Type} (w : World)

@[simp] theorem bind_apply (m : M β) (f : β → M α) :
    (m >>= f) w = match m w with | .ok b w' => f b w' | .error e w' => .error e w' := by
  show EStateM.bind m f w = _
  unfold EStateM.bind
  cases m w <;> rfl

@[simp] theorem map_apply (f : β → α) (m : M β) :
    (f <$> m) w = match m w with | .ok b w' => .ok (f b) w' | .error e w' => .error e w' := by
  show EStateM.map f m w = _
  unfold EStateM.map
  cases m w <;> rfl

@[simp] theorem pure_apply (a : α) : (pure a : M α) w = .ok a w := rfl

@[simp] theorem getWorld_apply : getWorld w = .ok w w := rfl

@[simp] theorem getHandler_apply : getHandler w = .ok w.handler w := rfl

@[simp] theorem modifyHandler_apply (f : Handler → Handler) :
    modifyHandler f w = .ok () (w.update (f w.handler)) := rfl

@[simp] theorem emit_apply (e : Effect) : emit e w = .ok () (w.record e) := rfl

@[simp] theorem fault_apply (f : Fault) : (fault f : M α) w = .error f w := rfl

@[simp] theorem acceptorDone_apply : acceptorDone w = .ok () w.delete := rfl

end Run

/-! ## Weakest preconditions -/

/-- The world `m` ends in from `w` satisfies `Q` with its result, or `E` at a fault. -/
def wp (m : M α) (Q : α → World → Prop) (E : World → Prop) (w : World) : Prop :=
  match m w with
  | .ok a w' => Q a w'
  | .error _ w' => E w'

/-- `m` keeps `P`, whether it returns or faults. -/
def Keeps (P : World → Prop) (m : M α) : Prop := ∀ w, P w → wp m (fun _ => P) P w

section Wp
variable {α β : Type} {Q : α → World → Prop} {E : World → Prop} {w : World}

@[simp] theorem wp_bind (m : M β) (f : β → M α) :
    wp (m >>= f) Q E w = wp m (fun b => wp (f b) Q E) E w := by
  simp only [wp,bind,EStateM.bind]
  cases m w <;> rfl

@[simp] theorem wp_pure (a : α) : wp (pure a : M α) Q E w = Q a w := rfl

@[simp] theorem wp_map (f : β → α) (m : M β) : wp (f <$> m) Q E w = wp m (fun b => Q (f b)) E w := by
  simp only [wp,Functor.map,EStateM.map]
  cases m w <;> rfl

@[simp] theorem wp_getWorld {Q : World → World → Prop} : wp getWorld Q E w = Q w w := rfl

@[simp] theorem wp_getHandler {Q : Handler → World → Prop} : wp getHandler Q E w = Q w.handler w := rfl

@[simp] theorem wp_modifyHandler {Q : Unit → World → Prop} (f : Handler → Handler) :
    wp (modifyHandler f) Q E w = Q () (w.update (f w.handler)) := rfl

@[simp] theorem wp_emit {Q : Unit → World → Prop} (e : Effect) : wp (emit e) Q E w = Q () (w.record e) := rfl

@[simp] theorem wp_fault (f : Fault) : wp (fault f : M α) Q E w = E w := rfl

@[simp] theorem wp_acceptorDone {Q : Unit → World → Prop} : wp acceptorDone Q E w = Q () w.delete := rfl

@[simp] theorem wp_onlyIf {Q : Unit → World → Prop} (c : Bool) (m : M Unit) :
    wp (onlyIf c m) Q E w = if c then wp m Q E w else Q () w := by
  unfold onlyIf
  split <;> rfl

@[simp] theorem wp_ite (c : Prop) [Decidable c] (a b : M α) :
    wp (if c then a else b) Q E w = if c then wp a Q E w else wp b Q E w := by
  split <;> rfl

theorem wp_mono {m : M α} {Q' : α → World → Prop} {E' : World → Prop}
    (post : ∀ a w, Q a w → Q' a w) (err : ∀ w, E w → E' w) (holds : wp m Q E w) : wp m Q' E' w := by
  unfold wp at *
  cases result : m w <;> simp only [result] at holds ⊢
  · exact post _ _ holds
  · exact err _ holds

theorem wp_and {m : M α} {Q' : α → World → Prop} {E' : World → Prop}
    (first : wp m Q E w) (second : wp m Q' E' w) :
    wp m (fun a w => Q a w ∧ Q' a w) (fun w => E w ∧ E' w) w := by
  unfold wp at *
  cases result : m w <;> simp only [result] at first second ⊢ <;> exact ⟨first,second⟩

theorem wp_of_apply {m : M α} {a : α} {w' : World} (ran : m w = .ok a w') : wp m Q E w = Q a w' := by
  rw [wp,ran]

theorem wp_returns {m : M α} (holds : wp m Q (fun _ => False) w) : ∃ a w', m w = .ok a w' ∧ Q a w' := by
  unfold wp at holds
  split at holds
  · exact ⟨_,_,‹_›,holds⟩
  · exact holds.elim

theorem wp_final {m : M α} {P : World → Prop} (holds : wp m (fun _ => P) P w) : P (final (m w)) := by
  unfold wp at holds
  split at holds <;> rename_i result <;> simp only [final,result,holds]

theorem wp_forM {xs : List β} {f : β → M PUnit} {P : World → Prop}
    (each : ∀ x ∈ xs, ∀ w, P w → wp (f x) (fun _ => P) E w) : ∀ w, P w → wp (xs.forM f) (fun _ => P) E w := by
  induction xs with
  | nil => intro w holds; exact holds
  | cons x xs ih =>
    intro w holds
    simp only [List.forM_cons',wp_bind]
    exact wp_mono (fun _ w' kept => ih (fun y member => each y (by simp [member])) w' kept)
      (fun _ faulted => faulted) (each x (by simp) w holds)

end Wp

/-! ## Runs that stop at a given fault -/

/-- `m` from `w` stops the process at `f`. -/
def StopsAt (f : Fault) (m : M α) (w : World) : Prop := faultOf (m w) = some f

section StopsAt
variable {α β : Type} {f : Fault} {w : World} {g : β → M α}

theorem stopsAt_bind (Q : β → World → Prop) {m : M β} (first : wp m Q (fun _ => False) w)
    (rest : ∀ b w', Q b w' → StopsAt f (g b) w') : StopsAt f (m >>= g) w := by
  obtain ⟨b,w',ran,holds⟩ := wp_returns first
  simpa only [StopsAt,bind_apply,ran] using rest b w' holds

theorem stopsAt_bind_ok {m : M β} {b : β} {w' : World} (ran : m w = .ok b w') :
    StopsAt f (m >>= g) w ↔ StopsAt f (g b) w' := by
  simp only [StopsAt,bind_apply,ran]

theorem StopsAt.bind {m : M β} (first : StopsAt f m w) : StopsAt f (m >>= g) w := by
  unfold StopsAt at first ⊢
  rw [bind_apply]
  cases ran : m w <;> simp_all [faultOf]

@[simp] theorem stopsAt_fault (f' : Fault) : StopsAt f (fault f' : M α) w ↔ f' = f := by
  simp [StopsAt,faultOf]

@[simp] theorem stopsAt_fault_bind (f' : Fault) : StopsAt f (fault f' >>= g) w ↔ f' = f := by
  simp [StopsAt,faultOf]

@[simp] theorem stopsAt_getHandler_bind {g : Handler → M α} : StopsAt f (getHandler >>= g) w ↔ StopsAt f (g w.handler) w :=
  Iff.rfl

@[simp] theorem stopsAt_getWorld_bind {g : World → M α} : StopsAt f (getWorld >>= g) w ↔ StopsAt f (g w) w := Iff.rfl

@[simp] theorem stopsAt_modifyHandler_bind {g : Unit → M α} (h : Handler → Handler) :
    StopsAt f (modifyHandler h >>= g) w ↔ StopsAt f (g ()) (w.update (h w.handler)) := Iff.rfl

@[simp] theorem stopsAt_emit_bind {g : Unit → M α} (e : Effect) :
    StopsAt f (emit e >>= g) w ↔ StopsAt f (g ()) (w.record e) := Iff.rfl

@[simp] theorem stopsAt_acceptorDone_bind {g : Unit → M α} :
    StopsAt f (acceptorDone >>= g) w ↔ StopsAt f (g ()) w.delete := Iff.rfl

@[simp] theorem stopsAt_ite (c : Prop) [Decidable c] (a b : M α) :
    StopsAt f (if c then a else b) w ↔ if c then StopsAt f a w else StopsAt f b w := by
  split <;> rfl

end StopsAt

/-! ## Programs that keep a predicate -/

section Keeps
variable {α β : Type} {P : World → Prop}

theorem Keeps.wp {m : M α} {Q : α → World → Prop} {E : World → Prop} {w : World} (kept : Keeps P m)
    (holds : P w) (post : ∀ a w, P w → Q a w) (err : ∀ w, P w → E w) : wp m Q E w :=
  wp_mono post err (kept w holds)

theorem Keeps.final {m : M α} {w : World} (kept : Keeps P m) (holds : P w) : P (final (m w)) :=
  wp_final (kept w holds)

theorem Keeps.and {P' : World → Prop} {m : M α} (first : Keeps P m) (second : Keeps P' m) :
    Keeps (fun w => P w ∧ P' w) m := fun w holds => wp_and (first w holds.1) (second w holds.2)

theorem Keeps.bind {m : M β} {f : β → M α} (first : Keeps P m) (rest : ∀ b, Keeps P (f b)) :
    Keeps P (m >>= f) := fun w holds => by
  rw [wp_bind]
  exact first.wp holds (fun b w' kept => rest b w' kept) (fun _ kept => kept)

theorem Keeps.pure (a : α) : Keeps P (Pure.pure a : M α) := fun _ holds => holds

theorem Keeps.getHandler : Keeps P getHandler := fun _ holds => holds

theorem Keeps.getWorld : Keeps P getWorld := fun _ holds => holds

theorem Keeps.fault (f : Fault) : Keeps P (fault f : M α) := fun _ holds => holds

theorem Keeps.emit {e : Effect} (recorded : ∀ w, P w → P (w.record e)) : Keeps P (emit e) :=
  fun w holds => recorded w holds

theorem Keeps.acceptorDone (deleted : ∀ w, P w → P w.delete) : Keeps P acceptorDone :=
  fun w holds => deleted w holds

theorem Keeps.modifyHandler {f : Handler → Handler} (updated : ∀ w, P w → P (w.update (f w.handler))) :
    Keeps P (modifyHandler f) := fun w holds => updated w holds

theorem Keeps.ite {c : Prop} {_ : Decidable c} {a b : M α} (yes : Keeps P a) (no : Keeps P b) :
    Keeps P (if c then a else b) := by
  split
  · exact yes
  · exact no

theorem Keeps.onlyIf {c : Bool} {m : M Unit} (kept : Keeps P m) : Keeps P (onlyIf c m) :=
  Keeps.ite kept (Keeps.pure _)

theorem Keeps.forM {xs : List β} {f : β → M PUnit} (each : ∀ x, Keeps P (f x)) : Keeps P (xs.forM f) :=
  wp_forM fun x _ => each x

end Keeps

end FizzServer.Connection
