import Mathlib.Tactic.Ring

/-! `FizzServerAcceptor`: the listening socket and the one live connection
handler. Accepting pauses when a connection arrives and resumes when the
handler reports `done()`, so a connection never arrives while a handler is live;
without `-loop` the first `done()` releases the listening socket instead. -/
namespace FizzServer.Acceptor

/-- The fields of `FizzServerAcceptor` its members read and write: `socket_` and
whether it accepts, `cb_` and `inputHandler_` by the connection they serve, the
counts of connections and `done()` calls, and whether `terminateLoopSoon()` has
been called. -/
structure FizzServerAcceptor where
  loop : Bool
  http : Bool
  socket : Option Bool
  cb : Option Nat
  inputHandler : Option Nat
  accepted : Nat
  completed : Nat
  terminating : Bool
  deriving DecidableEq, Repr

def FizzServerAcceptor.init (loop http : Bool) : FizzServerAcceptor :=
  { loop := loop, http := http, socket := some true, cb := none, inputHandler := none, accepted := 0,
    completed := 0, terminating := false }

/-- A new connection: `socket_->pauseAccepting()` (`none` through a null
`socket_`), a handler of the configured class, and the terminal input handler
for it unless `-http`. -/
def connectionAccepted (a : FizzServerAcceptor) : Option FizzServerAcceptor := do
  let _ ← a.socket
  pure { a with
    socket := some false, cb := some a.accepted,
    inputHandler := if a.http then a.inputHandler else some a.accepted, accepted := a.accepted + 1 }

def acceptError (a : FizzServerAcceptor) : FizzServerAcceptor :=
  if a.loop then a else { a with terminating := true }

/-- The handler is released, then accepting resumes under `-loop` (`none`
through a null `socket_`) and the listening socket is released otherwise. -/
def done (a : FizzServerAcceptor) : Option FizzServerAcceptor :=
  let released := { a with cb := none, inputHandler := none, completed := a.completed + 1 }
  if a.loop then do
    let _ ← a.socket
    pure { released with socket := some true }
  else pure { released with socket := none }

inductive Event where
  | connectionAccepted
  | acceptError
  | done
  deriving DecidableEq, Repr

def step (a : FizzServerAcceptor) : Event → Option FizzServerAcceptor
  | .connectionAccepted => connectionAccepted a
  | .acceptError => some (acceptError a)
  | .done => done a

/-- What the event loop delivers until `terminateLoopSoon()` stops it: the
listening socket reports a connection only while it is accepting and an error
only while it exists, and `done()` comes from the live handler. -/
def Enabled (a : FizzServerAcceptor) : Event → Prop
  | .connectionAccepted => a.terminating = false ∧ a.socket = some true
  | .acceptError => a.terminating = false ∧ a.socket.isSome
  | .done => a.terminating = false ∧ a.cb.isSome

instance (a : FizzServerAcceptor) (e : Event) : Decidable (Enabled a e) := by
  cases e <;> unfold Enabled <;> infer_instance

inductive Reachable (loop http : Bool) : FizzServerAcceptor → Prop
  | init : Reachable loop http (.init loop http)
  | step {a a' : FizzServerAcceptor} {e : Event} :
      Reachable loop http a → Enabled a e → step a e = some a' → Reachable loop http a'

structure Inv (a : FizzServerAcceptor) : Prop where
  paused : a.cb.isSome → a.socket = some false
  input : a.inputHandler = if a.http then none else a.cb
  counted : a.completed + (if a.cb.isSome then 1 else 0) = a.accepted
  latest : ∀ h, a.cb = some h → h + 1 = a.accepted
  listening : a.loop → a.socket.isSome
  resumed : a.loop → a.cb = none → a.socket = some true
  once : a.loop = false → (a.socket = some true ↔ a.accepted = 0) ∧ (0 < a.completed → a.socket = none)
  single : a.loop = false → a.accepted ≤ 1
  quit : a.terminating → a.loop = false

theorem init_inv (loop http : Bool) : Inv (.init loop http) where
  paused := nofun
  input := by cases http <;> rfl
  counted := rfl
  latest := nofun
  listening _ := rfl
  resumed _ _ := rfl
  once _ := ⟨by simp [FizzServerAcceptor.init],nofun⟩
  single _ := Nat.zero_le _
  quit := nofun

section Step
variable {a a' : FizzServerAcceptor}

theorem step_cases {e : Event} (stepped : step a e = some a') :
    (e = .connectionAccepted ∧ a.socket.isSome ∧
      a' = { a with
        socket := some false, cb := some a.accepted,
        inputHandler := if a.http then a.inputHandler else some a.accepted, accepted := a.accepted + 1 }) ∨
    (e = .acceptError ∧ a' = acceptError a) ∨
    (e = .done ∧ (a.loop → a.socket.isSome) ∧
      a' = { a with
        cb := none, inputHandler := none, completed := a.completed + 1,
        socket := if a.loop then some true else none }) := by
  cases e with
  | connectionAccepted =>
    cases socket : a.socket <;> simp_all [step,connectionAccepted]
  | acceptError => exact .inr (.inl ⟨rfl,(Option.some.inj stepped).symm⟩)
  | done =>
    simp only [step,done] at stepped
    cases looping : a.loop <;> cases socket : a.socket <;> simp_all

theorem step_config {e : Event} (stepped : step a e = some a') : a'.loop = a.loop ∧ a'.http = a.http := by
  rcases step_cases stepped with ⟨-,-,rfl⟩ | ⟨-,rfl⟩ | ⟨-,-,rfl⟩
  · exact ⟨rfl,rfl⟩
  · unfold acceptError; split <;> exact ⟨rfl,rfl⟩
  · exact ⟨rfl,rfl⟩

theorem step_inv {e : Event} (inv : Inv a) (enabled : Enabled a e) (stepped : step a e = some a') : Inv a' := by
  have counted := inv.counted
  rcases step_cases stepped with ⟨rfl,-,rfl⟩ | ⟨rfl,rfl⟩ | ⟨rfl,listening,rfl⟩
  · have accepting : a.socket = some true := enabled.2
    have idle : a.cb = none := Option.not_isSome_iff_eq_none.mp fun live => by simp [inv.paused live] at accepting
    have input := inv.input
    simp only [idle,Option.isSome_none,Bool.false_eq_true,if_false,add_zero,ite_self] at counted input
    refine ⟨fun _ => rfl,by cases a.http <;> simp [input],by simp [counted],fun _ live => by cases live; rfl,
      fun _ => rfl,fun _ live => (nomatch live),fun single => ?_,fun single => ?_,inv.quit⟩
    all_goals have fresh := (inv.once single).1.mp accepting
    · exact ⟨by simp,fun positive => by simp only at positive; omega⟩
    · simp only [fresh,zero_add,le_refl]
  · unfold acceptError
    split
    · exact inv
    · rename_i single
      exact ⟨inv.paused,inv.input,inv.counted,inv.latest,inv.listening,inv.resumed,inv.once,inv.single,
        fun _ => by simpa using single⟩
  · have live : a.cb.isSome = true := enabled.2
    simp only [live,if_true] at counted
    refine ⟨nofun,by simp,by simp [← counted],nofun,fun looping => ?_,fun looping _ => ?_,fun single => ?_,
      inv.single,inv.quit⟩
    · simp only at looping
      simp [looping]
    · simp only at looping
      simp [looping]
    · simp only at single
      simp only [single,Bool.false_eq_true,if_false,reduceCtorEq,false_iff,implies_true,and_true]
      omega

end Step

theorem reachable_inv {loop http : Bool} {a : FizzServerAcceptor} (reachable : Reachable loop http a) : Inv a := by
  induction reachable with
  | init => exact init_inv loop http
  | step _ enabled stepped inv => exact step_inv inv enabled stepped

theorem reachable_config {loop http : Bool} {a : FizzServerAcceptor} (reachable : Reachable loop http a) :
    a.loop = loop ∧ a.http = http := by
  induction reachable with
  | init => exact ⟨rfl,rfl⟩
  | step _ _ stepped config =>
    obtain ⟨loop',http'⟩ := step_config stepped
    exact ⟨loop'.trans config.1,http'.trans config.2⟩

theorem idle_of_accepting {a : FizzServerAcceptor} (inv : Inv a) (accepting : a.socket = some true) : a.cb = none :=
  Option.not_isSome_iff_eq_none.mp fun live => by simp [inv.paused live] at accepting

/-- `FizzServerAcceptor` over any run: a connection never arrives while a
handler is live, so every event steps without a null `socket_` and every member
but `done()` leaves the live handler and its terminal input handler in place;
under `-loop` accepting resumes exactly at a `done()`, which releases the live
handler; without it, once `done()` has been called the listening socket is gone
and no connection is accepted again. -/
theorem acceptor_one_handler_at_a_time (loop http : Bool) :
    (∀ a, Reachable loop http a → Enabled a .connectionAccepted → a.cb = none) ∧
    (∀ a e, Reachable loop http a → Enabled a e → ∃ a', step a e = some a' ∧
      (e ≠ .done → ∀ h, a.cb = some h → a'.cb = some h ∧ a'.inputHandler = a.inputHandler)) ∧
    (loop = true → ∀ a e a', Reachable loop http a → Enabled a e → step a e = some a' →
      ((a.socket ≠ some true ∧ a'.socket = some true) ↔ e = .done) ∧ (e = .done → a.cb.isSome ∧ a'.cb = none)) ∧
    (loop = false → ∀ a, Reachable loop http a → 0 < a.completed →
      a.socket = none ∧ ¬ Enabled a .connectionAccepted) := by
  refine ⟨fun a reachable enabled => idle_of_accepting (reachable_inv reachable) enabled.2,fun a e reachable enabled => ?_,
    fun looping a e a' reachable enabled stepped => ?_,fun single a reachable completed => ?_⟩
  · have inv := reachable_inv reachable
    cases e with
    | connectionAccepted =>
      have accepting : a.socket = some true := enabled.2
      refine ⟨_,by simp only [step,connectionAccepted,accepting]; rfl,fun _ h live => ?_⟩
      simp [idle_of_accepting inv accepting] at live
    | acceptError =>
      refine ⟨_,rfl,fun _ _ live => ?_⟩
      unfold acceptError
      split <;> exact ⟨live,rfl⟩
    | done =>
      have socket := inv.paused enabled.2
      refine ⟨{ a with
        cb := none, inputHandler := none, completed := a.completed + 1,
        socket := if a.loop then some true else none },?_,fun notDone => absurd rfl notDone⟩
      cases looping : a.loop <;> simp [step,done,socket,looping]
  · have inv := reachable_inv reachable
    have looping' : a.loop = true := (reachable_config reachable).1.trans looping
    rcases step_cases stepped with ⟨rfl,-,rfl⟩ | ⟨rfl,rfl⟩ | ⟨rfl,-,rfl⟩
    · simp
    · unfold acceptError
      simp [looping']
    · have live : a.cb.isSome = true := enabled.2
      simp [looping',inv.paused live,live]
  · have once := (reachable_inv reachable).once ((reachable_config reachable).1.trans single)
    have released := once.2 completed
    exact ⟨released,fun accepting => nomatch released.symm.trans accepting.2⟩

theorem acceptor_one_handler_at_a_time_loop :
    Reachable true false { FizzServerAcceptor.init true false with
      socket := some false, cb := some 0, inputHandler := some 0, accepted := 1 } ∧
    Enabled { FizzServerAcceptor.init true false with
      socket := some false, cb := some 0, inputHandler := some 0, accepted := 1 } .done ∧
    step { FizzServerAcceptor.init true false with
      socket := some false, cb := some 0, inputHandler := some 0, accepted := 1 } .done =
      some { FizzServerAcceptor.init true false with accepted := 1, completed := 1 } ∧
    ((some false ≠ some true ∧ some true = some true) ↔ Event.done = .done) ∧
      (Event.done = .done → (some 0).isSome ∧ (none : Option Nat) = none) :=
  have reachable : Reachable true false { FizzServerAcceptor.init true false with
      socket := some false, cb := some 0, inputHandler := some 0, accepted := 1 } :=
    @Reachable.step true false _ _ .connectionAccepted .init ⟨rfl,rfl⟩ rfl
  ⟨reachable,⟨rfl,rfl⟩,rfl,
    (acceptor_one_handler_at_a_time true false).2.2.1 rfl _ .done _ reachable ⟨rfl,rfl⟩ rfl⟩

theorem acceptor_accounting {loop http : Bool} {a : FizzServerAcceptor} (reachable : Reachable loop http a) :
    a.completed + (if a.cb.isSome then 1 else 0) = a.accepted ∧ (∀ h, a.cb = some h → h + 1 = a.accepted) ∧
    (loop = false → a.accepted ≤ 1) ∧ (a.terminating → loop = false) := by
  have inv := reachable_inv reachable
  have looping := (reachable_config reachable).1
  exact ⟨inv.counted,inv.latest,fun single => inv.single (looping.trans single),
    fun terminating => looping.symm.trans (inv.quit terminating)⟩

/-- The acceptor never stalls under `-loop`: at every reachable point it either
accepts a connection or has a live handler that will call `done()`, never both.
Without `-loop` the run ends, with nothing left for the event loop to deliver,
exactly when the first handler has called `done()` or an accept error has told
the event loop to stop. -/
theorem acceptor_progress {loop http : Bool} {a : FizzServerAcceptor} (reachable : Reachable loop http a) :
    (loop = true → (Enabled a .connectionAccepted ↔ ¬ Enabled a .done)) ∧
    (loop = false → ((∀ e, ¬ Enabled a e) ↔ 0 < a.completed ∨ a.terminating)) := by
  have inv := reachable_inv reachable
  have looping := (reachable_config reachable).1
  have counted := inv.counted
  refine ⟨fun looped => ?_,fun off => ?_⟩
  · have running : a.terminating = false := Bool.eq_false_iff.mpr fun stopped => by
      simpa [looping,looped] using inv.quit stopped
    cases live : a.cb with
    | none => simp [Enabled,running,inv.resumed (looping.trans looped) live,live]
    | some h => simp [Enabled,running,inv.paused (by simp [live]),live]
  · have once := inv.once (looping.trans off)
    have single := inv.single (looping.trans off)
    constructor
    · intro stuck
      cases running : a.terminating
      · have released : a.socket = none := Option.not_isSome_iff_eq_none.mp fun open_ => stuck .acceptError ⟨running,open_⟩
        have idle : a.cb = none := Option.not_isSome_iff_eq_none.mp fun live => stuck .done ⟨running,live⟩
        have started : a.accepted ≠ 0 := fun fresh => by simp [once.1.mpr fresh] at released
        simp only [idle,Option.isSome_none,Bool.false_eq_true,if_false,add_zero] at counted
        exact .inl (by omega)
      · exact .inr rfl
    · rintro (completed | stopped) e
      · have idle : a.cb = none := Option.not_isSome_iff_eq_none.mp fun live => by simp [live] at counted; omega
        cases e <;> simp [Enabled,once.2 completed,idle]
      · cases e <;> simp [Enabled,stopped]

theorem acceptor_progress_single :
    Reachable false false { FizzServerAcceptor.init false false with socket := none, accepted := 1, completed := 1 } ∧
    (false = true → (Enabled { FizzServerAcceptor.init false false with socket := none, accepted := 1, completed := 1 }
      .connectionAccepted ↔
      ¬ Enabled { FizzServerAcceptor.init false false with socket := none, accepted := 1, completed := 1 } .done)) ∧
    (false = false → ((∀ e, ¬ Enabled { FizzServerAcceptor.init false false with
      socket := none, accepted := 1, completed := 1 } e) ↔ 0 < 1 ∨ false = true)) :=
  have first : Reachable false false { FizzServerAcceptor.init false false with
      socket := some false, cb := some 0, inputHandler := some 0, accepted := 1 } :=
    @Reachable.step false false _ _ .connectionAccepted .init ⟨rfl,rfl⟩ rfl
  have released : Reachable false false
      { FizzServerAcceptor.init false false with socket := none, accepted := 1, completed := 1 } :=
    @Reachable.step false false _ _ .done first ⟨rfl,rfl⟩ rfl
  ⟨released,acceptor_progress released⟩

theorem acceptor_accounting_second :
    Reachable true false { FizzServerAcceptor.init true false with
      socket := some false, cb := some 1, inputHandler := some 1, accepted := 2, completed := 1 } ∧
    1 + (if (some 1).isSome then 1 else 0) = 2 ∧ (∀ h, some 1 = some h → h + 1 = 2) ∧ (true = false → 2 ≤ 1) ∧
      (false = true → true = false) :=
  have first : Reachable true false { FizzServerAcceptor.init true false with
      socket := some false, cb := some 0, inputHandler := some 0, accepted := 1 } :=
    @Reachable.step true false _ _ .connectionAccepted .init ⟨rfl,rfl⟩ rfl
  have released : Reachable true false { FizzServerAcceptor.init true false with accepted := 1, completed := 1 } :=
    @Reachable.step true false _ _ .done first ⟨rfl,rfl⟩ rfl
  have second : Reachable true false { FizzServerAcceptor.init true false with
      socket := some false, cb := some 1, inputHandler := some 1, accepted := 2, completed := 1 } :=
    @Reachable.step true false _ _ .connectionAccepted released ⟨rfl,rfl⟩ rfl
  ⟨second,acceptor_accounting second⟩

end FizzServer.Acceptor
