import FizzServer.Connection.Slots

/-! `acceptor_->done()`: `finish()` calls it once, after it empties the slots, and
every later `finish()`, nested in a teardown call or delivered afterwards, finds
the slots empty. A callback nested in `finish()` may still stop the process
first: a fallback request fails its `CHECK`. And `done()` deletes the handler
before the moved-out transport is released, so a callback delivered from the
release reaches freed memory. -/
namespace FizzServer.Connection
open FizzExampleServer

def doneCount (w : World) : Nat := w.effects.count .done

/-- While a slot is populated `done()` has not been called, and it is never
called twice. -/
def DoneOnce (w : World) : Prop := (¬ Closed w → doneCount w = 0) ∧ doneCount w ≤ 1

/-- Each call of `done()` so far was made with both slots empty. -/
def DoneClean (w : World) : Prop := ∀ h ∈ w.doneWith, h.transport = none ∧ h.sslSocket = none

def Settled (k : Nat) (w : World) : Prop := Closed w ∧ doneCount w = k

theorem doneCount_record_of_ne {w : World} {e : Effect} (notDone : e ≠ .done) :
    doneCount (w.record e) = doneCount w := by
  simp [doneCount,World.record,List.count_singleton,Ne.symm notDone]

theorem doneCount_delete (w : World) : doneCount w.delete = doneCount w + 1 := by
  simp [doneCount]

theorem deleted_of_doneCount {w : World} (fresh : doneCount w = 0) : w.deleted = false := by
  simpa [World.deleted,doneCount,List.count_eq_zero] using fresh

@[simp] theorem doneCount_update (w : World) (h : Handler) : doneCount (w.update h) = doneCount w := rfl

theorem Settled.record {k : Nat} {w : World} {e : Effect} (settled : Settled k w) (notDone : e ≠ .done) :
    Settled k (w.record e) :=
  ⟨settled.1,(doneCount_record_of_ne notDone).trans settled.2⟩

variable {clientRandom : Bytes}

theorem calm_settled (k : Nat) : Calm clientRandom (Settled k) where
  record _ _ quiet settled := settled.record (Effect.ne_done_of_quiet quiet)
  update _ _ shrinks settled := ⟨settled.1.update shrinks,settled.2⟩

theorem wp_finish_closed {call : Site → M Unit} {Q : Unit → World → Prop} {E : World → Prop} {w : World}
    (closed : Closed w) : wp (finish call) Q E w = Q () w := by
  simp only [finish,wp_bind,wp_getHandler,closed.1,closed.2,Option.isSome_none,Bool.or_self,
    Bool.false_eq_true,if_false,wp_pure]

theorem finish_settled (k : Nat) (call : Site → M Unit) : Keeps (Settled k) (finish call) :=
  fun _ settled => (wp_finish_closed settled.1).mpr settled

theorem fallback_settled (k : Nat) (call : Site → M Unit) (clientHello : Bytes) :
    Keeps (Settled k) (fizzHandshakeAttemptFallback call clientHello) := by
  intro w settled
  simp only [fizzHandshakeAttemptFallback,wp_bind,wp_getHandler,settled.1.1,wp_fault]
  exact settled

theorem onlyIf_settles {c : Bool} {m : M Unit} {k : Nat} {E : World → Prop} {w : World}
    (settled : Settled k w) (kept : ∀ w, Settled k w → wp m (fun _ => Settled k) E w) :
    wp (onlyIf c m) (fun _ => Settled k) E w := by
  rw [wp_onlyIf]
  split
  · exact kept w settled
  · exact settled

variable {mode : Mode} {env : Env}

theorem dispatch_keeps_settled (k : Nat) : ∀ n e, Keeps (Settled k) (dispatch mode env n e) :=
  keeps_dispatch (calm_settled k) (fun _ _ => finish_settled k _) (fun _ _ _ => fallback_settled k _ _)

theorem exclusive_doneOnce_update {w : World} {h : Handler} (kept : Exclusive w.handler ∧ DoneOnce w)
    (shrinks : Shrinks w.handler h) : Exclusive (w.update h).handler ∧ DoneOnce (w.update h) :=
  ⟨kept.1.shrink shrinks,fun open_ => kept.2.1 fun closed => open_ (closed.update shrinks),kept.2.2⟩

theorem calm_doneOnce : Calm clientRandom fun w => Exclusive w.handler ∧ DoneOnce w where
  record w _ quiet kept := by
    refine ⟨kept.1,?_⟩
    simpa only [DoneOnce,doneCount_record_of_ne (Effect.ne_done_of_quiet quiet)] using kept.2
  update _ _ shrinks kept := exclusive_doneOnce_update kept shrinks

theorem keeps_doneOnce_modify {f : Handler → Handler} (shrinks : ∀ h, Shrinks h (f h)) :
    Keeps (fun w => Exclusive w.handler ∧ DoneOnce w) (modifyHandler f) :=
  Keeps.modifyHandler fun _ kept => exclusive_doneOnce_update kept (shrinks _)

section Members
variable {call : Site → M Unit}

theorem finish_done {k : Nat} {E : World → Prop}
    (before : ∀ site, site.beforeDone → ∀ w, Settled k w → wp (call site) (fun _ => Settled k) E w)
    (release : ∀ w, Settled (k + 1) w → wp (call .finishRelease) (fun _ => Settled (k + 1)) E w)
    {w : World} (populated : ¬ Closed w) (count : doneCount w = k) :
    wp (finish call) (fun _ => Settled (k + 1)) E w := by
  simp only [finish,wp_bind,wp_getHandler]
  split
  · rw [wp_bind,wp_modifyHandler,wp_bind,wp_modifyHandler,wp_bind]
    refine wp_mono (fun _ w' settled => ?_) (fun _ faulted => faulted) (onlyIf_settles ⟨⟨rfl,rfl⟩,count⟩ (before _ rfl))
    rw [wp_bind]
    refine wp_mono (fun _ w' settled => ?_) (fun _ faulted => faulted) (onlyIf_settles settled (before _ rfl))
    rw [wp_bind,wp_acceptorDone]
    exact onlyIf_settles ⟨settled.1,by rw [doneCount_delete,settled.2]⟩ release
  · rename_i empty
    simp only [Bool.or_eq_true,Option.isSome_iff_ne_none,not_or,not_not] at empty
    exact (populated empty).elim

variable (settles : ∀ k site, Keeps (Settled k) (call site))
include settles

theorem finish_doneOnce : Keeps (fun w => Exclusive w.handler ∧ DoneOnce w) (finish call) := by
  have settledOnce : ∀ w, Closed w → doneCount w ≤ 1 → Exclusive w.handler ∧ DoneOnce w :=
    fun _ closed atMost => ⟨.inl closed.1,fun open_ => (open_ closed).elim,atMost⟩
  intro w kept
  by_cases closed : Closed w
  · exact Keeps.wp (finish_settled (doneCount w) call) ⟨closed,rfl⟩
      (fun _ w' settled => settledOnce w' settled.1 (settled.2 ▸ kept.2.2))
      (fun w' settled => settledOnce w' settled.1 (settled.2 ▸ kept.2.2))
  · have done : wp (finish call) (fun _ => Settled 1) (fun w' => Closed w' ∧ doneCount w' ≤ 1) w :=
      finish_done (fun site _ _ settled => Keeps.wp (settles 0 site) settled (fun _ _ kept => kept)
          fun _ kept => ⟨kept.1,by simp [kept.2]⟩)
        (fun _ settled => Keeps.wp (settles 1 _) settled (fun _ _ kept => kept) fun _ kept => ⟨kept.1,kept.2.le⟩)
        closed (kept.2.1 closed)
    exact wp_mono (fun _ w' settled => settledOnce w' settled.1 settled.2.le) (fun w' kept => settledOnce w' kept.1 kept.2)
      done

variable (calls : ∀ site, Keeps (fun w => Exclusive w.handler ∧ DoneOnce w) (call site))
include calls

theorem fallback_doneOnce (clientHello : Bytes) :
    Keeps (fun w => Exclusive w.handler ∧ DoneOnce w) (fizzHandshakeAttemptFallback call clientHello) := by
  intro w kept
  simp only [fizzHandshakeAttemptFallback,wp_bind,wp_getHandler]
  split
  · exact kept
  · rename_i native present
    have fresh : doneCount w = 0 := kept.2.1 fun closed => by simp [closed.1] at present
    have noLegacy : w.handler.sslSocket = none := kept.1.resolve_left (by simp [present])
    rw [wp_bind,wp_emit,wp_bind,wp_modifyHandler,wp_bind]
    refine Keeps.wp (settles 0 _) ⟨⟨rfl,noLegacy⟩,by rw [doneCount_update,doneCount_record_of_ne (by simp),fresh]⟩
      (fun _ w' settled => ?_) (fun _ settled => ⟨.inl settled.1.1,fun _ => settled.2,by simp [settled.2]⟩)
    rw [wp_bind,wp_getHandler,wp_bind,wp_modifyHandler]
    refine Keeps.wp ((calls _).onlyIf.bind fun _ => keeps_requireSslSocket.bind fun _ =>
      (keeps_doneOnce_modify ?_).bind fun _ => keeps_requireSslSocket.bind fun _ => calls _)
      ⟨.inl settled.1.1,fun _ => settled.2,by simp [settled.2]⟩ (fun _ _ kept => kept) (fun _ kept => kept)
    exact fun _ => ⟨id,by simp⟩

end Members

theorem dispatch_keeps_doneOnce : ∀ n e, Keeps (fun w => Exclusive w.handler ∧ DoneOnce w) (dispatch mode env n e) :=
  keeps_dispatch calm_doneOnce
    (fun n _ => finish_doneOnce fun k => keeps_transportCall (calm_settled k) (dispatch_keeps_settled k n))
    (fun n clientHello nested => fallback_doneOnce
      (fun k => keeps_transportCall (calm_settled k) (dispatch_keeps_settled k n))
      (keeps_transportCall calm_doneOnce nested) clientHello)

/-! ## Each call of `done()` with the slots empty -/

theorem calm_doneClean : Calm clientRandom DoneClean where
  record _ _ _ clean := clean
  update _ _ _ clean := clean

theorem DoneClean.delete {w : World} (clean : DoneClean w) (closed : Closed w) : DoneClean w.delete := by
  intro h member
  rcases List.mem_cons.mp member with rfl | member
  · exact closed
  · exact clean h member

theorem finish_doneClean {call : Site → M Unit} (calls : ∀ site, Keeps (fun w => Closed w ∧ DoneClean w) (call site)) :
    Keeps DoneClean (finish call) := by
  intro w clean
  simp only [finish,wp_bind,wp_getHandler]
  split
  · rw [wp_bind,wp_modifyHandler,wp_bind,wp_modifyHandler]
    exact Keeps.wp ((calls _).onlyIf.bind fun _ => (calls _).onlyIf.bind fun _ =>
      (Keeps.acceptorDone fun _ kept => ⟨kept.1,kept.2.delete kept.1⟩).bind fun _ => (calls _).onlyIf)
      ⟨⟨rfl,rfl⟩,clean⟩ (fun _ _ kept => kept.2) (fun _ kept => kept.2)
  · exact clean

theorem dispatch_keeps_doneClean : ∀ n e, Keeps DoneClean (dispatch mode env n e) :=
  keeps_dispatch calm_doneClean
    (fun n nested => finish_doneClean
      (keeps_transportCall (calm_closed.and calm_doneClean) fun e => (dispatch_keeps_closed n e).and (nested e)))
    (fun _ clientHello nested => keeps_fallback (fun _ _ clean => clean) (fun _ _ clean _ => clean)
      (keeps_transportCall calm_doneClean nested) clientHello)

/-! ## A terminal callback -/

/-- Only terminal callbacks, the re-entrant `finish()` calls, are delivered from
inside the calls `finish()` makes before `done()`. -/
def ReentersFinish (env : Env) : Prop :=
  ∀ site w, site.beforeDone → ∀ e ∈ env.replies site w, e.terminal

/-- Releasing the moved-out transport delivers nothing to the deleted handler. -/
def ReleasesQuietly (env : Env) : Prop := ∀ w, env.replies .finishRelease w = []

theorem terminal_finishes {e : Event} (terminal : e.terminal) (n : Nat) (w : World) :
    ∃ w', w'.handler = w.handler ∧ doneCount w' = doneCount w ∧
      dispatch mode env (n + 1) e w = finish (transportCall env (dispatch mode env n)) w' := by
  obtain ⟨w',before,ran⟩ := handle_terminal terminal mode env (transportCall env (dispatch mode env n)) w
  rcases before with rfl | ⟨line,rfl⟩
  · exact ⟨_,rfl,rfl,ran⟩
  · exact ⟨w.record (.log line),rfl,doneCount_record_of_ne (by simp),ran⟩

theorem terminal_settled (k : Nat) : ∀ n e w, e.terminal → Settled k w →
    wp (dispatch mode env n e) (fun _ => Settled k) (fun _ => False) w
  | 0, _, _, _, settled => settled
  | n + 1, e, w, terminal, settled => by
    obtain ⟨w',handler,count,ran⟩ := terminal_finishes terminal n w
    have settled' : Settled k w' := ⟨by simpa only [Closed,handler] using settled.1,count.trans settled.2⟩
    rw [wp,ran]
    exact (wp_finish_closed settled'.1).mpr settled'

theorem finishCall_settled (reenters : ReentersFinish env) (n : Nat) (site : Site) (beforeDone : site.beforeDone)
    (w : World) (settled : Settled 0 w) :
    wp (transportCall env (dispatch mode env n) site) (fun _ => Settled 0) (fun _ => False) w := by
  rw [transportCall,wp_bind,wp_emit,wp_bind,wp_getWorld]
  refine wp_forM (fun e member w' settled' => ?_) _ (settled.record (by simp))
  rw [wp_bind,wp_getWorld,deleted_of_doneCount settled'.2]
  exact terminal_settled 0 n e w' (reenters site _ beforeDone e member) settled'

theorem releaseCall_settled (quiet : ReleasesQuietly env) (k : Nat) (deliver : Event → M Unit) (w : World)
    (settled : Settled k w) : wp (transportCall env deliver .finishRelease) (fun _ => Settled k) (fun _ => False) w := by
  rw [transportCall,wp_bind,wp_emit,wp_bind,wp_getWorld,quiet]
  exact settled.record (by simp)

/-- With only re-entrant `finish()` calls delivered before `done()` and nothing
from the release, a terminal callback on a live handler with a slot populated
returns, having emptied both slots and called `done()` once. -/
theorem terminal_done (reenters : ReentersFinish env) (quiet : ReleasesQuietly env) (n : Nat) (e : Event)
    (terminal : e.terminal) {w : World} (populated : ¬ Closed w) (fresh : doneCount w = 0) :
    wp (dispatch mode env (n + 1) e) (fun _ => Settled 1) (fun _ => False) w := by
  obtain ⟨w',handler,count,ran⟩ := terminal_finishes terminal n w
  rw [wp,ran]
  exact finish_done (finishCall_settled reenters n) (releaseCall_settled quiet 1 _)
    (by simpa only [Closed,handler] using populated) (count.trans fresh)

theorem transportCall_deleted {deliver : Event → M Unit} {site : Site} {w : World} (deleted : w.deleted)
    (delivers : env.replies site (w.record (.call site)) ≠ []) :
    StopsAt .deletedHandler (transportCall env deliver site) w := by
  obtain ⟨e,rest,replies⟩ := List.exists_cons_of_ne_nil delivers
  have still : (w.record (.call site)).deleted := by simpa [World.deleted] using deleted
  simp [transportCall,replies,List.forM_cons,still]

theorem finish_release_faults {call : Site → M Unit}
    (before : ∀ site, site.beforeDone → ∀ w, Settled 0 w → wp (call site) (fun _ => Settled 0) (fun _ => False) w)
    (release : ∀ w, w.deleted → StopsAt .deletedHandler (call .finishRelease) w) {w : World}
    (present : w.handler.transport.isSome) (fresh : doneCount w = 0) :
    StopsAt .deletedHandler (finish call) w := by
  simp only [finish,stopsAt_getHandler_bind,present,Bool.true_or,if_true,stopsAt_modifyHandler_bind]
  refine stopsAt_bind (fun _ => Settled 0) (onlyIf_settles ⟨⟨rfl,rfl⟩,fresh⟩ (before _ rfl)) fun _ _ settled => ?_
  refine stopsAt_bind (fun _ => Settled 0) (onlyIf_settles settled (before _ rfl)) fun _ w' settled' => ?_
  rw [stopsAt_acceptorDone_bind,onlyIf_true]
  exact release _ (by simp [World.deleted])

/-- With only re-entrant `finish()` calls delivered before `done()`, a callback
the release of the moved-out transport delivers reaches the handler `done()`
has deleted. -/
theorem release_deleted (reenters : ReentersFinish env) (n : Nat) (e : Event) (terminal : e.terminal) {w : World}
    (present : w.handler.transport.isSome) (fresh : doneCount w = 0) (delivers : ∀ w', env.replies .finishRelease w' ≠ []) :
    StopsAt .deletedHandler (dispatch mode env (n + 1) e) w := by
  obtain ⟨w',handler,count,ran⟩ := terminal_finishes terminal n w
  unfold StopsAt
  rw [ran]
  exact finish_release_faults (finishCall_settled reenters n)
    (fun _ deleted => transportCall_deleted deleted (delivers _)) (handler ▸ present) (count.trans fresh)

/-- `acceptor_->done()`: over any run a handler calls it at most once, each time
with both slots empty and never while one is populated, whatever the transports
deliver from inside its calls. When only re-entrant `finish()` calls are
delivered before `done()` and nothing from the release after it, a terminal
callback on a live handler with a slot populated returns, having emptied both
slots and called it once; a callback the release does deliver reaches the
handler `done()` has deleted. -/
theorem done_called_once (mode : Mode) (env : Env) (native : Native) :
    (∀ fuel events, DoneOnce (final (run mode env fuel events (World.init (Handler.init native)))) ∧
      DoneClean (final (run mode env fuel events (World.init (Handler.init native))))) ∧
    (ReentersFinish env → ReleasesQuietly env → ∀ n e w, e.terminal → ¬ Closed w → doneCount w = 0 →
      ∃ w', dispatch mode env (n + 1) e w = .ok () w' ∧ Closed w' ∧ doneCount w' = 1) ∧
    (ReentersFinish env → (∀ w, env.replies .finishRelease w ≠ []) → ∀ n e w, e.terminal →
      w.handler.transport.isSome → doneCount w = 0 → faultOf (dispatch mode env (n + 1) e w) = some .deletedHandler) := by
  refine ⟨fun fuel events => ⟨?_,?_⟩,fun reenters quiet n e w terminal populated fresh => ?_,
    fun reenters delivers n e w terminal present fresh => release_deleted reenters n e terminal present fresh delivers⟩
  · have start : Exclusive (Handler.init native) ∧ DoneOnce (World.init (Handler.init native)) :=
      ⟨.inr rfl,fun _ => rfl,Nat.zero_le _⟩
    exact ((keeps_run dispatch_keeps_doneOnce fuel events).final start).2
  · exact (keeps_run dispatch_keeps_doneClean fuel events).final nofun
  · obtain ⟨⟨⟩,w',ran,settled⟩ := wp_returns (terminal_done reenters quiet n e terminal populated fresh)
    exact ⟨w',ran,settled⟩

def Env.deliversAt (site : Site) (replies : List Event) : Env :=
  { replies := fun site' _ => if site' = site then replies else [], fizzState := default, session := default }

theorem done_called_once_readEOF :
    (ReentersFinish (.deliversAt .finishCloseNow [.readEOF]) ∧ ReleasesQuietly (.deliversAt .finishCloseNow [.readEOF]) ∧
      ∃ w', dispatch .plain (.deliversAt .finishCloseNow [.readEOF]) 2 .readEOF (World.init (Handler.init ⟨3⟩)) =
        .ok () w' ∧ Closed w' ∧ doneCount w' = 1) ∧
    (ReentersFinish (.deliversAt .finishRelease [.readEOF]) ∧
      faultOf (dispatch .plain (.deliversAt .finishRelease [.readEOF]) 1 .readEOF (World.init (Handler.init ⟨3⟩))) =
        some .deletedHandler) :=
  have reenters : ∀ site, ReentersFinish (.deliversAt site [.readEOF]) := fun _ _ _ _ e member => by
    simp only [Env.deliversAt] at member
    split at member <;> simp_all [Event.terminal]
  have quiet : ReleasesQuietly (.deliversAt .finishCloseNow [.readEOF]) := fun _ => rfl
  have delivers : ∀ w, (Env.deliversAt .finishRelease [.readEOF]).replies .finishRelease w ≠ [] := fun _ => by
    simp [Env.deliversAt]
  ⟨⟨reenters _,quiet,(done_called_once .plain _ ⟨3⟩).2.1 (reenters _) quiet 1 .readEOF _ rfl
    (fun closed => nomatch closed.1) rfl⟩,
   reenters _,(done_called_once .plain _ ⟨3⟩).2.2 (reenters _) delivers 0 .readEOF _ rfl rfl rfl⟩

theorem readEOF_fallback_reentry_aborts :
    faultOf (dispatch .plain (.deliversAt .finishCloseNow [.fizzHandshakeAttemptFallback []]) 2 .readEOF
        (World.init (Handler.init ⟨3⟩))) = some .checkFailed ∧
    doneCount (final (dispatch .plain (.deliversAt .finishCloseNow [.fizzHandshakeAttemptFallback []]) 2 .readEOF
        (World.init (Handler.init ⟨3⟩)))) = 0 := by
  decide

end FizzServer.Connection
