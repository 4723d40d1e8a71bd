import FizzServer.Connection.Done

/-! What `FizzHTTPServer` does around its response. The answer is written with
`writeChain` and the transport closed through the slot right after, with no
check that the slot survived the write; and the response body is built by
`handshakeSuccessLog`, which writes the key log again each time. Every line of
the key log, in either mode, carries the connection's client random. -/
namespace FizzServer.Connection
open FizzExampleServer FizzHTTPServer

/-- Transports whose `writeChain` of a response fails and reports `what` to the
read callback before it returns, and which deliver nothing elsewhere. -/
def Env.failingWrite (what : Bytes) (state : FizzState) (session : LegacySession) : Env :=
  { replies := fun site _ => match site with
      | .respondWriteNative _ | .respondWriteLegacy _ => [.readErr what]
      | _ => [],
    fizzState := state, session := session }

theorem failingWrite_reenters (what : Bytes) (state : FizzState) (session : LegacySession) :
    ReentersFinish (.failingWrite what state session) ∧ ReleasesQuietly (.failingWrite what state session) :=
  ⟨fun site _ before _ member => by cases site <;> simp_all [Env.failingWrite,Site.beforeDone],fun _ => rfl⟩

theorem failedWrite_closes {what : Bytes} {state : FizzState} {session : LegacySession} {mode : Mode} {site : Site}
    {response : Bytes} (writes : site = .respondWriteNative response ∨ site = .respondWriteLegacy response) (w : World)
    (populated : ¬ Closed w) (fresh : doneCount w = 0) :
    wp (transportCall (.failingWrite what state session) (dispatch mode (.failingWrite what state session) 1) site)
      (fun _ => Closed) (fun _ => False) w := by
  obtain ⟨reenters,quiet⟩ := failingWrite_reenters what state session
  have replies : (Env.failingWrite what state session).replies site (w.record (.call site)) = [.readErr what] := by
    rcases writes with rfl | rfl <;> rfl
  have fresh' : doneCount (w.record (.call site)) = 0 := by rw [doneCount_record_of_ne (by simp),fresh]
  rw [transportCall,wp_bind,wp_emit,wp_bind,wp_getWorld,replies,List.forM_cons',wp_bind,wp_bind,wp_getWorld,
    deleted_of_doneCount fresh']
  exact wp_mono (fun _ _ settled => settled.1) (fun _ faulted => faulted)
    (terminal_done reenters quiet 0 (.readErr what) rfl populated fresh')

theorem stopsAt_requireTransport {w : World} (empty : w.handler.transport = none) :
    StopsAt .nullTransport requireTransport w := by
  simp [StopsAt,requireTransport,empty,faultOf]

theorem stopsAt_requireSslSocket {w : World} (empty : w.handler.sslSocket = none) :
    StopsAt .nullSslSocket requireSslSocket w := by
  simp [StopsAt,requireSslSocket,empty,faultOf]

theorem respond_close_emptied {call : Site → M Unit} (state : FizzState) (session : LegacySession) (buf : List Bytes)
    (w : World) (get : ((w.handler.requestBuf.getD []).flatten ++ buf.flatten).take 5 = ascii "GET /")
    (populated : ¬ Closed w)
    (emptied : ∀ response w', ¬ Closed w' → doneCount w' = doneCount w →
      wp (call (.respondWriteNative response)) (fun _ => Closed) (fun _ => False) w' ∧
      wp (call (.respondWriteLegacy response)) (fun _ => Closed) (fun _ => False) w') :
    StopsAt (if w.handler.transport.isSome then .nullTransport else .nullSslSocket)
      (FizzHTTPServer.readBufferAvailable call state session buf) w := by
  rw [StopsAt,readBufferAvailable_get _ _ _ _ get,← StopsAt]
  cases transport : w.handler.transport with
  | some native =>
    rw [stopsAt_bind_ok (responseBody_native _ _ _ (by simp [transport]))]
    simp only [stopsAt_getHandler_bind,World.update_handler,transport,Option.isSome_some,if_true]
    refine stopsAt_bind (fun _ => Closed) ((emptied _ _ ?_ ?_).1) fun _ _ closed => (stopsAt_requireTransport closed.1).bind
    · exact fun closed => nomatch closed.1
    · simp [doneCount,keyLogLines,List.count_eq_zero]
  | none =>
    have legacy : w.handler.sslSocket.isSome := by
      simpa [Closed,transport,Option.isSome_iff_ne_none] using populated
    obtain ⟨socket,present⟩ := Option.isSome_iff_exists.mp legacy
    rw [stopsAt_bind_ok (responseBody_legacy _ _ _ (by exact transport) (by exact legacy))]
    simp only [stopsAt_getHandler_bind,World.update_handler,transport,Option.isSome_none,Bool.false_eq_true,if_false]
    rw [stopsAt_bind_ok (@requireSslSocket_apply _ socket (by exact present))]
    refine stopsAt_bind (fun _ => Closed) ((emptied _ _ ?_ ?_).2) fun _ _ closed =>
      (stopsAt_requireSslSocket closed.2).bind
    · exact fun closed => nomatch closed.2.symm.trans present
    · rfl

/-- A `GET /` request whose response fails to write: `readErr` runs `finish()`,
which empties both slots, and the `close()` that follows the write goes through
the emptied slot, on either transport. -/
theorem respond_close_after_write_error (what : Bytes) (state : FizzState) (session : LegacySession)
    (native : Native) (clientHello request : Bytes) (get : request.take 5 = ascii "GET /") :
    faultOf (dispatch .http (.failingWrite what state session) 2 (.readBufferAvailable [request])
      (World.init (Handler.init native))) = some .nullTransport ∧
    faultOf (dispatch .http (.failingWrite what state session) 2 (.readBufferAvailable [request])
      (World.init { Handler.init native with transport := none, sslSocket := some ⟨native.socket,clientHello⟩ })) =
      some .nullSslSocket := by
  have emptied : ∀ response w', ¬ Closed w' → doneCount w' = 0 →
      wp (transportCall (.failingWrite what state session) (dispatch .http (.failingWrite what state session) 1)
        (.respondWriteNative response)) (fun _ => Closed) (fun _ => False) w' ∧
      wp (transportCall (.failingWrite what state session) (dispatch .http (.failingWrite what state session) 1)
        (.respondWriteLegacy response)) (fun _ => Closed) (fun _ => False) w' :=
    fun _ w' populated fresh => ⟨failedWrite_closes (.inl rfl) w' populated fresh,
      failedWrite_closes (.inr rfl) w' populated fresh⟩
  exact ⟨respond_close_emptied state session [request] (World.init (Handler.init native)) (by simpa [World.init,Handler.init] using get)
      (fun closed => nomatch closed.1) emptied,
    respond_close_emptied state session [request]
      (World.init { Handler.init native with transport := none, sslSocket := some ⟨native.socket,clientHello⟩ })
      (by simpa [World.init,Handler.init] using get) (fun closed => nomatch closed.2) emptied⟩

theorem respond_close_after_write_error_get :
    (ascii "GET / HTTP/1.0").take 5 = ascii "GET /" ∧
    faultOf (dispatch .http (.failingWrite (ascii "Broken pipe") default default) 2
      (.readBufferAvailable [ascii "GET / HTTP/1.0"]) (World.init (Handler.init ⟨3⟩))) = some .nullTransport ∧
    faultOf (dispatch .http (.failingWrite (ascii "Broken pipe") default default) 2
      (.readBufferAvailable [ascii "GET / HTTP/1.0"])
      (World.init { Handler.init ⟨3⟩ with transport := none, sslSocket := some ⟨3,[22]⟩ })) = some .nullSslSocket :=
  ⟨rfl,respond_close_after_write_error (ascii "Broken pipe") default default ⟨3⟩ [22] _ rfl⟩

/-- Under `-http` the key log gets a captured secret twice: once when the
handshake succeeds, and again while the `GET /` response is built. -/
theorem http_keyLog_twice (native : Native) (state : FizzState) (session : LegacySession) (secret request : Bytes)
    (get : request.take 5 = ascii "GET /") :
    keyLogOf (final (run .http (.quiet state session) 1
      [.secretAvailable .clientHandshakeTraffic secret,.fizzHandshakeSuccess,.readBufferAvailable [request]]
      (World.init (Handler.init native)))).effects =
      [(state.clientRandom,.clientHandshakeTrafficSecret,secret),
       (state.clientRandom,.clientHandshakeTrafficSecret,secret)] := by
  have passive := passive_quiet state session (dispatch .http (.quiet state session) 0)
  let w₀ := World.init (Handler.init native)
  let w₁ := w₀.update { Handler.init native with
    secrets := fun l => if l = .clientHandshakeTraffic then some secret else none }
  have captured : dispatch .http (.quiet state session) 1 (.secretAvailable .clientHandshakeTraffic secret) w₀ =
      .ok () w₁ := secretAvailable_apply _ _ _
  obtain ⟨w₂,success,handler₂,keyLog₂⟩ := fizzHandshakeSuccess_apply passive state w₁ rfl
  obtain ⟨w₃,answer,-,added,effects₃,-,-,keyLog₃⟩ :=
    readBufferAvailable_apply passive state session [request] w₂ (.inl (by rw [handler₂]; rfl))
  have succeeded : dispatch .http (.quiet state session) 1 .fizzHandshakeSuccess w₁ = .ok () w₂ := success
  have answered : dispatch .http (.quiet state session) 1 (.readBufferAvailable [request]) w₂ = .ok () w₃ := answer
  have ran : run .http (.quiet state session) 1
      [.secretAvailable .clientHandshakeTraffic secret,.fizzHandshakeSuccess,.readBufferAvailable [request]] w₀ =
      .ok () w₃ := by
    simp only [run,List.forM_cons',List.forM_nil,bind_apply,captured,succeeded,answered]
    rfl
  rw [ran,final,effects₃,keyLogOf_append,keyLog₂,keyLog₃,handler₂]
  simp [w₁,w₀,World.init,Handler.init,five_le_of_get get,get,keyLogOf_keyLogLines,keyLogSecrets]

theorem http_keyLog_twice_get :
    (ascii "GET / HTTP/1.0").take 5 = ascii "GET /" ∧
    keyLogOf (final (run .http (.quiet default default) 1
      [.secretAvailable .clientHandshakeTraffic [7],.fizzHandshakeSuccess,.readBufferAvailable [ascii "GET / HTTP/1.0"]]
      (World.init (Handler.init ⟨3⟩)))).effects =
      [((default : FizzState).clientRandom,.clientHandshakeTrafficSecret,[7]),
       ((default : FizzState).clientRandom,.clientHandshakeTrafficSecret,[7])] :=
  ⟨rfl,http_keyLog_twice ⟨3⟩ default default [7] _ rfl⟩

end FizzServer.Connection
