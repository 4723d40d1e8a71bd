import FizzServer.Connection.World

/-! `FizzExampleServer` and `FizzHTTPServer`, member by member. A method takes
`call`, the handler's calls on its transports: the transport may deliver
callbacks to the handler before such a call returns. `dispatch` ties the knot:
the callbacks delivered inside a call are handled by the same code, with one
unit of fuel less. -/
namespace FizzServer.Connection

/-- Which class handles the connection: `FizzExampleServer`, or `FizzHTTPServer`
under `-http`. -/
inductive Mode where
  | plain
  | http
  deriving DecidableEq, Repr

/-- Everything outside the handler. `replies site w` are the callbacks the
transport delivers synchronously from inside the call at `site`, given all that
happened before (`w`); `fizzState` and `session` are what the native and the
legacy transport report about their handshakes. -/
structure Env where
  replies : Site → World → List Event
  fizzState : FizzState
  session : LegacySession

def Env.quiet (state : FizzState) (session : LegacySession) : Env :=
  { replies := fun _ _ => [], fizzState := state, session := session }

/-- `transport_->...`: the native slot, or a fault through the null pointer
(`requireSslSocket` likewise for `sslSocket_`). -/
def requireTransport : M Native := do
  match (← getHandler).transport with
  | some t => pure t
  | none => fault .nullTransport

def requireSslSocket : M Legacy := do
  match (← getHandler).sslSocket with
  | some s => pure s
  | none => fault .nullSslSocket

def orNone (field : Option Bytes) : Bytes := field.getD (ascii "(none)")

def secretStr (secret : Option Bytes) : Bytes :=
  match secret with
  | some s => hexlify s
  | none => ascii "(none)"

def keyLogSecrets : List (SecretLabel × KeyLogLabel) :=
  [(.clientEarlyTraffic,.clientEarlyTrafficSecret),
   (.clientHandshakeTraffic,.clientHandshakeTrafficSecret),
   (.serverHandshakeTraffic,.serverHandshakeTrafficSecret),
   (.exporterMaster,.exporterSecret),
   (.clientAppTraffic,.clientTrafficSecret0),
   (.serverAppTraffic,.serverTrafficSecret0)]

def writeKeyLog (state : FizzState) (h : Handler) (entry : SecretLabel × KeyLogLabel) : M Unit :=
  match h.secrets entry.1 with
  | some secret => emit (.keyLog state.clientRandom entry.2 secret)
  | none => pure ()

def handshakeSummary (state : FizzState) (h : Handler) : List Bytes :=
  [ascii "  TLS Version: " ++ state.version,
   ascii "  Cipher Suite:  " ++ state.cipher,
   ascii "  Named Group: " ++ orNone state.group,
   ascii "  Signature Scheme: " ++ orNone state.sigScheme,
   ascii "  PSK: " ++ state.pskType,
   ascii "  PSK Mode: " ++ orNone state.pskMode,
   ascii "  Key Exchange Type: " ++ state.keyExchangeType,
   ascii "  Early: " ++ state.earlyDataType,
   ascii "  Server identity: " ++ orNone state.serverIdentity,
   ascii "  Client Identity: " ++ orNone state.clientIdentity,
   ascii "  Server Certificate Compression: " ++ orNone state.serverCertCompAlgo,
   ascii "  ALPN: " ++ orNone state.alpn,
   ascii "  Client Random: " ++ hexlify state.clientRandom,
   ascii "  Secrets:",
   ascii "    External PSK Binder: " ++ secretStr (h.secrets .externalPskBinder),
   ascii "    Resumption PSK Binder: " ++ secretStr (h.secrets .resumptionPskBinder),
   ascii "    Early Exporter: " ++ secretStr (h.secrets .earlyExporter),
   ascii "    Early Client Data: " ++ secretStr (h.secrets .clientEarlyTraffic),
   ascii "    Client Handshake: " ++ secretStr (h.secrets .clientHandshakeTraffic),
   ascii "    Server Handshake: " ++ secretStr (h.secrets .serverHandshakeTraffic),
   ascii "    Exporter Master: " ++ secretStr (h.secrets .exporterMaster),
   ascii "    Resumption Master: " ++ secretStr (h.secrets .resumptionMaster),
   ascii "    Client Traffic: " ++ secretStr (h.secrets .clientAppTraffic),
   ascii "    Server Traffic: " ++ secretStr (h.secrets .serverAppTraffic),
   if state.echDecrypter then ascii "Encrypted client hello (ECH) is successful." else []]

def fallbackSummary (session : LegacySession) : List Bytes :=
  [ascii "  TLS Version: " ++ session.version,
   ascii "  Cipher:  " ++ session.cipherName,
   ascii "  Signature Algorithm: " ++ session.sigAlgName,
   ascii "  Server identity: " ++ orNone session.selfIdentity,
   ascii "  Client Identity: " ++ orNone session.peerIdentity]

def httpResponse (body : Bytes) : Bytes :=
  ascii "HTTP/1.0 200 OK\r\nContent-Type: text/plain\r\nContent-Length: " ++ decimal body.length ++
    ascii "\r\n\r\n" ++ body

def chainLength (chain : List Bytes) : Nat := (chain.map List.length).sum

/-- `requestBuf_` after a buffer arrives: the buffer itself, or the chain with the
buffer at its end (`prependChain` on the head of a circular chain). -/
def appendChain (requestBuf : Option (List Bytes)) (buf : List Bytes) : List Bytes :=
  match requestBuf with
  | none => buf
  | some request => request ++ buf

namespace FizzExampleServer
variable (call : Site → M Unit)

def handshakeSuccessLog (state : FizzState) : M (List Bytes) := do
  let _ ← requireTransport
  let h ← getHandler
  keyLogSecrets.forM (writeKeyLog state h)
  pure (handshakeSummary state h)

def fallbackSuccessLog (session : LegacySession) : M (List Bytes) := do
  let _ ← requireSslSocket
  pure (fallbackSummary session)

def printHandshakeSuccess (state : FizzState) : M Unit := do
  emit (.log (ascii "Fizz handshake succeeded."))
  (← handshakeSuccessLog state).forM fun line => emit (.log line)

def printFallbackSuccess (session : LegacySession) : M Unit := do
  emit (.log (ascii "Fallback handshake succeeded."))
  (← fallbackSuccessLog session).forM fun line => emit (.log line)

/-- Both slots are emptied before the transports are closed or destroyed, so a
callback delivered from inside finds nothing left to finish. The moved-out
transport is released at the end of the scope, after `acceptor_->done()` has
deleted the handler. -/
def finish : M Unit := do
  let h ← getHandler
  if h.transport.isSome || h.sslSocket.isSome then
    modifyHandler ({ · with transport := none })
    modifyHandler ({ · with sslSocket := none })
    onlyIf h.sslSocket.isSome (call .finishReset)
    onlyIf h.transport.isSome (call .finishCloseNow)
    acceptorDone
    onlyIf h.transport.isSome (call .finishRelease)

def fizzHandshakeSuccess (state : FizzState) : M Unit := do
  call .successSetReadCB
  modifyHandler ({ · with connected := true })
  printHandshakeSuccess state

def fizzHandshakeError (what : Bytes) : M Unit := do
  emit (.log (ascii "Handshake error: " ++ what))
  finish call

def fizzHandshakeAttemptFallback (clientHello : Bytes) : M Unit := do
  match (← getHandler).transport with
  | none => fault .checkFailed
  | some transport =>
    emit (.log (ascii "Fallback attempt"))
    modifyHandler ({ · with transport := none })
    call .fallbackReset
    let old := (← getHandler).sslSocket
    modifyHandler ({ · with sslSocket := some { socket := transport.socket, preReceived := [] } })
    onlyIf old.isSome (call .fallbackAssign)
    let _ ← requireSslSocket
    modifyHandler fun h => { h with sslSocket := h.sslSocket.map ({ · with preReceived := clientHello }) }
    let _ ← requireSslSocket
    call .fallbackAccept

def handshakeSuc (session : LegacySession) : M Unit := do
  emit (.log (ascii "Fallback SSL Handshake success"))
  call .legacySetReadCB
  modifyHandler ({ · with connected := true })
  printFallbackSuccess session

def handshakeErr (what : Bytes) : M Unit := do
  emit (.log (ascii "Fallback SSL Handshake error: " ++ what))
  finish call

def readDataAvailable (len : Nat) : M Unit := do
  emit (.print ((← getHandler).readBuf.take len))

def readBufferAvailable (buf : List Bytes) : M Unit :=
  emit (.print buf.flatten)

def readEOF : M Unit := do
  emit (.log (ascii "EOF"))
  finish call

def readErr (what : Bytes) : M Unit := do
  emit (.log (ascii "Read error: " ++ what))
  finish call

def write (msg : Bytes) : M Unit := do
  let h ← getHandler
  if h.transport.isSome then call (.writeNative msg)
  else if h.sslSocket.isSome then call (.writeLegacy msg)

def close : M Unit := finish call

/-- Modelled from the spec: `SecretCollector` (declared outside the sources)
stores a secret under its label if the label is unset. -/
def secretAvailable (label : SecretLabel) (secret : Bytes) : M Unit := do
  if ((← getHandler).secrets label).isNone then
    modifyHandler fun h => { h with secrets := fun l => if l = label then some secret else h.secrets l }

end FizzExampleServer

namespace FizzHTTPServer
open FizzExampleServer
variable (call : Site → M Unit)

def respondHandshakeSuccess (state : FizzState) : M Bytes := do
  let lines ← handshakeSuccessLog state
  pure (ascii "Fizz HTTP Server\n\n" ++ (ascii "\n").intercalate lines)

def respondFallbackSuccess (session : LegacySession) : M Bytes := do
  let lines ← fallbackSuccessLog session
  pure (ascii "Fizz HTTP Server (Fallback)\n\n" ++ (ascii "\n").intercalate lines)

def responseBody (state : FizzState) (session : LegacySession) : M Bytes := do
  if (← getHandler).transport.isSome then respondHandshakeSuccess state else respondFallbackSuccess session

/-- The request is kept as one chain; once it holds five bytes its start is
compared with `GET /`, and a match is answered and the transport closed. -/
def readBufferAvailable (state : FizzState) (session : LegacySession) (buf : List Bytes) : M Unit := do
  modifyHandler fun h => { h with requestBuf := some (appendChain h.requestBuf buf) }
  let chain := (← getHandler).requestBuf.getD []
  if 5 ≤ chainLength chain then
    let coalesced := chain.flatten
    modifyHandler ({ · with requestBuf := some [coalesced] })
    if strncmp coalesced (ascii "GET /") 5 = 0 then
      let body ← responseBody state session
      let response := httpResponse body
      if (← getHandler).transport.isSome then
        call (.respondWriteNative response)
        let _ ← requireTransport
        call .respondCloseNative
      else
        let _ ← requireSslSocket
        call (.respondWriteLegacy response)
        let _ ← requireSslSocket
        call .respondCloseLegacy
    else emit (.log (ascii "Got non-GET request: " ++ coalesced))

def readDataAvailable (state : FizzState) (session : LegacySession) (len : Nat) : M Unit := do
  readBufferAvailable call state session [(← getHandler).readBuf.take len]

end FizzHTTPServer

open FizzExampleServer in
/-- The handler's member the callback reaches, by class. A read of `data` first
has the transport put it at the front of `readBuf_`. -/
def handle (mode : Mode) (env : Env) (call : Site → M Unit) : Event → M Unit
  | .fizzHandshakeSuccess => fizzHandshakeSuccess call env.fizzState
  | .fizzHandshakeError what => fizzHandshakeError call what
  | .fizzHandshakeAttemptFallback clientHello => fizzHandshakeAttemptFallback call clientHello
  | .handshakeSuc => handshakeSuc call env.session
  | .handshakeErr what => handshakeErr call what
  | .readDataAvailable data => do
    modifyHandler fun h => { h with readBuf := data ++ h.readBuf.drop data.length }
    match mode with
    | .plain => FizzExampleServer.readDataAvailable data.length
    | .http => FizzHTTPServer.readDataAvailable call env.fizzState env.session data.length
  | .readBufferAvailable buf =>
    match mode with
    | .plain => FizzExampleServer.readBufferAvailable buf
    | .http => FizzHTTPServer.readBufferAvailable call env.fizzState env.session buf
  | .readEOF => readEOF call
  | .readErr what => readErr call what
  | .secretAvailable label secret => secretAvailable label secret
  | .write msg =>
    match mode with
    | .plain => FizzExampleServer.write call msg
    | .http => pure ()
  | .close => close call

/-- A call on a transport: recorded, then the transport's synchronous callbacks,
each of which reaches freed memory once `done()` has deleted the handler. -/
def transportCall (env : Env) (deliver : Event → M Unit) (site : Site) : M Unit := do
  emit (.call site)
  (env.replies site (← getWorld)).forM fun e => do
    if (← getWorld).deleted then fault .deletedHandler else deliver e

/-- Delivering one callback, with the callbacks nested in it up to depth `fuel`. -/
def dispatch (mode : Mode) (env : Env) : Nat → Event → M Unit
  | 0, _ => pure ()
  | n + 1, e => handle mode env (transportCall env (dispatch mode env n)) e

def run (mode : Mode) (env : Env) (fuel : Nat) (events : List Event) : M Unit :=
  events.forM (dispatch mode env fuel)

end FizzServer.Connection
