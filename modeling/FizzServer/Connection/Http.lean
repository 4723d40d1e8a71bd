import FizzServer.Connection.Server

/-! `FizzHTTPServer`'s request buffer and its response. Each read appends its
bytes to `requestBuf_`; once five bytes are buffered the request is coalesced
and its start compared with `GET /`, and a match is answered with an
`HTTP/1.0 200` message on the populated transport. How a stream is split into
reads matters only through the read at which the fifth byte arrives. -/
namespace FizzServer.Connection
open FizzExampleServer FizzHTTPServer

/-! ## The response -/

def responseHead : Bytes := ascii "HTTP/1.0 200 OK\r\nContent-Type: text/plain\r\nContent-Length: "

def isDigit (b : UInt8) : Bool := 48 ≤ b.toNat && b.toNat ≤ 57

/-- Reading a response as a client does: the status and content type lines, the
decimal `Content-Length`, the blank line, and the body after it. -/
def readResponse (response : Bytes) : Option (Nat × Bytes) :=
  if response.take responseHead.length = responseHead then
    let rest := response.drop responseHead.length
    let after := rest.dropWhile isDigit
    if after.take 4 = ascii "\r\n\r\n" then some (readDecimal 0 (rest.takeWhile isDigit),after.drop 4)
    else none
  else none

theorem httpResponse_eq (body : Bytes) :
    httpResponse body = responseHead ++ (decimal body.length ++ (ascii "\r\n\r\n" ++ body)) := by
  simp only [httpResponse,responseHead,List.append_assoc]

theorem readResponse_httpResponse (body : Bytes) : readResponse (httpResponse body) = some (body.length,body) := by
  have digits : ∀ b ∈ decimal body.length, isDigit b := fun b member => by
    simpa [isDigit] using decimal_isDigit _ b member
  have stop : (ascii "\r\n\r\n" ++ body).takeWhile isDigit = [] := rfl
  have kept : (ascii "\r\n\r\n" ++ body).dropWhile isDigit = ascii "\r\n\r\n" ++ body := rfl
  have four : (ascii "\r\n\r\n").length = 4 := rfl
  simp only [readResponse,httpResponse_eq,List.take_left,List.drop_left,if_true,
    List.takeWhile_append_of_pos digits,List.dropWhile_append_of_pos digits,stop,kept,List.append_nil,
    List.take_left' four,List.drop_left' four,readDecimal_decimal]

/-! ## What a run shows -/

def Event.chunk : Event → Option Bytes
  | .readDataAvailable data => some data
  | .readBufferAvailable buf => some buf.flatten
  | _ => none

def responsesOf (effects : List Effect) : List Bytes :=
  effects.filterMap fun
    | .call (.respondWriteNative response) | .call (.respondWriteLegacy response) => some response
    | _ => none

@[simp] theorem responsesOf_nil : responsesOf [] = [] := rfl

@[simp] theorem responsesOf_append (effects effects' : List Effect) :
    responsesOf (effects ++ effects') = responsesOf effects ++ responsesOf effects' :=
  List.filterMap_append _ _ _

/-- The key-log lines `handshakeSuccessLog` writes from `h`, for the secrets it
has captured among `entries`, in order. -/
def keyLogLines (state : FizzState) (h : Handler) (entries : List (SecretLabel × KeyLogLabel)) : List Effect :=
  entries.filterMap fun entry => (h.secrets entry.1).map (.keyLog state.clientRandom entry.2)

@[simp] theorem responsesOf_keyLogLines (state : FizzState) (h : Handler) (entries : List (SecretLabel × KeyLogLabel)) :
    responsesOf (keyLogLines state h entries) = [] := by
  induction entries with
  | nil => rfl
  | cons entry entries ih =>
    simp only [keyLogLines,List.filterMap_cons] at ih ⊢
    cases h.secrets entry.1 <;> exact ih

def keyLogOf (effects : List Effect) : List (Bytes × KeyLogLabel × Bytes) :=
  effects.filterMap fun
    | .keyLog clientRandom label secret => some (clientRandom,label,secret)
    | _ => none

@[simp] theorem keyLogOf_nil : keyLogOf [] = [] := rfl

@[simp] theorem keyLogOf_append (effects effects' : List Effect) :
    keyLogOf (effects ++ effects') = keyLogOf effects ++ keyLogOf effects' :=
  List.filterMap_append _ _ _

@[simp] theorem keyLogOf_cons_keyLog (clientRandom : Bytes) (label : KeyLogLabel) (secret : Bytes)
    (effects : List Effect) :
    keyLogOf (.keyLog clientRandom label secret :: effects) = (clientRandom,label,secret) :: keyLogOf effects := rfl

@[simp] theorem keyLogOf_cons_log (line : Bytes) (effects : List Effect) :
    keyLogOf (.log line :: effects) = keyLogOf effects := rfl

@[simp] theorem keyLogOf_cons_call (site : Site) (effects : List Effect) :
    keyLogOf (.call site :: effects) = keyLogOf effects := rfl

@[simp] theorem keyLogOf_cons_print (data : Bytes) (effects : List Effect) :
    keyLogOf (.print data :: effects) = keyLogOf effects := rfl

@[simp] theorem keyLogOf_cons_done (effects : List Effect) : keyLogOf (.done :: effects) = keyLogOf effects := rfl

@[simp] theorem keyLogOf_map_log (lines : List Bytes) : keyLogOf (lines.map .log) = [] := by
  induction lines <;> simp_all

theorem keyLogOf_keyLogLines (state : FizzState) (h : Handler) (entries : List (SecretLabel × KeyLogLabel)) :
    keyLogOf (keyLogLines state h entries) =
      entries.filterMap fun entry => (h.secrets entry.1).map fun secret => (state.clientRandom,entry.2,secret) := by
  induction entries with
  | nil => rfl
  | cons entry entries ih =>
    simp only [keyLogLines,List.filterMap_cons] at ih ⊢
    cases h.secrets entry.1 <;> simp [ih]

/-! ## Members, run from a world -/

theorem forM_writeKeyLog_apply (state : FizzState) (h : Handler) (entries : List (SecretLabel × KeyLogLabel))
    (w : World) :
    (entries.forM (writeKeyLog state h)) w = .ok () { w with effects := w.effects ++ keyLogLines state h entries } := by
  induction entries generalizing w with
  | nil => simp [keyLogLines]
  | cons entry entries ih =>
    simp only [List.forM_cons',bind_apply,writeKeyLog,keyLogLines,List.filterMap_cons]
    cases h.secrets entry.1 <;> simp [ih,keyLogLines,World.record]

theorem handshakeSuccessLog_apply (state : FizzState) (w : World) (present : w.handler.transport.isSome) :
    handshakeSuccessLog state w =
      .ok (handshakeSummary state w.handler) { w with effects := w.effects ++ keyLogLines state w.handler keyLogSecrets } := by
  obtain ⟨native,transport⟩ := Option.isSome_iff_exists.mp present
  simp [handshakeSuccessLog,requireTransport,transport,forM_writeKeyLog_apply]

theorem requireTransport_apply {w : World} {native : Native} (present : w.handler.transport = some native) :
    requireTransport w = .ok native w := by
  simp [requireTransport,present]

theorem requireSslSocket_apply {w : World} {legacy : Legacy} (present : w.handler.sslSocket = some legacy) :
    requireSslSocket w = .ok legacy w := by
  simp [requireSslSocket,present]

@[simp] theorem handshakeSummary_requestBuf (state : FizzState) (h : Handler) (requestBuf : Option (List Bytes)) :
    handshakeSummary state { h with requestBuf := requestBuf } = handshakeSummary state h := rfl

@[simp] theorem keyLogLines_requestBuf (state : FizzState) (h : Handler) (requestBuf : Option (List Bytes))
    (entries : List (SecretLabel × KeyLogLabel)) :
    keyLogLines state { h with requestBuf := requestBuf } entries = keyLogLines state h entries := rfl

theorem responseBody_native (state : FizzState) (session : LegacySession) (w : World)
    (present : w.handler.transport.isSome) :
    responseBody state session w = .ok (ascii "Fizz HTTP Server\n\n" ++ (ascii "\n").intercalate
      (handshakeSummary state w.handler)) { w with effects := w.effects ++ keyLogLines state w.handler keyLogSecrets } := by
  simp [responseBody,respondHandshakeSuccess,present,handshakeSuccessLog_apply]

theorem responseBody_legacy (state : FizzState) (session : LegacySession) (w : World)
    (empty : w.handler.transport = none) (present : w.handler.sslSocket.isSome) :
    responseBody state session w =
      .ok (ascii "Fizz HTTP Server (Fallback)\n\n" ++ (ascii "\n").intercalate (fallbackSummary session)) w := by
  obtain ⟨legacy,socket⟩ := Option.isSome_iff_exists.mp present
  simp [responseBody,respondFallbackSuccess,fallbackSuccessLog,requireSslSocket,empty,socket]

theorem forM_log_apply (lines : List Bytes) (w : World) :
    (lines.forM fun line => emit (.log line)) w = .ok () { w with effects := w.effects ++ lines.map .log } := by
  induction lines generalizing w with
  | nil => simp
  | cons line lines ih => simp [List.forM_cons',ih,World.record]

theorem printHandshakeSuccess_apply (state : FizzState) (w : World) (present : w.handler.transport.isSome) :
    printHandshakeSuccess state w = .ok () { w with effects := w.effects ++
      (.log (ascii "Fizz handshake succeeded.") :: keyLogLines state w.handler keyLogSecrets ++
        (handshakeSummary state w.handler).map .log) } := by
  simp [printHandshakeSuccess,handshakeSuccessLog_apply,present,forM_log_apply,World.record]

theorem secretAvailable_apply (label : SecretLabel) (secret : Bytes) (w : World) :
    secretAvailable label secret w = .ok () (if (w.handler.secrets label).isNone then
      w.update { w.handler with secrets := fun l => if l = label then some secret else w.handler.secrets l } else w) := by
  simp only [secretAvailable,bind_apply,getHandler_apply]
  split <;> rfl

theorem handle_terminal {e : Event} (terminal : e.terminal) (mode : Mode) (env : Env) (call : Site → M Unit)
    (w : World) : ∃ w', (w' = w ∨ ∃ line, w' = w.record (.log line)) ∧ handle mode env call e w = finish call w' := by
  cases e <;> simp only [Event.terminal,Bool.false_eq_true] at terminal <;>
    simp only [handle,fizzHandshakeError,handshakeErr,readEOF,readErr,close,bind_apply,emit_apply]
  case close => exact ⟨w,.inl rfl,rfl⟩
  all_goals exact ⟨_,.inr ⟨_,rfl⟩,rfl⟩

def Passive (call : Site → M Unit) : Prop := ∀ site w, call site w = .ok () (w.record (.call site))

theorem passive_quiet (state : FizzState) (session : LegacySession) (deliver : Event → M Unit) :
    Passive (transportCall (.quiet state session) deliver) := fun _ _ => rfl

theorem appendChain_flatten (request : Option (List Bytes)) (buf : List Bytes) :
    (appendChain request buf).flatten = (request.getD []).flatten ++ buf.flatten := by
  cases request <;> simp [appendChain]

theorem chainLength_eq (chain : List Bytes) : chainLength chain = chain.flatten.length :=
  (List.length_flatten chain).symm

theorem five_le_of_get {request : Bytes} (get : request.take 5 = ascii "GET /") : 5 ≤ request.length := by
  have five : (request.take 5).length = 5 := by rw [get]; rfl
  rw [List.length_take] at five
  omega

theorem strncmp_get_iff (request : Bytes) : strncmp request (ascii "GET /") 5 = 0 ↔ request.take 5 = ascii "GET /" :=
  strncmp_eq_zero_iff _ _ 5 (by decide) (by decide)

theorem readBufferAvailable_get {call : Site → M Unit} (state : FizzState) (session : LegacySession)
    (buf : List Bytes) (w : World) (get : ((w.handler.requestBuf.getD []).flatten ++ buf.flatten).take 5 = ascii "GET /") :
    FizzHTTPServer.readBufferAvailable call state session buf w =
      (do
        let response := httpResponse (← responseBody state session)
        if (← getHandler).transport.isSome then
          call (.respondWriteNative response)
          let _ ← requireTransport
          call .respondCloseNative
        else
          let _ ← requireSslSocket
          call (.respondWriteLegacy response)
          let _ ← requireSslSocket
          call .respondCloseLegacy)
      ((w.update { w.handler with requestBuf := some (appendChain w.handler.requestBuf buf) }).update
        { w.handler with requestBuf := some [(w.handler.requestBuf.getD []).flatten ++ buf.flatten] }) := by
  simp only [FizzHTTPServer.readBufferAvailable,bind_apply,modifyHandler_apply,getHandler_apply,World.update_handler,
    Option.getD_some,chainLength_eq,appendChain_flatten,five_le_of_get get,if_true,(strncmp_get_iff _).mpr get]

section Passive
variable {call : Site → M Unit} (calls : Passive call) (state : FizzState) (session : LegacySession)
include calls

theorem fizzHandshakeSuccess_apply (w : World) (present : w.handler.transport.isSome) :
    ∃ w', fizzHandshakeSuccess call state w = .ok () w' ∧ w'.handler = { w.handler with connected := true } ∧
      keyLogOf w'.effects = keyLogOf w.effects ++ keyLogOf (keyLogLines state w.handler keyLogSecrets) := by
  simp only [Passive] at calls
  simp only [fizzHandshakeSuccess,bind_apply,calls,modifyHandler_apply,World.record_handler]
  rw [printHandshakeSuccess_apply]
  · exact ⟨_,rfl,rfl,by simp [keyLogLines]⟩
  · exact present

theorem readBufferAvailable_apply (buf : List Bytes) (w : World)
    (populated : w.handler.transport.isSome ∨ w.handler.sslSocket.isSome) :
    let request := (w.handler.requestBuf.getD []).flatten ++ buf.flatten
    ∃ w', FizzHTTPServer.readBufferAvailable call state session buf w = .ok () w' ∧
      w'.handler = { w.handler with
        requestBuf := some (if request.length < 5 then appendChain w.handler.requestBuf buf else [request]) } ∧
      ∃ added, w'.effects = w.effects ++ added ∧ (request.length < 5 → added = []) ∧
        (∃ bodies : List Bytes, responsesOf added = bodies.map httpResponse ∧
          bodies.length = if 5 ≤ request.length ∧ request.take 5 = ascii "GET /" then 1 else 0) ∧
        keyLogOf added = if 5 ≤ request.length ∧ request.take 5 = ascii "GET /" ∧ w.handler.transport.isSome
          then keyLogOf (keyLogLines state w.handler keyLogSecrets) else [] := by
  intro request
  simp only [Passive] at calls
  have chain : (appendChain w.handler.requestBuf buf).flatten = request := appendChain_flatten _ _
  simp only [FizzHTTPServer.readBufferAvailable,bind_apply,modifyHandler_apply,getHandler_apply,
    World.update_handler,Option.getD_some,chainLength_eq,chain]
  by_cases short : request.length < 5
  · simp [Nat.not_le.mpr short,short]
  · have long : 5 ≤ request.length := by omega
    simp only [short,long,if_true,if_false,bind_apply,modifyHandler_apply]
    by_cases get : request.take 5 = ascii "GET /"
    · simp only [(strncmp_get_iff _).mpr get,if_true]
      cases transport : w.handler.transport with
      | none =>
        obtain ⟨legacy,present⟩ := Option.isSome_iff_exists.mp (by simpa [transport] using populated)
        simp [responseBody_legacy,calls,requireSslSocket,transport,present,get,long]
        exact ⟨[_],rfl,rfl⟩
      | some native =>
        simp [responseBody_native,calls,requireTransport,transport,get,long]
        exact ⟨⟨[_],rfl,rfl⟩,rfl⟩
    · simp [mt (strncmp_get_iff _).mp get,get,responsesOf]

end Passive

/-! ## Reads from the event loop -/

/-- How many of the reads `chunks` end with five bytes or more buffered, given
`buffered` bytes before the first. -/
def answered (buffered : Nat) : List Bytes → Nat
  | [] => 0
  | chunk :: chunks => (if 5 ≤ buffered + chunk.length then 1 else 0) + answered (buffered + chunk.length) chunks

theorem answered_pos_iff (buffered : Nat) (chunks : List Bytes) :
    0 < answered buffered chunks ↔ chunks ≠ [] ∧ 5 ≤ buffered + chunks.flatten.length := by
  induction chunks generalizing buffered with
  | nil => simp [answered]
  | cons chunk chunks ih =>
    simp only [answered,List.flatten_cons,List.length_append,ne_eq,reduceCtorEq,not_false_eq_true,
      true_and]
    by_cases reached : 5 ≤ buffered + chunk.length
    · simp only [reached,if_true]
      omega
    · simp only [reached,if_false,zero_add,ih]
      cases chunks <;> simp <;> omega

theorem answered_cons (before chunk : Bytes) (later : List Bytes) (rest : Bytes) :
    (if 5 ≤ (before ++ chunk).length ∧ (before ++ chunk).take 5 = ascii "GET /" then 1 else 0) +
      (if (before ++ chunk ++ rest).take 5 = ascii "GET /" then answered (before ++ chunk).length later else 0) =
    if (before ++ chunk ++ rest).take 5 = ascii "GET /" then answered before.length (chunk :: later) else 0 := by
  by_cases reached : 5 ≤ (before ++ chunk).length
  · rw [List.take_append_of_le_length reached]
    by_cases get : (before ++ chunk).take 5 = ascii "GET /" <;>
      simp only [answered,get,reached,List.length_append] at reached ⊢ <;> simp [reached]
  · simp only [answered,reached,false_and,if_false,zero_add,← List.length_append]

section Quiet
variable (state : FizzState) (session : LegacySession)

theorem dispatch_read (n : Nat) (e : Event) (chunk : Bytes) (isRead : e.chunk = some chunk) (w : World)
    (populated : w.handler.transport.isSome ∨ w.handler.sslSocket.isSome) :
    let request := (w.handler.requestBuf.getD []).flatten ++ chunk
    ∃ w', dispatch .http (.quiet state session) (n + 1) e w = .ok () w' ∧
      w'.handler.transport = w.handler.transport ∧ w'.handler.sslSocket = w.handler.sslSocket ∧
      (w'.handler.requestBuf.getD []).flatten = request ∧
      ∃ added, w'.effects = w.effects ++ added ∧ (request.length < 5 → added = []) ∧
        ∃ bodies : List Bytes, responsesOf added = bodies.map httpResponse ∧
          bodies.length = if 5 ≤ request.length ∧ request.take 5 = ascii "GET /" then 1 else 0 := by
  intro request
  have passive := passive_quiet state session (dispatch .http (.quiet state session) n)
  have buffered : ∀ buf w', (w'.handler.requestBuf.getD []).flatten ++ buf.flatten = request →
      w'.handler.requestBuf = w.handler.requestBuf → w'.handler.transport = w.handler.transport →
      w'.handler.sslSocket = w.handler.sslSocket →
      ∃ w'', FizzHTTPServer.readBufferAvailable (transportCall (.quiet state session)
          (dispatch .http (.quiet state session) n)) state session buf w' = .ok () w'' ∧
        w''.handler.transport = w.handler.transport ∧ w''.handler.sslSocket = w.handler.sslSocket ∧
        (w''.handler.requestBuf.getD []).flatten = request ∧
        ∃ added, w''.effects = w'.effects ++ added ∧ (request.length < 5 → added = []) ∧
          ∃ bodies : List Bytes, responsesOf added = bodies.map httpResponse ∧
            bodies.length = if 5 ≤ request.length ∧ request.take 5 = ascii "GET /" then 1 else 0 := by
    intro buf w' same requestBuf transport sslSocket
    obtain ⟨w'',ran,handler,added,effects,quiet,answer,-⟩ := readBufferAvailable_apply passive state session buf w'
      (by rwa [transport,sslSocket])
    refine ⟨w'',ran,by rw [handler,transport],by rw [handler,sslSocket],?_,added,effects,by rwa [← same],
      by rwa [← same]⟩
    rw [handler]
    split <;> simp [appendChain_flatten,same]
  cases e <;> simp only [Event.chunk,reduceCtorEq] at isRead
  case readDataAvailable data =>
    cases isRead
    simp only [dispatch,handle,FizzHTTPServer.readDataAvailable,bind_apply,modifyHandler_apply,
      getHandler_apply,World.update_handler,List.take_left,World.update_effects]
    exact buffered [chunk] _ (by simp [request]) rfl rfl rfl
  case readBufferAvailable buf =>
    cases isRead
    exact buffered buf w rfl rfl rfl rfl

/-- Reads from the event loop, one after another. -/
theorem run_reads (n : Nat) (reads : List Event) (isRead : ∀ e ∈ reads, e.chunk.isSome) (w : World)
    (populated : w.handler.transport.isSome ∨ w.handler.sslSocket.isSome) :
    let before := (w.handler.requestBuf.getD []).flatten
    let request := before ++ (reads.filterMap Event.chunk).flatten
    ∃ w', (reads.forM (dispatch .http (.quiet state session) (n + 1))) w = .ok () w' ∧
      w'.handler.transport = w.handler.transport ∧ w'.handler.sslSocket = w.handler.sslSocket ∧
      (w'.handler.requestBuf.getD []).flatten = request ∧
      (request.length < 5 → w'.effects = w.effects) ∧
      ∃ bodies : List Bytes, responsesOf w'.effects = responsesOf w.effects ++ bodies.map httpResponse ∧
        bodies.length = if request.take 5 = ascii "GET /" then answered before.length (reads.filterMap Event.chunk) else 0 := by
  induction reads generalizing w with
  | nil => exact ⟨w,rfl,rfl,rfl,by simp,fun _ => rfl,[],by simp,by split <;> rfl⟩
  | cons e reads ih =>
    intro before request
    obtain ⟨chunk,chunked⟩ := Option.isSome_iff_exists.mp (isRead e (List.mem_cons_self _ _))
    obtain ⟨w₁,first,transport₁,sslSocket₁,buffered₁,added,effects₁,quiet₁,bodies₁,responses₁,count₁⟩ :=
      dispatch_read state session n e chunk chunked w populated
    obtain ⟨w',rest,transport',sslSocket',buffered',quiet',bodies',responses',count'⟩ :=
      ih (fun e member => isRead e (List.mem_cons_of_mem _ member)) w₁ (by rwa [transport₁,sslSocket₁])
    have whole : request = (before ++ chunk) ++ (reads.filterMap Event.chunk).flatten := by
      simp [request,before,chunked]
    refine ⟨w',by simp [List.forM_cons',first,rest],transport'.trans transport₁,sslSocket'.trans sslSocket₁,
      by rw [buffered',buffered₁,whole],fun short => ?_,bodies₁ ++ bodies',?_,?_⟩
    · have : (before ++ chunk).length < 5 := by rw [whole,List.length_append] at short; omega
      rw [quiet' (by rwa [buffered₁,← whole]),effects₁,quiet₁ this,List.append_nil]
    · rw [responses',effects₁,responsesOf_append,responses₁,List.map_append,List.append_assoc]
    · rw [List.length_append,count₁,count',buffered₁,← whole,whole,answered_cons]
      simp [chunked,before]

end Quiet

/-- A stream split into reads from the event loop, each through
`readBufferAvailable` or `readDataAvailable`, on a fresh handler with a slot
populated: `requestBuf_` holds the bytes delivered; nothing is written or logged
while fewer than five have arrived; one response is written for each read that
ends with five bytes or more buffered if the stream starts with `GET /`, and
none otherwise; and each response reads back with its body's length as
`Content-Length`. A prefix of the reads is a split of a prefix of the stream,
so this holds after every read. -/
theorem request_split_independent (state : FizzState) (session : LegacySession) (n : Nat) (w : World)
    (populated : w.handler.transport.isSome ∨ w.handler.sslSocket.isSome) (fresh : w.handler.requestBuf = none)
    (reads : List Event) (isRead : ∀ e ∈ reads, e.chunk.isSome) :
    let stream := (reads.filterMap Event.chunk).flatten
    ∃ w', run .http (.quiet state session) (n + 1) reads w = .ok () w' ∧
      (w'.handler.requestBuf.getD []).flatten = stream ∧
      (stream.length < 5 → w'.effects = w.effects) ∧
      ∃ bodies : List Bytes, responsesOf w'.effects = responsesOf w.effects ++ bodies.map httpResponse ∧
        bodies.length = (if stream.take 5 = ascii "GET /" then answered 0 (reads.filterMap Event.chunk) else 0) ∧
        (0 < bodies.length ↔ 5 ≤ stream.length ∧ stream.take 5 = ascii "GET /") ∧
        ∀ body ∈ bodies, readResponse (httpResponse body) = some (body.length,body) := by
  dsimp only
  obtain ⟨w',ran,-,-,buffered,quiet,bodies,responses,count⟩ :=
    run_reads state session n reads isRead w populated
  simp only [fresh,Option.getD_none,List.flatten_nil,List.nil_append,List.length_nil] at buffered quiet count
  refine ⟨w',ran,buffered,quiet,bodies,responses,count,?_,fun body _ => readResponse_httpResponse body⟩
  rw [count]
  split
  · rw [answered_pos_iff]
    have flat : reads.filterMap Event.chunk = [] → (reads.filterMap Event.chunk).flatten = [] :=
      fun empty => by simp [empty]
    exact ⟨fun reached => ⟨by omega,‹_›⟩,fun reached => ⟨fun empty => by simp [flat empty] at reached,by omega⟩⟩
  · rename_i notGet
    simp [notGet]

theorem request_split_independent_get :
    ((World.init (Handler.init ⟨3⟩)).handler.transport.isSome ∨
      (World.init (Handler.init ⟨3⟩)).handler.sslSocket.isSome) ∧
    (World.init (Handler.init ⟨3⟩)).handler.requestBuf = none ∧
    (∀ e ∈ [Event.readBufferAvailable [ascii "GE"],.readDataAvailable (ascii "T /x")], e.chunk.isSome) ∧
    let stream := (([Event.readBufferAvailable [ascii "GE"],.readDataAvailable (ascii "T /x")]).filterMap
      Event.chunk).flatten
    ∃ w', run .http (.quiet default default) 1 [.readBufferAvailable [ascii "GE"],.readDataAvailable (ascii "T /x")]
        (World.init (Handler.init ⟨3⟩)) = .ok () w' ∧
      (w'.handler.requestBuf.getD []).flatten = stream ∧
      (stream.length < 5 → w'.effects = (World.init (Handler.init ⟨3⟩)).effects) ∧
      ∃ bodies : List Bytes, responsesOf w'.effects =
          responsesOf (World.init (Handler.init ⟨3⟩)).effects ++ bodies.map httpResponse ∧
        bodies.length = (if stream.take 5 = ascii "GET /" then answered 0 (([Event.readBufferAvailable [ascii "GE"],
          .readDataAvailable (ascii "T /x")]).filterMap Event.chunk) else 0) ∧
        (0 < bodies.length ↔ 5 ≤ stream.length ∧ stream.take 5 = ascii "GET /") ∧
        ∀ body ∈ bodies, readResponse (httpResponse body) = some (body.length,body) :=
  ⟨.inl rfl,rfl,by simp [Event.chunk],
    request_split_independent default default 0 (World.init (Handler.init ⟨3⟩)) (.inl rfl) rfl _
      (by simp [Event.chunk])⟩

end FizzServer.Connection
