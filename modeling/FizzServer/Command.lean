import FizzServer.Ech

/-! `fizzServerCommand` once its arguments are parsed: the sanity checks, the
ECH decrypter, the certificate compressors and the certificate holding them,
and the options the acceptor starts with. Each stage returns 1 or lets an
exception through (`Exit`), or hands its result to the next. The libraries the
stages call enter as `Tools`. -/
namespace FizzServer.Command
open Ech

inductive CertificateCompressionAlgorithm where
  | zlib
  | brotli
  | zstd
  deriving DecidableEq, Repr

/-- The optional compressors the tool was built with: `FIZZ_TOOL_ENABLE_BROTLI`
and `FIZZ_TOOL_ENABLE_ZSTD`. -/
structure BuildFlags where
  brotli : Bool
  zstd : Bool
  deriving DecidableEq, Repr

inductive CertificateCompressor where
  | zlib (level : Nat)
  | brotli
  | zstd (level : Nat)
  deriving DecidableEq, Repr

def CertificateCompressor.getAlgorithm : CertificateCompressor → CertificateCompressionAlgorithm
  | .zlib _ => .zlib
  | .brotli => .brotli
  | .zstd _ => .zstd

inductive ClientAuthMode where
  | none
  | optional
  | required
  deriving DecidableEq, Repr

/-- The variables the argument handlers set, at the values they start with. -/
structure Options where
  port : Nat := 8443
  certPath : Path := []
  keyPath : Path := []
  keyPass : Bytes := []
  clientAuthMode : ClientAuthMode := .none
  caPath : Path := []
  caFile : Path := []
  keyLogFile : Path := []
  early : Bool := false
  alpns : List Bytes := []
  compAlgos : Option (List CertificateCompressionAlgorithm) := none
  loop : Bool := false
  fallback : Bool := false
  http : Bool := false
  earlyDataSize : Nat := 4294967295
  credPath : Path := []
  ech : Bool := false
  echConfigsFile : Path := []
  echPrivateKeyFile : Path := []

/-- How `fizzServerCommand` ends before its event loop: `return code`, or an
exception that escapes (undefined behaviour counts as one). -/
inductive Exit where
  | returned (code : Nat)
  | thrown (fault : Fault)
  deriving DecidableEq, Repr

inductive CertOrigin where
  | files (certData keyData : Bytes)
  | delegated (certData keyData credData : Bytes)
  | selfSigned
  deriving DecidableEq, Repr

structure SelfCert where
  origin : CertOrigin
  compressors : List CertificateCompressor
  deriving DecidableEq, Repr

structure ServerContext where
  echDecrypter : Option Decrypter
  clientAuthMode : ClientAuthMode
  supportedCompressionAlgorithms : List CertificateCompressionAlgorithm
  cert : SelfCert
  maxEarlyDataSize : Option Nat
  versionFallbackEnabled : Bool
  supportedAlpns : Option (List Bytes)
  deriving DecidableEq, Repr

structure Server where
  context : ServerContext
  port : Nat
  loop : Bool
  http : Bool
  keyLogFile : Option Path
  deriving DecidableEq, Repr

/-- The library calls of the command beyond the ECH setup:
`X509_STORE_load_locations`, `CertUtils::makeSelfCert`, the delegated-credential
certificate (`false` when the parsing inside its `try` throws) and
`SSLContext::loadCertKeyPairFromFiles`. -/
structure Tools where
  ech : Library
  loadLocations : Option Path → Option Path → Bool
  makeSelfCert : Bytes → Bytes → Option Bytes → Except Fault Unit
  makeDelegatedCredential : Bytes → Bytes → Bytes → Option Bytes → Except Fault Bool
  loadCertKeyPairFromFiles : Path → Path → Except Fault Unit

def lift {α : Type} (call : Except Fault α) : Except Exit α := call.mapError .thrown

def returnOne {α : Type} : Except Exit α := .error (.returned 1)

section Stages
variable (tools : Tools) (files : Files) (opts : Options)

def sanityCheck : Except Exit Unit :=
  if opts.certPath.isEmpty != opts.keyPath.isEmpty then returnOne
  else if !opts.credPath.isEmpty && (opts.certPath.isEmpty || opts.keyPath.isEmpty) then returnOne
  else pure ()

def clientVerifier : Except Exit Unit :=
  if opts.clientAuthMode != .none && (!opts.caPath.isEmpty || !opts.caFile.isEmpty) &&
      !tools.loadLocations (if opts.caFile.isEmpty then none else some opts.caFile)
        (if opts.caPath.isEmpty then none else some opts.caPath) then returnOne
  else pure ()

/-- The ECH part: the default decrypter under `-ech`, then both files or
neither, and the decrypter from the files, which replaces the default. -/
def echSetup : Except Exit (Option Decrypter) := do
  let defaultDecrypter ← if opts.ech then some <$> lift (setupDefaultDecrypter tools.ech) else pure none
  if (opts.echConfigsFile.isEmpty && !opts.echPrivateKeyFile.isEmpty) ||
      (!opts.echConfigsFile.isEmpty && opts.echPrivateKeyFile.isEmpty) then returnOne
  else if !opts.echConfigsFile.isEmpty then
    match ← lift (setupDecrypterFromInputs tools.ech files opts.echConfigsFile opts.echPrivateKeyFile) with
    | none => returnOne
    | some decrypter => pure (some decrypter)
  else pure defaultDecrypter

end Stages

def compressorFor (flags : BuildFlags) : CertificateCompressionAlgorithm → Option CertificateCompressor
  | .zlib => some (.zlib 9)
  | .brotli => if flags.brotli then some .brotli else none
  | .zstd => if flags.zstd then some (.zstd 19) else none

/-- The loop over `compAlgos`: `compressors` and `finalAlgos` grow together; an
algorithm without a compressor is logged and skipped. -/
def compressorLoop (flags : BuildFlags) (compAlgos : List CertificateCompressionAlgorithm) :
    List CertificateCompressor × List CertificateCompressionAlgorithm :=
  compAlgos.foldl (fun (compressors,finalAlgos) algo =>
    match compressorFor flags algo with
    | some compressor => (compressors ++ [compressor],finalAlgos ++ [algo])
    | none => (compressors,finalAlgos)) ([],[])

section Stages
variable (tools : Tools) (files : Files) (opts : Options)

/-- The certificate: from `-cert` and `-key` (and `-delegatedcred`), or a
self-signed one; every kind holds `compressors`. -/
def certificate (compressors : List CertificateCompressor) : Except Exit SelfCert :=
  if !opts.certPath.isEmpty then
    match files opts.certPath, files opts.keyPath with
    | none, _ => returnOne
    | some _, none => returnOne
    | some certData, some keyData =>
      let keyPass := if opts.keyPass.isEmpty then none else some opts.keyPass
      if opts.credPath.isEmpty then do
        lift (tools.makeSelfCert certData keyData keyPass)
        pure ⟨.files certData keyData,compressors⟩
      else
        match files opts.credPath with
        | none => returnOne
        | some credData => do
          if ← lift (tools.makeDelegatedCredential certData keyData credData keyPass) then
            pure ⟨.delegated certData keyData credData,compressors⟩
          else returnOne
  else pure ⟨.selfSigned,compressors⟩

def fallbackSetup : Except Exit Unit :=
  if opts.fallback then
    if opts.certPath.isEmpty then returnOne
    else lift (tools.loadCertKeyPairFromFiles opts.certPath opts.keyPath)
  else pure ()

/-- The command after argument parsing, up to the start of the event loop. -/
def fizzServerCommand (flags : BuildFlags) : Except Exit Server := do
  sanityCheck opts
  clientVerifier tools opts
  let echDecrypter ← echSetup tools files opts
  let (compressors,finalAlgos) := compressorLoop flags (opts.compAlgos.getD [])
  let cert ← certificate tools files opts compressors
  fallbackSetup tools opts
  pure {
    context := {
      echDecrypter := echDecrypter
      clientAuthMode := opts.clientAuthMode
      supportedCompressionAlgorithms := finalAlgos
      cert := cert
      maxEarlyDataSize := if opts.early then some opts.earlyDataSize else none
      versionFallbackEnabled := opts.fallback
      supportedAlpns := if opts.alpns.isEmpty then none else some opts.alpns }
    port := opts.port
    loop := opts.loop
    http := opts.http
    keyLogFile := if opts.keyLogFile.isEmpty then none else some opts.keyLogFile }

end Stages

/-! ## The certificate compressors -/

def BuildFlags.compiled (flags : BuildFlags) : CertificateCompressionAlgorithm → Bool
  | .zlib => true
  | .brotli => flags.brotli
  | .zstd => flags.zstd

section Compressors
variable (flags : BuildFlags)

theorem compressorFor_getAlgorithm {algo : CertificateCompressionAlgorithm} {compressor : CertificateCompressor}
    (made : compressorFor flags algo = some compressor) : compressor.getAlgorithm = algo := by
  cases algo <;> simp only [compressorFor] at made <;> (try split at made) <;> cases made <;> rfl

theorem compressorFor_isSome (algo : CertificateCompressionAlgorithm) :
    (compressorFor flags algo).isSome = flags.compiled algo := by
  cases algo <;> simp only [compressorFor,BuildFlags.compiled] <;> (try split) <;> simp_all

theorem compressorLoop_foldl (compAlgos : List CertificateCompressionAlgorithm)
    (compressors : List CertificateCompressor) (finalAlgos : List CertificateCompressionAlgorithm) :
    compAlgos.foldl (fun (compressors,finalAlgos) algo =>
        match compressorFor flags algo with
        | some compressor => (compressors ++ [compressor],finalAlgos ++ [algo])
        | none => (compressors,finalAlgos)) (compressors,finalAlgos) =
      (compressors ++ compAlgos.filterMap (compressorFor flags),finalAlgos ++ compAlgos.filter flags.compiled) := by
  induction compAlgos generalizing compressors finalAlgos with
  | nil => simp
  | cons algo compAlgos ih =>
    have compiled := compressorFor_isSome flags algo
    cases made : compressorFor flags algo <;>
      simp_all [List.filterMap_cons,List.filter_cons]

theorem compressorLoop_spec (compAlgos : List CertificateCompressionAlgorithm) :
    (compressorLoop flags compAlgos).1.map CertificateCompressor.getAlgorithm = (compressorLoop flags compAlgos).2 ∧
    (compressorLoop flags compAlgos).2 = compAlgos.filter flags.compiled := by
  simp only [compressorLoop,compressorLoop_foldl,List.nil_append,and_true]
  induction compAlgos with
  | nil => rfl
  | cons algo compAlgos ih =>
    have compiled := compressorFor_isSome flags algo
    cases made : compressorFor flags algo with
    | none => simp_all [List.filterMap_cons,List.filter_cons]
    | some compressor =>
      simp_all [List.filterMap_cons,List.filter_cons,compressorFor_getAlgorithm flags made]

end Compressors

/-! ## The stages of a command that returns -/

theorem isEmpty_false {α : Type} {xs : List α} (nonempty : xs ≠ []) : xs.isEmpty = false := by
  cases xs
  · exact absurd rfl nonempty
  · rfl

section Returns
variable {tools : Tools} {files : Files} {opts : Options} {flags : BuildFlags}

theorem certificate_ok {compressors : List CertificateCompressor} {cert : SelfCert}
    (made : certificate tools files opts compressors = .ok cert) :
    cert.compressors = compressors ∧ (cert.origin = .selfSigned → opts.certPath = []) := by
  unfold certificate at made
  split at made
  · split at made
    · cases made
    · cases made
    · by_cases cred : opts.credPath.isEmpty
      · simp only [cred,if_true] at made
        obtain ⟨⟨⟩,-,made⟩ := except_bind_ok made
        cases made
        exact ⟨rfl,nofun⟩
      · simp only [cred,Bool.false_eq_true,if_false] at made
        split at made
        · cases made
        · obtain ⟨delegated,-,made⟩ := except_bind_ok made
          split at made
          · cases made
            exact ⟨rfl,nofun⟩
          · cases made
  · cases made
    rename_i absent
    exact ⟨rfl,fun _ => by simpa using absent⟩

theorem fizzServerCommand_ok {server : Server} (ok : fizzServerCommand tools files opts flags = .ok server) :
    echSetup tools files opts = .ok server.context.echDecrypter ∧
    certificate tools files opts (compressorLoop flags (opts.compAlgos.getD [])).1 = .ok server.context.cert ∧
    server.context.supportedCompressionAlgorithms = (compressorLoop flags (opts.compAlgos.getD [])).2 ∧
    fallbackSetup tools opts = .ok () ∧ server.context.versionFallbackEnabled = opts.fallback := by
  unfold fizzServerCommand at ok
  obtain ⟨⟨⟩,-,ok⟩ := except_bind_ok ok
  obtain ⟨⟨⟩,-,ok⟩ := except_bind_ok ok
  obtain ⟨echDecrypter,ech,ok⟩ := except_bind_ok ok
  obtain ⟨cert,made,ok⟩ := except_bind_ok ok
  obtain ⟨⟨⟩,fallback,ok⟩ := except_bind_ok ok
  cases ok
  exact ⟨ech,made,rfl,fallback,rfl⟩

end Returns

/-! ## The ECH setup -/

section Ech
variable (tools : Tools) (files : Files) (opts : Options)

theorem echSetup_files (configs : opts.echConfigsFile ≠ []) (key : opts.echPrivateKeyFile ≠ []) :
    echSetup tools files opts =
      ((if opts.ech then some <$> lift (setupDefaultDecrypter tools.ech) else pure none) >>= fun _ =>
        lift (setupDecrypterFromInputs tools.ech files opts.echConfigsFile opts.echPrivateKeyFile) >>= fun
          | none => returnOne
          | some decrypter => pure (some decrypter)) := by
  simp only [echSetup,isEmpty_false configs,isEmpty_false key,Bool.not_false,Bool.and_true,Bool.and_false,
    Bool.or_false,Bool.false_eq_true,if_false,if_true]
  split <;> rfl

theorem echSetup_files_of_default (configs : opts.echConfigsFile ≠ []) (key : opts.echPrivateKeyFile ≠ [])
    (defaultSetup : opts.ech = true → ∃ decrypter, setupDefaultDecrypter tools.ech = .ok decrypter) :
    echSetup tools files opts =
      (lift (setupDecrypterFromInputs tools.ech files opts.echConfigsFile opts.echPrivateKeyFile) >>= fun
        | none => returnOne
        | some decrypter => pure (some decrypter)) := by
  rw [echSetup_files tools files opts configs key]
  cases ech : opts.ech
  · rfl
  · obtain ⟨decrypter,made⟩ := defaultSetup ech
    simp only [made,if_true,lift,Except.mapError,except_map_ok,except_ok_bind]

theorem fizzServerCommand_echSetup (flags : BuildFlags) {exit : Exit} (checked : sanityCheck opts = .ok ())
    (verified : clientVerifier tools opts = .ok ()) (failed : echSetup tools files opts = .error exit) :
    fizzServerCommand tools files opts flags = .error exit := by
  simp only [fizzServerCommand,checked,verified,failed,except_ok_bind,except_error_bind]

/-- A configs file whose `echconfigs` parse to no config: past the checks before
it the command reads element 0 of the empty vector, where it means to return 1. -/
theorem ech_empty_configs_read_past_end (flags : BuildFlags) (echConfigsJson : Json)
    (checked : sanityCheck opts = .ok ()) (verified : clientVerifier tools opts = .ok ())
    (defaultSetup : opts.ech = true → ∃ decrypter, setupDefaultDecrypter tools.ech = .ok decrypter)
    (configs : opts.echConfigsFile ≠ []) (key : opts.echPrivateKeyFile ≠ [])
    (read : tools.ech.readECHConfigsJson (files opts.echConfigsFile) = some echConfigsJson)
    (parsed : tools.ech.parseECHConfigs echConfigsJson = some []) :
    fizzServerCommand tools files opts flags = .error (.thrown .indexPastEnd) := by
  refine fizzServerCommand_echSetup tools files opts flags checked verified ?_
  rw [echSetup_files_of_default tools files opts configs key defaultSetup,
    setupDecrypterFromInputs_no_configs tools.ech files _ opts.echPrivateKeyFile _ read parsed]
  rfl

def Tools.accepting (configs : List ECHConfig) (kem : KEMId) : Tools where
  ech := {
    readECHConfigsJson := fun _ => some (.object [(ascii "echconfigs",.array [.object [(ascii "kem_id",.string [])]])])
    parseECHConfigs := fun _ => some configs
    getKEMId := fun _ => .ok kem
    readPrivateKeyFromBuffer := fun keyData => .ok ⟨keyData⟩
    setPrivateKey := fun _ key => if key.isSome then .ok () else .error (.library (ascii "null key"))
    setKeyPair := fun privKey pubKey =>
      if privKey.isEmpty || pubKey.isEmpty then .error (.library (ascii "wrong key size")) else .ok ()
    getDefaultECHConfigs := configs }
  loadLocations := fun _ _ => true
  makeSelfCert := fun _ _ _ => .ok ()
  makeDelegatedCredential := fun _ _ _ _ => .ok true
  loadCertKeyPairFromFiles := fun _ _ => .ok ()

theorem ech_empty_configs_read_past_end_example :
    let opts : Options := { echConfigsFile := ascii "ech.json", echPrivateKeyFile := ascii "ech.key" }
    let tools := Tools.accepting [] .x25519
    sanityCheck opts = .ok () ∧ clientVerifier tools opts = .ok () ∧
    (opts.ech = true → ∃ decrypter, setupDefaultDecrypter tools.ech = .ok decrypter) ∧
    opts.echConfigsFile ≠ [] ∧ opts.echPrivateKeyFile ≠ [] ∧
    tools.ech.readECHConfigsJson ((fun _ => none) opts.echConfigsFile) =
      some (.object [(ascii "echconfigs",.array [.object [(ascii "kem_id",.string [])]])]) ∧
    tools.ech.parseECHConfigs (.object [(ascii "echconfigs",.array [.object [(ascii "kem_id",.string [])]])]) =
      some [] ∧
    fizzServerCommand tools (fun _ => none) opts ⟨false,false⟩ = .error (.thrown .indexPastEnd) :=
  ⟨rfl,rfl,nofun,nofun,nofun,rfl,rfl,
    ech_empty_configs_read_past_end (.accepting [] .x25519) (fun _ => none)
      { echConfigsFile := ascii "ech.json", echPrivateKeyFile := ascii "ech.key" } ⟨false,false⟩ _ rfl rfl nofun
      nofun nofun rfl rfl⟩

def keyFiles (key : Bytes) : Files := fun path => if path = ascii "ech.key" then some key else none

/-- ECH from files, with an x25519 first config and a key file holding a key
pair as `hexlify` writes it, private key first, with whitespace before, between
and after: the setup installs the first config with that very pair, and a
command that returns has it in its context. -/
theorem ech_hexlify_key_file (echConfigsJson : Json) (first : ECHConfig) (rest : List ECHConfig)
    (privKey pubKey before between after : Bytes)
    (configs : opts.echConfigsFile ≠ []) (key : opts.echPrivateKeyFile ≠ [])
    (read : tools.ech.readECHConfigsJson (files opts.echConfigsFile) = some echConfigsJson)
    (parsed : tools.ech.parseECHConfigs echConfigsJson = some (first :: rest))
    (kem : firstKEMId tools.ech echConfigsJson = .ok .x25519) (nonempty : privKey ≠ [] ∧ pubKey ≠ [])
    (blankBefore : ∀ c ∈ before, isSpace c) (blankBetween : ∀ c ∈ between, isSpace c) (separated : between ≠ [])
    (blankAfter : ∀ c ∈ after, isSpace c)
    (file : files opts.echPrivateKeyFile = some (before ++ hexlify privKey ++ between ++ hexlify pubKey ++ after))
    (accepted : tools.ech.setKeyPair privKey pubKey = .ok ())
    (defaultSetup : opts.ech = true → ∃ decrypter, setupDefaultDecrypter tools.ech = .ok decrypter) :
    echSetup tools files opts = .ok (some ⟨[(first,.x25519 privKey pubKey)]⟩) ∧
    ∀ flags server, fizzServerCommand tools files opts flags = .ok server →
      server.context.echDecrypter = some ⟨[(first,.x25519 privKey pubKey)]⟩ := by
  have installed : echSetup tools files opts = .ok (some ⟨[(first,.x25519 privKey pubKey)]⟩) := by
    rw [echSetup_files_of_default tools files opts configs key defaultSetup,
      setupDecrypterFromInputs_eq tools.ech files _ read parsed kem,
      createKeyExchange_x25519_hexlify tools.ech files _ privKey pubKey before between after nonempty blankBefore
        blankBetween separated blankAfter file accepted]
    rfl
  refine ⟨installed,fun flags server ok => ?_⟩
  have echDecrypter := (fizzServerCommand_ok ok).1
  rw [installed] at echDecrypter
  exact (Except.ok.inj echDecrypter).symm

theorem ech_hexlify_key_file_example :
    let opts : Options := { echConfigsFile := ascii "ech.json", echPrivateKeyFile := ascii "ech.key" }
    let tools := Tools.accepting [⟨[1]⟩] .x25519
    let files := keyFiles (ascii "\n0a0b \t0c0d\n")
    let echConfigsJson : Json := .object [(ascii "echconfigs",.array [.object [(ascii "kem_id",.string [])]])]
    opts.echConfigsFile ≠ [] ∧ opts.echPrivateKeyFile ≠ [] ∧
    tools.ech.readECHConfigsJson (files opts.echConfigsFile) = some echConfigsJson ∧
    tools.ech.parseECHConfigs echConfigsJson = some [⟨[1]⟩] ∧
    firstKEMId tools.ech echConfigsJson = .ok .x25519 ∧ ([10,11] ≠ [] ∧ [12,13] ≠ []) ∧
    (∀ c ∈ ascii "\n", isSpace c) ∧ (∀ c ∈ ascii " \t", isSpace c) ∧ ascii " \t" ≠ [] ∧
    (∀ c ∈ ascii "\n", isSpace c) ∧
    files opts.echPrivateKeyFile = some (ascii "\n" ++ hexlify [10,11] ++ ascii " \t" ++ hexlify [12,13] ++
      ascii "\n") ∧
    tools.ech.setKeyPair [10,11] [12,13] = .ok () ∧
    (echSetup tools files opts = .ok (some ⟨[(⟨[1]⟩,.x25519 [10,11] [12,13])]⟩) ∧
    ∀ flags server, fizzServerCommand tools files opts flags = .ok server →
      server.context.echDecrypter = some ⟨[(⟨[1]⟩,.x25519 [10,11] [12,13])]⟩) :=
  ⟨nofun,nofun,rfl,rfl,rfl,⟨nofun,nofun⟩,by decide,by decide,nofun,by decide,rfl,rfl,
    ech_hexlify_key_file (.accepting [⟨[1]⟩] .x25519) (keyFiles (ascii "\n0a0b \t0c0d\n"))
      { echConfigsFile := ascii "ech.json", echPrivateKeyFile := ascii "ech.key" } _ ⟨[1]⟩ [] [10,11] [12,13]
      (ascii "\n") (ascii " \t") (ascii "\n") nofun nofun rfl rfl rfl ⟨nofun,nofun⟩ (by decide) (by decide) nofun
      (by decide) rfl rfl nofun⟩

end Ech

/-- The certificate compressors: `compressors` and `finalAlgos` match place by
place and are the requested algorithms compiled into the tool, in the requested
order; so a command that returns advertises exactly the algorithms of the
compressors its certificate holds. -/
theorem compression_algorithms_match_compressors (flags : BuildFlags)
    (compAlgos : List CertificateCompressionAlgorithm) :
    (compressorLoop flags compAlgos).1.length = (compressorLoop flags compAlgos).2.length ∧
    (compressorLoop flags compAlgos).1.map CertificateCompressor.getAlgorithm = (compressorLoop flags compAlgos).2 ∧
    (compressorLoop flags compAlgos).2 = compAlgos.filter flags.compiled ∧
    ∀ tools files opts server, fizzServerCommand tools files opts flags = .ok server →
      server.context.supportedCompressionAlgorithms =
        server.context.cert.compressors.map CertificateCompressor.getAlgorithm ∧
      server.context.supportedCompressionAlgorithms = (opts.compAlgos.getD []).filter flags.compiled := by
  obtain ⟨matched,filtered⟩ := compressorLoop_spec flags compAlgos
  refine ⟨by rw [← matched,List.length_map],matched,filtered,fun tools files opts server ok => ?_⟩
  obtain ⟨-,made,advertised,-⟩ := fizzServerCommand_ok ok
  rw [(certificate_ok made).1,advertised]
  obtain ⟨matched',filtered'⟩ := compressorLoop_spec flags (opts.compAlgos.getD [])
  exact ⟨matched'.symm,filtered'⟩

theorem compression_algorithms_match_compressors_zstd :
    ∃ server, fizzServerCommand (.accepting [] .x448) (fun _ => none) { compAlgos := some [.zstd,.zlib,.brotli] }
        ⟨false,true⟩ = .ok server ∧
      server.context.supportedCompressionAlgorithms =
        server.context.cert.compressors.map CertificateCompressor.getAlgorithm ∧
      server.context.supportedCompressionAlgorithms = [.zstd,.zlib] := by
  obtain ⟨server,ok⟩ : ∃ server, fizzServerCommand (.accepting [] .x448) (fun _ => none)
      { compAlgos := some [.zstd,.zlib,.brotli] } ⟨false,true⟩ = .ok server := ⟨_,rfl⟩
  exact ⟨server,ok,(compression_algorithms_match_compressors ⟨false,true⟩ [.zstd,.zlib,.brotli]).2.2.2
    _ _ _ server ok⟩

end FizzServer.Command
