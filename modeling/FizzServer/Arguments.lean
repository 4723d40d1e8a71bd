import FizzServer.Command
import Mathlib.Data.List.Basic
import Mathlib.Data.List.Forall2

/-! The values of `-ciphers`, `-alpn` and `-certcompression`: `folly::split` at
one byte, and `splitParse`, which parses every piece. The handlers cut `-ciphers`
at `:` and then `,`, `-alpn` at `:` and `-certcompression` at `,`; the usage
text writes `-alpn` as comma-separated and `-certcompression` with colons. The
name parsers `parse<CipherSuite>` and `parse<CertificateCompressionAlgorithm>`
come from outside this file: the handlers take them as parameters, and the
results need only that a parser reads back exactly the names it is given. -/
namespace FizzServer.Command
open Ech

def colon : UInt8 := 58

def comma : UInt8 := 44

/-- `splitParse<T>(value, delim)`: every piece of the value parsed, the first
that does not parse throwing. -/
def splitParse {α : Type} (parse : Bytes → Except Fault α) (value : Bytes) (delim : UInt8) :
    Except Fault (List α) :=
  (split delim value).mapM parse

/-- The `-ciphers` handler: the groups cleared, then one group for each
`:`-separated item, parsed as `,`-separated suites. -/
def ciphersHandler {α : Type} (parse : Bytes → Except Fault α) (arg : Bytes) : Except Fault (List (List α)) :=
  (split colon arg).mapM fun item => splitParse parse item comma

def alpnHandler (arg : Bytes) (opts : Options) : Options := { opts with alpns := split colon arg }

/-- The `-certcompression` handler: `splitParse` at its default `,`. -/
def certCompressionHandler (parse : Bytes → Except Fault CertificateCompressionAlgorithm) (arg : Bytes)
    (opts : Options) : Except Fault Options := do
  let compAlgos ← splitParse parse arg comma
  pure { opts with compAlgos := some compAlgos }

def ciphersText {α : Type} (name : α → Bytes) (groups : List (List α)) : Bytes :=
  [colon].intercalate (groups.map fun group => [comma].intercalate (group.map name))

/-! ## `mapM` in `Except` -/

theorem mapM_eq_ok {α β ε : Type} {f : α → Except ε β} {xs : List α} {ys : List β} :
    xs.mapM f = .ok ys ↔ List.Forall₂ (fun x y => f x = .ok y) xs ys := by
  induction xs generalizing ys with
  | nil => simp only [List.mapM_nil,except_pure,Except.ok.injEq,List.forall₂_nil_left_iff,eq_comm]
  | cons x xs ih =>
    simp only [List.mapM_cons,List.forall₂_cons_left_iff,← ih]
    cases f x <;> cases xs.mapM f <;> simp [eq_comm]

theorem mapM_eq_ok_iff {α β ε : Type} {parse : β → Except ε α} {print : α → β} {valid : α → Prop}
    (inverse : ∀ a, valid a → parse (print a) = .ok a) (exact : ∀ b a, parse b = .ok a → valid a ∧ print a = b)
    {xs : List β} {ys : List α} : xs.mapM parse = .ok ys ↔ xs = ys.map print ∧ ∀ y ∈ ys, valid y := by
  rw [mapM_eq_ok]
  induction ys generalizing xs with
  | nil => simp [List.forall₂_nil_right_iff]
  | cons y ys ih =>
    rw [List.forall₂_cons_right_iff]
    constructor
    · rintro ⟨x,xs',parsed,rest,rfl⟩
      obtain ⟨validY,printed⟩ := exact x y parsed
      obtain ⟨same,valids⟩ := ih.mp rest
      exact ⟨by rw [← printed,same]; rfl,List.forall_mem_cons.mpr ⟨validY,valids⟩⟩
    · rintro ⟨rfl,valids⟩
      obtain ⟨validY,validYs⟩ := List.forall_mem_cons.mp valids
      exact ⟨print y,ys.map print,inverse y validY,ih.mpr ⟨rfl,validYs⟩,rfl⟩

/-! ## `splitParse` and `-ciphers`

A name parser is taken to read back exactly the names it is given (`inverse`
and `exact`); the names hold neither separator. -/

section Names
variable {α : Type} (parse : Bytes → Except Fault α) (name : α → Bytes)
  (inverse : ∀ c, parse (name c) = .ok c) (exact : ∀ s c, parse s = .ok c → name c = s)
include inverse exact

theorem splitParse_eq_ok (delim : UInt8) (clean : ∀ c, delim ∉ name c) (value : Bytes) (cs : List α) :
    splitParse parse value delim = .ok cs ↔ value = [delim].intercalate (cs.map name) ∧ cs ≠ [] := by
  rw [splitParse,mapM_eq_ok_iff (fun c _ => inverse c) (fun s c parsed => ⟨trivial,exact s c parsed⟩),
    split_eq_iff]
  simp [clean]

/-- The `-ciphers` value is read exactly when it is the `:`-join of the
`,`-joined names of a list of groups, none of them empty, and it is read as that
list: a value with an empty group or an empty suite (`a,,b`, `a:`, an empty
value) or a name `parse` does not know is rejected. -/
theorem ciphersHandler_eq_ok (clean : ∀ c, colon ∉ name c ∧ comma ∉ name c) (arg : Bytes)
    (groups : List (List α)) :
    ciphersHandler parse arg = .ok groups ↔
      arg = ciphersText name groups ∧ groups ≠ [] ∧ ∀ group ∈ groups, group ≠ [] := by
  have groupsClean : ∀ group ∈ groups, colon ∉ [comma].intercalate (group.map name) := fun _ _ =>
    not_mem_intercalate (by decide) (List.forall_mem_map.mpr fun c _ => (clean c).1)
  have read := splitParse_eq_ok parse name inverse exact comma fun c => (clean c).2
  have groupsRead := @mapM_eq_ok_iff (List α) Bytes Fault (fun item => splitParse parse item comma)
    (fun group => [comma].intercalate (group.map name)) (· ≠ [])
    (fun group filled => (read _ group).mpr ⟨rfl,filled⟩)
    (fun item group parsed => ⟨((read item group).mp parsed).2,((read item group).mp parsed).1.symm⟩)
  rw [ciphersHandler,groupsRead,split_eq_iff]
  constructor
  · rintro ⟨⟨text,nonempty,-⟩,filled⟩
    exact ⟨text,List.map_eq_nil_iff.not.mp nonempty,filled⟩
  · rintro ⟨text,nonempty,filled⟩
    exact ⟨⟨text,List.map_eq_nil_iff.not.mpr nonempty,List.forall_mem_map.mpr groupsClean⟩,filled⟩

end Names

/-! ## The names this file writes

`parse<T>` of an enumeration looks the text up among the names of all its
values. The suites are the default groups of `ciphers`; the algorithms'
names are those `toString` gives. These instances are what the results are
checked on. -/

def lookup {α : Type} (all : List α) (name : α → Bytes) (text : Bytes) : Except Fault α :=
  match all.find? fun c => name c == text with
  | some c => .ok c
  | none => .error (.library text)

theorem name_of_lookup {α : Type} {all : List α} {name : α → Bytes} {text : Bytes} {c : α}
    (found : lookup all name text = .ok c) : name c = text := by
  unfold lookup at found
  split at found
  · rename_i hit
    cases found
    simpa using List.find?_some hit
  · cases found

inductive CipherSuite where
  | tlsAes128GcmSha256
  | tlsAes256GcmSha384
  | tlsChacha20Poly1305Sha256
  deriving DecidableEq, Repr

def CipherSuite.name : CipherSuite → Bytes
  | .tlsAes128GcmSha256 => ascii "TLS_AES_128_GCM_SHA256"
  | .tlsAes256GcmSha384 => ascii "TLS_AES_256_GCM_SHA384"
  | .tlsChacha20Poly1305Sha256 => ascii "TLS_CHACHA20_POLY1305_SHA256"

def CipherSuite.parse : Bytes → Except Fault CipherSuite :=
  lookup [.tlsAes128GcmSha256,.tlsAes256GcmSha384,.tlsChacha20Poly1305Sha256] CipherSuite.name

theorem CipherSuite.parse_name (c : CipherSuite) : CipherSuite.parse c.name = .ok c := by
  cases c <;> rfl

theorem CipherSuite.name_clean (c : CipherSuite) : colon ∉ c.name ∧ comma ∉ c.name := by
  cases c <;> decide

theorem ciphersHandler_usage_default :
    ciphersHandler CipherSuite.parse
        (ascii "TLS_AES_128_GCM_SHA256,TLS_AES_256_GCM_SHA384:TLS_CHACHA20_POLY1305_SHA256") =
      .ok [[.tlsAes128GcmSha256,.tlsAes256GcmSha384],[.tlsChacha20Poly1305Sha256]] :=
  (ciphersHandler_eq_ok CipherSuite.parse CipherSuite.name CipherSuite.parse_name (fun _ _ => name_of_lookup)
    CipherSuite.name_clean _ _).mpr ⟨rfl,nofun,by decide⟩

def CertificateCompressionAlgorithm.name : CertificateCompressionAlgorithm → Bytes
  | .zlib => ascii "zlib"
  | .brotli => ascii "brotli"
  | .zstd => ascii "zstd"

def CertificateCompressionAlgorithm.parse : Bytes → Except Fault CertificateCompressionAlgorithm :=
  lookup [.zlib,.brotli,.zstd] CertificateCompressionAlgorithm.name

theorem CertificateCompressionAlgorithm.parse_name (c : CertificateCompressionAlgorithm) :
    CertificateCompressionAlgorithm.parse c.name = .ok c := by
  cases c <;> rfl

theorem CertificateCompressionAlgorithm.name_clean (c : CertificateCompressionAlgorithm) :
    colon ∉ c.name ∧ comma ∉ c.name := by
  cases c <;> decide

/-! ## What the command makes of the values -/

section Compression
variable {parse : Bytes → Except Fault CertificateCompressionAlgorithm} {name : CertificateCompressionAlgorithm → Bytes}

theorem certCompressionHandler_eq_ok (inverse : ∀ c, parse (name c) = .ok c)
    (exact : ∀ s c, parse s = .ok c → name c = s) (clean : ∀ c, comma ∉ name c) (arg : Bytes) (opts opts' : Options) :
    certCompressionHandler parse arg opts = .ok opts' ↔
      ∃ compAlgos, arg = [comma].intercalate (compAlgos.map name) ∧ compAlgos ≠ [] ∧
        opts' = { opts with compAlgos := some compAlgos } := by
  have read := splitParse_eq_ok parse name inverse exact comma clean arg
  constructor
  · intro handled
    obtain ⟨compAlgos,parsed,made⟩ := except_bind_ok handled
    exact ⟨compAlgos,(read compAlgos).mp parsed |>.1,(read compAlgos).mp parsed |>.2,(Except.ok.inj made).symm⟩
  · rintro ⟨compAlgos,text,nonempty,rfl⟩
    rw [certCompressionHandler,(read compAlgos).mpr ⟨text,nonempty⟩]
    rfl

/-- `-certcompression` through the command: a value that is read names a
non-empty list of algorithms, joined by `,`, and a command that returns
advertises those of them compiled into the tool, in the order named; one named
but not compiled in is dropped without an error. -/
theorem certcompression_advertised (inverse : ∀ c, parse (name c) = .ok c)
    (exact : ∀ s c, parse s = .ok c → name c = s) (clean : ∀ c, comma ∉ name c) {tools : Tools} {files : Files}
    {flags : BuildFlags} {arg : Bytes} {opts opts' : Options} {server : Server}
    (handled : certCompressionHandler parse arg opts = .ok opts')
    (ok : fizzServerCommand tools files opts' flags = .ok server) :
    ∃ compAlgos, arg = [comma].intercalate (compAlgos.map name) ∧ compAlgos ≠ [] ∧
      server.context.supportedCompressionAlgorithms = compAlgos.filter flags.compiled := by
  obtain ⟨compAlgos,text,nonempty,rfl⟩ := (certCompressionHandler_eq_ok inverse exact clean arg opts opts').mp handled
  obtain ⟨-,-,advertised,-⟩ := fizzServerCommand_ok ok
  exact ⟨compAlgos,text,nonempty,advertised.trans (compressorLoop_spec flags compAlgos).2⟩

theorem certcompression_advertised_zstd :
    ∃ opts server, certCompressionHandler CertificateCompressionAlgorithm.parse (ascii "zstd,zlib,brotli") {} = .ok opts ∧
      fizzServerCommand (.accepting [] .x448) (fun _ => none) opts ⟨false,true⟩ = .ok server ∧
      ∃ compAlgos, ascii "zstd,zlib,brotli" = [comma].intercalate (compAlgos.map CertificateCompressionAlgorithm.name) ∧
        compAlgos ≠ [] ∧
        server.context.supportedCompressionAlgorithms = compAlgos.filter (BuildFlags.compiled ⟨false,true⟩) := by
  have handled : certCompressionHandler CertificateCompressionAlgorithm.parse (ascii "zstd,zlib,brotli") {} =
      .ok { compAlgos := some [.zstd,.zlib,.brotli] } := rfl
  obtain ⟨server,ok⟩ : ∃ server, fizzServerCommand (.accepting [] .x448) (fun _ => none)
      { compAlgos := some [.zstd,.zlib,.brotli] } ⟨false,true⟩ = .ok server := ⟨_,rfl⟩
  exact ⟨_,server,handled,ok,certcompression_advertised CertificateCompressionAlgorithm.parse_name
    (fun _ _ => name_of_lookup) (fun c => (CertificateCompressionAlgorithm.name_clean c).2) handled ok⟩

/-- The usage text writes `-certcompression a1:...`, but the handler cuts at
`,`: a value naming two or more algorithms joined by `:` is one piece, which no
parser that reads back only its names accepts, so the handler throws. -/
theorem certcompression_usage_colons_rejected (inverse : ∀ c, parse (name c) = .ok c)
    (exact : ∀ s c, parse s = .ok c → name c = s) (clean : ∀ c, colon ∉ name c ∧ comma ∉ name c)
    (first second : CertificateCompressionAlgorithm) (rest : List CertificateCompressionAlgorithm) (opts : Options) :
    ∃ fault, certCompressionHandler parse ([colon].intercalate ((first :: second :: rest).map name)) opts =
      .error fault := by
  rcases except_ok_or_error (certCompressionHandler parse ([colon].intercalate ((first :: second :: rest).map name)) opts)
    with ⟨opts',handled⟩ | ⟨fault,failed⟩
  · obtain ⟨compAlgos,same,-,-⟩ :=
      (certCompressionHandler_eq_ok inverse exact (fun c => (clean c).2) _ opts opts').mp handled
    have inside := delim_mem_intercalate colon (name first) (name second) (rest.map name)
    rw [← List.map_cons,← List.map_cons,same] at inside
    exact absurd inside (not_mem_intercalate (by decide) (List.forall_mem_map.mpr fun c _ => (clean c).1))
  · exact ⟨fault,failed⟩

theorem certcompression_usage_colons_rejected_zlib_zstd :
    ∃ fault, certCompressionHandler CertificateCompressionAlgorithm.parse (ascii "zlib:zstd") {} = .error fault :=
  certcompression_usage_colons_rejected CertificateCompressionAlgorithm.parse_name (fun _ _ => name_of_lookup)
    CertificateCompressionAlgorithm.name_clean .zlib .zstd [] {}

end Compression

end FizzServer.Command
