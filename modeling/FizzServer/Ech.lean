import FizzServer.Text

/-! The ECH decrypter of `fizzServerCommand`: from `-echconfigs` and
`-echprivatekey` through `setupDecrypterFromInputs` and `createKeyExchange`, or
the built-in one of `-ech` from `setupDefaultDecrypter`. The configs reader and
parser, the key reader and the key exchanges' setters are library functions and
enter as a `Library`; the accessors of `folly::dynamic` and `folly::unhexlify`
are modelled with the exceptions they throw. -/
namespace FizzServer.Ech

abbrev Path := Bytes

abbrev Files := Path → Option Bytes

/-- `folly::dynamic`; a double carries the text `folly::to<std::string>` gives for it. -/
inductive Json where
  | null
  | bool (b : Bool)
  | number (n : Int)
  | double (printed : Bytes)
  | string (s : Bytes)
  | array (items : List Json)
  | object (fields : List (Bytes × Json))

/-- Why the setup stops without returning: `folly::TypeError` (a `dynamic` of
the wrong type), `std::out_of_range` (an array indexed past its end),
`std::vector::operator[]` past the end (undefined behaviour), `std::domain_error`
from `folly::unhexlify`, or an exception of a library function. -/
inductive Fault where
  | typeError
  | outOfRange
  | indexPastEnd
  | domainError
  | library (what : Bytes)
  deriving DecidableEq, Repr

/-- `dynamic::operator[]` with a string key: a missing member of an object is
inserted as null. -/
def Json.member (key : Bytes) : Json → Except Fault Json
  | .object fields => .ok ((fields.lookup key).getD .null)
  | _ => .error .typeError

def Json.index (i : Nat) : Json → Except Fault Json
  | .array items =>
    match items.get? i with
    | some item => .ok item
    | none => .error .outOfRange
  | .object _ => .ok .null
  | _ => .error .typeError

/-- `dynamic::asString()`: `folly::to<std::string>` of a number or a bool. -/
def Json.asString : Json → Except Fault Bytes
  | .string s => .ok s
  | .number n => .ok (ascii (toString n))
  | .double printed => .ok printed
  | .bool b => .ok (ascii (if b then "1" else "0"))
  | _ => .error .typeError

def vectorAt {α : Type} (items : List α) (i : Nat) : Except Fault α :=
  match items.get? i with
  | some item => .ok item
  | none => .error .indexPastEnd

def unhexlifyString (text : Bytes) : Except Fault Bytes :=
  match unhexlify text with
  | some bytes => .ok bytes
  | none => .error .domainError

inductive KEMId where
  | secp256r1
  | secp384r1
  | secp521r1
  | x25519
  | x448
  deriving DecidableEq, Repr

inductive Curve where
  | p256
  | p384
  | p521
  deriving DecidableEq, Repr

structure ECHConfig where
  encoded : Bytes
  deriving DecidableEq, Repr

structure PrivateKey where
  encoded : Bytes
  deriving DecidableEq, Repr

/-- A key exchange with the key material it was given: an `OpenSSLECKeyExchange`
after `setPrivateKey` (a null key when the file could not be read), or an
`X25519KeyExchange` after `setKeyPair`. -/
inductive KeyExchange where
  | openSSLEC (curve : Curve) (privateKey : Option PrivateKey)
  | x25519 (privateKey publicKey : Bytes)
  deriving DecidableEq, Repr

structure Decrypter where
  configs : List (ECHConfig × KeyExchange)
  deriving DecidableEq, Repr

/-- The library functions the setup calls; `readECHConfigsJson` is given what
the configs file holds, and the setters may reject what they are given. -/
structure Library where
  readECHConfigsJson : Option Bytes → Option Json
  parseECHConfigs : Json → Option (List ECHConfig)
  getKEMId : Bytes → Except Fault KEMId
  readPrivateKeyFromBuffer : Bytes → Except Fault PrivateKey
  setPrivateKey : Curve → Option PrivateKey → Except Fault Unit
  setKeyPair : Bytes → Bytes → Except Fault Unit
  getDefaultECHConfigs : List ECHConfig

section Setup
variable (lib : Library) (files : Files)

/-- The `getPrivateKey` lambda of `createKeyExchange`: the key the file holds,
or null when it cannot be read. -/
def getPrivateKey (echPrivateKeyFile : Path) : Except Fault (Option PrivateKey) :=
  match files echPrivateKeyFile with
  | some keyData => some <$> lib.readPrivateKeyFromBuffer keyData
  | none => pure none

def openSSLECKeyExchange (curve : Curve) (echPrivateKeyFile : Path) : Except Fault (Option KeyExchange) := do
  let privateKey ← getPrivateKey lib files echPrivateKeyFile
  lib.setPrivateKey curve privateKey
  pure (some (.openSSLEC curve privateKey))

def createKeyExchange (kemId : KEMId) (echPrivateKeyFile : Path) : Except Fault (Option KeyExchange) :=
  match kemId with
  | .secp256r1 => openSSLECKeyExchange lib files .p256 echPrivateKeyFile
  | .secp384r1 => openSSLECKeyExchange lib files .p384 echPrivateKeyFile
  | .secp521r1 => openSSLECKeyExchange lib files .p521 echPrivateKeyFile
  | .x25519 => do
    let privKey ← unhexlifyString (readWord (files echPrivateKeyFile) 0)
    let pubKey ← unhexlifyString (readWord (files echPrivateKeyFile) 1)
    lib.setKeyPair privKey pubKey
    pure (some (.x25519 privKey pubKey))
  | .x448 => pure none

/-- `getKEMId((*echConfigsJson)["echconfigs"][0]["kem_id"].asString())`. -/
def firstKEMId (echConfigsJson : Json) : Except Fault KEMId := do
  lib.getKEMId (← (← (← (← echConfigsJson.member (ascii "echconfigs")).index 0).member (ascii "kem_id")).asString)

/-- `nullptr` (`none`) when the configs do not read or parse, or the KEM is not
supported; otherwise one decryption config, from element 0 of the parsed configs
and of the document's `echconfigs`. -/
def setupDecrypterFromInputs (echConfigsFile echPrivateKeyFile : Path) : Except Fault (Option Decrypter) :=
  match lib.readECHConfigsJson (files echConfigsFile) with
  | none => pure none
  | some echConfigsJson =>
    match lib.parseECHConfigs echConfigsJson with
    | none => pure none
    | some gotECHConfigs => do
      let gotConfig ← vectorAt gotECHConfigs 0
      let kemId ← firstKEMId lib echConfigsJson
      match ← createKeyExchange lib files kemId echPrivateKeyFile with
      | none => pure none
      | some kexWithPrivateKey => pure (some ⟨[(gotConfig,kexWithPrivateKey)]⟩)

def setupDefaultDecrypter : Except Fault Decrypter := do
  let defaultPrivateKey ← unhexlifyString (ascii "8c490e5b0c7dbe0c6d2192484d2b7a0423b3b4544f2481095a99dbf238fb350f")
  let defaultPublicKey ← unhexlifyString (ascii "8a07563949fac6232936ed6f36c4fa735930ecdeaef6734e314aeac35a56fd0a")
  let chosenConfig ← vectorAt lib.getDefaultECHConfigs 0
  lib.setKeyPair defaultPrivateKey defaultPublicKey
  pure ⟨[(chosenConfig,.x25519 defaultPrivateKey defaultPublicKey)]⟩

end Setup

/-! ## What the setup installs -/

section Except
variable {ε α β : Type}

@[simp] theorem except_pure (a : α) : (pure a : Except ε α) = .ok a := rfl

@[simp] theorem except_ok_bind (a : α) (f : α → Except ε β) : (Except.ok a >>= f) = f a := rfl

@[simp] theorem except_error_bind (e : ε) (f : α → Except ε β) : (Except.error e >>= f) = .error e := rfl

@[simp] theorem except_map_ok (f : α → β) (a : α) : f <$> (Except.ok a : Except ε α) = .ok (f a) := rfl

theorem except_bind_ok {m : Except ε α} {f : α → Except ε β} {b : β} (ok : (m >>= f) = .ok b) :
    ∃ a, m = .ok a ∧ f a = .ok b := by
  cases m with
  | error e => cases ok
  | ok a => exact ⟨a,rfl,ok⟩

theorem except_ok_or_error (m : Except ε α) : (∃ a, m = .ok a) ∨ ∃ e, m = .error e := by
  cases m with
  | ok a => exact .inl ⟨a,rfl⟩
  | error e => exact .inr ⟨e,rfl⟩

end Except

def KEMId.curve : KEMId → Option Curve
  | .secp256r1 => some .p256
  | .secp384r1 => some .p384
  | .secp521r1 => some .p521
  | .x25519 | .x448 => none

section Spec
variable (lib : Library) (files : Files)

theorem createKeyExchange_x25519_hexlify (echPrivateKeyFile : Path) (privKey pubKey before between after : Bytes)
    (nonempty : privKey ≠ [] ∧ pubKey ≠ []) (blankBefore : ∀ c ∈ before, isSpace c)
    (blankBetween : ∀ c ∈ between, isSpace c) (separated : between ≠ []) (blankAfter : ∀ c ∈ after, isSpace c)
    (file : files echPrivateKeyFile = some (before ++ hexlify privKey ++ between ++ hexlify pubKey ++ after))
    (accepted : lib.setKeyPair privKey pubKey = .ok ()) :
    createKeyExchange lib files .x25519 echPrivateKeyFile = .ok (some (.x25519 privKey pubKey)) := by
  have twoWords := words_hexlify _ _ _ _ _ nonempty blankBefore blankBetween separated blankAfter
  have first : readWord (files echPrivateKeyFile) 0 = hexlify privKey := by
    rw [readWord,file,Option.map_some',twoWords]; rfl
  have second : readWord (files echPrivateKeyFile) 1 = hexlify pubKey := by
    rw [readWord,file,Option.map_some',twoWords]; rfl
  simp [createKeyExchange,unhexlifyString,first,second,unhexlify_hexlify,accepted]

theorem setupDecrypterFromInputs_no_configs (echConfigsFile echPrivateKeyFile : Path) (echConfigsJson : Json)
    (read : lib.readECHConfigsJson (files echConfigsFile) = some echConfigsJson)
    (parsed : lib.parseECHConfigs echConfigsJson = some []) :
    setupDecrypterFromInputs lib files echConfigsFile echPrivateKeyFile = .error .indexPastEnd := by
  simp only [setupDecrypterFromInputs,read,parsed]
  rfl

section First
variable {echConfigsFile : Path} (echPrivateKeyFile : Path) {echConfigsJson : Json} {first : ECHConfig}
  {rest : List ECHConfig} {kemId : KEMId} (read : lib.readECHConfigsJson (files echConfigsFile) = some echConfigsJson)
  (parsed : lib.parseECHConfigs echConfigsJson = some (first :: rest))
  (kem : firstKEMId lib echConfigsJson = .ok kemId)
include read parsed kem

theorem setupDecrypterFromInputs_eq :
    setupDecrypterFromInputs lib files echConfigsFile echPrivateKeyFile =
      (createKeyExchange lib files kemId echPrivateKeyFile >>= fun
        | none => pure none
        | some kex => pure (some ⟨[(first,kex)]⟩)) := by
  simp only [setupDecrypterFromInputs,read,parsed]
  rw [show vectorAt (first :: rest) 0 = .ok first from rfl]
  simp only [bind,Except.bind,kem]

end First

end Spec

end FizzServer.Ech
