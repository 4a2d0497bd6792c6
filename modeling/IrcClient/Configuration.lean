import IrcClient.Decoding.Record
import IrcClient.File
import IrcClient.Identity
import IrcClient.Logging
import IrcClient.Settings
import IrcClient.Store

/-!
# The configuration

A configuration is a file in JSON5 that names the networks and the client's settings.
Everything in it but the essentials of a network may be left out.
-/

namespace IrcClient

open Json5

/-- A network in the configuration: who the client is there, and what channels it enters. -/
structure NetworkPlan where
  identity : Identity
  autoJoin : List String
deriving DecidableEq, Repr, Inhabited

/-- A configuration. -/
structure Configuration where
  settings : Settings := {}
  networks : List NetworkPlan := []
  logging : Logging := .standard
deriving DecidableEq

instance : Inhabited Configuration := ⟨{}⟩

/-- Why a configuration cannot be read. -/
inductive ConfigurationError where
  | file (error : FileError)
  | malformed
  | decoding (error : DecodeError)
deriving DecidableEq, Repr

/-- The words for it. -/
def ConfigurationError.message : ConfigurationError → String
  | .file e => e.message
  | .malformed => "malformed document"
  | .decoding e => e.message

namespace Decoder

/-! ## Networks -/

/-- A port. -/
def port : Decoder Nat := fun v =>
  (integer 0 65535 "u16" v).map Int.toNat

/-- The fields of an endpoint. -/
def endpointFields : Fields [String, Nat, Bool, Int] :=
  .cons (.required "address" text) <|
  .cons (.required "port" port) <|
  .cons (.optional "tls" bool false) <|
  .cons (.optional "priority" (integer (-2147483648) 2147483647 "i32") 0) .nil

/-- An endpoint. -/
def endpoint (r : Reading) : Decoder Endpoint :=
  record r "Endpoint" endpointFields fun (address, port, tls, priority, ()) =>
    { address, port, tls, priority }

/-- A mechanism. -/
def mechanism (r : Reading) : Decoder MechanismName :=
  choice r (MechanismName.all.map fun m => (m.text, m))

/-- The fields that say how to authenticate. -/
def saslFields (r : Reading) : Fields [Bool, MechanismName, String, String, Option String] :=
  .cons (.optional "enabled" bool false) <|
  .cons (.optional "mechanism" (mechanism r) .plain) <|
  .cons (.optional "username" text "") <|
  .cons (.optional "password" text "") <|
  .cons (.optional "external_cert" (nullable fileName) none) .nil

/-- How to authenticate. -/
def sasl (r : Reading) : Decoder SaslSettings :=
  record r "SaslConfig" (saslFields r)
    fun (enabled, mechanism, username, password, externalCert, ()) =>
      { enabled, mechanism, username, password, externalCert }

/-- The fields of an identity. -/
def identityFields (r : Reading) : Fields
    [Int, String, List Endpoint, String, String, String, Option String, SaslSettings, Bool] :=
  .cons (.required "id" (integer (-integerBound) (integerBound - 1) "i64")) <|
  .cons (.required "name" text) <|
  .cons (.required "endpoints" (list (endpoint r))) <|
  .cons (.required "nickname" text) <|
  .cons (.required "username" text) <|
  .cons (.required "realname" text) <|
  .cons (.optional "password" (nullable text) none) <|
  .cons (.optional "sasl" (sasl r) {}) <|
  .cons (.optional "auto_connect" bool false) .nil

/-- The identity that the values of its fields make up. -/
def toIdentity : Values
    [Int, String, List Endpoint, String, String, String, Option String, SaslSettings, Bool] →
    Identity
  | (id, name, endpoints, nickname, username, realname, password, sasl, autoConnect, ()) =>
    { id, name, endpoints, nickname, username, realname, password, sasl, autoConnect }

/-- An identity. -/
def identity (r : Reading) : Decoder Identity :=
  record r "NetworkIdentity" (identityFields r) toIdentity

/-- What has been read of a network: its channels, and the fields that are kept for later. -/
structure NetworkDraft where
  autoJoin : Option (List String) := none
  kept : List (Text × Value) := []

/-- Reads the next field of a network. -/
def NetworkDraft.add (d : NetworkDraft) (field : Text × Value) :
    Except DecodeError NetworkDraft := do
  let name ← readText field.1
  if name = "autojoin" then
    if d.autoJoin.isSome then throw (.duplicateField name)
    let channels ← list text field.2
    return { d with autoJoin := some channels }
  else
    -- a fault in it counts where it is met
    checkValue field.2
    return { d with kept := d.kept ++ [field] }

/-- A network. The fields of its identity stand beside its own. -/
def network : Decoder NetworkPlan
  | .record fields => do
    let d ← fields.foldlM NetworkDraft.add {}
    let values ← (identityFields .kept).ofRecord .kept d.kept
    return ⟨toIdentity values, d.autoJoin.getD []⟩
  | v => mismatch "struct NetworkConfig" v

/-! ## Settings and logging -/

/-- The settings, where a duration is read as `ms` says. -/
def settingsWith (r : Reading) (ms : Decoder Nat) : Decoder Settings :=
  let standard : Settings := {}
  let fields : Fields [Nat, Nat, String] :=
    .cons (.optional "connect-timeout-ms" ms standard.connectTimeout) <|
    .cons (.optional "auto-connect-stagger-ms" ms standard.stagger) <|
    .cons (.optional "ctcp-version" text standard.version) .nil
  record r "EngineSettings" fields fun (connectTimeout, stagger, version, ()) =>
    { connectTimeout, stagger, version }

/-- The settings. -/
def settings : Decoder Settings :=
  settingsWith .direct natural

/-- A level. -/
def logLevel (r : Reading) : Decoder LogLevel :=
  choice r (LogLevel.all.map fun l => (l.name, l))

/-- The fields of a target that is a file. -/
def fileFields : Fields [String] :=
  .cons (.required "filename" fileName) .nil

/-- A target: a file, or one of the two that are always there. -/
def logTarget (r : Reading) : Decoder LogTarget := fun v => do
  passOver r v
  let file : Option LogTarget := match v with
    | .record fields =>
      match fileFields.ofRecord .strict fields with
      | .ok (name, ()) => some (.file name)
      | .error _ => none
    | _ => none
  -- the forms are tried one after the other, and it is not said why none of them fits
  match file, choice .strict [("stdout", .stdout), ("stderr", LogTarget.stderr)] v with
  | some t, _ => return t
  | none, .ok t => return t
  | none, .error _ => throw (.noForm "LogTarget")

/-- The fields of an output. -/
def outputFields (r : Reading) : Fields [LogTarget, List String, Option LogLevel] :=
  .cons (.required "target" (logTarget r)) <|
  .cons (.optional "modules" (list text) []) <|
  .cons (.nullable "level" (logLevel r)) .nil

/-- An output. -/
def logOutput (r : Reading) : Decoder LogOutput :=
  record r "LogEntry" (outputFields r) fun (target, modules, level, ()) =>
    { target, modules, level }

/-- The fields that say how messages are logged. -/
def loggingFields (r : Reading) :
    Fields [String, Option LogLevel, List (String × LogLevel), List LogOutput] :=
  .cons (.optional "dir" fileName "log") <|
  .cons (.nullable "default-level" (logLevel r)) <|
  .cons (.optional "module-levels" (entries (logLevel r)) []) <|
  .cons (.optional "targets" (list (logOutput r)) []) .nil

/-- How messages are logged. Of several levels under one name the last counts. -/
def logging (r : Reading) : Decoder Logging :=
  record r "LoggingConfig" (loggingFields r) fun (dir, defaultLevel, levels, outputs, ()) =>
    { dir, defaultLevel, levels := .ofList levels, outputs }

/-! ## All of it -/

/-- The fields of a configuration. -/
def configurationFields : Fields [Settings, List NetworkPlan, Logging] :=
  .cons (.optional "settings" settings {}) <|
  .cons (.optional "networks" (list network) []) <|
  .cons (.optional "log" (logging .direct) .standard) .nil

/-- A configuration. -/
def configuration : Decoder Configuration :=
  record .direct "EngineConfig" configurationFields fun (settings, networks, logging, ()) =>
    { settings, networks, logging }

end Decoder

/-- The store of a client that begins: the channels to enter are known, and marked. -/
def Configuration.store (c : Configuration) : Store :=
  c.networks.foldl (fun s p => s.attemptAll p.identity.id
    (p.autoJoin.flatMap fun channel => [.upsertChannel channel, .autoJoin channel true])) .empty

/-- Reads a configuration. -/
def Configuration.load (content : FileContent) : Except ConfigurationError Configuration :=
  match readTextFile content with
  | .error e => .error (.file e)
  | .ok text =>
    match Value.parse? text with
    | none => .error .malformed
    | some v => (Decoder.configuration v).mapError .decoding

end IrcClient
