/-
CoachClient.Settings.Basic — the settings of the client.

* `Settings` — where the service is, how long to wait for it, where people are
  sent to sign in, and who signed in last; `Settings.initial` has the defaults.
* `Settings.decoder`, `Settings.fileText` — their form in a file, where a member
  that is missing has its default.
* `Settings.takeEnvironment` — the settings under the variables of an
  environment.
* `Overrides` — the settings given on the command line.
* `Settings.fault?` — the first reason why settings cannot be used.
-/
import CoachClient.Access.Guard
import CoachClient.Coaching.Session
import CoachClient.Service.Call
import CoachClient.Settings.Environment
import CoachClient.Text.Causes
import CoachClient.Url.Parse

namespace CoachClient

open CoachClient.Access CoachClient.Json CoachClient.Text CoachClient.Time CoachClient.Url

/-! ## 1. Settings -/

/-- The settings of the client. -/
structure Settings where
  baseUrl : String
  timeoutSeconds : UInt64
  loginPath : String
  lastEmail : Option String
  deriving DecidableEq, Repr

namespace Settings

/-- The settings of a client that has not been told anything. -/
def initial : Settings where
  baseUrl := "http://localhost:8000"
  timeoutSeconds := 30
  loginPath := defaultLoginPath
  lastEmail := none

/-- The time limit of a call. -/
def timeout (s : Settings) : Duration := Duration.ofSeconds s.timeoutSeconds.toNat

/-- The client that the settings describe. -/
def client (s : Settings) : Service.Client := ⟨s.baseUrl, s.timeout⟩

/-! ## 2. The form in a file -/

/-- A declared member of settings. -/
inductive Part where
  | baseUrl (s : String)
  | timeoutSeconds (n : UInt64)
  | loginPath (s : String)
  | lastEmail (s : Option String)
  deriving DecidableEq

/-- Put settings together; none of them has to be there. -/
def assemble (parts : List Part) : Except String Settings := .ok {
  baseUrl := (parts.findSome? fun | .baseUrl s => some s | _ => none).getD initial.baseUrl
  timeoutSeconds := (parts.findSome? fun | .timeoutSeconds n => some n | _ => none).getD
    initial.timeoutSeconds
  loginPath := (parts.findSome? fun | .loginPath s => some s | _ => none).getD initial.loginPath
  lastEmail := (parts.findSome? fun | .lastEmail s => some s | _ => none).getD initial.lastEmail }

/-- Settings as a record. -/
def record : Record Part Settings where
  name := "Config"
  fields := [
    .of "api_base_url" Reader.text .baseUrl true,
    .of "request_timeout_secs" Reader.word64 .timeoutSeconds true,
    .of "login_path" Reader.text .loginPath true,
    .of "last_email" (Reader.optional Reader.text) .lastEmail true]
  assemble := assemble

/-- The decoder of settings. -/
def decoder : Decoder Settings := record.decoder

/-- Settings as an object. -/
def toValue (s : Settings) : Value := .object [
  ("api_base_url", .text s.baseUrl),
  ("request_timeout_secs", .ofNat s.timeoutSeconds.toNat),
  ("login_path", .text s.loginPath),
  ("last_email", .ofText? s.lastEmail)]

/-- Settings as they are written into a file. -/
def fileText (s : Settings) : String := s.toValue.pretty

/-! ## 3. Overrides -/

/-- Take over the variables of an environment that are not blank: first the
address, then the time limit. With a malformed time limit the settings that are
left have the address already. -/
def takeEnvironment (env : Environment) (s : Settings) : Settings × Except NumberFault Unit :=
  let s := match env.filled? Environment.baseUrlName with
    | some url => { s with baseUrl := trim url }
    | none => s
  match env.filled? Environment.timeoutName with
  | none => (s, .ok ())
  | some text =>
    match readUnsigned maxWord64 (trim text).toList with
    | .ok n => ({ s with timeoutSeconds := UInt64.ofNat n }, .ok ())
    | .error fault => (s, .error fault)

/-- The settings given on the command line. -/
structure Overrides where
  baseUrl : Option String := none
  timeoutSeconds : Option UInt64 := none
  deriving DecidableEq, Repr

/-- The settings under those of the command line. -/
def override (s : Settings) (o : Overrides) : Settings :=
  { s with
    baseUrl := o.baseUrl.getD s.baseUrl
    timeoutSeconds := o.timeoutSeconds.getD s.timeoutSeconds }

/-! ## 4. Usable settings -/

/-- Why settings cannot be used. -/
inductive Fault where
  | baseUrl (text : String) (fault : Url.Fault)
  | scheme (name : String)
  | noTimeout
  | loginPath
  deriving DecidableEq, Repr

/-- The wording of a fault. -/
def Fault.causes : Fault → Causes
  | .baseUrl text fault => ["Invalid API base URL " ++ quoted text, fault.message]
  | .scheme name => ["API base URL must use http or https, got " ++ name]
  | .noTimeout => ["Request timeout must be at least one second"]
  | .loginPath => ["Login path must start with '/'"]

/-- The first reason why settings cannot be used. -/
def fault? (s : Settings) : Option Fault :=
  match Url.parse s.baseUrl with
  | .error fault => some (.baseUrl s.baseUrl fault)
  | .ok url =>
    if !url.isWeb then some (.scheme (String.ofList url.scheme))
    else if s.timeoutSeconds == 0 then some .noTimeout
    else if s.loginPath.toList.head? != some '/' then some .loginPath
    else none

end Settings

end CoachClient
