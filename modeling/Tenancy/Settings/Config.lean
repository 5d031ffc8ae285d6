import Tenancy.Net.AddressReader
import Tenancy.Number.Word
import Tenancy.Text.Blank
import Tenancy.Text.Numeral
import Tenancy.Text.Quoted
import Tenancy.Time.Span
import Tenancy.Upkeep.Reaper

/-!
# Configuration

The settings of the service, read from variables.  Where no variable names the
namespace of the credentials, a file does.  Of several faults the first one in
the order of the settings is reported.
-/

namespace Tenancy.Settings

open Net Text Upkeep

/-- The values of the variables that are set. -/
abbrev Variables : Type := String → Option String

/-- The file that may name the namespace of the credentials. -/
inductive NamespaceFile where
  | missing
  | contents (bytes : ByteArray)

/-- Why a file yields no text. -/
inductive FileFault where
  | missing
  | notText
deriving DecidableEq, Repr

def FileFault.message : FileFault → String
  | .missing => "No such file or directory (os error 2)"
  | .notText => "stream did not contain valid UTF-8"

def NamespaceFile.text : NamespaceFile → Except FileFault String
  | .missing => .error .missing
  | .contents bytes =>
      match String.fromUTF8? bytes with
      | some text => .ok text
      | none => .error .notText

/-- Why no configuration comes about. -/
inductive ConfigError where
  | invalid (variableName value reason : String)
  | missingNamespace (fault : FileFault)
deriving DecidableEq, Repr

/-- What is said about an error.  `path` is the path of the namespace file. -/
def ConfigError.message (path : String) : ConfigError → String
  | .invalid variableName value reason =>
      "invalid " ++ variableName ++ " " ++ quoted value ++ ": " ++ reason
  | .missingNamespace fault =>
      "credential namespace unknown: set POD_NAMESPACE or mount " ++ path ++ " (" ++
        fault.message ++ ")"

structure Config where
  listenAddress : SocketAddress
  metricsAddress : SocketAddress
  credentialSpace : String
  callTimeout : Span
  monitorInterval : Span
  podRule : PodRule
  reaperInterval : Span
  /-- When set, workspaces older than this many hours are deleted. -/
  namespaceMaximalHours : Option Int
deriving DecidableEq

namespace Config

def monitorSeconds : Nat := 60
def defaultCallTimeoutSeconds : Nat := 10
def defaultReaperSeconds : Nat := 600
def defaultPodHours : Int := 12
def defaultReaperSpace : String := "gitlab"
def reaperLabelKey : String := "pod"
def reaperLabelStart : String := "runner-"

/-- The most hours that a number of milliseconds in 64 bits holds. -/
def maximalHours : Int := Number.greatestSigned64 / 3600000

/-- The address in a variable, or else a default. -/
def readAddress (environment : Variables) (name fallback : String) :
    Except ConfigError SocketAddress :=
  let value := (environment name).getD fallback
  match SocketAddress.read? (trim value) with
  | some address => .ok address
  | none => .error (.invalid name value invalidSocketAddress)

/-- The number in a variable, or else a default. -/
def readNumber (environment : Variables) (name : String) (fallback : Nat) :
    Except ConfigError Nat :=
  match environment name with
  | none => .ok fallback
  | some value =>
      match readUnsigned64 (trim value) with
      | .ok number => .ok number
      | .error fault => .error (.invalid name value fault.message)

/-- A positive number of hours that an age limit can have. -/
def readAgeHours (value : String) : Except String Int :=
  match readSigned64 (trim value) with
  | .error fault => .error fault.message
  | .ok hours =>
      if 1 ≤ hours ∧ hours ≤ maximalHours then .ok hours
      else .error ("must be between 1 and " ++ decimal maximalHours.toNat)

/-- The namespace of the credentials: the variable without blank ends, if
anything is left of it, or else the text of the file without blank ends. -/
def readCredentialSpace (environment : Variables) (file : NamespaceFile) :
    Except ConfigError String :=
  match (environment "POD_NAMESPACE").filter fun value => trim value != "" with
  | some value => .ok (trim value)
  | none =>
      match file.text with
      | .ok text => .ok (trim text)
      | .error fault => .error (.missingNamespace fault)

/-- The age of pods.  An unusable one counts as the default. -/
def podHours (environment : Variables) : Int :=
  match environment "POD_AGE_THRESHOLD_HOURS" with
  | none => defaultPodHours
  | some value =>
      match readAgeHours value with
      | .ok hours => hours
      | .error _ => defaultPodHours

/-- The age of workspaces.  An unusable one is an error. -/
def readNamespaceHours (environment : Variables) : Except ConfigError (Option Int) :=
  match environment "ZOMBIE_NS_MAX_AGE_HOURS" with
  | none => .ok none
  | some value =>
      match readAgeHours value with
      | .ok hours => .ok (some hours)
      | .error reason => .error (.invalid "ZOMBIE_NS_MAX_AGE_HOURS" value reason)

/-- The configuration that variables and a namespace file amount to. -/
def read (environment : Variables) (file : NamespaceFile) : Except ConfigError Config := do
  let listenAddress ← readAddress environment "LISTEN_ADDR" "0.0.0.0:8080"
  let metricsAddress ← readAddress environment "METRICS_ADDR" "0.0.0.0:9090"
  let credentialSpace ← readCredentialSpace environment file
  let callTimeoutSeconds ←
    readNumber environment "CLUSTER_CALL_TIMEOUT_SECS" defaultCallTimeoutSeconds
  let podRule : PodRule :=
    { space := (environment "REAPER_NAMESPACE").getD defaultReaperSpace
      labelKey := reaperLabelKey
      labelStart := reaperLabelStart
      maximalHours := podHours environment }
  let reaperSeconds ← readNumber environment "REAPER_INTERVAL_SECS" defaultReaperSeconds
  let namespaceMaximalHours ← readNamespaceHours environment
  return {
    listenAddress, metricsAddress, credentialSpace
    callTimeout := .ofSeconds callTimeoutSeconds
    monitorInterval := .ofSeconds monitorSeconds
    podRule
    reaperInterval := .ofSeconds reaperSeconds
    namespaceMaximalHours }

end Config

end Tenancy.Settings
