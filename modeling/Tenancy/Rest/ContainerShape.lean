import Tenancy.Rest.ObjectShape

/-!
# Containers

The shapes of what a pod runs and of how that fares.  Quantities are texts.
-/

namespace Tenancy.Rest.Shape

/-! ## Environment -/

/-- A key of an object, which may be optional. -/
def optionalKey : Shape := .record (text.each ["key", "name"] ++ [("optional", flag)])

/-- An object that may be optional. -/
def optionalObject : Shape := .record [("name", text), ("optional", flag)]

/-- A field of the pod itself. -/
def fieldReference : Shape := texts ["apiVersion", "fieldPath"]

/-- A resource of a container of the pod itself. -/
def resourceReference : Shape := texts ["containerName", "divisor", "resource"]

/-- Where the value of an environment variable comes from. -/
def variableSource : Shape :=
  .record [("configMapKeyRef", optionalKey), ("fieldRef", fieldReference),
    ("resourceFieldRef", resourceReference), ("secretKeyRef", optionalKey)]

def environmentVariable : Shape :=
  .record (text.each ["name", "value"] ++ [("valueFrom", variableSource)])

/-- Where a number of environment variables come from. -/
def environmentSource : Shape :=
  .record [("configMapRef", optionalObject), ("prefix", text), ("secretRef", optionalObject)]

/-! ## Probes -/

def command : Shape := .record [("command", list text)]

def httpRequest : Shape :=
  .record (text.each ["host", "path", "scheme"] ++
    [("httpHeaders", list (texts ["name", "value"])), ("port", integerOrText)])

def tcpConnection : Shape := .record [("host", text), ("port", integerOrText)]

/-- What a container does when it starts or stops. -/
def handler : Shape :=
  .record [("exec", command), ("httpGet", httpRequest), ("tcpSocket", tcpConnection)]

def probe : Shape :=
  .record ([("exec", command), ("grpc", .record [("port", integer32), ("service", text)]),
      ("httpGet", httpRequest), ("tcpSocket", tcpConnection),
      ("terminationGracePeriodSeconds", integer64)] ++
    integer32.each ["failureThreshold", "initialDelaySeconds", "periodSeconds",
      "successThreshold", "timeoutSeconds"])

/-! ## Security -/

def processLabels : Shape := texts ["level", "role", "type", "user"]

def systemCallProfile : Shape := texts ["localhostProfile", "type"]

def windowsOptions : Shape :=
  .record (text.each ["gmsaCredentialSpec", "gmsaCredentialSpecName", "runAsUserName"] ++
    [("hostProcess", flag)])

/-- The security settings that pods and containers share. -/
def sharedSecurity : List (String × Shape) :=
  integer64.each ["runAsGroup", "runAsUser"] ++
    [("runAsNonRoot", flag), ("seLinuxOptions", processLabels),
      ("seccompProfile", systemCallProfile), ("windowsOptions", windowsOptions)]

def containerSecurity : Shape :=
  .record (sharedSecurity ++
    flag.each ["allowPrivilegeEscalation", "privileged", "readOnlyRootFilesystem"] ++
    [("capabilities", .record ((list text).each ["add", "drop"])), ("procMount", text)])

def podSecurity : Shape :=
  .record (sharedSecurity ++
    [("fsGroup", integer64), ("fsGroupChangePolicy", text),
      ("supplementalGroups", list integer64), ("sysctls", list (texts ["name", "value"]))])

/-! ## Containers -/

/-- What a container may use and has to get. -/
def resources : Shape :=
  .record ((dictionary text).each ["limits", "requests"] ++ [("claims", list (texts ["name"]))])

def port : Shape :=
  .record (text.each ["hostIP", "name", "protocol"] ++
    integer32.each ["containerPort", "hostPort"])

def mount : Shape :=
  .record (text.each ["mountPath", "mountPropagation", "name", "subPath", "subPathExpr"] ++
    [("readOnly", flag)])

def containerFields : List (String × Shape) :=
  text.each ["image", "imagePullPolicy", "name", "restartPolicy", "terminationMessagePath",
      "terminationMessagePolicy", "workingDir"] ++
    flag.each ["stdin", "stdinOnce", "tty"] ++
    (list text).each ["args", "command"] ++
    probe.each ["livenessProbe", "readinessProbe", "startupProbe"] ++
    [("env", list environmentVariable), ("envFrom", list environmentSource),
      ("lifecycle", .record (handler.each ["postStart", "preStop"])), ("ports", list port),
      ("resizePolicy", list (texts ["resourceName", "restartPolicy"])), ("resources", resources),
      ("securityContext", containerSecurity),
      ("volumeDevices", list (texts ["devicePath", "name"])), ("volumeMounts", list mount)]

def container : Shape := .record containerFields

/-- A container that is added to a running pod. -/
def ephemeralContainer : Shape := .record (("targetContainerName", text) :: containerFields)

/-! ## Their states -/

/-- Whether a container runs, has ended or waits. -/
def containerState : Shape :=
  .record [("running", .record [("startedAt", time)]),
    ("terminated",
      .record (text.each ["containerID", "message", "reason"] ++
        integer32.each ["exitCode", "signal"] ++ time.each ["finishedAt", "startedAt"])),
    ("waiting", texts ["message", "reason"])]

def containerStatus : Shape :=
  .record (text.each ["containerID", "image", "imageID", "name"] ++
    flag.each ["ready", "started"] ++ containerState.each ["lastState", "state"] ++
    [("allocatedResources", dictionary text), ("resources", resources),
      ("restartCount", integer32)])

end Tenancy.Rest.Shape
