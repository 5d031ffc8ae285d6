import Tenancy.Rest.VolumeShape

/-!
# Pods

The shapes of what a pod is to be and of how it fares.
-/

namespace Tenancy.Rest.Shape

/-! ## Placement -/

def nodeTerm : Shape :=
  .record ((list requirement).each ["matchExpressions", "matchFields"])

def nodeAffinity : Shape :=
  .record
    [("preferredDuringSchedulingIgnoredDuringExecution",
        list (.record [("preference", nodeTerm), ("weight", integer32)])),
      ("requiredDuringSchedulingIgnoredDuringExecution",
        .record [("nodeSelectorTerms", list nodeTerm)])]

def podTerm : Shape :=
  .record (labelSelector.each ["labelSelector", "namespaceSelector"] ++
    [("namespaces", list text), ("topologyKey", text)])

def podAffinity : Shape :=
  .record
    [("preferredDuringSchedulingIgnoredDuringExecution",
        list (.record [("podAffinityTerm", podTerm), ("weight", integer32)])),
      ("requiredDuringSchedulingIgnoredDuringExecution", list podTerm)]

def affinity : Shape :=
  .record (("nodeAffinity", nodeAffinity) :: podAffinity.each ["podAffinity", "podAntiAffinity"])

def toleration : Shape :=
  .record (text.each ["effect", "key", "operator", "value"] ++
    [("tolerationSeconds", integer64)])

/-- How pods spread over the parts of a cluster. -/
def spread : Shape :=
  .record (text.each ["nodeAffinityPolicy", "nodeTaintsPolicy", "topologyKey",
      "whenUnsatisfiable"] ++
    integer32.each ["maxSkew", "minDomains"] ++
    [("labelSelector", labelSelector), ("matchLabelKeys", list text)])

/-! ## Pods -/

def nameResolution : Shape :=
  .record ((list text).each ["nameservers", "searches"] ++
    [("options", list (texts ["name", "value"]))])

def resourceClaim : Shape :=
  .record [("name", text), ("source", texts ["resourceClaimName", "resourceClaimTemplateName"])]

def podSpec : Shape :=
  .record (text.each ["dnsPolicy", "hostname", "nodeName", "preemptionPolicy",
      "priorityClassName", "restartPolicy", "runtimeClassName", "schedulerName",
      "serviceAccount", "serviceAccountName", "subdomain"] ++
    flag.each ["automountServiceAccountToken", "enableServiceLinks", "hostIPC", "hostNetwork",
      "hostPID", "hostUsers", "setHostnameAsFQDN", "shareProcessNamespace"] ++
    integer64.each ["activeDeadlineSeconds", "terminationGracePeriodSeconds"] ++
    (dictionary text).each ["nodeSelector", "overhead"] ++
    (list container).each ["containers", "initContainers"] ++
    [("affinity", affinity), ("dnsConfig", nameResolution),
      ("ephemeralContainers", list ephemeralContainer),
      ("hostAliases", list (.record [("hostnames", list text), ("ip", text)])),
      ("imagePullSecrets", list localReference), ("os", texts ["name"]), ("priority", integer32),
      ("readinessGates", list (texts ["conditionType"])), ("resourceClaims", list resourceClaim),
      ("schedulingGates", list (texts ["name"])), ("securityContext", podSecurity),
      ("tolerations", list toleration), ("topologySpreadConstraints", list spread),
      ("volumes", list volume)])

def podCondition : Shape :=
  .record (text.each ["message", "reason", "status", "type"] ++
    time.each ["lastProbeTime", "lastTransitionTime"])

def podStatus : Shape :=
  .record (text.each ["hostIP", "message", "nominatedNodeName", "phase", "podIP", "qosClass",
      "reason", "resize"] ++
    (list containerStatus).each
      ["containerStatuses", "ephemeralContainerStatuses", "initContainerStatuses"] ++
    (list (texts ["ip"])).each ["hostIPs", "podIPs"] ++
    [("conditions", list podCondition),
      ("resourceClaimStatuses", list (texts ["name", "resourceClaimName"])),
      ("startTime", time)])

end Tenancy.Rest.Shape
