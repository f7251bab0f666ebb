import BlogOperator.Kubernetes.Metadata
import BlogOperator.Kubernetes.Schema.Selection
import BlogOperator.Kubernetes.Schema.Status

/-!
# Services and ingresses

A `Service` gives pods one address inside the cluster, an `Ingress` routes requests from outside to
a service. The members that this library builds are members of the structures here; the rest of
each object is kept in `others`.
-/

set_option autoImplicit false

namespace BlogOperator.Kubernetes

open BlogOperator.Json

/-! ### Services -/

/-- A port of a service and the port of the pods behind it. -/
structure ServicePort where
  port : Int32 := 0
  targetPort : Option PortReference := none
  others : Members := []
  deriving BEq, Repr, Inhabited

/-- Which pods a service stands for, and how. -/
structure ServiceSpec where
  serviceType : Option String := none
  ports : Option (List ServicePort) := none
  selector : Option (List (String × String)) := none
  others : Members := []
  deriving BEq, Repr, Inhabited

/-- One address for a set of pods. -/
structure Service where
  metadata : Metadata := {}
  spec : Option ServiceSpec := none
  others : Members := []
  deriving BEq, Repr, Inhabited

/-- The properties of a service's port besides its number and target. -/
def ServicePort.otherProperties : List Property := [
  .text "appProtocol", .text "name", .count "nodePort", .text "protocol"]

/-- A service's port as it is read. -/
def ServicePort.form : Form ServicePort :=
  .schema "ServicePort" ([
    .filled "port" .int32 0 fun value port ↦ { port with port := value },
    .optional "targetPort" PortReference.form fun value port ↦
      { port with targetPort := value }] ++
    otherProperties.map (Property.slot fun change port ↦
      { port with others := change port.others }))
    {}

/-- A service's port as it is written. -/
def ServicePort.write (port : ServicePort) : Json :=
  Json.record ([("port", Json.integer port.port.toInt)] ++
    Json.optional "targetPort" PortReference.write port.targetPort ++ port.others)

/-- The properties of a service besides its type, ports and selector. -/
def ServiceSpec.otherProperties : List Property := [
  .flag "allocateLoadBalancerNodePorts", .text "clusterIP", .texts "clusterIPs",
  .texts "externalIPs", .text "externalName", .text "externalTrafficPolicy",
  .count "healthCheckNodePort", .text "internalTrafficPolicy", .texts "ipFamilies",
  .text "ipFamilyPolicy", .text "loadBalancerClass", .text "loadBalancerIP",
  .texts "loadBalancerSourceRanges", .flag "publishNotReadyAddresses", .text "sessionAffinity",
  .shape "sessionAffinityConfig" "SessionAffinityConfig" [
    .shape "clientIP" "ClientIPConfig" [.count "timeoutSeconds"]],
  .text "trafficDistribution"]

/-- What a service stands for as it is read. -/
def ServiceSpec.form : Form ServiceSpec :=
  .schema "ServiceSpec" ([
    .optional "type" .string fun value spec ↦ { spec with serviceType := value },
    .optional "ports" (.list ServicePort.form) fun value spec ↦ { spec with ports := value },
    .optional "selector" (.dictionary .string) fun value spec ↦
      { spec with selector := value }] ++
    otherProperties.map (Property.slot fun change spec ↦
      { spec with others := change spec.others }))
    {}

/-- What a service stands for as it is written. -/
def ServiceSpec.write (spec : ServiceSpec) : Json :=
  Json.record (Json.optional "type" .text spec.serviceType ++
    Json.optional "ports" (fun ports ↦ .list (ports.map ServicePort.write)) spec.ports ++
    Json.optional "selector" Json.dictionary spec.selector ++ spec.others)

namespace Service

/-- The interface under which services are known. -/
def apiVersion : String := "v1"

/-- The kind under which services are known. -/
def kind : String := "Service"

/-- A service as it is read. -/
def form : Form Service :=
  .schema kind ([
    .constant "apiVersion" apiVersion, .constant "kind" kind,
    .filled "metadata" Metadata.form {} fun value service ↦ { service with metadata := value },
    .optional "spec" ServiceSpec.form fun value service ↦ { service with spec := value }] ++
    [Schema.serviceStatus].map (Property.slot fun change service ↦
      { service with others := change service.others }))
    {}

/-- A service as it is written. -/
def write (service : Service) : Json :=
  Json.record ([("apiVersion", .text apiVersion), ("kind", .text kind),
    ("metadata", service.metadata.write)] ++
    Json.optional "spec" ServiceSpec.write service.spec ++ service.others)

end Service

/-! ### Ingresses -/

/-- A port of the service behind a route, by number or name. -/
structure BackendPort where
  number : Option Int32 := none
  name : Option String := none
  deriving DecidableEq, Repr, Inhabited

/-- The service behind a route. -/
structure BackendService where
  name : String := ""
  port : Option BackendPort := none
  deriving DecidableEq, Repr, Inhabited

/-- What stands behind a route. -/
structure Backend where
  service : Option BackendService := none
  others : Members := []
  deriving BEq, Repr, Inhabited

/-- A route for the paths of a host. -/
structure IngressPath where
  path : Option String := none
  pathType : String := ""
  backend : Backend := {}
  deriving BEq, Repr, Inhabited

/-- The routes of a host. The paths are missing where the rule has no part for requests. -/
structure IngressRule where
  host : Option String := none
  paths : Option (List IngressPath) := none
  deriving BEq, Repr, Inhabited

/-- Which routes an ingress has, and who serves them. -/
structure IngressSpec where
  className : Option String := none
  rules : Option (List IngressRule) := none
  others : Members := []
  deriving BEq, Repr, Inhabited

/-- Routes from outside the cluster to its services. -/
structure Ingress where
  metadata : Metadata := {}
  spec : Option IngressSpec := none
  others : Members := []
  deriving BEq, Repr, Inhabited

/-- A port behind a route as it is read. -/
def BackendPort.form : Form BackendPort :=
  .schema "ServiceBackendPort" [
    .optional "number" .int32 fun value port ↦ { port with number := value },
    .optional "name" .string fun value port ↦ { port with name := value }]
    {}

/-- A port behind a route as it is written. -/
def BackendPort.write (port : BackendPort) : Json :=
  Json.record (Json.optional "number" (fun number ↦ Json.integer number.toInt) port.number ++
    Json.optional "name" .text port.name)

/-- A service behind a route as it is read. -/
def BackendService.form : Form BackendService :=
  .schema "IngressServiceBackend" [
    .filled "name" .string "" fun value service ↦ { service with name := value },
    .optional "port" BackendPort.form fun value service ↦ { service with port := value }]
    {}

/-- A service behind a route as it is written. -/
def BackendService.write (service : BackendService) : Json :=
  Json.record ([("name", .text service.name)] ++
    Json.optional "port" BackendPort.write service.port)

/-- What stands behind a route as it is read. -/
def Backend.form : Form Backend :=
  .schema "IngressBackend" ([
    .optional "service" BackendService.form fun value backend ↦
      { backend with service := value }] ++
    [Property.shape "resource" "TypedLocalObjectReference" Schema.typedLocalReference].map
      (Property.slot fun change backend ↦ { backend with others := change backend.others }))
    {}

/-- What stands behind a route as it is written. -/
def Backend.write (backend : Backend) : Json :=
  Json.record (Json.optional "service" BackendService.write backend.service ++ backend.others)

/-- A route as it is read. -/
def IngressPath.form : Form IngressPath :=
  .schema "HTTPIngressPath" [
    .optional "path" .string fun value path ↦ { path with path := value },
    .filled "pathType" .string "" fun value path ↦ { path with pathType := value },
    .filled "backend" Backend.form {} fun value path ↦ { path with backend := value }]
    {}

/-- A route as it is written. -/
def IngressPath.write (path : IngressPath) : Json :=
  Json.record (Json.optional "path" .text path.path ++
    [("pathType", .text path.pathType), ("backend", path.backend.write)])

/-- The routes for requests, as they are read. -/
def IngressRule.pathsForm : Form (List IngressPath) :=
  .schema "HTTPIngressRuleValue" [
    .filled "paths" (.list IngressPath.form) [] fun value _ ↦ value]
    []

/-- The routes of a host as they are read. -/
def IngressRule.form : Form IngressRule :=
  .schema "IngressRule" [
    .optional "host" .string fun value rule ↦ { rule with host := value },
    .optional "http" pathsForm fun value rule ↦ { rule with paths := value }]
    {}

/-- The routes of a host as they are written. -/
def IngressRule.write (rule : IngressRule) : Json :=
  Json.record (Json.optional "host" .text rule.host ++
    Json.optional "http"
      (fun paths ↦ Json.record [("paths", .list (paths.map IngressPath.write))]) rule.paths)

/-- The properties of an ingress besides its class and rules. -/
def IngressSpec.otherProperties : List Property := [
  .one "defaultBackend" (Backend.form.map Backend.write),
  .shapes "tls" "IngressTLS" [.texts "hosts", .text "secretName"]]

/-- The routes of an ingress as they are read. -/
def IngressSpec.form : Form IngressSpec :=
  .schema "IngressSpec" ([
    .optional "ingressClassName" .string fun value spec ↦ { spec with className := value },
    .optional "rules" (.list IngressRule.form) fun value spec ↦ { spec with rules := value }] ++
    otherProperties.map (Property.slot fun change spec ↦
      { spec with others := change spec.others }))
    {}

/-- The routes of an ingress as they are written. -/
def IngressSpec.write (spec : IngressSpec) : Json :=
  Json.record (Json.optional "ingressClassName" .text spec.className ++
    Json.optional "rules" (fun rules ↦ .list (rules.map IngressRule.write)) spec.rules ++
    spec.others)

namespace Ingress

/-- The interface under which ingresses are known. -/
def apiVersion : String := "networking.k8s.io/v1"

/-- The kind under which ingresses are known. -/
def kind : String := "Ingress"

/-- An ingress as it is read. -/
def form : Form Ingress :=
  .schema kind ([
    .constant "apiVersion" apiVersion, .constant "kind" kind,
    .filled "metadata" Metadata.form {} fun value ingress ↦ { ingress with metadata := value },
    .optional "spec" IngressSpec.form fun value ingress ↦ { ingress with spec := value }] ++
    [Schema.ingressStatus].map (Property.slot fun change ingress ↦
      { ingress with others := change ingress.others }))
    {}

/-- An ingress as it is written. -/
def write (ingress : Ingress) : Json :=
  Json.record ([("apiVersion", .text apiVersion), ("kind", .text kind),
    ("metadata", ingress.metadata.write)] ++
    Json.optional "spec" IngressSpec.write ingress.spec ++ ingress.others)

end Ingress

end BlogOperator.Kubernetes
