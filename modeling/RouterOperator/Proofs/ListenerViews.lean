import RouterOperator.Managed.Certificates
import RouterOperator.Managed.Exposure
import RouterOperator.Managed.Service
import RouterOperator.Managed.Workload
import RouterOperator.Proofs.Config.Rendering
import RouterOperator.Proofs.Drift

/-!
# Views of a listener

A listener shows in many places: as a port of the service, as a port of the router's container and
as a stanza of the configuration, and if it is exposed as the route or the ingress to it and as a
host in the certificate of its profile. Each place is made from the lists of listeners on its own.
They show the same listeners in the same order, so what is at one position is one listener in all of
them, and it has the same name and number everywhere.
-/

namespace RouterOperator

open Stanza

/-- The stanzas of listeners, of all sections in order. -/
def RouterConfig.listenerStanzas (config : RouterConfig) : List Stanza :=
  config.sections.flatten.filter (·.kind = "listener")

namespace Ingress

/-- The hosts of the rules. -/
def hosts (ingress : Ingress) : List String := (ingress.rules.getD []).filterMap (·.host)

/-- The places that requests are passed to, for any rule and path. -/
def backends (ingress : Ingress) : List IngressBackend :=
  (ingress.rules.getD []).flatMap fun rule => (rule.paths.getD []).map (·.backend)

end Ingress

/-- A listener with what shows of it in the service, the container and the configuration. -/
structure ListenerView where
  listener : Listener
  servicePort : ServicePort
  containerPort : ContainerPort
  stanza : Stanza

namespace ListenerView

/-- The places agree on the name and the number of the port. -/
structure Agrees (view : ListenerView) : Prop where
  port : view.servicePort.port = view.listener.port
  target : view.servicePort.targetPort = some (.number view.servicePort.port)
  container : view.containerPort.containerPort = view.servicePort.port
  stanza : view.stanza.attribute? "port" =
    if view.servicePort.port = 0 then none else some (toString view.servicePort.port.toInt)
  name : view.servicePort.name = some view.listener.targetName
  containerName : view.containerPort.name = view.servicePort.name
  stanzaName : view.stanza.attribute? "name" = Text.given view.listener.name

/-- The route and the ingress of the listener have one name and lead to its port of the service. -/
structure Leads (view : ListenerView) (cluster : Interconnect) (requestCert : Bool) : Prop where
  names : (cluster.route view.listener).metadata.name =
    (cluster.ingress view.listener).metadata.name
  routeSpace : (cluster.route view.listener).metadata.ns =
    (cluster.service requestCert).metadata.ns
  ingressSpace : (cluster.ingress view.listener).metadata.ns =
    (cluster.service requestCert).metadata.ns
  routeKind : (cluster.route view.listener).spec.target.kind = Service.apiType.kind
  routeTarget : (cluster.service requestCert).metadata.name =
    some (cluster.route view.listener).spec.target.name
  routePort : (cluster.route view.listener).spec.port = view.servicePort.name
  backend : ∃ service : ServiceBackend,
    (cluster.ingress view.listener).backends = [{ service := some service }] ∧
      (cluster.service requestCert).metadata.name = some service.name ∧
      service.port = some { name := view.servicePort.name }
  host : (cluster.ingress view.listener).hosts = [cluster.exposureHost view.listener]

/-- The view of a listener with this stanza. -/
def of (stanza : Listener → Stanza) (listener : Listener) : ListenerView where
  listener := listener
  servicePort :=
    { name := some listener.targetName
      protocol := some "TCP"
      port := listener.port
      targetPort := some (.number listener.port) }
  containerPort :=
    { containerPort := listener.port, name := some listener.targetName, protocol := some "TCP" }
  stanza := stanza listener

end ListenerView

namespace Listener

/-- A stanza shows the number and the name of the listener. -/
structure ShownBy (listener : Listener) (stanza : Stanza) : Prop where
  kind : stanza.kind = "listener"
  port : stanza.attribute? "port" =
    if listener.port = 0 then none else some (toString listener.port.toInt)
  name : stanza.attribute? "name" = Text.given listener.name

theorem shownBy_stanza (listener : Listener) : listener.ShownBy listener.stanza := by
  have hnames : ["name", "host", "port", "role", "http", "authenticatePeer", "saslMechanisms",
    "sslProfile"].Nodup := by decide
  refine ⟨rfl, ?_, ?_⟩
  · rw [stanza, attribute?_of (portAttribute "port" listener.port) hnames (by simp) (by simp),
      snd_portAttribute]
  · rw [stanza, attribute?_of (textAttribute "name" listener.name) hnames (by simp) (by simp),
      snd_textAttribute]

theorem shownBy_routerStanza (role : String) (listener : Listener) :
    listener.ShownBy (listener.routerStanza role) := by
  have hnames : ["name", "role", "host", "port", "cost", "saslMechanisms", "authenticatePeer",
    "sslProfile"].Nodup := by decide
  refine ⟨rfl, ?_, ?_⟩
  · rw [routerStanza, attribute?_of (portAttribute "port" listener.port) hnames (by simp) (by simp),
      snd_portAttribute]
  · rw [routerStanza, attribute?_of (textAttribute "name" listener.name) hnames (by simp) (by simp),
      snd_textAttribute]

theorem ShownBy.agrees {listener : Listener} {stanza : Listener → Stanza}
    (h : listener.ShownBy (stanza listener)) : (ListenerView.of stanza listener).Agrees :=
  ⟨rfl, rfl, rfl, h.port, rfl, rfl, h.name⟩

/-- A profile with a name is used by a listener that names it. -/
theorem profile_eq_some_iff {listener : Listener} {profile : String} (hname : profile ≠ "") :
    listener.profile = some profile ↔ listener.sslProfile = some profile := by
  rw [Listener.profile, Text.given_eq_some_iff, and_iff_left hname]

end Listener

namespace InterconnectSpec

/-- The views of all listeners. -/
def listenerViews (spec : InterconnectSpec) : List ListenerView :=
  spec.listeners.map (.of Listener.stanza) ++
    spec.interRouterListeners.map (.of (Listener.routerStanza "inter-router")) ++
    spec.edgeListeners.map (.of (Listener.routerStanza "edge"))

variable (spec : InterconnectSpec)

theorem listeners_listenerViews :
    spec.listenerViews.map ListenerView.listener = spec.allListeners := by
  simp [listenerViews, allListeners, Function.comp_def, ListenerView.of]

/-- Three of the sections consist of stanzas of listeners, and the others have none. -/
theorem listenerStanzas_config :
    spec.config.listenerStanzas = spec.listenerViews.map ListenerView.stanza := by
  have hall {α : Type} (items : List α) {stanza : α → Stanza}
      (h : ∀ item, (stanza item).kind = "listener") :
      (items.map stanza).filter (·.kind = "listener") = items.map stanza := by
    rw [List.filter_eq_self, List.forall_mem_map]
    exact fun item _ => decide_eq_true (h item)
  have hnone {α : Type} (items : List α) {stanza : α → Stanza} {kind : String}
      (hne : kind ≠ "listener") (h : ∀ item, (stanza item).kind = kind) :
      (items.map stanza).filter (·.kind = "listener") = [] := by
    rw [List.filter_eq_nil_iff, List.forall_mem_map]
    exact fun item _ => by simpa [h item] using hne
  simp only [RouterConfig.listenerStanzas, config, List.flatten_cons, List.flatten_nil,
    List.filter_append, List.filter_nil]
  rw [hall spec.listeners fun _ => rfl, hall spec.interRouterListeners fun _ => rfl,
    hall spec.edgeListeners fun _ => rfl,
    hnone spec.sslProfiles (by decide : profileKind ≠ "listener") fun _ => rfl,
    hnone spec.addresses (by decide : "address" ≠ "listener") fun _ => rfl,
    hnone spec.autoLinks (by decide : "autoLink" ≠ "listener") fun _ => rfl,
    hnone spec.linkRoutes (by decide : "linkRoute" ≠ "listener") fun _ => rfl,
    hnone spec.connectors (by decide : "connector" ≠ "listener") fun _ => rfl,
    hnone spec.interRouterConnectors (by decide : "connector" ≠ "listener") fun _ => rfl,
    hnone spec.edgeConnectors (by decide : "connector" ≠ "listener") fun _ => rfl]
  simp [listenerViews, ListenerView.of, Function.comp_def]

theorem agrees_listenerViews : ∀ view ∈ spec.listenerViews, view.Agrees := by
  simp only [listenerViews, List.forall_mem_append, List.forall_mem_map]
  exact ⟨⟨fun listener _ => listener.shownBy_stanza.agrees,
    fun listener _ => (listener.shownBy_routerStanza _).agrees⟩,
    fun listener _ => (listener.shownBy_routerStanza _).agrees⟩

end InterconnectSpec

namespace Interconnect

variable (cluster : Interconnect)

theorem servicePorts_eq_map :
    cluster.servicePorts = cluster.spec.listenerViews.map ListenerView.servicePort := by
  simp [servicePorts, InterconnectSpec.allListeners, InterconnectSpec.listenerViews,
    ListenerView.of, Function.comp_def]

theorem routerPorts_eq_map :
    cluster.routerPorts = cluster.spec.listenerViews.map ListenerView.containerPort := by
  simp [routerPorts, InterconnectSpec.allListeners, InterconnectSpec.listenerViews,
    ListenerView.of, Function.comp_def]

theorem leads_listenerViews (requestCert : Bool) :
    ∀ view ∈ cluster.spec.listenerViews, view.Leads cluster requestCert := by
  have hbuilt (view : ListenerView) (hagrees : view.Agrees) : view.Leads cluster requestCert :=
    { names := rfl
      routeSpace := rfl
      ingressSpace := rfl
      routeKind := rfl
      routeTarget := rfl
      routePort := hagrees.name.symm
      backend := ⟨_, rfl, rfl, by rw [hagrees.name]⟩
      host := rfl }
  exact fun view hview => hbuilt view (cluster.spec.agrees_listenerViews view hview)

/-- The hosts for a profile are those of the ingresses of its exposed listeners. -/
theorem exposedHosts_eq_flatMap {profile : String} (hname : profile ≠ "") :
    cluster.exposedHosts profile = (cluster.spec.listenerViews.filter fun view =>
        view.listener.expose && view.listener.sslProfile = some profile).flatMap fun view =>
      (cluster.ingress view.listener).hosts := by
  have hhosts (listener : Listener) : (cluster.ingress listener).hosts =
      [cluster.exposureHost listener] := rfl
  calc cluster.exposedHosts profile
    _ = ((cluster.spec.listenerViews.map ListenerView.listener).filter fun listener =>
          listener.expose && listener.sslProfile = some profile).map cluster.exposureHost := by
      rw [exposedHosts, InterconnectSpec.exposedListeners, List.filter_filter,
        ← cluster.spec.listeners_listenerViews]
      simp only [Listener.profile_eq_some_iff hname, Bool.and_comm]
    _ = _ := by
      simp only [List.filter_map, List.map_map, hhosts, ← List.map_eq_flatMap]
      rfl

/-- The service, the container and the configuration show the same listeners at the same positions:
ordinary ones, then those for other routers, then those for edge routers. All agree on the name and
the number of a listener, the route and the ingress to it lead there by this name, and the
certificate of a profile is good for the hosts of the ingresses whose listeners use the profile, in
this order and for no others but the service. -/
theorem listener_views_agree (requestCert : Bool) (image : String) :
    ∃ views : List ListenerView,
      views.map (·.listener) = cluster.spec.listeners ++ cluster.spec.interRouterListeners ++
        cluster.spec.edgeListeners ∧
      (cluster.service requestCert).spec.bind (·.ports) = some (views.map (·.servicePort)) ∧
      (cluster.podTemplate image).onlyContainer.bind (·.ports) =
        some (views.map (·.containerPort)) ∧
      cluster.configMap.template = some cluster.spec.config.text ∧
      cluster.spec.config.listenerStanzas = views.map (·.stanza) ∧
      (cluster.spec.SingleLine → RouterConfig.read cluster.spec.config.text = cluster.spec.config) ∧
      (∀ view ∈ views, view.Agrees ∧ view.Leads cluster requestCert) ∧
      ∀ profile ≠ "", (cluster.profileCertificate profile).spec.dnsNames =
        some (cluster.serviceHost :: (views.filter fun view =>
          view.listener.expose && view.listener.sslProfile = some profile).flatMap fun view =>
            (cluster.ingress view.listener).hosts) := by
  refine ⟨cluster.spec.listenerViews, cluster.spec.listeners_listenerViews, ?_, ?_, ?_,
    cluster.spec.listenerStanzas_config, fun hsingle => ?_, fun view hview => ?_,
    fun profile hname => ?_⟩
  · exact congrArg some cluster.servicePorts_eq_map
  · exact congrArg some cluster.routerPorts_eq_map
  · exact ConfigMap.template_configMap cluster
  · exact (InterconnectSpec.isPlain_config hsingle).read_text
  · exact ⟨cluster.spec.agrees_listenerViews view hview,
      cluster.leads_listenerViews requestCert view hview⟩
  · exact congrArg (fun hosts => some (cluster.serviceHost :: hosts))
      (cluster.exposedHosts_eq_flatMap hname)

/-- A cluster with listeners of all sorts, named and unnamed, exposed and not, one of them on an
unset port. -/
def mixedCluster : Interconnect where
  metadata := { name := some "amq", ns := some "msg" }
  spec := {
    listeners := [{ name := some "amqp", port := 5672 },
      { port := 5671, sslProfile := some "default", expose := true }]
    interRouterListeners := [{ name := some "", sslProfile := some "default" }]
    edgeListeners := [
      { name := some "edge", port := 45672, sslProfile := some "default", expose := true },
      { port := 8443, sslProfile := some "other", expose := true }] }

theorem mixedCluster_views : "default" ≠ "" ∧ mixedCluster.spec.SingleLine ∧
    ∃ views : List ListenerView, (∀ view ∈ views, view.Agrees) ∧
      views.map (·.servicePort.name) =
        [some "amqp", some "port-5671", some "port-0", some "edge", some "port-8443"] ∧
      views.map (·.stanza.attribute? "port") =
        [some "5672", some "5671", none, some "45672", some "8443"] ∧
      RouterConfig.read mixedCluster.spec.config.text = mixedCluster.spec.config ∧
      ((views.filter fun view =>
        view.listener.expose && view.listener.sslProfile = some "default").flatMap fun view =>
          (mixedCluster.ingress view.listener).hosts) = ["amq-port-5671.msg", "amq-edge.msg"] := by
  have hname : "default" ≠ "" := by decide
  have hsingle : mixedCluster.spec.SingleLine := by decide
  obtain ⟨views, -, hports, -, -, hstanzas, hread, hviews, hnames⟩ :=
    mixedCluster.listener_views_agree false defaultRouterImage
  refine ⟨hname, hsingle, views, fun view hview => (hviews view hview).1, ?_, ?_, hread hsingle, ?_⟩
  · have hports : mixedCluster.servicePorts = views.map (·.servicePort) := Option.some.inj hports
    calc views.map (·.servicePort.name)
      _ = mixedCluster.servicePorts.map (·.name) := by rw [hports, List.map_map]; rfl
      _ = _ := by decide
  · calc views.map (·.stanza.attribute? "port")
      _ = mixedCluster.spec.config.listenerStanzas.map (·.attribute? "port") := by
        rw [hstanzas, List.map_map]
        rfl
      _ = _ := by decide
  · have hhosts := Option.some.inj (hnames "default" hname)
    exact (List.cons.inj hhosts).2.symm

end Interconnect

end RouterOperator
