import RouterOperator.Proofs.Config.Attributes

/-!
# What the configuration shows

Two specifications have the same configuration exactly when they agree on what a router sees of
them. What is seen is a specification again, `InterconnectSpec.visible`: it has the sections in
their order, a text that counts as unset is unset in it, and what is not written keeps its default.
-/

namespace RouterOperator

/-- No text that is set contains a line break. -/
def Text.AllSingleLine (texts : List (Option String)) : Prop :=
  ∀ text ∈ texts, ∀ value ∈ text, SingleLine value

instance (texts : List (Option String)) : Decidable (Text.AllSingleLine texts) :=
  inferInstanceAs (Decidable (∀ text ∈ texts, ∀ value ∈ text, Text.SingleLine value))

open Stanza

namespace Listener

/-- What the configuration shows of a listener for clients. -/
def visible (listener : Listener) : Listener where
  name := Text.given listener.name
  host := some listener.bindHost
  port := listener.port
  routeContainer := listener.routeContainer
  http := listener.http
  sslProfile := Text.given listener.sslProfile
  authenticatePeer := listener.authenticatePeer
  saslMechanisms := Text.given listener.saslMechanisms

/-- What the configuration shows of a listener for other routers. -/
def routerVisible (listener : Listener) : Listener where
  name := Text.given listener.name
  host := some listener.bindHost
  port := listener.port
  cost := listener.cost
  sslProfile := Text.given listener.sslProfile
  authenticatePeer := listener.authenticatePeer
  saslMechanisms := Text.given listener.saslMechanisms

/-- The texts of a listener. -/
def texts (listener : Listener) : List (Option String) :=
  [listener.name, listener.host, listener.saslMechanisms, listener.sslProfile]

variable {listener : Listener}

theorem singleLine_bindHost (h : Text.AllSingleLine listener.texts) :
    Text.SingleLine listener.bindHost := by
  have hany : Text.SingleLine "0.0.0.0" := by decide
  rw [bindHost]
  cases hgiven : Text.given listener.host with
  | none => exact hany
  | some host =>
      exact h listener.host (by simp [texts]) host (Text.given_eq_some_iff.mp hgiven).1

theorem isPlain_stanza (h : Text.AllSingleLine listener.texts) : listener.stanza.IsPlain := by
  have hhost := singleLine_bindHost h
  simp only [Text.AllSingleLine, texts, List.forall_mem_cons] at h
  obtain ⟨hname, -, hmechanisms, hprofile, -⟩ := h
  refine isPlain_of (by decide) ?_
  simp only [List.forall_mem_cons]
  exact ⟨isPlain_textAttribute (by decide) hname, Attribute.isPlain_some (by decide) hhost,
    isPlain_portAttribute (by decide),
    Attribute.isPlain_some (by decide) (singleLine_clientRole _),
    isPlain_flagAttribute (by decide) _, isPlain_flagAttribute (by decide) _,
    isPlain_textAttribute (by decide) hmechanisms, isPlain_textAttribute (by decide) hprofile,
    List.forall_mem_nil _⟩

theorem isPlain_routerStanza {role : String} (hrole : Text.SingleLine role)
    (h : Text.AllSingleLine listener.texts) : (listener.routerStanza role).IsPlain := by
  have hhost := singleLine_bindHost h
  simp only [Text.AllSingleLine, texts, List.forall_mem_cons] at h
  obtain ⟨hname, -, hmechanisms, hprofile, -⟩ := h
  refine isPlain_of (by decide) ?_
  simp only [List.forall_mem_cons]
  exact ⟨isPlain_textAttribute (by decide) hname, Attribute.isPlain_some (by decide) hrole,
    Attribute.isPlain_some (by decide) hhost, isPlain_portAttribute (by decide),
    isPlain_numberAttribute (by decide), isPlain_textAttribute (by decide) hmechanisms,
    isPlain_flagAttribute (by decide) _, isPlain_textAttribute (by decide) hprofile,
    List.forall_mem_nil _⟩

end Listener

namespace SslProfile

/-- What the configuration shows of a TLS profile. -/
def visible (profile : SslProfile) : SslProfile where
  name := profile.name
  credentials := profile.credentialsSecret
  caCert := profile.caSecret
  ciphers := Text.given profile.ciphers
  protocols := Text.given profile.protocols

/-- The texts of a TLS profile. -/
def texts (profile : SslProfile) : List (Option String) :=
  [some profile.name, profile.credentials, profile.caCert, profile.ciphers, profile.protocols]

/-- A path without its last part. -/
theorem append_slash_inj {first second firstFile secondFile : String}
    (hfirst : '/' ∉ firstFile.toList) (hsecond : '/' ∉ secondFile.toList)
    (h : first ++ "/" ++ firstFile = second ++ "/" ++ secondFile) : first = second := by
  have hdrop (path file : String) (hfile : '/' ∉ file.toList) :
      ((path ++ "/" ++ file).toList.reverse.dropWhile (· ≠ '/')) = '/' :: path.toList.reverse := by
    have hslash : "/".toList = ['/'] := rfl
    have hchars : ∀ char ∈ file.toList.reverse, decide (char ≠ '/') = true := by
      intro char hchar
      rw [decide_eq_true_eq]
      rintro rfl
      exact hfile (List.mem_reverse.mp hchar)
    rw [String.toList_append, String.toList_append, hslash, List.reverse_append,
      List.dropWhile_append_of_pos hchars, List.reverse_append]
    simp
  have hreverse := (hdrop first firstFile hfirst).symm.trans
    (h ▸ hdrop second secondFile hsecond)
  exact String.toList_inj.mp (List.reverse_injective (List.cons.inj hreverse).2)

theorem slash_notMem_caFile (profile : SslProfile) : '/' ∉ profile.caFile.toList := by
  unfold caFile
  split <;> decide

variable {profile : SslProfile}

theorem singleLine_certificatePath_append {secret file : String}
    (hname : Text.SingleLine profile.name) (hsecret : Text.SingleLine secret)
    (hfile : Text.SingleLine file) :
    Text.SingleLine (certificatePath profile.name secret ++ file) := by
  have hdirectory : Text.SingleLine (certificateDirectory ++ "/") := by decide
  have hslash : Text.SingleLine "/" := by decide
  change Text.SingleLine (certificateDirectory ++ "/" ++ profile.name ++ "/" ++ secret ++ file)
  simp only [Text.singleLine_append]
  exact ⟨⟨⟨⟨Text.singleLine_append.mp hdirectory, hname⟩, hslash⟩, hsecret⟩, hfile⟩

theorem isPlain_stanza (h : Text.AllSingleLine profile.texts) : profile.stanza.IsPlain := by
  simp only [Text.AllSingleLine, texts, List.forall_mem_cons] at h
  obtain ⟨hname, hcredentials, hca, hciphers, hprotocols, -⟩ := h
  replace hname := hname profile.name rfl
  have hcertificate (file : String) (hfile : Text.SingleLine file) :
      ∀ secret ∈ profile.credentialsSecret,
        Text.SingleLine (certificatePath profile.name secret ++ file) := fun secret hsecret =>
    singleLine_certificatePath_append hname
      (hcredentials secret (Text.given_eq_some_iff.mp hsecret).1) hfile
  have hcaFile : Text.SingleLine ("/" ++ profile.caFile) := by
    unfold caFile
    split <;> decide
  refine isPlain_of (by decide) ?_
  simp only [List.forall_mem_cons]
  refine ⟨Attribute.isPlain_some (by decide) hname,
    Attribute.isPlain_map (by decide) (hcertificate _ (by decide)),
    Attribute.isPlain_map (by decide) (hcertificate _ (by decide)),
    Attribute.isPlain_map (by decide) fun secret hsecret => ?_,
    isPlain_textAttribute (by decide) hciphers, isPlain_textAttribute (by decide) hprotocols,
    List.forall_mem_nil _⟩
  rw [String.append_assoc]
  exact singleLine_certificatePath_append hname
    (hca secret (Text.given_eq_some_iff.mp hsecret).1) hcaFile

end SslProfile

namespace Address

/-- What the configuration shows of an address. -/
def visible (address : Address) : Address :=
  { address with
    addressPrefix := Text.given address.addressPrefix
    pattern := Text.given address.pattern
    distribution := Text.given address.distribution }

/-- The texts of an address. -/
def texts (address : Address) : List (Option String) :=
  [address.addressPrefix, address.pattern, address.distribution]

theorem isPlain_stanza {address : Address} (h : Text.AllSingleLine address.texts) :
    address.stanza.IsPlain := by
  simp only [Text.AllSingleLine, texts, List.forall_mem_cons] at h
  obtain ⟨hprefixed, hpattern, hdistribution, -⟩ := h
  refine isPlain_of (by decide) ?_
  simp only [List.forall_mem_cons]
  exact ⟨isPlain_textAttribute (by decide) hprefixed, isPlain_textAttribute (by decide) hpattern,
    isPlain_textAttribute (by decide) hdistribution, isPlain_flagAttribute (by decide) _,
    isPlain_numberAttribute (by decide), isPlain_numberAttribute (by decide),
    isPlain_numberAttribute (by decide), List.forall_mem_nil _⟩

end Address

namespace AutoLink

/-- What the configuration shows of an auto link. -/
def visible (link : AutoLink) : AutoLink :=
  { link with
    containerId := Text.given link.containerId
    connection := Text.given link.connection
    externalPrefix := Text.given link.externalPrefix }

/-- The texts of an auto link. -/
def texts (link : AutoLink) : List (Option String) :=
  [some link.address, some link.direction, link.containerId, link.connection, link.externalPrefix]

theorem isPlain_stanza {link : AutoLink} (h : Text.AllSingleLine link.texts) :
    link.stanza.IsPlain := by
  simp only [Text.AllSingleLine, texts, List.forall_mem_cons] at h
  obtain ⟨haddress, hdirection, hcontainer, hconnection, hprefixed, -⟩ := h
  refine isPlain_of (by decide) ?_
  simp only [List.forall_mem_cons]
  exact ⟨isPlain_textAttribute (by decide) haddress, isPlain_textAttribute (by decide) hdirection,
    isPlain_textAttribute (by decide) hcontainer, isPlain_textAttribute (by decide) hconnection,
    isPlain_textAttribute (by decide) hprefixed, isPlain_numberAttribute (by decide),
    List.forall_mem_nil _⟩

end AutoLink

namespace LinkRoute

/-- What the configuration shows of a link route. -/
def visible (route : LinkRoute) : LinkRoute where
  addressPrefix := Text.given route.addressPrefix
  pattern := Text.given route.pattern
  direction := Text.given route.direction
  containerId := Text.given route.containerId
  connection := Text.given route.connection
  addExternalPrefix := Text.given route.addExternalPrefix
  removeExternalPrefix := Text.given route.removeExternalPrefix

/-- The texts of a link route. -/
def texts (route : LinkRoute) : List (Option String) :=
  [route.addressPrefix, route.pattern, route.direction, route.connection, route.containerId,
    route.addExternalPrefix, route.removeExternalPrefix]

theorem isPlain_stanza {route : LinkRoute} (h : Text.AllSingleLine route.texts) :
    route.stanza.IsPlain := by
  simp only [Text.AllSingleLine, texts, List.forall_mem_cons] at h
  obtain ⟨hprefixed, hpattern, hdirection, hconnection, hcontainer, hadded, hremoved, -⟩ := h
  refine isPlain_of (by decide) ?_
  simp only [List.forall_mem_cons]
  exact ⟨isPlain_textAttribute (by decide) hprefixed, isPlain_textAttribute (by decide) hpattern,
    isPlain_textAttribute (by decide) hdirection, isPlain_textAttribute (by decide) hconnection,
    isPlain_textAttribute (by decide) hcontainer, isPlain_textAttribute (by decide) hadded,
    isPlain_textAttribute (by decide) hremoved, List.forall_mem_nil _⟩

end LinkRoute

namespace Connector

/-- What the configuration shows of an ordinary connector. Host names are verified unless that is
switched off. -/
def visible (connector : Connector) : Connector :=
  { connector with
    name := Text.given connector.name
    sslProfile := Text.given connector.sslProfile
    verifyHostname := connector.verifyHostname.filter (!·) }

/-- What the configuration shows of a connector to another router. -/
def routerVisible (connector : Connector) : Connector :=
  { connector.visible with routeContainer := false }

/-- The texts of a connector. -/
def texts (connector : Connector) : List (Option String) :=
  [connector.name, some connector.host, connector.sslProfile]

variable {connector : Connector}

theorem isPlain_stanza (h : Text.AllSingleLine connector.texts) : connector.stanza.IsPlain := by
  simp only [Text.AllSingleLine, texts, List.forall_mem_cons] at h
  obtain ⟨hname, hhost, hprofile, -⟩ := h
  refine isPlain_of (by decide) ?_
  simp only [List.forall_mem_cons]
  exact ⟨isPlain_textAttribute (by decide) hname, isPlain_textAttribute (by decide) hhost,
    isPlain_portAttribute (by decide),
    Attribute.isPlain_some (by decide) (singleLine_clientRole _),
    isPlain_numberAttribute (by decide), isPlain_textAttribute (by decide) hprofile,
    isPlain_verifyAttribute _, List.forall_mem_nil _⟩

theorem isPlain_routerStanza {role : String} (hrole : Text.SingleLine role)
    (h : Text.AllSingleLine connector.texts) : (connector.routerStanza role).IsPlain := by
  simp only [Text.AllSingleLine, texts, List.forall_mem_cons] at h
  obtain ⟨hname, hhost, hprofile, -⟩ := h
  refine isPlain_of (by decide) ?_
  simp only [List.forall_mem_cons]
  exact ⟨isPlain_textAttribute (by decide) hname, Attribute.isPlain_some (by decide) hrole,
    isPlain_textAttribute (by decide) hhost, isPlain_portAttribute (by decide),
    isPlain_numberAttribute (by decide), isPlain_textAttribute (by decide) hprofile,
    isPlain_verifyAttribute _, List.forall_mem_nil _⟩

end Connector

namespace InterconnectSpec

/-- What the configuration shows of a specification. -/
def visible (spec : InterconnectSpec) : InterconnectSpec where
  deploymentPlan := { role := some spec.deploymentPlan.roleOrInterior }
  listeners := spec.listeners.map Listener.visible
  interRouterListeners := spec.interRouterListeners.map Listener.routerVisible
  edgeListeners := spec.edgeListeners.map Listener.routerVisible
  sslProfiles := spec.sslProfiles.map SslProfile.visible
  addresses := spec.addresses.map Address.visible
  autoLinks := spec.autoLinks.map AutoLink.visible
  linkRoutes := spec.linkRoutes.map LinkRoute.visible
  connectors := spec.connectors.map Connector.visible
  interRouterConnectors := spec.interRouterConnectors.map Connector.routerVisible
  edgeConnectors := spec.edgeConnectors.map Connector.routerVisible

/-- The texts of a specification that its configuration is made of. -/
def texts (spec : InterconnectSpec) : List (Option String) :=
  spec.allListeners.flatMap Listener.texts ++ spec.sslProfiles.flatMap SslProfile.texts ++
    spec.addresses.flatMap Address.texts ++ spec.autoLinks.flatMap AutoLink.texts ++
    spec.linkRoutes.flatMap LinkRoute.texts ++ spec.allConnectors.flatMap Connector.texts

/-- No text that the configuration is made of contains a line break. -/
def SingleLine (spec : InterconnectSpec) : Prop := Text.AllSingleLine spec.texts

instance (spec : InterconnectSpec) : Decidable spec.SingleLine :=
  inferInstanceAs (Decidable (Text.AllSingleLine spec.texts))

variable {spec first second : InterconnectSpec}

theorem isPlain_config (h : spec.SingleLine) : spec.config.IsPlain := by
  simp only [SingleLine, Text.AllSingleLine, texts, List.forall_mem_append, allListeners,
    allConnectors, List.flatMap_append, List.forall_mem_flatMap] at h
  obtain ⟨⟨⟨⟨⟨⟨⟨hlisteners, hrouterListeners⟩, hedgeListeners⟩, hprofiles⟩, haddresses⟩,
    hautoLinks⟩, hlinkRoutes⟩, ⟨hconnectors, hrouterConnectors⟩, hedgeConnectors⟩ := h
  have hrole (role : RouterRole) : Text.SingleLine role.name := by cases role <;> decide
  refine ⟨hrole _, List.cons_ne_nil _ _, ?_⟩
  simp only [config, List.forall_mem_cons, List.forall_mem_map]
  exact ⟨fun listener hmem => Listener.isPlain_stanza (hlisteners listener hmem),
    fun listener hmem => Listener.isPlain_routerStanza (by decide) (hrouterListeners _ hmem),
    fun listener hmem => Listener.isPlain_routerStanza (by decide) (hedgeListeners _ hmem),
    fun profile hmem => SslProfile.isPlain_stanza (hprofiles profile hmem),
    fun address hmem => Address.isPlain_stanza (haddresses address hmem),
    fun link hmem => AutoLink.isPlain_stanza (hautoLinks link hmem),
    fun route hmem => LinkRoute.isPlain_stanza (hlinkRoutes route hmem),
    fun connector hmem => Connector.isPlain_stanza (hconnectors connector hmem),
    fun connector hmem => Connector.isPlain_routerStanza (by decide) (hrouterConnectors _ hmem),
    fun connector hmem => Connector.isPlain_routerStanza (by decide) (hedgeConnectors _ hmem),
    List.forall_mem_nil _⟩

end InterconnectSpec

end RouterOperator
