import RouterOperator.Proofs.Config.Attributes
import RouterOperator.Proofs.Normalize

/-!
# The default profile in a configuration

Listeners and connectors refer to TLS profiles by name, and nothing checks that a profile of that
name is there. The default profile is added when a listener for clients or for other interior
routers refers to it. A listener for edge routers or a connector does not bring it about and finds
it only if it is there for another reason.
-/

namespace RouterOperator

namespace Stanza

/-- The stanza of a listener or of a connector refers to a TLS profile. -/
def RefersTo (stanza : Stanza) (profile : String) : Prop :=
  (stanza.kind = "listener" ∨ stanza.kind = "connector") ∧
    ("sslProfile", profile) ∈ stanza.attributes

/-- The stanza of a listener for clients or for other interior routers refers to a TLS profile. -/
def CallsFor (stanza : Stanza) (profile : String) : Prop :=
  stanza.RefersTo profile ∧ stanza.kind = "listener" ∧ ("role", "edge") ∉ stanza.attributes

/-- The stanza describes the TLS profile of this name. -/
def Defines (stanza : Stanza) (profile : String) : Prop :=
  stanza.kind = profileKind ∧ ("name", profile) ∈ stanza.attributes

end Stanza

open Stanza

namespace Listener

variable {listener : Listener} {role profile : String}

@[simp] theorem refersTo_stanza :
    listener.stanza.RefersTo profile ↔ listener.profile = some profile := by
  simp [RefersTo, stanza, named_portAttribute.ne, (named_flagAttribute _).ne, Listener.profile]

@[simp] theorem refersTo_routerStanza :
    (listener.routerStanza role).RefersTo profile ↔ listener.profile = some profile := by
  simp [RefersTo, routerStanza, named_portAttribute.ne, named_numberAttribute.ne,
    (named_flagAttribute _).ne, Listener.profile]

@[simp] theorem callsFor_stanza :
    listener.stanza.CallsFor profile ↔ listener.profile = some profile := by
  have hrole : "edge" ≠ clientRole listener.routeContainer := by
    cases listener.routeContainer <;> decide
  rw [CallsFor, refersTo_stanza]
  simp [stanza, named_portAttribute.ne, (named_flagAttribute _).ne, hrole]

@[simp] theorem callsFor_routerStanza : (listener.routerStanza role).CallsFor profile ↔
    listener.profile = some profile ∧ role ≠ "edge" := by
  rw [CallsFor, refersTo_routerStanza]
  simp [routerStanza, named_portAttribute.ne, named_numberAttribute.ne, (named_flagAttribute _).ne,
    eq_comm]

end Listener

namespace Connector

variable {connector : Connector} {role profile : String}

@[simp] theorem refersTo_stanza :
    connector.stanza.RefersTo profile ↔ Text.given connector.sslProfile = some profile := by
  simp [RefersTo, stanza, named_portAttribute.ne, named_numberAttribute.ne,
    (named_verifyAttribute _).ne]

@[simp] theorem refersTo_routerStanza : (connector.routerStanza role).RefersTo profile ↔
    Text.given connector.sslProfile = some profile := by
  simp [RefersTo, routerStanza, named_portAttribute.ne, named_numberAttribute.ne,
    (named_verifyAttribute _).ne]

end Connector

namespace SslProfile

variable {profile : SslProfile} {name : String}

@[simp] theorem defines_stanza : profile.stanza.Defines name ↔ profile.name = name := by
  have hfile {path : String → String} {secret : Option String} {file : String}
      (hfile : "name" ≠ file) :
      some ("name", name) ≠ secret.map fun secret => (file, path secret) :=
    (named_map secret path).ne hfile
  simp [Defines, stanza, hfile, eq_comm]

end SslProfile

namespace InterconnectSpec

variable (spec : InterconnectSpec) (profile : String) (certManager : Bool)

/-- Some listener or connector of a specification refers to a TLS profile. -/
def RefersTo : Prop :=
  (∃ listener ∈ spec.listeners ++ spec.interRouterListeners ++ spec.edgeListeners,
    listener.profile = some profile) ∨
  ∃ connector ∈ spec.connectors ++ spec.interRouterConnectors ++ spec.edgeConnectors,
    Text.given connector.sslProfile = some profile

/-- Some listener for clients or for other interior routers refers to a TLS profile. -/
def CallsFor : Prop :=
  ∃ listener ∈ spec.listeners ++ spec.interRouterListeners, listener.profile = some profile

/-- A specification has a TLS profile of this name. -/
def Defines : Prop := ∃ given ∈ spec.sslProfiles, given.name = profile

/-- A TLS profile is there if it is referred to, in the specification and in its configuration. -/
def Resolves : Prop :=
  (spec.RefersTo profile → spec.Defines profile) ∧
    ((∃ stanza ∈ spec.config.sections.flatten, stanza.RefersTo profile) →
      ∃ stanza ∈ spec.config.sections.flatten, stanza.Defines profile)

variable {profile}

theorem exists_refersTo_iff :
    (∃ stanza ∈ spec.config.sections.flatten, stanza.RefersTo profile) ↔ spec.RefersTo profile := by
  have hkind (stanza : Stanza) (h : stanza.RefersTo profile) :
      stanza.kind ∈ ["listener", "connector", profileKind] := by
    rcases h.1 with hkind | hkind <;> rw [hkind] <;> decide
  have hprofile (given : SslProfile) : ¬ given.stanza.RefersTo profile :=
    fun h => absurd h.1 (show ¬ (profileKind = "listener" ∨ profileKind = "connector") by decide)
  rw [spec.exists_stanza_iff hkind]
  simp [hprofile, RefersTo, or_and_right, exists_or, or_assoc]

theorem exists_callsFor_iff :
    (∃ stanza ∈ spec.config.sections.flatten, stanza.CallsFor profile) ↔ spec.CallsFor profile := by
  have hkind (stanza : Stanza) (h : stanza.CallsFor profile) :
      stanza.kind ∈ ["listener", "connector", profileKind] := by
    rw [h.2.1]
    decide
  have hother {kind : String} {slots : List Attribute} (hne : kind ≠ "listener") :
      ¬ (Stanza.of kind slots).CallsFor profile := fun h => hne h.2.1
  rw [spec.exists_stanza_iff hkind]
  simp [SslProfile.stanza, profileKind, Connector.stanza, Connector.routerStanza, hother, CallsFor,
    or_and_right, exists_or]

theorem exists_defines_iff :
    (∃ stanza ∈ spec.config.sections.flatten, stanza.Defines profile) ↔ spec.Defines profile := by
  have hkind (stanza : Stanza) (h : stanza.Defines profile) :
      stanza.kind ∈ ["listener", "connector", profileKind] := by
    rw [h.1]
    decide
  have hother {kind : String} {slots : List Attribute} (hne : kind ≠ "sslProfile") :
      ¬ (Stanza.of kind slots).Defines profile := fun h => hne h.1
  rw [spec.exists_stanza_iff hkind]
  simp [Listener.stanza, Listener.routerStanza, Connector.stanza, Connector.routerStanza, hother,
    Defines]

theorem usesDefaultProfile_iff : spec.usesDefaultProfile = true ↔ spec.CallsFor defaultProfile := by
  simp [usesDefaultProfile, CallsFor, or_and_right, exists_or]

theorem hasDefaultProfile_iff : spec.hasDefaultProfile = true ↔ spec.Defines defaultProfile := by
  simp [hasDefaultProfile, Defines]

/-- The default profile is there if it was given, and else for one reason only. -/
theorem defines_normalize_iff :
    (spec.normalize certManager).spec.Defines defaultProfile ↔
      spec.Defines defaultProfile ∨ (spec.normalize certManager).spec.CallsFor defaultProfile := by
  simp only [← hasDefaultProfile_iff, ← usesDefaultProfile_iff, normalize]
  split
  next hlacks =>
    rw [lacksDefaultProfile, Bool.and_eq_true] at hlacks
    exact iff_of_true (hasDefaultProfile_append _ _) (Or.inr hlacks.1)
  next hhas =>
    rw [lacksDefaultProfile, Bool.and_eq_true, not_and, Bool.not_eq_true',
      Bool.not_eq_false] at hhas
    exact ⟨Or.inl, fun h => h.elim id hhas⟩

/-- The default profile is there, in the specification and in its configuration, exactly when it was
given or a listener for clients or for other interior routers refers to it. -/
theorem default_profile_resolves_iff :
    ((spec.normalize certManager).spec.Defines defaultProfile ↔
      spec.Defines defaultProfile ∨ (spec.normalize certManager).spec.CallsFor defaultProfile) ∧
    ((∃ stanza ∈ (spec.normalize certManager).spec.config.sections.flatten,
        stanza.Defines defaultProfile) ↔
      spec.Defines defaultProfile ∨
        ∃ stanza ∈ (spec.normalize certManager).spec.config.sections.flatten,
          stanza.CallsFor defaultProfile) ∧
    ((spec.normalize certManager).spec.Resolves defaultProfile ↔
      spec.Defines defaultProfile ∨ (spec.normalize certManager).spec.CallsFor defaultProfile ∨
        ¬ (spec.normalize certManager).spec.RefersTo defaultProfile) := by
  have hdefined := spec.defines_normalize_iff certManager
  refine ⟨hdefined, ?_, ?_⟩
  · rw [exists_defines_iff, exists_callsFor_iff]
    exact hdefined
  · rw [Resolves, exists_refersTo_iff, exists_defines_iff, and_self, ← or_assoc, ← hdefined]
    exact imp_iff_or_not

/-- Also where certificates can be issued, a listener for edge routers does not bring the default
profile about. -/
theorem edge_reference_dangles :
    ¬ (({ listeners := [.onPort 5672], interRouterListeners := [.onPort 55672],
          edgeListeners := [.withProfile 45671 defaultProfile] } :
        InterconnectSpec).normalize true).spec.Resolves defaultProfile := by
  rintro ⟨hspec, -⟩
  obtain ⟨given, hgiven, -⟩ := hspec (Or.inl ⟨.withProfile 45671 defaultProfile, by decide, rfl⟩)
  cases hgiven

end InterconnectSpec

end RouterOperator
