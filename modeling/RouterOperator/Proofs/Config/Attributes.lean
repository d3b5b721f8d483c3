import Mathlib.Data.List.Forall2
import Mathlib.Data.Prod.Basic
import Std.Data.String.ToInt
import RouterOperator.Config.Render
import RouterOperator.Proofs.Config.Reading

/-!
# Attributes of a stanza

A stanza leaves out what is unset, so its attributes do not stand at fixed places. Their names tell
them apart: two stanzas with the same distinct names are equal exactly when they agree name by name.
-/

namespace RouterOperator

namespace Stanza

/-- An attribute of this name, if it is written. -/
def Named (name : String) (slot : Attribute) : Prop := ∀ entry ∈ slot, entry.1 = name

/-- An attribute of another name is not the one that is written. -/
theorem Named.ne {name written text : String} {slot : Attribute} (h : Named name slot)
    (hname : written ≠ name) : some (written, text) ≠ slot := by
  rintro rfl
  exact hname (h _ rfl)

/-- A name that is a word and a value that stays on its line. -/
def Attribute.IsPlain (slot : Attribute) : Prop :=
  ∀ entry ∈ slot, Text.IsWord entry.1 ∧ Text.SingleLine entry.2

section attributes

variable {name : String} {value other : Option String} {port : Int32} {number : Option Int32}

@[simp] theorem named_some (value : String) : Named name (some (name, value)) := by simp [Named]

@[simp] theorem named_map {α : Type} (value : Option α) (text : α → String) :
    Named name (value.map fun item => (name, text item)) := by
  rintro entry hentry
  obtain ⟨item, -, rfl⟩ := Option.map_eq_some_iff.mp hentry
  rfl

@[simp] theorem named_textAttribute : Named name (textAttribute name value) :=
  named_map (Text.given value) id

@[simp] theorem named_portAttribute : Named name (portAttribute name port) := by
  unfold portAttribute
  split <;> simp [Named]

@[simp] theorem named_numberAttribute : Named name (numberAttribute name number) :=
  named_map number fun number => toString number.toInt

@[simp] theorem named_flagAttribute (value : Bool) : Named name (flagAttribute name value) := by
  cases value <;> simp [flagAttribute, Named]

@[simp] theorem named_verifyAttribute (value : Option Bool) :
    Named "verifyHostname" (verifyAttribute value) := by
  unfold verifyAttribute
  split <;> simp [Named]

@[simp] theorem some_eq_textAttribute {written text : String} :
    some (written, text) = textAttribute name value ↔
      written = name ∧ Text.given value = some text := by
  rw [eq_comm, textAttribute, Option.map_eq_some_iff]
  simp [and_comm, eq_comm]

theorem snd_textAttribute : (textAttribute name value).map Prod.snd = Text.given value := by
  simp [textAttribute, Function.comp_def]

theorem snd_portAttribute : (portAttribute name port).map Prod.snd =
    if port = 0 then none else some (toString port.toInt) := by
  unfold portAttribute
  split <;> rfl

theorem Attribute.isPlain_some {text : String} (hname : Text.IsWord name)
    (htext : Text.SingleLine text) : Attribute.IsPlain (some (name, text)) := by
  rintro entry ⟨⟩
  exact ⟨hname, htext⟩

theorem Attribute.isPlain_map {α : Type} {value : Option α} {text : α → String}
    (hname : Text.IsWord name) (htext : ∀ item ∈ value, Text.SingleLine (text item)) :
    Attribute.IsPlain (value.map fun item => (name, text item)) := by
  rintro entry hentry
  obtain ⟨item, hitem, rfl⟩ := Option.map_eq_some_iff.mp hentry
  exact ⟨hname, htext item hitem⟩

theorem isPlain_textAttribute (hname : Text.IsWord name)
    (hvalue : ∀ text ∈ value, Text.SingleLine text) :
    Attribute.IsPlain (textAttribute name value) := by
  refine Attribute.isPlain_map hname fun text htext => hvalue text ?_
  exact (Text.given_eq_some_iff.mp htext).1

theorem singleLine_toString_toInt (number : Int32) :
    Text.SingleLine (toString number.toInt) := by
  have hdigits (value : Nat) : Text.SingleLine value.repr := by
    intro hmem
    rw [Nat.toList_repr] at hmem
    exact absurd (Nat.isDigit_of_mem_toDigits (by decide) (by decide) hmem) (by decide)
  rw [Int.toString_eq_repr, Int.repr_eq_if]
  split
  · exact hdigits _
  · exact Text.singleLine_append.mpr ⟨by decide, hdigits _⟩

theorem isPlain_portAttribute (hname : Text.IsWord name) :
    Attribute.IsPlain (portAttribute name port) := by
  unfold portAttribute
  split
  · simp [Attribute.IsPlain]
  · exact Attribute.isPlain_some hname (singleLine_toString_toInt port)

theorem isPlain_numberAttribute (hname : Text.IsWord name) :
    Attribute.IsPlain (numberAttribute name number) :=
  Attribute.isPlain_map hname fun item _ => singleLine_toString_toInt item

theorem isPlain_flagAttribute (hname : Text.IsWord name) (value : Bool) :
    Attribute.IsPlain (flagAttribute name value) := by
  cases value
  · simp [flagAttribute, Attribute.IsPlain]
  · exact Attribute.isPlain_some hname (by decide)

theorem isPlain_verifyAttribute (value : Option Bool) :
    Attribute.IsPlain (verifyAttribute value) := by
  unfold verifyAttribute
  split
  · exact Attribute.isPlain_some (by decide) (by decide)
  · simp [Attribute.IsPlain]

theorem singleLine_clientRole (routeContainer : Bool) :
    Text.SingleLine (clientRole routeContainer) := by
  cases routeContainer <;> decide

end attributes

variable {names : List String} {first second : List Attribute} {kind : String}

@[simp] theorem kind_of : (Stanza.of kind first).kind = kind := rfl

@[simp] theorem mem_attributes_of {entry : String × String} :
    entry ∈ (Stanza.of kind first).attributes ↔ some entry ∈ first := by
  rw [Stanza.of, List.mem_filterMap]
  exact exists_eq_right

theorem name_mem_of_mem_filterMap (hnamed : List.Forall₂ Named names first)
    {entry : String × String} (hentry : entry ∈ first.filterMap id) : entry.1 ∈ names := by
  induction hnamed with
  | nil => simp at hentry
  | @cons name slot names rest hname hrest ih =>
      cases slot with
      | none => exact List.mem_cons_of_mem _ (ih (by simpa using hentry))
      | some written =>
          rw [List.filterMap_cons, id, List.mem_cons] at hentry
          rcases hentry with rfl | hentry
          · exact List.mem_cons.mpr (.inl (hname entry rfl))
          · exact List.mem_cons_of_mem _ (ih hentry)

/-- A written attribute is found by its name, as no other one has it. -/
theorem attribute?_of {name : String} (slot : Attribute) (distinct : names.Nodup)
    (named : List.Forall₂ Named names first) (hmem : (name, slot) ∈ names.zip first) :
    (Stanza.of kind first).attribute? name = slot.map Prod.snd := by
  change (first.filterMap id).lookup name = _
  induction named with
  | nil => cases hmem
  | @cons head written names rest hhead hrest ih =>
      obtain ⟨hfresh, hdistinct⟩ := List.nodup_cons.mp distinct
      rw [List.zip_cons_cons, List.mem_cons, Prod.mk.injEq] at hmem
      cases written with
      | none =>
          rw [List.filterMap_cons_none (f := id) rfl]
          rcases hmem with ⟨rfl, rfl⟩ | hmem
          · rw [Option.map_none, List.lookup_eq_none_iff]
            intro entry hentry
            have hlater := name_mem_of_mem_filterMap hrest hentry
            simpa using fun heq : name = entry.1 => hfresh (heq ▸ hlater)
          · exact ih hdistinct hmem
      | some entry =>
          rw [List.filterMap_cons_some (f := id) rfl]
          obtain rfl : entry.1 = head := hhead entry rfl
          rcases hmem with ⟨rfl, rfl⟩ | hmem
          · exact List.lookup_cons_self
          · have hne : name ≠ entry.1 := fun heq => hfresh (heq ▸ (List.of_mem_zip hmem).1)
            rw [List.lookup_cons, beq_false_of_ne hne]
            exact ih hdistinct hmem

theorem isPlain_of (hkind : Text.IsWord kind) (h : ∀ slot ∈ first, Attribute.IsPlain slot) :
    (Stanza.of kind first).IsPlain where
  kind := hkind
  names entry hentry := by
    obtain ⟨slot, hslot, rfl⟩ := List.mem_filterMap.mp hentry
    exact (h _ hslot entry rfl).1
  values entry hentry := by
    obtain ⟨slot, hslot, rfl⟩ := List.mem_filterMap.mp hentry
    exact (h _ hslot entry rfl).2

end Stanza

/-- What holds of listeners, connectors and TLS profiles only is to be looked for in seven of the
sections. -/
theorem InterconnectSpec.exists_stanza_iff (spec : InterconnectSpec) {holds : Stanza → Prop}
    (hkind : ∀ stanza, holds stanza → stanza.kind ∈ ["listener", "connector", Stanza.profileKind]) :
    (∃ stanza ∈ spec.config.sections.flatten, holds stanza) ↔
      (∃ listener ∈ spec.listeners, holds listener.stanza) ∨
      (∃ listener ∈ spec.interRouterListeners, holds (listener.routerStanza "inter-router")) ∨
      (∃ listener ∈ spec.edgeListeners, holds (listener.routerStanza "edge")) ∨
      (∃ given ∈ spec.sslProfiles, holds given.stanza) ∨
      (∃ connector ∈ spec.connectors, holds connector.stanza) ∨
      (∃ connector ∈ spec.interRouterConnectors, holds (connector.routerStanza "inter-router")) ∨
      ∃ connector ∈ spec.edgeConnectors, holds (connector.routerStanza "edge") := by
  have hother {kind : String} {slots : List Stanza.Attribute}
      (h : kind ∉ ["listener", "connector", Stanza.profileKind]) : ¬ holds (.of kind slots) :=
    fun hholds => h (hkind _ hholds)
  have haddress (address : Address) : ¬ holds address.stanza := hother (by decide)
  have hautoLink (link : AutoLink) : ¬ holds link.stanza := hother (by decide)
  have hlinkRoute (route : LinkRoute) : ¬ holds route.stanza := hother (by decide)
  simp [config, or_and_right, exists_or, haddress, hautoLink, hlinkRoute]

end RouterOperator
