/-!
# Router configuration files

A configuration is the mode of the router followed by sections of stanzas. Sections stand in a fixed
order with one blank line between them, also when they are empty, so the text shows which section a
stanza belongs to.
-/

namespace RouterOperator

/-- A block of attributes under a name. -/
structure Stanza where
  kind : String
  attributes : List (String × String)
deriving DecidableEq

/-- A configuration: the mode of the router and the sections of stanzas. -/
structure RouterConfig where
  mode : String
  sections : List (List Stanza)
deriving DecidableEq

namespace Stanza

/-- The name of the stanzas that describe TLS profiles. -/
def profileKind : String := "sslProfile"

/-- The blanks before an attribute, one less in TLS profiles. -/
def indent (stanza : Stanza) : String := if stanza.kind = profileKind then "   " else "    "

/-- The text of a stanza. -/
def text (stanza : Stanza) : String :=
  let lines := stanza.attributes.map fun entry =>
    "\n" ++ stanza.indent ++ entry.1 ++ ": " ++ entry.2
  "\n" ++ stanza.kind ++ " \x7b" ++ String.join lines ++ "\n\x7d"

/-- The value of the first attribute with this name. -/
def attribute? (stanza : Stanza) (name : String) : Option String := stanza.attributes.lookup name

end Stanza

namespace RouterConfig

/-- The stanza with the mode of the router; its identity is filled in when the router starts. -/
def router (config : RouterConfig) : Stanza :=
  { kind := "router", attributes := [("mode", config.mode), ("id", "$\x7bHOSTNAME\x7d")] }

/-- The text of a section. -/
def sectionText (stanzas : List Stanza) : String := String.join (stanzas.map Stanza.text)

/-- The text of a configuration. -/
def text (config : RouterConfig) : String :=
  config.router.text ++ "\n" ++ String.intercalate "\n" (config.sections.map sectionText)

end RouterConfig

end RouterOperator
