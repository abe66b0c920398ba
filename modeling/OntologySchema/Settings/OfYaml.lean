import OntologySchema.Settings
import OntologySchema.Yaml.Mapping

/-!
# Settings from YAML

A settings file is a mapping. Its keys are the names of settings; a scalar is a text or a truth value, or leaves
the setting open.
-/

namespace OntologySchema.Settings

/-- The forms in which it is written that there is nothing. -/
def isNothing (text : String) : Bool := ["~", "null", "Null", "NULL"].contains text

/-- Whether a scalar leaves a setting open. A tag decides it for a plain scalar: with the tag of nothing the
scalar has to be written so, and with any other tag it is something. -/
def isOpen? (v : Yaml.Scalar) : Option Bool :=
  match v.style, v.tag? with
  | .plain, none => some (v.text = "" || isNothing v.text)
  | .plain, some t =>
    if t ≠ Yaml.Tag.null then some false else if isNothing v.text then some true else none
  | _, _ => some false

/-- The text that a scalar sets, unless it leaves the setting open. -/
def text? (v : Yaml.Scalar) : Option (Option String) :=
  (isOpen? v).map fun isOpen => if isOpen then none else some v.text

/-- Whether a scalar may be a truth value: it is plain, or a literal block with the tag of truth values. -/
def mayBeFlag (v : Yaml.Scalar) : Bool :=
  v.style = .plain || (v.style = .literal && v.tag? = some Yaml.Tag.bool)

/-- The truth value that a scalar sets, unless it leaves the setting open. -/
def flag? (v : Yaml.Scalar) : Option (Option Bool) := do
  if ← isOpen? v then return none
  else if mayBeFlag v && ["true", "True", "TRUE"].contains v.text then return some true
  else if mayBeFlag v && ["false", "False", "FALSE"].contains v.text then return some false
  else none

/-- Settings with the one that a key names. -/
def set? (s : Settings) (key : String) (v : Yaml.Scalar) : Option Settings :=
  match key with
  | "root_resource_name" => (text? v).map ({ s with root? := · })
  | "header_file" => (text? v).map ({ s with headerPath? := · })
  | "deterministic_field_numbers" => (flag? v).map ({ s with hashedNumbers? := · })
  | "full_semantic_mode" => (flag? v).map ({ s with semantic? := · })
  | "proto_output_path" => (text? v).map ({ s with schemaPath? := · })
  | "uml_output_path" => (text? v).map ({ s with diagramPath? := · })
  | _ => none

/-- The settings in a mapping in which no key occurs twice. -/
def readYaml? (text : String) : Option Settings := do
  let entries ← Yaml.mapping? text
  if (entries.map (·.1)).Nodup then entries.foldlM (fun s e => s.set? e.1 e.2) {} else none

/-- The settings in the text of a settings file. -/
def ofYaml? (text : String) : Option Settings := ofText? readYaml? text

end OntologySchema.Settings
