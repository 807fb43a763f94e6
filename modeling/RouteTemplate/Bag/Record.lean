import RouteTemplate.Bag.Member
import RouteTemplate.Value.Attribute

set_option autoImplicit false

namespace RouteTemplate

def RecordOptions.document (options : RecordOptions) : List (Value × Value) :=
  (options.extras.map fun keep =>
      ((.text "extra" : Value), (.text (if keep then "allow" else "ignore") : Value))).toList ++
    (options.byName.map fun on => ((.text "populate_by_name" : Value), (.bool on : Value))).toList ++
    if options.upperAliases then
      [(.text "alias_generator", .thing "method_descriptor" "method 'upper' of 'str' objects" false)]
    else []

/-- A field of a validated class with its outer name and the name it is taken under, as it is shown; of names that
the field declares itself more is made than of those that its class makes up. -/
def RecordField.literal (ownNames : Bool) (f : RecordField) : Text :=
  let named : Bool := f.outerName.isSome || f.takenUnder.isSome
  let part (name : Text) (shown : Option Text) : List Text :=
    (shown.map fun t => List.flatten [name, "=", t]).toList
  let parts : List Text :=
    part "annotation" (some "Any") ++ part "required" (some (truthName f.default.isNone)) ++
      part "default" (f.default.map Value.literal) ++ part "alias" (f.outerName.map Text.quoted) ++
      part "alias_priority" (if named then some (Text.ofNat (if ownNames then 2 else 1)) else none) ++
      part "validation_alias"
        (if f.takenUnder.isSome && !(f.takenUnder = f.outerName) then f.takenUnder.map Text.quoted else none)
  List.flatten ["FieldInfo(", Text.joinWith ", " parts, ")"]

namespace Class

def typeName (c : Class) : Text := if c.isRecord then "ModelMetaclass" else "type"

def shown (c : Class) : Text := List.flatten ["<class '__main__.", c.name, "'>"]

def recordFieldsText (c : Class) : Text :=
  let shown (f : RecordField) : Text :=
    List.flatten [f.name.quoted, ": ",
      (effectiveField c.recordOptions.upperAliases f).literal (f.outerName.isSome || f.takenUnder.isSome)]
  List.flatten ["\x7b", Text.joinWith ", " (c.recordTable.map fun entry => shown entry.2), "\x7d"]

end Class

def recordMethodNames : List Text :=
  ["copy", "dict", "json", "model_copy", "model_dump", "model_dump_json", "model_post_init", "_iter",
    "_copy_and_set_values", "_calculate_keys"]

def recordClassMethodNames : List Text :=
  ["construct", "from_orm", "model_construct", "model_json_schema", "model_parametrized_name", "model_rebuild",
    "model_validate", "model_validate_json", "model_validate_strings", "parse_file", "parse_obj", "parse_raw", "schema",
    "schema_json", "update_forward_refs", "validate", "_get_value"]

/-- Is it a name that every object of a validated class answers to from its class? -/
def isRecordMethod (name : Text) : Bool :=
  name = Class.optionsName || recordMethodNames.contains name || recordClassMethodNames.contains name

end RouteTemplate
