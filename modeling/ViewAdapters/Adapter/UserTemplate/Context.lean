import ViewAdapters.Adapter.Header
import ViewAdapters.Adapter.UserTemplate.Value

/-!
# Contexts of user templates

The values that the template of an adapter can use, by name: the names and
notes of the adapter, its view-model, and the views of its members.
-/

namespace ViewAdapters.UserTemplate

namespace Value

def modelArea : String := "adaptergen.models"

def viewArea : String := "adaptergen.backends.base"

/-- A record of the model of a view-model. -/
def model (name : String) (fields : List (String × Value)) : Value :=
  .record ⟨modelArea, name⟩ fields []

def ofTextOption : Option String → Value := ofOption .text

/-! ## Models -/

def ofDescriptor : Descriptor → Value
  | .primitive kind => model "Primitive" [("kind", .text kind)]
  | .nullable inner => model "Nullable" [("inner", ofDescriptor inner)]
  | .collection element => model "Collection" [("element", ofDescriptor element)]
  | .reference name => model "Reference" [("qualified_name", .text name)]
  | .foreign literal => .verbatim literal

def ofExclusion (e : Exclusion) : Value :=
  .set (e.toList.map fun p => .choice ⟨modelArea, "Platform"⟩ p.name)

def ofOverride (o : TypeOverride) : Value :=
  model "TypeOverride" [("android", ofTextOption o.android), ("ios", ofTextOption o.ios)]

def ofSemantics (s : DateSemantics) : Value := .choice ⟨modelArea, "DateSemantics"⟩ s.name

def ofValidation (v : Validation) : Value :=
  model "ValidationBehavior" [("validate_on_set", .truth v.validateOnSet),
    ("validator_method", ofTextOption v.validator)]

def ofBatching (b : Batching) : Value :=
  model "CollectionBehavior" [("supports_batching", .truth b.isSupported),
    ("batch_size", ofOption .integer b.size)]

def ofThreading (t : Threading) : Value :=
  model "ThreadingBehavior" [("requires_main_thread", .truth t.requiresMain),
    ("requires_background_thread", .truth t.requiresBackground)]

def ofBehavior (b : CommandBehavior) : Value :=
  model "CommandBehavior" [("requires_main_thread", .truth b.requiresMain),
    ("expose_can_execute", .truth b.exposesCanExecute)]

def ofProperty (p : Property) : Value :=
  model "PropertyMetadata" [("name", .text p.name), ("type", ofDescriptor p.type),
    ("is_read_only", .truth p.isReadOnly), ("is_observable_collection", .truth p.isObservable),
    ("element_type", ofOption ofDescriptor p.element),
    ("type_override", ofOption ofOverride p.typeOverride),
    ("date_semantics", ofOption ofSemantics p.dateSemantics),
    ("validation", ofOption ofValidation p.validation),
    ("collection_behavior", ofOption ofBatching p.batching),
    ("excluded_platforms", ofExclusion p.excluded), ("warning_note", ofTextOption p.warning)]

def ofCommand (c : Command) : Value :=
  model "CommandMetadata" [("name", .text c.name), ("is_async", .truth c.isAsync),
    ("parameter_type", ofOption ofDescriptor c.parameter),
    ("threading", ofOption ofThreading c.threading),
    ("command_behavior", ofOption ofBehavior c.behavior),
    ("excluded_platforms", ofExclusion c.excluded), ("warning_note", ofTextOption c.warning)]

def ofViewModel (v : ViewModel) : Value :=
  .record ⟨modelArea, "ViewModelMetadata"⟩
    [("name", .text v.name), ("fully_qualified_name", .text v.qualifiedName),
      ("origin_module", .text v.originModule), ("properties", .row (v.properties.map ofProperty)),
      ("commands", .row (v.commands.map ofCommand)), ("excluded_platforms", ofExclusion v.excluded)]
    [("adapter_name", .text v.adapterName)]

/-! ## Views -/

def ofPropertyView (v : PropertyView) : Value :=
  .record ⟨viewArea, "PropertyView"⟩
    [("name", .text v.name), ("identifier", .text v.identifier), ("setter", .text v.setter),
      ("type_name", .text v.typeName), ("element_type_name", ofTextOption v.elementTypeName),
      ("is_read_only", .truth v.isReadOnly), ("is_observable_collection", .truth v.isObservable),
      ("seed", .text v.seed), ("refresh", .text v.refresh), ("to_source", .text v.toSource),
      ("two_way", .truth v.isTwoWay), ("validator", ofTextOption v.afterWrite.validator?),
      ("validation_note", ofTextOption v.afterWrite.note?),
      ("batch_comment", ofTextOption v.batchNote), ("custom_mapping", .truth v.isCustom),
      ("warning", ofTextOption v.declaredWarning)] []

def ofCommandView (v : CommandView) : Value :=
  .record ⟨viewArea, "CommandView"⟩
    [("name", .text v.name), ("identifier", .text v.identifier),
      ("capitalized", .text (Text.capitalize v.identifier)), ("is_async", .truth v.isAsync),
      ("dispatch", .choice ⟨viewArea, "Dispatch"⟩ v.dispatch.name),
      ("parameter_name", ofTextOption (v.declaredParameter.map Prod.fst)),
      ("parameter_type", ofTextOption (v.declaredParameter.map Prod.snd)),
      ("can_execute", .truth v.exposesCanExecute), ("warning", ofTextOption v.declaredWarning)] []

def texts (names : List String) : List Value := names.map .text

end Value

open Value

/-- Words that stand for a value in every template. -/
def constants : List (String × Value) :=
  [("true", .truth true), ("True", .truth true), ("false", .truth false),
    ("False", .truth false), ("none", .null), ("None", .null),
    ("range", .verbatim "<class 'range'>"), ("dict", .verbatim "<class 'dict'>")]

/-- The name of the view-model in templates. -/
def viewModelName : String := "view_model"

/-- What a template of a name is in itself. -/
def ownReference (template : String) : Value :=
  .verbatim ("<TemplateReference " ++ Text.quoted template ++ ">")

/-- The values of the template of a name for an adapter. -/
def context (c : Content) (template : String) : List (String × Value) :=
  constants ++
  [("self", ownReference template), ("adapter_name", .text c.adapterName),
    (viewModelName, ofViewModel c.viewModel), ("source_type", .text c.sourceType),
    ("disclaimer", .text Header.disclaimer), ("generated_at", .text c.time.headerText),
    ("imports", .row (texts c.imports.items)),
    ("properties", .list (c.properties.map ofPropertyView)),
    ("two_way_properties", .list (c.twoWayProperties.map ofPropertyView)),
    ("collections", .list (c.collections.map ofPropertyView)),
    ("commands", .list (c.commands.map ofCommandView)),
    ("custom_members", .list (texts c.customMembers)),
    ("warned_members", .list (texts c.warnedMembers))] ++
  match c.platform with
  | .android => [("package_name", .text c.package)]
  | .ios => []

end ViewAdapters.UserTemplate
