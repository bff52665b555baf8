import ViewAdapters.Target.Resolution

/-!
# Conversion of values

Dates cross the border between source and target in a form of their own: Kotlin
receives them as ISO 8601 text and Swift as values of Foundation. A conversion
is an expression that applies a template to every scalar of a value, inside
closures for what may be absent and for lists.

* `Expr.convert_identity`: a template that changes nothing leaves an expression as it is.
* `convertElements_eq_none_iff`: elements pass through unconverted exactly if no
  template applies to them.
-/

namespace ViewAdapters.Target

/-- A text with places for a value: `none` stands for the value. -/
abbrev Template := List (Option String)

namespace Template

/-- The template that is the value itself. -/
def identity : Template := [none]

def fill (t : Template) (value : String) : String := String.join (t.map (·.getD value))

/-- A text in front of the value and one behind it. -/
def around (before after : String) : Template := [some before, none, some after]

theorem fill_around (before after s : String) :
    (around before after).fill s = before ++ s ++ after := by
  simp [around, fill, String.join_cons, String.append_assoc]

end Template

def parsed (typeName : String) : Template := Template.around (typeName ++ ".parse(") ".toString())"

/-- How a date of a meaning is made from its source form. -/
def toTarget : Platform → DateSemantics → Template
  | .android, .localDateTime => parsed "LocalDateTime"
  | .android, .utcInstant => parsed "Instant"
  | .android, .dateOnly => parsed "LocalDate"
  | .android, .timeOnly => parsed "LocalTime"
  | .android, .duration => parsed "Duration"
  | .android, .zonedDateTime => parsed "ZonedDateTime"
  | .ios, .localDateTime => Template.identity
  | .ios, .utcInstant => Template.around "Date(timeIntervalSince1970: " ".timeIntervalSince1970)"
  | .ios, .dateOnly =>
    Template.around "Calendar.current.dateComponents([.year, .month, .day], from: " ")"
  | .ios, .timeOnly =>
    Template.around "Calendar.current.dateComponents([.hour, .minute, .second], from: " ")"
  | .ios, .duration => Template.around "TimeInterval(" ")"
  | .ios, .zonedDateTime =>
    Template.around
      ("Calendar.current.date(from: " ++
        "Calendar.current.dateComponents(in: TimeZone.current, from: ") ")) ?? " ++ [none]

/-- How the source form of a date of a meaning is made from it. -/
def toSource : Platform → DateSemantics → Template
  | .android, _ => Template.around "" ".toString()"
  | .ios, .dateOnly => Template.around "Calendar.current.date(from: " ") ?? Date()"
  | .ios, .timeOnly => Template.around "Calendar.current.date(from: " ") ?? Date()"
  | .ios, _ => Template.identity

/-- An expression of the target language that converts a value. -/
inductive Expr where
  /-- The expression of the whole value. -/
  | given (text : String)
  /-- What the innermost closure is called with. -/
  | item
  | filled (template : Template) (value : Expr)
  /-- The body for a value that is there. -/
  | ifPresent (value body : Expr)
  /-- The body for each element. -/
  | each (list body : Expr)
  deriving DecidableEq, Repr

namespace Expr

/-- The name of what a closure is called with. -/
def itemName : Platform → String
  | .android => "it"
  | .ios => "$0"

/-- A call of a function with a closure. -/
def closure (value call body : String) : String :=
  value ++ call ++ " \x7b " ++ body ++ " \x7d"

def ifPresentCall : Platform → String
  | .android => "?.let"
  | .ios => ".map"

def text (platform : Platform) : Expr → String
  | .given s => s
  | .item => itemName platform
  | .filled template value => template.fill (value.text platform)
  | .ifPresent value body =>
    closure (value.text platform) (ifPresentCall platform) (body.text platform)
  | .each list body => closure (list.text platform) ".map" (body.text platform)

/-- Applies a template that changes something to the scalars of a value. -/
def mapLeaf (template : Template) (value : Expr) : Descriptor → Expr
  | .nullable d => .ifPresent value (mapLeaf template .item d)
  | .collection d => .each value (mapLeaf template .item d)
  | .reference _ => value
  | .primitive _ | .foreign _ => .filled template value

/-- Converts a value of a type. -/
def convert (template : Template) (d : Descriptor) (value : Expr) : Expr :=
  if template = Template.identity then value else mapLeaf template value d

theorem convert_identity (d : Descriptor) (value : Expr) :
    convert Template.identity d value = value := by simp [convert]

end Expr

/-- The meaning of a property that the platform's override does not hide. -/
def conversionSemantics (platform : Platform) (p : Property) : Option DateSemantics :=
  if (p.overrideFor platform).isSome then none else p.dateSemantics

/-- Converts a value of a plain property; that of an observable collection is not converted. -/
def convertValue (templates : Platform → DateSemantics → Template) (platform : Platform)
    (p : Property) (expression : String) : Expr :=
  match conversionSemantics platform p with
  | none => .given expression
  | some semantics =>
    if p.isObservable then .given expression
    else Expr.convert (templates platform semantics) p.type (.given expression)

/-- The expression that makes the target value of a property. -/
def toTargetExpr (platform : Platform) (p : Property) (expression : String) : Expr :=
  convertValue toTarget platform p expression

/-- The expression that makes the source value of a property. -/
def toSourceExpr (platform : Platform) (p : Property) (expression : String) : Expr :=
  convertValue toSource platform p expression

/-- The conversion of the elements of an observable collection; `none` if they stay as they are. -/
def convertElements (platform : Platform) (p : Property) (expression : String) : Option Expr := do
  let semantics ← conversionSemantics platform p
  let element ← p.element
  if toTarget platform semantics = Template.identity then none
  else some (Expr.convert (toTarget platform semantics) (.collection element) (.given expression))

theorem convertElements_eq_none_iff {platform : Platform} {p : Property} {expression : String} :
    convertElements platform p expression = none ↔
      p.element = none ∨
        ∀ semantics ∈ conversionSemantics platform p,
          toTarget platform semantics = Template.identity := by
  unfold convertElements
  cases conversionSemantics platform p <;> cases p.element <;> simp

end ViewAdapters.Target
