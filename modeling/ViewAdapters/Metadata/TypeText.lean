import ViewAdapters.Model.Descriptor
import ViewAdapters.Text.Blank
import ViewAdapters.Text.Casing
import ViewAdapters.Text.WordChars

/-!
# Types in text

Reads the text of a type: a scalar by one of its names, a type with a question
mark, an array, a generic type with one argument, or the name of a type of the
source program. A generic type that is not known stays a scalar of that name,
so that one member falls back instead of the whole document failing.

Each layer of a type takes a call of the reader, and calls can be nested only so deep.

* `parse_eq`: a text is read by its outermost shape and the reading of its inner part.
* `Shape.inner_length_lt`: the inner part is shorter than the text.
* `parseWithin_eq`: calls suffice for a text exactly if they are as many as its layers.
-/

namespace ViewAdapters.TypeText

/-- The names of scalars, in small letters, with the kinds that they stand for. -/
def scalarNames : List (String × String) := [
  ("string", "string"), ("str", "string"), ("bool", "bool"), ("boolean", "bool"),
  ("char", "char"), ("sbyte", "int8"), ("int8", "int8"), ("byte", "uint8"),
  ("uint8", "uint8"), ("short", "int16"), ("int16", "int16"), ("int", "int32"),
  ("int32", "int32"), ("long", "int64"), ("int64", "int64"), ("float", "float"),
  ("single", "float"), ("double", "double"), ("decimal", "decimal"),
  ("datetime", "datetime"), ("datetimeoffset", "datetimeoffset"),
  ("timespan", "timespan"), ("guid", "uuid"), ("uuid", "uuid"), ("uri", "uri"),
  ("bytes", "bytes"), ("byte[]", "bytes"), ("object", "object"), ("dynamic", "object")]

/-- The kind of the scalar that a text names in any case. -/
def scalarKind? (cs : List Char) : Option String :=
  scalarNames.lookup (String.ofList (Text.lowerAfter [] cs))

/-- The generic types that have a meaning of their own. -/
inductive Generic where
  | observable
  | collection
  | nullable
  deriving DecidableEq, Repr

def genericNames : List (String × Generic) := [
  ("observable", .observable), ("observablecollection", .observable),
  ("list", .collection), ("collection", .collection), ("ilist", .collection),
  ("ienumerable", .collection), ("ireadonlylist", .collection),
  ("ireadonlycollection", .collection), ("array", .collection),
  ("nullable", .nullable)]

/-- The generic type that the last segment of a name stands for, in any case. -/
def generic? (name : List Char) : Option Generic :=
  genericNames.lookup (String.ofList (Text.lowerAfter [] (Text.lastSegmentChars name)))

def isNameStart (c : Char) : Bool := c.isAlpha || c == '_'

def isNameChar (c : Char) : Bool := Text.isWordChar c || c == '.'

/-- The argument between angle brackets, blanks at its ends removed. One with a
line break is none, nor is one that holds nothing but line breaks; one of other
blanks is empty. -/
def argument? (inside : List Char) : Option (List Char) :=
  if (Text.trimChars inside).isEmpty then
    if inside.any (· ≠ '\n') then some [] else none
  else if (Text.trimChars inside).contains '\n' then none
  else some (Text.trimChars inside)

/-- The name and the argument of a text `name<argument>`. -/
def splitGeneric? (cs : List Char) : Option (List Char × List Char) :=
  if cs.head?.any isNameStart then
    match (cs.dropWhile isNameChar).dropWhile Text.isBlank with
    | '<' :: r =>
      ((Text.dropEnding? ['>'] r).bind argument?).map fun argument =>
        (cs.takeWhile isNameChar, argument)
    | _ => none
  else none

/-- The outermost form of a type's text. -/
inductive Shape where
  | empty
  | optional (inner : List Char)
  | leaf (d : Descriptor)
  | array (inner : List Char)
  | applied (generic : Generic) (inner : List Char)
  deriving DecidableEq, Repr

/-- The text in front of a scalar kind that is given as such. -/
def scalarMark : List Char := "primitive:".toList

/-- The namespace of the scalars, which may stand in front of their names. -/
def scalarNamespace : List Char := "system.".toList

def startsWithAnyCase (mark cs : List Char) : Bool :=
  mark.isPrefixOf (Text.lowerAfter [] cs)

/-- The kind after `primitive:`, as it is written. -/
def markedKind? (cs : List Char) : Option String :=
  if startsWithAnyCase scalarMark cs then
    some (String.ofList (Text.trimChars ((cs.dropWhile (· ≠ ':')).drop 1)))
  else none

/-- The kind of a scalar that is named with its namespace. -/
def qualifiedKind? (cs : List Char) : Option String :=
  if startsWithAnyCase scalarNamespace cs then scalarKind? (cs.drop scalarNamespace.length)
  else none

/-- The shape of a text without blanks at its ends. -/
def shape (cs : List Char) : Shape :=
  if cs.isEmpty then .empty
  else
    match Text.dropEnding? ['?'] cs with
    | some inner => .optional inner
    | none =>
    match (markedKind? cs).or ((qualifiedKind? cs).or (scalarKind? cs)) with
    | some kind => .leaf (.primitive kind)
    | none =>
    match Text.dropEnding? ['[', ']'] cs with
    | some inner => .array inner
    | none =>
    match splitGeneric? cs with
    | none => .leaf (.reference (String.ofList cs))
    | some (name, argument) =>
      match generic? name with
      | some g => .applied g argument
      | none => .leaf (.primitive (String.ofList cs))

def Shape.inner? : Shape → Option (List Char)
  | .optional inner | .array inner | .applied _ inner => some inner
  | .empty | .leaf _ => none

/-- Why a text is no type. -/
inductive Error where
  | empty
  | nullableObservable (text : String)
  deriving DecidableEq, Repr

def Error.message : Error → String
  | .empty => "Empty type string"
  | .nullableObservable text => "Observable collections cannot be nullable: " ++ text

theorem length_trimStart_le (cs : List Char) : (Text.trimStartChars cs).length ≤ cs.length :=
  (List.dropWhile_suffix _).length_le

theorem length_trim_le (cs : List Char) : (Text.trimChars cs).length ≤ cs.length := by
  have h := length_trimStart_le (Text.trimStartChars cs).reverse
  rw [List.length_reverse] at h
  have h2 : (Text.trimChars cs).length =
      (Text.trimStartChars (Text.trimStartChars cs).reverse).length := by
    simp [Text.trimChars, Text.trimEndChars, Text.trimStartChars]
  have := length_trimStart_le cs
  omega

theorem length_argument_le {inside argument : List Char} (h : argument? inside = some argument) :
    argument.length ≤ inside.length := by
  unfold argument? at h
  split at h
  · split at h <;> cases h
    simp
  · split at h <;> cases h
    exact length_trim_le inside

theorem length_splitGeneric {cs name argument : List Char}
    (h : splitGeneric? cs = some (name, argument)) : argument.length < cs.length := by
  unfold splitGeneric? at h
  split at h <;> try contradiction
  split at h <;> try contradiction
  rename_i rest hRest
  have hLen : (('<' :: rest : List Char)).length ≤ cs.length := by
    rw [← hRest]
    exact ((List.dropWhile_suffix _).trans (List.dropWhile_suffix _)).length_le
  simp only [Option.map_eq_some_iff, Option.bind_eq_some_iff, Prod.mk.injEq] at h
  obtain ⟨a, ⟨inside, hInside, hArgument⟩, -, rfl⟩ := h
  have hIn := congrArg List.length (Text.dropEnding?_eq_some_iff.1 hInside)
  have hArg := length_argument_le hArgument
  simp at hIn hLen
  omega

theorem Shape.inner_length_lt {cs inner : List Char} (h : (shape cs).inner? = some inner) :
    inner.length < cs.length := by
  unfold shape at h
  split at h
  · contradiction
  split at h
  · rename_i front hFront
    cases h
    exact Text.length_lt_of_dropEnding? (List.cons_ne_nil _ _) hFront
  split at h
  · contradiction
  split at h
  · rename_i front hFront
    cases h
    exact Text.length_lt_of_dropEnding? (List.cons_ne_nil _ _) hFront
  split at h
  · contradiction
  · rename_i name argument hSplit
    split at h
    · cases h
      exact length_splitGeneric hSplit
    · contradiction

/-- What a type's text denotes: the type, and whether it is an observable collection. -/
abbrev Reading := Descriptor × Bool

/-- The reading of a text from its shape and the reading of its inner part. -/
def Shape.read (text : List Char) (inner : Except Error Reading) : Shape → Except Error Reading
  | .empty => .error .empty
  | .leaf d => .ok (d, false)
  | .optional _ => do
    let (d, isObservable) ← inner
    if isObservable then throw (.nullableObservable (String.ofList text))
    return (.nullable d, false)
  | .array _ => do return (.collection (← inner).1, false)
  | .applied .observable _ => do return (.collection (← inner).1, true)
  | .applied .collection _ => do return (.collection (← inner).1, false)
  | .applied .nullable _ => do return (.nullable (← inner).1, false)

def parseChars (cs : List Char) : Except Error Reading :=
  let s := shape (Text.trimChars cs)
  match _h : s.inner? with
  | none => s.read cs (.error .empty)
  | some inner => s.read cs (parseChars inner)
termination_by cs.length
decreasing_by
  exact Nat.lt_of_lt_of_le (Shape.inner_length_lt _h) (length_trim_le cs)

/-- Reads the text of a type. -/
def parse (text : String) : Except Error Reading := parseChars text.toList

/-- The reading of a text by a number of nested calls, if they suffice. -/
def parseWithin : (calls : Nat) → List Char → Option (Except Error Reading)
  | 0, _ => none
  | calls + 1, cs =>
    let s := shape (Text.trimChars cs)
    match s.inner? with
    | none => some (s.read cs (.error .empty))
    | some inner => (parseWithin calls inner).map fun reading => s.read cs reading

/-- How many layers a text has, its innermost part included. -/
def layers (cs : List Char) : Nat :=
  match _h : (shape (Text.trimChars cs)).inner? with
  | none => 1
  | some inner => layers inner + 1
termination_by cs.length
decreasing_by
  exact Nat.lt_of_lt_of_le (Shape.inner_length_lt _h) (length_trim_le cs)

theorem parse_eq (cs : List Char) :
    parseChars cs = (shape (Text.trimChars cs)).read cs
      (match (shape (Text.trimChars cs)).inner? with
        | none => .error .empty
        | some inner => parseChars inner) := by
  rw [parseChars]
  split <;> rename_i h <;> simp [h]

theorem layers_eq (cs : List Char) :
    layers cs = (shape (Text.trimChars cs)).inner?.elim 1 fun inner => layers inner + 1 := by
  rw [layers]
  split <;> rename_i h <;> simp [h]

/-- Calls suffice for a text exactly if they are as many as its layers. -/
theorem parseWithin_eq (calls : Nat) (cs : List Char) :
    parseWithin calls cs = if layers cs ≤ calls then some (parseChars cs) else none := by
  induction calls generalizing cs with
  | zero =>
    have hSome : ¬ layers cs ≤ 0 := by
      rw [layers_eq]
      cases (shape (Text.trimChars cs)).inner? <;> simp
    rw [if_neg hSome, parseWithin]
  | succ calls ih =>
    rw [parseWithin, parse_eq, layers_eq]
    cases (shape (Text.trimChars cs)).inner? with
    | none => simp
    | some inner =>
      by_cases hEnough : layers inner ≤ calls <;> simp [ih, hEnough]

end ViewAdapters.TypeText
