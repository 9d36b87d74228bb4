import CocktailMaker.Binary64
import Mathlib.Data.List.Infix

/-!
# JSON documents

A document is read lazily: a value in it may turn out to be broken only when it
is asked for, which is what an `error` value stands for.  The accessors return
a value of the asked type or an error.  A codec builds the text of a document
and reads a text back; its contract says what may be relied on.
-/

namespace CocktailMaker

/-- Why a value cannot be delivered. -/
inductive JsonError
  | empty
  | incorrectType
  | noSuchField
  | numberError
  | malformed
  deriving DecidableEq

theorem except_bind_eq_ok {Reason First Second : Type}
    {first : Except Reason First} {next : First → Except Reason Second}
    {value : Second} :
    (first >>= next) = .ok value ↔
      ∃ read, first = .ok read ∧ next read = .ok value := by
  cases first with
  | error reason => simp [bind, Except.bind]
  | ok read => simp [bind, Except.bind]

/-- A JSON value as it is read: numbers with a fraction or an exponent are
decimals. -/
inductive Json
  | null
  | bool (value : Bool)
  | integer (value : Int)
  | decimal (value : Rat)
  | string (value : String)
  | array (elements : List Json)
  | object (fields : List (String × Json))
  | error (reason : JsonError)

namespace Json

section Accessors

def getString : Json → Except JsonError String
  | .string value => .ok value
  | .error reason => .error reason
  | _ => .error .incorrectType

/-- A number without fraction that fits into 64 bits. -/
def getInt64 : Json → Except JsonError Int
  | .integer value =>
      if -9223372036854775808 ≤ value ∧ value ≤ 9223372036854775807 then
        .ok value
      else .error .incorrectType
  | .error reason => .error reason
  | _ => .error .incorrectType

/-- Any number, exactly. -/
def getNumber : Json → Except JsonError Rat
  | .integer value => .ok value
  | .decimal value => .ok value
  | .error reason => .error reason
  | _ => .error .incorrectType

/-- The double that is nearest to a number, unless it is infinite. -/
def getDouble (json : Json) : Except JsonError Float := do
  let number ← json.getNumber
  let double := Binary64.ofRat number
  if double.isInf then throw .numberError
  return double

def getArray : Json → Except JsonError (List Json)
  | .array elements => .ok elements
  | .error reason => .error reason
  | _ => .error .incorrectType

def getObject : Json → Except JsonError (List (String × Json))
  | .object fields => .ok fields
  | .error reason => .error reason
  | _ => .error .incorrectType

/-- The value of a key of an object; an error when there is none. -/
def field (fields : List (String × Json)) (key : String) : Json :=
  match fields.find? fun entry => entry.1 = key with
  | some entry => entry.2
  | none => .error .noSuchField

end Accessors

/-- Nothing in the document is broken. -/
inductive Complete : Json → Prop
  | null : Complete .null
  | bool (value : Bool) : Complete (.bool value)
  | integer (value : Int) : Complete (.integer value)
  | decimal (value : Rat) : Complete (.decimal value)
  | string (value : String) : Complete (.string value)
  | array {elements : List Json}
      (complete : ∀ element ∈ elements, Complete element) :
      Complete (.array elements)
  | object {fields : List (String × Json)}
      (complete : ∀ entry ∈ fields, Complete entry.2) :
      Complete (.object fields)

/-- What may be left of a document whose text ends too early: everything up to
the end of the text is as it was, and what comes next is an error. -/
inductive Torn : Json → Json → Prop
  | whole (json : Json) : Torn json json
  | lost (json : Json) (reason : JsonError) : Torn json (.error reason)
  | array {before after : List Json} {element torn : Json}
      (tornElement : Torn element torn) :
      Torn (.array (before ++ element :: after)) (.array (before ++ [torn]))
  | arrayEnd (elements : List Json) (reason : JsonError) :
      Torn (.array elements) (.array (elements ++ [.error reason]))
  | object {before after : List (String × Json)} {key : String}
      {value torn : Json} (tornValue : Torn value torn) :
      Torn (.object (before ++ (key, value) :: after))
        (.object (before ++ [(key, torn)]))
  | objectEnd (before after : List (String × Json)) :
      Torn (.object (before ++ after)) (.object before)

namespace Torn

variable {json torn : Json}

/-- What can still be read of a torn value is as it was. -/
theorem getString_eq_ok (tears : Torn json torn) {value : String}
    (read : torn.getString = .ok value) : json.getString = .ok value := by
  cases tears <;> first | exact read | cases read

theorem getInt64_eq_ok (tears : Torn json torn) {value : Int}
    (read : torn.getInt64 = .ok value) : json.getInt64 = .ok value := by
  cases tears <;> first | exact read | cases read

theorem getNumber_eq_ok (tears : Torn json torn) {value : Rat}
    (read : torn.getNumber = .ok value) : json.getNumber = .ok value := by
  cases tears <;> first | exact read | cases read

theorem field_append_of_mem {before : List (String × Json)} {key : String}
    (member : key ∈ before.map Prod.fst) (after : List (String × Json)) :
    field (before ++ after) key = field before key := by
  obtain ⟨entry, inBefore, hasKey⟩ := List.mem_map.mp member
  unfold field
  rw [List.find?_append]
  cases found : before.find? fun entry => entry.1 = key with
  | none =>
      have notKey := List.find?_eq_none.mp found entry inBefore
      simp [hasKey] at notKey
  | some first => rfl

theorem field_append_of_notMem {before : List (String × Json)} {key : String}
    (absent : key ∉ before.map Prod.fst) (after : List (String × Json)) :
    field (before ++ after) key = field after key := by
  have notFound : before.find? (fun entry => entry.1 = key) = none := by
    refine List.find?_eq_none.mpr fun entry member hasKey => absent ?_
    exact List.mem_map.mpr ⟨entry, member, by simpa using hasKey⟩
  unfold field
  rw [List.find?_append, notFound, Option.none_or]

theorem getObject_eq_ok (tears : Torn json torn)
    {read : List (String × Json)} (isObject : torn.getObject = .ok read) :
    ∃ fields, json.getObject = .ok fields ∧
      ∀ key, Torn (field fields key) (field read key) := by
  cases tears with
  | whole => exact ⟨read, isObject, fun key => .whole _⟩
  | lost _ reason => cases isObject
  | array => cases isObject
  | arrayEnd => cases isObject
  | @object before after name value torn tornValue =>
      obtain rfl := Except.ok.inj isObject
      refine ⟨_, rfl, fun key => ?_⟩
      by_cases member : key ∈ before.map Prod.fst
      · rw [field_append_of_mem member, field_append_of_mem member]
        exact .whole _
      · rw [field_append_of_notMem member, field_append_of_notMem member]
        by_cases same : name = key
        · simpa [field, same] using tornValue
        · have missing : field [(name, torn)] key = .error .noSuchField := by
            simp [field, same]
          rw [missing]
          exact .lost _ _
  | objectEnd before after =>
      obtain rfl := Except.ok.inj isObject
      refine ⟨_, rfl, fun key => ?_⟩
      by_cases member : key ∈ before.map Prod.fst
      · rw [field_append_of_mem member]
        exact .whole _
      · have missing := field_append_of_notMem member []
        rw [List.append_nil] at missing
        rw [missing]
        exact .lost _ _

theorem getArray_eq_ok (tears : Torn json torn) {read : List Json}
    (isArray : torn.getArray = .ok read) :
    ∃ elements, json.getArray = .ok elements ∧
      ∃ before rest last, elements = before ++ rest ∧ read = before ++ last ∧
        (last = rest ∨ (∃ reason, last = [.error reason]) ∨
          ∃ element after torn, rest = element :: after ∧ last = [torn] ∧
            Torn element torn) := by
  cases tears with
  | whole =>
      exact ⟨read, isArray, [], read, read, rfl, rfl, Or.inl rfl⟩
  | lost _ reason => cases isArray
  | object => cases isArray
  | objectEnd => cases isArray
  | @array before after element torn tornElement =>
      obtain rfl := Except.ok.inj isArray
      exact ⟨_, rfl, before, element :: after, [torn], rfl, rfl,
        Or.inr (Or.inr ⟨element, after, torn, rfl, rfl, tornElement⟩)⟩
  | arrayEnd elements reason =>
      obtain rfl := Except.ok.inj isArray
      exact ⟨elements, rfl, elements, [], [.error reason],
        (List.append_nil _).symm, rfl, Or.inr (Or.inl ⟨reason, rfl⟩)⟩

theorem mem_getArray (tears : Torn json torn) {read : List Json}
    (isArray : torn.getArray = .ok read) :
    ∃ elements, json.getArray = .ok elements ∧ ∀ value ∈ read,
      (∃ reason, value = .error reason) ∨
        ∃ element ∈ elements, Torn element value := by
  obtain ⟨elements, whole, before, rest, last, rfl, rfl, ending⟩ :=
    tears.getArray_eq_ok isArray
  refine ⟨_, whole, fun value member => ?_⟩
  rcases List.mem_append.mp member with inBefore | inLast
  · exact Or.inr ⟨value, List.mem_append_left _ inBefore, .whole value⟩
  · rcases ending with rfl | ⟨reason, rfl⟩ | ⟨element, after, torn, rfl, rfl,
      tornElement⟩
    · exact Or.inr ⟨value, List.mem_append_right _ inLast, .whole value⟩
    · exact Or.inl ⟨reason, List.mem_singleton.mp inLast⟩
    · obtain rfl := List.mem_singleton.mp inLast
      exact Or.inr ⟨element, by simp, tornElement⟩

/-- The numbers of a torn array are the first numbers of the array. -/
theorem getNumber_getArray (tears : Torn json torn) {read : List Json}
    (isArray : torn.getArray = .ok read) :
    ∃ elements, json.getArray = .ok elements ∧
      read.filterMap (fun value => value.getNumber.toOption) <+:
        elements.filterMap fun value => value.getNumber.toOption := by
  obtain ⟨elements, whole, before, rest, last, rfl, rfl, ending⟩ :=
    tears.getArray_eq_ok isArray
  refine ⟨_, whole, ?_⟩
  rw [List.filterMap_append, List.filterMap_append, List.prefix_append_right_inj]
  rcases ending with rfl | ⟨reason, rfl⟩ | ⟨element, after, torn, rfl, rfl,
    tornElement⟩
  · exact List.prefix_rfl
  · exact List.nil_prefix
  · cases number : torn.getNumber with
    | error reason =>
        have none : [torn].filterMap (fun value => value.getNumber.toOption) =
            [] := by
          simp [number, Except.toOption]
        exact none ▸ List.nil_prefix
    | ok value =>
        have sameNumber := tornElement.getNumber_eq_ok number
        simp [number, sameNumber, Except.toOption]

end Torn

end Json

/-- A builder of texts and a parser that delivers documents. -/
structure JsonCodec (Byte : Type*) where
  build : Json → List Byte
  iterate : List Byte → Except JsonError Json

namespace JsonCodec

variable {Byte : Type*}

/-- Parsing a complete document undoes the builder. -/
def UndoesBuilder (codec : JsonCodec Byte) : Prop :=
  ∀ json, json.Complete → codec.iterate (codec.build json) = .ok json

/-- An empty document is a parse error. -/
def RejectsEmpty (codec : JsonCodec Byte) : Prop :=
  ∃ error, codec.iterate [] = .error error

/-- The text of an object that ends too early is a parse error or delivers a
torn document. -/
def TearsTruncated (codec : JsonCodec Byte) : Prop :=
  ∀ fields text, (Json.object fields).Complete →
    text <+: codec.build (.object fields) →
      (∃ error, codec.iterate text = .error error) ∨
        ∃ torn, codec.iterate text = .ok torn ∧
          Json.Torn (.object fields) torn

end JsonCodec

section Files

/-- What is found at a path. -/
inductive File (Byte : Type*)
  | missing
  | unreadable
  | content (bytes : List Byte)

/-- How far truncating a file and writing into it comes. -/
inductive WriteOutcome
  | notOpened
  | stoppedAfter (written : Nat)
  | finished

variable {Byte : Type*}

def File.write (file : File Byte) (outcome : WriteOutcome)
    (text : List Byte) : File Byte :=
  match outcome with
  | .notOpened => file
  | .stoppedAfter written => .content (text.take written)
  | .finished => .content text

/-- The array under a key of the document in a file. -/
def File.storedArray (file : File Byte) (codec : JsonCodec Byte)
    (key : String) : Option (List Json) :=
  match file with
  | .missing => none
  | .unreadable => none
  | .content bytes =>
      match codec.iterate bytes with
      | .error _ => none
      | .ok doc =>
          match doc.getObject with
          | .error _ => none
          | .ok fields => (Json.field fields key).getArray.toOption

theorem File.storedArray_of_iterate {codec : JsonCodec Byte}
    {bytes : List Byte} {fields : List (String × Json)}
    (parsed : codec.iterate bytes = .ok (.object fields)) (key : String) :
    (File.content bytes).storedArray codec key =
      (Json.field fields key).getArray.toOption := by
  simp [File.storedArray, parsed, Json.getObject]

theorem File.storedArray_of_error {codec : JsonCodec Byte}
    {bytes : List Byte} {reason : JsonError}
    (failed : codec.iterate bytes = .error reason) (key : String) :
    (File.content bytes).storedArray codec key = none := by
  simp [File.storedArray, failed]

/-- The array that is read from a text that ends too early is torn. -/
theorem File.storedArray_torn {codec : JsonCodec Byte}
    (tears : codec.TearsTruncated) {fields : List (String × Json)}
    (complete : (Json.object fields).Complete) {text : List Byte}
    (truncated : text <+: codec.build (.object fields)) {key : String}
    {read : List Json}
    (stored : (File.content text).storedArray codec key = some read) :
    ∃ torn, Json.Torn (Json.field fields key) torn ∧
      torn.getArray = .ok read := by
  rcases tears fields text complete truncated with
    ⟨reason, failed⟩ | ⟨torn, parsed, tornDocument⟩
  · rw [File.storedArray_of_error failed] at stored
    cases stored
  · cases isObject : torn.getObject with
    | error reason =>
        simp [File.storedArray, parsed, isObject] at stored
    | ok tornFields =>
        obtain ⟨sameFields, whole, tornField⟩ :=
          tornDocument.getObject_eq_ok isObject
        obtain rfl := Except.ok.inj whole
        refine ⟨_, tornField key, ?_⟩
        cases array : (Json.field tornFields key).getArray with
        | error reason =>
            simp [File.storedArray, parsed, isObject, array,
              Except.toOption] at stored
        | ok elements =>
            simp only [File.storedArray, parsed, isObject, array,
              Except.toOption, Option.some.injEq] at stored
            rw [stored]

end Files

end CocktailMaker
