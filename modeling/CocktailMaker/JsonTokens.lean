import CocktailMaker.JsonDocument

/-!
# A codec on tokens

The texts of this codec are sequences of tokens: scalars, brackets, and a mark
before every element and every field.  A broken token stands for a value that
cannot be delivered.  Building writes the tokens of a document, and parsing
accepts exactly the sequences that are built, so that it keeps the whole
contract of a codec.
-/

namespace CocktailMaker

inductive JsonToken
  | openArray
  | nextElement
  | closeArray
  | openObject
  | key (name : String)
  | closeObject
  | null
  | bool (value : Bool)
  | integer (value : Int)
  | decimal (value : Rat)
  | string (value : String)
  | broken (reason : JsonError)
  deriving DecidableEq

namespace JsonToken

mutual

/-- The tokens of a value. -/
def ofJson : Json → List JsonToken
  | .null => [.null]
  | .bool value => [.bool value]
  | .integer value => [.integer value]
  | .decimal value => [.decimal value]
  | .string value => [.string value]
  | .array elements => .openArray :: ofElements elements
  | .object fields => .openObject :: ofFields fields
  | .error reason => [.broken reason]

def ofElements : List Json → List JsonToken
  | [] => [.closeArray]
  | element :: elements =>
      .nextElement :: (ofJson element ++ ofElements elements)

def ofFields : List (String × Json) → List JsonToken
  | [] => [.closeObject]
  | entry :: fields => .key entry.1 :: (ofEntry entry ++ ofFields fields)

def ofEntry : String × Json → List JsonToken
  | (_, value) => ofJson value

end

mutual

/-- Read a value and return what follows it, within a number of nested
calls. -/
def parseValue : Nat → List JsonToken → Option (Json × List JsonToken)
  | 0, _ => none
  | _ + 1, .null :: rest => some (.null, rest)
  | _ + 1, .bool value :: rest => some (.bool value, rest)
  | _ + 1, .integer value :: rest => some (.integer value, rest)
  | _ + 1, .decimal value :: rest => some (.decimal value, rest)
  | _ + 1, .string value :: rest => some (.string value, rest)
  | _ + 1, .broken reason :: rest => some (.error reason, rest)
  | fuel + 1, .openArray :: rest =>
      (parseElements fuel rest).map fun read => (.array read.1, read.2)
  | fuel + 1, .openObject :: rest =>
      (parseFields fuel rest).map fun read => (.object read.1, read.2)
  | _ + 1, _ => none

def parseElements : Nat → List JsonToken → Option (List Json × List JsonToken)
  | 0, _ => none
  | _ + 1, .closeArray :: rest => some ([], rest)
  | fuel + 1, .nextElement :: rest =>
      (parseValue fuel rest).bind fun value =>
        (parseElements fuel value.2).map fun elements =>
          (value.1 :: elements.1, elements.2)
  | _ + 1, _ => none

def parseFields :
    Nat → List JsonToken → Option (List (String × Json) × List JsonToken)
  | 0, _ => none
  | _ + 1, .closeObject :: rest => some ([], rest)
  | fuel + 1, .key name :: rest =>
      (parseValue fuel rest).bind fun value =>
        (parseFields fuel value.2).map fun fields =>
          ((name, value.1) :: fields.1, fields.2)
  | _ + 1, _ => none

end

mutual

/-- Parsing reads back a value and leaves what follows it. -/
theorem parseValue_ofJson (json : Json) (fuel : Nat) (rest : List JsonToken)
    (enough : (ofJson json).length < fuel) :
    parseValue fuel (ofJson json ++ rest) = some (json, rest) := by
  cases fuel with
  | zero => exact absurd enough (Nat.not_lt_zero _)
  | succ fuel =>
      cases json with
      | array elements =>
          simp only [ofJson, List.length_cons] at enough
          have readElements :=
            parseElements_ofElements elements fuel rest (by omega)
          simp only [ofJson, List.cons_append, parseValue, readElements,
            Option.map_some]
      | object fields =>
          simp only [ofJson, List.length_cons] at enough
          have readFields := parseFields_ofFields fields fuel rest (by omega)
          simp only [ofJson, List.cons_append, parseValue, readFields,
            Option.map_some]
      | _ => simp only [ofJson, List.cons_append, List.nil_append, parseValue]

theorem parseElements_ofElements (elements : List Json) (fuel : Nat)
    (rest : List JsonToken) (enough : (ofElements elements).length < fuel) :
    parseElements fuel (ofElements elements ++ rest) =
      some (elements, rest) := by
  cases fuel with
  | zero => exact absurd enough (Nat.not_lt_zero _)
  | succ fuel =>
      cases elements with
      | nil =>
          simp only [ofElements, List.cons_append, List.nil_append,
            parseElements]
      | cons element elements =>
          simp only [ofElements, List.length_cons, List.length_append]
            at enough
          have readElement := parseValue_ofJson element fuel
            (ofElements elements ++ rest) (by omega)
          have readRest :=
            parseElements_ofElements elements fuel rest (by omega)
          simp only [ofElements, List.cons_append, List.append_assoc,
            parseElements, readElement, readRest, Option.bind_some,
            Option.map_some]

theorem parseFields_ofFields (fields : List (String × Json)) (fuel : Nat)
    (rest : List JsonToken) (enough : (ofFields fields).length < fuel) :
    parseFields fuel (ofFields fields ++ rest) = some (fields, rest) := by
  cases fuel with
  | zero => exact absurd enough (Nat.not_lt_zero _)
  | succ fuel =>
      cases fields with
      | nil =>
          simp only [ofFields, List.cons_append, List.nil_append, parseFields]
      | cons entry fields =>
          simp only [ofFields, List.length_cons, List.length_append] at enough
          have readEntry := parseValue_ofEntry entry fuel
            (ofFields fields ++ rest) (by omega)
          have readRest := parseFields_ofFields fields fuel rest (by omega)
          simp only [ofFields, List.cons_append, List.append_assoc,
            parseFields, readEntry, readRest, Option.bind_some,
            Option.map_some]

theorem parseValue_ofEntry (entry : String × Json) (fuel : Nat)
    (rest : List JsonToken) (enough : (ofEntry entry).length < fuel) :
    parseValue fuel (ofEntry entry ++ rest) = some (entry.2, rest) := by
  cases entry with
  | mk name value => exact parseValue_ofJson value fuel rest enough

end

/-- No document continues another one. -/
theorem ofJson_append_inj {first second : Json} {rest : List JsonToken}
    (continued : ofJson first ++ rest = ofJson second) :
    first = second ∧ rest = [] := by
  let fuel := (ofJson second).length + (ofJson first).length + 1
  have readFirst := parseValue_ofJson first fuel rest (by omega)
  have readSecond := parseValue_ofJson second fuel [] (by omega)
  rw [List.append_nil, ← continued, readFirst] at readSecond
  simpa using readSecond

/-- Parse a whole text. -/
def iterate (text : List JsonToken) : Except JsonError Json :=
  if text = [] then .error .empty
  else
    match parseValue (text.length + 1) text with
    | some (json, []) =>
        if ofJson json = text then .ok json else .error .malformed
    | _ => .error .malformed

/-- The codec whose texts are sequences of tokens. -/
def codec : JsonCodec JsonToken where
  build := ofJson
  iterate := iterate

theorem ofJson_ne_nil (json : Json) : ofJson json ≠ [] := by
  cases json <;> simp [ofJson]

theorem iterate_ofJson (json : Json) : iterate (ofJson json) = .ok json := by
  have reads := parseValue_ofJson json ((ofJson json).length + 1) []
    (Nat.lt_succ_self _)
  rw [List.append_nil] at reads
  simp [iterate, ofJson_ne_nil, reads]

theorem ofJson_of_iterate {text : List JsonToken} {json : Json}
    (parsed : iterate text = .ok json) : ofJson json = text := by
  unfold iterate at parsed
  split at parsed
  · contradiction
  · split at parsed
    · split at parsed
      case isTrue same => exact Except.ok.inj parsed ▸ same
      case isFalse differs => contradiction
    · contradiction

theorem codec_undoesBuilder : codec.UndoesBuilder :=
  fun json _ => iterate_ofJson json

theorem codec_rejectsEmpty : codec.RejectsEmpty :=
  ⟨.empty, rfl⟩

/-- A text that ends too early is never accepted. -/
theorem codec_tearsTruncated : codec.TearsTruncated := by
  intro fields text complete truncated
  obtain ⟨rest, continued⟩ := truncated
  cases parsed : codec.iterate text with
  | error reason => exact Or.inl ⟨reason, rfl⟩
  | ok json =>
      right
      have built : ofJson json ++ rest = ofJson (.object fields) := by
        rw [ofJson_of_iterate parsed]
        exact continued
      obtain ⟨rfl, -⟩ := ofJson_append_inj built
      exact ⟨_, rfl, .whole _⟩

end JsonToken

end CocktailMaker
