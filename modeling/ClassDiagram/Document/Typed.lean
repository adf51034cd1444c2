import ClassDiagram.Document.Structure

/-!
# Values of an expected type

Readers for texts, lists, choices and records.  A record is described by its fields and can be
written as an object or as the list of its fields in order; a choice is a text, or an object with
that text as its only key and `null` under it.
-/

namespace ClassDiagram.Document

open Reader

variable {α σ : Type}

def text (expected : String) : Reader String := do
  if (← valueToken) = '"' then
    advance
    textBody
  else
    mismatch expected

def anyText : Reader String := text "a string"

/-- Reads a text or `null`. -/
def optionalText : Reader (Option String) := do
  if (← token) = some 'n' then
    advance
    word ['u', 'l', 'l']
    pure none
  else
    some <$> anyText

/-- Reads a list, where so many levels are left. -/
def list (left : Nat) (reader : Reader α) : Reader (List α) := do
  if (← valueToken) = '[' then
    descend (left - 1) (inside (elements false reader) closeList)
  else
    mismatch "a sequence"

/-- One of two variants. -/
def pick (first second : String × α) (found : String) : Except Cause α :=
  if found = first.1 then .ok first.2
  else if found = second.1 then .ok second.2
  else .error (.unknownVariant found first.1 second.1)

/-- Reads a choice between two variants, where so many levels are left. -/
def variant (left : Nat) (first second : String × α) : Reader α := do
  match ← token with
  | none => failAhead .endInValue
  | some '"' =>
    advance
    let found ← textBody
    placed (ofExcept (pick first second found))
  | some '\x7b' => descend (left - 1) do
    match ← token with
    | some '"' =>
      advance
      let found ← textBody
      let chosen ← placed (ofExcept (pick first second found))
      colon
      if (← valueToken) = 'n' then
        advance
        word ['u', 'l', 'l']
      else
        mismatch "unit"
      match ← token with
      | some '\x7d' =>
        advance
        pure chosen
      | some _ => fail .noValue
      | none => fail .endInObject
    | some '\x7d' => failAhead .noValue
    | some _ => failAhead .keyNoText
    | none => failAhead .endInObject
  | some _ => failAhead .noValue

/-- A field of a record that is being read into a state, from a source of type `F`. -/
structure Field (F : Type → Type) (σ : Type) where
  key : String
  /-- Whether the record cannot be written as a list that ends before this field. -/
  required : Bool
  isSet : σ → Bool
  read : σ → F σ

/-- Reads the fields of a record from a list, from the one at `index` on. -/
def positionalFields (expected : String) : Nat → List (Field Reader σ) → σ → Reader σ
  | _, [], state => pure state
  | index, field :: more, state => do
    if ← nextElement (index == 0) then
      let state ← field.read state
      positionalFields expected (index + 1) more state
    else if field.required then
      refuse (.badLength index expected)
    else
      positionalFields expected (index + 1) more state

/-- Reads the fields of a record from an object.  A field that the record does not have is
skipped. -/
def keyedFields (known : List (Field Reader σ)) (start : σ) : Reader σ :=
  fields (fun state key =>
    match known.find? (·.key == key) with
    | some field =>
      if field.isSet state then
        refuse (.duplicateField key)
      else do
        colon
        field.read state
    | none => do
      colon
      skipValue
      pure state) start

/-- Reads a record, where so many levels are left; `finish` says what is missing. -/
def record (left : Nat) (name : String) (known : List (Field Reader σ)) (start : σ)
    (finish : σ → Except Cause α) : Reader α := do
  match ← valueToken with
  | '[' =>
    let expected := "struct " ++ name ++ " with " ++ toString known.length ++ " elements"
    descend (left - 1) (inside (do
      let state ← positionalFields expected 0 known start
      ofExcept (finish state)) closeList)
  | '\x7b' =>
    descend (left - 1) (inside (do
      let state ← keyedFields known start
      ofExcept (finish state)) closeObject)
  | _ => mismatch ("struct " ++ name)

/-- A field that has to be there. -/
def present (key : String) : Option α → Except Cause α
  | some value => .ok value
  | none => .error (.missingField key)

/-! ### Records among values that were read before -/

/-- A source of fields that were read before. -/
abbrev FromValue (σ : Type) : Type := Value → Except Cause σ

/-- How several elements are called in a message. -/
def elementCount (count : Nat) : String :=
  toString count ++ (if count = 1 then " element" else " elements")

/-- The fields of a record from a list of values, from the one at `index` on. -/
def fieldsOfList (expected : String) : Nat → List (Field FromValue σ) → List Value → σ →
    Except Cause σ
  | _, [], _, state => .ok state
  | index, field :: more, values, state =>
    match values with
    | value :: rest => do
      let state ← field.read state value
      fieldsOfList expected (index + 1) more rest state
    | [] =>
      if field.required then .error (.badLength index expected)
      else fieldsOfList expected (index + 1) more [] state

/-- The fields of a record from the fields of an object. -/
def fieldsOfObject (known : List (Field FromValue σ)) (entries : List (String × Value))
    (start : σ) : Except Cause σ :=
  entries.foldlM (fun state entry =>
    match known.find? (·.key == entry.1) with
    | some field =>
      if field.isSet state then .error (.duplicateField entry.1) else field.read state entry.2
    | none => .ok state) start

/-- The record of a value that is a list or an object. -/
def recordOf (name : String) (known : List (Field FromValue σ)) (start : σ) : Value →
    Except Cause σ
  | .list values => do
    let state ← fieldsOfList (name ++ " with " ++ elementCount known.length) 0 known values start
    if known.length < values.length then
      .error (.badLength values.length (elementCount known.length ++ " in sequence"))
    else
      .ok state
  | .object entries => fieldsOfObject known entries start
  | other => .error (.unexpected other name)

def textOf : Value → Except Cause String
  | .text content => .ok content
  | other => .error (.unexpected other "a string")

def optionalTextOf : Value → Except Cause (Option String)
  | .null => .ok none
  | value => (textOf value).map some

def textsOf : Value → Except Cause (List String)
  | .list values => values.mapM textOf
  | other => .error (.unexpected other "a sequence")

def boolOf : Value → Except Cause Bool
  | .bool value => .ok value
  | other => .error (.unexpected other "a boolean")

end ClassDiagram.Document
