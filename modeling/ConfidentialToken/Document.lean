import ConfidentialToken.Error

/-!
# Documents

A document is how values are exchanged with programs that do not use the wire form: a tree of named
fields. A form pairs reading a value from a document with writing it as one.
-/

namespace ConfidentialToken

/-- A tree of named fields. -/
inductive Document where
  | null
  | bool (value : Bool)
  | number (value : Nat)
  | text (value : String)
  | list (items : List Document)
  | fields (entries : List (String × Document))
deriving Inhabited

namespace Document

/-- The field with a name, or null if there is none. -/
def field (document : Document) (name : String) : Document :=
  match document with
  | fields entries => (entries.lookup name).getD null
  | _ => null

/-- The items of a list. -/
def items : Document → Outcome (List Document)
  | list items => .ok items
  | _ => .error <| .malformed "expected a list"

/-- The entries of a record. -/
def entries : Document → Outcome (List (String × Document))
  | fields entries => .ok entries
  | _ => .error <| .malformed "expected named fields"

/-- The document of a result: its value, or the error. -/
def ofOutcome {α : Type} (onOk : α → Document) (onError : Error → Document) :
    Outcome α → Document
  | .ok value => fields [("ok", onOk value)]
  | .error e => onError e

end Document

/-- How a value is read from a document and written as one. -/
structure Form (α : Type) where
  read : Document → Outcome α
  write : α → Document

namespace Form

variable {α β : Type}

/-! ## Fields -/

/-- Reads a field. -/
def get (form : Form α) (document : Document) (name : String) : Outcome α :=
  form.read (document.field name)

/-- Reads a field that may be missing or null. -/
def get? (form : Form α) (document : Document) (name : String) : Outcome (Option α) :=
  match document.field name with
  | .null => .ok none
  | value => (form.read value).map some

/-- Reads a field that has a default. -/
def getD (form : Form α) (document : Document) (name : String) (default : α) : Outcome α := do
  return (← form.get? document name).getD default

/-! ## Combinations -/

/-- A record: how its fields are read and written. -/
def record (read : Document → Outcome α) (write : α → List (String × Document)) : Form α :=
  ⟨read, fun value => .fields (write value)⟩

/-- A type made of some values of another; the others are an error. -/
def refine (form : Form α) (make : α → Outcome β) (unmake : β → α) : Form β :=
  ⟨fun document => do make (← form.read document), fun value => form.write (unmake value)⟩

/-- A list of values. -/
def list (form : Form α) : Form (List α) :=
  ⟨fun document => do (← document.items).mapM form.read, fun values => .list (values.map form.write)⟩

/-- A value that may be null. -/
def option (form : Form α) : Form (Option α) where
  read
    | .null => .ok none
    | document => (form.read document).map some
  write
    | none => .null
    | some value => form.write value

/-- Named entries that all have one form. -/
def map (form : Form α) : Form (SortedMap String α) where
  read document := do
    let entries ← (← document.entries).mapM fun (key, value) => do return (key, ← form.read value)
    return .ofList entries
  write values := .fields (values.entries.map fun (key, value) => (key, form.write value))

/-! ## Plain values -/

/-- Text. -/
def text : Form String where
  read
    | .text value => .ok value
    | _ => .error <| .malformed "expected text"
  write := .text

/-- A truth value. -/
def bool : Form Bool where
  read
    | .bool value => .ok value
    | _ => .error <| .malformed "expected a truth value"
  write := .bool

/-- A number. -/
def nat : Form Nat where
  read
    | .number value => .ok value
    | _ => .error <| .malformed "expected a number"
  write := .number

/-- A number of 64 bits. -/
def u64 : Form UInt64 := nat.refine (fun n => .ok (UInt64.ofNat n)) UInt64.toNat

/-- One of several values by its name. -/
def choice [DecidableEq α] (names : List (String × α)) : Form α :=
  text.refine
    (fun name => match names.lookup name with
      | some value => .ok value
      | none => .error <| .malformed s!"unknown name [{name}]")
    (fun value => ((names.find? (·.2 = value)).map (·.1)).getD "")

/-- Bytes: hexadecimal after a mark. -/
def bytes : Form Bytes :=
  text.refine
    (fun value => match value.toList with
      | '0' :: 'x' :: digits =>
        match Bytes.ofHex? digits with
        | some bytes => .ok bytes
        | none => .error <| .malformed "expected hexadecimal digits"
      | _ => .error <| .malformed "expected bytes")
    (fun bytes => "0x" ++ bytes.hex)

/-- A byte string of a fixed length. -/
def block (n : Nat) : Form (Block n) :=
  bytes.refine
    (fun bytes => match Block.ofBytes? n bytes with
      | some block => .ok block
      | none => .error <| .malformed s!"expected {n} bytes")
    Block.bytes

end Form

end ConfidentialToken
