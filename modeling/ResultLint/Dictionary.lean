/-!
# Dictionaries keyed by text

A dictionary is a list of entries sorted by key, each key once. Inserting replaces the value of
an existing key, so of several writes to one key the last one wins, and listing the entries
gives them in key order.
-/

namespace ResultLint

/-- Entries sorted by key, each key once. -/
structure Dictionary (β : Type) where
  entries : List (String × β) := []
  deriving DecidableEq, Repr, Inhabited

namespace Dictionary

variable {β : Type}

/-- Sets a key, replacing its earlier value. -/
def insertEntry (key : String) (value : β) : List (String × β) → List (String × β)
  | [] => [(key, value)]
  | (k, v) :: rest =>
    if key < k then (key, value) :: (k, v) :: rest
    else if key = k then (key, value) :: rest
    else (k, v) :: insertEntry key value rest

/-- Sets a key, replacing its earlier value. -/
def insert (d : Dictionary β) (key : String) (value : β) : Dictionary β :=
  ⟨insertEntry key value d.entries⟩

/-- The value of a key. -/
def get? (d : Dictionary β) (key : String) : Option β :=
  (d.entries.find? (·.1 == key)).map (·.2)

/-- Appends values to the list of a key; a key not yet set starts from the empty list. -/
def extend {α : Type} (d : Dictionary (List α)) (key : String) (xs : List α) :
    Dictionary (List α) :=
  d.insert key ((d.get? key).getD [] ++ xs)

/-- The number of keys. -/
def size (d : Dictionary β) : Nat := d.entries.length

/-- Whether the dictionary has no key. -/
def isEmpty (d : Dictionary β) : Bool := d.entries.isEmpty

/-- The dictionary of a list of entries, later entries winning. -/
def ofList (kvs : List (String × β)) : Dictionary β :=
  kvs.foldl (fun d kv => d.insert kv.1 kv.2) {}

end Dictionary

end ResultLint
