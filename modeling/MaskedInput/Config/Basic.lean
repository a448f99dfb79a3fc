import MaskedInput.Field

/-!
# Named fields

A configuration gives fields by name.  Names are kept in ascending order, which is also the order
in which the fields are checked and reported.

* `Config` — the definitions by name; `Config.insert`, `Config.find?` — its operations.
* **`Config.validate`** — the configuration itself, or the first field with a bad pattern.
* `Config.ofText`, `Config.ofOctets`, `Config.inForce` — the configuration of a text and of a file.
* `ConfigError` — why there is no configuration.
-/

namespace MaskedInput

/-- The name of a field.  Names are ordered by their first difference, a shorter one first. -/
abbrev FieldName := List Char

/-- The definition of a name put into its place; it replaces the one that the name had. -/
def insertDefinition (name : FieldName) (d : Definition) :
    List (FieldName × Definition) → List (FieldName × Definition)
  | [] => [(name, d)]
  | (other, e) :: rest =>
    if name < other then (name, d) :: (other, e) :: rest
    else if name = other then (name, d) :: rest
    else (other, e) :: insertDefinition name d rest

/-- The names in a list with a further definition are its own and the new one. -/
theorem mem_insertDefinition {name : FieldName} {d : Definition}
    {fields : List (FieldName × Definition)} {x : FieldName × Definition}
    (h : x ∈ insertDefinition name d fields) : x = (name, d) ∨ x ∈ fields := by
  induction fields with
  | nil => exact Or.inl (List.mem_singleton.mp h)
  | cons head rest ih =>
    unfold insertDefinition at h
    split at h
    · rcases List.mem_cons.mp h with h | h
      · exact Or.inl h
      · exact Or.inr h
    · split at h
      · rcases List.mem_cons.mp h with h | h
        · exact Or.inl h
        · exact Or.inr (List.mem_cons_of_mem _ h)
      · rcases List.mem_cons.mp h with h | h
        · exact Or.inr (List.mem_cons.mpr (Or.inl h))
        · rcases ih h with h | h
          · exact Or.inl h
          · exact Or.inr (List.mem_cons_of_mem _ h)

/-- A list in ascending order stays so. -/
theorem pairwise_insertDefinition {name : FieldName} {d : Definition}
    {fields : List (FieldName × Definition)} (h : fields.Pairwise (·.1 < ·.1)) :
    (insertDefinition name d fields).Pairwise (·.1 < ·.1) := by
  induction fields with
  | nil => exact List.pairwise_singleton _ _
  | cons head rest ih =>
    obtain ⟨other, e⟩ := head
    rw [List.pairwise_cons] at h
    rw [insertDefinition]
    by_cases first : name < other
    · rw [if_pos first]
      refine List.pairwise_cons.mpr ⟨fun x hx => ?_, List.pairwise_cons.mpr h⟩
      rcases List.mem_cons.mp hx with rfl | hx
      · exact first
      · exact List.lt_trans first (h.1 x hx)
    · rw [if_neg first]
      by_cases same : name = other
      · rw [if_pos same]
        subst same
        exact List.pairwise_cons.mpr h
      · rw [if_neg same]
        refine List.pairwise_cons.mpr ⟨fun x hx => ?_, ih h.2⟩
        rcases mem_insertDefinition hx with rfl | hx
        · exact Std.lt_of_le_of_ne (Std.not_lt.mp first) (Ne.symm same)
        · exact h.1 x hx

/-- Definitions of fields by name, in ascending order of the names. -/
structure Config where
  fields : List (FieldName × Definition) := []
  ascending : fields.Pairwise (·.1 < ·.1) := by exact List.Pairwise.nil

namespace Config

instance : Inhabited Config := ⟨{}⟩

/-- The configuration with a further definition, which replaces the one that the name had. -/
def insert (c : Config) (name : FieldName) (d : Definition) : Config :=
  ⟨insertDefinition name d c.fields, pairwise_insertDefinition c.ascending⟩

/-- The configuration of a list of definitions; of two with the same name, the later one counts. -/
def ofList (definitions : List (FieldName × Definition)) : Config :=
  definitions.foldl (fun c (name, d) => c.insert name d) {}

def find? (c : Config) (name : FieldName) : Option Definition := c.fields.lookup name

end Config

inductive ConfigError where
  | unreadable
  | malformed
  | invalidMask (field : FieldName) (error : PatternError)
  deriving DecidableEq, Repr, Inhabited

def ConfigError.message : ConfigError → List Char
  | unreadable => "IO error".toList
  | malformed => "Parse error".toList
  | invalidMask field error =>
    "Invalid mask for field '".toList ++ field ++ "': ".toList ++ error.message

namespace Config

/-- The error of the first field with a bad pattern. -/
def firstError? : List (FieldName × Definition) → Option ConfigError
  | [] => none
  | (name, d) :: rest =>
    match d.compile with
    | .error e => some (.invalidMask name e)
    | .ok _ => firstError? rest

/-- **The configuration, if every pattern of every field compiles.**  Otherwise the error names the
first field that has a bad pattern. -/
def validate (c : Config) : Except ConfigError Config :=
  match firstError? c.fields with
  | some e => .error e
  | none => .ok c

/-! ## From a text

How a configuration is written down is a matter of its own: `read` gives the one that a text stands
for, if there is one.
-/

/-- The configuration of a text, which has to be read and to be valid. -/
def ofText (read : List Char → Option Config) (text : List Char) : Except ConfigError Config :=
  match read text with
  | none => .error .malformed
  | some c => c.validate

/-- The configuration of a file, given its octets; there are none if the file does not exist. -/
def ofOctets (read : List Char → Option Config) (octets : Option ByteArray) :
    Except ConfigError Config :=
  match octets.bind String.fromUTF8? with
  | none => .error .unreadable
  | some text => ofText read text.toList

/-- The configuration that is in force: an empty one where the file gives none. -/
def inForce (read : List Char → Option Config) (octets : Option ByteArray) : Config :=
  (ofOctets read octets).toOption.getD default

end Config

end MaskedInput
