import MaskedInput.Proofs.Pattern.Reading

/-!
# Patterns are read by their grammar

Exactly the texts of well-formed items are patterns, and their slots are those that the items stand
for.  A pattern may be in the middle of a group at any point of the reading; what is then still to
come is the rest of that group, its closing bracket, and further items.

* `Notation.Entry` — the entry that decides on a symbol.
* `Stands` — the rest of a pattern, as the grammar has it, and the slots that it stands for.
* `Reads.stands` — what is read to the end follows the grammar.
* `reads_items` — whatever follows the grammar is read.
* **`slots_eq_ok_iff`** — the slots of a pattern are the meaning of the items that make it
  up, and those of a symbol are as its entry says.
-/

namespace MaskedInput

/-! ## The entries of symbols -/

/-- **The entry that decides on a symbol**: its class, and whether its slots are always optional. -/
inductive Notation.Entry (notations : List Notation) (c : Char) : CharClass → Bool → Prop where
  | user {before behind : List Notation} {n : Notation} (split : notations = before ++ n :: behind)
      (first : ∀ m ∈ before, m.symbol ≠ c) (named : n.symbol = c) :
      Entry notations c n.charClass n.optional
  | builtIn {kind : CharClass} {optional : Bool} (free : ∀ n ∈ notations, n.symbol ≠ c)
      (entry : Notation.builtIn? c = some (kind, optional)) : Entry notations c kind optional

lemma Notation.lookup?_eq_some_iff {notations : List Notation} {c : Char} {kind : CharClass}
    {optional : Bool} :
    lookup? notations c = some (kind, optional) ↔ Entry notations c kind optional := by
  constructor
  · intro found
    rw [lookup?] at found
    cases search : notations.find? (·.symbol == c) with
    | some n =>
        obtain ⟨named, before, behind, split, first⟩ := List.find?_eq_some_iff_append.mp search
        rw [search] at found
        obtain ⟨rfl, rfl⟩ : n.charClass = kind ∧ n.optional = optional := by simpa using found
        exact Entry.user split (by simpa using first) (by simpa using named)
    | none =>
        rw [search] at found
        exact Entry.builtIn (by simpa using search) found
  · rintro (@⟨before, behind, n, split, first, named⟩ | ⟨free, entry⟩)
    · have search : notations.find? (·.symbol == c) = some n :=
        List.find?_eq_some_iff_append.mpr
          ⟨by simpa using named, before, behind, split, by simpa using first⟩
      rw [lookup?, search]
    · have search : notations.find? (·.symbol == c) = none := by simpa using free
      rw [lookup?, search]
      exact entry

namespace Pattern

variable {notations : List Notation} {b : Bracket} {c : Char} {slot : Slot} {atom : Atom}
  {atoms : List Atom} {item : Item} {items : List Item} {group behind : Option OpenGroup}
  {i j : ℕ} {text : List Char} {slots : List Slot}

lemma Atom.slot?_symbol (ordinary : isSpecial c = false) :
    (Atom.symbol c).slot? notations b = Notation.resolve? notations (b = .curly) c :=
  if_neg (Bool.eq_false_iff.mp ordinary)

lemma Item.slots?_plain (ordinary : isSpecial c = false) :
    (Item.plain c).slots? notations = some [.literal c] :=
  if_neg (Bool.eq_false_iff.mp ordinary)

/-- The slot of a symbol, as the symbol's entry says. -/
lemma Atom.slot?_symbol_eq_some_iff :
    (Atom.symbol c).slot? notations b = some slot
      ↔ isSpecial c = false ∧ ∃ kind optional, Notation.Entry notations c kind optional
        ∧ slot = .value kind (b = .curly || optional) := by
  cases special : isSpecial c with
  | true => simp [Atom.slot?, special]
  | false =>
      rw [Atom.slot?_symbol special, Notation.resolve?, Option.map_eq_some_iff]
      constructor
      · rintro ⟨⟨kind, optional⟩, found, rfl⟩
        exact ⟨rfl, kind, optional, Notation.lookup?_eq_some_iff.mp found, rfl⟩
      · rintro ⟨-, kind, optional, entry, rfl⟩
        exact ⟨(kind, optional), Notation.lookup?_eq_some_iff.mpr entry, rfl⟩

/-! ## The grammar, item by item -/

lemma mapM_slot?_cons_eq_some_iff :
    (atom :: atoms).mapM (Atom.slot? notations b) = some slots
      ↔ ∃ slot rest, atom.slot? notations b = some slot
        ∧ atoms.mapM (Atom.slot? notations b) = some rest ∧ slot :: rest = slots := by
  simp [List.mapM_cons, Option.bind_eq_some_iff]

lemma meaning?_cons_eq_some_iff :
    meaning? notations (item :: items) = some slots
      ↔ ∃ here rest, item.slots? notations = some here
        ∧ meaning? notations items = some rest ∧ here ++ rest = slots := by
  simp [meaning?, List.mapM_cons, Option.bind_eq_some_iff]

/-- **The rest of a pattern**, as the grammar has it.  Where a group is open, what comes first is the
rest of the group and its closing bracket. -/
def Stands (notations : List Notation) :
    Option OpenGroup → List Char → List Slot → Prop
  | none, text, slots => ∃ items, textOf items = text ∧ meaning? notations items = some slots
  | some g, text, slots => ∃ (atoms : List Atom) (items : List Item) (inner outer : List Slot),
      atoms.flatMap Atom.text ++ g.bracket.closing :: textOf items = text
        ∧ atoms.mapM (Atom.slot? notations g.bracket) = some inner
        ∧ meaning? notations items = some outer ∧ inner ++ outer = slots

lemma Stands.cons_atom {g : OpenGroup} (h : Stands notations (some g) text slots)
    (known : atom.slot? notations g.bracket = some slot) :
    Stands notations (some g) (atom.text ++ text) (slot :: slots) := by
  obtain ⟨atoms, items, inner, outer, rfl, hinner, houter, rfl⟩ := h
  refine ⟨atom :: atoms, items, slot :: inner, outer, ?_, ?_, houter, rfl⟩
  · rw [List.flatMap_cons, List.append_assoc]
  · exact mapM_slot?_cons_eq_some_iff.mpr ⟨slot, inner, known, hinner, rfl⟩

lemma Stands.cons_item (h : Stands notations none text slots) {here : List Slot}
    (known : item.slots? notations = some here) :
    Stands notations none (item.text ++ text) (here ++ slots) := by
  obtain ⟨items, rfl, means⟩ := h
  exact ⟨item :: items, rfl, meaning?_cons_eq_some_iff.mpr ⟨here, slots, known, means, rfl⟩⟩

/-- A group that is opened makes an item of what stands up to its closing bracket. -/
lemma Stands.opens (h : Stands notations (some ⟨b, i⟩) text slots) :
    Stands notations none (b.opening :: text) slots := by
  obtain ⟨atoms, items, inner, outer, rfl, hinner, houter, rfl⟩ := h
  have rest : Stands notations none (textOf items) outer := ⟨items, rfl, houter⟩
  have group : (Item.group b atoms).slots? notations = some inner := hinner
  simpa [Item.text] using rest.cons_item group

lemma Stands.closes {g : OpenGroup} (h : Stands notations none text slots) :
    Stands notations (some g) (g.bracket.closing :: text) slots := by
  obtain ⟨items, rfl, means⟩ := h
  exact ⟨[], items, [], slots, rfl, rfl, means, rfl⟩

/-! ## What is read follows the grammar -/

/-- What is read to the end follows the grammar. -/
lemma Reads.stands (h : Reads notations group i text slots behind j) (ends : behind = none) :
    Stands notations group text slots := by
  induction h with
  | done =>
      subst ends
      exact ⟨[], rfl, rfl⟩
  | @escape c group _ _ _ _ _ _ ih =>
      cases group with
      | none =>
          have known : (Item.escaped c).slots? notations = some [.literal c] := rfl
          exact Stands.cons_item (ih ends) known
      | some g =>
          have known : (Atom.escaped c).slot? notations g.bracket = some (.literal c) := rfl
          exact Stands.cons_atom (ih ends) known
  | opens b _ ih => exact Stands.opens (ih ends)
  | closes g _ ih => exact Stands.closes (ih ends)
  | plain ordinary _ ih => exact Stands.cons_item (ih ends) (Item.slots?_plain ordinary)
  | symbol ordinary known _ ih =>
      exact Stands.cons_atom (ih ends) ((Atom.slot?_symbol ordinary).trans known)

/-! ## What follows the grammar is read -/

lemma Atom.reads {g : OpenGroup} (known : atom.slot? notations g.bracket = some slot) (i : ℕ) :
    ∃ j, Reads notations (some g) i atom.text [slot] (some g) j := by
  cases atom with
  | escaped c =>
      obtain rfl : Slot.literal c = slot := Option.some.inj known
      exact ⟨_, Reads.escape c (Reads.done _ _)⟩
  | symbol c =>
      have ordinary : isSpecial c = false := (Atom.slot?_symbol_eq_some_iff.mp known).1
      rw [Atom.slot?_symbol ordinary] at known
      exact ⟨_, Reads.symbol ordinary known (Reads.done _ _)⟩

lemma reads_atoms {g : OpenGroup}
    (known : atoms.mapM (Atom.slot? notations g.bracket) = some slots) (i : ℕ) :
    ∃ j, Reads notations (some g) i (atoms.flatMap Atom.text) slots (some g) j := by
  induction atoms generalizing slots i with
  | nil =>
      obtain rfl : [] = slots := Option.some.inj known
      exact ⟨i, Reads.done _ i⟩
  | cons atom atoms ih =>
      obtain ⟨slot, rest, here, behind, rfl⟩ := mapM_slot?_cons_eq_some_iff.mp known
      obtain ⟨k, first⟩ := Atom.reads here i
      obtain ⟨j, others⟩ := ih behind k
      exact ⟨j, first.append others⟩

lemma Item.reads (known : item.slots? notations = some slots) (i : ℕ) :
    ∃ j, Reads notations none i item.text slots none j := by
  cases item with
  | plain c =>
      cases special : isSpecial c with
      | true => simp [Item.slots?, special] at known
      | false =>
          obtain rfl := Option.some.inj ((Item.slots?_plain special).symm.trans known)
          exact ⟨_, Reads.plain special (Reads.done _ _)⟩
  | escaped c =>
      obtain rfl : [Slot.literal c] = slots := Option.some.inj known
      exact ⟨_, Reads.escape c (Reads.done _ _)⟩
  | group b atoms =>
      obtain ⟨k, inside⟩ := reads_atoms (g := ⟨b, i⟩) known (i + 1)
      have closed := inside.append (Reads.closes ⟨b, i⟩ (Reads.done none (k + 1)))
      rw [List.append_nil] at closed
      exact ⟨k + 1, Reads.opens b closed⟩

/-- Whatever follows the grammar is read. -/
lemma reads_items (means : meaning? notations items = some slots) (i : ℕ) :
    ∃ j, Reads notations none i (textOf items) slots none j := by
  induction items generalizing slots i with
  | nil =>
      obtain rfl : [] = slots := Option.some.inj means
      exact ⟨i, Reads.done _ i⟩
  | cons item items ih =>
      obtain ⟨here, rest, known, behind, rfl⟩ := meaning?_cons_eq_some_iff.mp means
      obtain ⟨k, first⟩ := Item.reads known i
      obtain ⟨j, others⟩ := ih behind k
      exact ⟨j, first.append others⟩

/-- **The patterns are the texts of well-formed items**, and their slots are the slots of these items.
A symbol has the class of its entry, and its slots are optional in a curly group, or by the entry. -/
theorem slots_eq_ok_iff (notations : List Notation) (pattern : List Char) (result : List Slot) :
    (Pattern.slots notations pattern = .ok result
        ↔ ∃ items, textOf items = pattern ∧ meaning? notations items = some result)
      ∧ ∀ (b : Bracket) (c : Char) (slot : Slot),
        (Atom.symbol c).slot? notations b = some slot
          ↔ isSpecial c = false ∧ ∃ kind optional, Notation.Entry notations c kind optional
            ∧ slot = .value kind (b = .curly || optional) := by
  refine ⟨?_, fun b c slot => Atom.slot?_symbol_eq_some_iff⟩
  rw [Pattern.slots, slotsFrom_eq_ok_iff]
  constructor
  · rintro ⟨j, reads⟩
    exact reads.stands rfl
  · rintro ⟨items, rfl, means⟩
    exact reads_items means 0

end Pattern

end MaskedInput
