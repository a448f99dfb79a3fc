import Mathlib.Data.List.Nodup
import MaskedInput.Mask
import MaskedInput.Proofs.Pattern.Reading

/-!
# Patterns under other notations

A pattern asks its notations for nothing but the symbols in its groups, and of these only what the
first entry of each symbol says.  So a list of notations can be changed in many ways that a pattern
does not notice.  Where it is extended, a symbol may get another class, but it remains a symbol: a
pattern that has compiled still does, and its literals stay where they are.

* `Notation.lookup?_insert_behind`, `Notation.lookup?_insert_other`, `Notation.lookup?_perm` —
  changes of the list that an entry survives.
* `Reads.congr`, `Refuses.congr`, **`slots_congr`** — a pattern depends on the entries of its
  ordinary characters only.
* **`Reads.exists_outline`** — with more symbols known, a pattern is read to slots of the same
  outline.
* **`Mask.compile_extended`** — built-in patterns compile under all notations, and no pattern
  notices a notation that is hidden, that it does not use, or that is put in another place.
-/

namespace MaskedInput

/-! ## Changes of the list -/

namespace Notation

variable {before behind notations notations' : List Notation} {n : Notation} {c : Char}

lemma lookup?_eq_of_find?_eq
    (same : notations.find? (·.symbol == c) = notations'.find? (·.symbol == c)) :
    lookup? notations c = lookup? notations' c := by
  rw [lookup?, lookup?, same]

/-- A notation for another symbol does not matter. -/
lemma lookup?_insert_other (other : n.symbol ≠ c) :
    lookup? (before ++ n :: behind) c = lookup? (before ++ behind) c := by
  apply lookup?_eq_of_find?_eq
  rw [List.find?_append, List.find?_append, List.find?_cons_of_neg (by simpa using other)]

/-- A notation is hidden by one in front of it that has the same symbol. -/
lemma lookup?_insert_behind (hidden : ∃ m ∈ before, m.symbol = n.symbol) :
    lookup? (before ++ n :: behind) c = lookup? (before ++ behind) c := by
  by_cases named : n.symbol = c
  · obtain ⟨m, hm, same⟩ := hidden
    obtain ⟨first, found⟩ : ∃ first, before.find? (·.symbol == c) = some first := by
      rw [← Option.isSome_iff_exists, List.find?_isSome]
      exact ⟨m, hm, by simpa using same.trans named⟩
    apply lookup?_eq_of_find?_eq
    rw [List.find?_append, List.find?_append, found, Option.some_or, Option.some_or]
  · exact lookup?_insert_other named

/-- Where no two notations have the same symbol, the one that is found is the one that there is. -/
lemma find?_eq_some_iff (distinct : (notations.map (·.symbol)).Nodup) :
    notations.find? (·.symbol == c) = some n ↔ n ∈ notations ∧ n.symbol = c := by
  constructor
  · intro found
    exact ⟨List.mem_of_find?_eq_some found, by simpa using List.find?_some found⟩
  · rintro ⟨mem, rfl⟩
    obtain ⟨first, found⟩ : ∃ first, notations.find? (·.symbol == n.symbol) = some first := by
      rw [← Option.isSome_iff_exists, List.find?_isSome]
      exact ⟨n, mem, by simp⟩
    have named : first.symbol = n.symbol := by simpa using List.find?_some found
    rw [found, List.inj_on_of_nodup_map distinct (List.mem_of_find?_eq_some found) mem named]

/-- Then their order does not matter. -/
lemma lookup?_perm (distinct : (notations.map (·.symbol)).Nodup)
    (perm : notations.Perm notations') : lookup? notations' c = lookup? notations c := by
  have distinct' : (notations'.map (·.symbol)).Nodup := (perm.map _).nodup_iff.mp distinct
  apply lookup?_eq_of_find?_eq
  apply Option.ext
  intro n
  rw [find?_eq_some_iff distinct, find?_eq_some_iff distinct', perm.mem_iff]

/-- A built-in symbol is known under all notations. -/
lemma isSome_lookup?_of_builtIn (notations : List Notation) (known : (lookup? [] c).isSome = true) :
    (lookup? notations c).isSome = true := by
  rw [lookup?]
  cases notations.find? (·.symbol == c) with
  | some n => rfl
  | none => exact known

lemma resolve?_congr (same : lookup? notations c = lookup? notations' c) (curly : Bool) :
    resolve? notations curly c = resolve? notations' curly c := by
  rw [resolve?, resolve?, same]

end Notation

/-- What is seen of a slot before anything is typed: the character of a literal. -/
def Slot.literal? : Slot → Option Char
  | literal c => some c
  | value _ _ => none

lemma Slot.literal?_eq_some_iff {s : Slot} {c : Char} : s.literal? = some c ↔ s = .literal c := by
  cases s <;> simp [literal?]

/-- The slot of a symbol is no literal. -/
lemma Notation.literal?_of_resolve? {notations : List Notation} {curly : Bool} {c : Char} {slot : Slot}
    (known : resolve? notations curly c = some slot) : slot.literal? = none := by
  obtain ⟨⟨kind, optional⟩, -, rfl⟩ := Option.map_eq_some_iff.mp known
  rfl

namespace Pattern

variable {notations notations' : List Notation} {group behind : Option OpenGroup} {i j : ℕ}
  {pattern text rest : List Char} {slots : List Slot} {e : PatternError}

/-! ## The entries that a pattern asks for -/

/-- Two lists of notations have the same entries for the ordinary characters of a pattern. -/
def AgreeOn (notations notations' : List Notation) (pattern : List Char) : Prop :=
  ∀ c ∈ pattern, isSpecial c = false →
    Notation.lookup? notations c = Notation.lookup? notations' c

/-- A part of a pattern is read in the same way. -/
lemma Reads.congr (h : Reads notations group i text slots behind j)
    (agree : AgreeOn notations notations' text) : Reads notations' group i text slots behind j := by
  induction h with
  | done group i => exact Reads.done group i
  | escape c _ ih =>
      exact Reads.escape c (ih fun d hd => agree d (List.mem_cons_of_mem _ (List.mem_cons_of_mem _ hd)))
  | opens b _ ih => exact Reads.opens b (ih (List.forall_mem_of_forall_mem_cons agree))
  | closes g _ ih => exact Reads.closes g (ih (List.forall_mem_of_forall_mem_cons agree))
  | plain ordinary _ ih =>
      exact Reads.plain ordinary (ih (List.forall_mem_of_forall_mem_cons agree))
  | symbol ordinary known _ ih =>
      have same := agree _ List.mem_cons_self ordinary
      rw [Notation.resolve?_congr same] at known
      exact Reads.symbol ordinary known (ih (List.forall_mem_of_forall_mem_cons agree))

/-- And the reading stops with the same error. -/
lemma Refuses.congr (h : Refuses notations group i rest e)
    (agree : AgreeOn notations notations' rest) : Refuses notations' group i rest e := by
  cases h with
  | unterminated => exact Refuses.unterminated group i
  | unclosed g => exact Refuses.unclosed g i
  | nested g b _ rest => exact Refuses.nested g b i rest
  | unmatched b _ rest => exact Refuses.unmatched b i rest
  | mismatched g _ rest => exact Refuses.mismatched g i rest
  | unknown ordinary unknown _ rest =>
      have same := agree _ List.mem_cons_self ordinary
      rw [Notation.resolve?_congr same] at unknown
      exact Refuses.unknown ordinary unknown i rest

/-- **A pattern depends on the entries of its ordinary characters only.**  Under two lists that
agree on them it has the same slots, or the same error. -/
theorem slots_congr (agree : AgreeOn notations notations' pattern) :
    Pattern.slots notations pattern = Pattern.slots notations' pattern := by
  obtain ⟨text, rest, slots, behind, j, rfl, reads, stop⟩ := exists_reads notations none 0 pattern
  have reads' := reads.congr fun c hc => agree c (List.mem_append_left _ hc)
  rw [Pattern.slots, Pattern.slots, reads.slotsFrom_append, reads'.slotsFrom_append]
  rcases stop with ⟨rfl, rfl⟩ | ⟨e, refused⟩
  · rfl
  · have refused' := refused.congr fun c hc => agree c (List.mem_append_right _ hc)
    rw [refused.slotsFrom_eq, refused'.slotsFrom_eq]

/-! ## More symbols -/

/-- **With more symbols known**, what could be read can still be read.  The slots have the same
outline: the same literals, with value slots between them in the same places. -/
theorem Reads.exists_outline (h : Reads notations group i text slots behind j)
    (more : ∀ c, (Notation.lookup? notations c).isSome = true →
      (Notation.lookup? notations' c).isSome = true) :
    ∃ slots', Reads notations' group i text slots' behind j
      ∧ slots'.map Slot.literal? = slots.map Slot.literal? := by
  induction h with
  | done group i => exact ⟨[], Reads.done group i, rfl⟩
  | escape c _ ih =>
      obtain ⟨slots', reads, outline⟩ := ih
      exact ⟨.literal c :: slots', Reads.escape c reads, by rw [List.map_cons, List.map_cons, outline]⟩
  | opens b _ ih =>
      obtain ⟨slots', reads, outline⟩ := ih
      exact ⟨slots', Reads.opens b reads, outline⟩
  | closes g _ ih =>
      obtain ⟨slots', reads, outline⟩ := ih
      exact ⟨slots', Reads.closes g reads, outline⟩
  | @plain c ordinary _ _ _ _ _ _ ih =>
      obtain ⟨slots', reads, outline⟩ := ih
      exact ⟨.literal c :: slots', Reads.plain ordinary reads,
        by rw [List.map_cons, List.map_cons, outline]⟩
  | @symbol c ordinary g slot known _ _ _ _ _ _ ih =>
      obtain ⟨slots', reads, outline⟩ := ih
      obtain ⟨slot', known'⟩ : ∃ slot',
          Notation.resolve? notations' (g.bracket = .curly) c = some slot' := by
        rw [← Option.isSome_iff_exists, Notation.resolve?, Option.isSome_map]
        apply more
        have isSome := Option.isSome_of_mem known
        rwa [Notation.resolve?, Option.isSome_map] at isSome
      refine ⟨slot' :: slots', Reads.symbol ordinary known' reads, ?_⟩
      rw [List.map_cons, List.map_cons, outline, Notation.literal?_of_resolve? known,
        Notation.literal?_of_resolve? known']

end Pattern

namespace Mask

/-- Where two rows of slots have the same outline, they have the same literals in the same places. -/
lemma getElem?_literal_iff {slots slots' : List Slot}
    (outline : slots'.map Slot.literal? = slots.map Slot.literal?) (i : ℕ) (c : Char) :
    slots'[i]? = some (Slot.literal c) ↔ slots[i]? = some (Slot.literal c) := by
  have place (slots : List Slot) :
      slots[i]? = some (Slot.literal c) ↔ (slots.map Slot.literal?)[i]? = some (some c) := by
    rw [List.getElem?_map, Option.map_eq_some_iff]
    constructor
    · exact fun here => ⟨_, here, rfl⟩
    · rintro ⟨s, here, literal⟩
      rw [here, Slot.literal?_eq_some_iff.mp literal]
  rw [place, place, outline]

lemma compile_congr {notations notations' : List Notation} {pattern : List Char}
    (agree : Pattern.AgreeOn notations notations' pattern) :
    compile notations pattern = compile notations' pattern := by
  rw [compile, compile, Pattern.slots_congr agree]

/-- **Notations extend the language and leave the rest as it is.**  A pattern that compiles with the
built-in symbols compiles under all notations, to as many slots, with the same literals in the same
places.  And whether a pattern compiles or not, neither its mask nor its error changes when a notation
is added behind one with the same symbol, or one whose symbol does not occur in the pattern or is no
symbol at all, or when notations with different symbols are put in another order. -/
theorem compile_extended (notations : List Notation) (pattern : List Char) :
    (isValid pattern = true → ∃ m m' : Mask,
        compile [] pattern = .ok m ∧ compile notations pattern = .ok m'
        ∧ m'.slots.length = m.slots.length
        ∧ ∀ (i : ℕ) (c : Char), m'.slots[i]? = some (.literal c) ↔ m.slots[i]? = some (.literal c))
      ∧ (∀ before behind n, notations = before ++ behind →
          (∃ m ∈ before, m.symbol = n.symbol) ∨ n.symbol ∉ pattern
            ∨ Pattern.isSpecial n.symbol = true →
          compile (before ++ n :: behind) pattern = compile notations pattern)
      ∧ ∀ notations', notations.Perm notations' → (notations.map (·.symbol)).Nodup →
          compile notations' pattern = compile notations pattern := by
  refine ⟨?_, ?_, ?_⟩
  · intro valid
    rw [isValid, compile] at valid
    cases compiled : Pattern.slots [] pattern with
    | error e =>
        rw [compiled] at valid
        exact absurd valid (by simp [Except.isOk, Except.toBool])
    | ok slots =>
        obtain ⟨j, reads⟩ := Pattern.slotsFrom_eq_ok_iff.mp compiled
        obtain ⟨slots', reads', outline⟩ :=
          reads.exists_outline fun _ => Notation.isSome_lookup?_of_builtIn notations
        have compiled' : Pattern.slots notations pattern = .ok slots' :=
          Pattern.slotsFrom_eq_ok_iff.mpr ⟨j, reads'⟩
        rw [compile, compile, compiled, compiled']
        exact ⟨_, _, rfl, rfl, by simpa using congrArg List.length outline,
          getElem?_literal_iff outline⟩
  · rintro before behind n rfl unnoticed
    apply compile_congr
    intro c hc ordinary
    rcases unnoticed with hidden | unused | special
    · exact Notation.lookup?_insert_behind hidden
    · exact Notation.lookup?_insert_other fun named => unused (named ▸ hc)
    · refine Notation.lookup?_insert_other fun named => ?_
      rw [named, ordinary] at special
      exact Bool.false_ne_true special
  · intro notations' perm distinct
    exact compile_congr fun c _ _ => Notation.lookup?_perm distinct perm

/-- The escaped `0` and the one outside of the groups are literals under any notations.  Of the two
notations for the `0` in a group, the first one decides. -/
theorem exists_compile_extended : ∃ (pattern : List Char) (notations : List Notation) (m m' : Mask),
    pattern = "0[0\\0]-\x7b_\x7d".toList ∧ isValid pattern = true
    ∧ compile [] pattern = .ok m ∧ compile notations pattern = .ok m' ∧ m ≠ m'
    ∧ m'.slots.length = m.slots.length
    ∧ (∀ (i : ℕ) (c : Char), m'.slots[i]? = some (.literal c) ↔ m.slots[i]? = some (.literal c))
    ∧ compile (notations ++ [⟨'0', "xyz".toList, true⟩]) pattern = compile notations pattern
    ∧ compile (⟨'9', [], true⟩ :: notations) pattern = compile notations pattern
    ∧ compile (⟨'[', [], true⟩ :: notations) pattern = compile notations pattern
    ∧ notations.reverse ≠ notations
    ∧ compile notations.reverse pattern = compile notations pattern := by
  let pattern : List Char := "0[0\\0]-\x7b_\x7d".toList
  let notations : List Notation := [⟨'0', "01".toList, false⟩, ⟨'-', "+".toList, true⟩]
  have valid : isValid pattern = true := by decide
  obtain ⟨compiles, unnoticed, permuted⟩ := compile_extended notations pattern
  obtain ⟨m, m', compiled, compiled', length, literals⟩ := compiles valid
  refine ⟨pattern, notations, m, m', rfl, valid, compiled, compiled', ?_, length, literals, ?_, ?_, ?_,
    by decide, permuted _ (List.reverse_perm _).symm (by decide)⟩
  · rintro rfl
    exact absurd (compiled.trans compiled'.symm) (by decide)
  · exact unnoticed notations [] _ (List.append_nil _).symm (Or.inl ⟨_, List.mem_cons_self, rfl⟩)
  · exact unnoticed [] notations _ rfl (Or.inr (Or.inl (by decide)))
  · exact unnoticed [] notations _ rfl (Or.inr (Or.inr rfl))

end Mask

end MaskedInput
