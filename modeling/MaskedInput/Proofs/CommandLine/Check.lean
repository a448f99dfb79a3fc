import MaskedInput.CommandLine.Run
import MaskedInput.Proofs.Layout.Attained
import MaskedInput.Proofs.Pattern.Reading

/-!
# The range that is printed for a pattern

For a pattern on the command line, the command prints how many characters a complete value may have.
The two numbers are counts of slots.  They are a range of lengths as well, and no number in it is
missing: each built-in class has a character that it takes, and none of them takes the space.

* `CharClass.BuiltIn` — the classes of the built-in symbols.
* `Pattern.Reads.builtIn` — without notations, a pattern has no other value slots.
* **`Command.run_check_range`** — the printed numbers are the least and the greatest length of a
  complete value.
-/

namespace MaskedInput

namespace CharClass

/-- The classes of the built-in symbols. -/
def BuiltIn : CharClass → Prop
  | digit | letter | alphanumeric => True
  | custom _ _ => False

/-- A character that the class takes, if it takes any. -/
def sample : CharClass → Char
  | digit | alphanumeric => '0'
  | letter => 'a'
  | custom _ characters => characters.headD ' '

lemma BuiltIn.accepts_sample {kind : CharClass} (h : kind.BuiltIn) :
    kind.accepts kind.sample = true ∧ kind.accepts ' ' = false := by
  cases kind with
  | digit => decide
  | letter => decide +kernel
  | alphanumeric => decide +kernel
  | custom _ _ => exact h.elim

end CharClass

lemma Notation.builtIn_of_builtIn? {c : Char} {kind : CharClass} {optional : Bool}
    (entry : builtIn? c = some (kind, optional)) : kind.BuiltIn := by
  rw [builtIn?.eq_def] at entry
  split at entry
  all_goals cases entry
  all_goals trivial

namespace Pattern

/-- Without notations, a pattern has no value slots but those of built-in classes. -/
lemma Reads.builtIn {group behind : Option OpenGroup} {i j : ℕ} {text : List Char}
    {slots : List Slot} (h : Reads [] group i text slots behind j) {kind : CharClass}
    {optional : Bool} (mem : .value kind optional ∈ slots) : kind.BuiltIn := by
  induction h with
  | done => exact absurd mem List.not_mem_nil
  | escape c _ ih => exact ih (by simpa using mem)
  | opens b _ ih => exact ih mem
  | closes g _ ih => exact ih mem
  | plain ordinary _ ih => exact ih (by simpa using mem)
  | symbol ordinary known _ ih =>
      rcases List.mem_cons.mp mem with rfl | mem
      · obtain ⟨⟨kind', optional'⟩, entry, same⟩ := Option.map_eq_some_iff.mp known
        obtain ⟨rfl, -⟩ := Slot.value.inj same
        exact Notation.builtIn_of_builtIn? entry
      · exact ih mem

end Pattern

lemma Mask.slots_of_compile {notations : List Notation} {pattern : List Char} {m : Mask}
    (compiled : compile notations pattern = .ok m) :
    Pattern.slots notations pattern = .ok m.slots := by
  rw [compile] at compiled
  cases read : Pattern.slots notations pattern with
  | error e =>
      rw [read] at compiled
      cases compiled
  | ok slots =>
      rw [read] at compiled
      cases compiled
      rfl

namespace CommandLine.Command

/-- **The range of lengths that is printed for a pattern.**  Some complete value has as many characters
as the first number says, and some has as many as the second one says.  These are the least and the
greatest length of a complete value, every length between them is that of one, and no value at all is
longer.  It does not matter from which end the mask is filled, or which literals are shown. -/
theorem run_check_range {pattern : List Char} {m : Mask} (compiled : Mask.compile [] pattern = .ok m)
    (config : Config) (autocomplete rightToLeft : Bool) (tail : Tail) :
    let m' : Mask := { m with autocomplete, rightToLeft }
    run config (.check pattern) = .ok ("ok: ".toList ++ Nat.toDigits 10 m'.slots.length
        ++ " slots, value length ".toList ++ Nat.toDigits 10 m'.minValueLength ++ "..=".toList
        ++ Nat.toDigits 10 m'.maxValueLength)
      ∧ (∃ input, (m'.layout tail input).complete = true
          ∧ (m'.layout tail input).value.length = m'.minValueLength)
      ∧ (∃ input, (m'.layout tail input).complete = true
          ∧ (m'.layout tail input).value.length = m'.maxValueLength)
      ∧ (∀ n, (∃ input, (m'.layout tail input).complete = true
            ∧ (m'.layout tail input).value.length = n)
          ↔ m'.minValueLength ≤ n ∧ n ≤ m'.maxValueLength)
      ∧ ∀ input, (m'.layout tail input).value.length ≤ m'.maxValueLength := by
  intro m'
  have separates : Slot.Separates CharClass.sample ' ' m'.slots := by
    obtain ⟨j, reads⟩ := Pattern.slotsFrom_eq_ok_iff.mp (Mask.slots_of_compile compiled)
    exact fun kind optional mem => (reads.builtIn mem).accepts_sample
  have lengths := Mask.complete_length_iff separates tail
  have le : m'.minValueLength ≤ m'.maxValueLength := by
    rw [Mask.minValueLength, Mask.maxValueLength, Slot.countP_value_eq]
    exact Nat.le_add_right _ _
  refine ⟨?_, (lengths _).mpr ⟨le_refl _, le⟩, (lengths _).mpr ⟨le, le_refl _⟩, lengths,
    m'.length_value_layout_le tail⟩
  rw [run, compiled]
  rfl

/-- An optional digit in front of a mandatory one and an optional one behind it.  The space leads past the
first of them, and without it the digit would stay there. -/
theorem exists_check_range : ∃ m : Mask, Mask.compile [] "\x7b0\x7d-[0A9]".toList = .ok m
    ∧ run {} (.check "\x7b0\x7d-[0A9]".toList) = .ok "ok: 5 slots, value length 2..=4".toList
    ∧ (∃ input, (m.layout .hidden input).complete = true
        ∧ (m.layout .hidden input).value.length = 2)
    ∧ (m.layout .hidden " 1b".toList).complete = true
    ∧ (m.layout .hidden " 1b".toList).value = "1b".toList
    ∧ (m.layout .hidden "1b".toList).complete = false
    ∧ (∃ input, (({ m with rightToLeft := true } : Mask).layout .eager input).complete = true
        ∧ (({ m with rightToLeft := true } : Mask).layout .eager input).value.length = 4) := by
  let m : Mask := ⟨"\x7b0\x7d-[0A9]".toList, [.value .digit true, .literal '-', .value .digit false,
    .value .letter false, .value .digit true], true, false⟩
  have compiled : Mask.compile [] "\x7b0\x7d-[0A9]".toList = .ok m := by rfl
  obtain ⟨printed, least, -⟩ := run_check_range compiled {} true false .hidden
  obtain ⟨-, -, greatest, -⟩ := run_check_range compiled {} true true .eager
  have text : "ok: ".toList ++ Nat.toDigits 10 m.slots.length ++ " slots, value length ".toList
      ++ Nat.toDigits 10 m.minValueLength ++ "..=".toList ++ Nat.toDigits 10 m.maxValueLength
      = "ok: 5 slots, value length 2..=4".toList := by decide +kernel
  exact ⟨m, compiled, printed.trans (congrArg Except.ok text), least, by decide +kernel,
    by decide +kernel, by decide +kernel, greatest⟩

end CommandLine.Command

end MaskedInput
