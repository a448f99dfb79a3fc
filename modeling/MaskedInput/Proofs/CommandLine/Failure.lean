import MaskedInput.Proofs.Config.Validation
import MaskedInput.CommandLine.Run

/-!
# Why a command fails

Every command works on the field that its source stands for, and nothing behind that field can fail.
So a command fails exactly as its source does: a name that is not in the configuration has no field, and
a pattern on the command line has none if it does not compile.  A name that is there has a field in any
case, since its patterns were checked when the configuration was read, and the options of a command have
no part in that.

* `MaskSource.resolve` — the field of a source; `Command.source` — the source of a command.
* `Command.run_eq_error_iff` — a command fails as its source does.
* `MaskSource.resolve_field_eq_error_iff` — a name fails if it is not there, and not otherwise.
* `Command.run_eq_error_iff_of_sound` — the two ways to fail under a configuration that is checked.
* **`Command.run_failure`** — the failures of all commands.
-/

namespace MaskedInput.CommandLine

variable {config : Config} {f : Failure}

/-! ## One definition -/

lemma mapError_eq_error_iff {α ε ε' : Type} {g : ε → ε'} {r : Except ε α} {e' : ε'} :
    r.mapError g = .error e' ↔ ∃ e, r = .error e ∧ e' = g e := by
  cases r <;> simp [Except.mapError, eq_comm]

lemma compileField_eq_error_iff {d : Definition} : compileField d = .error f
    ↔ ∃ cause, d.compile = .error cause ∧ f = .invalidPattern d.mask cause :=
  mapError_eq_error_iff

/-- The direction of writing has no part in whether a definition compiles. -/
lemma compileField_rightToLeft_eq_error_iff {d : Definition} {rightToLeft : Bool} :
    compileField { d with rightToLeft := rightToLeft } = .error f ↔ compileField d = .error f := by
  simp only [compileField_eq_error_iff, Definition.compile_eq_error_iff, Definition.patterns]

/-- A definition that is a pattern alone compiles as the pattern does. -/
lemma compile_pattern_eq_error_iff {pattern : List Char} {cause : PatternError} :
    ({ mask := pattern } : Definition).compile = .error cause
      ↔ Mask.compile [] pattern = .error cause := by
  rw [Definition.compile_eq_error_iff_mapM, Definition.patterns, List.mapM_cons, List.mapM_nil]
  simp only [pure_bind]
  rw [bind_pure_comp, map_eq_error_iff]
  exact map_eq_error_iff

/-! ## The source of a mask -/

namespace MaskSource

/-- The field that a source stands for. -/
def resolve (config : Config) (source : MaskSource) : Except Failure Field :=
  source.definition config >>= compileField

lemma resolve_pattern_eq_error_iff {text : List Char} : (MaskSource.pattern text).resolve config = .error f
    ↔ ∃ cause, Mask.compile [] text = .error cause ∧ f = .invalidPattern text cause := by
  simp only [← compile_pattern_eq_error_iff]
  exact compileField_eq_error_iff

/-- **A name has a field if it is there**, as long as all patterns compile. -/
theorem resolve_field_eq_error_iff (sound : config.Sound) {name : List Char} :
    (MaskSource.field name).resolve config = .error f ↔ config.find? name = none ∧ f = .noField name := by
  rw [resolve, bind_eq_error_iff, definition]
  cases found : config.find? name with
  | none => simp [eq_comm]
  | some d =>
      obtain ⟨field, ok⟩ := Definition.exists_compile_iff.mpr (sound.of_find? found)
      simp [compileField_eq_error_iff, ok]

end MaskSource

/-! ## Commands -/

namespace Command

/-- Where the mask of a command comes from. -/
def source : Command → MaskSource
  | .format source .. | .unmask source _ | .placeholder source => source
  | .check pattern => .pattern pattern

/-- **A command fails as its source does**, and not at all if that has a field. -/
theorem run_eq_error_iff {command : Command} :
    command.run config = .error f ↔ command.source.resolve config = .error f := by
  cases command with
  | format =>
      simp only [run, display, source, MaskSource.resolve, bind_eq_error_iff, bind_pure_comp,
        map_eq_error_iff, compileField_rightToLeft_eq_error_iff]
  | unmask | placeholder =>
      simp only [run, source, MaskSource.resolve, bind_eq_error_iff, bind_pure_comp, map_eq_error_iff]
  | check =>
      simp only [run, source, MaskSource.resolve_pattern_eq_error_iff, bind_pure_comp, map_eq_error_iff,
        mapError_eq_error_iff]

/-- If all patterns of the configuration compile, there are two ways to fail: with a name that is not
there, and with a pattern on the command line. -/
theorem run_eq_error_iff_of_sound (sound : config.Sound) {command : Command} : command.run config = .error f
    ↔ (∃ name, command.source = .field name ∧ config.find? name = none ∧ f = .noField name)
      ∨ ∃ pattern cause, command.source = .pattern pattern ∧ Mask.compile [] pattern = .error cause
        ∧ f = .invalidPattern pattern cause := by
  rw [run_eq_error_iff]
  cases command.source with
  | field name => simp [MaskSource.resolve_field_eq_error_iff sound]
  | pattern text => simp [MaskSource.resolve_pattern_eq_error_iff]

/-- **The failures of all commands**, whatever the file of the masks contains and however it is read.
With the name of a field a command has a result, or else there is no field with that name; so it is with
every name if the file does not exist, is no text, is not understood or has a pattern that does not
compile.  The report of a bad pattern names the pattern of the command line and nothing else, with the
error that compiling it gives. -/
theorem run_failure (read : List Char → Option Config) (octets : Option ByteArray) (command : Command) :
    (∀ name, command.source = .field name →
        (∃ output, command.run (Config.inForce read octets) = .ok output)
          ∨ command.run (Config.inForce read octets) = .error (.noField name))
      ∧ (∀ name, command.source = .field name →
        (∀ text c, octets.bind String.fromUTF8? = some text → read text.toList = some c → ¬ c.Sound) →
          command.run (Config.inForce read octets) = .error (.noField name))
      ∧ (∀ name, command.run (Config.inForce read octets) = .error (.noField name)
        ↔ command.source = .field name ∧ (Config.inForce read octets).find? name = none)
      ∧ ∀ pattern cause, command.run (Config.inForce read octets) = .error (.invalidPattern pattern cause)
        ↔ command.source = .pattern pattern ∧ Mask.compile [] pattern = .error cause := by
  have sound : (Config.inForce read octets).Sound := Config.inForce_sound
  have noField (name : List Char) : command.run (Config.inForce read octets) = .error (.noField name)
      ↔ command.source = .field name ∧ (Config.inForce read octets).find? name = none := by
    simp [run_eq_error_iff_of_sound sound]
  refine ⟨fun name named => ?_, fun name named unsound => ?_, noField, fun pattern cause => ?_⟩
  · cases result : command.run (Config.inForce read octets) with
    | ok output => exact .inl ⟨output, rfl⟩
    | error f =>
        rcases (run_eq_error_iff_of_sound sound).mp result with
          ⟨name', named', -, rfl⟩ | ⟨pattern, cause, given, -, -⟩
        · obtain rfl : name = name' := MaskSource.field.inj (named.symm.trans named')
          exact .inr rfl
        · exact absurd (named.symm.trans given) (by simp)
  · exact (noField name).mpr ⟨named, Config.find?_inForce_of_unsound unsound⟩
  · simp [run_eq_error_iff_of_sound sound]

/-- A definition is used with an option that changes it.  With an affine pattern that does not compile the
definition is gone; it is on the command line that the same pattern is named. -/
theorem exists_run_failure : ∃ (sound faulty : ByteArray) (command : Command),
    command.source = .field "a".toList
      ∧ (∃ output, command.run (Config.load (some sound)) = .ok output)
      ∧ command.run (Config.load (some faulty)) = .error (.noField "a".toList)
      ∧ (Command.check "0]".toList).run (Config.load (some sound))
        = .error (.invalidPattern "0]".toList ⟨.unmatchedBracket .square, 1⟩) := by
  let sound := "fields:\n  a: \x7bmask: \"[0]\"\x7d\n".toUTF8
  let text := "fields:\n  a: \x7bmask: \"[0]\", affine_formats: [\"0]\"]\x7d\n"
  let bad : Definition := { mask := "[0]".toList, affineFormats := ["0]".toList] }
  let command : Command := .format (.field "a".toList) "1".toList false true false
  have read : (some text.toUTF8).bind String.fromUTF8? = some text := by decide +kernel
  have fields : (Config.parse? text.toList).map (·.fields) = some [("a".toList, bad)] := by decide +kernel
  have unsound (text' : String) (c : Config) (decoded : (some text.toUTF8).bind String.fromUTF8? = some text')
      (parsed : Config.parse? text'.toList = some c) : ¬ c.Sound := by
    obtain rfl : text = text' := Option.some.inj (read.symm.trans decoded)
    rw [parsed, Option.map_some, Option.some.injEq] at fields
    have mem : ("a".toList, bad) ∈ c.fields := fields ▸ List.mem_cons_self
    have unsoundBad : ¬ bad.Sound := by decide +kernel
    exact fun all => unsoundBad (all _ mem)
  have found := (run_failure Config.parse? (some sound) command).1 _ rfl
  exact ⟨sound, text.toUTF8, command, rfl, found.resolve_right (by decide +kernel),
    (run_failure Config.parse? _ command).2.1 _ rfl unsound,
    ((run_failure Config.parse? (some sound) _).2.2.2 _ _).mpr ⟨rfl, by decide +kernel⟩⟩

end Command

end MaskedInput.CommandLine
