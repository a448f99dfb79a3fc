import MaskedInput.Proofs.CommandLine.Failure
import MaskedInput.Proofs.Format.Tail
import MaskedInput.Proofs.Session.Coherence

/-!
# Two commands agree

Formatting a text and taking the value out of it are two commands, and each picks the mask for itself.
The options of the first one change the definition before it is compiled, or the mask after it was picked,
but neither what the text scores nor what is kept of it depends on whether the tail is shown.

* `Field.directed` — a field filled from the given end; `Definition.compile_rightToLeft` — the direction
  of a definition is the direction of all its masks and nothing else.
* `Command.display_eq_ok` — what is formatted; `Command.printed` — what is printed of it.
* **`Command.run_format_unmask`** — what the commands print for one source and one text.
-/

namespace MaskedInput

/-! ## The direction of a definition -/

/-- A mask filled from the given end. -/
def Mask.directed (m : Mask) (rightToLeft : Bool) : Mask := { m with rightToLeft }

/-- A field whose masks are all filled from the given end. -/
def Field.directed (f : Field) (rightToLeft : Bool) : Field :=
  { f with primary := f.primary.directed rightToLeft, others := f.others.map (·.directed rightToLeft) }

/-- All masks of such a field have its direction. -/
lemma Field.rightToLeft_directed {f : Field} {rightToLeft : Bool} {m : Mask}
    (mem : m ∈ (f.directed rightToLeft).masks) : m.rightToLeft = rightToLeft := by
  rcases List.mem_cons.mp mem with rfl | mem
  · rfl
  · obtain ⟨n, -, rfl⟩ := List.mem_map.mp mem
    rfl

lemma mapM_map_eq_map_mapM {α β γ ε : Type} (f : α → Except ε β) (g : β → γ) (xs : List α) :
    xs.mapM (fun x => g <$> f x) = List.map g <$> xs.mapM f := by
  induction xs with
  | nil => rfl
  | cons x xs ih => simp only [List.mapM_cons, ih, bind_map_left, map_bind, map_pure, List.map_cons]

/-- **The direction of a definition** is that of all its masks, and has no part in anything else. -/
lemma Definition.compile_rightToLeft (d : Definition) (rightToLeft : Bool) :
    ({ d with rightToLeft } : Definition).compile = (·.directed rightToLeft) <$> d.compile := by
  have pattern (p : List Char) : ({ d with rightToLeft } : Definition).compilePattern p
      = (·.directed rightToLeft) <$> d.compilePattern p := by
    rw [compilePattern, compilePattern]
    cases Mask.compile d.notations p <;> rfl
  have patterns : ({ d with rightToLeft } : Definition).compilePattern
      = fun p => (·.directed rightToLeft) <$> d.compilePattern p := funext pattern
  simp only [compile, patterns, mapM_map_eq_map_mapM, bind_map_left, map_bind, map_pure]
  rfl

namespace CommandLine

variable {config : Config} {source : MaskSource} {field : Field}

lemma compileField_rightToLeft (d : Definition) (rightToLeft : Bool) :
    compileField { d with rightToLeft } = (·.directed rightToLeft) <$> compileField d := by
  rw [compileField, compileField, Definition.compile_rightToLeft]
  cases d.compile <;> rfl

/-- A source that stands for a field has a definition, which has a field for either direction: the same one
for its own. -/
lemma MaskSource.exists_of_resolve (resolved : source.resolve config = .ok field) :
    ∃ d, source.definition config = .ok d ∧ compileField d = .ok field
      ∧ field.directed d.rightToLeft = field
      ∧ ∀ rightToLeft, compileField { d with rightToLeft } = .ok (field.directed rightToLeft) := by
  rw [resolve] at resolved
  cases found : source.definition config with
  | error f => simp [found, bind, Except.bind] at resolved
  | ok d =>
      rw [found] at resolved
      have compiled : compileField d = .ok field := resolved
      have directed (rightToLeft : Bool) :
          compileField { d with rightToLeft } = .ok (field.directed rightToLeft) := by
        rw [compileField_rightToLeft, compiled]
        rfl
      exact ⟨d, rfl, compiled, Except.ok.inj ((directed d.rightToLeft).symm.trans compiled), directed⟩

namespace Command

/-- What is printed of a display, as a record or as the text alone. -/
def printed (json : Bool) (d : Display) : List Char := if json then Text.Json.record (record d) else d.text

lemma run_format_eq (config : Config) (source : MaskSource) (text : List Char)
    (noAutocomplete rightToLeft json : Bool) :
    (Command.format source text noAutocomplete rightToLeft json).run config
      = printed json <$> display config source text noAutocomplete rightToLeft := by
  rw [run, bind_pure_comp]
  rfl

/-- **Two commands agree.**  For every source that stands for a field, and for every text, formatting has a
result, with either direction and with the tail or without.  Without the option for the direction, the
value that is recorded is the text that the other command prints.  Without the tail, the value and its
completeness are the same, and the text is only cut short: at its end, or at its start if it is filled
from the right. -/
theorem run_format_unmask (resolved : source.resolve config = .ok field) (text : List Char)
    (rightToLeft : Bool) :
    ∃ shown bare : Display,
      (∀ json, (Command.format source text false rightToLeft json).run config
          = .ok (printed json shown))
        ∧ (∀ json, (Command.format source text true rightToLeft json).run config
          = .ok (printed json bare))
        ∧ (rightToLeft = false → (Command.unmask source text).run config = .ok shown.value)
        ∧ bare.value = shown.value ∧ bare.complete = shown.complete
        ∧ if rightToLeft || field.primary.rightToLeft then bare.text <:+ shown.text
          else bare.text <+: shown.text := by
  obtain ⟨d, found, compiled, own, directed⟩ := MaskSource.exists_of_resolve resolved
  have direction : d.rightToLeft = field.primary.rightToLeft := by rw [← own]; rfl
  let m := (field.directed (rightToLeft || d.rightToLeft)).best text
  have display (noAutocomplete : Bool) : display config source text noAutocomplete rightToLeft
      = .ok (({ m with autocomplete := !noAutocomplete && m.autocomplete } : Mask).format text) := by
    simp only [Command.display, found, directed, bind, Except.bind]
    rfl
  have reading : m.rightToLeft = (rightToLeft || field.primary.rightToLeft) := by
    rw [← direction]
    exact Field.rightToLeft_directed (Field.mask_mem ..)
  obtain ⟨value, complete, affix⟩ := m.format_autocomplete_false text
  refine ⟨_, _, ?_, ?_, ?_, value, complete, ?_⟩
  · intro json
    rw [run_format_eq, display]
    rfl
  · intro json
    rw [run_format_eq, display]
    rfl
  · rintro rfl
    -- Without the option, the definition is compiled as it is.
    have same : m = field.best text := by rw [← own, ← Bool.false_or d.rightToLeft]
    simp only [run, found, compiled, bind, Except.bind, same]
    rfl
  · rw [← reading]
    exact affix

/-- A field that is filled from the right and has a second mask for longer numbers.  The currency sign is
the tail. -/
theorem exists_run_format_unmask : ∃ (config : Config) (field : Field),
    (MaskSource.field "a".toList).resolve config = .ok field
      ∧ field.primary.rightToLeft = true ∧ field.pick "1,23".toList = 1
      ∧ (Command.format (.field "a".toList) "1,23".toList false false false).run config
        = .ok "$1,23".toList
      ∧ (Command.format (.field "a".toList) "1,23".toList true false false).run config
        = .ok "1,23".toList
      ∧ "1,23".toList <:+ "$1,23".toList
      ∧ ∃ shown : Display,
          (Command.format (.field "a".toList) "1,23".toList false false true).run config
            = .ok (printed true shown)
          ∧ (Command.unmask (.field "a".toList) "1,23".toList).run config = .ok shown.value
          ∧ shown.value = "123".toList := by
  let digit : Slot := .value .digit false
  let d : Definition :=
    { mask := "$[0]".toList, affineFormats := ["$[0],[00]".toList], rightToLeft := true }
  let config : Config := ⟨[("a".toList, d)], List.pairwise_singleton ..⟩
  let field : Field :=
    { primary := ⟨"$[0]".toList, [.literal '$', digit], true, true⟩
      others := [⟨"$[0],[00]".toList, [.literal '$', digit, .literal ',', digit, digit], true, true⟩] }
  have resolved : (MaskSource.field "a".toList).resolve config = .ok field := by decide +kernel
  have plain : (Command.format (.field "a".toList) "1,23".toList false false false).run config
      = .ok "$1,23".toList := by decide +kernel
  have cut : (Command.format (.field "a".toList) "1,23".toList true false false).run config
      = .ok "1,23".toList := by decide +kernel
  have unmasked : (Command.unmask (.field "a".toList) "1,23".toList).run config = .ok "123".toList := by
    decide +kernel
  obtain ⟨shown, bare, formats, formatsBare, unmasks, -, -, affix⟩ :=
    run_format_unmask resolved "1,23".toList false
  have text : "$1,23".toList = shown.text := Except.ok.inj (plain.symm.trans (formats false))
  have bareText : "1,23".toList = bare.text := Except.ok.inj (cut.symm.trans (formatsBare false))
  have value : "123".toList = shown.value := Except.ok.inj (unmasked.symm.trans (unmasks rfl))
  rw [← text, ← bareText] at affix
  exact ⟨config, field, resolved, rfl, by decide +kernel, plain, cut, affix, shown, formats true,
    unmasks rfl, value.symm⟩

end Command

end CommandLine

end MaskedInput
