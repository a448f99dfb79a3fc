import MaskedInput.Config.Yaml
import MaskedInput.Proofs.Text.Octets

/-!
# Configurations are checked when they are read

A configuration is accepted if every pattern of every field compiles, and is then taken as it is.  What
is reported otherwise comes from two searches, one inside the other: the first bad field is looked for
among the fields, in the order of their names, and the first bad pattern among the patterns of a field.
Both are one search, for the first element of a list with which a function fails.

* `FailsFirst` — a function fails with an element of a list, and with none in front of it;
  `mapM_eq_error_iff` — so it does with the whole list.
* `Definition.Sound`, `Config.Sound` — every pattern compiles, under the notations of its field.
* `Definition.compile_eq_error_iff`, `Definition.exists_compile_iff` — when a field is compiled.
* `Config.validate_eq_ok_iff`, `Config.validate_eq_error_iff` — when a configuration is accepted.
* `Config.ofOctets_eq_ok_iff` — when a file is; `Config.inForce_sound` — what is in force always was.
* **`Config.ofText_exact`** — what becomes of a text that stands for a configuration.
-/

namespace MaskedInput

/-! ## The first failure -/

section FirstFailure

variable {α β ε : Type} {f : α → Except ε β} {x y : α} {xs : List α} {e : ε}

lemma bind_eq_error_iff {r : Except ε α} :
    (r >>= f) = .error e ↔ r = .error e ∨ ∃ a, r = .ok a ∧ f a = .error e := by
  cases r <;> simp [bind, Except.bind]

lemma map_eq_error_iff {g : β → α} {r : Except ε β} : g <$> r = .error e ↔ r = .error e := by
  cases r <;> simp

/-- A result is a value, or else an error. -/
lemma exists_ok_iff {r : Except ε β} : (∃ b, r = .ok b) ↔ ¬ ∃ e, r = .error e := by
  cases r <;> simp

/-- **The first failure**: the function fails with an element of the list, and with none in front of
it. -/
def FailsFirst (f : α → Except ε β) (xs : List α) (x : α) (e : ε) : Prop :=
  ∃ before after, xs = before ++ x :: after ∧ (∀ y ∈ before, ∃ b, f y = .ok b) ∧ f x = .error e

lemma FailsFirst.mem (h : FailsFirst f xs x e) : x ∈ xs := by
  obtain ⟨before, after, rfl, -, -⟩ := h
  exact List.mem_append_right _ List.mem_cons_self

lemma FailsFirst.error (h : FailsFirst f xs x e) : f x = .error e := by
  obtain ⟨-, -, -, -, error⟩ := h
  exact error

lemma not_failsFirst_nil : ¬ FailsFirst f [] x e :=
  fun h => List.not_mem_nil h.mem

/-- Behind an element with which the function fails, it is not looked any further. -/
lemma failsFirst_cons_of_error {e' : ε} (failed : f y = .error e') :
    FailsFirst f (y :: xs) x e ↔ x = y ∧ e = e' := by
  constructor
  · rintro ⟨before, after, eq, oks, error⟩
    cases before with
    | nil =>
        obtain ⟨rfl, -⟩ := List.cons.inj eq
        exact ⟨rfl, Except.error.inj (error.symm.trans failed)⟩
    | cons z before =>
        obtain ⟨rfl, -⟩ := List.cons.inj eq
        obtain ⟨b, ok⟩ := oks y List.mem_cons_self
        exact absurd (ok.symm.trans failed) (by simp)
  · rintro ⟨rfl, rfl⟩
    exact ⟨[], xs, rfl, by simp, failed⟩

lemma failsFirst_cons_of_ok {b : β} (ok : f y = .ok b) :
    FailsFirst f (y :: xs) x e ↔ FailsFirst f xs x e := by
  constructor
  · rintro ⟨before, after, eq, oks, error⟩
    cases before with
    | nil =>
        obtain ⟨rfl, -⟩ := List.cons.inj eq
        exact absurd (ok.symm.trans error) (by simp)
    | cons z before =>
        exact ⟨before, after, (List.cons.inj eq).2, (List.forall_mem_cons.mp oks).2, error⟩
  · rintro ⟨before, after, rfl, oks, error⟩
    exact ⟨y :: before, after, rfl, List.forall_mem_cons.mpr ⟨⟨b, ok⟩, oks⟩, error⟩

/-- A function fails with no element of a list, or with a first one. -/
lemma forall_ok_iff : (∀ x ∈ xs, ∃ b, f x = .ok b) ↔ ¬ ∃ x e, FailsFirst f xs x e := by
  constructor
  · rintro oks ⟨x, e, first⟩
    obtain ⟨b, ok⟩ := oks x first.mem
    exact absurd (ok.symm.trans first.error) (by simp)
  · intro never
    induction xs with
    | nil => simp
    | cons y xs ih =>
        cases result : f y with
        | error e => exact absurd ⟨y, e, (failsFirst_cons_of_error result).mpr ⟨rfl, rfl⟩⟩ never
        | ok b =>
            simp only [failsFirst_cons_of_ok result] at never
            exact List.forall_mem_cons.mpr ⟨⟨b, result⟩, ih never⟩

/-- A function fails with a list as it first does with an element of it. -/
theorem mapM_eq_error_iff : xs.mapM f = .error e ↔ ∃ x, FailsFirst f xs x e := by
  induction xs with
  | nil =>
      constructor
      · exact nofun
      · exact fun ⟨x, first⟩ => absurd first not_failsFirst_nil
  | cons y xs ih =>
      rw [List.mapM_cons]
      simp only [bind_pure_comp, bind_eq_error_iff, map_eq_error_iff, ih]
      cases result : f y with
      | error e' => simp [failsFirst_cons_of_error result, eq_comm]
      | ok b => simp [failsFirst_cons_of_ok result]

end FirstFailure

/-! ## One field -/

namespace Definition

variable {d : Definition} {e : PatternError}

/-- **Every pattern compiles**, under the notations of the definition. -/
def Sound (d : Definition) : Prop := ∀ pattern ∈ d.patterns, ∃ m, Mask.compile d.notations pattern = .ok m

/-- The options of a definition have no part in whether its patterns compile. -/
lemma failsFirst_compilePattern_iff {patterns : List (List Char)} {pattern : List Char} :
    FailsFirst d.compilePattern patterns pattern e
      ↔ FailsFirst (Mask.compile d.notations) patterns pattern e := by
  have error (p : List Char) (e : PatternError) :
      d.compilePattern p = .error e ↔ Mask.compile d.notations p = .error e := map_eq_error_iff
  have ok (p : List Char) : (∃ m, d.compilePattern p = .ok m) ↔ ∃ m, Mask.compile d.notations p = .ok m := by
    simp only [exists_ok_iff, error]
  simp only [FailsFirst, ok, error]

lemma compile_eq_error_iff_mapM :
    d.compile = .error e ↔ d.patterns.mapM d.compilePattern = .error e := by
  rw [compile, patterns, List.mapM_cons]
  simp only [bind_pure_comp, bind_eq_error_iff, map_eq_error_iff]

/-- **The error of a field** is the one of its first bad pattern. -/
theorem compile_eq_error_iff :
    d.compile = .error e ↔ ∃ pattern, FailsFirst (Mask.compile d.notations) d.patterns pattern e := by
  rw [compile_eq_error_iff_mapM, mapM_eq_error_iff]
  simp only [failsFirst_compilePattern_iff]

/-- **A field is compiled** exactly if every pattern of it is. -/
theorem exists_compile_iff : (∃ field, d.compile = .ok field) ↔ d.Sound := by
  rw [exists_ok_iff, Sound, forall_ok_iff]
  simp only [compile_eq_error_iff]
  exact not_congr exists_comm

instance : Decidable d.Sound :=
  decidable_of_iff (d.compile.toOption.isSome = true) <| by
    rw [← exists_compile_iff]
    cases d.compile <;> simp [Except.toOption]

end Definition

/-! ## All fields -/

namespace Config

variable {c : Config}

/-- **Every pattern of every field compiles.** -/
def Sound (c : Config) : Prop := ∀ x ∈ c.fields, x.2.Sound

lemma sound_iff : c.Sound ↔ ¬ ∃ x e, FailsFirst (·.2.compile) c.fields x e := by
  simp only [Sound, ← Definition.exists_compile_iff, forall_ok_iff]

lemma firstError?_eq_some_iff {fields : List (FieldName × Definition)} {error : ConfigError} :
    firstError? fields = some error
      ↔ ∃ x e, FailsFirst (·.2.compile) fields x e ∧ error = .invalidMask x.1 e := by
  induction fields with
  | nil =>
      constructor
      · exact nofun
      · exact fun ⟨x, e, first, _⟩ => absurd first not_failsFirst_nil
  | cons head rest ih =>
      rw [firstError?]
      cases result : head.2.compile with
      | error e =>
          have failed (x : FieldName × Definition) (e' : PatternError) :
              FailsFirst (·.2.compile) (head :: rest) x e' ↔ x = head ∧ e' = e :=
            failsFirst_cons_of_error (f := fun x : FieldName × Definition => x.2.compile) result
          simp only [failed, Option.some.injEq]
          constructor
          · rintro rfl
            exact ⟨head, e, ⟨rfl, rfl⟩, rfl⟩
          · rintro ⟨_, _, ⟨rfl, rfl⟩, rfl⟩
            rfl
      | ok field =>
          have passed (x : FieldName × Definition) (e : PatternError) :
              FailsFirst (·.2.compile) (head :: rest) x e ↔ FailsFirst (·.2.compile) rest x e :=
            failsFirst_cons_of_ok (f := fun x : FieldName × Definition => x.2.compile) result
          simp only [passed]
          exact ih

/-- **What is reported** is the first field that does not compile, with its error. -/
theorem validate_eq_error_iff {error : ConfigError} : c.validate = .error error
    ↔ ∃ x e, FailsFirst (·.2.compile) c.fields x e ∧ error = .invalidMask x.1 e := by
  rw [← firstError?_eq_some_iff, validate]
  cases firstError? c.fields <;> simp

/-- A configuration is accepted as it is. -/
lemma eq_of_validate_eq_ok {result : Config} (ok : c.validate = .ok result) : result = c := by
  rw [validate] at ok
  cases failed : firstError? c.fields with
  | none => simpa [failed, eq_comm] using ok
  | some e => simp [failed] at ok

/-- **A configuration is accepted** exactly if every field compiles. -/
theorem validate_eq_ok_iff : c.validate = .ok c ↔ c.Sound := by
  have accepted : (∃ result, c.validate = .ok result) ↔ c.validate = .ok c :=
    ⟨fun ⟨_, ok⟩ => eq_of_validate_eq_ok ok ▸ ok, fun ok => ⟨c, ok⟩⟩
  rw [← accepted, exists_ok_iff, sound_iff]
  simp only [validate_eq_error_iff]
  exact not_congr ⟨fun ⟨_, x, e, first, _⟩ => ⟨x, e, first⟩, fun ⟨x, e, first⟩ => ⟨_, x, e, first, rfl⟩⟩

/-- Of the bad fields, the first one has the least name, by its octets. -/
lemma octets_le_of_failsFirst {x : FieldName × Definition} {e : PatternError}
    (first : FailsFirst (·.2.compile) c.fields x e) {y : FieldName × Definition} (hy : y ∈ c.fields)
    (bad : ¬ y.2.Sound) : Text.octets x.1 ≤ Text.octets y.1 := by
  obtain ⟨before, after, eq, oks, -⟩ := first
  have ascending := c.ascending
  rw [eq, List.pairwise_append, List.pairwise_cons] at ascending
  rw [eq] at hy
  rcases List.mem_append.mp hy with hy | hy
  · exact absurd (Definition.exists_compile_iff.mp (oks y hy)) bad
  · rcases List.mem_cons.mp hy with rfl | hy
    · exact List.le_refl _
    · exact List.le_of_lt (Text.octets_lt_octets (ascending.2.1.1 y hy))

/-- A definition that is found is one of the configuration. -/
lemma Sound.of_find? (sound : c.Sound) {name : FieldName} {d : Definition} (found : c.find? name = some d) :
    d.Sound := by
  obtain ⟨before, after, eq, -⟩ := List.lookup_eq_some_iff.mp found
  exact sound (name, d) (eq ▸ List.mem_append_right before List.mem_cons_self)

/-! ## From a text -/

section Reading

variable {read : List Char → Option Config} {text : List Char} {octets : Option ByteArray}

theorem ofText_eq_ok_iff : ofText read text = .ok c ↔ read text = some c ∧ c.Sound := by
  rw [ofText]
  cases read text with
  | none => simp
  | some given =>
      simp only [Option.some.injEq]
      constructor
      · intro ok
        obtain rfl := eq_of_validate_eq_ok ok
        exact ⟨rfl, validate_eq_ok_iff.mp ok⟩
      · rintro ⟨rfl, sound⟩
        exact validate_eq_ok_iff.mpr sound

theorem ofOctets_eq_ok_iff : ofOctets read octets = .ok c
    ↔ ∃ text, octets.bind String.fromUTF8? = some text ∧ read text.toList = some c ∧ c.Sound := by
  rw [ofOctets]
  cases octets.bind String.fromUTF8? with
  | none => simp
  | some text => simp [ofText_eq_ok_iff]

/-- What is in force has passed the check, or else is empty. -/
lemma inForce_eq (read : List Char → Option Config) (octets : Option ByteArray) :
    ofOctets read octets = .ok (inForce read octets) ∨ inForce read octets = {} := by
  rw [inForce]
  cases ofOctets read octets with
  | ok c => exact .inl rfl
  | error e => exact .inr rfl

/-- **Every pattern that is in force compiles**, whatever the file contains. -/
theorem inForce_sound : (inForce read octets).Sound := by
  rcases inForce_eq read octets with ok | empty
  · obtain ⟨-, -, -, sound⟩ := ofOctets_eq_ok_iff.mp ok
    exact sound
  · rw [empty]
    exact nofun

/-- A file without a sound configuration defines no field. -/
lemma find?_inForce_of_unsound {name : FieldName}
    (unsound : ∀ text c, octets.bind String.fromUTF8? = some text → read text.toList = some c → ¬ c.Sound) :
    (inForce read octets).find? name = none := by
  rcases inForce_eq read octets with ok | empty
  · obtain ⟨text, decoded, parsed, sound⟩ := ofOctets_eq_ok_iff.mp ok
    exact absurd sound (unsound text _ decoded parsed)
  · rw [empty]
    rfl

/-- **Checking a configuration is exact**, however its text is read.  A text that stands for a
configuration gives just that one if every pattern of every field compiles, and then every field of it
compiles later on.  If not, the error names the bad field whose name is the least, by its octets, with
the error of the first bad pattern of it, the primary one being the first to be looked at. -/
theorem ofText_exact (parsed : read text = some c) :
    (ofText read text = .ok c ↔ ∀ x ∈ c.fields, ∀ pattern ∈ x.2.mask :: x.2.affineFormats,
        ∃ m, Mask.compile x.2.notations pattern = .ok m)
      ∧ (∀ result, ofText read text = .ok result →
        result = c ∧ ∀ x ∈ result.fields, ∃ field, x.2.compile = .ok field)
      ∧ (¬ c.Sound → ∃ name d pattern e, (name, d) ∈ c.fields
        ∧ (∀ x ∈ c.fields, ¬ x.2.Sound → Text.octets name ≤ Text.octets x.1)
        ∧ FailsFirst (Mask.compile d.notations) (d.mask :: d.affineFormats) pattern e
        ∧ ofText read text = .error (.invalidMask name e)) := by
  refine ⟨ofText_eq_ok_iff.trans (and_iff_right parsed), ?_, ?_⟩
  · intro result ok
    obtain ⟨parsed', sound⟩ := ofText_eq_ok_iff.mp ok
    exact ⟨Option.some.inj (parsed'.symm.trans parsed),
      fun x hx => Definition.exists_compile_iff.mpr (sound x hx)⟩
  · intro bad
    obtain ⟨⟨name, d⟩, e, first⟩ := not_not.mp (mt sound_iff.mpr bad)
    obtain ⟨pattern, firstBad⟩ := Definition.compile_eq_error_iff.mp first.error
    have error : ofText read text = .error (.invalidMask name e) := by
      rw [ofText, parsed]
      exact validate_eq_error_iff.mpr ⟨_, e, first, rfl⟩
    exact ⟨name, d, pattern, e, first.mem, fun x hx => octets_le_of_failsFirst first hx, firstBad, error⟩

/-- Three of four fields are bad.  The last one in the text has the least name, and its second affine
pattern is the first at fault; the name with an accent comes behind all others.  Without the bad patterns
the same names are accepted. -/
theorem exists_ofText_exact : ∃ (faulty sound : List Char) (c : Config),
    ofText parse? faulty = .error (.invalidMask "a".toList ⟨.unmatchedBracket .square, 0⟩)
      ∧ parse? sound = some c ∧ c.fields.map Prod.fst = ["a".toList, "z".toList, "é".toList]
      ∧ ofText parse? sound = .ok c := by
  let good : Definition := { mask := "[0]".toList }
  let bad : Definition := { mask := "[0".toList }
  let worse : Definition := { good with affineFormats := ["00".toList, "]".toList, "[0".toList] }
  let faulty := ("fields:\n  é: \x7bmask: \"[0\"\x7d\n  z: \x7bmask: \"[0\"\x7d\n" ++
    "  m: \x7bmask: \"[0]\"\x7d\n" ++
    "  a: \x7bmask: \"[0]\", affine_formats: [\"00\", \"]\", \"[0\"]\x7d\n").toList
  let sound := ("fields:\n  é: \x7bmask: \"[0]\"\x7d\n  z: \x7bmask: \"[0]\"\x7d\n" ++
    "  a: \x7bmask: \"[0]\"\x7d\n").toList
  obtain ⟨c, parsed, fields⟩ := Option.map_eq_some_iff.mp (show (parse? faulty).map (·.fields)
    = some [("a".toList, worse), ("m".toList, good), ("z".toList, bad), ("é".toList, bad)]
      from by decide +kernel)
  obtain ⟨c', parsed', fields'⟩ := Option.map_eq_some_iff.mp (show (parse? sound).map (·.fields)
    = some [("a".toList, good), ("z".toList, good), ("é".toList, good)] from by decide +kernel)
  refine ⟨faulty, sound, c', ?_, parsed', by rw [fields']; rfl, (ofText_exact parsed').1.mpr ?_⟩
  · have mem : ("a".toList, worse) ∈ c.fields := fields ▸ List.mem_cons_self
    have unsound : ¬ worse.Sound := by decide +kernel
    obtain ⟨name, d, pattern, e, named, least, first, error⟩ :=
      (ofText_exact parsed).2.2 fun all => unsound (all _ mem)
    have least := least _ mem unsound
    have failed : worse.patterns.mapM (Mask.compile []) = .error ⟨.unmatchedBracket .square, 0⟩ := by
      decide +kernel
    simp only [fields, List.mem_cons, Prod.mk.injEq, List.not_mem_nil, or_false] at named
    rcases named with ⟨rfl, rfl⟩ | ⟨rfl, -⟩ | ⟨rfl, -⟩ | ⟨rfl, -⟩
    · rw [error, Except.error.inj (failed.symm.trans (mapM_eq_error_iff.mpr ⟨pattern, first⟩))]
    all_goals exact absurd least (by decide +kernel)
  · have all : ∀ x ∈ c'.fields, x.2.Sound := by
      rw [fields']
      decide +kernel
    exact all

end Reading

end Config

end MaskedInput
