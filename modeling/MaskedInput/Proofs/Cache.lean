import Mathlib.Data.List.Dedup
import Mathlib.Data.List.DropRight
import Mathlib.Tactic.Lemma
import MaskedInput.Cache

/-!
# Which masks are shared

A cache is not noticed by what it answers, since a pattern compiles to the same mask whenever it is asked
for.  It is noticed by which mask objects are the same.  A pattern keeps its object until the cache is
cleared, and an object that is made has a number that none had before.

* `Cache.Sound` — what the cache keeps is what the patterns compile to, under numbers of their own; every
  call keeps this (`Cache.Sound.step`).
* `Cache.find?_run` — what is kept stays, unless the cache is cleared; `Cache.NumbersFrom` — what is made
  after that has greater numbers than all that was made before.
* `Cache.id_eq_iff` — two answers are one object exactly if they are for one pattern, without a clearing
  in between.
* **`Cache.run_shares`** — the answers of a run of calls, and what is kept at its end.
-/

namespace MaskedInput

namespace Cache

variable {c : Cache} {p q : List Char} {a b : SharedMask} {call : CacheCall}

/-! ## One call -/

lemma mem_of_find? (kept : c.find? p = some a) : (p, a) ∈ c.entries := by
  obtain ⟨before, after, entries, -⟩ := List.lookup_eq_some_iff.mp kept
  exact entries ▸ List.mem_append_right before List.mem_cons_self

lemma find?_eq_none_iff : c.find? p = none ↔ p ∉ c.entries.map Prod.fst := by
  rw [find?, List.lookup_eq_none_iff]
  constructor
  · intro others mem
    obtain ⟨x, hx, rfl⟩ := List.mem_map.mp mem
    exact absurd (others x hx) (by simp)
  · intro missing x hx
    rw [bne_iff_ne]
    rintro rfl
    exact missing (List.mem_map_of_mem hx)

/-- **What asking for a mask does**: it finds one, makes one, or fails. -/
lemma get_cases (c : Cache) (p : List Char) :
    (∃ a, c.find? p = some a ∧ c.get p = (c, .ok a))
      ∨ (∃ m, c.find? p = none ∧ Mask.compile [] p = .ok m
        ∧ c.get p = (⟨(p, ⟨c.nextId, m⟩) :: c.entries, c.nextId + 1⟩, .ok ⟨c.nextId, m⟩))
      ∨ ∃ e, c.find? p = none ∧ Mask.compile [] p = .error e ∧ c.get p = (c, .error e) := by
  rw [get]
  cases found : c.find? p with
  | some a => exact .inl ⟨a, rfl, rfl⟩
  | none =>
      cases compiled : Mask.compile [] p with
      | ok m => exact .inr (.inl ⟨m, rfl, rfl, rfl⟩)
      | error e => exact .inr (.inr ⟨e, rfl, rfl, rfl⟩)

/-- A failure is not kept. -/
lemma get_of_error {e : PatternError} (failed : (c.get p).2 = .error e) : (c.get p).1 = c := by
  rcases c.get_cases p with ⟨a, -, eq⟩ | ⟨m, -, -, eq⟩ | ⟨e, -, -, eq⟩
  · rw [eq]
  · rw [eq] at failed
    exact absurd failed (by simp)
  · rw [eq]

/-- A mask that was handed out is kept. -/
lemma find?_get (ok : (c.get p).2 = .ok a) : (c.get p).1.find? p = some a := by
  rcases c.get_cases p with ⟨b, found, eq⟩ | ⟨m, -, -, eq⟩ | ⟨e, -, -, eq⟩
  · rw [eq] at ok ⊢
    rw [← Except.ok.inj ok]
    exact found
  · rw [eq] at ok ⊢
    rw [← Except.ok.inj ok]
    exact List.lookup_cons_self
  · rw [eq] at ok
    exact absurd ok (by simp)

/-- Another call leaves it where it is, unless that is a clearing. -/
lemma find?_step (kept : c.find? p = some a) (stays : call ≠ .clear) :
    (c.step call).1.find? p = some a := by
  cases call with
  | clear => exact absurd rfl stays
  | get q =>
      show (c.get q).1.find? p = some a
      rcases c.get_cases q with ⟨b, -, eq⟩ | ⟨m, missing, -, eq⟩ | ⟨e, -, -, eq⟩
      · rw [eq]
        exact kept
      · have other : p ≠ q := by
          rintro rfl
          exact absurd (missing.symm.trans kept) (by simp)
        rw [eq]
        rw [find?, List.lookup_cons, beq_false_of_ne other]
        exact kept
      · rw [eq]
        exact kept

/-- **What the cache keeps**: every pattern once, with the mask that it compiles to, under a number of its
own. -/
structure Sound (c : Cache) : Prop where
  patterns : (c.entries.map Prod.fst).Nodup
  compiled : ∀ x ∈ c.entries, Mask.compile [] x.1 = .ok x.2.mask
  numbers : (c.entries.map (·.2.id)).Nodup
  /-- The next number is not in use. -/
  below : ∀ x ∈ c.entries, x.2.id < c.nextId

namespace Sound

lemma empty (nextId : ℕ) : Sound ⟨[], nextId⟩ :=
  ⟨List.nodup_nil, nofun, List.nodup_nil, nofun⟩

lemma insert (h : c.Sound) (missing : c.find? p = none) {m : Mask} (compiled : Mask.compile [] p = .ok m) :
    Sound ⟨(p, ⟨c.nextId, m⟩) :: c.entries, c.nextId + 1⟩ := by
  have unused : c.nextId ∉ c.entries.map (·.2.id) := by
    intro used
    obtain ⟨x, hx, same⟩ := List.mem_map.mp used
    exact absurd same (h.below x hx).ne
  constructor
  case patterns => exact List.nodup_cons.mpr ⟨find?_eq_none_iff.mp missing, h.patterns⟩
  case compiled => exact List.forall_mem_cons.mpr ⟨compiled, h.compiled⟩
  case numbers => exact List.nodup_cons.mpr ⟨unused, h.numbers⟩
  case below =>
    exact List.forall_mem_cons.mpr ⟨Nat.lt_succ_self _, fun x hx => (h.below x hx).trans (Nat.lt_succ_self _)⟩

/-- **Every call keeps the cache sound.** -/
theorem step (h : c.Sound) (call : CacheCall) : (c.step call).1.Sound := by
  cases call with
  | clear => exact empty c.nextId
  | get p =>
      show (c.get p).1.Sound
      rcases c.get_cases p with ⟨a, -, eq⟩ | ⟨m, missing, compiled, eq⟩ | ⟨e, -, -, eq⟩
      · rw [eq]
        exact h
      · rw [eq]
        exact h.insert missing compiled
      · rw [eq]
        exact h

/-- **The answer is what compiling the pattern gives.** -/
lemma get_mask (h : c.Sound) (p : List Char) : (c.get p).2.map SharedMask.mask = Mask.compile [] p := by
  rcases c.get_cases p with ⟨a, found, eq⟩ | ⟨m, -, compiled, eq⟩ | ⟨e, -, failed, eq⟩
  · rw [eq]
    exact (h.compiled _ (mem_of_find? found)).symm
  · rw [eq, compiled]
    rfl
  · rw [eq, failed]
    rfl

/-- Two patterns that are kept at once have objects of their own. -/
lemma id_eq_iff (h : c.Sound) (keptP : c.find? p = some a) (keptQ : c.find? q = some b) :
    a.id = b.id ↔ p = q := by
  constructor
  · intro same
    have entry := List.inj_on_of_nodup_map h.numbers (mem_of_find? keptP) (mem_of_find? keptQ) same
    exact congrArg Prod.fst entry
  · rintro rfl
    rw [Option.some.inj (keptP.symm.trans keptQ)]

end Sound

/-! ## Runs of calls -/

lemma run_append (c : Cache) (before after : List CacheCall) :
    c.run (before ++ after)
      = (((c.run before).1.run after).1, (c.run before).2 ++ ((c.run before).1.run after).2) := by
  induction before generalizing c with
  | nil => rfl
  | cons call before ih => simp only [List.cons_append, run, ih]

lemma length_run (c : Cache) (calls : List CacheCall) : (c.run calls).2.length = calls.length := by
  induction calls generalizing c with
  | nil => rfl
  | cons call calls ih => simp [run, ih]

/-- The answer to a call is given by the cache to which the calls in front of it have led. -/
lemma run_answer (c : Cache) (before after : List CacheCall) (call : CacheCall) :
    (c.run (before ++ call :: after)).2[before.length]? = some ((c.run before).1.step call).2 := by
  rw [run_append, List.getElem?_append_right (c.length_run before).le, length_run, Nat.sub_self]
  rfl

lemma Sound.run (h : c.Sound) (calls : List CacheCall) : (c.run calls).1.Sound := by
  induction calls generalizing c with
  | nil => exact h
  | cons call calls ih => exact ih (h.step call)

/-- **What is kept stays**, unless the cache is cleared. -/
lemma find?_run {calls : List CacheCall} (kept : c.find? p = some a) (stays : .clear ∉ calls) :
    (c.run calls).1.find? p = some a := by
  induction calls generalizing c with
  | nil => exact kept
  | cons call calls ih =>
      rw [List.mem_cons, not_or] at stays
      exact ih (find?_step kept (Ne.symm stays.1)) stays.2

/-! ## Numbers -/

/-- Every mask that the cache keeps or makes has the number `n` or a greater one. -/
structure NumbersFrom (n : ℕ) (c : Cache) : Prop where
  kept : ∀ x ∈ c.entries, n ≤ x.2.id
  next : n ≤ c.nextId

namespace NumbersFrom

variable {n : ℕ}

lemma step (h : NumbersFrom n c) (call : CacheCall) : NumbersFrom n (c.step call).1 := by
  cases call with
  | clear => exact ⟨nofun, h.next⟩
  | get p =>
      show NumbersFrom n (c.get p).1
      rcases c.get_cases p with ⟨a, -, eq⟩ | ⟨m, -, -, eq⟩ | ⟨e, -, -, eq⟩
      · rw [eq]
        exact h
      · rw [eq]
        exact ⟨List.forall_mem_cons.mpr ⟨h.next, h.kept⟩, h.next.trans (Nat.le_succ _)⟩
      · rw [eq]
        exact h

lemma run (h : NumbersFrom n c) (calls : List CacheCall) : NumbersFrom n (c.run calls).1 := by
  induction calls generalizing c with
  | nil => exact h
  | cons call calls ih => exact ih (h.step call)

lemma le_id (h : NumbersFrom n c) (ok : (c.get p).2 = .ok a) : n ≤ a.id :=
  (h.step (.get p)).kept _ (mem_of_find? (find?_get ok))

end NumbersFrom

lemma nextId_le_step (c : Cache) (call : CacheCall) : c.nextId ≤ (c.step call).1.nextId := by
  cases call with
  | clear => exact le_refl _
  | get p =>
      show c.nextId ≤ (c.get p).1.nextId
      rcases c.get_cases p with ⟨a, -, eq⟩ | ⟨m, -, -, eq⟩ | ⟨e, -, -, eq⟩
      · rw [eq]
      · rw [eq]
        exact Nat.le_succ _
      · rw [eq]

lemma nextId_le_run (c : Cache) (calls : List CacheCall) : c.nextId ≤ (c.run calls).1.nextId := by
  induction calls generalizing c with
  | nil => exact le_refl _
  | cons call calls ih => exact (c.nextId_le_step call).trans (ih _)

/-- **What is handed out after a clearing was not there before.** -/
lemma nextId_le_id_of_cleared {calls : List CacheCall} (cleared : .clear ∈ calls)
    (ok : ((c.run calls).1.get p).2 = .ok a) : c.nextId ≤ a.id := by
  obtain ⟨before, after, rfl⟩ := List.append_of_mem cleared
  have empty : NumbersFrom c.nextId (c.run before).1.clear := ⟨nofun, c.nextId_le_run before⟩
  rw [run_append] at ok
  exact (empty.run after).le_id ok

/-- **Two answers are one object** exactly if they are for one pattern, and the cache is not cleared in
between. -/
theorem id_eq_iff (h : c.Sound) {calls : List CacheCall} (first : (c.get p).2 = .ok a)
    (second : (((c.get p).1.run calls).1.get q).2 = .ok b) : a.id = b.id ↔ p = q ∧ .clear ∉ calls := by
  have sound : (c.get p).1.Sound := h.step (.get p)
  by_cases cleared : .clear ∈ calls
  · have before := sound.below _ (mem_of_find? (find?_get first))
    have after := nextId_le_id_of_cleared cleared second
    exact iff_of_false (before.trans_le after).ne fun both => both.2 cleared
  · have stays : CacheCall.get q ≠ .clear := nofun
    have kept : (((c.get p).1.run calls).1.get q).1.find? p = some a :=
      find?_step (find?_run (find?_get first) cleared) stays
    have both := ((sound.run calls).step (.get q)).id_eq_iff kept (find?_get second)
    exact both.trans (and_iff_left cleared).symm

end Cache

/-! ## What is kept at the end -/

lemma Mask.isValid_iff {p : List Char} : isValid p = true ↔ ∃ m, compile [] p = .ok m := by
  rw [isValid]
  cases compile [] p <;> simp [Except.isOk, Except.toBool]

/-- The pattern that a call asks for, if it compiles. -/
def CacheCall.compiled? : CacheCall → Option (List Char)
  | get p => if Mask.isValid p then some p else none
  | clear => none

namespace Cache

variable {c : Cache} {p q : List Char}

/-- The calls behind the last clearing. -/
def sinceClear (calls : List CacheCall) : List CacheCall := calls.rtakeWhile (· != .clear)

/-- **The patterns that were asked for with success** since the last clearing, each of them once. -/
def requested (calls : List CacheCall) : List (List Char) :=
  ((sinceClear calls).filterMap CacheCall.compiled?).dedup

lemma compiled?_get_eq_some_iff : (CacheCall.get q).compiled? = some p ↔ Mask.isValid q = true ∧ q = p := by
  rw [CacheCall.compiled?]
  split_ifs with valid
  · simp [valid]
  · simp [valid]

/-- Asking for a mask adds its pattern, if that compiles. -/
lemma mem_patterns_get :
    p ∈ (c.get q).1.entries.map Prod.fst
      ↔ p ∈ c.entries.map Prod.fst ∨ (CacheCall.get q).compiled? = some p := by
  rw [compiled?_get_eq_some_iff, Mask.isValid_iff]
  rcases c.get_cases q with ⟨a, found, eq⟩ | ⟨m, -, compiled, eq⟩ | ⟨e, -, failed, eq⟩
  · rw [eq, or_iff_left_of_imp]
    rintro ⟨-, rfl⟩
    exact List.mem_map_of_mem (mem_of_find? found)
  · rw [eq, List.map_cons, List.mem_cons, or_comm]
    simp [compiled, eq_comm]
  · simp [eq, failed]

/-- **At the end of a run, the cache keeps the patterns that were asked for** since the last clearing. -/
lemma mem_patterns_run (calls : List CacheCall) :
    p ∈ (run {} calls).1.entries.map Prod.fst
      ↔ p ∈ (sinceClear calls).filterMap CacheCall.compiled? := by
  induction calls using List.reverseRecOn with
  | nil => simp [run, sinceClear]
  | append_singleton calls call ih =>
      rw [run_append]
      cases call with
      | clear =>
          rw [sinceClear, List.rtakeWhile_concat_neg _ _ _ (by simp)]
          exact Iff.rfl
      | get q =>
          rw [sinceClear, List.rtakeWhile_concat_pos _ _ _ (by simp), ← sinceClear, List.filterMap_append,
            List.mem_append, ← ih]
          refine mem_patterns_get.trans (or_congr_right ?_)
          simp only [List.mem_filterMap, List.mem_singleton, exists_eq_left]

lemma size_run (calls : List CacheCall) : (run {} calls).1.size = (requested calls).length := by
  have patterns := ((Sound.empty 0).run calls).patterns
  have same : ((run {} calls).1.entries.map Prod.fst).Perm (requested calls) := by
    refine (List.perm_ext_iff_of_nodup patterns (List.nodup_dedup _)).mpr fun p => ?_
    rw [List.mem_dedup]
    exact mem_patterns_run calls
  rw [size, ← same.length_eq, List.length_map]

/-! ## The answers of a run -/

/-- **A cache is transparent, and it shares.**  In every run of calls, asking for a pattern is answered by
the mask that it compiles to, or by the error.  Two of the masks handed out are one object exactly if they
were asked for by the same pattern, and the cache was not cleared in between.  At the end the cache keeps
as many masks as patterns were asked for with success since it was cleared last, and asking for a pattern
that does not compile leaves it as it is. -/
theorem run_shares (calls : List CacheCall) :
    (∀ before p after, calls = before ++ .get p :: after →
        ∃ answer, (run {} calls).2[before.length]? = some (some answer)
          ∧ answer.map SharedMask.mask = Mask.compile [] p)
      ∧ (∀ before p between q after a b, calls = before ++ .get p :: (between ++ .get q :: after) →
        (run {} calls).2[before.length]? = some (some (.ok a)) →
        (run {} calls).2[before.length + 1 + between.length]? = some (some (.ok b)) →
          (a.id = b.id ↔ p = q ∧ .clear ∉ between))
      ∧ (run {} calls).1.size = (requested calls).length
      ∧ ∀ p e, ((run {} calls).1.get p).2 = .error e → ((run {} calls).1.get p).1 = (run {} calls).1 := by
  have sound (calls : List CacheCall) : (run {} calls).1.Sound := (Sound.empty 0).run calls
  refine ⟨?_, ?_, size_run calls, fun p e failed => get_of_error failed⟩
  · rintro before p after rfl
    exact ⟨_, run_answer {} before after (.get p), (sound before).get_mask p⟩
  · rintro before p between q after a b rfl first second
    have earlier := run_answer {} before (between ++ .get q :: after) (.get p)
    have later := run_answer {} (before ++ .get p :: between) after (.get q)
    rw [List.append_assoc, List.cons_append, List.length_append, List.length_cons, Nat.add_comm _ 1,
      ← Nat.add_assoc, run_append {} before (.get p :: between)] at later
    rw [earlier] at first
    rw [later] at second
    exact id_eq_iff (sound before) (Option.some.inj (Option.some.inj first))
      (Option.some.inj (Option.some.inj second))

/-- The pattern with the digit is asked for three times: the second time, past an error, it is answered with
the same object, and the third time, behind a clearing, with another one. -/
theorem exists_run_shares : ∃ (calls : List CacheCall) (a b d : SharedMask),
    (run {} calls).2 = [some (.ok a), some (.error ⟨.unclosedBracket .square, 0⟩), some (.ok b),
        none, some (.ok d)]
      ∧ Mask.compile [] "[0]".toList = .ok d.mask ∧ a.id = b.id ∧ b.id ≠ d.id
      ∧ requested calls = ["[0]".toList] ∧ (run {} calls).1.size = 1
      ∧ ((run {} calls).1.get "[0".toList).1 = (run {} calls).1 := by
  let digit : CacheCall := .get "[0]".toList
  let broken : CacheCall := .get "[0".toList
  let m : Mask := ⟨"[0]".toList, [.value .digit false], true, false⟩
  let calls : List CacheCall := [digit, broken, digit, .clear, digit]
  have answers : (run {} calls).2 = [some (.ok ⟨0, m⟩), some (.error ⟨.unclosedBracket .square, 0⟩),
      some (.ok ⟨0, m⟩), none, some (.ok ⟨1, m⟩)] := by decide +kernel
  obtain ⟨transparent, shared, size, failing⟩ := run_shares calls
  obtain ⟨answer, last, compiled⟩ := transparent [digit, broken, digit, .clear] _ [] rfl
  rw [answers] at shared last
  obtain rfl : .ok ⟨1, m⟩ = answer := Option.some.inj (Option.some.inj last)
  have same := (shared [] _ [broken] _ [.clear, digit] _ _ rfl rfl rfl).mpr ⟨rfl, by decide⟩
  have apart := (shared [digit, broken] _ [.clear] _ [] _ _ rfl rfl rfl).not.mpr fun both =>
    both.2 List.mem_cons_self
  have once : requested calls = ["[0]".toList] := by decide +kernel
  rw [once] at size
  exact ⟨calls, _, _, _, answers, compiled.symm, same, apart, once, size,
    failing _ ⟨.unclosedBracket .square, 0⟩ (by decide +kernel)⟩

end Cache

end MaskedInput
