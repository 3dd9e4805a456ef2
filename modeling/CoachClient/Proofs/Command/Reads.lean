/-
CoachClient.Proofs.Command.Reads — which words make up a form.

* `Settles` — the pending option, if there is one, has a value of its kind and has not
  been used before.
* `Takes` — a word that chooses no form is taken up: as the end of the options, an
  option, the value of one, or an operand.
* `Reads` — the words of a form, by three rules: they are over, a word chooses a form
  below, or it is taken up.
* `settle_eq_ok`, `readWord_eq_ok`, `finish_eq_ok`, `readForm_eq_ok` — the reader succeeds
  with just what these relations allow.

A reader that fails says why, with the usage of a grammar. The relations leave the
failures out, and with them all of the grammar but its options and whether it needs a
command. What is to be known of words that are read goes by induction on `Reads`.
-/
import CoachClient.Command.Reading
import CoachClient.Proofs.Success

namespace CoachClient.Command

/-! ## 1. Options -/

/-- The pending option is settled. -/
inductive Settles : Progress → Progress → Prop where
  | idle {p : Progress} (h : p.pending = none) : Settles p p
  | value {p : Progress} {flag : Flag} {v : String} {a : Argument}
      (hpending : p.pending = some (flag, some v)) (hnew : p.settled.lookup flag.name = none)
      (hread : flag.kind.read v = .ok a) :
      Settles p { p with pending := none, settled := p.settled ++ [(flag.name, a)] }

section
variable {s : Spot} {p p' : Progress} {word : String} {later : List String}

theorem settle_eq_ok : settle s p = .ok p' ↔ Settles p p' := by
  constructor
  · intro h
    unfold settle at h
    split at h
    · rename_i hpending
      rw [← Except.ok.inj h]
      exact .idle hpending
    · cases h
    · rename_i flag v hpending
      split at h
      · cases h
      · rename_i hnew
        split at h
        · cases h
        · rename_i a hread
          rw [← Except.ok.inj h]
          exact .value hpending (Option.not_isSome_iff_eq_none.mp hnew) hread
  · intro h
    cases h with
    | idle hpending => simp only [settle, hpending]
    | value hpending hnew hread => simp only [settle, hpending, hnew, hread]; rfl

/-! ## 2. Words -/

/-- The word is neither an option nor the end of the options. -/
def IsPlain (word : String) : Prop :=
  word ≠ "--" ∧ longOption? word = none ∧ shortOption? word = none

/-- A word that chooses no form is taken up. -/
inductive Takes (s : Spot) (p : Progress) (word : String) : Progress → Prop where
  | separator (hopen : p.separated = false) (h : word = "--") :
      Takes s p word { p with separated := true }
  | option {name : String} {flag : Flag} {p₁ : Progress} (hopen : p.separated = false)
      (hne : word ≠ "--") (hword : longOption? word = some (name, none))
      (hflag : s.flag? name = some flag) (hp : Settles p p₁) :
      Takes s p word { p₁ with pending := some (flag, none) }
  | attached {name v : String} {flag : Flag} {p₁ p₂ : Progress} (hopen : p.separated = false)
      (hne : word ≠ "--") (hword : longOption? word = some (name, some v))
      (hflag : s.flag? name = some flag) (hp : Settles p p₁)
      (hv : Settles { p₁ with pending := some (flag, some v) } p₂) : Takes s p word p₂
  | value {flag : Flag} (hopen : p.separated = false) (hword : IsPlain word)
      (hpending : p.pending = some (flag, none)) :
      Takes s p word { p with pending := some (flag, some word) }
  | operand {p₁ : Progress} (hword : p.separated = true ∨ IsPlain word)
      (hroom : p.operands.length < s.form.operands.length) (hp : Settles p p₁) :
      Takes s p word { p₁ with operands := p₁.operands ++ [word] }

/-- An option is read if the form has it. -/
theorem readLong_eq_ok {name : String} {value : Option String} :
    readLong s p name value later = .ok p' ↔
      ∃ flag p₁, s.flag? name = some flag ∧ Settles p p₁ ∧
        match value with
        | none => { p₁ with pending := some (flag, none) } = p'
        | some v => Settles { p₁ with pending := some (flag, some v) } p' := by
  unfold readLong
  cases hflag : s.flag? name with
  | none =>
    -- what is no option of the form is a question, or unknown
    simp only [reduceCtorEq, false_and, exists_false, iff_false]
    split
    · simp [bind_eq_ok]
    · simp
    · simp
  | some flag =>
    simp only [bind_eq_ok, settle_eq_ok, Option.some.injEq, exists_and_left, exists_eq_left']
    cases value with
    | none => simp only [Except.ok.injEq]
    | some v => simp only [settle_eq_ok]

/-- Short options only ask questions. -/
theorem readShort_ne_ok (c : Char) : readShort s p c ≠ .ok p' := by
  unfold readShort
  simp only
  split
  · simp [bind_eq_ok]
  · simp

theorem readOperand_eq_ok :
    readOperand s p word = .ok p' ↔
      p.operands.length < s.form.operands.length ∧
        ∃ p₁, Settles p p₁ ∧ { p₁ with operands := p₁.operands ++ [word] } = p' := by
  unfold readOperand
  split
  · rename_i hroom
    simp only [hroom, true_and, bind_eq_ok, settle_eq_ok, Except.ok.injEq]
  · rename_i hfull
    simp only [hfull, false_and, reduceCtorEq]

theorem readWord_eq_ok : readWord s p word later = .ok p' ↔ Takes s p word p' := by
  constructor
  · intro h
    unfold readWord at h
    split at h
    · rename_i hseparated
      obtain ⟨hroom, p₁, hp, rfl⟩ := readOperand_eq_ok.mp h
      exact .operand (Or.inl hseparated) hroom hp
    · rename_i hseparated
      have hopen : p.separated = false := by simpa using hseparated
      split at h
      · rename_i hend
        rw [← Except.ok.inj h]
        exact .separator hopen hend
      · rename_i hne
        split at h
        · rename_i name value hword
          obtain ⟨flag, p₁, hflag, hp, hvalue⟩ := readLong_eq_ok.mp h
          cases value with
          | none =>
            rw [← hvalue]
            exact .option hopen hne hword hflag hp
          | some v => exact .attached hopen hne hword hflag hp hvalue
        · exact absurd h (readShort_ne_ok _)
        · rename_i flag hlong hshort hpending
          rw [← Except.ok.inj h]
          exact .value hopen ⟨hne, hlong, hshort⟩ hpending
        · rename_i hlong hshort _
          obtain ⟨hroom, p₁, hp, rfl⟩ := readOperand_eq_ok.mp h
          exact .operand (Or.inr ⟨hne, hlong, hshort⟩) hroom hp
  · intro h
    unfold readWord
    cases h with
    | separator hopen hend => simp [hopen, hend]
    | option hopen hne hword hflag hp =>
      simp only [hopen, Bool.false_eq_true, if_false, hne, hword]
      exact readLong_eq_ok.mpr ⟨_, _, hflag, hp, rfl⟩
    | attached hopen hne hword hflag hp hv =>
      simp only [hopen, Bool.false_eq_true, if_false, hne, hword]
      exact readLong_eq_ok.mpr ⟨_, _, hflag, hp, hv⟩
    | value hopen hword hpending =>
      obtain ⟨hne, hlong, hshort⟩ := hword
      simp [hopen, hne, hlong, hshort, hpending]
    | operand hword hroom hp =>
      have hread : readOperand s p word = .ok _ := readOperand_eq_ok.mpr ⟨hroom, _, hp, rfl⟩
      rcases hword with hseparated | ⟨hne, hlong, hshort⟩
      · simp only [hseparated, if_true]
        exact hread
      · split
        · exact hread
        · simp only [hlong, hshort]
          -- what is settled does not wait for a value
          cases hp with
          | idle hpending =>
            simp only [hpending] at hread ⊢
            exact hread
          | value hpending =>
            simp only [hpending]
            exact hread

/-! ## 3. Forms -/

/-- The next word may choose a form. -/
def Progress.AtName (p : Progress) : Prop := p.separated = false ∧ p.awaitsValue = false

/-- The word asks for help. -/
def Spot.AsksHelp (s : Spot) (p : Progress) (word : String) : Prop :=
  p.AtName ∧ s.form.branches ≠ [] ∧ word = helpWord

/-- The words of the form may be over. -/
def Spot.MayEnd (s : Spot) (p : Progress) : Prop :=
  match s.form with
  | .leaf _ _ =>
    (∀ f ∈ s.form.requiredFlags, (p.settled.lookup f.name).isSome = true) ∧
      s.form.operands.length ≤ p.operands.length
  | .choice _ => s.path = [] ∧ s.grammar.commandOptional = true

/-- The words of a form after what has been read of it. -/
inductive Reads : Spot → Progress → List String → Matched → Prop where
  | ended {s : Spot} {p p' : Progress} (hp : Settles p p') (hend : s.MayEnd p') :
      Reads s p [] ⟨s.path, p'.settled, p'.operands⟩
  | branch {s : Spot} {p p' : Progress} {word name : String} {words : List String} {form : Form}
      {m : Matched} (hname : p.AtName) (hhelp : ¬ s.AsksHelp p word)
      (hword : s.form.branch? word = some (name, form))
      (hm : Reads (s.down name form) {} words m) (hp : Settles p p') :
      Reads s p (word :: words) { m with options := m.options ++ p'.settled }
  | word {s : Spot} {p p' : Progress} {word : String} {words : List String} {m : Matched}
      (hhelp : ¬ s.AsksHelp p word) (hword : p.AtName → s.form.branch? word = none)
      (hp : Takes s p word p') (hm : Reads s p' words m) : Reads s p (word :: words) m

theorem missingFrom_eq_nil :
    missingFrom s p = [] ↔
      (∀ f ∈ s.form.requiredFlags, (p.settled.lookup f.name).isSome = true) ∧
        s.form.operands.length ≤ p.operands.length := by
  simp [missingFrom, List.filter_eq_nil_iff, List.drop_eq_nil_iff, Option.isSome_iff_ne_none]

theorem finish_eq_ok {m : Matched} :
    finish s p = .ok m ↔
      ∃ p', Settles p p' ∧ s.MayEnd p' ∧ ⟨s.path, p'.settled, p'.operands⟩ = m := by
  unfold finish
  simp only [bind_eq_ok, settle_eq_ok]
  refine exists_congr fun p' => and_congr_right fun _ => ?_
  unfold Spot.MayEnd
  cases hform : s.form with
  | leaf flags operands =>
    have hmissing := missingFrom_eq_nil (s := s) (p := p')
    rw [hform] at hmissing
    simp only [← hmissing]
    split
    · rename_i hnone
      simp only [hnone, true_and, Except.ok.injEq]
    · rename_i hnone
      simp only [reduceCtorEq, false_iff, not_and]
      exact fun h => absurd h hnone
  | choice branches =>
    simp only [Bool.and_eq_true, List.isEmpty_iff]
    split
    · rename_i hroot
      simp only [hroot, and_self, true_and, Except.ok.injEq]
    · rename_i hroot
      simp only [hroot, false_and, iff_false]
      split <;> simp

theorem asksHelp_iff :
    (!p.separated && !p.awaitsValue && !s.form.branches.isEmpty && decide (word = helpWord)) =
        true ↔ s.AsksHelp p word := by
  simp [Spot.AsksHelp, Progress.AtName, and_assoc]

theorem chosen_eq_some {found : String × Form} :
    (if (p.separated || p.awaitsValue) = true then none else s.form.branch? word) = some found ↔
      p.AtName ∧ s.form.branch? word = some found := by
  unfold Progress.AtName
  cases p.separated <;> cases p.awaitsValue <;> simp

theorem chosen_eq_none :
    (if (p.separated || p.awaitsValue) = true then none else s.form.branch? word) = none ↔
      (p.AtName → s.form.branch? word = none) := by
  unfold Progress.AtName
  cases p.separated <;> cases p.awaitsValue <;> simp

/-- The reader succeeds with just what the rules allow. -/
theorem readForm_eq_ok {words : List String} {m : Matched} :
    readForm s p words = .ok m ↔ Reads s p words m := by
  constructor
  · intro h
    induction words generalizing s p m with
    | nil =>
      obtain ⟨p', hp, hend, rfl⟩ := finish_eq_ok.mp h
      exact .ended hp hend
    | cons word words ih =>
      unfold readForm at h
      split at h
      · cases h
      · rename_i hhelp
        rw [asksHelp_iff] at hhelp
        split at h
        · rename_i hchosen
          obtain ⟨hname, hword⟩ := chosen_eq_some.mp hchosen
          obtain ⟨m', hm, h⟩ := bind_eq_ok.mp h
          obtain ⟨p', hp, h⟩ := bind_eq_ok.mp h
          rw [← Except.ok.inj h]
          exact .branch hname hhelp hword (ih hm) (settle_eq_ok.mp hp)
        · rename_i hchosen
          obtain ⟨p', hp, hm⟩ := bind_eq_ok.mp h
          exact .word hhelp (chosen_eq_none.mp hchosen) (readWord_eq_ok.mp hp) (ih hm)
  · intro h
    induction h with
    | ended hp hend => exact finish_eq_ok.mpr ⟨_, hp, hend, rfl⟩
    | branch hname hhelp hword hm hp ih =>
      rw [readForm, if_neg ((not_congr asksHelp_iff).mpr hhelp), chosen_eq_some.mpr ⟨hname, hword⟩]
      exact bind_eq_ok.mpr ⟨_, ih, bind_eq_ok.mpr ⟨_, settle_eq_ok.mpr hp, rfl⟩⟩
    | word hhelp hword hp hm ih =>
      rw [readForm, if_neg ((not_congr asksHelp_iff).mpr hhelp), chosen_eq_none.mpr hword]
      exact bind_eq_ok.mpr ⟨_, readWord_eq_ok.mpr hp, ih⟩

end

end CoachClient.Command
