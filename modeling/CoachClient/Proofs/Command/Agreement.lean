/-
CoachClient.Proofs.Command.Agreement — the shell and the program understand the same
commands.

* `Reads.uses` — an option that is used while words are read is among those read.
* `Reads.options` — every option that is read has a value of the kind of an option of
  the grammar.
* `Reads.transfer` — what one grammar reads, another reads that has the same forms and
  the options that were used.
* `shell_and_program_agree` — a line of the shell is a command just when the program,
  started with the same words, is given that command and no settings.

The program has two options more than the shell, and these may stand in every place. A
reading without them cannot tell the two apart. A reading with one of them gives it a
value of its kind, and then the settings are not empty. The other difference, that the
program needs no command, only shows where no form was chosen.
-/
import CoachClient.Proofs.Command.Reads

namespace CoachClient.Command

open CoachClient.Settings

/-! ## 1. Options that are used -/

/-- The names of the options that were read. -/
def Matched.names (m : Matched) : List String := m.options.map Prod.fst

/-- An option with the name has been used: its value is settled, or pending. -/
def Progress.Uses (p : Progress) (name : String) : Prop :=
  name ∈ p.settled.map Prod.fst ∨ ∃ flag v, p.pending = some (flag, v) ∧ flag.name = name

section
variable {s : Spot} {p p' : Progress} {word name : String} {words : List String} {m : Matched}

/-- What is settled was used before, and is no longer pending. -/
theorem Settles.uses (h : Settles p p') (hused : p.Uses name) :
    name ∈ p'.settled.map Prod.fst := by
  cases h with
  | idle hpending =>
    rcases hused with hsettled | ⟨flag, v, hflag, _⟩
    · exact hsettled
    · rw [hpending] at hflag
      cases hflag
  | value hpending _ _ =>
    simp only [List.map_append, List.map_cons, List.map_nil, List.mem_append,
      List.mem_singleton]
    rcases hused with hsettled | ⟨flag, v, hflag, hname⟩
    · exact Or.inl hsettled
    · rw [hpending] at hflag
      cases hflag
      exact Or.inr hname.symm

/-- No word makes an option unused. -/
theorem Takes.uses (h : Takes s p word p') (hused : p.Uses name) : p'.Uses name := by
  cases h with
  | separator => exact hused
  | option _ _ _ _ hp => exact Or.inl (hp.uses hused)
  | attached _ _ _ _ hp hv => exact Or.inl (hv.uses (Or.inl (hp.uses hused)))
  | value _ _ hpending =>
    rcases hused with hsettled | ⟨flag, v, hflag, hname⟩
    · exact Or.inl hsettled
    · rw [hpending] at hflag
      cases hflag
      exact Or.inr ⟨_, _, rfl, hname⟩
  | operand _ _ hp => exact Or.inl (hp.uses hused)

theorem Reads.uses (h : Reads s p words m) (hused : p.Uses name) : name ∈ m.names := by
  induction h with
  | ended hp _ => exact hp.uses hused
  | branch _ _ _ _ hp _ =>
    simp only [Matched.names, List.map_append, List.mem_append]
    exact Or.inr (hp.uses hused)
  | word _ _ hp _ ih => exact ih (hp.uses hused)

/-! ## 2. The kinds of options -/

/-- All options of a form, and of the forms below it, are of a kind. -/
inductive Form.All (ok : Flag → Prop) : Form → Prop where
  | leaf {flags : List Flag} {operands : List String} (h : ∀ f ∈ flags, ok f) :
      All ok (.leaf flags operands)
  | choice {branches : List (String × List String × Form)} (h : ∀ b ∈ branches, All ok b.2.2) :
      All ok (.choice branches)

/-- An option can have been given a value. -/
def Flag.Gives (f : Flag) (o : String × Argument) : Prop :=
  f.name = o.1 ∧ ∃ v, f.kind.read v = .ok o.2

/-- What has been read of a form are values of certain options. -/
structure Progress.MadeOf (ok : Flag → Prop) (p : Progress) : Prop where
  pending : ∀ flag v, p.pending = some (flag, v) → ok flag
  settled : ∀ o ∈ p.settled, ∃ f, ok f ∧ f.Gives o

variable {ok : Flag → Prop}

theorem Form.branch?_some {f : Form} {found : String × Form} (h : f.branch? word = some found) :
    ∃ b ∈ f.branches, b.2.2 = found.2 := by
  obtain ⟨⟨name, others, form⟩, hb, hfound⟩ := List.exists_of_findSome?_eq_some h
  simp only at hfound
  split at hfound
  · exact ⟨_, hb, by rw [← Option.some.inj hfound]⟩
  · cases hfound

theorem Form.All.chosen {f : Form} {found : String × Form} (h : f.All ok)
    (hfound : f.branch? word = some found) : found.2.All ok := by
  obtain ⟨b, hb, hform⟩ := Form.branch?_some hfound
  rw [← hform]
  cases h with
  | leaf => cases hb
  | choice h => exact h b hb

theorem Form.All.flags {f : Form} (h : f.All ok) : ∀ flag ∈ f.flags, ok flag := by
  cases h with
  | leaf h => exact h
  | choice => exact fun _ hflag => absurd hflag List.not_mem_nil

theorem Form.All.imp {ok' : Flag → Prop} {f : Form} (h : f.All ok)
    (himp : ∀ flag, ok flag → ok' flag) : f.All ok' := by
  induction h with
  | leaf h => exact .leaf fun flag hflag => himp flag (h flag hflag)
  | choice _ ih => exact .choice ih

/-- A form and the options that stand in every place together. -/
theorem Form.All.found {flag : Flag} (h : s.form.All ok) (hglobals : ∀ f ∈ s.grammar.globals, ok f)
    (hflag : s.flag? name = some flag) : ok flag := by
  rcases List.mem_append.mp (List.mem_of_find?_eq_some hflag) with hown | hglobal
  · exact h.flags flag hown
  · exact hglobals flag hglobal

theorem Progress.madeOf_new : Progress.MadeOf ok {} where
  pending _ _ h := absurd h (Option.some_ne_none _).symm
  settled _ h := absurd h List.not_mem_nil

theorem Progress.MadeOf.waiting {flag : Flag} {v : Option String} (h : p.MadeOf ok)
    (hflag : ok flag) : Progress.MadeOf ok { p with pending := some (flag, v) } where
  pending f w hf := by
    cases hf
    exact hflag
  settled := h.settled

theorem Settles.madeOf (h : Settles p p') (hp : p.MadeOf ok) : p'.MadeOf ok := by
  cases h with
  | idle => exact hp
  | value hpending _ hread =>
    refine ⟨nofun, fun o ho => ?_⟩
    rcases List.mem_append.mp ho with hsettled | hlast
    · exact hp.settled o hsettled
    · rw [List.mem_singleton.mp hlast]
      exact ⟨_, hp.pending _ _ hpending, rfl, _, hread⟩

theorem Takes.madeOf (h : Takes s p word p') (hform : s.form.All ok)
    (hglobals : ∀ f ∈ s.grammar.globals, ok f) (hp : p.MadeOf ok) : p'.MadeOf ok := by
  cases h with
  | separator => exact ⟨hp.pending, hp.settled⟩
  | option _ _ _ hflag hsettles =>
    exact (hsettles.madeOf hp).waiting (hform.found hglobals hflag)
  | attached _ _ _ hflag hsettles hv =>
    exact hv.madeOf ((hsettles.madeOf hp).waiting (hform.found hglobals hflag))
  | value _ _ hpending => exact hp.waiting (hp.pending _ _ hpending)
  | operand _ _ hsettles =>
    have hafter := hsettles.madeOf hp
    exact ⟨hafter.pending, hafter.settled⟩

/-- Every option that is read is one of the grammar, with a value of its kind. -/
theorem Reads.options (h : Reads s p words m) (hform : s.form.All ok)
    (hglobals : ∀ f ∈ s.grammar.globals, ok f) (hp : p.MadeOf ok) :
    ∀ o ∈ m.options, ∃ f, ok f ∧ f.Gives o := by
  induction h with
  | ended hsettles _ => exact (hsettles.madeOf hp).settled
  | branch _ _ hword _ hsettles ih =>
    intro o ho
    rcases List.mem_append.mp ho with hbelow | hhere
    · exact ih (hform.chosen hword) hglobals Progress.madeOf_new o hbelow
    · exact (hsettles.madeOf hp).settled o hhere
  | word _ _ htakes _ ih => exact ih hform hglobals (htakes.madeOf hform hglobals hp)

/-! ## 3. Two grammars with the same forms -/

/-- Of the options with these names, what one grammar has another has too. -/
def Grammar.Within (g g' : Grammar) (names : List String) : Prop :=
  ∀ form, ∀ name ∈ names, ∀ flag, (g.flags form).find? (fun f => f.name == name) = some flag →
    (g'.flags form).find? (fun f => f.name == name) = some flag

theorem Grammar.Within.mono {g g' : Grammar} {names more : List String} (h : g.Within g' more)
    (hnames : ∀ name ∈ names, name ∈ more) : g.Within g' names :=
  fun form name hname => h form name (hnames name hname)

variable {g : Grammar}

/-- A word is taken up under the other grammar in the same way, if that has the option
which is used. -/
theorem Takes.transfer (h : Takes s p word p')
    (hflag : ∀ name flag, p'.Uses name → s.flag? name = some flag →
      Spot.flag? { s with grammar := g } name = some flag) :
    Takes { s with grammar := g } p word p' := by
  cases h with
  | separator hopen hend => exact .separator hopen hend
  | option hopen hne hword hfound hsettles =>
    have hname := List.find?_some hfound
    refine .option hopen hne hword (hflag _ _ (Or.inr ⟨_, _, rfl, ?_⟩) hfound) hsettles
    exact beq_iff_eq.mp hname
  | attached hopen hne hword hfound hsettles hv =>
    have hname := List.find?_some hfound
    refine .attached hopen hne hword (hflag _ _ (Or.inl (hv.uses ?_)) hfound) hsettles hv
    exact Or.inr ⟨_, _, rfl, beq_iff_eq.mp hname⟩
  | value hopen hword hpending => exact .value hopen hword hpending
  | operand hword hroom hsettles => exact .operand hword hroom hsettles

/-- Words are read under the other grammar in the same way, if that has the options
which are used. -/
theorem Reads.transfer (h : Reads s p words m) (hflags : s.grammar.Within g m.names)
    (hcommand : m.path = [] → s.grammar.commandOptional = true → g.commandOptional = true) :
    Reads { s with grammar := g } p words m := by
  induction h with
  | @ended s p p' hp hend =>
    refine .ended hp ?_
    unfold Spot.MayEnd at hend ⊢
    cases hform : s.form with
    | leaf flags operands =>
      rw [hform] at hend
      exact hend
    | choice branches =>
      rw [hform] at hend
      exact ⟨hend.1, hcommand hend.1 hend.2⟩
  | branch hname hhelp hword _ hp ih =>
    refine .branch hname hhelp hword (ih (hflags.mono fun name hm => ?_) hcommand) hp
    simp only [Matched.names, List.map_append, List.mem_append]
    exact Or.inl hm
  | @word s _ _ _ _ _ hhelp hword hp hm ih =>
    have hword' := hp.transfer fun name flag hused hfound =>
      hflags s.form name (hm.uses hused) flag hfound
    exact .word hhelp hword hword' (ih hflags hcommand)

end

/-! ## 4. The shell and the program -/

/-- The names of the options that only the program has. -/
def globalNames : List String := programGrammar.globals.map Flag.name

theorem sessionForms_others : sessionForms.All fun f => f.name ∉ globalNames := by
  refine .choice ?_
  simp only [List.forall_mem_cons]
  refine ⟨.leaf ?_, .leaf ?_, .leaf ?_, .leaf ?_, List.forall_mem_nil _⟩ <;> decide

theorem adminForms_others : adminForms.All fun f => f.name ∉ globalNames := by
  refine .choice ?_
  simp only [List.forall_mem_cons]
  refine ⟨.leaf ?_, .leaf ?_, .leaf ?_, .leaf ?_, .leaf ?_, List.forall_mem_nil _⟩ <;> decide

/-- No command has an option that is called like one of these. -/
theorem commandForms_others : commandForms.All fun f => f.name ∉ globalNames := by
  refine .choice ?_
  simp only [List.forall_mem_cons]
  refine ⟨.leaf ?_, .leaf ?_, .leaf ?_, sessionForms_others, adminForms_others, .leaf ?_, .leaf ?_,
    List.forall_mem_nil _⟩ <;> decide

/-- The program has all that the shell has. -/
theorem shell_within_program (names : List String) :
    shellGrammar.Within programGrammar names := by
  intro form name _ flag hfound
  have hown : form.flags.find? (fun f => f.name == name) = some flag := by
    simpa only [Grammar.flags, shellGrammar, List.append_nil] using hfound
  simp only [Grammar.flags, List.find?_append, hown, Option.some_or]

/-- Where its own options are not used, the program has no more than the shell. -/
theorem program_within_shell {names : List String} (h : ∀ name ∈ names, name ∉ globalNames) :
    programGrammar.Within shellGrammar names := by
  intro form name hname flag hfound
  have hnone : programGrammar.globals.find? (fun f => f.name == name) = none := by
    refine List.find?_eq_none.mpr fun f hf hsame => h name hname ?_
    exact List.mem_map.mpr ⟨f, hf, beq_iff_eq.mp hsame⟩
  simp only [Grammar.flags, List.find?_append, hnone, Option.or_none] at hfound
  simpa only [Grammar.flags, shellGrammar, List.append_nil] using hfound

theorem Kind.read_word64 {v : String} {a : Argument} (h : Kind.word64.read v = .ok a) :
    ∃ n, a = .word64 n := by
  simp only [Kind.read] at h
  split at h
  · exact ⟨_, (Except.ok.inj h).symm⟩
  · cases h

/-- An option that is read has a value. -/
theorem exists_lookup {m : Matched} {name : String} (h : name ∈ m.names) :
    ∃ a, m.options.lookup name = some a ∧ (name, a) ∈ m.options := by
  cases hlookup : m.options.lookup name with
  | none =>
    obtain ⟨o, ho, rfl⟩ := List.mem_map.mp h
    have hother := List.lookup_eq_none_iff.mp hlookup o ho
    simp at hother
  | some a =>
    obtain ⟨before, after, hoptions, _⟩ := List.lookup_eq_some_iff.mp hlookup
    exact ⟨a, rfl, by simp [hoptions]⟩

section
variable {words : List String} {m : Matched}

/-- The shell reads none of the options that only the program has. -/
theorem shell_names (h : Reads ⟨shellGrammar, [], shellGrammar.form⟩ {} words m) :
    ∀ name ∈ m.names, name ∉ globalNames := by
  intro name hname
  obtain ⟨o, ho, rfl⟩ := List.mem_map.mp hname
  obtain ⟨f, hf, hgives⟩ := h.options commandForms_others nofun Progress.madeOf_new o ho
  rw [← hgives.1]
  exact hf

/-- What is read without these options gives no settings. -/
theorem overrides_eq_none (h : ∀ name ∈ m.names, name ∉ globalNames) :
    m.overrides = ⟨none, none⟩ := by
  have hnone : ∀ name ∈ globalNames, m.options.lookup name = none := fun name hname => by
    refine List.lookup_eq_none_iff.mpr fun o ho => ?_
    simp only [bne_iff_ne, ne_eq]
    rintro rfl
    exact h _ (List.mem_map_of_mem ho) hname
  simp [Matched.overrides, Matched.text?, Matched.word64?, hnone "base-url" (by decide),
    hnone "timeout" (by decide)]

/-- What the program reads with one of them gives settings. -/
theorem program_names (h : Reads ⟨programGrammar, [], programGrammar.form⟩ {} words m)
    (hnone : m.overrides = ⟨none, none⟩) : ∀ name ∈ m.names, name ∉ globalNames := by
  obtain ⟨hbase, htimeout⟩ := Overrides.mk.inj hnone
  have hoptions := h.options
    (commandForms_others.imp fun _ => Or.inl) (fun _ => Or.inr) Progress.madeOf_new
  intro name hname hglobal
  obtain ⟨a, hlookup, ha⟩ := exists_lookup hname
  obtain ⟨f, hf, rfl, v, hread⟩ := hoptions _ ha
  rcases hf with hother | hf
  · exact hother hglobal
  · simp only [programGrammar, List.mem_cons, List.not_mem_nil, or_false] at hf
    rcases hf with rfl | rfl
    · obtain rfl : .text v = a := Except.ok.inj hread
      rw [Matched.text?, hlookup] at hbase
      cases hbase
    · obtain ⟨n, rfl⟩ := Kind.read_word64 hread
      rw [Matched.word64?, hlookup] at htimeout
      cases htimeout

theorem readCommand_eq_ok {c : Command} :
    readCommand words = .ok c ↔
      ∃ m, Reads ⟨shellGrammar, [], shellGrammar.form⟩ {} words m ∧ m.command? = some c := by
  unfold readCommand Grammar.read
  simp only [bind_eq_ok, readForm_eq_ok]
  refine exists_congr fun m => and_congr_right fun _ => ?_
  split
  · rename_i c' hc
    simp [hc]
  · rename_i hc
    simp [hc]

theorem readInvocation_eq_ok {i : Invocation} :
    readInvocation words = .ok i ↔
      ∃ m, Reads ⟨programGrammar, [], programGrammar.form⟩ {} words m ∧
        (⟨m.overrides, m.command?⟩ : Invocation) = i := by
  unfold readInvocation Grammar.read
  simp only [bind_eq_ok, readForm_eq_ok, Except.ok.injEq]

/-- What was read is no command where no form was chosen. -/
theorem command?_of_path_eq_nil (h : m.path = []) : m.command? = none := by
  simp [Matched.command?, h]

end

/-- **The shell and the program understand the same commands.** A line of the shell is a
command exactly if the program, started with the words of the line, has that command and no
settings. -/
theorem shell_and_program_agree (words : List String) (c : Command) :
    readCommand words = .ok c ↔ readInvocation words = .ok ⟨⟨none, none⟩, some c⟩ := by
  rw [readCommand_eq_ok, readInvocation_eq_ok]
  constructor
  · rintro ⟨m, hm, hc⟩
    refine ⟨m, hm.transfer (shell_within_program _) ?_, ?_⟩
    · intro _ hoptional
      cases hoptional
    · rw [hc, overrides_eq_none (shell_names hm)]
  · rintro ⟨m, hm, hi⟩
    obtain ⟨hoverrides, hc⟩ := Invocation.mk.inj hi
    refine ⟨m, hm.transfer (program_within_shell (program_names hm hoverrides)) ?_, hc⟩
    intro hpath
    rw [command?_of_path_eq_nil hpath] at hc
    cases hc

end CoachClient.Command
