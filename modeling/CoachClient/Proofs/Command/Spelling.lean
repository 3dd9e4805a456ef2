/-
CoachClient.Proofs.Command.Spelling — commands in words, and that they are read back.

* `Argument.written`, `optionWord` — the value of an option as it is written, and the
  option with its value in one word.
* `Matched.words` — the names of a command, its options, and behind `--` its operands.
* `Kind.read_written` — a value that is written is read as a value of its kind.
* `reads_options`, `reads_operands`, `reads_path` — the three parts of such words are
  read one after the other, each with what follows it.
* `Spot.Fits` — what a form has to offer for the words to be read under it.
* `Command.parts`, `readCommand_words` — every command has parts that fit the form of its
  name, so its words are read as that command.

Two things keep a value from being taken for anything else. The value of an option stands
in the word of the option, and before it is the first `=` of that word. An operand stands
behind `--`, where nothing is looked at. So nothing is asked of the values, and an empty
one, one that begins with a hyphen and one that is called `help` are as good as any.
-/
import CoachClient.Proofs.Command.Agreement
import CoachClient.Proofs.Text.Decimal
import CoachClient.Proofs.Time.Wire

namespace CoachClient

open CoachClient.Coaching CoachClient.Command CoachClient.Text CoachClient.Time

namespace Command

/-! ## 1. Values -/

/-- The kind that a value is of. -/
def Argument.kind : Argument → Kind
  | .text _ => .text
  | .word32 _ => .word32
  | .word64 _ => .word64
  | .signed64 _ => .signed64
  | .instant _ => .instant

/-- A value as it is written. -/
def Argument.written : Argument → String
  | .text s => s
  | .word32 n => String.ofList (digits n.toNat)
  | .word64 n => String.ofList (digits n.toNat)
  | .signed64 i => String.ofList (signed i.toInt)
  | .instant t => t.wire

theorem signed_natCast (n : Nat) : signed (n : Int) = digits n := by
  simp [signed]

theorem readSigned64_signed {i : Int} (hlow : -(minInt64Magnitude : Int) ≤ i)
    (hhigh : i ≤ maxInt64) : readSigned64 (String.ofList (signed i)) = .ok i := by
  have hread : readSigned minInt64Magnitude maxInt64 (signed i) = .ok i :=
    readSigned_signed hlow hhigh
  rw [readSigned64, String.toList_ofList, hread]
  rfl

/-- A value is read from the text it is written as. -/
theorem Kind.read_written (a : Argument) : a.kind.read a.written = .ok a := by
  cases a with
  | text s => rfl
  | word32 n =>
    have hn : n.toNat < 2 ^ 32 := n.toNat_lt
    have hmax : maxWord32 = 2 ^ 32 - 1 := rfl
    have habove : maxInt64 = 2 ^ 63 - 1 := rfl
    have hread : readSigned64 (String.ofList (digits n.toNat)) = .ok (n.toNat : Int) := by
      rw [← signed_natCast]
      exact readSigned64_signed (by omega) (by omega)
    have hfits : (n.toNat : Int) ≤ maxWord32 := by omega
    simp [Argument.kind, Argument.written, Kind.read, hread, bind, Except.bind, hfits]
  | word64 n =>
    have hn : n.toNat < 2 ^ 64 := n.toNat_lt
    have hmax : maxWord64 = 2 ^ 64 - 1 := rfl
    have hread : readUnsigned maxWord64 (digits n.toNat) = .ok n.toNat :=
      readUnsigned_digits (by omega)
    simp [Argument.kind, Argument.written, Kind.read, hread]
  | signed64 i =>
    have hlow := i.le_toInt
    have hhigh := i.toInt_lt
    have hbelow : minInt64Magnitude = 2 ^ 63 := rfl
    have habove : maxInt64 = 2 ^ 63 - 1 := rfl
    have hread : readSigned64 (String.ofList (signed i.toInt)) = .ok i.toInt :=
      readSigned64_signed (by omega) (by omega)
    simp [Argument.kind, Argument.written, Kind.read, hread, bind, Except.bind]
  | instant t => simp [Argument.kind, Argument.written, Kind.read, Instant.read_wire]

/-! ## 2. Words -/

/-- An option with its value. -/
def optionWord (o : String × Argument) : String := "--" ++ o.1 ++ "=" ++ o.2.written

/-- The words of what is to be read: the names, the options, and behind `--` the
operands if there are any. -/
def Matched.words (m : Matched) : List String :=
  m.path ++ m.options.map optionWord ++ if m.operands = [] then [] else "--" :: m.operands

theorem optionWord_toList (o : String × Argument) :
    (optionWord o).toList = '-' :: '-' :: (o.1.toList ++ '=' :: o.2.written.toList) := by
  simp [optionWord, String.toList_append]

/-- The first `=` parts the name of an option from its value. -/
theorem longOption?_optionWord {o : String × Argument} (h : '=' ∉ o.1.toList) :
    longOption? (optionWord o) = some (o.1, some o.2.written) := by
  have hname : ∀ c ∈ o.1.toList, (c != '=') = true := by
    intro c hc
    simp only [bne_iff_ne, ne_eq]
    rintro rfl
    exact h hc
  simp only [longOption?, optionWord_toList]
  rw [List.takeWhile_append_of_pos hname, List.dropWhile_append_of_pos hname]
  simp

theorem optionWord_ne_separator (o : String × Argument) : optionWord o ≠ "--" := by
  intro h
  have hchars := congrArg String.toList h
  rw [optionWord_toList] at hchars
  simp at hchars

/-! ## 3. Reading them -/

section
variable {s : Spot} {p : Progress} {words : List String} {m : Matched}

/-- A form below which there are no others. -/
def Spot.IsLast (s : Spot) : Prop := ∃ flags operands, s.form = .leaf flags operands

theorem Spot.IsLast.not_asksHelp (h : s.IsLast) (word : String) : ¬ s.AsksHelp p word := by
  obtain ⟨flags, operands, hform⟩ := h
  rintro ⟨-, hbranches, -⟩
  rw [hform] at hbranches
  exact hbranches rfl

theorem Spot.IsLast.branch?_eq_none (h : s.IsLast) (word : String) :
    s.form.branch? word = none := by
  obtain ⟨flags, operands, hform⟩ := h
  rw [hform]
  rfl

/-- The form has the option, and its kind is that of the value. -/
def Spot.Has (s : Spot) (o : String × Argument) : Prop :=
  '=' ∉ o.1.toList ∧ ∃ flag, s.flag? o.1 = some flag ∧ flag.kind = o.2.kind

/-- An option that has not been used is taken up with its value. -/
theorem takes_optionWord {o : String × Argument} (hopen : p.separated = false)
    (hidle : p.pending = none) (ho : s.Has o) (hnew : p.settled.lookup o.1 = none) :
    Takes s p (optionWord o) { p with settled := p.settled ++ [o] } := by
  obtain ⟨hname, flag, hflag, hkind⟩ := ho
  have hfound := List.find?_some hflag
  have hsame : flag.name = o.1 := beq_iff_eq.mp hfound
  have hread : flag.kind.read o.2.written = .ok o.2 := by
    rw [hkind]
    exact Kind.read_written o.2
  have hsettles : Settles { p with pending := some (flag, some o.2.written) }
      { p with pending := none, settled := p.settled ++ [(flag.name, o.2)] } :=
    .value rfl (by rw [hsame]; exact hnew) hread
  rw [hsame, ← hidle] at hsettles
  exact .attached hopen (optionWord_ne_separator o) (longOption?_optionWord hname) hflag
    (.idle hidle) hsettles

/-- Options are read one after the other, if none is used twice. -/
theorem reads_options {options : List (String × Argument)} (hlast : s.IsLast)
    (hopen : p.separated = false) (hidle : p.pending = none) (hoptions : ∀ o ∈ options, s.Has o)
    (honce : ((p.settled ++ options).map Prod.fst).Nodup)
    (hrest : Reads s { p with settled := p.settled ++ options } words m) :
    Reads s p (options.map optionWord ++ words) m := by
  induction options generalizing p with
  | nil => simpa using hrest
  | cons o options ih =>
    have hnew : p.settled.lookup o.1 = none := by
      refine List.lookup_eq_none_iff.mpr fun other hother => ?_
      simp only [bne_iff_ne, ne_eq]
      intro hsame
      rw [List.map_append] at honce
      exact (List.nodup_append.mp honce).2.2 other.1 (List.mem_map_of_mem hother) o.1
        (by simp) hsame.symm
    have htakes : Takes s p (optionWord o) { p with settled := p.settled ++ [o] } :=
      takes_optionWord hopen hidle (hoptions o List.mem_cons_self) hnew
    have hmore : Reads s { p with settled := p.settled ++ [o] }
        (options.map optionWord ++ words) m := by
      refine ih hopen hidle (fun o' ho' => hoptions o' (List.mem_cons_of_mem o ho')) ?_ ?_
      · simpa using honce
      · simpa using hrest
    exact .word (hlast.not_asksHelp _) (fun _ => hlast.branch?_eq_none _) htakes hmore

/-- Behind the end of the options every word is an operand. -/
theorem reads_operands {operands : List String} (hlast : s.IsLast) (hseparated : p.separated = true)
    (hidle : p.pending = none)
    (hroom : p.operands.length + operands.length ≤ s.form.operands.length)
    (hend : s.MayEnd { p with operands := p.operands ++ operands }) :
    Reads s p operands ⟨s.path, p.settled, p.operands ++ operands⟩ := by
  induction operands generalizing p with
  | nil =>
    rw [List.append_nil] at hend ⊢
    exact .ended (.idle hidle) hend
  | cons word operands ih =>
    rw [List.length_cons] at hroom
    have htakes : Takes s p word { p with operands := p.operands ++ [word] } :=
      .operand (Or.inl hseparated) (by omega) (.idle hidle)
    have hmore : Reads s { p with operands := p.operands ++ [word] } operands
        ⟨s.path, p.settled, p.operands ++ [word] ++ operands⟩ := by
      refine ih hseparated hidle ?_ ?_
      · simp only [List.length_append, List.length_singleton]
        omega
      · simpa using hend
    rw [List.append_assoc, List.singleton_append] at hmore
    exact .word (hlast.not_asksHelp _) (fun _ => hlast.branch?_eq_none _) htakes hmore

/-- The form that names lead to. -/
def Form.below? (f : Form) : List String → Option Form
  | [] => some f
  | name :: names =>
    match f.branch? name with
    | some (chosen, form) => if chosen = name then form.below? names else none
    | none => none

/-- Names are read as the path to a form. -/
theorem reads_path {names : List String} {form : Form} (hbelow : s.form.below? names = some form)
    (hhelp : helpWord ∉ names)
    (hrest : Reads { s with path := s.path ++ names, form } {} words m) :
    Reads s {} (names ++ words) m := by
  induction names generalizing s with
  | nil =>
    obtain rfl := Option.some.inj hbelow
    simpa using hrest
  | cons name names ih =>
    rw [Form.below?] at hbelow
    cases hbranch : s.form.branch? name with
    | none =>
      rw [hbranch] at hbelow
      cases hbelow
    | some found =>
      obtain ⟨chosen, below⟩ := found
      rw [hbranch] at hbelow
      simp only at hbelow
      split at hbelow
      · rename_i hchosen
        rw [List.mem_cons, not_or] at hhelp
        have hname : Progress.AtName {} := ⟨rfl, rfl⟩
        have hdown : Reads (s.down chosen below) {} (names ++ words) m := by
          refine ih hbelow hhelp.2 ?_
          simpa [Spot.down, hchosen] using hrest
        have hreads : Reads s {} (name :: (names ++ words))
            { m with options := m.options ++ [] } :=
          .branch hname (fun hasks => hhelp.1 hasks.2.2.symm) hbranch hdown (.idle rfl)
        rwa [List.append_nil] at hreads
      · cases hbelow

/-- What there is to be read fits a spot: the form has its options, each of them is used
once, those that are required are there, and there is an operand for every place. -/
structure Spot.Fits (s : Spot) (m : Matched) : Prop where
  isLast : s.IsLast
  path : m.path = s.path
  options : ∀ o ∈ m.options, s.Has o
  once : m.names.Nodup
  required : ∀ f ∈ s.form.requiredFlags, f.name ∈ m.names
  operands : m.operands.length = s.form.operands.length

/-- And then the words of the form may be over. -/
theorem Spot.Fits.mayEnd (h : s.Fits m) (hsettled : p.settled = m.options)
    (hoperands : p.operands = m.operands) : s.MayEnd p := by
  obtain ⟨flags, operands, hform⟩ := h.isLast
  have hrequired := h.required
  have hplaces := h.operands
  unfold Spot.MayEnd
  rw [hform] at hrequired hplaces ⊢
  refine ⟨fun f hf => ?_, ?_⟩
  · obtain ⟨a, hlookup, -⟩ := exists_lookup (hrequired f hf)
    rw [hsettled, hlookup]
    rfl
  · exact Nat.le_of_eq (by rw [hoperands, hplaces])

/-- What fits a spot is read from its options and operands. -/
theorem Spot.Fits.reads (h : s.Fits m) :
    Reads s {} (m.options.map optionWord ++ if m.operands = [] then [] else "--" :: m.operands)
      m := by
  have honce : ((([] : List (String × Argument)) ++ m.options).map Prod.fst).Nodup := h.once
  refine reads_options h.isLast rfl rfl h.options honce ?_
  have hwhole : (⟨s.path, m.options, m.operands⟩ : Matched) = m := by rw [← h.path]
  split
  · rename_i hnone
    have hended : Reads s { settled := m.options } [] ⟨s.path, m.options, []⟩ :=
      .ended (.idle rfl) (h.mayEnd rfl hnone.symm)
    rw [hnone] at hwhole
    rwa [hwhole] at hended
  · have hseparator : Takes s { settled := m.options } "--"
        { settled := m.options, separated := true } := .separator rfl rfl
    have hoperands : Reads s { settled := m.options, separated := true } m.operands
        ⟨s.path, m.options, [] ++ m.operands⟩ := by
      refine reads_operands h.isLast rfl rfl (Nat.le_of_eq ?_) (h.mayEnd rfl rfl)
      rw [List.length_nil, Nat.zero_add, h.operands]
    rw [List.nil_append, hwhole] at hoperands
    exact .word (h.isLast.not_asksHelp _) (fun _ => h.isLast.branch?_eq_none _) hseparator hoperands

/-- What fits the form of its path is read from its words. -/
theorem reads_words {form : Form} (hroot : s.path = []) (hbelow : s.form.below? m.path = some form)
    (hhelp : helpWord ∉ m.path) (h : Spot.Fits { s with path := m.path, form } m) :
    Reads s {} m.words m := by
  rw [Matched.words, List.append_assoc]
  refine reads_path hbelow hhelp ?_
  rw [hroot, List.nil_append]
  exact h.reads

end

/-! ## 4. Forms -/

/-- The names and the kinds of the options. -/
def Matched.kinds (m : Matched) : List (String × Kind) := m.options.map fun o => (o.1, o.2.kind)

/-- A command with these options, each with a value of its kind, and with so many operands
is one of the form. -/
def Form.takes (kinds : List (String × Kind)) (count : Nat) : Form → Bool
  | .leaf flags operands =>
    (kinds.all fun k => !k.1.toList.contains '=' &&
        (flags.find? fun f => f.name == k.1).map Flag.kind == some k.2)
      && decide (kinds.map Prod.fst).Nodup
      && (flags.filter Flag.required).all (fun f => (kinds.map Prod.fst).contains f.name)
      && count == operands.length
  | .choice _ => false

theorem Spot.fits_of_takes {s : Spot} {m : Matched} (hpath : m.path = s.path)
    (h : s.form.takes m.kinds m.operands.length = true) : s.Fits m := by
  have hnames : m.kinds.map Prod.fst = m.names := by
    simp [Matched.kinds, Matched.names]
  cases hform : s.form with
  | choice branches =>
    rw [hform] at h
    cases h
  | leaf flags operands =>
    rw [hform] at h
    simp only [Form.takes, Bool.and_eq_true, List.all_eq_true, hnames, decide_eq_true_eq,
      beq_iff_eq, List.contains_iff_mem] at h
    obtain ⟨⟨⟨hoptions, honce⟩, hrequired⟩, hcount⟩ := h
    refine ⟨⟨flags, operands, hform⟩, hpath, fun o ho => ?_, honce, ?_, ?_⟩
    · obtain ⟨hname, hkind⟩ := hoptions _ (List.mem_map_of_mem ho)
      obtain ⟨flag, hflag, hkind⟩ := Option.map_eq_some_iff.mp hkind
      refine ⟨by simpa using hname, flag, ?_, hkind⟩
      simp only at hflag
      simp [Spot.flag?, Spot.flags, Grammar.flags, Form.flags, hform, hflag]
    · rw [hform]
      exact hrequired
    · rw [hform]
      exact hcount

/-! ## 5. Commands -/

/-- The options of a new session; what is not asked for is left out. -/
def sessionOptions (n : NewSession) : List (String × Argument) :=
  [("title", .text n.title), ("starts-at", .instant n.startsAt), ("ends-at", .instant n.endsAt)]
    ++ (n.maxParticipants.map fun k => ("max-participants", Argument.word32 k)).toList
    ++ (n.priceCents.map fun i => ("price-cents", Argument.signed64 i)).toList
    ++ (n.currency.map fun t => ("currency", Argument.text t)).toList

/-- The name, the options and the operands of a command. -/
def parts : Command → Matched
  | .login email => ⟨["login"], (email.map fun e => ("email", Argument.text e)).toList, []⟩
  | .logout => ⟨["logout"], [], []⟩
  | .shell => ⟨["shell"], [], []⟩
  | .exit => ⟨["exit"], [], []⟩
  | .guarded .whoami => ⟨["whoami"], [], []⟩
  | .guarded .listSessions => ⟨["sessions", "list"], [], []⟩
  | .guarded (.showSession id) => ⟨["sessions", "show"], [], [id]⟩
  | .guarded (.createSession n) => ⟨["sessions", "create"], sessionOptions n, []⟩
  | .guarded (.cancelSession id) => ⟨["sessions", "cancel"], [], [id]⟩
  | .guarded (.listAccounts page) =>
    ⟨["admin", "users"], [("limit", .word32 page.limit), ("offset", .word32 page.offset)], []⟩
  | .guarded (.grantRole id role) => ⟨["admin", "grant"], [], [id, role]⟩
  | .guarded (.revokeRole id role) => ⟨["admin", "revoke"], [], [id, role]⟩
  | .guarded (.disable id reason) => ⟨["admin", "disable"], [("reason", .text reason)], [id]⟩
  | .guarded (.reenable id) => ⟨["admin", "reenable"], [], [id]⟩

/-- A command in words. -/
def words (c : Command) : List String := c.parts.words

/-- The parts of a command are those of no other. -/
theorem command?_parts (c : Command) : c.parts.command? = some c := by
  cases c with
  | login email => cases email <;> rfl
  | guarded g =>
    cases g with
    | createSession n =>
      obtain ⟨title, startsAt, endsAt, maxParticipants, priceCents, currency⟩ := n
      cases maxParticipants <;> cases priceCents <;> cases currency <;> rfl
    | _ => rfl
  | _ => rfl

/-- The parts of every command are those of the form of its name. -/
theorem parts_take (c : Command) :
    ((commandForms.below? c.parts.path).any fun f =>
      f.takes c.parts.kinds c.parts.operands.length) = true ∧ helpWord ∉ c.parts.path := by
  cases c with
  | login email =>
    cases email <;>
      simp only [parts, Matched.kinds, Option.map, Option.toList, List.map, Argument.kind,
        List.length] <;> decide +kernel
  | guarded g =>
    cases g with
    | createSession n =>
      obtain ⟨title, startsAt, endsAt, maxParticipants, priceCents, currency⟩ := n
      cases maxParticipants <;> cases priceCents <;> cases currency <;>
        simp only [parts, Matched.kinds, sessionOptions, Option.map, Option.toList, List.map,
          List.cons_append, List.nil_append, List.append_nil, Argument.kind, List.length] <;>
        decide +kernel
    | _ =>
      simp only [parts, Matched.kinds, List.map, Argument.kind, List.length]
      decide +kernel
  | _ =>
    simp only [parts, Matched.kinds, List.map, List.length]
    decide +kernel

/-- The words of a command are read as that command. -/
theorem readCommand_words (c : Command) : readCommand c.words = .ok c := by
  obtain ⟨htakes, hhelp⟩ := parts_take c
  obtain ⟨hsome, htakes⟩ := (Option.any_eq_true_iff_get _ _).mp htakes
  have hbelow : commandForms.below? c.parts.path = some _ := (Option.some_get hsome).symm
  have hfits : Spot.Fits ⟨shellGrammar, c.parts.path, _⟩ c.parts := Spot.fits_of_takes rfl htakes
  have hreads : Reads ⟨shellGrammar, [], shellGrammar.form⟩ {} c.words c.parts :=
    reads_words rfl hbelow hhelp hfits
  exact readCommand_eq_ok.mpr ⟨c.parts, hreads, command?_parts c⟩

end Command

end CoachClient
