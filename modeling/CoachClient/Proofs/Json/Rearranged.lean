/-
CoachClient.Proofs.Json.Rearranged — members may come in any order, and unknown ones anywhere.

* `Shape` — where in a type there are records, and with which names.
* `Rearranged` — a second text with the members of a first one in another order, and with any
  members that are not declared among them, at each record that the shape leads to.
* `Repeats` — a text with a declared name twice in one of these records.
* `Keeps` — a reader takes rearranged texts for the same, and takes no text that repeats. There
  is one rule for each way in which a type is made.
* `Declares` — the fields of a record with the names and shapes of their values.
* `Gives`, `Makes.given` — the names under which a text has values; a record has no other parts.
* `Decoder.IgnoresOrder`, `Record.ignoresOrder` — the same for whole texts.
* `Decoder.IgnoresOrder.of_perm` — and there always is a text with the members so arranged.

The rule for records comes from three facts about `Gathers`: it survives any order and any
members that are not declared, its names are distinct, and what it gathers can be told apart
by the name it came under.
-/
import CoachClient.Proofs.Json.Objects
import CoachClient.Proofs.Json.Values
import Mathlib.Data.List.Nodup

namespace CoachClient.Json

open CoachClient.Text

/-! ## 1. Texts that say the same -/

/-- Where a type has declared members. -/
inductive Shape where
  | plain
  | list (item : Shape)
  | record (declared : List (String × Shape))

/-- The shape of what stands under a name; what is not declared has none. -/
def Shape.under (declared : List (String × Shape)) (name : String) : Shape :=
  (declared.lookup name).getD .plain

/-- The second text is the first with the members of its records in another order, and with
members among them that are not declared. Any values may stand under those, and their names
may come more than once. -/
inductive Rearranged : Shape → (text text' : List UInt8) → Prop
  | same {shape : Shape} {text : List UInt8} (hv : IsValue text) : Rearranged shape text text
  | list {item : Shape} {items : List (List UInt8 × List UInt8)} {text text' : List UInt8}
      (hlist : IsList (items.map Prod.fst) text) (hitems : ∀ v ∈ items, Rearranged item v.1 v.2)
      (hlist' : IsList (items.map Prod.snd) text') : Rearranged (.list item) text text'
  | record {declared : List (String × Shape)} {kept : List (String × List UInt8 × List UInt8)}
      {extra members : List (String × List UInt8)} {text text' : List UInt8}
      (hobject : IsObject (kept.map fun k => (k.1, k.2.1)) text)
      (hkept : ∀ k ∈ kept, Rearranged (Shape.under declared k.1) k.2.1 k.2.2)
      (hextra : ∀ e ∈ extra, declared.lookup e.1 = none)
      (hperm : members.Perm ((kept.map fun k => (k.1, k.2.2)) ++ extra))
      (hobject' : IsObject members text') : Rearranged (.record declared) text text'

/-- A declared name comes twice in one of the records of the text. -/
inductive Repeats : Shape → (text : List UInt8) → Prop
  | here {declared : List (String × Shape)} {members : List (String × List UInt8)}
      {text : List UInt8} {name : String} (hobject : IsObject members text)
      (hname : declared.lookup name ≠ none) (htwice : 1 < (members.map Prod.fst).count name) :
      Repeats (.record declared) text
  | item {item : Shape} {items : List (List UInt8)} {text v : List UInt8}
      (hlist : IsList items text) (hv : v ∈ items) (h : Repeats item v) :
      Repeats (.list item) text
  | member {declared : List (String × Shape)} {members : List (String × List UInt8)}
      {text v : List UInt8} {name : String} (hobject : IsObject members text)
      (hv : (name, v) ∈ members) (h : Repeats (Shape.under declared name) v) :
      Repeats (.record declared) text

theorem Rearranged.isValue {shape : Shape} {text text' : List UInt8}
    (h : Rearranged shape text text') : IsValue text ∧ IsValue text' := by
  cases h with
  | same hv => exact ⟨hv, hv⟩
  | list hlist _ hlist' => exact ⟨hlist.isValue, hlist'.isValue⟩
  | record hobject _ _ _ hobject' => exact ⟨hobject.isValue, hobject'.isValue⟩

/-- An object with its members in another order, and with others among them. -/
theorem Rearranged.of_perm {declared : List (String × Shape)}
    {members extra members' : List (String × List UInt8)} {text text' : List UInt8}
    (hobject : IsObject members text) (hextra : ∀ e ∈ extra, declared.lookup e.1 = none)
    (hperm : members'.Perm (members ++ extra)) (hobject' : IsObject members' text') :
    Rearranged (.record declared) text text' := by
  have hvalues := hobject.values
  have hsame : (members.map fun m => (m.1, m.2, m.2)).map (fun k => (k.1, k.2.1)) = members :=
    List.map_map.trans (List.map_id members)
  have hsame' : (members.map fun m => (m.1, m.2, m.2)).map (fun k => (k.1, k.2.2)) = members :=
    List.map_map.trans (List.map_id members)
  rw [← hsame] at hobject
  rw [← hsame'] at hperm
  refine .record hobject ?_ hextra hperm hobject'
  intro k hk
  obtain ⟨m, hm, rfl⟩ := List.mem_map.mp hk
  exact .same (hvalues m hm)

/-- Any name can be spelled. -/
theorem exists_spells (s : String) : ∃ key, Spells (Utf8.encode s) key := by
  obtain ⟨n, hread⟩ := readTextBody_quote s [] 0
  obtain ⟨key, hkey, -⟩ := spells_of_readTextBody hread
  exact ⟨key, hkey⟩

/-- Members in any order can be written as an object. -/
theorem exists_isObject {members : List (String × List UInt8)}
    (hvalues : ∀ m ∈ members, IsValue m.2) : ∃ text, IsObject members text := by
  have hlisted : ∀ first, ∃ entries inside, List.Forall₂ IsNamed members entries ∧
      Listed 0x7D first entries inside := by
    induction members with
    | nil => exact fun first => ⟨[], _, .nil, .closed isBlanks_nil⟩
    | cons m members ih =>
      intro first
      obtain ⟨hvalue, hvalues⟩ := List.forall_mem_cons.mp hvalues
      obtain ⟨entries, inside, hnamed, hlisted⟩ := ih hvalues false
      obtain ⟨key, hkey⟩ := exists_spells m.1
      have hentry : IsNamed m _ := ⟨key, hkey, hvalue, [], [], isBlanks_nil, isBlanks_nil, rfl⟩
      have hlead : ∃ lead, Lead first lead := by
        cases first with
        | true => exact ⟨_, .first isBlanks_nil⟩
        | false => exact ⟨_, .next isBlanks_nil isBlanks_nil⟩
      obtain ⟨lead, hlead⟩ := hlead
      exact ⟨_, _, .cons hentry hnamed, .entry hlead hlisted⟩
  obtain ⟨entries, inside, hnamed, hlisted⟩ := hlisted true
  exact ⟨_, entries, inside, rfl, hnamed, hlisted⟩

theorem Repeats.isValue {shape : Shape} {text : List UInt8} (h : Repeats shape text) :
    IsValue text := by
  cases h with
  | here hobject => exact hobject.isValue
  | item hlist => exact hlist.isValue
  | member hobject => exact hobject.isValue

/-! ## 2. Readers -/

theorem taken_of_mem {α : Type} {read : Reader α} {levels : Nat} {items : List (List UInt8)}
    {as : List α} (h : List.Forall₂ (Takes read levels) items as) {v : List UInt8}
    (hv : v ∈ items) : ∃ a, Takes read levels v a :=
  ((List.forall₂_and_left (p := fun v => ∃ a, Takes read levels v a) items as).mp
    (h.imp fun _ a ha => ⟨⟨a, ha⟩, ha⟩)).1 v hv

/-- A declared member is taken for its value under its tag. -/
theorem Takes.field_iff {μ β : Type} {read : Reader β} (hread : ReadsValues read) {name : String}
    {tag : β → μ} {mayEnd : Bool} {levels : Nat} {v : List UInt8} {m : μ} (hv : IsValue v) :
    Takes (Field.of name read tag mayEnd).read levels v m ↔
      ∃ b, Takes read levels v b ∧ tag b = m := by
  constructor
  · intro h
    have hplace := hv.skipBlanks [] 0
    obtain ⟨n', hok⟩ := h [] 0 _ endsNumber_nil hplace
    obtain ⟨⟨b, c'⟩, hinner, heq⟩ := map_eq_ok.mp hok
    obtain ⟨htag, rfl⟩ := Prod.mk.inj heq
    exact ⟨b, (Takes.of_ok hread hv hplace endsNumber_nil hinner endsNumber_nil).2, htag⟩
  · rintro ⟨b, h, rfl⟩ rest n c hrest hc
    obtain ⟨n', hinner⟩ := h rest n c hrest hc
    exact ⟨n', by simp only [Field.of, hinner, Except.map]⟩

/-- The reader takes rearranged texts for the same, and takes no text in which a declared name
comes twice. -/
structure Keeps {α : Type} (read : Reader α) (shape : Shape) : Prop where
  reads : ReadsValues read
  rearranged : ∀ levels v w a, Rearranged shape v w → Takes read levels v a →
    Takes read levels w a
  repeats : ∀ levels v a, Repeats shape v → ¬ Takes read levels v a

namespace Keeps

variable {α : Type} {read : Reader α} {shape : Shape}

/-- Where nothing is declared, nothing is rearranged. -/
theorem plain (hread : ReadsValues read) : Keeps read .plain where
  reads := hread
  rearranged := by
    intro levels v w a h htakes
    cases h
    exact htakes
  repeats := by
    intro levels v a h
    cases h

theorem items (h : Keeps read shape) : Keeps (Reader.items read) (.list shape) where
  reads := h.reads.items
  rearranged := by
    intro levels v w as hvw htakes
    cases hvw with
    | same => exact htakes
    | @list _ items _ _ hlist hitems hlist' =>
      obtain ⟨hlevels, hread⟩ := (Takes.items_iff h.reads hlist).mp htakes
      refine (Takes.items_iff h.reads hlist').mpr ⟨hlevels, ?_⟩
      rw [List.forall₂_map_left_iff] at hread ⊢
      have hboth := (List.forall₂_and_left items as).mpr ⟨hitems, hread⟩
      exact hboth.imp fun p a hp => h.rearranged _ _ _ _ hp.1 hp.2
  repeats := by
    intro levels v as hrepeats htakes
    cases hrepeats with
    | @item _ items _ u hlist hu hrepeats =>
      obtain ⟨-, hread⟩ := (Takes.items_iff h.reads hlist).mp htakes
      obtain ⟨a, ha⟩ := taken_of_mem hread hu
      exact h.repeats _ _ _ hrepeats ha

/-- A declared member is kept as its value is. -/
theorem field {μ : Type} (h : Keeps read shape) (name : String) (tag : α → μ) (mayEnd : Bool) :
    Keeps (Field.of name read tag mayEnd).read shape where
  reads := h.reads.field name tag mayEnd
  rearranged := by
    intro levels v w m hvw htakes
    obtain ⟨hv, hw⟩ := hvw.isValue
    obtain ⟨a, ha, rfl⟩ := (Takes.field_iff h.reads hv).mp htakes
    exact (Takes.field_iff h.reads hw).mpr ⟨a, h.rearranged _ _ _ _ hvw ha, rfl⟩
  repeats := by
    intro levels v m hrepeats htakes
    obtain ⟨a, ha, -⟩ := (Takes.field_iff h.reads hrepeats.isValue).mp htakes
    exact h.repeats _ _ _ hrepeats ha

end Keeps

/-! ## 3. Records -/

/-- A declared member: its value is kept, and the part that is read shows the name. -/
structure Field.IsDeclared {μ : Type} (kind : μ → String) (f : Field μ) (d : String × Shape) :
    Prop where
  name : f.name = d.1
  keeps : Keeps f.read d.2
  kinds : ∀ levels c m c', f.read levels c = .ok (m, c') → kind m = f.name

/-- A tag shows the name of its member. -/
theorem Field.isDeclared {μ β : Type} {kind : μ → String} {read : Reader β} {shape : Shape}
    {name : String} {tag : β → μ} {mayEnd : Bool} (h : Keeps read shape)
    (hkind : ∀ b, kind (tag b) = name) :
    (Field.of name read tag mayEnd).IsDeclared kind (name, shape) where
  name := rfl
  keeps := h.field name tag mayEnd
  kinds := by
    intro levels c m c' hread
    obtain ⟨⟨b, c₁⟩, -, heq⟩ := map_eq_ok.mp hread
    obtain ⟨rfl, -⟩ := Prod.mk.inj heq
    exact hkind b

/-- The declared members with what is declared in them. -/
def Declares {μ : Type} (kind : μ → String) (fields : List (Field μ))
    (declared : List (String × Shape)) : Prop :=
  List.Forall₂ (fun f d => f.IsDeclared kind d) fields declared

/-- What is put together does not depend on the order of the parts. -/
def OrderFree {μ α : Type} (r : Record μ α) (kind : μ → String) : Prop :=
  ∀ ms ms', SameParts kind ms ms' → r.assemble ms = r.assemble ms'

section
variable {μ α : Type} {kind : μ → String} {fields : List (Field μ)}
  {declared : List (String × Shape)} {levels : Nat} {seen : List String}

theorem Declares.reads (h : Declares kind fields declared) :
    ∀ f ∈ fields, ReadsValues f.read :=
  ((List.forall₂_and_left (p := fun f => ReadsValues f.read) fields declared).mp
    (h.imp fun _ _ hf => ⟨hf.keeps.reads, hf⟩)).1

/-- What is taken for a declared member shows its name. -/
theorem Declares.kind_eq (h : Declares kind fields declared) {f : Field μ} (hf : f ∈ fields)
    {v : List UInt8} {m : μ} (hv : IsValue v) (htakes : Takes f.read levels v m) :
    kind m = f.name := by
  have hkinds := ((List.forall₂_and_left (p := fun f => ∀ levels c m c',
    f.read levels c = .ok (m, c') → kind m = f.name) fields declared).mp
      (h.imp fun _ _ hf => ⟨hf.kinds, hf⟩)).1
  obtain ⟨n', hread⟩ := htakes [] 0 _ endsNumber_nil (hv.skipBlanks [] 0)
  exact hkinds f hf _ _ _ _ hread

/-- A name is declared on both sides or on neither. -/
theorem Declares.find (h : Declares kind fields declared) (name : String) :
    (findField name fields = none ∧ declared.lookup name = none) ∨
      ∃ f shape, findField name fields = some f ∧ declared.lookup name = some shape ∧
        Keeps f.read shape := by
  induction h with
  | nil => exact Or.inl ⟨rfl, rfl⟩
  | @cons f d fields declared hf _ ih =>
    obtain ⟨other, shape⟩ := d
    obtain rfl : f.name = other := hf.name
    have hkeeps : Keeps f.read shape := hf.keeps
    by_cases hname : f.name = name
    · subst hname
      exact Or.inr ⟨f, shape, by simp [findField], List.lookup_cons_self, hkeeps⟩
    · have hlookup : ((f.name, shape) :: declared).lookup name = declared.lookup name := by
        have hbeq : (name == f.name) = false := by simpa using Ne.symm hname
        rw [List.lookup_cons, hbeq]
      rw [findField, if_neg hname, hlookup]
      exact ih

/-- Parts show the names of the members that they come from. -/
theorem Gathers.kinds (h : Declares kind fields declared)
    {members : List (String × List UInt8)} {ms : List μ} (hvalues : ∀ m ∈ members, IsValue m.2)
    (hgathers : Gathers fields levels seen members ms) :
    ms.map kind = (members.filter (declares fields)).map Prod.fst := by
  have hnamed : List.Forall₂ (fun (m : String × List UInt8) p => m.1 = kind p)
      (members.filter (declares fields)) ms := by
    have hboth := (List.forall₂_and_left _ ms).mpr
      ⟨fun m hm => hvalues m (List.mem_of_mem_filter hm), hgathers.taken⟩
    refine hboth.imp fun m p ⟨hv, f, hf, htakes⟩ => ?_
    obtain ⟨hmem, hname⟩ := findField_mem hf
    rw [h.kind_eq hmem hv htakes, hname]
  rw [← List.forall₂_eq_eq_eq, List.forall₂_map_left_iff, List.forall₂_map_right_iff]
  exact hnamed.flip.imp fun p m h => h.symm

/-- Members whose values are rearranged gather to the same. -/
theorem Gathers.rearranged (h : Declares kind fields declared)
    {kept : List (String × List UInt8 × List UInt8)} {ms : List μ}
    (hkept : ∀ k ∈ kept, Rearranged (Shape.under declared k.1) k.2.1 k.2.2)
    (hgathers : Gathers fields levels seen (kept.map fun k => (k.1, k.2.1)) ms) :
    Gathers fields levels seen (kept.map fun k => (k.1, k.2.2)) ms := by
  induction kept generalizing seen ms with
  | nil => exact hgathers
  | cons k kept ih =>
    obtain ⟨name, v, w⟩ := k
    obtain ⟨hvw, hkept⟩ := List.forall_mem_cons.mp hkept
    rw [List.map_cons] at hgathers ⊢
    rcases h.find name with ⟨hf, hlookup⟩ | ⟨f, shape, hf, hlookup, hkeeps⟩
    · exact (Gathers.cons_passed hf).mpr (ih hkept ((Gathers.cons_passed hf).mp hgathers))
    · obtain ⟨hseen, m, ms', rfl, htakes, hgathers⟩ := (Gathers.cons_declared hf).mp hgathers
      have hvw : Rearranged shape v w := by
        simpa [Shape.under, hlookup] using hvw
      exact (Gathers.cons_declared hf).mpr ⟨hseen, m, ms', rfl,
        hkeeps.rearranged _ _ _ _ hvw htakes, ih hkept hgathers⟩

/-- A declared name comes once among members that are gathered. -/
theorem Gathers.count_le (h : Declares kind fields declared)
    {members : List (String × List UInt8)} {ms : List μ}
    (hgathers : Gathers fields levels seen members ms) {name : String}
    (hname : declared.lookup name ≠ none) : (members.map Prod.fst).count name ≤ 1 := by
  have hdeclared : (findField name fields).isSome = true := by
    rcases h.find name with ⟨-, hlookup⟩ | ⟨f, shape, hf, -⟩
    · exact absurd hlookup hname
    · rw [hf]
      rfl
  have hnames : (members.filter (declares fields)).map Prod.fst =
      (members.map Prod.fst).filter fun name => (findField name fields).isSome := by
    rw [List.filter_map]
    rfl
  have hcount : ((members.map Prod.fst).filter fun name => (findField name fields).isSome).count
      name = (members.map Prod.fst).count name := List.count_filter hdeclared
  have hdistinct := hgathers.distinct
  rw [hnames] at hdistinct
  rw [← hcount]
  exact List.nodup_iff_count_le_one.mp hdistinct name

/-- What stands under a declared name is taken by the reader it is declared with. -/
theorem Gathers.taken_of_mem {members : List (String × List UInt8)} {ms : List μ}
    (hgathers : Gathers fields levels seen members ms) {name : String} {v : List UInt8}
    (hmem : (name, v) ∈ members) {f : Field μ} (hf : findField name fields = some f) :
    ∃ m, Takes f.read levels v m := by
  have hdeclares : declares fields (name, v) = true := by simp [declares, hf]
  have hsome := ((List.forall₂_and_left (p := fun k => ∃ m, TakesMember fields levels k m) _ ms).mp
    (hgathers.taken.imp fun _ m hm => ⟨⟨m, hm⟩, hm⟩)).1
  obtain ⟨m, f', hf', htakes⟩ := hsome (name, v) (List.mem_filter.mpr ⟨hmem, hdeclares⟩)
  obtain rfl : f = f' := Option.some.inj (hf.symm.trans hf')
  exact ⟨m, htakes⟩

/-- A record is kept if its members are, and if it is put together from them in any order. -/
theorem Keeps.record (r : Record μ α) (hfree : OrderFree r kind)
    (h : Declares kind r.fields declared) : Keeps r.reader (.record declared) where
  reads := .record r h.reads
  rearranged := by
    intro levels v w a hvw htakes
    cases hvw with
    | same => exact htakes
    | @record _ kept extra members _ _ hobject hkept hextra hperm hobject' =>
      obtain ⟨hlevels, hmakes⟩ := (Takes.record_iff r h.reads hobject.isValue).mp htakes
      obtain ⟨ms, hgathers, hassemble⟩ := (Makes.object_iff r hobject).mp hmakes
      have hunknown : ∀ e ∈ extra, findField e.1 r.fields = none := by
        intro e he
        rcases h.find e.1 with ⟨hf, -⟩ | ⟨f, shape, -, hlookup, -⟩
        · exact hf
        · exact absurd (hlookup.symm.trans (hextra e he)) (by simp)
      have hgathers' := (hgathers.rearranged h hkept).pass hunknown
      obtain ⟨ms', hgathers', hms⟩ := hgathers'.perm hperm
      -- the parts can be told apart, so their order does not matter
      have hkinds : (ms.map kind).Nodup := by
        rw [hgathers.kinds h hobject.values]
        exact hgathers.distinct
      refine (Takes.record_iff r h.reads hobject'.isValue).mpr ⟨hlevels, ?_⟩
      exact (Makes.object_iff r hobject').mpr
        ⟨ms', hgathers', (hfree _ _ (sameParts_of_perm hms hkinds)).trans hassemble⟩
  repeats := by
    intro levels v a hrepeats htakes
    obtain ⟨-, hmakes⟩ := (Takes.record_iff r h.reads hrepeats.isValue).mp htakes
    cases hrepeats with
    | here hobject hname htwice =>
      obtain ⟨ms, hgathers, -⟩ := (Makes.object_iff r hobject).mp hmakes
      exact absurd (hgathers.count_le h hname) (Nat.not_le.mpr htwice)
    | @member _ members _ u name hobject hu hrepeats =>
      obtain ⟨ms, hgathers, -⟩ := (Makes.object_iff r hobject).mp hmakes
      rcases h.find name with ⟨-, hlookup⟩ | ⟨f, shape, hf, hlookup, hkeeps⟩
      · simp only [Shape.under, hlookup, Option.getD_none] at hrepeats
        cases hrepeats
      · simp only [Shape.under, hlookup, Option.getD_some] at hrepeats
        obtain ⟨m, htakes⟩ := hgathers.taken_of_mem hu hf
        exact hkeeps.repeats _ _ _ hrepeats htakes

/-- The names under which a text has a value: in an object those of its members, in a list the
first ones that are declared. -/
inductive Gives (fields : List (Field μ)) : (text : List UInt8) → (names : List String) → Prop
  | object {members : List (String × List UInt8)} {text : List UInt8}
      (hobject : IsObject members text) : Gives fields text (members.map Prod.fst)
  | list {items : List (List UInt8)} {text : List UInt8} (hlist : IsList items text) :
      Gives fields text ((fields.map Field.name).take items.length)

theorem Places.kinds (h : Declares kind fields declared) {items : List (List UInt8)}
    {ms : List μ} (hplaces : Places levels fields items ms) :
    ms.map kind = (fields.map Field.name).take items.length := by
  induction hplaces generalizing declared with
  | done => simp
  | item hv hm _ ih =>
    rw [List.map_cons, List.map_cons, List.length_cons, List.take_succ_cons,
      h.kind_eq List.mem_cons_self hv hm]
    cases h with
    | cons _ h => rw [ih h]

/-- A record is put together from parts whose names are given. -/
theorem Makes.given (r : Record μ α) (h : Declares kind r.fields declared) {text : List UInt8}
    {a : α} (hmakes : Makes r levels text a) :
    ∃ ms names, r.assemble ms = .ok a ∧ Gives r.fields text names ∧ ∀ m ∈ ms, kind m ∈ names := by
  cases hmakes with
  | @object members _ ms _ hobject hgathers hassemble =>
    refine ⟨ms, _, hassemble, .object hobject, fun m hm => ?_⟩
    have hkind : kind m ∈ ms.map kind := List.mem_map_of_mem hm
    rw [hgathers.kinds h hobject.values] at hkind
    obtain ⟨member, hmember, hname⟩ := List.mem_map.mp hkind
    exact List.mem_map.mpr ⟨member, List.mem_of_mem_filter hmember, hname⟩
  | @list items _ ms _ hlist hplaces hassemble =>
    refine ⟨ms, _, hassemble, .list hlist, fun m hm => ?_⟩
    rw [← hplaces.kinds h]
    exact List.mem_map_of_mem hm

end

/-! ## 4. Whole texts -/

/-- A whole text with one value in it. -/
def Around (text v : List UInt8) : Prop :=
  ∃ gap gap', IsBlanks gap ∧ IsBlanks gap' ∧ text = gap ++ (v ++ gap')

theorem IsBlanks.endsNumber {gap : List UInt8} (h : IsBlanks gap) : EndsNumber gap := by
  simpa using endsNumber_blanks h endsNumber_nil

theorem Around.unique {text v w : List UInt8} (hv : IsValue v) (hw : IsValue w)
    (h : Around text v) (h' : Around text w) : v = w := by
  obtain ⟨gap, gap', hgap, hgap', rfl⟩ := h
  obtain ⟨gap₁, gap₁', hgap₁, hgap₁', heq⟩ := h'
  have hplace := hgap.skip_entry hv.starts gap' 0
  have hplace₁ := hgap₁.skip_entry hw.starts gap₁' 0
  rw [heq] at hplace
  have hsame : w ++ gap₁' = v ++ gap' := congrArg Cursor.rest (hplace₁.symm.trans hplace)
  exact (hv.unique hw hgap'.endsNumber hgap₁'.endsNumber hsame.symm).1

section
variable {α : Type} {d : Decoder α} {text v : List UInt8} {a : α}

/-- A text that can be decoded has one value in it. -/
theorem Decoder.decode_value (hread : ReadsValues d.read) (h : d.decode text = .ok a) :
    ∃ v, IsValue v ∧ Around text v ∧ Takes d.read maxLevels v a := by
  obtain ⟨⟨a', c⟩, hok, hrest⟩ := bind_eq_ok.mp (mapError_eq_ok.mp h)
  dsimp only at hrest
  split at hrest
  · rename_i hend
    obtain rfl := Except.ok.inj hrest
    obtain ⟨gap', rest, n, hgap', hc, -, hskip⟩ := c.skipBlanks_split
    rw [hskip, List.isEmpty_iff] at hend
    obtain rfl : rest = [] := hend
    rw [List.append_nil] at hc
    obtain ⟨v, n', hv, hplace, htakes⟩ := hread _ _ _ _ hok (by rw [hc]; exact hgap'.endsNumber)
    obtain ⟨gap, rest', n'', hgap, htext, -, hskip'⟩ := (Cursor.start text).skipBlanks_split
    obtain rfl : rest' = v ++ c.rest := congrArg Cursor.rest (hskip'.symm.trans hplace)
    exact ⟨v, hv, ⟨gap, gap', hgap, hgap', by rw [← hc]; exact htext⟩, htakes⟩
  · cases hrest

/-- What is decoded from a text is what is taken for the value in it. -/
theorem Decoder.decode_iff (hread : ReadsValues d.read) (hv : IsValue v) (h : Around text v) :
    d.decode text = .ok a ↔ Takes d.read maxLevels v a := by
  constructor
  · intro hdecode
    obtain ⟨w, hw, hw', htakes⟩ := d.decode_value hread hdecode
    obtain rfl := h.unique hv hw hw'
    exact htakes
  · intro htakes
    obtain ⟨gap, gap', hgap, hgap', rfl⟩ := h
    obtain ⟨n', hok⟩ := htakes gap' _ (Cursor.start (gap ++ (v ++ gap'))) hgap'.endsNumber
      (hgap.skip_entry hv.starts gap' 0)
    have hskip : (⟨gap', n'⟩ : Cursor).skipBlanks = ⟨[], n' + gap'.length⟩ := by
      have hpass := passWhile_append hgap' [] n'
      rwa [List.append_nil] at hpass
    refine mapError_eq_ok.mpr ?_
    simp only [Decoder.readWhole, hok, bind, Except.bind, hskip, List.isEmpty_nil, if_true]

/-- The decoder ignores the order of members and members that are not declared, but no member
that comes twice. What it decodes is an object or a list. -/
structure Decoder.IgnoresOrder (d : Decoder α) (shape : Shape) : Prop where
  reads : ∀ text a, d.decode text = .ok a →
    ∃ v, Around text v ∧ ((∃ members, IsObject members v) ∨ ∃ items, IsList items v)
  rearranged : ∀ text text' v v' a, Around text v → Around text' v' → Rearranged shape v v' →
    d.decode text = .ok a → d.decode text' = .ok a
  repeated : ∀ text v, Around text v → Repeats shape v → ∃ fault, d.decode text = .error fault

theorem around_self (v : List UInt8) : Around v v :=
  ⟨[], [], isBlanks_nil, isBlanks_nil, by simp⟩

/-- An object that is decoded can be written with its members in any order and others among
them, and is decoded as the same. -/
theorem Decoder.IgnoresOrder.of_perm {declared : List (String × Shape)}
    (h : d.IgnoresOrder (.record declared)) {members extra members' : List (String × List UInt8)}
    (haround : Around text v) (hobject : IsObject members v) (hdecode : d.decode text = .ok a)
    (hextra : ∀ e ∈ extra, declared.lookup e.1 = none ∧ IsValue e.2)
    (hperm : members'.Perm (members ++ extra)) :
    ∃ text', IsObject members' text' ∧ d.decode text' = .ok a := by
  have hvalues : ∀ m ∈ members', IsValue m.2 := by
    intro m hm
    rcases List.mem_append.mp (hperm.mem_iff.mp hm) with hm | hm
    · exact hobject.values m hm
    · exact (hextra m hm).2
  obtain ⟨text', hobject'⟩ := exists_isObject hvalues
  have hsame := Rearranged.of_perm hobject (fun e he => (hextra e he).1) hperm hobject'
  exact ⟨text', hobject', h.rearranged _ _ _ _ a haround (around_self text') hsame hdecode⟩

end

/-- The order of members does not matter for a record that is put together in any order. -/
theorem Record.ignoresOrder {μ α : Type} (r : Record μ α) {kind : μ → String}
    (hfree : OrderFree r kind) {declared : List (String × Shape)}
    (h : Declares kind r.fields declared) :
    r.decoder.IgnoresOrder (.record declared) where
  reads := by
    intro text a hdecode
    obtain ⟨v, hv, haround, htakes⟩ := r.decoder.decode_value (.record r h.reads) hdecode
    refine ⟨v, haround, ?_⟩
    cases ((Takes.record_iff r h.reads hv).mp htakes).2 with
    | object hobject => exact Or.inl ⟨_, hobject⟩
    | list hlist => exact Or.inr ⟨_, hlist⟩
  rearranged := by
    intro text text' v v' a haround haround' hvv' hdecode
    obtain ⟨hv, hv'⟩ := hvv'.isValue
    have hkeeps := Keeps.record r hfree h
    have htakes := (Decoder.decode_iff hkeeps.reads hv haround).mp hdecode
    exact (Decoder.decode_iff hkeeps.reads hv' haround').mpr
      (hkeeps.rearranged _ _ _ _ hvv' htakes)
  repeated := by
    intro text v haround hrepeats
    have hkeeps := Keeps.record r hfree h
    cases hdecode : r.decoder.decode text with
    | error fault => exact ⟨fault, rfl⟩
    | ok a =>
      have htakes := (Decoder.decode_iff hkeeps.reads hrepeats.isValue haround).mp hdecode
      exact absurd htakes (hkeeps.repeats _ _ _ hrepeats)

end CoachClient.Json
