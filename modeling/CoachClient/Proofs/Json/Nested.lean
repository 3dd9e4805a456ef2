/-
CoachClient.Proofs.Json.Nested — lists and records read back wherever they stand.

* `Reads.bool`, `Reads.items`, `Record.reads_compact` — a truth value, a list of what
  reads back, and a record of what reads back, one level deeper each.
* `Written` — how a type is written: every value reads back from its text, and the text
  begins like an item of a list.
* `Decoder.recode` — a text that is read and written again.
* `Decoder.RoundTrips`, `Written.roundTrips` — what is written reads back as what it was,
  so writing again what has been written changes nothing.

`Reads` leaves open what follows, so what it says of a record it says of a record inside
a list as well. Only the levels have to be counted.
-/
import CoachClient.Proofs.Json.Values

namespace CoachClient.Json

open CoachClient.Text CoachClient.Text.Utf8

/-! ## 1. One level deeper -/

section
variable {α : Type} {depth : Nat} {read : Reader α}

namespace Reads

theorem bool (b : Bool) : Reads depth Reader.bool (Value.bool b).compactChars b := by
  intro levels rest n _ _ c hc
  cases b with
  | true =>
    have htext : encodeAll (Value.bool true).compactChars ++ rest =
        0x74 :: ([0x72, 0x75, 0x65] ++ rest) := rfl
    rw [htext, Cursor.skipBlanks_of_not (by decide)] at hc
    obtain ⟨n', hword⟩ := readWord_self [0x72, 0x75, 0x65] rest (n + 1)
    exact ⟨n', by simp only [Reader.bool, hc, if_true, hword, Except.map]⟩
  | false =>
    have htext : encodeAll (Value.bool false).compactChars ++ rest =
        0x66 :: ([0x61, 0x6C, 0x73, 0x65] ++ rest) := rfl
    rw [htext, Cursor.skipBlanks_of_not (by decide)] at hc
    obtain ⟨n', hword⟩ := readWord_self [0x61, 0x6C, 0x73, 0x65] rest (n + 1)
    have htrue : (0x66 : UInt8) ≠ 0x74 := by decide
    exact ⟨n', by simp only [Reader.bool, hc, if_neg htrue, if_true, hword, Except.map]⟩

/-- A list of what reads back. -/
theorem items {texts : List (List Char)} {as : List α} (hdepth : 0 < depth)
    (h : List.Forall₂ (fun text a => StartsItem text ∧ Reads depth read text a) texts as) :
    Reads (depth + 1) (Reader.items read) ('[' :: itemsText true texts) as := by
  intro levels rest n hlevels _ c hc
  have htext : encodeAll ('[' :: itemsText true texts) ++ rest =
      0x5B :: (encodeAll (itemsText true texts) ++ rest) := rfl
  rw [htext, Cursor.skipBlanks_of_not (by decide)] at hc
  have hinside : depth ≤ levels - 1 := by omega
  have hdeep : ¬ levels ≤ 1 := by omega
  obtain ⟨n', hbody⟩ := readListBody_text h hinside rest (n + 1)
  exact ⟨n', by simp only [Reader.items, hc, if_true, if_neg hdeep, hbody]⟩

end Reads

/-- A record of what reads back. -/
theorem Record.reads_compact {μ : Type} (r : Record μ α) (ms : List μ)
    {members : List (String × Value)} {a : α} (hdepth : 0 < depth)
    (hfits : List.Forall₂ (fun member m => Fits depth r.fields (member.1, member.2.compactChars) m)
      members ms)
    (hdistinct : (members.map Prod.fst).Nodup) (hassemble : r.assemble ms = .ok a) :
    Reads (depth + 1) r.reader (Value.object members).compactChars a := by
  have hkeys : ((members.map fun m => (m.1, m.2.compactChars)).map Prod.fst).Nodup := by
    rw [List.map_map]
    exact hdistinct
  have hreads := r.reads_object .compact hdepth (List.forall₂_map_left_iff.mpr hfits) hkeys
    hassemble
  rwa [← compactMembers_eq] at hreads

theorem startsItem_object (members : List (String × Value)) :
    StartsItem (Value.object members).compactChars := fun _ =>
  ⟨0x7B, _, rfl, by decide, by decide⟩

/-! ## 2. How a type is written -/

/-- Every value reads back from the text that is written for it, wherever an item of a list
may stand. -/
structure Written (depth : Nat) (read : Reader α) (write : α → Value) : Prop where
  starts : ∀ a, StartsItem (write a).compactChars
  reads : ∀ a, Reads depth read (write a).compactChars a

namespace Written

theorem text : Written depth Reader.text Value.text where
  starts s := (Value.Within.text 0 s).startsItem
  reads s := Reads.text s

theorem word32 : Written depth Reader.word32 fun k => .ofNat k.toNat where
  starts k := (Value.Within.integer 0 (inWords_word32 k)).startsItem
  reads k := Reads.word32 k

/-- The items of a list are written one by one. -/
theorem items {write : α → Value} (h : Written depth read write) (hdepth : 0 < depth) :
    Written (depth + 1) (Reader.items read) fun as => .list (as.map write) where
  starts as _ := ⟨0x5B, _, rfl, by decide, by decide⟩
  reads as := by
    have hitems : List.Forall₂ (fun text a => StartsItem text ∧ Reads depth read text a)
        ((as.map write).map Value.compactChars) as := by
      rw [List.map_map, List.forall₂_map_left_iff, List.forall₂_same]
      exact fun a _ => ⟨h.starts a, h.reads a⟩
    have hreads := Reads.items hdepth hitems
    rwa [← compactItems_eq] at hreads

end Written

end

/-! ## 3. Texts that are written again -/

section
variable {α : Type} {d : Decoder α} {write : α → Value}

/-- The text of a value. -/
def written (v : Value) : List UInt8 := encode v.compact

/-- A text that is read and written again. -/
def Decoder.recode (d : Decoder α) (write : α → Value) (input : List UInt8) :
    Except Fault (List UInt8) :=
  (d.decode input).map fun a => written (write a)

/-- What is written reads back: what has been read from a text, and any other value. So a
text that has been written again stays as it is from then on. -/
structure Decoder.RoundTrips (d : Decoder α) (write : α → Value) : Prop where
  value : ∀ a, d.decode (written (write a)) = .ok a
  text : ∀ input output, d.recode write input = .ok output → d.recode write output = .ok output

theorem Written.roundTrips {depth : Nat} (h : Written depth d.read write)
    (hdepth : depth ≤ maxLevels) : d.RoundTrips write := by
  have hvalue : ∀ a, d.decode (written (write a)) = .ok a := fun a =>
    Decoder.decode_of_reads (h.reads a) hdepth
  refine ⟨hvalue, fun input output hrecode => ?_⟩
  unfold Decoder.recode at hrecode
  cases hdecode : d.decode input with
  | error fault =>
    rw [hdecode] at hrecode
    cases hrecode
  | ok a =>
    rw [hdecode] at hrecode
    obtain rfl : written (write a) = output := Except.ok.inj hrecode
    rw [Decoder.recode, hvalue a]
    rfl

end

end CoachClient.Json
