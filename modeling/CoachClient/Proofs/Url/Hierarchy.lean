/-
CoachClient.Proofs.Url.Hierarchy — a URL of the web whose text goes on.

* `read` — what is read of a text that has lost its ends.
* `not_isAuthority_of_edge` — an authority does not end in a blank.
* `pathPart` — what stands behind the authority.
* `goesOn` — the same origin and user information with another text behind
  them.
* `read_append` — a text that reads as a URL of the web, but for slashes at its
  end, reads as that URL whatever path follows: the authority ends before it.
* `read_edge` — a blank that follows the authority makes it none.

Everything rests on where the authority ends: in the text itself, or where the
path begins that follows it. A blank is none of the characters that end it.
-/
import CoachClient.Proofs.Url.Front
import Mathlib.Data.List.TakeWhile
import Mathlib.Tactic.Tauto

namespace CoachClient.Url

open CoachClient.Text

/-! ## 1. The authority of a special URL -/

/-- The user information that stands before the last at sign. -/
def userinfoOf (cs : List Char) : List Char × Option (List Char) :=
  match splitLastAt cs with
  | some (c :: info, _) => readUserinfo (c :: info)
  | _ => ([], none)

/-- What stands behind the last at sign. -/
def hostAndPortOf (cs : List Char) : List Char :=
  match splitLastAt cs with
  | some (_, rest) => rest
  | none => cs

/-- A port that may be left out. -/
def readPort? (scheme : List Char) : Option (List Char) → Except Fault (Option Nat × List Char)
  | some ds => readPort scheme ds
  | none => .ok (none, [])

/-- The authority is what a text reads as in a special URL. -/
structure IsAuthority (scheme cs : List Char) (a : Authority) : Prop where
  userinfo : userinfoOf cs = (a.username, a.password)
  nonempty : (splitPort false (hostAndPortOf cs)).1 ≠ []
  host : Host.parse (splitPort false (hostAndPortOf cs)).1 = .ok a.host
  port : readPort? scheme (splitPort false (hostAndPortOf cs)).2 = .ok (a.port, a.rest)

/-- Host and port of a special URL behind its user information. -/
theorem readHostAndPort {scheme host : List Char} {port : Option (List Char)} {credentials : Bool}
    {username : List Char} {password : Option (List Char)} {a : Authority} :
    (do
      let h ← if host.isEmpty then .error .emptyHost else Host.parse host
      if host.isEmpty && (port.isSome || credentials) then .error .emptyHost
      else
        let (p, rest) ← match port with
          | some ds => readPort scheme ds
          | none => .ok (none, [])
        .ok { username, password, host := h, port := p, rest } : Except Fault Authority) = .ok a ↔
      (username, password) = (a.username, a.password) ∧ host ≠ [] ∧ Host.parse host = .ok a.host ∧
        readPort? scheme port = .ok (a.port, a.rest) := by
  cases host with
  | nil => simp [bind, Except.bind]
  | cons c host =>
    cases hparse : Host.parse (c :: host) with
    | error fault => simp [bind, Except.bind]
    | ok h =>
      have hport : (match port with
          | some ds => readPort scheme ds
          | none => Except.ok (none, [])) = readPort? scheme port := rfl
      cases hread : readPort? scheme port with
      | error fault => cases port <;> simp_all [readPort?, bind, Except.bind]
      | ok found =>
        obtain ⟨a₁, a₂, a₃, a₄, a₅⟩ := a
        cases port <;> simp_all [readPort?, bind, Except.bind, Prod.ext_iff] <;> tauto

theorem readAuthority_iff {scheme : List Char} (hs : Kind.of scheme = .special) {isEnd : Bool}
    {cs : List Char} {a : Authority} :
    readAuthority scheme isEnd cs = .ok a ↔ IsAuthority scheme cs a := by
  have hkind : (Kind.of scheme == Kind.special) = true := by simp [hs]
  have hiff : IsAuthority scheme cs a ↔ userinfoOf cs = (a.username, a.password) ∧
      (splitPort false (hostAndPortOf cs)).1 ≠ [] ∧
      Host.parse (splitPort false (hostAndPortOf cs)).1 = .ok a.host ∧
      readPort? scheme (splitPort false (hostAndPortOf cs)).2 = .ok (a.port, a.rest) :=
    ⟨fun h => ⟨h.userinfo, h.nonempty, h.host, h.port⟩, fun h => ⟨h.1, h.2.1, h.2.2.1, h.2.2.2⟩⟩
  rw [hiff]
  unfold readAuthority userinfoOf hostAndPortOf
  rcases hsplit : splitLastAt cs with _ | ⟨info, rest⟩
  · simp only [hkind, if_true]
    exact readHostAndPort
  · cases info with
    | cons c info =>
      simp only [hkind, if_true]
      exact readHostAndPort
    | nil =>
      cases rest with
      | nil => cases isEnd <;> simp [splitPort, hs, bind, Except.bind]
      | cons c rest =>
        simp only [hkind, if_true, List.isEmpty_cons, Bool.false_and, Bool.false_eq_true, if_false]
        exact readHostAndPort

/-! ## 2. An authority does not end in a blank -/

theorem splitLastAt_concat {c : Char} (hc : c ≠ '@') (cs : List Char) :
    splitLastAt (cs ++ [c]) = (splitLastAt cs).map fun (info, rest) => (info, rest ++ [c]) := by
  have hreverse : (cs ++ [c]).reverse = c :: cs.reverse := by simp
  have hkeep : (c != '@') = true := by simpa using hc
  unfold splitLastAt
  simp only [hreverse, List.dropWhile_cons, hkeep, if_true, List.takeWhile_cons,
    List.reverse_cons]
  split <;> rfl

theorem hostAndPortOf_concat {c : Char} (hc : c ≠ '@') (cs : List Char) :
    hostAndPortOf (cs ++ [c]) = hostAndPortOf cs ++ [c] := by
  unfold hostAndPortOf
  rw [splitLastAt_concat hc]
  cases splitLastAt cs <;> rfl

/-- A character at the end belongs to the port if there is one, and else to the
host. -/
theorem splitPort_concat {c : Char} (hcolon : c ≠ ':') (b : Bool) (cs : List Char) :
    splitPort b (cs ++ [c]) =
      match splitPort b cs with
      | (host, some port) => (host, some (port ++ [c]))
      | (host, none) => (host ++ [c], none) := by
  induction cs generalizing b with
  | nil => simp [splitPort, hcolon]
  | cons d cs ih =>
    rw [List.cons_append]
    unfold splitPort
    split
    · rfl
    · rw [ih]
      rcases splitPort (if d = '[' then true else if d = ']' then false else b) cs with
        ⟨host, _ | port⟩ <;> rfl

theorem splitPort_suffix {b : Bool} {cs host port : List Char}
    (h : splitPort b cs = (host, some port)) : port <:+ cs := by
  induction cs generalizing b host with
  | nil => cases h
  | cons d cs ih =>
    unfold splitPort at h
    split at h
    · obtain ⟨-, hport⟩ := Prod.mk.inj h
      rw [Option.some.inj hport]
      exact List.suffix_cons d port
    · obtain ⟨-, hport⟩ := Prod.mk.inj h
      exact (ih (Prod.ext rfl hport)).trans (List.suffix_cons d cs)

theorem hostAndPortOf_suffix (cs : List Char) : hostAndPortOf cs <:+ cs := by
  unfold hostAndPortOf
  split
  · rename_i info rest hsplit
    unfold splitLastAt at hsplit
    dsimp only at hsplit
    split at hsplit
    · obtain ⟨-, hrest⟩ := Prod.mk.inj (Option.some.inj hsplit)
      rw [← hrest, ← List.reverse_prefix, List.reverse_reverse]
      exact List.takeWhile_prefix _
    · cases hsplit
  · exact List.suffix_rfl

/-- A port is digits and nothing else, unless a backslash follows them. -/
theorem readPort_ok {scheme cs rest : List Char} {port : Option Nat} (hcs : '\\' ∉ cs)
    (h : readPort scheme cs = .ok (port, rest)) : rest = [] ∧ ∀ c ∈ cs, isDigit c = true := by
  unfold readPort at h
  dsimp only at h
  split at h
  · cases h
  · rename_i hno
    obtain ⟨-, rfl⟩ := Prod.mk.inj (Except.ok.inj h)
    simp only [Bool.or_eq_true, not_or] at hno
    cases hdrop : cs.dropWhile isDigit with
    | nil => exact ⟨rfl, List.dropWhile_eq_nil_iff.mp hdrop⟩
    | cons c rest =>
      have hmem : c ∈ cs := (List.dropWhile_sublist isDigit).subset (hdrop ▸ List.mem_cons_self)
      have hc : c ≠ '\\' := by
        rintro rfl
        exact hcs hmem
      simp [hdrop, hc] at hno

section
variable {scheme cs : List Char} {a : Authority}

/-- Without a backslash all of an authority is read. -/
theorem IsAuthority.rest_eq_nil (h : IsAuthority scheme cs a) (hcs : '\\' ∉ cs) : a.rest = [] := by
  have hport := h.port
  rcases hsplit : splitPort false (hostAndPortOf cs) with ⟨host, _ | port⟩
  · rw [hsplit] at hport
    exact (Prod.mk.inj (Except.ok.inj hport)).2.symm
  · rw [hsplit] at hport
    have hsuffix := (splitPort_suffix hsplit).trans (hostAndPortOf_suffix cs)
    exact (readPort_ok (fun hmem => hcs (hsuffix.subset hmem)) hport).1

theorem not_isAuthority_of_edge {c : Char} (hc : IsEdge c) (hcs : '\\' ∉ cs) :
    ¬ IsAuthority scheme (cs ++ [c]) a := by
  intro h
  have hwhole : '\\' ∉ cs ++ [c] := by
    simp only [List.mem_append, List.mem_singleton, not_or]
    exact ⟨hcs, (hc.ne (by decide)).symm⟩
  have hport := h.port
  have hhost := h.host
  rw [hostAndPortOf_concat (hc.ne (by decide))] at hport hhost
  rcases hsplit : splitPort false (hostAndPortOf cs) with ⟨host, _ | port⟩
  · rw [splitPort_concat (hc.ne (by decide)), hsplit] at hhost
    obtain ⟨fault, hfault⟩ := Host.parse_of_edge hc host
    exact nomatch hfault.symm.trans hhost
  · rw [splitPort_concat (hc.ne (by decide)), hsplit] at hport
    have hsuffix := (splitPort_suffix hsplit).trans (hostAndPortOf_suffix cs)
    have hnone : '\\' ∉ port ++ [c] := fun hmem =>
      hwhole ((List.suffix_append_self_iff.mpr hsuffix).subset hmem)
    have hdigits := (readPort_ok hnone hport).2
    have hdigit := hdigits c (List.mem_append_right _ (List.mem_singleton.mpr rfl))
    simp only [isDigit, Bool.and_eq_true, decide_eq_true_eq] at hdigit
    have hle : 0x30 ≤ c.toNat := hdigit.1
    unfold IsEdge at hc
    omega

end

/-! ## 3. Reading -/

/-- Read what is left of a text without its ends. -/
def read (cs : List Char) : Except Fault Url :=
  match splitScheme cs with
  | some (scheme, rest) => readAfterScheme scheme rest
  | none => .error .noScheme

theorem parse_eq_read (s : String) : parse s = read (significant s) := rfl

/-- The characters of an authority. -/
def inAuthority (c : Char) : Bool := !endsAuthority .special c

/-- What stands behind the scheme and the slashes after it. -/
def withoutSlashes (cs : List Char) : List Char := cs.dropWhile (isSlash .special)

/-- Origin and user information of a URL with another text behind them. -/
def goesOn (u : Url) (cs : List Char) : Url :=
  { u with
    path := readPathStart .special (cs.takeWhile fun c => !endsPath c)
    query := (readTail .special (cs.dropWhile fun c => !endsPath c)).1
    fragment := (readTail .special (cs.dropWhile fun c => !endsPath c)).2 }

/-- The URL of an authority and of the text behind it. -/
def Authority.url (a : Authority) (scheme cs : List Char) : Url :=
  { scheme, username := a.username, password := a.password, host := some a.host, port := a.port,
    path := readPathStart .special (cs.takeWhile fun c => !endsPath c)
    query := (readTail .special (cs.dropWhile fun c => !endsPath c)).1
    fragment := (readTail .special (cs.dropWhile fun c => !endsPath c)).2 }

theorem backslash_not_mem (cs : List Char) : '\\' ∉ cs.takeWhile inAuthority := by
  intro h
  exact absurd (List.mem_takeWhile_imp h) (by decide)

theorem readHierarchy_iff {scheme : List Char} (hs : Kind.of scheme = .special) {cs : List Char}
    {u : Url} :
    readHierarchy scheme cs = .ok u ↔
      ∃ a, IsAuthority scheme (cs.takeWhile inAuthority) a ∧
        u = a.url scheme (cs.dropWhile inAuthority) := by
  unfold readHierarchy
  simp only [hs]
  cases hread : readAuthority scheme (cs.dropWhile inAuthority).isEmpty
      (cs.takeWhile inAuthority) with
  | error fault =>
    have hnone : ∀ a, ¬ IsAuthority scheme (cs.takeWhile inAuthority) a := fun a ha =>
      nomatch hread.symm.trans ((readAuthority_iff hs).mpr ha)
    simp only [hnone, false_and, exists_false, iff_false]
    intro h
    unfold inAuthority at hread
    simp [hread, bind, Except.bind] at h
  | ok a =>
    have ha := (readAuthority_iff hs).mp hread
    have hunique : ∀ a', IsAuthority scheme (cs.takeWhile inAuthority) a' → a' = a := fun a' ha' =>
      Except.ok.inj (((readAuthority_iff hs).mpr ha').symm.trans hread)
    have hrest := ha.rest_eq_nil (backslash_not_mem cs)
    unfold inAuthority at hread
    simp only [hread, bind, Except.bind, hrest, List.nil_append, Except.ok.injEq]
    constructor
    · rintro rfl
      exact ⟨a, ha, rfl⟩
    · rintro ⟨a', ha', rfl⟩
      rw [hunique a' ha']
      rfl

theorem kind_of_isWeb {u : Url} (h : u.isWeb = true) : Kind.of u.scheme = .special := by
  simp only [isWeb, Bool.or_eq_true, beq_iff_eq] at h
  rcases h with h | h <;> rw [h] <;> decide

theorem readHierarchy_scheme {scheme cs : List Char} {u : Url}
    (h : readHierarchy scheme cs = .ok u) : u.scheme = scheme := by
  simp only [readHierarchy, bind, Except.bind] at h
  split at h
  · cases h
  · rw [← Except.ok.inj h]

theorem readFile_scheme {cs : List Char} {u : Url} (h : readFile cs = .ok u) :
    u.scheme = "file".toList := by
  simp only [readFile, bind, Except.bind] at h
  split at h
  · split at h
    · cases h
    · rw [← Except.ok.inj h]
  · rw [← Except.ok.inj h]

theorem readAfterScheme_scheme {scheme cs : List Char} {u : Url}
    (h : readAfterScheme scheme cs = .ok u) : u.scheme = scheme := by
  unfold readAfterScheme at h
  split at h
  · rename_i hfile
    have hscheme : scheme = "file".toList := by
      unfold Kind.of at hfile
      split at hfile
      · rename_i hscheme
        simpa using hscheme
      · split at hfile <;> cases hfile
    rw [readFile_scheme h, hscheme]
  · exact readHierarchy_scheme h
  · split at h
    · exact readHierarchy_scheme h
    · rw [← Except.ok.inj h]
      rfl

/-- A URL of the web has a scheme, an authority and what stands behind it. -/
theorem read_web {cs : List Char} {u : Url} (h : read cs = .ok u) (hweb : u.isWeb = true) :
    ∃ scheme rest a, splitScheme cs = some (scheme, rest) ∧ Kind.of scheme = .special ∧
      IsAuthority scheme ((withoutSlashes rest).takeWhile inAuthority) a ∧
      u = a.url scheme ((withoutSlashes rest).dropWhile inAuthority) := by
  unfold read at h
  split at h
  · rename_i scheme rest hsplit
    have hs : Kind.of scheme = .special := by
      rw [← readAfterScheme_scheme h]
      exact kind_of_isWeb hweb
    simp only [readAfterScheme, hs] at h
    obtain ⟨a, ha, hu⟩ := (readHierarchy_iff hs).mp h
    exact ⟨scheme, rest, a, hsplit, hs, ha, hu⟩
  · cases h

theorem read_of {cs scheme rest : List Char} {a : Authority}
    (hsplit : splitScheme cs = some (scheme, rest)) (hs : Kind.of scheme = .special)
    (ha : IsAuthority scheme ((withoutSlashes rest).takeWhile inAuthority) a) :
    read cs = .ok (a.url scheme ((withoutSlashes rest).dropWhile inAuthority)) := by
  simp only [read, hsplit, readAfterScheme, hs]
  exact (readHierarchy_iff hs).mpr ⟨a, ha, rfl⟩

/-! ## 4. Going on -/

/-- What stands behind the authority of a URL of the web. -/
def pathPart (cs : List Char) : List Char :=
  match splitScheme cs with
  | some (_, rest) => (withoutSlashes rest).dropWhile inAuthority
  | none => []

/-- A scheme is letters and the like up to a colon. -/
theorem splitScheme_iff {cs scheme rest : List Char} :
    splitScheme cs = some (scheme, rest) ↔ ∃ c name, cs = c :: name ++ ':' :: rest ∧
      isLetter c = true ∧ (∀ d ∈ c :: name, isSchemeChar d = true) ∧
      scheme = (c :: name).map Char.toLower := by
  constructor
  · intro h
    unfold splitScheme at h
    dsimp only at h
    split at h
    · rename_i rest' c name hdrop htake
      split at h
      · rename_i hletter
        obtain ⟨rfl, rfl⟩ := Prod.mk.inj (Option.some.inj h)
        refine ⟨c, name, ?_, hletter, fun d hd => ?_, by rw [htake]⟩
        · rw [← htake, ← hdrop, List.takeWhile_append_dropWhile]
        · rw [← htake] at hd
          exact List.mem_takeWhile_imp hd
      · cases h
    · cases h
  · rintro ⟨c, name, rfl, hletter, hname, rfl⟩
    have hcolon : isSchemeChar ':' = false := by decide
    have hdrop : (c :: name ++ ':' :: rest).dropWhile isSchemeChar = ':' :: rest := by
      rw [dropWhile_append_of_head (by simp [hcolon]), List.dropWhile_eq_nil_iff.mpr hname,
        List.nil_append]
    have htake : (c :: name ++ ':' :: rest).takeWhile isSchemeChar = c :: name := by
      rw [List.takeWhile_append_of_pos hname, List.takeWhile_cons]
      simp [hcolon]
    unfold splitScheme
    simp only [hdrop, htake, hletter, if_true]

/-- A scheme that stands before slashes stands there before anything. -/
theorem splitScheme_append {cs scheme rest : List Char} {k : Nat}
    (h : splitScheme (cs ++ List.replicate k '/') = some (scheme, rest)) :
    ∃ rest', splitScheme cs = some (scheme, rest') ∧ rest = rest' ++ List.replicate k '/' ∧
      ∀ more, splitScheme (cs ++ more) = some (scheme, rest' ++ more) := by
  obtain ⟨c, name, hcs, hletter, hname, rfl⟩ := splitScheme_iff.mp h
  have hno : ∀ before after, List.replicate k '/' ≠ before ++ ':' :: after := fun before after heq =>
    absurd (List.eq_of_mem_replicate (heq ▸ List.mem_append_right before List.mem_cons_self))
      (by decide)
  obtain ⟨rest', hrest', hk⟩ : ∃ rest', cs = c :: name ++ ':' :: rest' ∧
      rest = rest' ++ List.replicate k '/' := by
    rcases List.append_eq_append_iff.mp hcs with ⟨between, -, hbetween⟩ | ⟨between, hbefore, hafter⟩
    · exact absurd hbetween (hno between rest)
    · cases between with
      | nil => exact absurd hafter.symm (hno [] rest)
      | cons d between =>
        obtain ⟨rfl, htail⟩ := List.cons.inj hafter
        exact ⟨between, hbefore, htail⟩
  refine ⟨rest', splitScheme_iff.mpr ⟨c, name, hrest', hletter, hname, rfl⟩, hk, fun more => ?_⟩
  refine splitScheme_iff.mpr ⟨c, name, ?_, hletter, hname, rfl⟩
  rw [hrest', List.append_assoc]
  rfl

theorem takeWhile_dropWhile_append {α : Type} {p : α → Bool} {xs ys : List α}
    (h : xs.dropWhile p ≠ [] ∨ ∀ y ∈ ys.head?, p y = false) :
    (xs ++ ys).takeWhile p = xs.takeWhile p ∧ (xs ++ ys).dropWhile p = xs.dropWhile p ++ ys := by
  have hdrop : (xs ++ ys).dropWhile p = xs.dropWhile p ++ ys := by
    rcases h with h | h
    · rw [List.dropWhile_append, if_neg (by simpa using h)]
    · exact dropWhile_append_of_head h
  refine ⟨?_, hdrop⟩
  have hwhole : (xs ++ ys).takeWhile p ++ (xs ++ ys).dropWhile p =
      xs.takeWhile p ++ (xs.dropWhile p ++ ys) := by
    rw [List.takeWhile_append_dropWhile, ← List.append_assoc, List.takeWhile_append_dropWhile]
  rw [hdrop] at hwhole
  exact List.append_cancel_right hwhole

section
variable {cs : List Char} {k : Nat} {u : Url}

/-- Behind the scheme and its slashes something stands before the slashes at the
end: an authority cannot be empty. -/
theorem exists_authority (h : read (cs ++ List.replicate k '/') = .ok u)
    (hweb : u.isWeb = true) :
    ∃ scheme rest, Kind.of scheme = .special ∧ withoutSlashes rest ≠ [] ∧
      pathPart cs = (withoutSlashes rest).dropWhile inAuthority ∧
      (∀ more, splitScheme (cs ++ more) = some (scheme, rest ++ more)) ∧
      ∃ a, IsAuthority scheme ((withoutSlashes rest).takeWhile inAuthority) a ∧
        u = a.url scheme (pathPart cs ++ List.replicate k '/') := by
  obtain ⟨scheme, rest', a, hsplit, hs, ha, hu⟩ := read_web h hweb
  obtain ⟨rest, hcs, rfl, hmore⟩ := splitScheme_append hsplit
  have hne : withoutSlashes rest ≠ [] := by
    intro hempty
    have hnone : withoutSlashes (rest ++ List.replicate k '/') = [] := by
      rw [withoutSlashes, List.dropWhile_append, ← withoutSlashes, hempty]
      exact List.dropWhile_eq_nil_iff.mpr fun c hc => by rw [List.eq_of_mem_replicate hc]; rfl
    rw [hnone] at ha
    exact ha.nonempty rfl
  have happend : withoutSlashes (rest ++ List.replicate k '/') =
      withoutSlashes rest ++ List.replicate k '/' :=
    (takeWhile_dropWhile_append (Or.inl hne)).2
  have hpath : pathPart cs = (withoutSlashes rest).dropWhile inAuthority := by
    simp only [pathPart, hcs]
  have hend : (withoutSlashes rest).dropWhile inAuthority ≠ [] ∨
      ∀ c ∈ (List.replicate k '/').head?, inAuthority c = false := by
    refine Or.inr fun c hc => ?_
    rw [List.eq_of_mem_replicate (List.mem_of_mem_head? hc)]
    decide
  obtain ⟨htake, hdrop⟩ := takeWhile_dropWhile_append hend
  rw [happend] at ha hu
  rw [htake] at ha
  rw [hdrop, ← hpath] at hu
  exact ⟨scheme, rest, hs, hne, hpath, hmore, a, ha, hu⟩

/-- A URL of the web, but for slashes at its end, goes on with whatever follows:
anything if the authority has ended, and a path in any case. -/
theorem read_append (h : read (cs ++ List.replicate k '/') = .ok u) (hweb : u.isWeb = true)
    {more : List Char} (hmore : pathPart cs ≠ [] ∨ ∀ c ∈ more.head?, c = '/') :
    read (cs ++ more) = .ok (u.goesOn (pathPart cs ++ more)) := by
  obtain ⟨scheme, rest, hs, hne, hpath, hsplit, a, ha, rfl⟩ := exists_authority h hweb
  have happend : withoutSlashes (rest ++ more) = withoutSlashes rest ++ more :=
    (takeWhile_dropWhile_append (Or.inl hne)).2
  have hend : (withoutSlashes rest).dropWhile inAuthority ≠ [] ∨
      ∀ c ∈ more.head?, inAuthority c = false := by
    rw [← hpath]
    refine hmore.imp id fun hslash c hc => ?_
    rw [hslash c hc]
    decide
  obtain ⟨htake, hdrop⟩ := takeWhile_dropWhile_append hend
  rw [read_of (a := a) (hsplit more) hs (by rwa [happend, htake]), happend, hdrop, ← hpath]
  rfl

/-- A blank behind the authority makes it none. -/
theorem read_edge (h : read (cs ++ List.replicate k '/') = .ok u) (hweb : u.isWeb = true)
    (hpath : pathPart cs = []) {blanks more : List Char} (hblanks : ∀ c ∈ blanks, IsEdge c)
    (hne : blanks ≠ []) (u' : Url) : read (cs ++ blanks ++ '/' :: more) ≠ .ok u' := by
  obtain ⟨scheme, rest, hs, hrest, hpath', hsplit, -⟩ := exists_authority h hweb
  intro hread
  rw [List.append_assoc] at hread
  have hinside : ∀ c ∈ withoutSlashes rest ++ blanks, inAuthority c = true := by
    intro c hc
    rcases List.mem_append.mp hc with hc | hc
    · rw [hpath] at hpath'
      exact List.dropWhile_eq_nil_iff.mp hpath'.symm c hc
    · have hedge := hblanks c hc
      simp [inAuthority, endsAuthority, isSlash, hedge.ne (show 0x20 < '/'.toNat by decide),
        hedge.ne (show 0x20 < '\\'.toNat by decide), hedge.ne (show 0x20 < '?'.toNat by decide),
        hedge.ne (show 0x20 < '#'.toNat by decide)]
  have hauthority : (withoutSlashes (rest ++ (blanks ++ '/' :: more))).takeWhile inAuthority =
      withoutSlashes rest ++ blanks := by
    have happend : withoutSlashes (rest ++ (blanks ++ '/' :: more)) =
        withoutSlashes rest ++ (blanks ++ '/' :: more) :=
      (takeWhile_dropWhile_append (Or.inl hrest)).2
    rw [happend, ← List.append_assoc,
      (takeWhile_dropWhile_append (Or.inr (by simp [inAuthority, endsAuthority, isSlash]))).1]
    exact List.takeWhile_eq_self_iff.mpr hinside
  simp only [read, hsplit, readAfterScheme, hs] at hread
  obtain ⟨a, ha, -⟩ := (readHierarchy_iff hs).mp hread
  rw [← withoutSlashes, hauthority] at ha
  obtain ⟨before, c, rfl⟩ : ∃ before c, blanks = before ++ [c] :=
    ⟨_, _, (List.dropLast_concat_getLast hne).symm⟩
  rw [← List.append_assoc] at ha
  refine not_isAuthority_of_edge (hblanks c (by simp)) (fun hmem => ?_) ha
  exact absurd (hinside '\\' (by rw [← List.append_assoc]; exact List.mem_append_left _ hmem))
    (by decide)

end

end CoachClient.Url
