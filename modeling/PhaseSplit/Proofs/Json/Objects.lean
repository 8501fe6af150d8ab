import Mathlib.Tactic
import PhaseSplit.Proofs.Json.Members
import PhaseSplit.Proofs.Json.Numbers

/-!
# Objects of numbers are read back

An object whose members have plain names and numbers is written with an indent and read back as it
was.  All of its characters are single bytes.

* `foldl_put`: entries of new names are put after the others;
* `Json.readMembers_step`: one member is read, whatever comes after it;
* `Json.readMembers_memberChars`: all members are read;
* `Json.read_write`: the object is read back from its characters;
* `Json.isOneByte_of_mem_write`: each of these is one byte.
-/

namespace PhaseSplit

/-! ## New names -/

section

variable {α : Type} {entries more : List (Text × α)} {entry : Text × α}

/-- Where names differ, none is among those before it. -/
theorem not_mem_of_nodup_append (h : ((entries ++ entry :: more).map (·.1)).Nodup) :
    entry.1 ∉ entries.map (·.1) := by
  rw [List.map_append, List.map_cons, List.nodup_middle, List.nodup_cons] at h
  exact fun hmem => h.1 (List.mem_append_left _ hmem)

/-- Entries of new names are put after the others, in their order. -/
theorem foldl_put {put : List (Text × α) → Text → α → List (Text × α)}
    (hput : ∀ entries name a, name ∉ entries.map (·.1) →
      put entries name a = entries ++ [(name, a)])
    (h : ((entries ++ more).map (·.1)).Nodup) :
    more.foldl (fun entries (name, a) => put entries name a) entries = entries ++ more := by
  induction more generalizing entries with
  | nil => rw [List.append_nil, List.foldl_nil]
  | cons entry more ih =>
    have hnew := hput entries entry.1 entry.2 (not_mem_of_nodup_append h)
    have happend : put entries entry.1 entry.2 ++ more = entries ++ entry :: more := by
      rw [hnew, List.append_assoc, List.singleton_append]
    rw [List.foldl_cons, ih (by rwa [happend]), happend]

end

namespace Json

variable {cs rest tail : List Char} {c : Char} {name : Text} {v : Json} {members before : Members}
  {indent : Option Nat} {depth width room fuel : Nat}

/-! ## Strings without escapes -/

/-- A character that is written as it is: neither a control character nor beyond the first 127. -/
def IsVisible (c : Char) : Prop := 32 ≤ c.toNat ∧ c.toNat < 127

instance : DecidablePred IsVisible := fun c => inferInstanceAs (Decidable (32 ≤ c.toNat ∧ _))

/-- A name that is written without escapes. -/
def IsPlainName (t : Text) : Prop :=
  ∃ cs, t = Text.ofChars cs ∧ ∀ c ∈ cs, IsVisible c ∧ c ≠ '"' ∧ c ≠ '\\'

theorem glyphChars_of_isVisible (h : IsVisible c) (hquote : c ≠ '"') (hbackslash : c ≠ '\\') :
    glyphChars (.char c) = [c] := by
  obtain ⟨hlow, hhigh⟩ := h
  unfold glyphChars
  split
  · next heq => cases heq; exact absurd rfl hquote
  · next heq => cases heq; exact absurd rfl hbackslash
  · next heq => cases heq; exact absurd hlow (by decide)
  · next heq => cases heq; exact absurd hlow (by decide)
  · next heq => cases heq; exact absurd hlow (by decide)
  · next heq => cases heq; exact absurd hlow (by decide)
  · next heq => cases heq; exact absurd hlow (by decide)
  · exact if_pos (by simp [hlow, hhigh])

theorem stringChars_ofChars (h : ∀ c ∈ cs, IsVisible c ∧ c ≠ '"' ∧ c ≠ '\\') :
    stringChars (Text.ofChars cs) = '"' :: cs ++ ['"'] := by
  have hflat : (Text.ofChars cs).flatMap glyphChars = cs := by
    induction cs with
    | nil => rfl
    | cons c cs ih =>
      obtain ⟨hc, hcs⟩ := List.forall_mem_cons.1 h
      have hhead := glyphChars_of_isVisible hc.1 hc.2.1 hc.2.2
      have htail := ih hcs
      unfold Text.ofChars at htail ⊢
      rw [List.map_cons, List.flatMap_cons, hhead, htail, List.singleton_append]
  rw [stringChars, hflat]

theorem readString_append (opening : List Char)
    (h : ∀ c ∈ cs, IsVisible c ∧ c ≠ '"' ∧ c ≠ '\\') :
    readString opening 0 (cs ++ '"' :: rest) = .ok (Text.ofChars cs, rest) := by
  induction cs with
  | nil => rfl
  | cons c cs ih =>
    obtain ⟨⟨hvisible, hquote, hbackslash⟩, hcs⟩ := List.forall_mem_cons.1 h
    rw [List.cons_append, readString, if_neg hquote, if_neg hbackslash,
      if_neg (Nat.not_lt.2 hvisible.1), ih hcs]
    rfl

/-! ## Members -/

/-- Members that are read back: their names are plain and different, their values plain numbers. -/
structure Members.IsPlain (members : Members) : Prop where
  name : ∀ m ∈ members, IsPlainName m.1
  value : ∀ m ∈ members, m.2.IsPlain
  nodup : (members.map (·.1)).Nodup

theorem skipGap_cons (h : isGap c = false) : skipGap (c :: cs) = c :: cs := by
  rw [skipGap, List.dropWhile_cons, if_neg (by rw [h]; exact Bool.false_ne_true)]

theorem skipGap_lineStart (width depth : Nat) (h : isGap c = false) :
    skipGap (lineStart (some width) depth ++ c :: cs) = c :: cs := by
  unfold skipGap lineStart
  rw [List.dropWhile_append_of_pos]
  · exact skipGap_cons h
  · intro c' hc'
    rcases List.mem_cons.1 hc' with rfl | hc'
    · decide
    · rw [List.eq_of_mem_replicate hc']
      decide

/-- After a name and a colon there is a value, and after it a comma or a brace. -/
theorem readMembers_of_readString {body after : List Char}
    (hname : readString ('"' :: body) 0 body = .ok (name, ':' :: after))
    (hvalue : readValue room fuel (skipGap after) = .ok (v, tail)) :
    readMembers room (fuel + 1) before ('"' :: body)
      = match skipGap tail with
        | '\x7d' :: rest => .ok (before.put name v, rest)
        | ',' :: rest => readMembers room fuel (before.put name v) (skipGap rest)
        | rest => stop .expectingComma rest := by
  -- the colon stands right after the name
  have hcolon : skipGap (':' :: after) = ':' :: after := skipGap_cons (by decide)
  rw [readMembers, hname]
  dsimp only [bind, Except.bind]
  rw [hcolon]
  split
  · next rest heq =>
    obtain ⟨-, rfl⟩ := List.cons.inj heq
    exact hvalue ▸ rfl
  · next hne => exact absurd rfl (hne _)

/-- **One member is read**, whatever comes after it. -/
theorem readMembers_step (hname : IsPlainName name) (hv : v.IsPlain) (htail : EndsNumber tail) :
    readMembers room (fuel + 2) before (stringChars name ++ ':' :: ' ' :: chars indent depth v ++ tail)
      = match skipGap tail with
        | '\x7d' :: rest => .ok (before.put name v, rest)
        | ',' :: rest => readMembers room (fuel + 1) (before.put name v) (skipGap rest)
        | rest => stop .expectingComma rest := by
  obtain ⟨cs, rfl, hcs⟩ := hname
  obtain ⟨after, hafter⟩ : ∃ after, ' ' :: (chars indent depth v ++ tail) = after := ⟨_, rfl⟩
  have hvalue : readValue room (fuel + 1) (skipGap after) = .ok (v, tail) := by
    have hgap : skipGap after = chars indent depth v ++ tail := by
      rw [← hafter]
      exact skipGap_chars hv htail indent depth
    rw [hgap]
    exact readValue_of_isPlain hv htail indent depth room fuel
  have hshape : stringChars (Text.ofChars cs) ++ ':' :: ' ' :: chars indent depth v ++ tail
      = '"' :: (cs ++ '"' :: ':' :: after) := by
    rw [stringChars_ofChars hcs, ← hafter]
    simp only [List.append_assoc, List.cons_append, List.nil_append]
  rw [hshape]
  exact readMembers_of_readString (readString_append _ hcs) hvalue

theorem endsNumber_lineStart (width depth : Nat) (rest : List Char) :
    EndsNumber (lineStart (some width) depth ++ rest) := by
  intro c hc
  cases hc
  decide

theorem endsNumber_separator (width depth : Nat) (rest : List Char) :
    EndsNumber (separator (some width) depth ++ rest) := by
  intro c hc
  cases hc
  decide

theorem skipGap_separator (width depth : Nat) (cs : List Char) :
    skipGap (separator (some width) depth ++ cs) = ',' :: (lineStart (some width) depth ++ cs) :=
  skipGap_cons (by decide)

theorem memberChars_cons_cons (indent : Option Nat) (depth : Nat) (m : Text × Json) :
    memberChars indent depth ((name, v) :: m :: members)
      = stringChars name ++ ':' :: ' ' :: chars indent depth v
        ++ separator indent depth ++ memberChars indent depth (m :: members) := by
  rw [memberChars]
  exact List.cons_ne_nil m members

theorem memberChars_eq_cons (hname : IsPlainName name) (indent : Option Nat) (depth : Nat)
    (members : Members) :
    ∃ cs, memberChars indent depth ((name, v) :: members) = '"' :: cs := by
  obtain ⟨cs, rfl, hcs⟩ := hname
  cases members with
  | nil =>
    rw [memberChars, stringChars_ofChars hcs]
    exact ⟨_, rfl⟩
  | cons m members =>
    rw [memberChars_cons_cons, stringChars_ofChars hcs]
    exact ⟨_, rfl⟩

/-- **All members are read**, and added to those before. -/
theorem readMembers_memberChars (h : (before ++ members).IsPlain) (hne : members ≠ [])
    (hfuel : members.length < fuel) (width depth depth' : Nat) (rest : List Char) :
    readMembers room fuel before (memberChars (some width) depth members
        ++ (lineStart (some width) depth' ++ '\x7d' :: rest))
      = .ok (before ++ members, rest) := by
  induction members generalizing before fuel with
  | nil => exact absurd rfl hne
  | cons m members ih =>
    obtain ⟨name, v⟩ := m
    obtain ⟨fuel, rfl⟩ : ∃ k, fuel = k + 2 := by
      rw [List.length_cons] at hfuel
      exact ⟨fuel - 2, by omega⟩
    have hmem : (name, v) ∈ before ++ (name, v) :: members := by simp
    have hname := h.name _ hmem
    have hv := h.value _ hmem
    have hput := Members.put_of_not_mem v (not_mem_of_nodup_append h.nodup)
    cases members with
    | nil =>
      rw [memberChars, readMembers_step hname hv (endsNumber_lineStart _ _ _),
        skipGap_lineStart _ _ (by decide)]
      show Except.ok (before.put name v, rest) = _
      rw [hput]
    | cons m' members =>
      obtain ⟨more, hmore⟩ : ∃ more, more = memberChars (some width) depth (m' :: members)
        ++ (lineStart (some width) depth' ++ '\x7d' :: rest) := ⟨_, rfl⟩
      have hrest : readMembers room (fuel + 1) (before ++ [(name, v)]) more
          = .ok (before ++ [(name, v)] ++ m' :: members, rest) := by
        have hkept : (before ++ [(name, v)] ++ m' :: members).IsPlain := by
          rwa [List.append_assoc]
        have hfuel' : (m' :: members).length < fuel + 1 := by
          rw [List.length_cons] at hfuel
          omega
        rw [hmore]
        exact ih hkept (List.cons_ne_nil _ _) hfuel'
      -- the next member starts with the quote of its name
      have hskip : skipGap (lineStart (some width) depth ++ more) = more := by
        obtain ⟨cs, hcs⟩ :=
          memberChars_eq_cons (v := m'.2) (h.name m' (by simp)) (some width) depth members
        rw [hcs] at hmore
        rw [hmore]
        exact skipGap_lineStart width depth (by decide)
      rw [memberChars_cons_cons, List.append_assoc, List.append_assoc, ← hmore,
        readMembers_step hname hv (endsNumber_separator _ _ _), skipGap_separator]
      show readMembers room (fuel + 1) (before.put name v)
        (skipGap (lineStart (some width) depth ++ more)) = _
      rw [hskip, hput, hrest, List.append_assoc, List.singleton_append]

/-! ## Objects -/

theorem length_le_memberChars (indent : Option Nat) (depth : Nat) (members : Members) :
    members.length ≤ (memberChars indent depth members).length := by
  induction members with
  | nil => exact Nat.zero_le _
  | cons m members ih =>
    obtain ⟨name, v⟩ := m
    cases members with
    | nil =>
      rw [memberChars]
      simp only [List.length_append, List.length_cons, List.length_nil]
      omega
    | cons m' members =>
      rw [memberChars_cons_cons]
      simp only [List.length_append, List.length_cons] at ih ⊢
      omega

theorem write_object (hne : members ≠ []) (width : Nat) :
    write (some width) (.object members) ++ ['\n']
      = '\x7b' :: (lineStart (some width) 1 ++ (memberChars (some width) 1 members
        ++ (lineStart (some width) 0 ++ ['\x7d', '\n']))) := by
  rw [write, chars]
  · simp only [List.append_assoc, List.cons_append, List.nil_append]
  · exact hne

/-- **An object of numbers is read back** from the characters of its file. -/
theorem read_write (h : members.IsPlain) (hne : members ≠ []) (width room : Nat) :
    read (write (some width) (.object members) ++ ['\n']) room = .ok (.object members) := by
  obtain ⟨body, hbody⟩ : ∃ body, body = memberChars (some width) 1 members
    ++ (lineStart (some width) 0 ++ ['\x7d', '\n']) := ⟨_, rfl⟩
  obtain ⟨content, hcontent⟩ : ∃ content, content = lineStart (some width) 1 ++ body := ⟨_, rfl⟩
  have hshape : write (some width) (.object members) ++ ['\n'] = '\x7b' :: content := by
    rw [write_object hne, hcontent, hbody]
  obtain ⟨cs, hcs⟩ : ∃ cs, body = '"' :: cs := by
    obtain ⟨m, members', rfl⟩ := List.exists_cons_of_ne_nil hne
    obtain ⟨cs, hcs⟩ :=
      memberChars_eq_cons (v := m.2) (h.name m List.mem_cons_self) (some width) 1 members'
    exact ⟨_, hbody.trans (congrArg (· ++ _) hcs)⟩
  have hskip : skipGap content = '"' :: cs := by
    rw [hcontent, hcs]
    exact skipGap_lineStart width 1 (by decide)
  have hfuel : members.length < 2 * ('\x7b' :: content).length := by
    have hlength := length_le_memberChars (some width) 1 members
    rw [hcontent, hbody, List.length_cons, List.length_append, List.length_append]
    omega
  have hmembers : ∀ fuel, members.length < fuel →
      readMembers room fuel [] ('"' :: cs) = .ok (members, ['\n']) := by
    intro fuel hfuel
    rw [← hcs, hbody]
    exact @readMembers_memberChars members [] room fuel h hne hfuel width 1 0 ['\n']
  have hvalue : readValue (room + 1) (2 * ('\x7b' :: content).length + 1) ('\x7b' :: content)
      = .ok (.object members, ['\n']) := by
    rw [readValue, hskip]
    show Except.bind (readMembers room _ [] ('"' :: cs)) _ = _
    rw [hmembers _ hfuel]
    rfl
  have hwhole : readWhole room ('\x7b' :: content) = .ok (.object members) := by
    show Except.bind (readValue (room + 1) (2 * ('\x7b' :: content).length + 1)
      (skipGap ('\x7b' :: content))) _ = _
    rw [skipGap_cons (by decide), hvalue]
    rfl
  rw [hshape, read, hwhole]

/-! ## Characters of an object -/

/-- Characters that are written as they are. -/
def AreVisible (cs : List Char) : Prop := ∀ c ∈ cs, IsVisible c

theorem AreVisible.append {ds : List Char} (hcs : AreVisible cs) (hds : AreVisible ds) :
    AreVisible (cs ++ ds) := by
  intro c hc
  rcases List.mem_append.1 hc with hc | hc
  · exact hcs c hc
  · exact hds c hc

theorem areVisible_cons (hc : IsVisible c) (hcs : AreVisible cs) : AreVisible (c :: cs) :=
  List.forall_mem_cons.2 ⟨hc, hcs⟩

theorem AreDigits.areVisible (h : AreDigits cs) : AreVisible cs := by
  intro c hc
  obtain ⟨hlow, hhigh⟩ := Char.isDigit_iff_toNat.1 (h c hc)
  have hzero : '0'.toNat = 48 := rfl
  have hnine : '9'.toNat = 57 := rfl
  exact ⟨by omega, by omega⟩

theorem areVisible_signChars (s : Bool) : AreVisible (signChars s) := by
  cases s with
  | true => exact areVisible_cons (by decide) (by simp [AreVisible])
  | false => simp [AreVisible, signChars]

theorem areVisible_exponentText (e : Int) : AreVisible (NumberLayout.exponentText e) := by
  have htext : NumberLayout.exponentText e = (if e < 0 then '-' else '+') :: exponentDigits e := rfl
  rw [htext]
  refine areVisible_cons ?_ (areDigits_exponentDigits e).areVisible
  split
  · decide
  · decide

theorem areVisible_positional {digits : List Char} (h : AreDigits digits) (e : Int) :
    AreVisible (NumberLayout.measure.positional digits e) := by
  unfold NumberLayout.positional
  dsimp only
  split
  · refine ((h.append (areDigits_zeros _)).areVisible).append ?_
    exact areVisible_cons (by decide) (areDigits_zeros 1).areVisible
  · have hpadded := (areDigits_zeros ((-e).toNat + 1 - digits.length)).append h
    refine AreVisible.append ?_ (areVisible_cons (by decide) ?_)
    · exact fun c hc => hpadded.areVisible c (List.mem_of_mem_take hc)
    · exact fun c hc => hpadded.areVisible c (List.mem_of_mem_drop hc)

theorem areVisible_decimalText (d : Decimal) : AreVisible (NumberLayout.measure.decimalText d) := by
  have hdigits := areDigits_toDigits d.coefficient
  unfold NumberLayout.decimalText
  dsimp only
  split
  · exact areVisible_positional hdigits _
  · refine AreVisible.append ?_ (areVisible_cons (by decide) (areVisible_exponentText _))
    have hvisible := hdigits.areVisible
    split
    · next first second rest heq =>
      rw [heq] at hvisible
      obtain ⟨hfirst, hrest⟩ := List.forall_mem_cons.1 hvisible
      exact areVisible_cons hfirst (areVisible_cons (by decide) hrest)
    · exact hvisible

theorem areVisible_chars (hv : v.IsPlain) (indent : Option Nat) (depth : Nat) :
    AreVisible (chars indent depth v) := by
  unfold chars
  cases hv with
  | @int n hn =>
    dsimp only
    rw [shown_ofInt]
    exact (areVisible_signChars _).append (areDigits_toDigits _).areVisible
  | @float x hx =>
    cases hx with
    | infinite s =>
      cases s with
      | true =>
        show ∀ c ∈ "-Infinity".toList, IsVisible c
        simp [IsVisible]
      | false =>
        show ∀ c ∈ "Infinity".toList, IsVisible c
        simp [IsVisible]
    | finite s u hkept hlimit =>
      unfold floatChars
      dsimp only
      rw [Binary64.text, shown_ofChars]
      exact (areVisible_signChars s).append (areVisible_decimalText _)

/-- A character of one byte that is no carriage return. -/
def IsOneByte (c : Char) : Prop := c.toNat < 128 ∧ c ≠ '\r'

theorem IsVisible.isOneByte (h : IsVisible c) : IsOneByte c := by
  refine ⟨by have := h.2; omega, ?_⟩
  rintro rfl
  exact absurd h.1 (by decide)

theorem isOneByte_of_mem_lineStart (hc : c ∈ lineStart (some width) depth) : IsOneByte c := by
  rcases List.mem_cons.1 hc with rfl | hc
  · exact ⟨by decide, by decide⟩
  · rw [List.eq_of_mem_replicate hc]
    exact ⟨by decide, by decide⟩

theorem isOneByte_of_mem_memberChars (h : ∀ m ∈ members, IsPlainName m.1 ∧ m.2.IsPlain)
    (hc : c ∈ memberChars (some width) depth members) : IsOneByte c := by
  have hmember : ∀ name v, IsPlainName name → v.IsPlain →
      ∀ c ∈ stringChars name ++ ':' :: ' ' :: chars (some width) depth v, IsOneByte c := by
    rintro _ v ⟨cs, rfl, hcs⟩ hv c hc
    have hvalue : AreVisible (':' :: ' ' :: chars (some width) depth v) :=
      areVisible_cons (by decide) (areVisible_cons (by decide) (areVisible_chars hv _ _))
    refine IsVisible.isOneByte (AreVisible.append ?_ hvalue c hc)
    rw [stringChars_ofChars hcs]
    exact (areVisible_cons (by decide) fun c hc => (hcs c hc).1).append
      (areVisible_cons (by decide) (by simp [AreVisible]))
  induction members with
  | nil => cases hc
  | cons m members ih =>
    obtain ⟨name, v⟩ := m
    obtain ⟨⟨hname, hv⟩, hmembers⟩ := List.forall_mem_cons.1 h
    cases members with
    | nil =>
      rw [memberChars] at hc
      exact hmember name v hname hv c hc
    | cons m' members =>
      rw [memberChars_cons_cons, List.mem_append, List.mem_append] at hc
      rcases hc with (hc | hc) | hc
      · exact hmember name v hname hv c hc
      · rcases List.mem_cons.1 hc with rfl | hc
        · exact ⟨by decide, by decide⟩
        · exact isOneByte_of_mem_lineStart hc
      · exact ih hmembers hc

theorem isOneByte_of_mem_write (h : members.IsPlain) (hne : members ≠ [])
    (hc : c ∈ write (some width) (.object members) ++ ['\n']) : IsOneByte c := by
  rw [write_object hne, List.mem_cons, List.mem_append, List.mem_append, List.mem_append] at hc
  rcases hc with rfl | hc | hc | hc | hc
  · exact ⟨by decide, by decide⟩
  · exact isOneByte_of_mem_lineStart hc
  · exact isOneByte_of_mem_memberChars (fun m hm => ⟨h.name m hm, h.value m hm⟩) hc
  · exact isOneByte_of_mem_lineStart hc
  · revert c
    show ∀ c ∈ ['\x7d', '\n'], c.toNat < 128 ∧ c ≠ '\r'
    simp

end Json

end PhaseSplit
