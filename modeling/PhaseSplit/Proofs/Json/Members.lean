import Mathlib.Tactic
import PhaseSplit.Proofs.Except
import PhaseSplit.Json.Reader

/-!
# Members and their names

In an object that has been read, no name occurs twice: a member whose name has been read before
takes the place of the earlier one.  So each member is found under its name.

* `Json.Members.put_of_not_mem`, `Json.Members.nodup_put`: a member added or replaced;
* `Json.Members.get?_of_mem`: a member found;
* `Json.nodup_of_readMembers`: the members of an object up to its closing brace;
* `Json.nodup_of_read`: the object that a whole text writes.
-/

namespace PhaseSplit.Json

variable {cs rest : List Char} {name : Text} {v : Json} {members before : Members} {room fuel : Nat}

/-! ## Adding and finding -/

/-- A member that is added or replaced adds its name unless it is there. -/
theorem Members.map_fst_put (name : Text) (v : Json) (members : Members) :
    (members.put name v).map (·.1) = if name ∈ members.map (·.1) then members.map (·.1)
      else members.map (·.1) ++ [name] := by
  induction members with
  | nil => rfl
  | cons m members ih =>
    obtain ⟨n, u⟩ := m
    rw [Members.put, List.map_cons]
    by_cases hn : n = name
    · rw [if_pos hn, List.map_cons, if_pos (List.mem_cons.2 (.inl hn.symm))]
    · have hmem : name ∈ n :: members.map (·.1) ↔ name ∈ members.map (·.1) := by
        rw [List.mem_cons, or_iff_right (Ne.symm hn)]
      rw [if_neg hn, List.map_cons, ih]
      simp only [hmem]
      split
      · rfl
      · rfl

/-- Names stay different. -/
theorem Members.nodup_put (h : (members.map (·.1)).Nodup) (name : Text) (v : Json) :
    ((members.put name v).map (·.1)).Nodup := by
  rw [Members.map_fst_put]
  split
  · exact h
  · next hnew =>
    rw [← List.concat_eq_append]
    exact h.concat hnew

theorem Members.put_of_not_mem (v : Json) (h : name ∉ before.map (·.1)) :
    before.put name v = before ++ [(name, v)] := by
  induction before with
  | nil => rfl
  | cons m before ih =>
    obtain ⟨hne, hbefore⟩ := not_or.1 (mt List.mem_cons.2 h)
    rw [Members.put, if_neg (Ne.symm hne), ih hbefore, List.cons_append]

theorem Members.get?_cons_self (name : Text) (v : Json) (members : Members) :
    Members.get? name ((name, v) :: members) = some v := by
  rw [Members.get?, List.find?_cons_of_pos (by simp)]
  rfl

theorem Members.get?_cons_of_ne {name' : Text} (h : name' ≠ name) (v : Json) (members : Members) :
    Members.get? name ((name', v) :: members) = members.get? name := by
  rw [Members.get?, List.find?_cons_of_neg (by simpa using h), Members.get?]

/-- Each member is found where names differ. -/
theorem Members.get?_of_mem (hnodup : (members.map (·.1)).Nodup) (h : (name, v) ∈ members) :
    members.get? name = some v := by
  induction members with
  | nil => cases h
  | cons m members ih =>
    obtain ⟨n, u⟩ := m
    rw [List.map_cons, List.nodup_cons] at hnodup
    rcases List.mem_cons.1 h with heq | h
    · cases heq
      exact Members.get?_cons_self _ _ _
    · have hne : n ≠ name := by
        rintro rfl
        exact hnodup.1 (List.mem_map.2 ⟨_, h, rfl⟩)
      rw [Members.get?_cons_of_ne hne]
      exact ih hnodup.2 h

/-! ## Objects -/

/-- **The names of the members that are read differ**, if those before do. -/
theorem nodup_of_readMembers (hbefore : (before.map (·.1)).Nodup)
    (h : readMembers room fuel before cs = .ok (members, rest)) : (members.map (·.1)).Nodup := by
  induction fuel generalizing before cs with
  | zero => cases h
  | succ fuel ih =>
    unfold readMembers at h
    split at h
    · obtain ⟨⟨name, after⟩, -, h⟩ := bind_eq_ok_iff.1 h
      dsimp only at h
      split at h
      · obtain ⟨⟨v, after⟩, -, h⟩ := bind_eq_ok_iff.1 h
        have hput := Members.nodup_put hbefore name v
        dsimp only at h
        split at h
        · cases h
          exact hput
        · exact ih hput h
        · cases h
      · cases h
    · cases h

/-- A word is no object. -/
theorem readWord?_ne_object : readWord? cs ≠ some (.object members, rest) := by
  intro h
  obtain ⟨⟨word, value⟩, hword, h⟩ := List.exists_of_findSome?_eq_some h
  have hvalue : value = .object members := by
    dsimp only at h
    split at h
    · cases h
      rfl
    · cases h
  rw [hvalue] at hword
  simp [words] at hword

/-- A number is no object. -/
theorem readNumber?_ne_object : readNumber? cs ≠ some (.ok (.object members, rest)) := by
  intro h
  unfold readNumber? at h
  obtain ⟨⟨whole, after⟩, -, h⟩ := Option.bind_eq_some_iff.1 h
  dsimp only at h
  split at h
  · split at h
    · cases h
    · cases h
  · cases h

theorem nodup_of_readValue (h : readValue room fuel cs = .ok (.object members, rest)) :
    (members.map (·.1)).Nodup := by
  cases fuel with
  | zero => cases h
  | succ fuel =>
    unfold readValue at h
    split at h
    · obtain ⟨s, -, h⟩ := bind_eq_ok_iff.1 h
      cases h
    · cases room with
      | zero => cases h
      | succ room =>
        dsimp only at h
        split at h
        · cases h
          exact List.nodup_nil
        · obtain ⟨⟨members', after⟩, hmembers, h⟩ := bind_eq_ok_iff.1 h
          cases h
          have hnone : (([] : Members).map (·.1)).Nodup := List.nodup_nil
          exact nodup_of_readMembers hnone hmembers
    · cases room with
      | zero => cases h
      | succ room =>
        dsimp only at h
        split at h
        · cases h
        · obtain ⟨items, -, h⟩ := bind_eq_ok_iff.1 h
          cases h
    · split at h
      · next hword =>
        cases h
        exact absurd hword readWord?_ne_object
      · cases hnumber : readNumber? cs with
        | none =>
          rw [hnumber] at h
          cases h
        | some number =>
          rw [hnumber, Option.getD_some] at h
          rw [h] at hnumber
          exact absurd hnumber readNumber?_ne_object

/-- **No name occurs twice** in an object that has been read. -/
theorem nodup_of_read (h : read cs room = .ok (.object members)) :
    (members.map (·.1)).Nodup := by
  have hwhole : readWhole room cs = .ok (.object members) := by
    unfold read at h
    split at h
    · next value hvalue =>
      cases h
      exact hvalue
    · cases h
    · cases h
  unfold readWhole at hwhole
  split at hwhole
  · cases hwhole
  · obtain ⟨⟨value, after⟩, hvalue, h⟩ := bind_eq_ok_iff.1 hwhole
    dsimp only at h
    split at h
    · cases h
      exact nodup_of_readValue hvalue
    · cases h

end PhaseSplit.Json
