import Mathlib.Tactic

/-!
# Computations that can fail

When a computation of several parts has a result, and when it fails.

* `bind_eq_ok_iff`, `bind_eq_error_iff`: a computation in two parts;
* `exists_of_mapM_eq_error`, `exists_mapM_eq_ok_iff`: a computation for each member of a list;
* `foldlM_invariant`, `mapM_forall`: what holds of the result of many steps because each keeps it;
* `Gives`: a computation that has a result, and a result with a certain property;
* `Gives.bind`, `Gives.foldlM`, `Gives.mapM`: a computation made of such computations is one itself.
-/

namespace PhaseSplit

/-- A computation in two parts has a result when both parts have one. -/
theorem bind_eq_ok_iff {ε α β : Type} {x : Except ε α} {f : α → Except ε β} {b : β} :
    x >>= f = .ok b ↔ ∃ a, x = .ok a ∧ f a = .ok b := by
  cases x with
  | error e =>
    constructor
    · intro h
      cases h
    · rintro ⟨a, h, -⟩
      cases h
  | ok a =>
    refine ⟨fun h => ⟨a, rfl, h⟩, ?_⟩
    rintro ⟨_, h, h'⟩
    cases h
    exact h'

/-- A computation in two parts fails when its first part fails, or else its second. -/
theorem bind_eq_error_iff {ε α β : Type} {x : Except ε α} {f : α → Except ε β} {e : ε} :
    x >>= f = .error e ↔ x = .error e ∨ ∃ a, x = .ok a ∧ f a = .error e := by
  cases x with
  | error e' =>
    refine ⟨fun h => .inl (by cases h; rfl), ?_⟩
    rintro (h | ⟨a, h, _⟩)
    · cases h; rfl
    · cases h
  | ok a =>
    refine ⟨fun h => .inr ⟨a, rfl, h⟩, ?_⟩
    rintro (h | ⟨_, h, h'⟩)
    · cases h
    · cases h; exact h'

theorem map_eq_ok_iff {ε α β : Type} {x : Except ε α} {f : α → β} {b : β} :
    f <$> x = .ok b ↔ ∃ a, x = .ok a ∧ f a = b := by
  cases x <;> simp

theorem map_eq_error_iff {ε α β : Type} {x : Except ε α} {f : α → β} {e : ε} :
    f <$> x = .error e ↔ x = .error e := by
  cases x <;> simp

theorem mapError_eq_ok_iff {ε ε' α : Type} {x : Except ε α} {f : ε → ε'} {a : α} :
    x.mapError f = .ok a ↔ x = .ok a := by
  cases x <;> simp [Except.mapError]

theorem mapError_eq_error_iff {ε ε' α : Type} {x : Except ε α} {f : ε → ε'} {e : ε'} :
    x.mapError f = .error e ↔ ∃ e', x = .error e' ∧ f e' = e := by
  cases x <;> simp [Except.mapError]

/-- A computation for each member of a list fails where one for a member fails. -/
theorem exists_of_mapM_eq_error {ε α β : Type} {f : α → Except ε β} {l : List α} {e : ε}
    (h : l.mapM f = .error e) : ∃ a ∈ l, f a = .error e := by
  induction l with
  | nil => cases h
  | cons a l ih =>
    rw [List.mapM_cons, bind_eq_error_iff] at h
    rcases h with h | ⟨b, -, h⟩
    · exact ⟨a, List.mem_cons_self .., h⟩
    · rcases bind_eq_error_iff.1 h with h | ⟨bs, -, h⟩
      · obtain ⟨a', ha', he⟩ := ih h
        exact ⟨a', List.mem_cons_of_mem _ ha', he⟩
      · cases h

/-- A computation for each member of a list has a result where each member has one. -/
theorem exists_mapM_eq_ok_iff {ε α β : Type} {f : α → Except ε β} {l : List α} :
    (∃ bs, l.mapM f = .ok bs) ↔ ∀ a ∈ l, ∃ b, f a = .ok b := by
  induction l with
  | nil =>
    refine ⟨fun _ a ha => ?_, fun _ => ⟨[], rfl⟩⟩
    cases ha
  | cons a l ih =>
    rw [List.forall_mem_cons, ← ih]
    constructor
    · rintro ⟨bs, h⟩
      rw [List.mapM_cons, bind_eq_ok_iff] at h
      obtain ⟨b, hb, h⟩ := h
      obtain ⟨bs', hbs', -⟩ := bind_eq_ok_iff.1 h
      exact ⟨⟨b, hb⟩, bs', hbs'⟩
    · rintro ⟨⟨b, hb⟩, bs, hbs⟩
      refine ⟨b :: bs, ?_⟩
      rw [List.mapM_cons, hb]
      show (l.mapM f >>= fun bs => Except.ok (b :: bs)) = Except.ok (b :: bs)
      rw [hbs]
      rfl

/-- A computation that has a result for each member of a list. -/
theorem mapM_of_forall {ε α β : Type} {f : α → Except ε β} {g : α → β} {l : List α}
    (h : ∀ a ∈ l, f a = .ok (g a)) : l.mapM f = .ok (l.map g) := by
  induction l with
  | nil => rfl
  | cons a l ih =>
    obtain ⟨ha, hl⟩ := List.forall_mem_cons.1 h
    rw [List.mapM_cons, ha, ih hl]
    rfl

/-- A fold that has a result keeps what each of its steps keeps. -/
theorem foldlM_invariant {ε α β : Type} {f : β → α → Except ε β} {P : β → Prop} {l : List α}
    {b b' : β} (hf : ∀ b a b', a ∈ l → P b → f b a = .ok b' → P b') (hb : P b)
    (h : l.foldlM f b = .ok b') : P b' := by
  induction l generalizing b with
  | nil =>
    cases h
    exact hb
  | cons a l ih =>
    rw [List.foldlM_cons, bind_eq_ok_iff] at h
    obtain ⟨c, hc, h⟩ := h
    have hkept : P c := hf b a c (List.mem_cons_self ..) hb hc
    exact ih (fun b a b' ha => hf b a b' (List.mem_cons_of_mem _ ha)) hkept h

/-- Each result in a list of results was made from one of the list before. -/
theorem mapM_forall {ε α β : Type} {f : α → Except ε β} {P : β → Prop} {l : List α} {l' : List β}
    (hf : ∀ a ∈ l, ∀ b, f a = .ok b → P b) (h : l.mapM f = .ok l') : ∀ b ∈ l', P b := by
  induction l generalizing l' with
  | nil =>
    cases h
    simp
  | cons a l ih =>
    simp only [List.mapM_cons, bind_eq_ok_iff] at h
    obtain ⟨b, hb, bs, hbs, h⟩ := h
    cases h
    rw [List.forall_mem_cons]
    refine ⟨hf a (List.mem_cons_self ..) b hb, ?_⟩
    exact ih (fun a ha => hf a (List.mem_cons_of_mem _ ha)) hbs

/-- What a computation for each member keeps of the member is kept of the list. -/
theorem map_of_mapM {ε α β γ : Type} {f : α → Except ε β} {g : α → γ} {k : β → γ}
    {l : List α} {l' : List β} (hf : ∀ a b, f a = .ok b → k b = g a) (h : l.mapM f = .ok l') :
    l'.map k = l.map g := by
  induction l generalizing l' with
  | nil =>
    cases h
    rfl
  | cons a l ih =>
    simp only [List.mapM_cons, bind_eq_ok_iff] at h
    obtain ⟨b, hb, bs, hbs, h⟩ := h
    cases h
    rw [List.map_cons, List.map_cons, hf a b hb, ih hbs]

/-! ## Computations that do not fail -/

/-- The computation has a result, and the result has this property. -/
def Gives {ε α : Type} (x : Except ε α) (P : α → Prop) : Prop := ∃ a, x = .ok a ∧ P a

namespace Gives

variable {ε α β : Type} {x : Except ε α} {P Q : α → Prop} {R : β → Prop}

theorem ok {a : α} (h : P a) : Gives (.ok a : Except ε α) P := ⟨a, rfl, h⟩

theorem exists_ok (h : Gives x P) : ∃ a, x = .ok a := by
  obtain ⟨a, ha, -⟩ := h
  exact ⟨a, ha⟩

theorem imp (h : Gives x P) (himp : ∀ a, P a → Q a) : Gives x Q := by
  obtain ⟨a, ha, hp⟩ := h
  exact ⟨a, ha, himp a hp⟩

theorem bind {f : α → Except ε β} (h : Gives x P) (hf : ∀ a, P a → Gives (f a) R) :
    Gives (x >>= f) R := by
  obtain ⟨a, rfl, hp⟩ := h
  exact hf a hp

theorem map {f : α → β} (h : Gives x P) (hf : ∀ a, P a → R (f a)) : Gives (f <$> x) R := by
  obtain ⟨a, rfl, hp⟩ := h
  exact ⟨f a, rfl, hf a hp⟩

theorem mapError {ε' : Type} {f : ε → ε'} (h : Gives x P) : Gives (x.mapError f) P := by
  obtain ⟨a, rfl, hp⟩ := h
  exact ok hp

/-- A fold gives a result if each step gives one and keeps an invariant. -/
theorem foldlM {f : β → α → Except ε β} {l : List α} {b : β} (hb : R b)
    (hf : ∀ b, R b → ∀ a ∈ l, Gives (f b a) R) : Gives (l.foldlM f b) R := by
  induction l generalizing b with
  | nil => exact ok hb
  | cons a l ih =>
    rw [List.foldlM_cons]
    refine (hf b hb a (List.mem_cons_self ..)).bind ?_
    intro b' hb'
    exact ih hb' fun b'' hb'' a' ha' => hf b'' hb'' a' (List.mem_cons_of_mem _ ha')

theorem mapM {f : α → Except ε β} {l : List α} (hf : ∀ a ∈ l, Gives (f a) R) :
    Gives (l.mapM f) fun bs => ∀ b ∈ bs, R b := by
  induction l with
  | nil => exact ok (by simp)
  | cons a l ih =>
    rw [List.mapM_cons]
    refine (hf a (List.mem_cons_self ..)).bind ?_
    intro b hb
    refine (ih fun a' ha' => hf a' (List.mem_cons_of_mem _ ha')).bind ?_
    intro bs hbs
    refine ok ?_
    rintro b' (_ | ⟨_, hb'⟩)
    · exact hb
    · exact hbs b' hb'

end Gives

end PhaseSplit
