import Mathlib.Tactic
import PhaseSplit.Proofs.Number.Equality
import PhaseSplit.Proofs.Stats.Summary

/-!
# Percentiles are exact

The percentile of a list is the least of its values that is not below enough of them.  It is found
by its rank in the sorted list, and the rank is a ceiling of exact fractions.

* `getElem_iff_lt_countP`: the members of a sorted list up to a place, counted;
* `nearestRank_le_iff`, `exists_place`: the rank of a percentile, and the place in the list;
* `IsPercentile`, `IsPercentile.le`: the percentile of a list by counting, with its order;
* `exists_percentileOf`: the value at the rank is the percentile;
* `PercentileTable.get?_put`, `map_fst_of_percentileValues`: the table of several percentiles, its
  values and its order;
* `percentileOf_spec`: all of it for one percentile.
-/

namespace PhaseSplit

/-! ## Sorted lists -/

/-- Of a sorted list, a condition that passes from a number to all below it holds of the first
members, as many as there are for which it holds. -/
theorem getElem_iff_lt_countP {Q : Int → Prop} [DecidablePred Q]
    (hQ : ∀ a b, a ≤ b → Q b → Q a) {l : List Int} (h : l.Pairwise (· ≤ ·)) {i : Nat}
    (hi : i < l.length) : Q l[i] ↔ i < l.countP (Q ·) := by
  induction l generalizing i with
  | nil => cases hi
  | cons a l ih =>
    obtain ⟨ha, hl⟩ := List.pairwise_cons.1 h
    by_cases hholds : Q a
    · have hcount : (a :: l).countP (Q ·) = l.countP (Q ·) + 1 :=
        List.countP_cons_of_pos (decide_eq_true hholds)
      rw [hcount]
      cases i with
      | zero => simp [hholds]
      | succ i =>
        rw [List.getElem_cons_succ, ih hl (Nat.lt_of_succ_lt_succ hi), Nat.add_lt_add_iff_right]
    · -- if it fails for the first member, it fails for all
      have hfails : ∀ b ∈ a :: l, ¬decide (Q b) = true := by
        simp only [decide_eq_true_eq]
        exact List.forall_mem_cons.2 ⟨hholds, fun b hb hQb => hholds (hQ a b (ha b hb) hQb)⟩
      have hnone : (a :: l).countP (Q ·) = 0 := List.countP_eq_zero.2 hfails
      have hmember := hfails _ (List.getElem_mem hi)
      rw [decide_eq_true_eq] at hmember
      simp [hnone, hmember]

theorem pairwise_mergeSort_le (values : List Int) :
    (values.mergeSort (· ≤ ·)).Pairwise (· ≤ ·) := by
  have htrans : ∀ a b c : Int, decide (a ≤ b) = true → decide (b ≤ c) = true →
      decide (a ≤ c) = true := by
    simp only [decide_eq_true_eq]
    exact fun a b c => le_trans
  have htotal : ∀ a b : Int, (decide (a ≤ b) || decide (b ≤ a)) = true := by
    simp only [Bool.or_eq_true, decide_eq_true_eq]
    exact le_total
  exact (List.pairwise_mergeSort htrans htotal values).imp fun hab => of_decide_eq_true hab

/-! ## Ranks -/

section

variable {p : Quantity} {percent : ℚ} {count : Int}

theorem ceilDiv_le_iff {n m : Int} {d : Nat} (hd : 0 < d) : ceilDiv n d ≤ m ↔ n ≤ m * d := by
  have hd' : (0 : Int) < d := Int.natCast_pos.2 hd
  unfold ceilDiv
  rw [neg_le, Int.le_ediv_iff_mul_le hd', neg_mul, neg_le_neg_iff]

theorem Quantity.den_pos {num : Int} {den : Nat} (h : p.ratio? = some (num, den)) : 0 < den := by
  cases p with
  | whole n =>
    cases h
    exact Nat.one_pos
  | binary x =>
    cases x with
    | finite s u =>
      cases h
      exact Decimal.den_pos _
    | infinite s => cases h
    | nan => cases h

/-- **The rank of a percentile**: the ranks that are large enough are those with at least that part
of the values at or below them. -/
theorem nearestRank_le_iff (hp : p.IsPercentage percent) (hcount : 0 < count) (m : Int) :
    nearestRank p count ≤ m ↔ percent * count ≤ 100 * m := by
  obtain ⟨hvalue, hpos, hle⟩ := hp
  obtain ⟨⟨num, den⟩, hratio, rfl⟩ := Option.map_eq_some_iff.1 hvalue
  have hden := Quantity.den_pos hratio
  have hden' : (0 : ℚ) < den := Nat.cast_pos.2 hden
  have hceil : ∀ m : Int, ceilDiv (num * count) (100 * den) ≤ m
      ↔ (num : ℚ) / den * count ≤ 100 * m := by
    intro m
    rw [ceilDiv_le_iff (by omega), div_mul_eq_mul_div, div_le_iff₀ hden', ← Int.cast_natCast den]
    have hcast : (100 * (m : ℚ) * ((den : Int) : ℚ)) = ((m * (100 * den : Nat) : Int) : ℚ) := by
      push_cast
      ring
    rw [hcast, ← Int.cast_mul, Int.cast_le]
  have hcount' : (0 : ℚ) < count := Int.cast_pos.2 hcount
  -- neither bound of the rank is ever in force
  have hlow : 1 ≤ ceilDiv (num * count) (100 * den) := by
    have hnot : ¬ceilDiv (num * count) (100 * den) ≤ 0 := by
      rw [hceil, Int.cast_zero, mul_zero, not_le]
      positivity
    omega
  have hhigh : ceilDiv (num * count) (100 * den) ≤ count :=
    (hceil count).2 (mul_le_mul_of_nonneg_right hle hcount'.le)
  unfold nearestRank
  rw [hratio]
  show rankOf num den count ≤ m ↔ _
  unfold rankOf
  rw [max_eq_left hlow, min_eq_left hhigh, hceil]

/-- The place of a percentile, counted from zero, is the last one with too few values before it. -/
theorem exists_place (hp : p.IsPercentage percent) {n : Nat} (hn : 0 < n) :
    ∃ i, i < n ∧ (nearestRank p n - 1).toNat = i
      ∧ ∀ k : Nat, i < k ↔ percent * n ≤ 100 * k := by
  have hn' : (0 : ℚ) < n := Nat.cast_pos.2 hn
  have hrank : ∀ k : Int, nearestRank p n ≤ k ↔ percent * n ≤ 100 * k := by
    intro k
    rw [nearestRank_le_iff hp (Int.natCast_pos.2 hn), Int.cast_natCast]
  have hlow : ¬nearestRank p n ≤ 0 := by
    rw [hrank, Int.cast_zero, mul_zero, not_le]
    exact mul_pos hp.pos hn'
  have hhigh : nearestRank p n ≤ n := by
    rw [hrank, Int.cast_natCast]
    exact mul_le_mul_of_nonneg_right hp.le hn'.le
  refine ⟨(nearestRank p n - 1).toNat, by omega, rfl, ?_⟩
  intro k
  rw [← Int.cast_natCast k, ← hrank]
  omega

end

/-! ## Percentiles by counting -/

/-- The least of the values with at least `percent` percent of them at or below it. -/
structure IsPercentile (values : List Int) (percent : ℚ) (v : Int) : Prop where
  mem : v ∈ values
  enough : percent * values.length ≤ 100 * values.countP (· ≤ v)
  least : ∀ w ∈ values, percent * values.length ≤ 100 * values.countP (· ≤ w) → v ≤ w
  few : 100 * values.countP (· < v) < percent * values.length

section

variable {values values' : List Int} {p q : Quantity} {percent greater : ℚ} {v w : Int}

/-- Percentiles grow with the percentage. -/
theorem IsPercentile.le (hv : IsPercentile values percent v) (hw : IsPercentile values greater w)
    (hle : percent ≤ greater) : v ≤ w :=
  hv.least w hw.mem
    ((mul_le_mul_of_nonneg_right hle (Nat.cast_nonneg _)).trans hw.enough)

theorem IsPercentile.unique (hv : IsPercentile values percent v)
    (hw : IsPercentile values percent w) : v = w :=
  le_antisymm (hv.le hw le_rfl) (hw.le hv le_rfl)

/-- The order of the values does not matter. -/
theorem IsPercentile.perm (h : IsPercentile values percent v) (hperm : values.Perm values') :
    IsPercentile values' percent v where
  mem := hperm.mem_iff.1 h.mem
  enough := by
    rw [← hperm.length_eq, ← hperm.countP_eq]
    exact h.enough
  least := by
    intro w hw hmany
    rw [← hperm.length_eq, ← hperm.countP_eq] at hmany
    exact h.least w (hperm.mem_iff.2 hw) hmany
  few := by
    rw [← hperm.length_eq, ← hperm.countP_eq]
    exact h.few

/-! ## The value at the rank -/

/-- The value that is found for a percentile. -/
def percentileOf (values : List Int) (p : Quantity) : Option Int :=
  atPercentile (values.mergeSort (· ≤ ·)).toArray p

/-- **The value at the rank of a percentile is the percentile.** -/
theorem exists_percentileOf (hne : values ≠ []) (hp : p.IsPercentage percent) :
    ∃ v, percentileOf values p = some v ∧ IsPercentile values percent v := by
  have hperm := List.mergeSort_perm values (· ≤ ·)
  have hsorted := pairwise_mergeSort_le values
  unfold percentileOf atPercentile
  rw [List.size_toArray, List.getElem?_toArray]
  generalize values.mergeSort (· ≤ ·) = l at *
  have hlength : 0 < l.length := by
    rw [hperm.length_eq]
    exact List.length_pos_iff.2 hne
  obtain ⟨i, hi, hplace, henough⟩ := exists_place hp hlength
  have hatMost : ∀ w, l[i] ≤ w ↔ i < l.countP (· ≤ w) :=
    fun w => getElem_iff_lt_countP (fun _ _ hab => hab.trans) hsorted hi
  have hbelow : ∀ w, l[i] < w ↔ i < l.countP (· < w) :=
    fun w => getElem_iff_lt_countP (fun _ _ hab => hab.trans_lt) hsorted hi
  rw [hplace, List.getElem?_eq_getElem hi]
  refine ⟨l[i], rfl, IsPercentile.perm ?_ hperm⟩
  exact {
    mem := List.getElem_mem hi
    enough := (henough _).1 ((hatMost _).1 le_rfl)
    least := fun w _ hmany => (hatMost w).2 ((henough _).2 hmany)
    few := not_le.1 fun hmany => lt_irrefl _ ((hbelow _).2 ((henough _).2 hmany)) }

theorem percentileOf_eq_some_iff (hne : values ≠ []) (hp : p.IsPercentage percent) :
    percentileOf values p = some v ↔ IsPercentile values percent v := by
  obtain ⟨w, hw, hpercentile⟩ := exists_percentileOf hne hp
  rw [hw, Option.some.injEq]
  constructor
  · rintro rfl
    exact hpercentile
  · exact hpercentile.unique

end

/-! ## Tables of percentiles -/

/-- The value of a percentile in a table. -/
def PercentileTable.get? {α : Type} (table : PercentileTable α) (p : Quantity) : Option α :=
  (table.find? (·.1.same p)).map (·.2)

section

variable {α ε : Type} {a : α} {p q : Quantity} {u v : Int} {table table' : PercentileTable α}
  {ps : List Quantity} {value : Quantity → Except ε α}

theorem PercentileTable.put_of_not_same (a : α) (h : ∀ q ∈ table.map (·.1), q.same p = false) :
    table.put p a = table ++ [(p, a)] := by
  induction table with
  | nil => rfl
  | cons entry table ih =>
    obtain ⟨hne, htable⟩ := List.forall_mem_cons.1 h
    rw [PercentileTable.put, if_neg (by rw [hne]; exact Bool.false_ne_true), ih htable,
      List.cons_append]

/-- A percentile that is put into a table is in it, the others are as before. -/
theorem PercentileTable.get?_put (hp : p.steps? = some u) (hq : q.steps? = some v) :
    (table.put q a).get? p = if q.same p then some a else table.get? p := by
  induction table with
  | nil => cases hsame : q.same p <;> simp [put, get?, hsame]
  | cons entry table ih =>
    obtain ⟨k, b⟩ := entry
    have hone : k.same q = true → k.same p = q.same p := by
      intro hkq
      rw [Bool.eq_iff_iff, Quantity.same_iff hp, Quantity.same_iff hp,
        (Quantity.same_iff hq).1 hkq, hq]
    have htwo : k.same p = true → q.same p = true → k.same q = true := by
      rw [Quantity.same_iff hp, Quantity.same_iff hp, Quantity.same_iff hq, hq]
      exact fun hk hv => hk.trans hv.symm
    rw [put]
    by_cases hkq : k.same q = true
    · rw [if_pos hkq]
      cases hsame : q.same p <;> simp [get?, hone hkq, hsame]
    · rw [if_neg hkq]
      cases hkp : k.same p with
      | true =>
        have hqp : q.same p = false := Bool.eq_false_iff.2 fun hqp => hkq (htwo hkp hqp)
        simp [get?, hkp, hqp]
      | false => simpa [get?, hkp] using ih

theorem foldlM_put_cons :
    (p :: ps).foldlM (fun table p => table.put p <$> value p) table = .ok table'
      ↔ ∃ a, value p = .ok a
      ∧ ps.foldlM (fun table p => table.put p <$> value p) (table.put p a) = .ok table' := by
  rw [List.foldlM_cons, bind_eq_ok_iff]
  cases value p with
  | error e => simp
  | ok a => simp

/-- Of the percentiles that are put into a table, equal ones with one value, each has its value. -/
theorem get?_of_foldlM_put (hp : p.steps? = some u) (hps : ∀ q ∈ ps, ∃ v, q.steps? = some v)
    (hvalue : ∀ q ∈ ps, q.same p = true → value q = .ok a)
    (hmem : (∃ q ∈ ps, q.same p = true) ∨ table.get? p = some a)
    (h : ps.foldlM (fun table p => table.put p <$> value p) table = .ok table') :
    table'.get? p = some a := by
  induction ps generalizing table with
  | nil =>
    cases h
    simpa using hmem
  | cons q ps ih =>
    obtain ⟨⟨v, hq⟩, hps⟩ := List.forall_mem_cons.1 hps
    obtain ⟨hvalue, hvalues⟩ := List.forall_mem_cons.1 hvalue
    obtain ⟨b, hb, h⟩ := foldlM_put_cons.1 h
    refine ih hps hvalues ?_ h
    rw [PercentileTable.get?_put hp hq]
    by_cases hsame : q.same p = true
    · rw [hvalue hsame] at hb
      cases hb
      exact .inr (if_pos hsame)
    · rw [if_neg hsame]
      exact hmem.imp_left fun ⟨q', hq', hsame'⟩ =>
        ⟨q', (List.mem_cons.1 hq').resolve_left fun heq => hsame (heq ▸ hsame'), hsame'⟩

/-- Percentiles that differ are put into a table in their order. -/
theorem map_fst_of_foldlM_put (hne : (table.map (·.1) ++ ps).Pairwise fun q p => q.same p = false)
    (h : ps.foldlM (fun table p => table.put p <$> value p) table = .ok table') :
    table'.map (·.1) = table.map (·.1) ++ ps := by
  induction ps generalizing table with
  | nil =>
    cases h
    exact (List.append_nil _).symm
  | cons p ps ih =>
    obtain ⟨a, -, h⟩ := foldlM_put_cons.1 h
    obtain ⟨-, -, hlater⟩ := List.pairwise_append.1 hne
    have hkeys : (table.put p a).map (·.1) ++ ps = table.map (·.1) ++ p :: ps := by
      rw [PercentileTable.put_of_not_same a fun q hq => hlater q hq p List.mem_cons_self,
        List.map_append, List.append_assoc]
      rfl
    rw [ih (by rwa [hkeys]) h, hkeys]

/-- The percentiles of a table, where they differ. -/
theorem map_fst_of_percentileValues {values : List Int} {table : PercentileTable Binary64}
    (hne : ps.Pairwise fun q p => q.same p = false) (h : percentileValues values ps = .ok table) :
    table.map (·.1) = ps := by
  unfold percentileValues at h
  split at h
  · have hkeys : (([] : PercentileTable Binary64).map (·.1) ++ ps).Pairwise
        fun q p => q.same p = false := hne
    exact map_fst_of_foldlM_put hkeys h
  · cases h

end

/-! ## The percentile of a list -/

section

variable {values : List Int} {p : Quantity} {percent : ℚ} {ps : List Quantity}

theorem gives_ofInt_of_fits {v : Int} (h : -2 ^ 63 ≤ v ∧ v < 2 ^ 63) :
    Gives (Binary64.ofInt v) (Binary64.Below 65) := by
  have hlt : v.natAbs < 2 ^ 64 := by omega
  exact (Binary64.gives_ofInt hlt (by decide)).imp fun _ hx => hx.1

theorem exists_percentileValues (ps : List Quantity)
    (hfits : ∀ v ∈ values, -2 ^ 63 ≤ v ∧ v < 2 ^ 63) :
    ∃ table, percentileValues values ps = .ok table := by
  have hfits' : ∀ v ∈ values, fitsInt64 v = true := by
    intro v hv
    have hpow : Int.pow 2 63 = 2 ^ 63 := rfl
    unfold fitsInt64
    rw [hpow, Bool.and_eq_true, decide_eq_true_eq, decide_eq_true_eq]
    exact hfits v hv
  obtain ⟨table, htable, -⟩ :=
    gives_percentileValues ps hfits' fun v hv => gives_ofInt_of_fits (hfits v hv)
  exact ⟨table, htable⟩

/-- **A table of percentiles** has each of them as a binary number. -/
theorem exists_get?_percentileValues {v : Int} (hne : values ≠ [])
    (hfits : ∀ v ∈ values, -2 ^ 63 ≤ v ∧ v < 2 ^ 63) (hp : p.IsPercentage percent)
    (hv : IsPercentile values percent v) (hmem : p ∈ ps)
    (hps : ∀ q ∈ ps, ∃ r, q.IsPercentage r) :
    ∃ table x, percentileValues values ps = .ok table ∧ table.get? p = some x
      ∧ Binary64.ofInt v = .ok x := by
  obtain ⟨table, htable⟩ := exists_percentileValues ps hfits
  obtain ⟨x, hx, -⟩ := gives_ofInt_of_fits (hfits v hv.mem)
  obtain ⟨u, hu⟩ := hp.exists_steps
  have hsteps : ∀ q ∈ ps, ∃ u, q.steps? = some u := by
    intro q hq
    obtain ⟨r, hr⟩ := hps q hq
    exact hr.exists_steps
  have hvalue : ∀ q ∈ ps, q.same p = true →
      percentileValue (values.mergeSort (· ≤ ·)).toArray q = .ok x := by
    intro q hq hsame
    obtain ⟨r, hr⟩ := hps q hq
    have hfound := (percentileOf_eq_some_iff hne hr).2 (hr.eq_of_same hp hsame ▸ hv)
    unfold percentileOf at hfound
    rw [percentileValue, hfound]
    exact mapError_eq_ok_iff.2 hx
  refine ⟨table, x, htable, ?_, hx⟩
  unfold percentileValues at htable
  split at htable
  · exact get?_of_foldlM_put hu hsteps hvalue (.inl ⟨p, hmem, (Quantity.same_iff hu).2 hu⟩) htable
  · cases htable

/-- **The percentile of a list.**  It is the least value with at least that part of the values at or
below it, and fewer are below it; the part is the number that the text of the percentile writes.
A table of percentiles has it as a binary number, the order of the values does not matter, and it
does not decrease when the percentage grows. -/
theorem percentileOf_spec (hne : values ≠ []) (hfits : ∀ v ∈ values, -2 ^ 63 ≤ v ∧ v < 2 ^ 63)
    (hp : p.IsPercentage percent) :
    p.text.WritesDecimal percent
      ∧ ∃ v, percentileOf values p = some v ∧ IsPercentile values percent v
        ∧ (∀ ps : List Quantity, p ∈ ps → (∀ q ∈ ps, ∃ r, q.IsPercentage r) →
          ∃ table x, percentileValues values ps = .ok table ∧ table.get? p = some x
            ∧ Binary64.ofInt v = .ok x)
        ∧ (∀ values' : List Int, values.Perm values' → percentileOf values' p = some v)
        ∧ ∀ (q : Quantity) (greater : ℚ), q.IsPercentage greater → percent ≤ greater →
          ∃ w, percentileOf values q = some w ∧ v ≤ w := by
  refine ⟨Quantity.writesDecimal_of_rational? hp.value, ?_⟩
  obtain ⟨v, hv, hpercentile⟩ := exists_percentileOf hne hp
  refine ⟨v, hv, hpercentile, ?_, ?_, ?_⟩
  · intro ps hmem hps
    exact exists_get?_percentileValues hne hfits hp hpercentile hmem hps
  · intro values' hperm
    have hne' : values' ≠ [] := fun hnil => hne (List.Perm.eq_nil (hnil ▸ hperm))
    exact (percentileOf_eq_some_iff hne' hp).2 (hpercentile.perm hperm)
  · intro q greater hq hmore
    obtain ⟨w, hw, hpercentile'⟩ := exists_percentileOf hne hq
    exact ⟨w, hw, hpercentile.le hpercentile' hmore⟩

end

/-- Half of four values, and almost all of them. -/
theorem percentileOf_spec_four :
    percentileOf [30, 10, 20, 10] (.whole 50) = some 10
      ∧ percentileOf [30, 10, 20, 10] (.binary ((Decimal.mk 999 (-1)).toBinary64 false))
        = some 30 := by
  have hne : ([30, 10, 20, 10] : List Int) ≠ [] := by decide
  have hfits : ∀ v ∈ ([30, 10, 20, 10] : List Int), -2 ^ 63 ≤ v ∧ v < 2 ^ 63 := by decide
  have hhalf : (Quantity.whole 50).IsPercentage 50 :=
    ⟨Quantity.rational?_whole 50, by norm_num, by norm_num⟩
  have hmost : (Quantity.binary ((Decimal.mk 999 (-1)).toBinary64 false)).IsPercentage
      (999 / 10) := by
    have hratio : (Quantity.binary ((Decimal.mk 999 (-1)).toBinary64 false)).ratio?
        = some (999, 10) := by decide +kernel
    refine ⟨?_, by norm_num, by norm_num⟩
    rw [Quantity.rational?, hratio]
    norm_num
  have hten : IsPercentile [30, 10, 20, 10] 50 10 := by
    refine ⟨by decide, ?_, ?_, ?_⟩ <;> norm_num [List.countP_cons]
  have hthirty : IsPercentile [30, 10, 20, 10] (999 / 10) 30 := by
    refine ⟨by decide, ?_, ?_, ?_⟩ <;> norm_num [List.countP_cons]
  constructor
  · obtain ⟨-, v, hv, hpercentile, -⟩ := percentileOf_spec hne hfits hhalf
    rw [hv, hpercentile.unique hten]
  · obtain ⟨-, v, hv, hpercentile, -⟩ := percentileOf_spec hne hfits hmost
    rw [hv, hpercentile.unique hthirty]

end PhaseSplit
