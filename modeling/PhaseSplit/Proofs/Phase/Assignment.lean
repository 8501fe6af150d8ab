import Mathlib.Tactic
import PhaseSplit.Phase.Router
import PhaseSplit.Sample.Basic

/-!
# The assignment of samples to phases

A router meets samples one after another and decides each of them by the least timestamp it has
seen.  This file follows a router along a whole list of samples.

* `Router.assign` is the list of its decisions and `Router.after` the router that is left;
* `Router.epoch_after`: the epoch is the least of all timestamps so far;
* `Router.getElem?_assign`: the decision on a sample is made by the least timestamp up to and
  including its own;
* `twoPass` is the assignment of one who knows the least of all timestamps beforehand.
  `Router.lt_of_mem_assign_measurement` and `Router.assign_eq_twoPass` compare the two: the router
  errs to one side only, and not at all when the first sample is the earliest;
* `Router.pairwise_assign_of_sorted`, `warmup_append_measurement`: samples in the order of time keep
  their order;
* `Router.assign_warmup`: without the samples of the measurement, all decisions stay as they were.
-/

namespace PhaseSplit

/-- The samples of a phase, in the order in which they were assigned. -/
def ofPhase (phase : Phase) (routed : List (Sample × Phase)) : List Sample :=
  (routed.filter (·.2 = phase)).map Prod.fst

/-- The start times of samples. -/
def timestamps (xs : List Sample) : List Int := xs.map Sample.timestamp

@[simp] theorem ofPhase_nil (phase : Phase) : ofPhase phase [] = [] := rfl

theorem ofPhase_cons (phase : Phase) (x : Sample) (p : Phase) (routed : List (Sample × Phase)) :
    ofPhase phase ((x, p) :: routed)
      = if p = phase then x :: ofPhase phase routed else ofPhase phase routed := by
  by_cases h : p = phase <;> simp [ofPhase, h]

@[simp] theorem timestamps_nil : timestamps [] = [] := rfl

@[simp] theorem timestamps_cons (x : Sample) (xs : List Sample) :
    timestamps (x :: xs) = x.timestamp :: timestamps xs := rfl

theorem mem_ofPhase {phase : Phase} {x : Sample} {routed : List (Sample × Phase)} :
    x ∈ ofPhase phase routed ↔ (x, phase) ∈ routed := by
  simp [ofPhase]

/-- Samples that never go from the measurement back to the warmup are the warmup and then the
measurement. -/
theorem warmup_append_measurement {routed : List (Sample × Phase)}
    (h : routed.Pairwise fun a b => a.2 = .measurement → b.2 = .measurement) :
    ofPhase .warmup routed ++ ofPhase .measurement routed = routed.map Prod.fst := by
  induction routed with
  | nil => rfl
  | cons head routed ih =>
    obtain ⟨x, p⟩ := head
    obtain ⟨hhead, htail⟩ := List.pairwise_cons.1 h
    cases p with
    | warmup => simpa [ofPhase_cons] using ih htail
    | measurement =>
      have hempty : ofPhase .warmup routed = [] := by
        refine List.eq_nil_iff_forall_not_mem.2 ?_
        intro y hy
        have := hhead _ (mem_ofPhase.1 hy) rfl
        cases this
      have := ih htail
      rw [hempty, List.nil_append] at this
      simp [ofPhase_cons, hempty, this]

/-- The least of more timestamps is no greater. -/
theorem min?_le_of_subset {ts us : List Int} {least : Int} (h : ts.min? = some least)
    (hsub : ts ⊆ us) : ∃ lower, us.min? = some lower ∧ lower ≤ least := by
  have hmem : least ∈ us := hsub (List.min?_mem h)
  obtain ⟨lower, hlower⟩ := Option.isSome_iff_exists.1 (List.isSome_min?_of_mem hmem)
  exact ⟨lower, hlower, (List.min?_eq_some_iff.1 hlower).2 least hmem⟩

/-- The assignment in two passes: the first finds the least of all timestamps, the second assigns by
it. -/
def twoPass (millis : Int) (xs : List Sample) : List (Sample × Phase) :=
  match (timestamps xs).min? with
  | none => []
  | some epoch => xs.map fun x => (x, Epoch.phaseAt epoch x.timestamp millis)

namespace Router

/-- The router after the samples of a list. -/
def after (r : Router) (xs : List Sample) : Router :=
  xs.foldl (fun r x => (r.route x.timestamp).2) r

/-- The samples of a list, each with the phase that the router gives to it. -/
def assign (r : Router) : List Sample → List (Sample × Phase)
  | [] => []
  | x :: xs => (x, (r.route x.timestamp).1) :: assign (r.route x.timestamp).2 xs

@[simp] theorem after_nil (r : Router) : r.after [] = r := rfl

@[simp] theorem after_cons (r : Router) (x : Sample) (xs : List Sample) :
    r.after (x :: xs) = (r.route x.timestamp).2.after xs := rfl

@[simp] theorem map_fst_assign (r : Router) (xs : List Sample) :
    (r.assign xs).map Prod.fst = xs := by
  induction xs generalizing r with
  | nil => rfl
  | cons x xs ih => simp [assign, ih]

@[simp] theorem length_assign (r : Router) (xs : List Sample) :
    (r.assign xs).length = xs.length := by
  rw [← List.length_map (f := Prod.fst), map_fst_assign]

@[simp] theorem warmupMillis_route (r : Router) (t : Int) :
    (r.route t).2.warmupMillis = r.warmupMillis := rfl

@[simp] theorem warmupMillis_after (r : Router) (xs : List Sample) :
    (r.after xs).warmupMillis = r.warmupMillis := by
  induction xs generalizing r with
  | nil => rfl
  | cons x xs ih => rw [after_cons, ih, warmupMillis_route]

/-- The epoch after one more sample is the least of the old epoch and its timestamp. -/
theorem epoch_route (r : Router) (t : Int) (ts : List Int) :
    ((r.route t).2.epoch.toList ++ ts).min? = (r.epoch.toList ++ t :: ts).min? := by
  cases h : r.epoch with
  | none => simp [route, Epoch.classify, Epoch.observe, h]
  | some least =>
    have hroute : (r.route t).2.epoch = some (min least t) := by
      simp [route, Epoch.classify, h, Epoch.observe_eq_min]
    rw [hroute]
    simp only [Option.toList_some, List.singleton_append, List.min?_cons', List.foldl_cons]

/-- **The epoch is the running minimum.** -/
theorem epoch_after (r : Router) (xs : List Sample) :
    (r.after xs).epoch = (r.epoch.toList ++ timestamps xs).min? := by
  induction xs generalizing r with
  | nil => cases h : r.epoch <;> simp [h]
  | cons x xs ih => rw [after_cons, ih, epoch_route, timestamps_cons]

/-- The phase that a router gives to a sample, by the epoch that it has afterwards. -/
theorem route_fst (r : Router) (t : Int) :
    ∃ least, (r.route t).2.epoch = some least
      ∧ (r.route t).1 = Epoch.phaseAt least t r.warmupMillis :=
  ⟨_, rfl, rfl⟩

/-- **The routing law.**  The sample in place `i` is assigned by the least of the timestamps up to
and including its own. -/
theorem getElem?_assign {r : Router} {xs : List Sample} {i : Nat} {x : Sample} {p : Phase}
    (h : (r.assign xs)[i]? = some (x, p)) :
    xs[i]? = some x ∧ ∃ least, (r.epoch.toList ++ (timestamps xs).take (i + 1)).min? = some least
      ∧ p = Epoch.phaseAt least x.timestamp r.warmupMillis := by
  induction xs generalizing r i with
  | nil => simp [assign] at h
  | cons y xs ih =>
    cases i with
    | zero =>
      obtain ⟨least, hleast, hphase⟩ := r.route_fst y.timestamp
      have hxy : y = x ∧ (r.route y.timestamp).1 = p := by simpa [assign] using h
      obtain ⟨rfl, rfl⟩ := hxy
      refine ⟨rfl, least, ?_, hphase⟩
      have hmin := r.epoch_route y.timestamp []
      rw [hleast] at hmin
      simpa using hmin.symm
    | succ i =>
      obtain ⟨hx, least, hleast, hphase⟩ := ih (by simpa [assign] using h)
      refine ⟨by simpa using hx, least, ?_, by simpa using hphase⟩
      rw [epoch_route] at hleast
      simpa using hleast

/-! ## Against the assignment in two passes -/

/-- With the epoch in place and no earlier sample to come, that epoch assigns every sample. -/
theorem assign_of_epoch_le {r : Router} {epoch : Int} {xs : List Sample} (h : r.epoch = some epoch)
    (hxs : ∀ x ∈ xs, epoch ≤ x.timestamp) :
    r.assign xs = xs.map fun x => (x, Epoch.phaseAt epoch x.timestamp r.warmupMillis) := by
  induction xs generalizing r with
  | nil => rfl
  | cons x xs ih =>
    have hx : epoch ≤ x.timestamp := hxs x (by simp)
    have hroute : r.route x.timestamp = (Epoch.phaseAt epoch x.timestamp r.warmupMillis,
        { r with epoch := some epoch, routed := (r.route x.timestamp).2.routed }) := by
      simp [route, Epoch.classify, h, Epoch.observe_eq_min, min_eq_left hx]
    rw [assign, hroute, List.map_cons]
    rw [ih rfl (fun y hy => hxs y (by simp [hy]))]

/-- **The error goes to one side.**  A sample in the measurement lies after the warmup that starts
with the earliest of all samples, those to come included. -/
theorem lt_of_mem_assign_measurement {r : Router} {xs : List Sample} {x : Sample}
    (hr : r.epoch = none) (h : (x, Phase.measurement) ∈ r.assign xs) :
    ∃ epoch, (timestamps xs).min? = some epoch ∧ epoch + r.warmupMillis < x.timestamp := by
  obtain ⟨i, hi⟩ := List.mem_iff_getElem?.1 h
  obtain ⟨-, least, hleast, hphase⟩ := getElem?_assign hi
  rw [hr, Option.toList_none, List.nil_append] at hleast
  obtain ⟨epoch, hepoch, hle⟩ := min?_le_of_subset hleast (List.take_subset _ _)
  refine ⟨epoch, hepoch, ?_⟩
  unfold Epoch.phaseAt at hphase
  split at hphase
  · cases hphase
  · omega

/-- **No error when the earliest sample comes first.** -/
theorem assign_eq_twoPass {r : Router} {xs : List Sample} (hr : r.epoch = none)
    (hfirst : ∀ first, xs.head? = some first → ∀ x ∈ xs, first.timestamp ≤ x.timestamp) :
    r.assign xs = twoPass r.warmupMillis xs := by
  cases xs with
  | nil => rfl
  | cons first xs =>
    have hle : ∀ x ∈ first :: xs, first.timestamp ≤ x.timestamp := hfirst first rfl
    have hmin : (timestamps (first :: xs)).min? = some first.timestamp := by
      rw [List.min?_eq_some_iff]
      refine ⟨by simp, ?_⟩
      intro t ht
      obtain ⟨x, hx, rfl⟩ := List.mem_map.1 ht
      exact hle x hx
    have hroute : (r.route first.timestamp).1
          = Epoch.phaseAt first.timestamp first.timestamp r.warmupMillis
        ∧ (r.route first.timestamp).2.epoch = some first.timestamp := by
      simp [route, Epoch.classify, Epoch.observe, hr]
    rw [assign, assign_of_epoch_le hroute.2 (fun x hx => hle x (by simp [hx])), twoPass, hmin,
      hroute.1, warmupMillis_route]
    rfl

/-- **Samples in the order of time keep their order**: those of the warmup come before those of the
measurement. -/
theorem pairwise_assign_of_sorted {r : Router} {xs : List Sample} (hr : r.epoch = none)
    (hsorted : (timestamps xs).Pairwise (· ≤ ·)) :
    (r.assign xs).Pairwise fun a b => a.2 = .measurement → b.2 = .measurement := by
  have hpairs : xs.Pairwise fun x y => x.timestamp ≤ y.timestamp := List.pairwise_map.1 hsorted
  have hfirst : ∀ first, xs.head? = some first → ∀ x ∈ xs, first.timestamp ≤ x.timestamp := by
    intro first hhead x hx
    cases xs with
    | nil => simp at hx
    | cons y xs =>
      obtain rfl : y = first := by simpa using hhead
      rcases List.mem_cons.1 hx with rfl | hx
      · exact le_refl _
      · exact (List.pairwise_cons.1 hpairs).1 x hx
  rw [assign_eq_twoPass hr hfirst]
  unfold twoPass
  cases (timestamps xs).min? with
  | none => exact List.Pairwise.nil
  | some epoch =>
    refine List.pairwise_map.2 (hpairs.imp ?_)
    intro x y hxy hx
    simp only [Epoch.phaseAt] at hx ⊢
    split at hx
    · cases hx
    · rw [if_neg (by omega)]

/-! ## Without the measurement -/

section

variable {r r' : Router} {t : Int}

theorem phaseAt_of_route (r : Router) (t : Int) :
    (r.route t).1 = Epoch.phaseAt (r.epoch.observe t) t r.warmupMillis := rfl

/-- Routers with the same epoch and the same length of warmup decide alike. -/
theorem route_congr (hepoch : r'.epoch = r.epoch) (hmillis : r'.warmupMillis = r.warmupMillis)
    (t : Int) : (r'.route t).1 = (r.route t).1 ∧ (r'.route t).2.epoch = (r.route t).2.epoch := by
  unfold route Epoch.classify
  dsimp only
  rw [hepoch, hmillis]
  exact ⟨rfl, rfl⟩

/-- A sample of the measurement does not move the epoch: it lies after it by more than the length of
the warmup. -/
theorem epoch_route_of_measurement (hmillis : 0 ≤ r.warmupMillis)
    (h : (r.route t).1 = .measurement) : (r.route t).2.epoch = r.epoch := by
  have hepoch : (r.route t).2.epoch = some (r.epoch.observe t) := rfl
  rw [phaseAt_of_route, Epoch.phaseAt] at h
  split at h
  · cases h
  · next hlater =>
    rw [hepoch]
    cases hr : r.epoch with
    | none =>
      rw [hr] at hlater
      unfold Epoch.observe at hlater
      dsimp only at hlater
      omega
    | some least =>
      rw [hr, Epoch.observe_eq_min] at hlater
      rw [Epoch.observe_eq_min, min_eq_left (by omega)]

end

/-- **Without the measurement all stays as it was.**  Samples at the times of those of the warmup,
assigned by themselves, are all in the warmup and come to the same epoch: every prefix has the same
least timestamp as before. -/
theorem assign_warmup {r r' : Router} {xs ys : List Sample} (hmillis : 0 ≤ r.warmupMillis)
    (hepoch : r'.epoch = r.epoch) (hsame : r'.warmupMillis = r.warmupMillis)
    (hys : timestamps ys = timestamps (ofPhase .warmup (r.assign xs))) :
    (∀ routed ∈ r'.assign ys, routed.2 = .warmup) ∧ (r'.after ys).epoch = (r.after xs).epoch := by
  induction xs generalizing r r' ys with
  | nil =>
    have hnil : ys = [] := List.map_eq_nil_iff.1 hys
    subst hnil
    exact ⟨by simp [assign], hepoch⟩
  | cons x xs ih =>
    rw [assign, ofPhase_cons] at hys
    have hnext : 0 ≤ (r.route x.timestamp).2.warmupMillis := hmillis
    cases hphase : (r.route x.timestamp).1 with
    | warmup =>
      rw [hphase, if_pos rfl, timestamps_cons] at hys
      cases ys with
      | nil => cases hys
      | cons y ys =>
        obtain ⟨htime, htimes⟩ := List.cons.inj hys
        have htime' : y.timestamp = x.timestamp := htime
        obtain ⟨hdecision, hepoch'⟩ := route_congr hepoch hsame y.timestamp
        rw [htime'] at hdecision hepoch'
        obtain ⟨hall, hlast⟩ := ih hnext hepoch' hsame htimes
        constructor
        · intro routed hrouted
          rw [assign, htime'] at hrouted
          rcases List.mem_cons.1 hrouted with rfl | hrouted
          · rw [hdecision, hphase]
          · exact hall routed hrouted
        · rw [after_cons, after_cons, htime']
          exact hlast
    | measurement =>
      rw [hphase, if_neg (by decide)] at hys
      have hkept := epoch_route_of_measurement hmillis hphase
      exact ih hnext (hepoch.trans hkept.symm) hsame hys

end Router

/-- Samples that are all in the warmup. -/
theorem ofPhase_of_all_warmup {routed : List (Sample × Phase)} (h : ∀ x ∈ routed, x.2 = .warmup) :
    ofPhase .warmup routed = routed.map Prod.fst ∧ ofPhase .measurement routed = [] := by
  constructor
  · unfold ofPhase
    rw [List.filter_eq_self.2 fun x hx => by simpa using h x hx]
  · rw [List.eq_nil_iff_forall_not_mem]
    intro x hx
    have := h _ (mem_ofPhase.1 hx)
    cases this

/-! ## The length of the warmup -/

theorem TimeUnit.toMillis_nonneg {duration : Int} (h : 0 ≤ duration) (u : TimeUnit) :
    0 ≤ u.toMillis duration := by
  cases u <;> simp only [toMillis] <;> omega

/-- A warmup is not shorter than nothing, however short its unit. -/
theorem durationMillis_nonneg {duration millis : Int} {unit : Text} (h : 0 ≤ duration)
    (hmillis : durationMillis duration unit = .ok millis) : 0 ≤ millis := by
  unfold durationMillis at hmillis
  split at hmillis
  · cases hmillis
    exact TimeUnit.toMillis_nonneg h _
  · cases hmillis

end PhaseSplit
