import Mathlib.Tactic
import PhaseSplit.Session

/-!
# What the steps of a session do

The result of each step of a session and the world after it.

* `Session.result_bind`: work goes on in the world that it has come to, or ends there;
* `Session.result_bind_eq_ok_iff`, `Session.result_bind_eq_error_iff`: when work in two parts has a
  result, and when it fails;
* `Session.result_readFile`, `Session.result_changeFiles`: a step on files is one operation on the
  file tree, and leaves the world as it was when it is refused;
* `Session.cause_of_makeDirectories`: directories are refused by the machine or by the file tree;
* `Session.result_fetch`, `Session.result_store`: what a path stands for is read and written as the
  machine has it;
* `Session.files_readClock`: the clock has no part in the files;
* `Session.Keeps`: a property of the files that work keeps, step by step, however it ends;
* `Session.Reaches`: the result that work gives from some files, and the files to which it comes;
* `Session.Computes`: work that only looks at the files, and what it computes from them on a machine;
* `Session.FailsFor`: the reasons for which work fails on a machine;
* `Session.Carries`: work that comes to the same in two worlds that are alike, and keeps them so;
* `Session.TellsTime`: a clock that can time a piece of work.
-/

namespace PhaseSplit.Session

variable {ε ε' α β : Type}

/-! ## Work after work -/

@[simp] theorem result_pure (a : α) (w : World) :
    result (pure a : Session ε α) w = (.ok a, w) := rfl

@[simp] theorem result_throw (e : ε) (w : World) :
    result (throw e : Session ε α) w = (.error e, w) := rfl

@[simp] theorem result_get (w : World) : result (get : Session ε World) w = (.ok w, w) := rfl

@[simp] theorem result_set (v w : World) :
    result (set v : Session ε PUnit) w = (.ok ⟨⟩, v) := rfl

/-- **Work goes on where it has come to**, unless it has failed there. -/
theorem result_bind (x : Session ε α) (f : α → Session ε β) (w : World) :
    result (x >>= f) w = match result x w with
      | (.ok a, w') => result (f a) w'
      | (.error e, w') => (.error e, w') := by
  have hbind : result (x >>= f) w = match result x w with
      | (r, w') => (match r with
        | .ok a => (f a).run
        | .error e => pure (.error e) : StateM World (Except ε β)).run w' := by
    unfold result
    rw [ExceptT.run_bind]
    rfl
  rw [hbind]
  rcases result x w with ⟨_ | a, w'⟩
  · rfl
  · rfl

/-- Work in two parts has a result when the second part has it in the world after the first. -/
theorem result_bind_eq_ok_iff {x : Session ε α} {f : α → Session ε β} {w w' : World} {b : β} :
    result (x >>= f) w = (.ok b, w')
      ↔ ∃ a v, result x w = (.ok a, v) ∧ result (f a) v = (.ok b, w') := by
  rw [result_bind]
  rcases result x w with ⟨e | a, v⟩
  · simp
  · simp

/-- Work in two parts fails when its first part fails, or else its second in the world after the
first. -/
theorem result_bind_eq_error_iff {x : Session ε α} {f : α → Session ε β} {w w' : World} {e : ε} :
    result (x >>= f) w = (.error e, w')
      ↔ result x w = (.error e, w')
        ∨ ∃ a v, result x w = (.ok a, v) ∧ result (f a) v = (.error e, w') := by
  rw [result_bind]
  rcases result x w with ⟨e' | a, v⟩
  · simp
  · simp

/-- Work that cannot fail is passed by. -/
theorem result_bind_of_ok {x : Session ε α} {a : α} {w v : World} (h : result x w = (.ok a, v))
    (f : α → Session ε β) : result (x >>= f) w = result (f a) v := by
  rw [result_bind, h]

/-! ## Steps -/

@[simp] theorem result_sayAll (records : Log) (w : World) :
    result (sayAll records : Session ε Unit) w = (.ok (), { w with log := w.log ++ records }) := rfl

@[simp] theorem result_say (record : LogRecord) (w : World) :
    result (say record : Session ε Unit) w = (.ok (), { w with log := w.log ++ [record] }) := rfl

@[simp] theorem result_announce (progress : List Nat) (w : World) :
    result (announce progress : Session ε Unit) w
      = (.ok (), { w with progress := w.progress ++ progress }) := rfl

@[simp] theorem result_ofExcept (wrap : ε' → ε) (x : Except ε' α) (w : World) :
    result (ofExcept wrap x) w = (x.mapError wrap, w) := by
  cases x <;> rfl

/-- Reading a file changes nothing. -/
@[simp] theorem result_readFile (wrap : FileFault → ε) (path : Text) (w : World) :
    result (readFile wrap path) w = ((w.files.read path).mapError wrap, w) :=
  result_ofExcept wrap (w.files.read path) w

/-- A change of the files is made in full or not at all. -/
theorem result_changeFiles (wrap : FileFault → ε) (change : FileTree → Except FileFault FileTree)
    (w : World) :
    result (changeFiles wrap change) w = match change w.files with
      | .ok files => (.ok (), { w with files })
      | .error e => (.error (wrap e), w) := by
  have hfirst : result (changeFiles wrap change) w
      = result (ofExcept wrap (change w.files) >>= fun files => set { w with files }) w := rfl
  rw [hfirst, result_bind, result_ofExcept]
  cases change w.files <;> rfl

theorem ofExcept_eq_ok_iff {wrap : ε' → ε} {x : Except ε' α} {a : α} {w w' : World} :
    result (ofExcept wrap x) w = (.ok a, w') ↔ x = .ok a ∧ w' = w := by
  cases x <;> simp [Except.mapError, eq_comm]

theorem ofExcept_eq_error_iff {wrap : ε' → ε} {x : Except ε' α} {e : ε} {w w' : World} :
    result (ofExcept wrap x) w = (.error e, w') ↔ (∃ e', x = .error e' ∧ wrap e' = e) ∧ w' = w := by
  cases x <;> simp [Except.mapError, eq_comm]

theorem readFile_eq_ok_iff {wrap : FileFault → ε} {path : Text} {content : List UInt8}
    {w w' : World} :
    result (readFile wrap path) w = (.ok content, w') ↔ w.files.read path = .ok content ∧ w' = w :=
  ofExcept_eq_ok_iff

/-- The files after a change that has been made. -/
theorem files_of_changeFiles {wrap : FileFault → ε} {change : FileTree → Except FileFault FileTree}
    {w w' : World} {u : Unit} (h : result (changeFiles wrap change) w = (.ok u, w')) :
    change w.files = .ok w'.files := by
  rw [result_changeFiles] at h
  cases hc : change w.files with
  | error e => simp [hc] at h
  | ok files =>
    simp only [hc, Prod.mk.injEq, true_and] at h
    rw [← h]

/-- The files and the machine after directories have been made. -/
theorem eq_of_makeDirectories {wrap : FileFault → ε} {noRoom : ε} {path : Text} {w w' : World}
    {u : Unit} (h : result (makeDirectories wrap noRoom path) w = (.ok u, w')) :
    (w.files.makeDirectories path).1 = w'.files ∧ w'.host = w.host := by
  unfold makeDirectories at h
  rw [result_bind_of_ok (result_get w)] at h
  dsimp only at h
  split at h
  · cases h
  · rcases hmade : w.files.makeDirectories path with ⟨t, _ | fault⟩
    · rw [hmade] at h
      cases h
      exact ⟨rfl, rfl⟩
    · rw [hmade] at h
      cases h

/-- Directories are not made where there is no room for them, or where the file tree refuses one. -/
theorem cause_of_makeDirectories {wrap : FileFault → ε} {noRoom e : ε} {path : Text} {w w' : World}
    (h : result (makeDirectories wrap noRoom path) w = (.error e, w')) :
    (e = noRoom ∧ w.host.makingRoom < w.files.missingAbove path)
      ∨ ∃ t fault, w.files.makeDirectories path = (t, some fault) ∧ e = wrap fault := by
  unfold makeDirectories at h
  rw [result_bind_of_ok (result_get w)] at h
  dsimp only at h
  split at h
  · next hroom =>
    cases h
    exact .inl ⟨rfl, hroom⟩
  · rcases hmade : w.files.makeDirectories path with ⟨t, _ | fault⟩
    · rw [hmade] at h
      cases h
    · rw [hmade] at h
      cases h
      exact .inr ⟨t, fault, rfl, rfl⟩

/-- What a path stands for is read on the machine, which changes nothing. -/
@[simp] theorem result_fetch (wrap : AccessFault → ε) (path : Text) (w : World) :
    result (fetch wrap path) w = ((w.host.read w.files path).mapError wrap, w) :=
  result_ofExcept wrap (w.host.read w.files path) w

/-- What a path stands for is written on the machine; what it leaves stays also if it fails. -/
theorem result_store (wrap : AccessFault → ε) (path : Text) (content : List UInt8) (w : World) :
    result (store wrap path content) w = match w.host.write w.files path content with
      | (files, none) => (.ok (), { w with files })
      | (files, some e) => (.error (wrap e), { w with files }) := by
  unfold store
  rw [result_bind_of_ok (result_get w)]
  rcases w.host.write w.files path content with ⟨files, _ | e⟩
  · rfl
  · rfl

/-! ## The clock -/

/-- What the clock gives when it is read next. -/
def nextReading (w : World) : ClockReading := w.clock.head?.getD (.seconds .zero)

theorem nextReading_congr {v w : World} (h : v.clock = w.clock) :
    nextReading v = nextReading w := by
  unfold nextReading
  rw [h]

/-- The world after the clock has been read. -/
def afterReading (w : World) : World :=
  if w.clock.tail = [] then w else { w with clock := w.clock.tail }

@[simp] theorem files_afterReading (w : World) : (afterReading w).files = w.files := by
  unfold afterReading
  split <;> rfl

theorem clock_afterReading_congr {v w : World} (h : v.clock = w.clock) :
    (afterReading v).clock = (afterReading w).clock := by
  unfold afterReading
  rw [h]
  split
  · exact h
  · rfl

/-- Reading the clock gives its next reading. -/
theorem result_readClock (interrupted : ε) (w : World) :
    result (readClock interrupted) w = (match nextReading w with
      | .seconds x => .ok x
      | .interrupt => .error interrupted, afterReading w) := by
  unfold readClock nextReading afterReading
  rw [result_bind, result_get]
  dsimp only
  cases w.clock with
  | nil => rfl
  | cons reading later =>
    by_cases hlater : later = []
    · cases reading <;> simp only [hlater, List.tail_cons, if_true] <;> rfl
    · cases reading <;> simp only [hlater, List.tail_cons, if_false] <;> rfl

theorem result_readClock_of_seconds {w : World} {x : Binary64} (h : nextReading w = .seconds x)
    (interrupted : ε) : result (readClock interrupted) w = (.ok x, afterReading w) := by
  rw [result_readClock, h]

/-- The clock has no part in the files. -/
theorem files_readClock (interrupted : ε) (w : World) :
    (result (readClock interrupted) w).2.files = w.files := by
  rw [result_readClock, files_afterReading]

/-- The time between the next two readings of the clock has a number of whole seconds. -/
def TellsTime (w : World) : Prop :=
  ∃ start stop n, nextReading w = .seconds start ∧ nextReading (afterReading w) = .seconds stop
    ∧ (stop.sub start).truncate? = some n

/-- A clock that stands still tells that no time has passed. -/
theorem tellsTime_of_clock_eq_nil {w : World} (h : w.clock = []) : TellsTime w := by
  have hafter : afterReading w = w := by
    unfold afterReading
    rw [h]
    rfl
  have hnext : nextReading w = .seconds .zero := by
    unfold nextReading
    rw [h]
    rfl
  refine ⟨.zero, .zero, 0, hnext, ?_, by decide +kernel⟩
  rw [hafter]
  exact hnext

/-! ## What work leaves alone -/

/-- Work that keeps a property of the files, whether it gives a result or fails. -/
def Keeps (P : FileTree → Prop) (work : Session ε α) : Prop :=
  ∀ w : World, P w.files → P (result work w).2.files

namespace Keeps

variable {P : FileTree → Prop} {work : Session ε α}

theorem bind {f : α → Session ε β} (hwork : Keeps P work) (hf : ∀ a, Keeps P (f a)) :
    Keeps P (work >>= f) := by
  intro w hw
  have hfirst := hwork w hw
  rw [result_bind]
  rcases hresult : result work w with ⟨e | a, v⟩
  · rwa [hresult] at hfirst
  · rw [hresult] at hfirst
    exact hf a v hfirst

/-- Work that does not change the files keeps all of their properties. -/
theorem of_files_eq (h : ∀ w : World, (result work w).2.files = w.files) : Keeps P work := by
  intro w hw
  rwa [h w]

theorem pure (a : α) : Keeps P (Pure.pure a : Session ε α) := of_files_eq fun _ => rfl

theorem sayAll (records : Log) : Keeps P (Session.sayAll records : Session ε Unit) :=
  of_files_eq fun _ => rfl

theorem say (record : LogRecord) : Keeps P (Session.say record : Session ε Unit) :=
  of_files_eq fun _ => rfl

theorem announce (progress : List Nat) : Keeps P (Session.announce progress : Session ε Unit) :=
  of_files_eq fun _ => rfl

theorem ofExcept (wrap : ε' → ε) (x : Except ε' α) : Keeps P (Session.ofExcept wrap x) :=
  of_files_eq fun w => by rw [result_ofExcept]

theorem readFile (wrap : FileFault → ε) (path : Text) : Keeps P (Session.readFile wrap path) :=
  of_files_eq fun w => by rw [result_readFile]

theorem readClock (interrupted : ε) : Keeps P (Session.readClock interrupted) :=
  of_files_eq (files_readClock interrupted)

/-- A change that is refused is none; one that is made must keep the property. -/
theorem changeFiles {wrap : FileFault → ε} {change : FileTree → Except FileFault FileTree}
    (h : ∀ t t', P t → change t = .ok t' → P t') : Keeps P (Session.changeFiles wrap change) := by
  intro w hw
  rw [result_changeFiles]
  cases hchange : change w.files with
  | error e => exact hw
  | ok files => exact h w.files files hw hchange

end Keeps

/-! ## What work comes to -/

/-- Work that gives a result from some files and comes to others, without asking the clock. -/
def Reaches (work : Session ε α) (t : FileTree) (a : α) (t' : FileTree) : Prop :=
  ∀ w : World, w.files = t →
    ∃ w', result work w = (.ok a, w') ∧ w'.files = t' ∧ w'.clock = w.clock

namespace Reaches

variable {t t' t'' : FileTree} {a : α} {b : β}

theorem bind {work : Session ε α} {f : α → Session ε β} (hwork : Reaches work t a t')
    (hf : Reaches (f a) t' b t'') : Reaches (work >>= f) t b t'' := by
  intro w hw
  obtain ⟨v, hresult, hfiles, hclock⟩ := hwork w hw
  obtain ⟨w', hresult', hfiles', hclock'⟩ := hf v hfiles
  refine ⟨w', ?_, hfiles', hclock'.trans hclock⟩
  rw [result_bind_of_ok hresult]
  exact hresult'

theorem pure (a : α) (t : FileTree) : Reaches (Pure.pure a : Session ε α) t a t :=
  fun w hw => ⟨w, rfl, hw, rfl⟩

theorem sayAll (records : Log) (t : FileTree) :
    Reaches (Session.sayAll records : Session ε Unit) t () t :=
  fun _ hw => ⟨_, rfl, hw, rfl⟩

theorem say (record : LogRecord) (t : FileTree) :
    Reaches (Session.say record : Session ε Unit) t () t :=
  fun _ hw => ⟨_, rfl, hw, rfl⟩

theorem announce (progress : List Nat) (t : FileTree) :
    Reaches (Session.announce progress : Session ε Unit) t () t :=
  fun _ hw => ⟨_, rfl, hw, rfl⟩

theorem ofExcept {wrap : ε' → ε} {x : Except ε' α} (h : x = .ok a) (t : FileTree) :
    Reaches (Session.ofExcept wrap x) t a t := by
  intro w hw
  refine ⟨w, ?_, hw, rfl⟩
  rw [result_ofExcept, h]
  rfl

theorem readFile {wrap : FileFault → ε} {path : Text} {content : List UInt8}
    (h : t.read path = .ok content) : Reaches (Session.readFile wrap path) t content t := by
  intro w hw
  refine ⟨w, ?_, hw, rfl⟩
  rw [result_readFile, hw, h]
  rfl

/-- A change that is not refused is made. -/
theorem changeFiles {wrap : FileFault → ε} {change : FileTree → Except FileFault FileTree}
    (h : change t = .ok t') : Reaches (Session.changeFiles wrap change) t () t' := by
  intro w hw
  refine ⟨{ w with files := t' }, ?_, rfl, rfl⟩
  rw [result_changeFiles, hw, h]

end Reaches

/-! ## Work that only looks at the files -/

/-- Work that changes nothing but the log, and comes to what is computed from the files on the
machine. -/
def Computes (work : Session ε α) (x : Host → FileTree → Except ε α) : Prop :=
  ∀ w : World, ∃ log, result work w = (x w.host w.files, { w with log := w.log ++ log })

namespace Computes

variable {x : Host → FileTree → Except ε α} {y : α → Host → FileTree → Except ε β}

theorem bind {work : Session ε α} {f : α → Session ε β} (hwork : Computes work x)
    (hf : ∀ a, Computes (f a) (y a)) :
    Computes (work >>= f) fun host t => x host t >>= fun a => y a host t := by
  intro w
  obtain ⟨log, hfirst⟩ := hwork w
  rw [result_bind, hfirst]
  dsimp only
  cases x w.host w.files with
  | error e => exact ⟨log, rfl⟩
  | ok a =>
    obtain ⟨log', hrest⟩ := hf a { w with log := w.log ++ log }
    refine ⟨log ++ log', ?_⟩
    rw [← List.append_assoc]
    exact hrest

theorem pure (a : α) : Computes (Pure.pure a : Session ε α) fun _ _ => .ok a :=
  fun w => ⟨[], by rw [List.append_nil]; rfl⟩

theorem throw (e : ε) : Computes (MonadExcept.throw e : Session ε α) fun _ _ => .error e :=
  fun w => ⟨[], by rw [List.append_nil]; rfl⟩

theorem say (record : LogRecord) :
    Computes (Session.say record : Session ε Unit) fun _ _ => .ok () := fun _ => ⟨_, rfl⟩

theorem ofExcept (wrap : ε' → ε) (a : Except ε' α) :
    Computes (Session.ofExcept wrap a) fun _ _ => a.mapError wrap :=
  fun w => ⟨[], by rw [List.append_nil, result_ofExcept]⟩

theorem ofExcept_id (a : Except ε α) : Computes (Session.ofExcept id a) fun _ _ => a := by
  cases a with
  | error e => exact throw e
  | ok a => exact pure a

theorem readFile (wrap : FileFault → ε) (path : Text) :
    Computes (Session.readFile wrap path) fun _ t => (t.read path).mapError wrap :=
  fun w => ⟨[], by rw [List.append_nil, result_readFile]⟩

theorem fetch (wrap : AccessFault → ε) (path : Text) :
    Computes (Session.fetch wrap path) fun host t => (host.read t path).mapError wrap :=
  fun w => ⟨[], by rw [List.append_nil, result_fetch]⟩

/-- Work that asks for the world, and for no more than its machine and its files. -/
theorem get {f : World → Session ε α} {y : World → Host → FileTree → Except ε α}
    (hf : ∀ w, Computes (f w) (y w)) (hx : ∀ w, y w w.host w.files = x w.host w.files) :
    Computes (MonadState.get >>= f) x := by
  intro w
  rw [result_bind_of_ok (result_get w), ← hx w]
  exact hf w w

end Computes

/-! ## Why work fails -/

/-- Work that leaves a machine as it is, and fails on it for no other reasons than these. -/
def FailsFor (host : Host) (Q : ε → Prop) (work : Session ε α) : Prop :=
  ∀ w : World, w.host = host →
    (result work w).2.host = host ∧ ∀ e, (result work w).1 = .error e → Q e

namespace FailsFor

variable {host : Host} {Q : ε → Prop} {work : Session ε α} {wrap : FileFault → ε} {path : Text}

theorem cause {w w' : World} {e : ε} (hwork : FailsFor host Q work)
    (h : result work w = (.error e, w')) (hw : w.host = host) : Q e :=
  (hwork w hw).2 e (congrArg Prod.fst h)

theorem bind {f : α → Session ε β} (hwork : FailsFor host Q work)
    (hf : ∀ a, FailsFor host Q (f a)) : FailsFor host Q (work >>= f) := by
  intro w hw
  obtain ⟨hkept, hfails⟩ := hwork w hw
  rw [result_bind]
  rcases hresult : result work w with ⟨e | a, v⟩
  · rw [hresult] at hkept hfails
    refine ⟨hkept, fun e' he => ?_⟩
    cases he
    exact hfails e rfl
  · rw [hresult] at hkept
    exact hf a v hkept

/-- Work that cannot fail and leaves the machine. -/
theorem of_ok {a : α} (h : ∀ w : World, (result work w).1 = .ok a)
    (hhost : ∀ w : World, (result work w).2.host = w.host) : FailsFor host Q work := by
  refine fun w hw => ⟨(hhost w).trans hw, fun e he => ?_⟩
  rw [h w] at he
  cases he

theorem pure (a : α) : FailsFor host Q (Pure.pure a : Session ε α) :=
  of_ok (fun _ => rfl) fun _ => rfl

theorem throw {e : ε} (h : Q e) : FailsFor host Q (MonadExcept.throw e : Session ε α) := by
  refine fun w hw => ⟨hw, fun e' he => ?_⟩
  cases he
  exact h

theorem say (record : LogRecord) : FailsFor host Q (Session.say record : Session ε Unit) :=
  of_ok (fun _ => rfl) fun _ => rfl

theorem ofExcept {wrap : ε' → ε} {x : Except ε' α} (h : ∀ e, x = .error e → Q (wrap e)) :
    FailsFor host Q (Session.ofExcept wrap x) := by
  cases x with
  | ok a => exact pure a
  | error e => exact throw (h e rfl)

/-- Work that asks for the world, which is one of this machine. -/
theorem get {f : World → Session ε α} (hf : ∀ w : World, w.host = host → FailsFor host Q (f w)) :
    FailsFor host Q (MonadState.get >>= f) := by
  intro w hw
  rw [result_bind_of_ok (result_get w)]
  exact hf w hw w hw

theorem changeFiles {change : FileTree → Except FileFault FileTree}
    (h : ∀ t e, change t = .error e → Q (wrap e)) :
    FailsFor host Q (Session.changeFiles wrap change) := by
  intro w hw
  rw [result_changeFiles]
  cases hchange : change w.files with
  | ok files => exact ⟨hw, by rintro e ⟨⟩⟩
  | error e =>
    refine ⟨hw, fun e' he => ?_⟩
    cases he
    exact h _ e hchange

theorem store {wrap : AccessFault → ε} {content : List UInt8}
    (h : ∀ (t : FileTree) e, (host.write t path content).2 = some e → Q (wrap e)) :
    FailsFor host Q (Session.store wrap path content) := by
  rintro w rfl
  rw [result_store]
  rcases hwritten : w.host.write w.files path content with ⟨files, _ | e⟩
  · exact ⟨rfl, by rintro e ⟨⟩⟩
  · refine ⟨rfl, fun e' he => ?_⟩
    cases he
    exact h w.files e (congrArg Prod.snd hwritten)

theorem saveFigure {refuse : LibraryFault → ε} {figure : Figure}
    (hdraw : ∀ e, host.draw figure = some e → Q (refuse e))
    (hwrite : ∀ (t : FileTree) e, t.write figure.file [] = .error e → Q (wrap e)) :
    FailsFor host Q (Session.saveFigure wrap refuse figure) := by
  refine get fun w hw => ?_
  rw [hw]
  cases hdrawn : host.draw figure with
  | some e => exact throw (hdraw e hdrawn)
  | none => exact (changeFiles hwrite).bind fun _ => of_ok (fun _ => rfl) fun _ => rfl

end FailsFor

/-! ## Work in two worlds -/

/-- Work that comes to the same result in two worlds of a relation and keeps the relation, whether
it gives a result or fails. -/
def Carries (R : World → World → Prop) (work : Session ε α) : Prop :=
  ∀ v w, R v w → (result work w).1 = (result work v).1 ∧ R (result work v).2 (result work w).2

namespace Carries

variable {R : World → World → Prop} {work : Session ε α}

theorem bind {f : α → Session ε β} (hwork : Carries R work) (hf : ∀ a, Carries R (f a)) :
    Carries R (work >>= f) := by
  intro v w hvw
  obtain ⟨hsame, hrelated⟩ := hwork v w hvw
  rw [result_bind, result_bind]
  rcases hv : result work v with ⟨e | a, v'⟩
  · rcases hw : result work w with ⟨e' | a', w'⟩
    · rw [hv, hw] at hsame hrelated
      obtain rfl := Except.error.inj hsame
      exact ⟨rfl, hrelated⟩
    · rw [hv, hw] at hsame
      cases hsame
  · rcases hw : result work w with ⟨e' | a', w'⟩
    · rw [hv, hw] at hsame
      cases hsame
    · rw [hv, hw] at hsame hrelated
      obtain rfl := Except.ok.inj hsame
      exact hf a' v' w' hrelated

theorem pure (a : α) : Carries R (Pure.pure a : Session ε α) := fun _ _ hvw => ⟨rfl, hvw⟩

theorem ofExcept (wrap : ε' → ε) (x : Except ε' α) : Carries R (Session.ofExcept wrap x) := by
  intro v w hvw
  rw [result_ofExcept, result_ofExcept]
  exact ⟨rfl, hvw⟩

theorem sayAll {records : Log}
    (h : ∀ v w, R v w → R { v with log := v.log ++ records } { w with log := w.log ++ records }) :
    Carries R (Session.sayAll records : Session ε Unit) :=
  fun v w hvw => ⟨rfl, h v w hvw⟩

theorem announce {progress : List Nat}
    (h : ∀ v w, R v w → R { v with progress := v.progress ++ progress }
      { w with progress := w.progress ++ progress }) :
    Carries R (Session.announce progress : Session ε Unit) :=
  fun v w hvw => ⟨rfl, h v w hvw⟩

/-- Worlds with the same clock read the same from it. -/
theorem readClock {interrupted : ε} (hclock : ∀ v w, R v w → w.clock = v.clock)
    (h : ∀ v w, R v w → R (afterReading v) (afterReading w)) :
    Carries R (Session.readClock interrupted) := by
  intro v w hvw
  rw [result_readClock, result_readClock, nextReading_congr (hclock v w hvw)]
  exact ⟨rfl, h v w hvw⟩

/-- A change is made in both worlds, or it is refused in both for the same reason. -/
theorem changeFiles {wrap : FileFault → ε} {change : FileTree → Except FileFault FileTree}
    (h : ∀ v w, R v w → (∃ t t', change v.files = .ok t ∧ change w.files = .ok t'
        ∧ R { v with files := t } { w with files := t' })
      ∨ ∃ e, change v.files = .error e ∧ change w.files = .error e) :
    Carries R (Session.changeFiles wrap change) := by
  intro v w hvw
  rw [result_changeFiles, result_changeFiles]
  rcases h v w hvw with ⟨t, t', ht, ht', hrelated⟩ | ⟨e, he, he'⟩
  · rw [ht, ht']
    exact ⟨rfl, hrelated⟩
  · rw [he, he']
    exact ⟨rfl, hvw⟩

end Carries

end PhaseSplit.Session
