import Mathlib.Tactic
import PhaseSplit.Command.Run
import PhaseSplit.Proofs.Except

/-!
# When a page of help is shown

What is said of an option is a template only where it names the unit of time of the settings.  So
all pages can be made but that of a split, and this one can be made for every unit without a percent
sign.  A page that has been made is shown unless the output refuses its text.

* `CommandPage.page_eq_error_iff`, `CommandPage.percent_mem_of_expand`: the page that cannot be made;
* `PageFault.Cause`: why a page is not shown;
* `showPage_cases`: how the program ends where it shows a page.
-/

namespace PhaseSplit

/-- A section of options cannot be made where one of them has nothing to be said of it. -/
theorem OptionTable.exists_of_helpSection {κ : Type} {table : OptionTable κ} {form : κ → OptionForm}
    {words : κ → Except Template.Fault Text} {e : Template.Fault}
    (h : table.helpSection form words = .error e) : ∃ spec ∈ table, words spec.key = .error e := by
  rcases bind_eq_error_iff.1 h with h | ⟨entries, -, h⟩
  · obtain ⟨spec, hspec, h⟩ := exists_of_mapM_eq_error h
    rcases bind_eq_error_iff.1 h with h | ⟨words, -, h⟩
    · exact ⟨spec, hspec, h⟩
    · cases h
  · cases h

namespace CommandPage

variable {settings : Settings} {page : CommandPage} {address : Text} {e : Template.Fault}

/-- Nothing can be said of an option of a split only if it is the unit of time. -/
theorem expand_of_splitWords {o : Invocation.SplitOption}
    (h : splitWords settings address o = .error e) :
    Template.expand (unitValues settings address) (unitTemplate settings) = .error e := by
  cases o with
  | timeUnit => exact h
  | _ => cases h

/-- No page but that of a split cannot be made. -/
theorem expand_of_page (h : page.page settings address = .error e) :
    page = .split
      ∧ Template.expand (unitValues settings address) (unitTemplate settings) = .error e := by
  cases page with
  | split =>
    rcases bind_eq_error_iff.1 h with h | ⟨options, -, h⟩
    · obtain ⟨spec, -, hwords⟩ := OptionTable.exists_of_helpSection h
      exact ⟨rfl, expand_of_splitWords hwords⟩
    · cases h
  | _ =>
    rcases bind_eq_error_iff.1 h with h | ⟨options, -, h⟩
    · obtain ⟨spec, -, hwords⟩ := OptionTable.exists_of_helpSection h
      cases hwords
    · cases h

/-- **The page of a split** cannot be made exactly if nothing can be said of the unit of time; all
other pages can be made. -/
theorem page_eq_error_iff :
    page.page settings address = .error e
      ↔ page = .split
        ∧ Template.expand (unitValues settings address) (unitTemplate settings) = .error e := by
  refine ⟨expand_of_page, ?_⟩
  rintro ⟨rfl, h⟩
  cases hpage : split.page settings address with
  | error e' =>
    obtain ⟨-, hexpand⟩ := expand_of_page hpage
    rw [Except.error.inj (hexpand.symm.trans h)]
  | ok p =>
    -- a page that has been made has an entry for the unit of time
    obtain ⟨options, hoptions, -⟩ := bind_eq_ok_iff.1 hpage
    obtain ⟨entries, hentries, -⟩ := bind_eq_ok_iff.1 hoptions
    have hunit : Invocation.optionSpec .timeUnit ["-u", "--time-unit"] true
        ∈ Invocation.splitOptions := by simp [Invocation.splitOptions]
    obtain ⟨entry, hentry⟩ := exists_mapM_eq_ok_iff.1 ⟨entries, hentries⟩ _ hunit
    obtain ⟨words, hwords, -⟩ := bind_eq_ok_iff.1 hentry
    cases h.symm.trans hwords

/-- The bracket after a lone percent sign is no form of a field. -/
example : split.page ⟨Text.lit "%", 2, 10000⟩ [] = .error (.unknownForm (.char ')') 21) :=
  page_eq_error_iff.2 ⟨rfl, by decide +kernel⟩

/-- A unit without a percent sign stands as it is. -/
theorem percent_mem_of_expand
    (h : Template.expand (unitValues settings address) (unitTemplate settings) = .error e) :
    Template.percent ∈ settings.timeUnit := by
  by_contra hunit
  have htemplate : Template.percent ∉ unitTemplate settings := by
    unfold unitTemplate
    rw [List.mem_append, List.mem_append, not_or, not_or]
    exact ⟨⟨by decide, hunit⟩, by decide⟩
  rw [Template.expand_of_not_mem htemplate] at h
  cases h

end CommandPage

/-! ## Pages that are not shown -/

/-- What makes a page of help that is not shown: the unit of time in what is said of the options of
a split, or the output of the machine. -/
inductive PageFault.Cause (settings : Settings) (host : Host) (page : CommandPage) :
    PageFault → Prop
  | template (e : Template.Fault) (hpage : page = .split)
      (hunit : Template.percent ∈ settings.timeUnit)
      (h : Template.expand (CommandPage.unitValues settings host.address)
        (CommandPage.unitTemplate settings) = .error e) :
    Cause settings host page (.template e)
  | output (words : Text) (p : HelpPage) (hpage : page.page settings host.address = .ok p)
      (h : host.outputFault (textOfLines (p.lines (host.columns - CommandPage.margin)))
        = some words) :
    Cause settings host page (.output words)

section

variable {settings : Settings} {host : Host} {page : CommandPage} {e : PageFault}

/-- **Why a page is not shown.** -/
theorem CommandPage.help_cause (h : page.help settings host = .error e) :
    e.Cause settings host page := by
  rcases bind_eq_error_iff.1 h with h | ⟨p, hp, h⟩
  · obtain ⟨f, hf, rfl⟩ := mapError_eq_error_iff.1 h
    obtain ⟨rfl, hexpand⟩ := CommandPage.page_eq_error_iff.1 hf
    exact .template f rfl (CommandPage.percent_mem_of_expand hexpand) hexpand
  · dsimp only at h
    split at h
    · next words hwords =>
      cases h
      exact .output words p (mapError_eq_ok_iff.1 hp) hwords
    · cases h

/-- The program ends with this status after it has shown a page, or with a fault that leaves it. -/
theorem showPage_cases (settings : Settings) (page : CommandPage) (code : Nat) (verbose : Bool)
    (world : World) :
    (∃ text, page.help settings world.host = .ok text
        ∧ showPage settings page code verbose world = ⟨.status code, text, [], verbose, world⟩)
      ∨ ∃ e, e.Cause settings world.host page
        ∧ showPage settings page code verbose world
          = ⟨.fault (.choice (.page e)), [], [], verbose, world⟩ := by
  unfold showPage
  cases hhelp : page.help settings world.host with
  | ok text => exact .inl ⟨text, rfl, rfl⟩
  | error e => exact .inr ⟨e, CommandPage.help_cause hhelp, rfl⟩

end

end PhaseSplit
