import IntentSelect.CommandLine.Run
import IntentSelect.Proofs.MalformedEntries
import IntentSelect.Proofs.Survivors

/-! # The status of a run

A run ends in one of five ways: a text about the program is asked for (`AsksForText`), the
arguments are refused (`IsRefused`), something cannot be loaded (`FailsToLoad`), a loaded
experience is selected (`Selects`), or nothing is (`SelectsNothing`).  The status is documented as
zero if an experience matched, two if none did and one on errors (`DocumentedStatus`).  It is so for
whatever is understood, but refused arguments have the status two as well: whoever calls the
program cannot tell by it whether nothing matched or nothing was looked for (`status_run`).
-/
namespace IntentSelect.CommandLine
variable {files : Storage} {arguments : List String} {r : Request} {config : Config}
  {catalog : Catalog}

/-! ## Outcomes -/

/-- The arguments are a request, and what it names can be loaded. -/
structure Accepted (files : Storage) (arguments : List String) (r : Request) (config : Config)
    (catalog : Catalog) : Prop where
  understood : Request.ofArguments arguments = .ok r
  configured : r.loadConfig files = .ok config
  loaded : ∃ count, (Catalog.empty.loadPath files r.experiences).result = .ok (count, catalog)

/-- The experience of a catalog that is selected for a request. -/
def Request.selected (r : Request) (config : Config) (catalog : Catalog) : Option Experience :=
  ((Selector.build [] config).result.best? r.context catalog.toList).result

/-- Everything is accepted, and a loaded experience is selected. -/
def Selects (files : Storage) (arguments : List String) : Prop :=
  ∃ r config catalog, Accepted files arguments r config catalog ∧
    ∃ e ∈ catalog.toList, r.selected config catalog = some e

/-- Everything is accepted, and nothing is selected. -/
def SelectsNothing (files : Storage) (arguments : List String) : Prop :=
  ∃ r config catalog, Accepted files arguments r config catalog ∧ r.selected config catalog = none

/-- The arguments are a request, but what it names cannot be loaded. -/
def FailsToLoad (files : Storage) (arguments : List String) : Prop :=
  ∃ r, Request.ofArguments arguments = .ok r ∧ ((∃ e, r.loadConfig files = .error e) ∨
    ∃ e, (Catalog.empty.loadPath files r.experiences).result = .error e)

/-- The arguments are refused. -/
def IsRefused (arguments : List String) : Prop := Refuses (Request.ofArguments arguments)

/-- The arguments ask for the help text or for the version. -/
def AsksForText (arguments : List String) : Prop :=
  Request.ofArguments arguments = .error .help ∨ Request.ofArguments arguments = .error .version

/-- The status that is documented for arguments that do not ask for a text: zero if an experience is
selected, two if none is, and one in every other case. -/
def DocumentedStatus (files : Storage) (arguments : List String) (status : Nat) : Prop :=
  (status = 0 ↔ Selects files arguments) ∧ (status = 2 ↔ SelectsNothing files arguments) ∧
    (status = 1 ↔ ¬ Selects files arguments ∧ ¬ SelectsNothing files arguments)

theorem outcomes (files : Storage) (arguments : List String) :
    AsksForText arguments ∨ IsRefused arguments ∨ FailsToLoad files arguments ∨
      Selects files arguments ∨ SelectsNothing files arguments := by
  cases hr : Request.ofArguments arguments with
  | error stop =>
    cases stop with
    | help => exact .inl (.inl hr)
    | version => exact .inl (.inr hr)
    | refused e => exact .inr (.inl ⟨e, hr⟩)
  | ok r =>
    refine .inr (.inr ?_)
    cases hconfig : r.loadConfig files with
    | error e => exact .inl ⟨r, hr, .inl ⟨e, hconfig⟩⟩
    | ok config =>
      cases hload : (Catalog.empty.loadPath files r.experiences).result with
      | error e => exact .inl ⟨r, hr, .inr ⟨e, hload⟩⟩
      | ok loaded =>
        obtain ⟨count, catalog⟩ := loaded
        have haccepted : Accepted files arguments r config catalog := ⟨hr, hconfig, count, hload⟩
        cases hbest : r.selected config catalog with
        | none => exact .inr (.inr ⟨r, config, catalog, haccepted, hbest⟩)
        | some e =>
          have hmem : e ∈ catalog.toList := (Selector.leader_of_best? hbest).mem
          exact .inr (.inl ⟨r, config, catalog, haccepted, e, hmem, hbest⟩)

/-! ## The status of each outcome -/

theorem AsksForText.status (h : AsksForText arguments) : (run files arguments).status = 0 := by
  rcases h with h | h <;> rw [run, h] <;> rfl

theorem IsRefused.status (h : IsRefused arguments) : (run files arguments).status = 2 := by
  obtain ⟨e, he⟩ := h
  rw [run, he]
  rfl

theorem FailsToLoad.status (h : FailsToLoad files arguments) :
    (run files arguments).status = 1 := by
  obtain ⟨r, hr, hfails⟩ := h
  rw [run, hr]
  simp only [Request.run]
  split
  · rfl
  · next config hconfig =>
    rcases hfails with ⟨e, he⟩ | ⟨e, he⟩
    · rw [hconfig] at he
      cases he
    · rw [he]

theorem Accepted.run_eq (h : Accepted files arguments r config catalog) :
    run files arguments = respond r config catalog := by
  obtain ⟨hr, hconfig, count, hload⟩ := h
  simp only [run, hr, Request.run, hconfig, hload]

theorem status_respond (r : Request) (config : Config) (catalog : Catalog) :
    (respond r config catalog).status =
      if (r.selected config catalog).isSome = true then 0 else 2 :=
  rfl

theorem Selects.status (h : Selects files arguments) : (run files arguments).status = 0 := by
  obtain ⟨r, config, catalog, haccepted, e, -, he⟩ := h
  rw [haccepted.run_eq, status_respond, he]
  rfl

theorem SelectsNothing.status (h : SelectsNothing files arguments) :
    (run files arguments).status = 2 := by
  obtain ⟨r, config, catalog, haccepted, hnone⟩ := h
  rw [haccepted.run_eq, status_respond, hnone]
  rfl

/-! ## Which outcome a status stands for -/

theorem IsRefused.not_selectsNothing (h : IsRefused arguments) :
    ¬ SelectsNothing files arguments := by
  rintro ⟨r, config, catalog, haccepted, -⟩
  obtain ⟨e, he⟩ := h
  rw [haccepted.understood] at he
  cases he

/-- **The status of a run.**  Zero stands for a text that is asked for and for an experience that is
selected, one for something that cannot be loaded, and two both for arguments that are refused and
for nothing that is selected.  So if no text is asked for, the status is as documented exactly if
the arguments are not refused.  A malformed entry in arguments that are understood so far is
refused, whatever follows it. -/
theorem status_run (files : Storage) :
    (∀ arguments,
      ((run files arguments).status = 0 ↔ AsksForText arguments ∨ Selects files arguments) ∧
      ((run files arguments).status = 2 ↔ IsRefused arguments ∨ SelectsNothing files arguments) ∧
      ((run files arguments).status = 1 ↔ FailsToLoad files arguments) ∧
      (¬ AsksForText arguments →
        (DocumentedStatus files arguments (run files arguments).status ↔
          ¬ IsRefused arguments))) ∧
    ∀ before d flag after, before.foldlM Draft.take {} = .ok d → d.onlyInput = false →
      MalformedFlag flag → (run files (before ++ flag ++ after)).status = 2 := by
  constructor
  · intro arguments
    have htext : AsksForText arguments → (run files arguments).status = 0 := AsksForText.status
    have hrefused : IsRefused arguments → (run files arguments).status = 2 := IsRefused.status
    have hfails : FailsToLoad files arguments → (run files arguments).status = 1 :=
      FailsToLoad.status
    have hselects : Selects files arguments → (run files arguments).status = 0 := Selects.status
    have hnothing : SelectsNothing files arguments → (run files arguments).status = 2 :=
      SelectsNothing.status
    have hambiguous : IsRefused arguments → ¬ SelectsNothing files arguments :=
      IsRefused.not_selectsNothing
    -- one of the outcomes is there, and what it says of the status settles the rest
    have houtcomes := outcomes files arguments
    unfold DocumentedStatus
    generalize (run files arguments).status = status at *
    grind
  · intro before d flag after hbefore hd hflag
    have hrefused : IsRefused (before ++ flag ++ after) :=
      hflag.refuses_ofArguments hbefore hd after
    exact hrefused.status

/-- No files at all. -/
def nothing : Storage := ⟨fun _ => .refused .notFound⟩

/-- An entry without a key, as the argument after its option, ends the program with the status two
although help is asked for after it; a request that is understood fails where nothing can be
loaded. -/
theorem status_run_blankKey :
    (run nothing ["hi", "--state", "=on", "--help"]).status = 2 ∧
    FailsToLoad nothing ["--state", "stage=on", "hi"] := by
  have hflag : MalformedFlag ["--state", "=on"] :=
    @MalformedFlag.separate "state" "=on" .state (.blankKey "=on") rfl (.inr (.inl rfl)) rfl
      (by simp)
  obtain ⟨houtcome, hmalformed⟩ := status_run nothing
  obtain ⟨-, -, hone, -⟩ := houtcome ["--state", "stage=on", "hi"]
  exact ⟨hmalformed ["hi"] { input := some "hi" } ["--state", "=on"] ["--help"] rfl rfl hflag,
    hone.mp rfl⟩

/-- A malformed entry is an error, but the status is two and not one as documented. -/
theorem not_documentedStatus_malformed :
    ¬ AsksForText ["--metadata", "lang", "hi"] ∧
    Request.ofArguments ["--metadata", "lang", "hi"] =
      .error (.refused (.invalidEntry "lang" .metadata (.noEquals "lang"))) ∧
    (run nothing ["--metadata", "lang", "hi"]).status = 2 ∧
    ¬ DocumentedStatus nothing ["--metadata", "lang", "hi"]
      (run nothing ["--metadata", "lang", "hi"]).status := by
  have hrefused : Request.ofArguments ["--metadata", "lang", "hi"] =
      .error (.refused (.invalidEntry "lang" .metadata (.noEquals "lang"))) := by rfl
  have hstatus : (run nothing ["--metadata", "lang", "hi"]).status = 2 :=
    IsRefused.status ⟨_, hrefused⟩
  refine ⟨?_, hrefused, hstatus, ?_⟩
  · rintro (h | h) <;> rw [hrefused] at h <;> cases h
  · rintro ⟨-, htwo, -⟩
    have hnothing : SelectsNothing nothing ["--metadata", "lang", "hi"] := htwo.mp hstatus
    exact IsRefused.not_selectsNothing ⟨_, hrefused⟩ hnothing

end IntentSelect.CommandLine
