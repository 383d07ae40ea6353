import IntentSelect.CommandLine.Arguments
import IntentSelect.Proofs.Successes

/-! # Malformed entries

A malformed entry is refused, whatever follows it (`MalformedFlag.refuses_ofArguments`), even if
that is a request for help.  An entry that is attached to its option is looked at with it.  One that
is the next argument is looked at only when the argument after it is taken, so what is kept until
then is that it will be refused (`Draft.Spoiled`): every argument but `--` settles what is pending
or is refused itself.
-/
namespace IntentSelect.CommandLine
variable {before flag after : List String}

/-- Reading ends with a refusal. -/
def Refuses {α : Type} (x : Except Stop α) : Prop := ∃ e, x = .error (.refused e)

theorem Refuses.bind {α β : Type} {x : Except Stop α} (h : Refuses x) (f : α → Except Stop β) :
    Refuses (x >>= f) := by
  obtain ⟨e, rfl⟩ := h
  exact ⟨e, rfl⟩

/-- The options whose values are entries. -/
def Opt.TakesEntry (o : Opt) : Prop := o = .metadata ∨ o = .state ∨ o = .toolArg

/-- An option with a malformed entry: attached to it, or as the next argument, which must not look
like an option then. -/
inductive MalformedFlag : List String → Prop where
  | attached {name raw : String} {o : Opt} {fault : EntryFault}
      (hname : longNames.lookup name = some (.opt o)) (ho : o.TakesEntry)
      (hraw : readEntry raw = .error fault) : MalformedFlag ["--" ++ name ++ "=" ++ raw]
  | separate {name raw : String} {o : Opt} {fault : EntryFault}
      (hname : longNames.lookup name = some (.opt o)) (ho : o.TakesEntry)
      (hraw : readEntry raw = .error fault) (hplain : ∀ c cs, raw.toList ≠ '-' :: c :: cs) :
      MalformedFlag ["--" ++ name, raw]

/-! ## While arguments are read -/

namespace Draft
variable {d d' : Draft} {o : Opt} {raw name : String} {fault : EntryFault}

theorem refuses_setOpt (ho : o.TakesEntry) (hraw : readEntry raw = .error fault) :
    Refuses (d.setOpt o raw) := by
  have hentry : ∀ before, addEntry before o raw = refuse (.invalidEntry raw o fault) := by
    intro before
    rw [addEntry, hraw]
  refine ⟨.invalidEntry raw o fault, ?_⟩
  rcases ho with rfl | rfl | rfl <;> simp only [setOpt, hentry] <;> rfl

/-- A part of what is understood is refused or replaced. -/
theorem refuses_or_ok {α : Type} {x : Except Stop α} {f : α → Draft}
    (hx : Refuses x ∨ ∃ y, x = .ok y) (hf : ∀ y, (f y).onlyInput = d.onlyInput) :
    Refuses (x >>= fun y => pure (f y)) ∨
      ∃ d', (x >>= fun y => pure (f y)) = .ok d' ∧ d'.onlyInput = d.onlyInput := by
  rcases hx with hx | ⟨y, rfl⟩
  · exact .inl (hx.bind _)
  · exact .inr ⟨f y, rfl, hf y⟩

theorem setOpt_cases (d : Draft) (o : Opt) (raw : String) : Refuses (d.setOpt o raw) ∨
    ∃ d', d.setOpt o raw = .ok d' ∧ d'.onlyInput = d.onlyInput := by
  have hpath : ∀ before,
      Refuses (setPath before o raw) ∨ ∃ path, setPath before o raw = .ok path := by
    intro before
    unfold setPath
    split
    · exact .inl ⟨_, rfl⟩
    · split
      · exact .inl ⟨_, rfl⟩
      · exact .inr ⟨_, rfl⟩
  have hentry : ∀ before,
      Refuses (addEntry before o raw) ∨ ∃ entries, addEntry before o raw = .ok entries := by
    intro before
    unfold addEntry
    split
    · exact .inr ⟨_, rfl⟩
    · exact .inl ⟨_, rfl⟩
  cases o with
  | experiences => exact refuses_or_ok (hpath _) fun _ => rfl
  | config => exact refuses_or_ok (hpath _) fun _ => rfl
  | metadata => exact refuses_or_ok (hentry _) fun _ => rfl
  | state => exact refuses_or_ok (hentry _) fun _ => rfl
  | toolArg => exact refuses_or_ok (hentry _) fun _ => rfl

theorem settle_cases (d : Draft) : Refuses d.settle ∨
    ∃ d', d.settle = .ok d' ∧ d'.onlyInput = d.onlyInput := by
  unfold settle
  split
  · exact .inr ⟨d, rfl, rfl⟩
  · exact .inl ⟨_, rfl⟩
  · exact setOpt_cases { d with pending := .none } _ _

/-- A malformed entry waits to be looked at. -/
def Spoiled (d : Draft) : Prop :=
  ∃ o raw fault, d.pending = .holds o raw ∧ o.TakesEntry ∧ readEntry raw = .error fault

namespace Spoiled

theorem settle (h : d.Spoiled) : Refuses d.settle := by
  obtain ⟨o, raw, fault, hpending, ho, hraw⟩ := h
  rw [Draft.settle, hpending]
  exact refuses_setOpt ho hraw

theorem setSwitch (h : d.Spoiled) (s : Switch) : Refuses (d.setSwitch s) := h.settle.bind _

theorem beginOpt (h : d.Spoiled) (o : Opt) (attached : Option String) :
    Refuses (d.beginOpt o attached) := h.settle.bind _

theorem takeLong (h : d.Spoiled) (text : List Char) : Refuses (d.takeLong text) := by
  unfold Draft.takeLong
  simp only
  split
  · exact ⟨_, rfl⟩
  · exact h.beginOpt _ _
  · split
    · exact ⟨_, rfl⟩
    · exact h.setSwitch _

theorem takeShort (h : d.Spoiled) (c : Char) (rest : List Char) :
    Refuses (d.takeShort (c :: rest)) := by
  rw [Draft.takeShort]
  split
  · exact ⟨_, rfl⟩
  · exact h.beginOpt _ _
  · exact (h.setSwitch _).bind _

theorem takeInput (h : d.Spoiled) (text : String) : Refuses (d.takeInput text) := by
  unfold Draft.takeInput
  split
  · exact ⟨_, rfl⟩
  · exact h.settle.bind _

/-- Only `--` is taken before the entry is looked at. -/
theorem take (h : d.Spoiled) (argument : String) :
    Refuses (d.take argument) ∨ ∃ d', d.take argument = .ok d' ∧ d'.Spoiled := by
  unfold Draft.take
  split
  · exact .inl (h.takeInput argument)
  · split
    · exact .inr ⟨_, rfl, h⟩
    · exact .inl (h.takeLong _)
    · exact .inl (h.takeShort _ _)
    · -- no option waits for the argument: the one that is pending has its value
      obtain ⟨o, raw, fault, hpending, ho, hraw⟩ := h
      rw [hpending]
      exact .inl (takeInput ⟨o, raw, fault, hpending, ho, hraw⟩ argument)

/-- Whatever follows, the entry is refused in the end. -/
theorem refuses_rest (h : d.Spoiled) (after : List String) :
    Refuses (after.foldlM Draft.take d >>= finish) := by
  induction after generalizing d with
  | nil => exact h.settle.bind _
  | cons argument after ih =>
    rw [List.foldlM_cons]
    rcases h.take argument with hrefuses | ⟨d', htake, hspoiled⟩
    · exact (hrefuses.bind _).bind _
    · rw [htake]
      exact ih hspoiled

end Spoiled

end Draft

/-! ## How a flag is read -/

theorem splitAtEquals_append {cs : List Char} (h : '=' ∉ cs) (rest : List Char) :
    splitAtEquals (cs ++ '=' :: rest) = some (cs, rest) := by
  induction cs with
  | nil => rfl
  | cons c cs ih =>
    obtain ⟨hc, hcs⟩ := not_or.mp (mt List.mem_cons.mpr h)
    rw [List.cons_append, splitAtEquals, if_neg (Ne.symm hc), ih hcs]
    rfl

theorem splitAtEquals_eq_none {cs : List Char} (h : '=' ∉ cs) : splitAtEquals cs = none := by
  induction cs with
  | nil => rfl
  | cons c cs ih =>
    obtain ⟨hc, hcs⟩ := not_or.mp (mt List.mem_cons.mpr h)
    rw [splitAtEquals, if_neg (Ne.symm hc), ih hcs]
    rfl

theorem longNames_plain : ∀ p ∈ longNames, p.1.toList ≠ [] ∧ '=' ∉ p.1.toList := by decide

theorem plain_of_lookup {name : String} {known : Known}
    (h : longNames.lookup name = some known) : name.toList ≠ [] ∧ '=' ∉ name.toList := by
  obtain ⟨before, after, hsplit, -⟩ := List.lookup_eq_some_iff.mp h
  exact longNames_plain (name, known) (by simp [hsplit])

namespace Draft
variable {d d' : Draft} {o : Opt} {raw name argument : String} {fault : EntryFault}
  {text : List Char}

theorem take_long (htext : argument.toList = '-' :: '-' :: text) (hne : text ≠ [])
    (hd : d.onlyInput = false) : d.take argument = d.takeLong text := by
  obtain ⟨c, cs, rfl⟩ := List.exists_cons_of_ne_nil hne
  simp [take, hd, htext]

/-- An option with its value attached. -/
theorem take_attached (hname : longNames.lookup name = some (.opt o))
    (hd : d.onlyInput = false) :
    d.take ("--" ++ name ++ "=" ++ raw) = d.beginOpt o (some raw) := by
  obtain ⟨-, hplain⟩ := plain_of_lookup hname
  have htext : ("--" ++ name ++ "=" ++ raw).toList =
      '-' :: '-' :: (name.toList ++ '=' :: raw.toList) := by simp
  rw [take_long htext (by simp) hd]
  simp only [takeLong, splitAtEquals_append hplain, String.ofList_toList, hname]

/-- An option whose value is to follow. -/
theorem take_separate (hname : longNames.lookup name = some (.opt o))
    (hd : d.onlyInput = false) : d.take ("--" ++ name) = d.beginOpt o none := by
  obtain ⟨hne, hplain⟩ := plain_of_lookup hname
  have htext : ("--" ++ name).toList = '-' :: '-' :: name.toList := by simp
  rw [take_long htext hne hd]
  simp only [takeLong, splitAtEquals_eq_none hplain, String.ofList_toList, hname]

/-- A text that does not look like an option is the value of an option that waits for one. -/
theorem take_value (hplain : ∀ c cs, raw.toList ≠ '-' :: c :: cs) (hd : d.onlyInput = false)
    (hpending : d.pending = .awaits o) : d.take raw = .ok { d with pending := .holds o raw } := by
  unfold take
  rw [if_neg (by simp [hd])]
  split
  · next h => exact absurd h (hplain _ _)
  · next h => exact absurd h (hplain _ _)
  · next h => exact absurd h (hplain _ _)
  · rw [hpending]

end Draft

/-- A malformed entry is refused. -/
theorem MalformedFlag.refuses_rest (hflag : MalformedFlag flag) {d : Draft}
    (hd : d.onlyInput = false) (after : List String) :
    Refuses ((flag ++ after).foldlM Draft.take d >>= Draft.finish) := by
  cases hflag with
  | @attached name raw o fault hname ho hraw =>
    have hrefuses : Refuses (d.take ("--" ++ name ++ "=" ++ raw)) := by
      rw [Draft.take_attached hname hd, Draft.beginOpt]
      -- what was pending before is refused itself, or else the entry is
      rcases d.settle_cases with hsettle | ⟨d', hsettle, -⟩
      · exact hsettle.bind _
      · rw [hsettle]
        exact Draft.refuses_setOpt ho hraw
    exact (hrefuses.bind _).bind _
  | @separate name raw o fault hname ho hraw hplain =>
    rw [List.cons_append, List.foldlM_cons, Draft.take_separate hname hd, Draft.beginOpt]
    rcases d.settle_cases with hsettle | ⟨d', hsettle, honly⟩
    · exact ((hsettle.bind _).bind _).bind _
    · -- the option waits for the entry, which then waits to be looked at
      have hvalue : Draft.take { d' with pending := .awaits o } raw =
          .ok { d' with pending := .holds o raw } :=
        Draft.take_value hplain (honly.trans hd) rfl
      have hspoiled : Draft.Spoiled { d' with pending := .holds o raw } :=
        ⟨o, raw, fault, rfl, ho, hraw⟩
      rw [hsettle, ok_bind]
      simp only [pure, Except.pure, ok_bind]
      rw [List.cons_append, List.nil_append, List.foldlM_cons, hvalue]
      exact hspoiled.refuses_rest after

/-- After arguments that have been understood a malformed entry is refused, whatever follows. -/
theorem MalformedFlag.refuses_ofArguments (hflag : MalformedFlag flag) {d : Draft}
    (hbefore : before.foldlM Draft.take {} = .ok d) (hd : d.onlyInput = false)
    (after : List String) : Refuses (Request.ofArguments (before ++ flag ++ after)) := by
  have hsplit : Request.ofArguments (before ++ flag ++ after) =
      ((flag ++ after).foldlM Draft.take d >>= Draft.finish) := by
    rw [Request.ofArguments, List.append_assoc, List.foldlM_append, hbefore]
    rfl
  rw [hsplit]
  exact hflag.refuses_rest hd after

end IntentSelect.CommandLine
