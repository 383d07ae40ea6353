import IntentSelect.Proofs.MalformedEntries

/-! # The entries of a request

The entries that a request has for an option are those that its arguments give, in their order.
What the arguments give is found without reading them one after the other: the texts attached to the
option and the arguments right after it, up to `--` (`textsGiven`).

While arguments are read, a text may have been given that is not looked at yet, or may still have to
follow.  `Draft.Given` says of which texts the entries so far have been read, one of them pending
perhaps, and whether the next argument belongs to the option.  Every argument keeps it
(`Draft.Given.take`), so it holds in the end (`Request.mapM_textsGiven`).  An option that waits for
a value gets the next argument or is refused, so no argument is taken for an option that is the
value of another one.
-/
namespace IntentSelect.CommandLine

open Json

/-! ## What arguments give -/

/-- The text attached to the option of a name. -/
def attachedText? (name argument : String) : Option String :=
  (("--" ++ name ++ "=").toList.isPrefixOf? argument.toList).map String.ofList

/-- The texts that arguments give for the option of a name: those attached to it and the arguments
right after it.  After `--` there are none.  The option itself stands right before the arguments if
`awaited`. -/
def textsGiven (name : String) : (awaited : Bool) → List String → List String
  | _, [] => []
  | true, raw :: rest => raw :: textsGiven name false rest
  | false, argument :: rest =>
    if argument = "--" then []
    else if argument = "--" ++ name then textsGiven name true rest
    else (attachedText? name argument).toList ++ textsGiven name false rest

section Texts
variable {name argument raw : String} {text cs before after : List Char} {o : Opt} {known : Known}

theorem attachedText?_eq_some_iff :
    attachedText? name argument = some raw ↔ argument = "--" ++ name ++ "=" ++ raw := by
  unfold attachedText?
  rw [Option.map_eq_some_iff]
  constructor
  · rintro ⟨cs, hcs, rfl⟩
    rw [List.isPrefixOf?_eq_some_iff_append_eq] at hcs
    exact String.toList_injective (by simpa using hcs.symm)
  · rintro rfl
    exact ⟨raw.toList, by simp [List.isPrefixOf?_eq_some_iff_append_eq], String.ofList_toList⟩

theorem splitAtEquals_eq_some_iff :
    splitAtEquals cs = some (before, after) ↔ cs = before ++ '=' :: after ∧ '=' ∉ before := by
  constructor
  · intro h
    induction cs generalizing before with
    | nil => cases h
    | cons c cs ih =>
      rw [splitAtEquals] at h
      split at h
      · next hc =>
        cases h
        exact ⟨by rw [hc]; rfl, List.not_mem_nil⟩
      · next hc =>
        obtain ⟨⟨before', after'⟩, hsplit, heq⟩ := Option.map_eq_some_iff.mp h
        cases heq
        obtain ⟨rfl, hplain⟩ := ih hsplit
        refine ⟨rfl, fun hmem => ?_⟩
        rcases List.mem_cons.mp hmem with heq | hmem
        · exact hc heq.symm
        · exact hplain hmem
  · rintro ⟨rfl, hplain⟩
    exact splitAtEquals_append hplain after

theorem splitAtEquals_eq_none_iff : splitAtEquals cs = none ↔ '=' ∉ cs := by
  refine ⟨fun h hmem => ?_, splitAtEquals_eq_none⟩
  obtain ⟨before, after, rfl, hplain⟩ := List.eq_append_cons_of_mem hmem
  rw [splitAtEquals_append hplain] at h
  cases h

/-- An option or a switch with two dashes, and what is attached to it. -/
def longArgument (name : String) : (attached : Option String) → String
  | none => "--" ++ name
  | some raw => "--" ++ name ++ "=" ++ raw

theorem longArgument_inj {name' : String} {attached attached' : Option String}
    (hname : '=' ∉ name.toList) (hname' : '=' ∉ name'.toList)
    (h : longArgument name' attached' = longArgument name attached) :
    name' = name ∧ attached' = attached := by
  have hlist := congrArg String.toList h
  cases attached' with
  | none =>
    cases attached with
    | none =>
      simp only [longArgument, String.toList_append, List.append_cancel_left_eq] at hlist
      exact ⟨String.toList_injective hlist, rfl⟩
    | some raw =>
      refine absurd ?_ hname'
      simp only [longArgument, String.toList_append, List.append_assoc,
        List.append_cancel_left_eq] at hlist
      simp [hlist]
  | some raw' =>
    cases attached with
    | none =>
      refine absurd ?_ hname
      simp only [longArgument, String.toList_append, List.append_assoc,
        List.append_cancel_left_eq] at hlist
      simp [← hlist]
    | some raw =>
      simp only [longArgument, String.toList_append, List.append_assoc,
        List.append_cancel_left_eq] at hlist
      have hsplit := congrArg splitAtEquals hlist
      have hsign : "=".toList = ['='] := rfl
      rw [hsign, List.singleton_append, List.singleton_append, splitAtEquals_append hname',
        splitAtEquals_append hname] at hsplit
      obtain ⟨hsame, hsame'⟩ := Prod.mk.inj (Option.some.inj hsplit)
      exact ⟨String.toList_injective hsame, congrArg some (String.toList_injective hsame')⟩

/-- No two names stand for the same. -/
theorem name_eq_of_lookup {name' : String} (h : longNames.lookup name = some known)
    (h' : longNames.lookup name' = some known) : name' = name := by
  have hunique : ∀ p ∈ longNames, ∀ q ∈ longNames, p.2 = q.2 → q.1 = p.1 := by decide
  obtain ⟨_, _, hsplit, -⟩ := List.lookup_eq_some_iff.mp h
  obtain ⟨_, _, hsplit', -⟩ := List.lookup_eq_some_iff.mp h'
  exact hunique (name, known) (by simp [hsplit]) (name', known) (by simp [hsplit']) rfl

/-- No letter stands for an option that takes entries. -/
theorem not_takesEntry_of_shortNames {c : Char}
    (h : shortNames.lookup c = some (.opt o)) : ¬ o.TakesEntry := by
  have hpaths : ∀ p ∈ shortNames, p.2 ≠ .opt .metadata ∧ p.2 ≠ .opt .state ∧
      p.2 ≠ .opt .toolArg := by decide
  obtain ⟨_, _, hsplit, -⟩ := List.lookup_eq_some_iff.mp h
  have hpath := hpaths (c, .opt o) (by simp [hsplit])
  rintro (rfl | rfl | rfl)
  · exact hpath.1 rfl
  · exact hpath.2.1 rfl
  · exact hpath.2.2 rfl

/-- An argument that neither is the option nor has something attached to it gives nothing. -/
theorem textsGiven_other (hend : argument ≠ "--")
    (hother : ∀ attached, argument ≠ longArgument name attached) (rest : List String) :
    textsGiven name false (argument :: rest) = textsGiven name false rest := by
  have hattached : attachedText? name argument = none :=
    Option.eq_none_iff_forall_ne_some.mpr fun raw hraw =>
      hother (some raw) (attachedText?_eq_some_iff.mp hraw)
  have hname : argument ≠ "--" ++ name := hother none
  rw [textsGiven, if_neg hend, if_neg hname, hattached]
  rfl

theorem toList_longArgument (name : String) (attached : Option String) :
    ∃ text, (longArgument name attached).toList = '-' :: '-' :: (name.toList ++ text) := by
  cases attached with
  | none => exact ⟨[], by simp [longArgument]⟩
  | some raw => exact ⟨'=' :: raw.toList, by simp [longArgument]⟩

/-- In particular an argument that does not begin with two dashes. -/
theorem textsGiven_plain (hplain : ∀ text, argument.toList ≠ '-' :: '-' :: text)
    (rest : List String) :
    textsGiven name false (argument :: rest) = textsGiven name false rest := by
  refine textsGiven_other ?_ ?_ rest
  · rintro rfl
    exact hplain [] rfl
  · rintro attached rfl
    obtain ⟨text, htext⟩ := toList_longArgument name attached
    exact hplain _ htext

theorem longArgument_ne_end (hname : longNames.lookup name = some known)
    (attached : Option String) : longArgument name attached ≠ "--" := by
  intro heq
  obtain ⟨text, htext⟩ := toList_longArgument name attached
  rw [heq] at htext
  have hnil : name.toList ++ text = [] := (List.cons.inj (List.cons.inj htext).2).2.symm
  exact (plain_of_lookup hname).1 (List.append_eq_nil_iff.mp hnil).1

/-- What an argument with two dashes gives depends on its name and on what is attached to it. -/
theorem textsGiven_longArgument {name' : String} {known' : Known}
    (hname : longNames.lookup name = some known) (hname' : longNames.lookup name' = some known')
    (attached : Option String) (rest : List String) :
    textsGiven name false (longArgument name' attached :: rest) =
      (if known' = known then attached.toList else []) ++
        textsGiven name (attached.isNone && decide (known' = known)) rest := by
  by_cases hsame : known' = known
  · subst hsame
    obtain rfl := name_eq_of_lookup hname hname'
    rw [textsGiven, if_neg (longArgument_ne_end hname attached)]
    cases attached with
    | none => simp [longArgument]
    | some raw =>
      have hname : longArgument name' (some raw) ≠ "--" ++ name' := by
        intro heq
        have hplain := (plain_of_lookup hname).2
        have hnone : longArgument name' (some raw) = longArgument name' none := heq
        exact nomatch (longArgument_inj hplain hplain hnone).2
      have hattached : attachedText? name' (longArgument name' (some raw)) = some raw :=
        attachedText?_eq_some_iff.mpr rfl
      rw [if_neg hname, hattached]
      simp
  · have hother : ∀ attached', longArgument name' attached ≠ longArgument name attached' := by
      intro attached' heq
      obtain ⟨rfl, -⟩ :=
        longArgument_inj (plain_of_lookup hname).2 (plain_of_lookup hname').2 heq
      exact hsame (Option.some.inj (hname'.symm.trans hname))
    rw [textsGiven_other (longArgument_ne_end hname' attached) hother]
    simp [hsame]

end Texts

/-! ## While arguments are read -/

/-- The entries of an option. -/
def Draft.entries (d : Draft) : Opt → List (String × Value)
  | .metadata => d.metadata
  | .state => d.state
  | .toolArg => d.toolArgs
  | .experiences | .config => []

/-- The entries of an option. -/
def Request.entries (r : Request) : Opt → List (String × Value)
  | .metadata => r.metadata
  | .state => r.state
  | .toolArg => r.toolArgs
  | .experiences | .config => []

namespace Draft
variable {d d' : Draft} {o o' : Opt} {awaited : Bool} {texts : List String}
  {name raw argument : String} {attached : Option String} {text : List Char} {r : Request}

/-- The text that is pending for an option, if there is one. -/
def pendingTexts (d : Draft) (o : Opt) : List String :=
  match d.pending with
  | .holds o' raw => if o' = o then [raw] else []
  | _ => []

/-- The entries of an option are read from these texts. -/
def HasRead (d : Draft) (o : Opt) (texts : List String) : Prop :=
  List.Forall₂ (fun raw e => readEntry raw = .ok e) texts (d.entries o)

/-- The texts have been given for an option, whose entries are read from all of them but one that is
pending.  If `awaited`, the next argument is to be one more. -/
structure Given (d : Draft) (o : Opt) (awaited : Bool) (texts : List String) : Prop where
  read : ∃ settled, d.HasRead o settled ∧ texts = settled ++ d.pendingTexts o
  awaits : awaited = true ↔ d.pending = .awaits o

theorem addEntry_eq_ok_iff {before entries : List (String × Value)} :
    addEntry before o raw = .ok entries ↔ ∃ e, readEntry raw = .ok e ∧ entries = before ++ [e] := by
  unfold addEntry
  cases readEntry raw with
  | error fault => simp [refuse]
  | ok e => simp [eq_comm]

/-- An option that gets its value leaves everything else alone. -/
theorem setOpt_frame (hset : d.setOpt o' raw = .ok d') :
    d'.pending = d.pending ∧ d'.onlyInput = d.onlyInput ∧
      ∀ o, o' ≠ o → d'.entries o = d.entries o := by
  cases o' <;>
  · obtain ⟨_, -, heq⟩ := bind_eq_ok_iff.mp hset
    cases heq
    refine ⟨rfl, rfl, fun o hother => ?_⟩
    cases o <;> first | rfl | exact absurd rfl hother

/-- An option that takes entries has one more when it gets its value. -/
theorem exists_entry_of_setOpt (ho : o.TakesEntry) (hset : d.setOpt o raw = .ok d') :
    ∃ e, readEntry raw = .ok e ∧ d'.entries o = d.entries o ++ [e] := by
  rcases ho with rfl | rfl | rfl <;>
  · obtain ⟨entries, hadd, heq⟩ := bind_eq_ok_iff.mp hset
    obtain ⟨e, he, rfl⟩ := addEntry_eq_ok_iff.mp hadd
    cases heq
    exact ⟨e, he, rfl⟩

theorem HasRead.setOpt (h : d.HasRead o texts) (ho : o.TakesEntry)
    (hset : d.setOpt o' raw = .ok d') :
    d'.HasRead o (texts ++ if o' = o then [raw] else []) := by
  by_cases hsame : o' = o
  · subst hsame
    obtain ⟨e, he, hentries⟩ := exists_entry_of_setOpt ho hset
    rw [if_pos rfl, HasRead, hentries]
    exact List.rel_append h (.cons he .nil)
  · rw [if_neg hsame, List.append_nil, HasRead, (setOpt_frame hset).2.2 o hsame]
    exact h

/-- After an argument, the texts that have been given for an option are those from before and those
that the argument gives. -/
def Advanced (d' : Draft) (o : Opt) (name : String) (awaited : Bool) (texts : List String)
    (argument : String) : Prop :=
  ∃ awaited' new, d'.Given o awaited' (texts ++ new) ∧
    ∀ rest, textsGiven name awaited (argument :: rest) = new ++ textsGiven name awaited' rest

/-- Nothing is pending of an option, all of whose texts have been read. -/
structure Settled (d : Draft) (o : Opt) (texts : List String) : Prop where
  read : d.HasRead o texts
  pending : d.pending = .none

/-- **What is pending is settled**, unless a text is still to follow. -/
theorem Given.settle (h : d.Given o awaited texts) (ho : o.TakesEntry)
    (hsettle : d.settle = .ok d') :
    awaited = false ∧ d'.Settled o texts ∧ d'.onlyInput = d.onlyInput := by
  obtain rfl : awaited = false := by
    refine eq_false_of_ne_true fun hyes => ?_
    rw [Draft.settle, h.awaits.mp hyes] at hsettle
    cases hsettle
  obtain ⟨settled, hread, rfl⟩ := h.read
  refine ⟨rfl, ?_⟩
  unfold Draft.settle at hsettle
  unfold pendingTexts
  split at hsettle
  · next hpending =>
    cases hsettle
    rw [hpending, List.append_nil]
    exact ⟨⟨hread, hpending⟩, rfl⟩
  · cases hsettle
  · next o' raw hpending =>
    rw [hpending]
    obtain ⟨hpending', honly, -⟩ := setOpt_frame hsettle
    have hread' : HasRead { d with pending := .none } o settled := hread
    exact ⟨⟨hread'.setOpt ho hsettle, hpending'⟩, honly⟩

theorem Settled.given (h : d.Settled o texts) : d.Given o false texts := by
  refine ⟨⟨texts, h.read, ?_⟩, ?_⟩
  · rw [pendingTexts, h.pending, List.append_nil]
  · rw [h.pending]
    exact iff_of_false nofun nofun

/-- A run takes its first argument and goes on with the others. -/
theorem exists_take_of_run {arguments : List String}
    (hrun : (argument :: arguments).foldlM Draft.take d >>= Draft.finish = .ok r) :
    ∃ d', d.take argument = .ok d' ∧ arguments.foldlM Draft.take d' >>= Draft.finish = .ok r := by
  rw [List.foldlM_cons, bind_assoc] at hrun
  exact bind_eq_ok_iff.mp hrun

namespace Given

theorem setSwitch {s : Switch} (h : d.Given o awaited texts) (ho : o.TakesEntry)
    (hset : d.setSwitch s = .ok d') :
    awaited = false ∧ d'.Given o false texts ∧ d'.onlyInput = d.onlyInput := by
  obtain ⟨d₁, hsettle, hset⟩ := bind_eq_ok_iff.mp hset
  obtain ⟨hno, hsettled, honly⟩ := h.settle ho hsettle
  have hsame (hpending : d'.pending = d₁.pending) (hentries : d'.entries o = d₁.entries o)
      (honly' : d'.onlyInput = d₁.onlyInput) :
      awaited = false ∧ d'.Given o false texts ∧ d'.onlyInput = d.onlyInput := by
    have hsettled' : d'.Settled o texts :=
      ⟨by rw [HasRead, hentries]; exact hsettled.read, hpending.trans hsettled.pending⟩
    exact ⟨hno, hsettled'.given, honly'.trans honly⟩
  cases s with
  | json =>
    simp only at hset
    split at hset
    · cases hset
    · cases hset
      exact hsame rfl (by cases o <;> rfl) rfl
  | verbose =>
    simp only at hset
    split at hset
    · cases hset
    · cases hset
      exact hsame rfl (by cases o <;> rfl) rfl
  | help => cases hset
  | version => cases hset

/-- An option begins: its value is attached to it, or is to follow. -/
theorem beginOpt (h : d.Given o awaited texts) (ho : o.TakesEntry)
    (hbegin : d.beginOpt o' attached = .ok d') :
    awaited = false ∧ d'.onlyInput = d.onlyInput ∧
      d'.Given o (attached.isNone && decide (o' = o))
        (texts ++ if o' = o then attached.toList else []) := by
  obtain ⟨d₁, hsettle, hbegin⟩ := bind_eq_ok_iff.mp hbegin
  obtain ⟨hno, hsettled, honly⟩ := h.settle ho hsettle
  cases attached with
  | some raw =>
    obtain ⟨hpending, honly', -⟩ := setOpt_frame hbegin
    have hsettled' : d'.Settled o (texts ++ if o' = o then [raw] else []) :=
      ⟨hsettled.read.setOpt ho hbegin, hpending.trans hsettled.pending⟩
    exact ⟨hno, honly'.trans honly, hsettled'.given⟩
  | none =>
    cases hbegin
    refine ⟨hno, honly, ⟨texts, ?_, ?_⟩, ?_⟩
    · cases o <;> exact hsettled.read
    · simp [pendingTexts]
    · simp

theorem takeInput (h : d.Given o awaited texts) (ho : o.TakesEntry)
    (htake : d.takeInput argument = .ok d') :
    awaited = false ∧ d'.Given o false texts ∧ d'.onlyInput = d.onlyInput := by
  unfold Draft.takeInput at htake
  split at htake
  · cases htake
  · obtain ⟨d₁, hsettle, heq⟩ := bind_eq_ok_iff.mp htake
    obtain ⟨hno, hsettled, honly⟩ := h.settle ho hsettle
    cases heq
    have hsettled' : Settled { d₁ with input := some argument } o texts :=
      ⟨by cases o <;> exact hsettled.read, hsettled.pending⟩
    exact ⟨hno, hsettled'.given, honly⟩

/-- Letters stand for switches and for paths, so they give nothing. -/
theorem takeShort (h : d.Given o awaited texts) (ho : o.TakesEntry)
    (htake : d.takeShort text = .ok d') :
    (text ≠ [] → awaited = false) ∧ d'.Given o awaited texts ∧ d'.onlyInput = d.onlyInput := by
  induction text generalizing d awaited with
  | nil =>
    cases htake
    exact ⟨fun hne => absurd rfl hne, h, rfl⟩
  | cons c text ih =>
    rw [Draft.takeShort] at htake
    split at htake
    · cases htake
    · next o' hletter =>
      obtain ⟨rfl, honly, hgiven⟩ := h.beginOpt ho htake
      have hother : o' ≠ o := by
        rintro rfl
        exact not_takesEntry_of_shortNames hletter ho
      rw [decide_eq_false hother, Bool.and_false, if_neg hother, List.append_nil] at hgiven
      exact ⟨fun _ => rfl, hgiven, honly⟩
    · next s hletter =>
      obtain ⟨d₁, hset, htake⟩ := bind_eq_ok_iff.mp htake
      obtain ⟨rfl, hgiven, honly⟩ := h.setSwitch ho hset
      obtain ⟨-, hgiven', honly'⟩ := ih hgiven htake
      exact ⟨fun _ => rfl, hgiven', honly'.trans honly⟩

/-- An argument with two dashes has a name that is known and perhaps something attached to it. -/
theorem exists_of_takeLong (htext : argument.toList = '-' :: '-' :: text)
    (htake : d.takeLong text = .ok d') :
    ∃ name known attached, longNames.lookup name = some known ∧
      argument = longArgument name attached ∧
      ((∃ o', known = .opt o' ∧ d.beginOpt o' attached = .ok d') ∨
        ∃ s, known = .switch s ∧ attached = none ∧ d.setSwitch s = .ok d') := by
  have hargument : argument = "--" ++ String.ofList text :=
    String.toList_injective (by simp [htext])
  unfold Draft.takeLong at htake
  cases hsplit : splitAtEquals text with
  | none =>
    simp only [hsplit] at htake
    split at htake
    · cases htake
    · next o' hname => exact ⟨_, _, none, hname, hargument, .inl ⟨o', rfl, htake⟩⟩
    · next s hname => exact ⟨_, _, none, hname, hargument, .inr ⟨s, rfl, rfl, htake⟩⟩
  | some parts =>
    obtain ⟨rfl, -⟩ := splitAtEquals_eq_some_iff.mp hsplit
    have hargument : argument =
        longArgument (String.ofList parts.1) (some (String.ofList parts.2)) :=
      String.toList_injective (by simp [htext, longArgument])
    simp only [hsplit] at htake
    split at htake
    · cases htake
    · next o' hname => exact ⟨_, _, _, hname, hargument, .inl ⟨o', rfl, htake⟩⟩
    · cases htake

theorem takeLong (h : d.Given o awaited texts) (ho : o.TakesEntry)
    (hname : longNames.lookup name = some (.opt o)) (htext : argument.toList = '-' :: '-' :: text)
    (htake : d.takeLong text = .ok d') :
    d'.onlyInput = d.onlyInput ∧ d'.Advanced o name awaited texts argument := by
  obtain ⟨name', known, attached, hname', rfl, hknown⟩ := exists_of_takeLong htext htake
  rcases hknown with ⟨o', rfl, hbegin⟩ | ⟨s, rfl, rfl, hset⟩
  · obtain ⟨rfl, honly, hgiven⟩ := h.beginOpt ho hbegin
    refine ⟨honly, _, _, hgiven, fun rest => ?_⟩
    rw [textsGiven_longArgument hname hname']
    simp only [Known.opt.injEq]
  · obtain ⟨rfl, hgiven, honly⟩ := h.setSwitch ho hset
    refine ⟨honly, false, [], by rwa [List.append_nil], fun rest => ?_⟩
    rw [textsGiven_longArgument hname hname']
    simp

/-- An option that waits for a value gets it. -/
theorem takeValue (h : d.Given o awaited texts) (hpending : d.pending = .awaits o')
    (hplain : ∀ text, argument.toList ≠ '-' :: '-' :: text) :
    Advanced { d with pending := .holds o' argument } o name awaited texts argument := by
  obtain ⟨settled, hread, rfl⟩ := h.read
  have hawaits := h.awaits
  rw [pendingTexts, hpending, List.append_nil]
  rw [hpending] at hawaits
  have hread' : HasRead { d with pending := .holds o' argument } o settled := by
    cases o <;> exact hread
  by_cases hsame : o' = o
  · subst hsame
    obtain rfl := hawaits.mpr rfl
    refine ⟨false, [argument], ⟨⟨settled, hread', ?_⟩, iff_of_false nofun nofun⟩, fun rest => rfl⟩
    simp [pendingTexts]
  · obtain rfl : awaited = false := eq_false_of_ne_true fun hyes =>
      hsame (Pending.awaits.inj (hawaits.mp hyes))
    refine ⟨false, [], ⟨⟨settled, hread', ?_⟩, iff_of_false nofun nofun⟩, fun rest => ?_⟩
    · simp [pendingTexts, hsame]
    · rw [textsGiven_plain hplain, List.nil_append]

/-- **Every argument keeps what has been given**, and adds what it gives itself. -/
theorem take (h : d.Given o awaited texts) (ho : o.TakesEntry)
    (hname : longNames.lookup name = some (.opt o)) (honly : d.onlyInput = false)
    (htake : d.take argument = .ok d') :
    argument = "--" ∧ d' = { d with onlyInput := true } ∨
    d'.onlyInput = false ∧ d'.Advanced o name awaited texts argument := by
  have hnothing (hplain : ∀ text, argument.toList ≠ '-' :: '-' :: text)
      (hkept : awaited = false ∧ d'.Given o false texts ∧ d'.onlyInput = d.onlyInput) :
      d'.onlyInput = false ∧ d'.Advanced o name awaited texts argument := by
    obtain ⟨rfl, hgiven, hsame⟩ := hkept
    refine ⟨hsame.trans honly, false, [], by rwa [List.append_nil], fun rest => ?_⟩
    rw [textsGiven_plain hplain, List.nil_append]
  unfold Draft.take at htake
  rw [if_neg (ne_true_of_eq_false honly)] at htake
  split at htake
  · next hend =>
    cases htake
    exact .inl ⟨String.toList_injective hend, rfl⟩
  · next text _ htext =>
    obtain ⟨hsame, hgiven⟩ := h.takeLong ho hname htext htake
    exact .inr ⟨hsame.trans honly, hgiven⟩
  · next c text _ hlong htext =>
    obtain ⟨hno, hgiven, hsame⟩ := h.takeShort ho htake
    obtain rfl := hno (List.cons_ne_nil c text)
    refine .inr (hnothing (fun text' htext' => ?_) ⟨rfl, hgiven, hsame⟩)
    rw [htext] at htext'
    cases htext'
    exact hlong rfl
  · next hshort =>
    have hplain : ∀ text, argument.toList ≠ '-' :: '-' :: text := fun text => hshort '-' text
    refine .inr ?_
    split at htake
    · next o' hpending =>
      cases htake
      exact ⟨honly, h.takeValue hpending hplain⟩
    · exact hnothing hplain (h.takeInput ho htake)

/-- Once there are no more arguments, all texts have been read. -/
theorem finish (h : d.Given o awaited texts) (ho : o.TakesEntry) (hfinish : d.finish = .ok r) :
    awaited = false ∧ texts.mapM readEntry = .ok (r.entries o) := by
  obtain ⟨d₁, hsettle, hfinish⟩ := bind_eq_ok_iff.mp hfinish
  obtain ⟨hno, hsettled, -⟩ := h.settle ho hsettle
  split at hfinish
  · cases hfinish
  · cases hfinish
    refine ⟨hno, mapM_eq_ok_iff.mpr ?_⟩
    rcases ho with rfl | rfl | rfl <;> exact hsettled.read

/-- After `--` nothing more is given. -/
theorem run_onlyInput {arguments : List String} (h : d.Given o awaited texts) (ho : o.TakesEntry)
    (honly : d.onlyInput = true) (hrun : arguments.foldlM Draft.take d >>= Draft.finish = .ok r) :
    awaited = false ∧ texts.mapM readEntry = .ok (r.entries o) := by
  induction arguments generalizing d awaited with
  | nil => exact h.finish ho hrun
  | cons argument arguments ih =>
    obtain ⟨d', htake, hrest⟩ := exists_take_of_run hrun
    rw [Draft.take, if_pos honly] at htake
    obtain ⟨hno, hgiven, hsame⟩ := h.takeInput ho htake
    exact ⟨hno, (ih hgiven (hsame.trans honly) hrest).2⟩

/-- **All that is given is read, in its order.** -/
theorem run {arguments : List String} (h : d.Given o awaited texts) (ho : o.TakesEntry)
    (hname : longNames.lookup name = some (.opt o)) (honly : d.onlyInput = false)
    (hrun : arguments.foldlM Draft.take d >>= Draft.finish = .ok r) :
    (texts ++ textsGiven name awaited arguments).mapM readEntry = .ok (r.entries o) := by
  induction arguments generalizing d awaited texts with
  | nil =>
    rw [textsGiven, List.append_nil]
    exact (h.finish ho hrun).2
  | cons argument arguments ih =>
    obtain ⟨d', htake, hrest⟩ := exists_take_of_run hrun
    obtain ⟨rfl, rfl⟩ | ⟨honly', awaited', new, hgiven, hnew⟩ := h.take ho hname honly htake
    · -- an option that still waits for a text is refused in the end
      have hgiven : Given { d with onlyInput := true } o awaited texts := ⟨h.read, h.awaits⟩
      obtain ⟨rfl, hread⟩ := hgiven.run_onlyInput ho rfl hrest
      rwa [textsGiven, if_pos rfl, List.append_nil]
    · rw [hnew, ← List.append_assoc]
      exact ih hgiven honly' hrest

end Given

end Draft

/-- **The entries of a request are those that its arguments give.** -/
theorem Request.mapM_textsGiven {arguments : List String} {r : Request} {name : String} {o : Opt}
    (hname : longNames.lookup name = some (.opt o)) (ho : o.TakesEntry)
    (h : Request.ofArguments arguments = .ok r) :
    (textsGiven name false arguments).mapM readEntry = .ok (r.entries o) := by
  have hstart : Draft.Given {} o false [] := by
    refine ⟨⟨[], ?_, rfl⟩, iff_of_false nofun nofun⟩
    cases o <;> exact .nil
  exact hstart.run ho hname rfl h

end IntentSelect.CommandLine
