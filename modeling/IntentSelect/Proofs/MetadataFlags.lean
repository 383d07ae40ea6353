import IntentSelect.Proofs.AcceptedTexts
import IntentSelect.Proofs.EqualTexts
import IntentSelect.Proofs.GivenEntries
import IntentSelect.Proofs.SelectionOutput

/-! # Metadata from the command line

The value of an entry is divided from its key, read as JSON or left as it is, stored under the key,
and shown as a text again when a condition compares it.  For the two kinds of values that people
give, the way there and back is the identity: a text that is no JSON document is stored and shown as
it stands, and the compact text of a value that is neither `null` nor a text is stored as the value,
which is shown as that text.  So a condition that asks for what stands behind the equals sign holds
(`metadata_flag_holds`).

The exceptions are in the hypotheses: a quoted text is shown without its quotes, `null` is not shown
at all, and a blank text is never equal to anything.
-/
namespace IntentSelect.CommandLine

open Json Text

/-! ## Reading an entry -/

section Entries
variable {k s raw : String} {v : Value} {texts : List String} {entries : List (String × Value)}

/-- The text is no JSON document, or the reader refuses it. -/
def StandsForItself (s : String) : Prop := ¬ IsJson s ∨ ∃ refusal, Value.parse s = .error refusal

/-- A text that stands for itself is stored as it is. -/
theorem StandsForItself.valueOf_eq (h : StandsForItself s) : valueOf s = .string s := by
  unfold valueOf
  split
  · next v hv =>
    rcases h with hjson | ⟨refusal, hrefused⟩
    · exact absurd (isJson_of_parse hv) hjson
    · cases hv.symm.trans hrefused
  · rfl

/-- The compact text of a value is read as the value. -/
theorem valueOf_compact (horder : v.Ordered) (hfloat : v.isFloatFree = true)
    (hdepth : v.depth ≤ 127) : valueOf v.compact = v := by
  have hcanonical : v.canonical = v := horder
  rw [valueOf, (isDocument_compact v).parse hfloat hdepth, hcanonical]

theorem readEntry_append (hkey : hasText k = true) (hplain : '=' ∉ k.toList) (s : String) :
    readEntry (k ++ "=" ++ s) = .ok (k, valueOf s) := by
  have hlist : (k ++ "=" ++ s).toList = k.toList ++ '=' :: s.toList := by simp
  unfold readEntry
  rw [hlist, splitAtEquals_append hplain]
  simp only [String.ofList_toList, if_pos hkey]

/-- An entry begins with its key and an equals sign. -/
theorem exists_append_of_readEntry (h : readEntry raw = .ok (k, v)) :
    ∃ s, raw = k ++ "=" ++ s := by
  unfold readEntry at h
  split at h
  · cases h
  · next before after hsplit =>
    obtain ⟨hlist, -⟩ := splitAtEquals_eq_some_iff.mp hsplit
    split at h
    · cases h
      exact ⟨String.ofList after, String.toList_injective (by simp [hlist])⟩
    · cases h

/-- **When an entry is refused.** -/
theorem readEntry_refuses_iff : (∃ fault, readEntry raw = .error fault) ↔
    '=' ∉ raw.toList ∨ ∃ before after, raw.toList = before ++ '=' :: after ∧ '=' ∉ before ∧
      ∀ c ∈ before, isBlank c = true := by
  unfold readEntry
  cases hsplit : splitAtEquals raw.toList with
  | none => exact iff_of_true ⟨_, rfl⟩ (.inl (splitAtEquals_eq_none_iff.mp hsplit))
  | some parts =>
    obtain ⟨before, after⟩ := parts
    obtain ⟨hlist, hplain⟩ := splitAtEquals_eq_some_iff.mp hsplit
    have hmem : '=' ∈ raw.toList := by simp [hlist]
    have hblank : hasText (String.ofList before) = false ↔ ∀ c ∈ before, isBlank c = true := by
      simp [hasText]
    cases htext : hasText (String.ofList before) with
    | false =>
      simp only [htext, Bool.false_eq_true, ↓reduceIte]
      exact iff_of_true ⟨_, rfl⟩ (.inr ⟨before, after, hlist, hplain, hblank.mp htext⟩)
    | true =>
      simp only [htext, ↓reduceIte]
      refine iff_of_false ?_ ?_
      · rintro ⟨fault, hfault⟩
        cases hfault
      · rintro (hnone | ⟨before', after', hlist', hplain', hblank'⟩)
        · exact hnone hmem
        -- there is only one first equals sign
        have hsame := splitAtEquals_append hplain' after'
        rw [← hlist', hsplit] at hsame
        cases hsame
        rw [hblank.mpr hblank'] at htext
        cases htext

/-! ## What is stored -/

theorem lastGiven?_append (k : String) (entries later : List (String × Value)) :
    lastGiven? k (entries ++ later) = (lastGiven? k later).or (lastGiven? k entries) := by
  rw [lastGiven?, List.reverse_append, Fields.get?_append]
  rfl

/-- Texts that do not begin with a key give nothing for it. -/
theorem lastGiven?_eq_none (h : texts.mapM readEntry = .ok entries)
    (hother : ∀ raw ∈ texts, ∀ s, raw ≠ k ++ "=" ++ s) : lastGiven? k entries = none := by
  have hread := mapM_eq_ok_iff.mp h
  clear h
  induction hread with
  | nil => rfl
  | @cons raw e texts entries he _ ih =>
    obtain ⟨hraw, hother⟩ := List.forall_mem_cons.mp hother
    rw [← List.singleton_append, lastGiven?_append, ih hother, Option.none_or]
    have hkey : e.1 ≠ k := by
      rintro rfl
      obtain ⟨s, hs⟩ := exists_append_of_readEntry he
      exact hraw s hs
    simp [lastGiven?, Fields.get?, hkey]

/-- **The last flag for a key decides** what is stored under it. -/
theorem lastGiven?_of_last {before after : List String} (hkey : hasText k = true)
    (hplain : '=' ∉ k.toList)
    (h : (before ++ (k ++ "=" ++ s) :: after).mapM readEntry = .ok entries)
    (hother : ∀ raw ∈ after, ∀ t, raw ≠ k ++ "=" ++ t) :
    lastGiven? k entries = some (valueOf s) := by
  rw [List.mapM_append] at h
  obtain ⟨earlier, -, h⟩ := bind_eq_ok_iff.mp h
  obtain ⟨entries', hrest, h⟩ := bind_eq_ok_iff.mp h
  cases h
  rw [List.mapM_cons, readEntry_append hkey hplain, ok_bind] at hrest
  obtain ⟨later, hlater, hrest⟩ := bind_eq_ok_iff.mp hrest
  cases hrest
  rw [lastGiven?_append, ← List.singleton_append, lastGiven?_append,
    lastGiven?_eq_none hlater hother, Option.none_or]
  simp [lastGiven?, Fields.get?]

end Entries

/-! ## What is compared -/

/-- A condition that compares metadata holds if what is there is shown as its value. -/
theorem evaluate_metadataEquals {k s : String} {v : Value} {ctx : Context} {c : Condition}
    (hkey : hasText k = true) (hs : hasText s = true) (hfound : ctx.metadataValue k = some v)
    (hshown : v.text? = some s) (hkind : c.kind = "metadata_equals") (hckey : c.key = some k)
    (hvalue : c.value = some s) (config : Config) :
    ((Registry.build [] config).result.evaluate ctx (.condition c)).result = true := by
  have hkindText : hasText c.kind = true := hkind ▸ Holder.metadata.hasText_kind
  have hget : (Registry.build [] config).result.get? c.kind =
      some ⟨"metadata_equals", fun c ctx => .decided (c.metadataEquals ctx)⟩ := by
    rw [Registry.get?_build, hkind]
    rfl
  have hwhen : whenText c.key = some k := whenText_eq_some_iff.mpr ⟨hckey, hkey⟩
  rw [Registry.evaluate, Expression.evaluate, Registry.decide_of_registered ctx hkindText hget]
  show c.metadataEquals ctx = true
  simp only [Condition.metadataEquals, hwhen]
  refine isShownAs_eq_true_iff.mpr ⟨s, whenText_eq_some_iff.mpr ⟨hvalue, hs⟩, ?_⟩
  rw [hfound]
  exact hshown

/-- **Flags and conditions.**  Take a key that is not blank and has no equals sign in it.  The key,
an equals sign and the compact text of a value are read as the key and the value, if no number in
the value is a double and no more than 127 arrays and objects lie within each other; with a text
that stands for itself they are read as the key and the text.  An entry is refused exactly if it has
no equals sign, or nothing but white space before the first one.

So suppose that arguments are accepted and that the last metadata flag for the key gives `s`, which
is not blank and stands for itself or is the compact text of such a value, neither `null` nor a
text.  Then every condition that compares the metadata under the key with `s` holds. -/
theorem metadata_flag_holds {k : String} (hkey : hasText k = true) (hplain : '=' ∉ k.toList) :
    (∀ v : Value, v.Ordered → v.isFloatFree = true → v.depth ≤ 127 →
      readEntry (k ++ "=" ++ v.compact) = .ok (k, v)) ∧
    (∀ s, StandsForItself s → readEntry (k ++ "=" ++ s) = .ok (k, .string s)) ∧
    (∀ raw, (∃ fault, readEntry raw = .error fault) ↔
      '=' ∉ raw.toList ∨ ∃ before after, raw.toList = before ++ '=' :: after ∧ '=' ∉ before ∧
        ∀ c ∈ before, isBlank c = true) ∧
    (∀ arguments r before s after, Request.ofArguments arguments = .ok r →
      textsGiven "metadata" false arguments = before ++ (k ++ "=" ++ s) :: after →
      (∀ raw ∈ after, ∀ t, raw ≠ k ++ "=" ++ t) → hasText s = true →
      (StandsForItself s ∨ ∃ v : Value, v.Ordered ∧ v.isFloatFree = true ∧ v.depth ≤ 127 ∧
        v ≠ .null ∧ v.isText = false ∧ s = v.compact) →
      ∀ (config : Config) (c : Condition), c.kind = "metadata_equals" → c.key = some k →
        c.value = some s →
        ((Registry.build [] config).result.evaluate r.context (.condition c)).result = true) := by
  refine ⟨fun v horder hfloat hdepth => ?_, fun s hs => ?_, fun raw => readEntry_refuses_iff, ?_⟩
  · rw [readEntry_append hkey hplain, valueOf_compact horder hfloat hdepth]
  · rw [readEntry_append hkey hplain, hs.valueOf_eq]
  · intro arguments r before s after haccepted hgiven hlast hs hform config c hkind hckey hvalue
    have hname : longNames.lookup "metadata" = some (.opt .metadata) := by decide
    have hread := Request.mapM_textsGiven hname (.inl rfl) haccepted
    rw [hgiven] at hread
    have hfound : r.context.metadataValue k = some (valueOf s) :=
      (r.describes_context.metadata k).trans (lastGiven?_of_last hkey hplain hread hlast)
    have hshown : (valueOf s).text? = some s := by
      rcases hform with hself | ⟨v, horder, hfloat, hdepth, hnull, htext, rfl⟩
      · rw [hself.valueOf_eq]
        rfl
      · rw [valueOf_compact horder hfloat hdepth, Value.text?_of_isText_eq_false hnull htext]
    exact evaluate_metadataEquals hkey hs hfound hshown hkind hckey hvalue config

namespace Flagged

/-- The key is given twice, at first as the next argument and then attached. -/
def arguments : List String := ["--metadata", "seen=de", "--metadata=seen=[1,true]", "--json", "hi"]

def request : Request where
  input := "hi"
  metadata := [("seen", .string "de"), ("seen", Holder.pair)]
  json := true

def condition : Condition :=
  { kind := "metadata_equals", key := some "seen", value := some "[1,true]" }

theorem compact_pair : Holder.pair.compact = "[1,true]" := by decide +kernel

theorem standsForItself_de : StandsForItself "de" := .inr ⟨_, by cbv⟩

end Flagged

open Flagged in
/-- The list is stored as a list, and the condition asks for its text. -/
theorem metadata_flag_holds_flagged :
    readEntry "seen=de" = .ok ("seen", .string "de") ∧
    readEntry "seen=[1,true]" = .ok ("seen", Holder.pair) ∧
    Request.ofArguments arguments = .ok request ∧
    textsGiven "metadata" false arguments = ["seen=de", "seen=[1,true]"] ∧
    ((Registry.build [] {}).result.evaluate request.context (.condition condition)).result =
      true := by
  have hkey : hasText "seen" = true := by decide +kernel
  have hplain : '=' ∉ "seen".toList := by decide
  have haccepted : Request.ofArguments arguments = .ok request := by cbv
  have hgiven : textsGiven "metadata" false arguments = ["seen=de", "seen=[1,true]"] := by
    decide +kernel
  obtain ⟨hvalue, htext, -, hholds⟩ := metadata_flag_holds hkey hplain
  refine ⟨htext "de" standsForItself_de, ?_, haccepted, hgiven, ?_⟩
  · have hpair := hvalue Holder.pair rfl rfl (by decide)
    rwa [compact_pair] at hpair
  · have hnull : Holder.pair ≠ .null := by
      intro heq
      cases heq
    have hform : StandsForItself "[1,true]" ∨ ∃ v : Value, v.Ordered ∧ v.isFloatFree = true ∧
        v.depth ≤ 127 ∧ v ≠ .null ∧ v.isText = false ∧ "[1,true]" = v.compact :=
      .inr ⟨Holder.pair, rfl, rfl, by decide, hnull, rfl, compact_pair.symm⟩
    exact hholds arguments request ["seen=de"] "[1,true]" [] haccepted hgiven
      (List.forall_mem_nil _) (by decide +kernel) hform {} condition rfl rfl rfl

end IntentSelect.CommandLine
